import ImCodes.Queue.Resend.Queue

/-!
# Draining the resend queue

`drainResend` leases the fresh entries, takes the list out of the map and dispatches
entry by entry. It is suspended while a dispatch is awaited; what happens meanwhile and
what the dispatch answers is given for each call.
-/

set_option autoImplicit false

namespace ImCodes.Queue

open Library

inductive DispatchOutcome where
  | sent
  | queued
  | appended
  | retry
  | stale
  | threw
deriving DecidableEq, Repr

/-- One awaited dispatch: the clear that runs meanwhile, and what it resumes with. -/
structure Await where
  clear : Option ClearReason
  outcome : DispatchOutcome
  clock : Int
  deliveryFrameId : String
  conversationKey : Option String

inductive DrainEvent where
  | dispatched (call : Nat) (entry : ResendEntry)
  | cleared (call : Nat)
deriving DecidableEq

structure DrainProgress where
  state : ResendState
  handoffs : List (String × String)
  retryEntries : List ResendEntry
  dispatched : Nat
  expiredCount : Nat
  failedCount : Nat
  /-- How many dispatches have been called. -/
  calls : Nat
  /-- Dispatches and clears in the order in which they happened. -/
  events : List DrainEvent

/-- Why a drain has not begun, or the leases it begins with. -/
inductive DrainStart where
  | missingId
  | failed (error : QueueStoreError)
  | incomplete
  | leased (handoffs : List (String × String))
deriving DecidableEq

namespace ResendState

def freshEntries (state : ResendState) (sessionName : String) (now : Int) : List ResendEntry :=
  (state.queues sessionName).filter fun entry => !entry.isExpired now

def freshClientMessageIds (state : ResendState) (sessionName : String) (now : Int) :
    List String :=
  (state.freshEntries sessionName now).filterMap fun entry => truthy entry.clientMessageId

section Host

variable [Host]

def startDrain (state : ResendState) (sessionName : String) (now : Int)
    (recipient : Option QueueRecipientIdentity) : ResendState × DrainStart :=
  let freshEntries := state.freshEntries sessionName now
  let freshClientMessageIds := state.freshClientMessageIds sessionName now
  if freshClientMessageIds.length ≠ freshEntries.length then (state, .missingId)
  else match state.store.markHandoffInFlight sessionName freshClientMessageIds resendExpiryMs now
      recipient with
    | .error error => (state, .failed error)
    | .ok result =>
      let marked := { state with store := result.1 }
      if result.2.length ≠ freshEntries.length then (marked, .incomplete)
      else (marked,
        .leased (result.2.map fun item => (item.entry.clientMessageId, item.handoffId)))

end Host

end ResendState

namespace DrainProgress

section Host

variable [Host]

/-- A failing store call is logged and skipped. -/
def tryStore {Answer : Type} (progress : DrainProgress)
    (call : TransportQueueStore → Except QueueStoreError (TransportQueueStore × Answer)) :
    DrainProgress × Option Answer :=
  let tried := progress.state.tryStore call
  ({ progress with state := tried.1 }, tried.2)

def forgetHandoff (progress : DrainProgress) (clientMessageId : String) : DrainProgress :=
  { progress with handoffs := progress.handoffs.filter fun held => held.1 ≠ clientMessageId }

/-- The `catch` of one entry: it is dropped to avoid loops. -/
def failDispatch (progress : DrainProgress) (sessionName clientMessageId : String) (now : Int) :
    DrainProgress :=
  let marked := { progress with failedCount := progress.failedCount + 1 }.tryStore fun store =>
    store.markFailed sessionName clientMessageId .dispatchFailed now
  if marked.2.isSome then marked.1.forgetHandoff clientMessageId else marked.1

def expireEntry (progress : DrainProgress) (sessionName : String) (now : Int)
    (entry : ResendEntry) : DrainProgress :=
  match truthy entry.clientMessageId with
  | none => progress
  | some clientMessageId =>
    ({ progress with expiredCount := progress.expiredCount + 1 }.tryStore fun store =>
      store.markFailed sessionName clientMessageId .expired now).1

/-- The dispatch is called, and the drain suspended until it answers. -/
def awaitDispatch (progress : DrainProgress) (sessionName : String) (entry : ResendEntry)
    (await : Await) : DrainProgress :=
  let called := { progress with
    calls := progress.calls + 1
    events := progress.events ++ [.dispatched progress.calls entry] }
  match await.clear with
  | none => called
  | some reason =>
    { called with
      state := (called.state.clearResend sessionName reason).1
      events := called.events ++ [.cleared progress.calls] }

/-- What the drain does with an answer. -/
def resume (progress : DrainProgress) (sessionName clientMessageId handoffId : String) (now : Int)
    (recipient : Option QueueRecipientIdentity) (entry : ResendEntry) (await : Await) :
    DrainProgress :=
  match await.outcome with
  | .threw => progress.failDispatch sessionName clientMessageId now
  | .retry =>
    let released := progress.tryStore fun store =>
      store.releaseHandoff sessionName handoffId [clientMessageId] await.clock
    if released.2.isSome then
      { released.1.forgetHandoff clientMessageId with
        retryEntries := progress.retryEntries ++ [entry] }
    else progress.failDispatch sessionName clientMessageId now
  | .stale =>
    -- Stale lifecycle authority is not delivery: no delivery record is left.
    let dropped := progress.tryStore fun store =>
      store.drop sessionName clientMessageId .userCleared recipient
    if dropped.2.isSome then dropped.1.forgetHandoff clientMessageId
    else progress.failDispatch sessionName clientMessageId now
  | .queued | .appended =>
    { progress.forgetHandoff clientMessageId with dispatched := progress.dispatched + 1 }
  | .sent =>
    let finalized := progress.tryStore fun store =>
      store.finalizeSentBatch sessionName [clientMessageId] await.deliveryFrameId await.clock
        recipient await.conversationKey
    { finalized.1.forgetHandoff clientMessageId with dispatched := progress.dispatched + 1 }

def drainEntry (sessionName : String) (now : Int) (recipient : Option QueueRecipientIdentity)
    (awaits : Nat → Await) (progress : DrainProgress) (entry : ResendEntry) : DrainProgress :=
  if entry.isExpired now then progress.expireEntry sessionName now entry
  else match truthy entry.clientMessageId with
    | none => { progress with failedCount := progress.failedCount + 1 }
    | some clientMessageId =>
      match progress.handoffs.find? fun held => held.1 = clientMessageId with
      | none => { progress with failedCount := progress.failedCount + 1 }
      | some (_, handoffId) =>
        (progress.awaitDispatch sessionName entry (awaits progress.calls)).resume sessionName
          clientMessageId handoffId now recipient entry (awaits progress.calls)

/-- The entries to retry go in front of what came in meanwhile. -/
def restoreRetries (progress : DrainProgress) (sessionName : String) : DrainProgress :=
  if progress.retryEntries = [] then progress
  else
    let retriedIds := progress.retryEntries.map (·.clientMessageId)
    let concurrent := progress.state.queues sessionName
    let restored := progress.state.setQueue sessionName
      (progress.retryEntries ++
        concurrent.filter fun entry => !retriedIds.contains entry.clientMessageId)
    { progress with state := (restored.bumpTransportQueueRevision sessionName).1 }

end Host

end DrainProgress

namespace ResendState

variable [Host]

/-- The drain as it stands before the first entry of a leased list. -/
def beginDrain (state : ResendState) (sessionName : String)
    (handoffs : List (String × String)) : DrainProgress where
  state := ((state.setQueue sessionName []).bumpTransportQueueRevision sessionName).1
  handoffs
  retryEntries := []
  dispatched := 0
  expiredCount := 0
  failedCount := 0
  calls := 0
  events := []

/-- The number of entries dispatched is the answer; the expired and the failed are
reported to the callbacks. -/
def drainResend (state : ResendState) (sessionName : String) (now : Int)
    (recipient : Option QueueRecipientIdentity) (awaits : Nat → Await) : DrainProgress :=
  let idle : DrainProgress := ⟨state, [], [], 0, 0, 0, 0, []⟩
  let list := state.queues sessionName
  if list = [] then idle
  else
    let started := state.startDrain sessionName now recipient
    match started.2 with
    | .leased handoffs =>
      (list.foldl (DrainProgress.drainEntry sessionName now recipient awaits)
        (started.1.beginDrain sessionName handoffs)).restoreRetries sessionName
    | _ => { idle with state := started.1 }

end ResendState

end ImCodes.Queue
