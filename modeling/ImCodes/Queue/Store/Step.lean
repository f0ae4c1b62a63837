import ImCodes.Library.Run
import ImCodes.Queue.Store.Ownership

/-!
# The durable queue as a machine

Every method that can write, as one action of a machine. `step` is the method with
its errors; `next` is the state after it, a failed method leaving no trace.
-/

set_option autoImplicit false

namespace ImCodes.Queue

open Library

/-- One call. `dropUnrestorableSession` and `reinitializeAfterCorruption` are calls
of `dropAll` and `reset`. -/
inductive Operation where
  | enqueue (clock : Int) (input : EnqueueTransportQueueEntryInput)
  | enqueueWithCapacityEviction (clock : Int) (input : EnqueueTransportQueueEntryInput)
      (evictClientMessageId : Option String)
  | retry (clock : Int) (sessionName failedClientMessageId : String)
      (input : EnqueueTransportQueueEntryInput)
  | expireStaleDelegationEntries (now thresholdMs : Int)
  | attachSupervisionReference (sessionName clientMessageId : String)
      (reference : QueueSupervisionReference) (now : Int)
  | edit (sessionName clientMessageId text : String) (now : Int)
      (replacement : Option EditReplacement)
  | markHandoffInFlight (sessionName : String) (clientMessageIds : List String) (leaseMs now : Int)
      (recipient : Option QueueRecipientIdentity)
  | releaseHandoff (sessionName handoffId : String) (clientMessageIds : List String) (now : Int)
  | restoreExpiredHandoffs (sessionName : String) (now : Int) (includeUnexpired : Bool)
  | markAppendFallback (sessionName clientMessageId : String)
      (reason : TransportAppendFallbackReason) (recipient : Option QueueRecipientIdentity)
  | scrubPeerAuditOrphans (sessionName : String)
  | markMissingPrivateMaterialFailed (sessionName clientMessageId : String) (now : Int)
  | markDeleted (sessionName clientMessageId : String) (now : Int)
  | markFailed (sessionName clientMessageId : String) (failureReason : QueueFailureReason)
      (now : Int)
  | dismissFailed (sessionName clientMessageId : String) (now : Int)
  | cleanup (sessionName : String)
  | finalizeSent (sessionName clientMessageId deliveryFrameId : String) (now : Int)
      (conversationKey : Option String)
  | finalizeSentBatch (sessionName : String) (clientMessageIds : List String)
      (deliveryFrameId : String) (now : Int) (recipient : Option QueueRecipientIdentity)
      (conversationKey : Option String)
  | recordDeliveryTombstone (sessionName clientMessageId deliveryFrameId : String) (now : Int)
      (recipient : Option QueueRecipientIdentity) (conversationKey : Option String)
  | recordDirectDelivery (sessionName clientMessageId deliveryFrameId : String) (now : Int)
      (recipient : Option QueueRecipientIdentity) (conversationKey : Option String)
  | reconcileDeliveredQueueRows (sessionName : String)
  | clearDeliveryTombstone (sessionName clientMessageId : String)
  | drop (sessionName clientMessageId : String) (dropReason : QueueDropReason)
      (recipient : Option QueueRecipientIdentity)
  | dropAll (sessionName : String) (dropReason : QueueDropReason)
  | reset (sessionName : String) (resetReason : QueueResetReason)
      (activityGeneration : Option String)
  | discardSessionQueueState (sessionName : String) (recipient : Option QueueRecipientIdentity)
  | cancelQueuedMessage (sessionName clientMessageId : String)
      (recipient : Option QueueRecipientIdentity) (now : Int)
  | adoptLegacyRecipientIdentity (sessionName : String) (recipient : QueueRecipientIdentity)
      (sessionCreatedAt : JsNumber) (limit : Option Int)
  | bindFreshLaunchRecipient (sessionName : String) (recipient : QueueRecipientIdentity)
      (expectedClientMessageIds : List String)
  | rebindRecipientRuntimeEpoch (sessionName : String) (previous next : QueueRecipientIdentity)
  | readSnapshot (sessionName source : String)
  | readSnapshotForRecipient (sessionName : String) (recipient : Option QueueRecipientIdentity)
      (source : String)

/-- A short text for the session `deck`, as the runs on fixed inputs enqueue it. -/
def plainMessage (recipient : Option QueueRecipientIdentity) (clientMessageId : String)
    (now : Int) : EnqueueTransportQueueEntryInput where
  sessionName := "deck"
  recipient
  text := "hello"
  clientMessageId := some clientMessageId
  commandId := none
  placement := none
  now := some now
  activityGeneration := none
  replacesClientMessageId := none
  privateMaterialJson := none
  supervisionReference := none

namespace TransportQueueStore

section Host

variable [Host]

/-- The store after a call and the snapshots it returns, in order. -/
def step (store : TransportQueueStore) :
    Operation → Except QueueStoreError (TransportQueueStore × List QueueSnapshot)
  | .enqueue clock input => do
    let result ← store.enqueue clock input
    pure (result.1, [result.2])
  | .enqueueWithCapacityEviction clock input evicted => do
    let result ← store.enqueueWithCapacityEviction clock input evicted
    pure (result.1, result.2.queueSnapshot :: result.2.dropSnapshot.toList)
  | .retry clock sessionName failed input => do
    let result ← store.retry clock sessionName failed input
    pure (result.1, [result.2])
  | .expireStaleDelegationEntries now thresholdMs =>
    pure ((store.expireStaleDelegationEntries now thresholdMs).1, [])
  | .attachSupervisionReference sessionName clientMessageId reference now => do
    let result ← store.attachSupervisionReference sessionName clientMessageId reference now
    pure (result.1, [])
  | .edit sessionName clientMessageId text now replacement => do
    let result ← store.edit sessionName clientMessageId text now replacement
    pure (result.1, [result.2])
  | .markHandoffInFlight sessionName clientMessageIds leaseMs now recipient => do
    let result ← store.markHandoffInFlight sessionName clientMessageIds leaseMs now recipient
    pure (result.1, [])
  | .releaseHandoff sessionName handoffId clientMessageIds now => do
    let result ← store.releaseHandoff sessionName handoffId clientMessageIds now
    pure (result.1, [result.2])
  | .restoreExpiredHandoffs sessionName now includeUnexpired => do
    let result ← store.restoreExpiredHandoffs sessionName now includeUnexpired
    pure (result.1, [result.2])
  | .markAppendFallback sessionName clientMessageId reason recipient => do
    pure (← store.markAppendFallback sessionName clientMessageId reason recipient, [])
  | .scrubPeerAuditOrphans sessionName => do
    let result ← store.scrubPeerAuditOrphans sessionName
    pure (result.1, [])
  | .markMissingPrivateMaterialFailed sessionName clientMessageId now => do
    let result ← store.markMissingPrivateMaterialFailed sessionName clientMessageId now
    pure (result.1, [result.2])
  | .markDeleted sessionName clientMessageId now => do
    let result ← store.markDeleted sessionName clientMessageId now
    pure (result.1, [result.2])
  | .markFailed sessionName clientMessageId failureReason now => do
    let result ← store.markFailed sessionName clientMessageId failureReason now
    pure (result.1, [result.2])
  | .dismissFailed sessionName clientMessageId now => do
    let result ← store.dismissFailed sessionName clientMessageId now
    pure (result.1, [result.2])
  | .cleanup sessionName => do
    let result ← store.cleanup sessionName
    pure (result.1, [result.2])
  | .finalizeSent sessionName clientMessageId deliveryFrameId now conversationKey => do
    let result ← store.finalizeSent sessionName clientMessageId deliveryFrameId now
      conversationKey
    pure (result.1, [result.2])
  | .finalizeSentBatch sessionName clientMessageIds deliveryFrameId now recipient
      conversationKey => do
      let result ← store.finalizeSentBatch sessionName clientMessageIds deliveryFrameId now
        recipient conversationKey
      pure (result.1, [result.2.snapshot])
  | .recordDeliveryTombstone sessionName clientMessageId deliveryFrameId now recipient
      conversationKey => do
      let result ← store.recordDeliveryTombstone sessionName clientMessageId deliveryFrameId now
        recipient conversationKey
      pure (result.1, [])
  | .recordDirectDelivery sessionName clientMessageId deliveryFrameId now recipient
      conversationKey => do
      let result ← store.recordDirectDelivery sessionName clientMessageId deliveryFrameId now
        recipient conversationKey
      pure (result.1, [])
  | .reconcileDeliveredQueueRows sessionName => do
    let result ← store.reconcileDeliveredQueueRows sessionName
    pure (result.1, [])
  | .clearDeliveryTombstone sessionName clientMessageId => do
    let result ← store.clearDeliveryTombstone sessionName clientMessageId
    pure (result.1, [])
  | .drop sessionName clientMessageId dropReason recipient => do
    let result ← store.drop sessionName clientMessageId dropReason recipient
    pure (result.1, [result.2])
  | .dropAll sessionName dropReason => do
    let result ← store.dropAll sessionName dropReason
    pure (result.1, [result.2])
  | .reset sessionName resetReason activityGeneration => do
    let result ← store.reset sessionName resetReason activityGeneration
    pure (result.1, [result.2])
  | .discardSessionQueueState sessionName recipient => do
    let result ← store.discardSessionQueueState sessionName recipient
    pure (result.1, [])
  | .cancelQueuedMessage sessionName clientMessageId recipient now => do
    let result ← store.cancelQueuedMessage sessionName clientMessageId recipient now
    pure (result.1, [result.2.2])
  | .adoptLegacyRecipientIdentity sessionName recipient sessionCreatedAt limit => do
    let result ← store.adoptLegacyRecipientIdentity sessionName recipient sessionCreatedAt limit
    pure (result.1, [])
  | .bindFreshLaunchRecipient sessionName recipient expectedClientMessageIds => do
    let result ← store.bindFreshLaunchRecipient sessionName recipient expectedClientMessageIds
    pure (result.1, [])
  | .rebindRecipientRuntimeEpoch sessionName previous next => do
    let result ← store.rebindRecipientRuntimeEpoch sessionName previous next
    pure (result.1, [])
  | .readSnapshot sessionName source => do
    let result ← store.readSnapshot sessionName source
    pure (result.1, [result.2])
  | .readSnapshotForRecipient sessionName recipient source => do
    let result ← store.readSnapshotForRecipient sessionName recipient source
    pure (result.1, [result.2])

/-- A call that throws has rolled its transaction back. -/
def next (store : TransportQueueStore) (operation : Operation) : TransportQueueStore :=
  match store.step operation with
  | .ok result => result.1
  | .error _ => store

/-- The snapshots a call returns. -/
def returned (store : TransportQueueStore) (operation : Operation) : List QueueSnapshot :=
  match store.step operation with
  | .ok result => result.2
  | .error _ => []

theorem returned_of_ok {store : TransportQueueStore} {operation : Operation}
    {result : TransportQueueStore × List QueueSnapshot} (done : store.step operation = .ok result) :
    store.returned operation = result.2 := by
  rw [returned, done]

theorem next_of_ok {store : TransportQueueStore} {operation : Operation}
    {result : TransportQueueStore × List QueueSnapshot} (done : store.step operation = .ok result) :
    store.next operation = result.1 := by
  rw [next, done]

def Reachable (store : TransportQueueStore) : Prop :=
  Library.Reachable next empty store

end Host

end TransportQueueStore

end ImCodes.Queue
