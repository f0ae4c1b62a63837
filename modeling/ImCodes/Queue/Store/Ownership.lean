import ImCodes.Queue.Store.Delivery

/-!
# Ownership of the durable queue

Cancelling a message, and the ways a queue changes hands: the adoption of rows
written before an identity was known, the binding of messages queued during a
launch, and the move to another runtime epoch of the same session instance.
-/

set_option autoImplicit false

namespace ImCodes.Queue

open Library

inductive CancelQueuedMessageStatus where
  | accepted
  | identityMismatch
deriving DecidableEq, Repr

inductive AdoptLegacyRecipientStatus where
  | pending
  | adopted
  | alreadyBound
  | identityConflict
deriving DecidableEq, Repr

structure AdoptLegacyRecipientResult where
  status : AdoptLegacyRecipientStatus
  migrated : Nat
  purged : Nat
deriving DecidableEq, Repr

def RecipientColumns.identity? (columns : RecipientColumns) : Option QueueRecipientIdentity :=
  normalizeQueueRecipient (some ⟨columns.sessionInstanceId.getD "", columns.runtimeEpoch.getD ""⟩)

def RecipientColumns.rotated (columns : RecipientColumns) (recipient : QueueRecipientIdentity) :
    Bool :=
  columns.sessionInstanceId = some recipient.sessionInstanceId &&
    columns.runtimeEpoch ≠ some recipient.runtimeEpoch

def RecipientColumns.recoverable (columns : RecipientColumns)
    (recipient : QueueRecipientIdentity) : Bool :=
  columns = .legacy || columns.rotated recipient

/-- A partial identity, another instance, or a legacy row as old as the session. -/
def conflictsWithAdoption (session : String) (recipient : QueueRecipientIdentity)
    (sessionCreatedAt : Int) (row : QueueMessageRow) : Bool :=
  row.sessionName = session &&
    (row.recipient.sessionInstanceId.isNone ≠ row.recipient.runtimeEpoch.isNone ||
      (row.recipient.sessionInstanceId.isSome &&
        row.recipient.sessionInstanceId ≠ some recipient.sessionInstanceId) ||
      (row.recipient = .legacy && row.timestamp = sessionCreatedAt))

def conflictsWithRebinding (session : String) (previous next : QueueRecipientIdentity)
    (row : QueueMessageRow) : Bool :=
  row.sessionName = session &&
    (row.recipient.sessionInstanceId ≠ some next.sessionInstanceId ||
      (row.recipient.runtimeEpoch ≠ some previous.runtimeEpoch &&
        row.recipient.runtimeEpoch ≠ some next.runtimeEpoch))

namespace TransportQueueStore

/-- The rows of the four message tables. -/
def messageRows (store : TransportQueueStore) : List QueueMessageRow :=
  store.queueEntries.rows.map asMessageRow ++ store.queuePrivateMaterial.rows.map asMessageRow ++
    store.queueDeliveryTombstones.rows.map asMessageRow ++
    store.queueCancellationTombstones.rows.map asMessageRow

/-- One `DELETE`, run on each of the four tables. -/
def deleteMessageRows (store : TransportQueueStore) (p : QueueMessageRow → Bool) :
    TransportQueueStore :=
  { store with
    queueEntries := store.queueEntries.deleteWhere fun row => p (asMessageRow row)
    queuePrivateMaterial := store.queuePrivateMaterial.deleteWhere fun row => p (asMessageRow row)
    queueDeliveryTombstones :=
      store.queueDeliveryTombstones.deleteWhere fun row => p (asMessageRow row)
    queueCancellationTombstones :=
      store.queueCancellationTombstones.deleteWhere fun row => p (asMessageRow row) }

/-- One `UPDATE` of the recipient columns, run on each of the four tables. -/
def restampMessageRows (store : TransportQueueStore) (p : QueueMessageRow → Bool)
    (recipient : RecipientColumns) : TransportQueueStore :=
  { store with
    queueEntries := store.queueEntries.updateWhere (fun row => p (asMessageRow row))
      (fun row => { row with recipient }) fun _ => rfl
    queuePrivateMaterial := store.queuePrivateMaterial.updateWhere
      (fun row => p (asMessageRow row)) (fun row => { row with recipient }) fun _ => rfl
    queueDeliveryTombstones := store.queueDeliveryTombstones.updateWhere
      (fun row => p (asMessageRow row)) (fun row => { row with recipient }) fun _ => rfl
    queueCancellationTombstones := store.queueCancellationTombstones.updateWhere
      (fun row => p (asMessageRow row)) (fun row => { row with recipient }) fun _ => rfl }

section Host

variable [Host]

/-! ## Cancelling a message -/

/-- The preflight of a cancellation: an existing queue must name the caller, or be
an empty shell that names nobody. -/
def mayCancel (store : TransportQueueStore) (session : String)
    (caller : Option QueueRecipientIdentity) : Bool :=
  match store.queueMeta.lookup session with
  | none => true
  | some held =>
    recipientPredicate caller held.recipient ||
      (caller.isSome && held.recipient = .legacy &&
        !store.messageRows.any fun row => row.sessionName = session)

/-- Another recipient holds a row of the message. Delivery records are not asked. -/
def holdsForeignMessage (store : TransportQueueStore) (session clientMessageId : String)
    (caller : Option QueueRecipientIdentity) : Bool :=
  store.queueEntries.holds (fun row =>
      isMessage session clientMessageId row && !recipientPredicate caller row.recipient) ||
    store.queuePrivateMaterial.holds (fun row =>
      isMessage session clientMessageId row && !recipientPredicate caller row.recipient) ||
    store.queueCancellationTombstones.holds fun row =>
      isMessage session clientMessageId row && !recipientPredicate caller row.recipient

def cancelMessage (store : TransportQueueStore) (session clientMessageId : String)
    (caller : Option QueueRecipientIdentity) (now : Int) : TransportQueueStore :=
  let deleted := store.deleteMessage session clientMessageId (recipientPredicate caller)
  { deleted with
    queueCancellationTombstones := deleted.queueCancellationTombstones.upsert {
      sessionName := session
      clientMessageId
      createdAt := now
      recipient := callerColumns caller } }

def cancelQueuedMessage (store : TransportQueueStore)
    (sessionNameInput clientMessageIdInput : String) (recipient : Option QueueRecipientIdentity)
    (now : Int) : Except QueueStoreError
      (TransportQueueStore × CancelQueuedMessageStatus × QueueSnapshot) := do
  let session ← normalizeSessionName sessionNameInput
  let clientMessageId ← requireNonEmpty (trim clientMessageIdInput) "clientMessageId"
  let caller := normalizeQueueRecipient recipient
  let pruned := store.pruneCancellations now
  if pruned.mayCancel session caller then
    let opened := (pruned.ensureMeta session caller).1
    if opened.holdsForeignMessage session clientMessageId caller then
      let read := opened.snapshotAfter session "cancel_identity_mismatch" none
      pure (read.1, .identityMismatch, read.2)
    else
      let bumped := (opened.cancelMessage session clientMessageId caller now).bumpVersion session
      let read := bumped.1.snapshotAfter session "cancel"
        (some (bumped.2.dropVersion .userCleared))
      pure (read.1, .accepted, read.2)
  else
    let read := pruned.snapshotAfter session "cancel_identity_mismatch" none
    pure (read.1, .identityMismatch, read.2)

end Host

/-! ## Changing hands -/

/-- `GROUP BY client_message_id ORDER BY client_message_id LIMIT ?`, with the age of
the oldest recoverable row of each message. -/
def recoverableMessages (store : TransportQueueStore) (session : String)
    (recipient : QueueRecipientIdentity) (limit : Nat) : List (String × Option Int) :=
  let rows := store.messageRows.filter fun row =>
    row.sessionName = session && row.recipient.recoverable recipient
  let clientMessageIds := (firstOccurrences (rows.map (·.clientMessageId))).insertionSort
    fun a b => ¬ b < a
  (clientMessageIds.take limit).map fun clientMessageId =>
    (clientMessageId,
      ((rows.filter fun row => row.clientMessageId = clientMessageId).map (·.timestamp)).min?)

def isLegacyMessageRow (session clientMessageId : String) (row : QueueMessageRow) : Bool :=
  row.sessionName = session && row.clientMessageId = clientMessageId && row.recipient = .legacy

def isRotatedMessageRow (session clientMessageId : String) (recipient : QueueRecipientIdentity)
    (row : QueueMessageRow) : Bool :=
  row.sessionName = session && row.clientMessageId = clientMessageId &&
    row.recipient.rotated recipient

/-- How many rows adoption has migrated and purged so far. -/
structure AdoptionProgress where
  migrated : Nat
  purged : Nat
deriving DecidableEq, Repr

/-- Every row of one message: a legacy one is purged or adopted as a whole, one of
another generation moves to the caller's. -/
def adoptMessage (store : TransportQueueStore) (progress : AdoptionProgress) (session : String)
    (recipient : QueueRecipientIdentity) (sessionCreatedAt : Int)
    (message : String × Option Int) : TransportQueueStore × AdoptionProgress :=
  let stale := message.2.any fun oldestAt => oldestAt < sessionCreatedAt
  let isLegacy := isLegacyMessageRow session message.1
  let isRotated := isRotatedMessageRow session message.1 recipient
  let settled :=
    if stale then store.deleteMessageRows isLegacy
    else store.restampMessageRows isLegacy recipient.columns
  let legacyRows := store.messageRows.countP isLegacy
  let rotatedRows := settled.messageRows.countP isRotated
  (settled.restampMessageRows isRotated recipient.columns,
    if stale then ⟨progress.migrated + rotatedRows, progress.purged + legacyRows⟩
    else ⟨progress.migrated + legacyRows + rotatedRows, progress.purged⟩)

def adoptMessages (store : TransportQueueStore) (session : String)
    (recipient : QueueRecipientIdentity) (sessionCreatedAt : Int)
    (messages : List (String × Option Int)) : TransportQueueStore × AdoptionProgress :=
  messages.foldl
    (fun state message => state.1.adoptMessage state.2 session recipient sessionCreatedAt message)
    (store, ⟨0, 0⟩)

/-- Legacy, the caller's own, or another generation of the caller's instance. -/
def isAdoptableMeta (recipient : QueueRecipientIdentity) (columns : RecipientColumns) : Bool :=
  columns = .legacy ||
    (columns.sessionInstanceId = some recipient.sessionInstanceId &&
      (columns.runtimeEpoch = some recipient.runtimeEpoch ||
        (truthy columns.runtimeEpoch).isSome))

/-- The metadata follows once no row is left to adopt. -/
def finishAdoption (store : TransportQueueStore) (session : String)
    (recipient : QueueRecipientIdentity) (held : QueueMetaRow) (progress : AdoptionProgress) :
    TransportQueueStore × AdoptLegacyRecipientResult :=
  let versioned := if progress.purged > 0 then store.incrementVersion session else store
  if store.messageRows.any fun row =>
      row.sessionName = session && row.recipient.recoverable recipient then
    (versioned, ⟨.pending, progress.migrated, progress.purged⟩)
  else if held.recipient = recipient.columns then
    (versioned,
      ⟨if progress.migrated > 0 ∨ progress.purged > 0 then .adopted else .alreadyBound,
        progress.migrated, progress.purged⟩)
  else
    (versioned.setMetaRecipient session recipient.columns,
      ⟨.adopted, progress.migrated, progress.purged⟩)

def adoptLegacyRecipientIdentity (store : TransportQueueStore) (sessionNameInput : String)
    (recipientInput : QueueRecipientIdentity) (sessionCreatedAt : JsNumber) (limit : Option Int) :
    Except QueueStoreError (TransportQueueStore × AdoptLegacyRecipientResult) := do
  let session ← normalizeSessionName sessionNameInput
  match normalizeQueueRecipient (some recipientInput), sessionCreatedAt with
  | some recipient, .finite createdAt =>
    if createdAt < 0 then pure (store, ⟨.identityConflict, 0, 0⟩)
    else match store.queueMeta.lookup session with
      | none => pure (store, ⟨.alreadyBound, 0, 0⟩)
      | some held =>
        if !isAdoptableMeta recipient held.recipient ||
            store.messageRows.any (conflictsWithAdoption session recipient createdAt) then
          pure (store, ⟨.identityConflict, 0, 0⟩)
        else
          let bounded := (max 1 (min 100 (limit.getD 64))).toNat
          let adopted := store.adoptMessages session recipient createdAt
            (store.recoverableMessages session recipient bounded)
          pure (adopted.1.finishAdoption session recipient held adopted.2)
  | _, _ => pure (store, ⟨.identityConflict, 0, 0⟩)

/-- The durable rows are exactly the legacy messages the launch gap left in memory. -/
def matchesLaunchGap (store : TransportQueueStore) (session : String) (expected : List String) :
    Bool :=
  let rows := (store.queueEntries.select (inSession session)).insertionSort
    fun a b => ¬ b.clientMessageId < a.clientMessageId
  rows.map (·.clientMessageId) = expected && rows.all (fun row => row.recipient = .legacy) &&
    !store.queuePrivateMaterial.holds (fun row => inSession session row &&
      (!expected.contains row.clientMessageId || row.recipient ≠ .legacy)) &&
    !store.queueDeliveryTombstones.holds (inSession session) &&
    !store.queueCancellationTombstones.holds (inSession session)

def isLegacySessionRow (session : String) (row : QueueMessageRow) : Bool :=
  row.sessionName = session && row.recipient = .legacy

/-- The tombstone tables are empty for the session at this point. -/
def bindLaunchRows (store : TransportQueueStore) (session : String)
    (recipient : QueueRecipientIdentity) : TransportQueueStore :=
  { store with
    queueEntries := store.queueEntries.updateWhere
      (fun row => isLegacySessionRow session (asMessageRow row))
      (fun row => { row with recipient := recipient.columns }) fun _ => rfl
    queuePrivateMaterial := store.queuePrivateMaterial.updateWhere
      (fun row => isLegacySessionRow session (asMessageRow row))
      (fun row => { row with recipient := recipient.columns }) fun _ => rfl
    queueMeta := store.queueMeta.updateWhere
      (fun row => row.sessionName = session && row.recipient = .legacy)
      (fun row => { row with recipient := recipient.columns }) fun _ => rfl }

def bindFreshLaunchRecipient (store : TransportQueueStore) (sessionNameInput : String)
    (recipientInput : QueueRecipientIdentity) (expectedClientMessageIds : List String) :
    Except QueueStoreError (TransportQueueStore × Bool) := do
  let session ← normalizeSessionName sessionNameInput
  let expected := sortByUtf16 (normalizeMessageIds expectedClientMessageIds)
  match normalizeQueueRecipient (some recipientInput), store.queueMeta.lookup session with
  | some recipient, some held =>
    if expected = [] ∨ expected.length ≠ expectedClientMessageIds.length ∨
        (held.recipient ≠ .legacy ∧ held.recipient ≠ recipient.columns) ∨
        store.matchesLaunchGap session expected = false then
      pure (store, false)
    else pure (store.bindLaunchRows session recipient, true)
  | _, _ => pure (store, false)

/-- May this runtime drain the queue held under that session name? -/
def queueBelongsTo (store : TransportQueueStore) (sessionNameInput : String)
    (recipient : Option QueueRecipientIdentity) : Except QueueStoreError Bool := do
  let session ← normalizeSessionName sessionNameInput
  match normalizeQueueRecipient recipient, store.queueMeta.lookup session with
  | none, _ => pure false
  | some _, none => pure true
  | some caller, some held =>
    pure (held.recipient.identity? = some caller &&
      !store.messageRows.any fun row =>
        row.sessionName = session && row.recipient ≠ caller.columns)

def rebindRows (store : TransportQueueStore) (session : String)
    (previous next : QueueRecipientIdentity) : TransportQueueStore :=
  let restamped := store.restampMessageRows
    (fun row => row.sessionName = session && row.recipient = previous.columns) next.columns
  { restamped with
    queueMeta := restamped.queueMeta.updateWhere
      (fun row => row.sessionName = session && row.recipient = previous.columns)
      (fun row => { row with recipient := next.columns }) fun _ => rfl }

def rebindRecipientRuntimeEpoch (store : TransportQueueStore) (sessionNameInput : String)
    (previousInput nextInput : QueueRecipientIdentity) :
    Except QueueStoreError (TransportQueueStore × Bool) := do
  let session ← normalizeSessionName sessionNameInput
  match normalizeQueueRecipient (some previousInput), normalizeQueueRecipient (some nextInput) with
  | some previous, some next =>
    if previous.sessionInstanceId ≠ next.sessionInstanceId then pure (store, false)
    else if previous.runtimeEpoch = next.runtimeEpoch then
      pure (store, ← store.queueBelongsTo session (some next))
    else match store.queueMeta.lookup session with
      | none => pure (store, true)
      | some held =>
        if held.recipient.identity? ≠ some previous ∧ held.recipient.identity? ≠ some next then
          pure (store, false)
        else if store.messageRows.any (conflictsWithRebinding session previous next) then
          pure (store, false)
        else pure (store.rebindRows session previous next, true)
  | _, _ => pure (store, false)

end TransportQueueStore

end ImCodes.Queue
