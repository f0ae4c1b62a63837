import ImCodes.Queue.Store.Operations

/-!
# Delivery records, removal and reset

The durable trace a delivered message leaves, the repair of rows that a delivery
record contradicts, and the operations that take messages or a whole session out
of the queue.
-/

set_option autoImplicit false

namespace ImCodes.Queue

open Library

/-- `status IN ('sent', 'deleted', 'dismissed', 'session_removed')`. -/
def QueueEntryRow.disposable (row : QueueEntryRow) : Bool :=
  row.status ∈ [QueueEntryStatus.sent, .deleted, .dismissed, .sessionRemoved]

namespace TransportQueueStore

/-- `SELECT recipient_... FROM queue_meta`, NULL without a row. -/
def metaRecipient (store : TransportQueueStore) (session : String) : RecipientColumns :=
  ((store.queueMeta.lookup session).map (·.recipient)).getD .legacy

def deliveryRecord (store : TransportQueueStore) (session queueEpoch clientMessageId
    deliveryFrameId : String) (now : Int) (conversationKey : Option String) :
    QueueDeliveryTombstoneRow where
  sessionName := session
  queueEpoch
  clientMessageId
  deliveryFrameId
  createdAt := now
  recipient := store.metaRecipient session
  providerConversationKey := conversationKey

/-- Delete the row of one message where the gate allows it, and only then its
material and its place among the undelivered. -/
def finalizeMessage (store : TransportQueueStore) (session queueEpoch deliveryFrameId : String)
    (now : Int) (caller : Option QueueRecipientIdentity) (conversationKey : Option String)
    (clientMessageId : String) : TransportQueueStore :=
  let finalized := store.deleteMessage session clientMessageId (recipientPredicate caller)
  { finalized with
    queueDeliveryTombstones := finalized.queueDeliveryTombstones.insertOrReplace
      (finalized.deliveryRecord session queueEpoch clientMessageId deliveryFrameId now
        conversationKey) }

def isFinalizable (session clientMessageId : String) (caller : Option QueueRecipientIdentity)
    (row : QueueEntryRow) : Bool :=
  isMessage session clientMessageId row && recipientPredicate caller row.recipient

/-- The store after every id, with the ids whose row was there to finalize. -/
def finalizeMessages (store : TransportQueueStore) (session queueEpoch deliveryFrameId : String)
    (now : Int) (caller : Option QueueRecipientIdentity) (conversationKey : Option String)
    (clientMessageIds : List String) : TransportQueueStore × List String :=
  clientMessageIds.foldl
    (fun state clientMessageId =>
      if state.1.queueEntries.changes (isFinalizable session clientMessageId caller) = 0 then state
      else (state.1.finalizeMessage session queueEpoch deliveryFrameId now caller conversationKey
        clientMessageId, state.2 ++ [clientMessageId]))
    (store, [])

/-- `DELETE ... AND status IN ('queued', 'handoff_inflight')`, the material following. -/
def removeDeliveredMessage (store : TransportQueueStore) (session clientMessageId : String) :
    TransportQueueStore :=
  { store with
    queueEntries := store.queueEntries.deleteWhere fun row =>
      isMessage session clientMessageId row && row.pending
    queuePrivateMaterial :=
      store.queuePrivateMaterial.deleteWhere (isMessage session clientMessageId) }

def removeDeliveredMessages (store : TransportQueueStore) (session : String)
    (clientMessageIds : List String) : TransportQueueStore × List String :=
  clientMessageIds.foldl
    (fun state clientMessageId =>
      if state.1.queueEntries.changes
          (fun row => isMessage session clientMessageId row && row.pending) = 0 then state
      else (state.1.removeDeliveredMessage session clientMessageId, state.2 ++ [clientMessageId]))
    (store, [])

/-- A pending row that a delivery record of the current epoch contradicts. A row
created after its id's delivery record is a legitimate re-queue. -/
def isDeliveredGhost (store : TransportQueueStore) (session : String) (row : QueueEntryRow) :
    Bool :=
  inSession session row && row.pending &&
    (store.queueMeta.lookup session).any fun held =>
      store.queueDeliveryTombstones.holds fun tombstone =>
        isMessage session row.clientMessageId tombstone &&
          tombstone.queueEpoch = held.queueEpoch && row.createdAt ≤ tombstone.createdAt

def deleteSessionRows (store : TransportQueueStore) (session : String) : TransportQueueStore :=
  (store.deleteSessionMessages session).deleteSessionTombstones session

section Host

variable [Host]

def finalizeSentBatch (store : TransportQueueStore) (sessionNameInput : String)
    (clientMessageIdInputs : List String) (deliveryFrameId : String) (now : Int)
    (recipient : Option QueueRecipientIdentity) (conversationKey : Option String) :
    Except QueueStoreError (TransportQueueStore × FinalizeTransportQueueSentResult) := do
  let session ← normalizeSessionName sessionNameInput
  let clientMessageIds := normalizeMessageIds clientMessageIdInputs
  if clientMessageIds = [] then
    let read := store.snapshotAfter session "finalize_sent_noop" none
    pure (read.1, ⟨read.2, []⟩)
  else
    let opened := store.ensureMeta session none
    let finalized := opened.1.finalizeMessages session opened.2.queueEpoch deliveryFrameId now
      (normalizeQueueRecipient recipient) conversationKey clientMessageIds
    let bumped := finalized.1.bumpVersion session
    let deliveryFacts := finalized.2.map fun clientMessageId => {
      sessionName := session
      clientMessageId
      queueEpoch := bumped.2.queueEpoch
      queueAuthorityId := bumped.2.queueAuthorityId
      pendingMessageVersion := .finite bumped.2.pendingMessageVersion
      deliveryFrameId
      deliveryFrameVersion := .finite bumped.2.pendingMessageVersion }
    let read := bumped.1.snapshotAfter session "finalize_sent" (some bumped.2.version)
    pure (read.1, ⟨read.2, deliveryFacts⟩)

def finalizeSent (store : TransportQueueStore) (sessionNameInput clientMessageIdInput
    deliveryFrameId : String) (now : Int) (conversationKey : Option String) :
    Except QueueStoreError (TransportQueueStore × QueueSnapshot) := do
  let finalized ← store.finalizeSentBatch sessionNameInput [clientMessageIdInput] deliveryFrameId
    now none conversationKey
  pure (finalized.1, finalized.2.snapshot)

/-- Provider acceptance, recorded once per message and epoch. -/
def recordDeliveryTombstone (store : TransportQueueStore) (sessionNameInput clientMessageIdInput
    deliveryFrameId : String) (now : Int) (recipient : Option QueueRecipientIdentity)
    (conversationKey : Option String) : Except QueueStoreError (TransportQueueStore × Bool) := do
  let session ← normalizeSessionName sessionNameInput
  let clientMessageId := trim clientMessageIdInput
  if clientMessageId = "" then pure (store, false)
  else
    let opened := store.ensureMeta session recipient
    pure ({ opened.1 with
      queueDeliveryTombstones := opened.1.queueDeliveryTombstones.insertOrIgnore
        (opened.1.deliveryRecord session opened.2.queueEpoch clientMessageId deliveryFrameId now
          conversationKey) }, true)

def removeDeliveredQueueRows (store : TransportQueueStore) (session : String)
    (clientMessageIds : List String) : TransportQueueStore × List String :=
  let removed := store.removeDeliveredMessages session clientMessageIds
  if removed.2 = [] then removed else ((removed.1.bumpVersion session).1, removed.2)

def reconcileDeliveredQueueRows (store : TransportQueueStore) (sessionNameInput : String) :
    Except QueueStoreError (TransportQueueStore × List String) := do
  let session ← normalizeSessionName sessionNameInput
  let ghosts := store.queueEntries.select (store.isDeliveredGhost session)
  if ghosts = [] then pure (store, [])
  else pure (store.removeDeliveredQueueRows session (ghosts.map (·.clientMessageId)))

/-- A direct send holds no row; a stale one left behind is reconciled away. -/
def recordDirectDelivery (store : TransportQueueStore) (sessionNameInput clientMessageIdInput
    deliveryFrameId : String) (now : Int) (recipient : Option QueueRecipientIdentity)
    (conversationKey : Option String) : Except QueueStoreError (TransportQueueStore × Bool) := do
  let recorded ← store.recordDeliveryTombstone sessionNameInput clientMessageIdInput
    deliveryFrameId now recipient conversationKey
  let reconciled ← recorded.1.reconcileDeliveredQueueRows sessionNameInput
  pure (reconciled.1, recorded.2)

def cleanup (store : TransportQueueStore) (sessionNameInput : String) :
    Except QueueStoreError (TransportQueueStore × QueueSnapshot) := do
  let session ← normalizeSessionName sessionNameInput
  let opened := (store.ensureMeta session none).1
  let queueEntries := opened.queueEntries.deleteWhere fun row =>
    inSession session row && row.disposable
  let swept := { opened with
    queueEntries
    queuePrivateMaterial := opened.queuePrivateMaterial.deleteWhere fun held =>
      inSession session held && !queueEntries.holds (isMessage session held.clientMessageId) }
  let bumped := swept.bumpVersion session
  pure (bumped.1.snapshotAfter session "cleanup" (some bumped.2.version))

def drop (store : TransportQueueStore) (sessionNameInput clientMessageIdInput : String)
    (dropReason : QueueDropReason) (recipient : Option QueueRecipientIdentity) :
    Except QueueStoreError (TransportQueueStore × QueueSnapshot) := do
  let session ← normalizeSessionName sessionNameInput
  let clientMessageId ← requireNonEmpty (trim clientMessageIdInput) "clientMessageId"
  let dropped := (store.ensureMeta session none).1.deleteMessage session clientMessageId
    (recipientPredicate (normalizeQueueRecipient recipient))
  let bumped := dropped.bumpVersion session
  pure (bumped.1.snapshotAfter session "drop" (some (bumped.2.dropVersion dropReason)))

def dropAll (store : TransportQueueStore) (sessionNameInput : String)
    (dropReason : QueueDropReason) :
    Except QueueStoreError (TransportQueueStore × QueueSnapshot) := do
  let session ← normalizeSessionName sessionNameInput
  let dropped := (store.ensureMeta session none).1.deleteSessionMessages session
  let bumped := dropped.bumpVersion session
  pure (bumped.1.snapshotAfter session "drop_all" (some (bumped.2.dropVersion dropReason)))

/-- `INSERT ... ON CONFLICT DO UPDATE`: a new epoch and authority, the version of a
known session counting on. -/
def renewMeta (store : TransportQueueStore) (session : String) : TransportQueueStore :=
  let minted := store.mintedMeta session none
  { store with
    queueMeta := match store.queueMeta.lookup session with
      | none => store.queueMeta.insertOrIgnore { minted with pendingMessageVersion := 1 }
      | some _ => store.queueMeta.updateWhere (fun row => row.sessionName = session)
          (fun row => { row with
            queueEpoch := minted.queueEpoch
            queueAuthorityId := minted.queueAuthorityId
            pendingMessageVersion := row.pendingMessageVersion + 1
            nextOrdinal := 0 })
          fun _ => rfl
    uuidsIssued := store.uuidsIssued + 2 }

def reset (store : TransportQueueStore) (sessionNameInput : String)
    (resetReason : QueueResetReason) (activityGeneration : Option String) :
    Except QueueStoreError (TransportQueueStore × QueueSnapshot) := do
  let session ← normalizeSessionName sessionNameInput
  let renewed := ((store.deleteSessionRows session).renewMeta session).ensureMeta session none
  pure (renewed.1.snapshotAfter session "reset" (some
    { renewed.2.version with resetReason := some resetReason, activityGeneration }))

end Host

def clearDeliveryTombstone (store : TransportQueueStore)
    (sessionNameInput clientMessageIdInput : String) :
    Except QueueStoreError (TransportQueueStore × Bool) := do
  let session ← normalizeSessionName sessionNameInput
  let clientMessageId ← requireNonEmpty (trim clientMessageIdInput) "clientMessageId"
  match store.currentQueueEpoch session with
  | none => pure (store, false)
  | some queueEpoch =>
    let isRecord := fun row : QueueDeliveryTombstoneRow =>
      isMessage session clientMessageId row && row.queueEpoch = queueEpoch
    pure ({ store with
      queueDeliveryTombstones := store.queueDeliveryTombstones.deleteWhere isRecord },
      store.queueDeliveryTombstones.changes isRecord > 0)

end TransportQueueStore

end ImCodes.Queue
