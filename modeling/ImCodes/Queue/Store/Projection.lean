import ImCodes.Queue.Store.Schema

/-!
# Metadata and snapshots of the durable queue

`ensureMeta` mints a session's epoch and authority on first use, `bumpVersion`
counts its mutations, and `buildSnapshot` reads the projection a client is shown.
Session names below are normalized unless a name ends in `Input`.
-/

set_option autoImplicit false

namespace ImCodes.Queue

open Library

/-- A stored row with the delivery policy read out of its private material. -/
structure QueueStoredEntry where
  row : QueueEntryRow
  deliveryMode : Option SessionSendDeliveryMode
  appendFallbackReason : Option TransportAppendFallbackReason
deriving DecidableEq, Repr

def QueueStoredEntry.position (entry : QueueStoredEntry) : QueuePosition where
  placement := entry.row.placement
  ordinal := entry.row.ordinal
  createdAt := entry.row.createdAt
  clientMessageId := entry.row.clientMessageId

/-- A stored reference counts only when every field it needs is filled in. -/
def parseSupervisionReference :
    Option QueueSupervisionReference → Option QueueSupervisionReference
  | some (.exactIntegration taskId assignmentId revision) =>
    match trimmed (some taskId), trimmed (some assignmentId), trimmed (some revision) with
    | some taskId, some assignmentId, some revision =>
      some (.exactIntegration taskId assignmentId revision)
    | _, _, _ => none
  | some (.implementationBlocker taskId assignmentId revision exactError) =>
    match trimmed (some taskId), trimmed (some assignmentId), trimmed (some revision),
        trimmed (some exactError) with
    | some taskId, some assignmentId, some revision, some exactError =>
      some (.implementationBlocker taskId assignmentId revision exactError)
    | _, _, _, _ => none
  | none => none

/-- `readQueueDeliveryPolicy` over the columns `json_extract` gives. -/
def parseStoredEntry (row : QueueEntryRow) (material : Option QueuePrivateMaterialRow) :
    QueueStoredEntry where
  row
  deliveryMode := material.bind fun held =>
    (held.materialJson.extractString? "deliveryMode").bind SessionSendDeliveryMode.ofText?
  appendFallbackReason := material.bind fun held =>
    (held.materialJson.extractString? "appendFallbackReason").bind
      TransportAppendFallbackReason.ofText?

def buildQueueProjectionEntry (entry : QueueStoredEntry) : QueueProjectionEntry where
  clientMessageId := entry.row.clientMessageId
  text := entry.row.text
  status := entry.row.status
  placement := entry.row.placement
  ordinal := entry.row.ordinal
  createdAt := entry.row.createdAt
  updatedAt := entry.row.updatedAt
  commandId := truthy entry.row.commandId
  activityGeneration := truthy entry.row.activityGeneration
  replacesClientMessageId := truthy entry.row.replacesClientMessageId
  failureReason := entry.row.failureReason
  dropReason := entry.row.dropReason
  -- No statement writes `shared_actor_json`.
  sharedActor := none
  supervisionReference := parseSupervisionReference entry.row.supervisionReference
  deliveryMode := entry.deliveryMode
  appendFallbackReason := entry.appendFallbackReason

def placementRank : QueuePlacement → Nat
  | .front => 0
  | .normal => 1

/-- `ORDER BY CASE placement ..., ordinal, created_at, client_message_id`. -/
def rowPrecedes (a b : QueueEntryRow) : Bool :=
  if placementRank a.placement ≠ placementRank b.placement then
    placementRank a.placement < placementRank b.placement
  else if a.ordinal ≠ b.ordinal then a.ordinal < b.ordinal
  else if a.createdAt ≠ b.createdAt then a.createdAt < b.createdAt
  else ¬ b.clientMessageId < a.clientMessageId

/-- What a mutation hands `buildSnapshot` in place of the stored metadata. -/
structure QueueSnapshotOverride where
  queueEpoch : String
  queueAuthorityId : String
  pendingMessageVersion : Nat
  resetReason : Option QueueResetReason
  dropReason : Option QueueDropReason
  activityGeneration : Option String
deriving DecidableEq, Repr

def QueueMetaRow.version (row : QueueMetaRow) : QueueSnapshotOverride where
  queueEpoch := row.queueEpoch
  queueAuthorityId := row.queueAuthorityId
  pendingMessageVersion := row.pendingMessageVersion
  resetReason := none
  dropReason := none
  activityGeneration := none

/-- `{ ...version, dropReason }`. -/
def QueueMetaRow.dropVersion (row : QueueMetaRow) (dropReason : QueueDropReason) :
    QueueSnapshotOverride :=
  { row.version with dropReason := some dropReason }

namespace TransportQueueStore

/-- `JOIN queue_meta` drops the rows of a session without metadata; the material
is joined on the message and on both recipient columns. -/
def readRows (store : TransportQueueStore) (session : String)
    (recipientFilter : Option (Option QueueRecipientIdentity)) : List QueueStoredEntry :=
  let matching := store.queueEntries.select fun row =>
    inSession session row && (store.queueMeta.lookup session).isSome &&
      recipientFilter.all fun caller => recipientPredicate caller row.recipient
  (matching.insertionSort fun a b => rowPrecedes a b = true).map fun row =>
    parseStoredEntry row <|
      (store.queuePrivateMaterial.lookup row.key).filter fun held => held.recipient = row.recipient

def setMetaRecipient (store : TransportQueueStore) (session : String)
    (recipient : RecipientColumns) : TransportQueueStore :=
  { store with
    queueMeta := store.queueMeta.updateWhere (fun row => row.sessionName = session)
      (fun row => { row with recipient }) fun _ => rfl }

def incrementVersion (store : TransportQueueStore) (session : String) : TransportQueueStore :=
  { store with
    queueMeta := store.queueMeta.updateWhere (fun row => row.sessionName = session)
      (fun row => { row with pendingMessageVersion := row.pendingMessageVersion + 1 })
      fun _ => rfl }

section Host

variable [Host]

def freshUUID (store : TransportQueueStore) : TransportQueueStore × String :=
  ({ store with uuidsIssued := store.uuidsIssued + 1 }, Host.randomUUID store.uuidsIssued)

/-- The row `ensureMeta` inserts for a session it has not seen. -/
def mintedMeta (store : TransportQueueStore) (session : String)
    (bound : Option QueueRecipientIdentity) : QueueMetaRow where
  sessionName := session
  queueEpoch := Host.randomUUID store.uuidsIssued
  queueAuthorityId := Host.randomUUID (store.uuidsIssued + 1)
  pendingMessageVersion := 0
  nextOrdinal := 0
  recipient := callerColumns bound

/-- Mints the metadata of a new session. A row that names nobody adopts the caller;
one that names somebody else is left alone. -/
def ensureMeta (store : TransportQueueStore) (session : String)
    (recipient : Option QueueRecipientIdentity) : TransportQueueStore × QueueMetaRow :=
  let bound := normalizeQueueRecipient recipient
  match store.queueMeta.lookup session with
  | some existing =>
    if bound.isSome && existing.recipient.unset then
      (store.setMetaRecipient session (callerColumns bound), existing)
    else (store, existing)
  | none =>
    let minted := store.mintedMeta session bound
    ({ store with
        queueMeta := store.queueMeta.insertOrIgnore minted
        uuidsIssued := store.uuidsIssued + 2 },
      minted)

def bumpVersion (store : TransportQueueStore) (session : String) :
    TransportQueueStore × QueueMetaRow :=
  ((store.ensureMeta session none).1.incrementVersion session).ensureMeta session none

def buildSnapshot (store : TransportQueueStore) (session source : String)
    (override : Option QueueSnapshotOverride)
    (recipientFilter : Option (Option QueueRecipientIdentity)) :
    TransportQueueStore × QueueSnapshot :=
  let ensured := match override with
    | some given => (store, given)
    | none => ((store.ensureMeta session none).1, (store.ensureMeta session none).2.version)
  let rows := ensured.1.readRows session recipientFilter
  (ensured.1, {
    sessionName := session
    queueEpoch := ensured.2.queueEpoch
    queueAuthorityId := ensured.2.queueAuthorityId
    pendingMessageVersion := .finite ensured.2.pendingMessageVersion
    pendingMessageEntries :=
      (sortByPosition QueueStoredEntry.position
        (rows.filter fun entry => entry.row.status.isLive)).map buildQueueProjectionEntry
    failedMessageEntries :=
      (sortByPosition QueueStoredEntry.position
        (rows.filter fun entry => entry.row.status.isFailed)).map buildQueueProjectionEntry
    source
    resetReason := ensured.2.resetReason
    dropReason := ensured.2.dropReason
    activityGeneration := ensured.2.activityGeneration })

/-- `readSnapshot` after a mutation, inside which the name is already normalized. -/
def snapshotAfter (store : TransportQueueStore) (session source : String)
    (override : Option QueueSnapshotOverride) : TransportQueueStore × QueueSnapshot :=
  store.buildSnapshot session source override none

def readSnapshot (store : TransportQueueStore) (sessionNameInput source : String) :
    Except QueueStoreError (TransportQueueStore × QueueSnapshot) := do
  let session ← normalizeSessionName sessionNameInput
  pure (store.buildSnapshot session source none none)

def readSnapshotForRecipient (store : TransportQueueStore) (sessionNameInput : String)
    (recipient : Option QueueRecipientIdentity) (source : String) :
    Except QueueStoreError (TransportQueueStore × QueueSnapshot) := do
  let session ← normalizeSessionName sessionNameInput
  pure (store.buildSnapshot session source none (some (normalizeQueueRecipient recipient)))

end Host

/-- The dispatch material of a message, for the runtime it is addressed to. -/
def readPrivateDispatchMaterial (store : TransportQueueStore)
    (sessionNameInput clientMessageIdInput : String) (recipient : Option QueueRecipientIdentity) :
    Except QueueStoreError (Option JsonText) := do
  let session ← normalizeSessionName sessionNameInput
  let clientMessageId ← requireNonEmpty (trim clientMessageIdInput) "clientMessageId"
  let held := (store.queuePrivateMaterial.lookup (session, clientMessageId)).filter fun row =>
    recipientPredicate (normalizeQueueRecipient recipient) row.recipient
  pure (held.bind fun row => row.materialJson.nonEmpty?)

def currentQueueEpoch (store : TransportQueueStore) (session : String) : Option String :=
  trimmed ((store.queueMeta.lookup session).map (·.queueEpoch))

end TransportQueueStore

end ImCodes.Queue
