import ImCodes.Queue.Store.Projection

/-!
# The operations of the durable queue

Each public method is one transaction: it returns the store and its answer, or the
error with which the method throws after rolling back. Times are the `now` argument
of the method; `conversationKey` is what `deliveryConversationKey` reads from the
session store at that moment.
-/

set_option autoImplicit false

namespace ImCodes.Queue

open Library

/-- `cron:<scheduleId>:...` names the schedule a command was fired by. -/
def cronScheduleId (commandId : Option String) : Option String :=
  match (commandId.map fun text => (trim text).toList) with
  | some ('c' :: 'r' :: 'o' :: 'n' :: ':' :: rest) =>
    let schedule := rest.takeWhile (· ≠ ':')
    if schedule = [] ∨ rest.dropWhile (· ≠ ':') = [] then none
    else some (String.ofList schedule)
  | _ => none

structure EnqueueTransportQueueEntryInput where
  sessionName : String
  recipient : Option QueueRecipientIdentity
  text : String
  clientMessageId : Option String
  commandId : Option String
  placement : Option QueuePlacement
  now : Option Int
  activityGeneration : Option String
  replacesClientMessageId : Option String
  privateMaterialJson : Option JsonText
  supervisionReference : Option QueueSupervisionReference
deriving DecidableEq, Repr

structure EnqueueTransportQueueEntryResult where
  queueSnapshot : QueueSnapshot
  dropSnapshot : Option QueueSnapshot
  cancelled : Bool
deriving DecidableEq, Repr

structure DiscardTransportQueueStateResult where
  queueEntries : Nat
  privateMaterials : Nat
  deliveryTombstones : Nat
  cancellationTombstones : Nat
  queueMeta : Nat
  rebound : Bool
deriving DecidableEq, Repr

structure HandoffTransportQueueEntry where
  entry : QueueProjectionEntry
  handoffId : String
  privateMaterialJson : Option JsonText
deriving DecidableEq, Repr

structure FinalizeTransportQueueSentResult where
  snapshot : QueueSnapshot
  deliveryFacts : List QueueDeliveryFact
deriving DecidableEq, Repr

structure StaleDelegationQueueEntry where
  sessionName : String
  clientMessageId : String
  createdAt : Int
  text : String
deriving DecidableEq, Repr

/-- Dispatch material recomputed for an edited text. -/
structure EditReplacement where
  providerText : Option String
  aliasAudit : Option Json
deriving DecidableEq, Repr

def delegationSenderPattern : String := "<imcodes-agent-delegation-sender-v1>%"

def QueueEntryRow.queued (row : QueueEntryRow) : Bool := row.status = .queued

/-- `status IN ('queued', 'handoff_inflight')`. -/
def QueueEntryRow.pending (row : QueueEntryRow) : Bool :=
  row.status = .queued || row.status = .handoffInflight

def QueueEntryRow.withoutHandoff (row : QueueEntryRow) : QueueEntryRow :=
  { row with handoffId := none, handoffStartedAt := none, handoffExpiresAt := none }

/-- `command_id LIKE 'cron:<schedule>:%'` on a queued row of the session. -/
def supersededByCron (session schedule : String) (row : QueueEntryRow) : Bool :=
  inSession session row && row.queued &&
    row.commandId.any fun commandId => like ("cron:" ++ schedule ++ ":%") commandId

def QueueEntryRow.supersede (now : Int) (row : QueueEntryRow) : QueueEntryRow :=
  { row.withoutHandoff with
    status := .expired
    failureReason := some .expired
    dropReason := some .superseded
    updatedAt := now }

def QueueEntryRow.lease (handoffId : String) (leaseMs now : Int) (row : QueueEntryRow) :
    QueueEntryRow :=
  { row with
    status := .handoffInflight
    handoffId := some handoffId
    handoffStartedAt := some now
    handoffExpiresAt := some (now + leaseMs)
    handoffAttempt := some (row.handoffAttempt.getD 0 + 1)
    updatedAt := now }

def QueueEntryRow.release (now : Int) (row : QueueEntryRow) : QueueEntryRow :=
  { row.withoutHandoff with status := .queued, updatedAt := now }

def QueueEntryRow.exhausted (row : QueueEntryRow) : Bool :=
  maxQueueHandoffAttempts ≤ row.handoffAttempt.getD 0

/-- Strip a parsed material of the previous expansion and give it the new text. -/
def rewriteMaterial (text : String) (replacement : Option EditReplacement)
    (members : List (String × Json)) : List (String × Json) :=
  let stripped := Json.eraseMember "aliasAudit" <|
    Json.eraseMember "messagePreamble" <| Json.eraseMember "providerText" members
  let retexted := Json.setMember "text" (.str text) stripped
  let provided := match replacement.bind (·.providerText) with
    | some providerText => Json.setMember "providerText" (.str providerText) retexted
    | none => retexted
  match replacement.bind (·.aliasAudit) with
  | some aliasAudit => Json.setMember "aliasAudit" aliasAudit provided
  | none => provided

/-- `material.appendFallbackReason = reason`, read back from its text. -/
def withAppendFallback (reason : TransportAppendFallbackReason) : Json → Except QueueStoreError Json
  | .obj members =>
    .ok (.obj (Json.setMember "appendFallbackReason" (.str reason.text) members))
  | .arr items => .ok (.arr items)
  | _ => .error .materialNotAnObject

/-- The material belongs to a peer audit, whose authority did not survive a restart. -/
def isPeerAuditMaterial (text : JsonText) : Bool :=
  match (text.parse?.bind (Json.field? "peerAudit")) with
  | some marker => marker.isObject &&
      ((marker.field? "contractVersion").bind Json.asString?).isSome &&
      ((marker.field? "attemptHash").bind Json.asString?).isSome
  | none => false

namespace TransportQueueStore

/-! ## Statements several methods run -/

def pruneCancellations (store : TransportQueueStore) (now : Int) : TransportQueueStore :=
  { store with
    queueCancellationTombstones := store.queueCancellationTombstones.deleteWhere fun row =>
      row.createdAt < now - queueCancellationTombstoneTtlMs }

def updateEntries (store : TransportQueueStore) (p : QueueEntryRow → Bool)
    (update : QueueEntryRow → QueueEntryRow) (keeps : ∀ row, (update row).key = row.key) :
    TransportQueueStore :=
  { store with queueEntries := store.queueEntries.updateWhere p update keeps }

def deleteMaterial (store : TransportQueueStore) (session clientMessageId : String) :
    TransportQueueStore :=
  { store with
    queuePrivateMaterial :=
      store.queuePrivateMaterial.deleteWhere (isMessage session clientMessageId) }

/-- Delete the public row and the private material of one message, each where the
gate lets the caller through. -/
def deleteMessage (store : TransportQueueStore) (session clientMessageId : String)
    (gate : RecipientColumns → Bool) : TransportQueueStore :=
  { store with
    queueEntries := store.queueEntries.deleteWhere fun row =>
      isMessage session clientMessageId row && gate row.recipient
    queuePrivateMaterial := store.queuePrivateMaterial.deleteWhere fun row =>
      isMessage session clientMessageId row && gate row.recipient }

def ungated (_ : RecipientColumns) : Bool := true

def deleteSessionMessages (store : TransportQueueStore) (session : String) :
    TransportQueueStore :=
  { store with
    queueEntries := store.queueEntries.deleteWhere (inSession session)
    queuePrivateMaterial := store.queuePrivateMaterial.deleteWhere (inSession session) }

def deleteSessionTombstones (store : TransportQueueStore) (session : String) :
    TransportQueueStore :=
  { store with
    queueDeliveryTombstones := store.queueDeliveryTombstones.deleteWhere (inSession session)
    queueCancellationTombstones :=
      store.queueCancellationTombstones.deleteWhere (inSession session) }

def deleteSessionQueueStateRows (store : TransportQueueStore) (session : String) :
    TransportQueueStore :=
  let cleared := (store.deleteSessionMessages session).deleteSessionTombstones session
  { cleared with
    queueMeta := cleared.queueMeta.deleteWhere fun row => row.sessionName = session }

section Host

variable [Host]

/-! ## Enqueueing -/

def discardSessionQueueState (store : TransportQueueStore) (sessionNameInput : String)
    (recipient : Option QueueRecipientIdentity) :
    Except QueueStoreError (TransportQueueStore × DiscardTransportQueueStateResult) := do
  let session ← normalizeSessionName sessionNameInput
  let bound := normalizeQueueRecipient recipient
  let cleared := store.deleteSessionQueueStateRows session
  let rebound := match bound with
    | none => cleared
    | some _ =>
      { cleared with
        queueMeta := cleared.queueMeta.insertOrIgnore
          { cleared.mintedMeta session bound with pendingMessageVersion := 1 }
        uuidsIssued := cleared.uuidsIssued + 2 }
  pure (rebound, {
    queueEntries := store.queueEntries.changes (inSession session)
    privateMaterials := store.queuePrivateMaterial.changes (inSession session)
    deliveryTombstones := store.queueDeliveryTombstones.changes (inSession session)
    cancellationTombstones := store.queueCancellationTombstones.changes (inSession session)
    queueMeta := store.queueMeta.changes fun row => row.sessionName = session
    rebound := bound.isSome })

/-- Which tombstones cancel an enqueue: cancellation belongs to the stable session
instance, not to one runtime generation. -/
def cancellationGate (recipient : Option QueueRecipientIdentity) (columns : RecipientColumns) :
    Bool :=
  match recipient with
  | some identity =>
    columns.sessionInstanceId = some identity.sessionInstanceId && columns.runtimeEpoch.isSome
  | none => recipientPredicate none columns

def isCancelled (store : TransportQueueStore) (session clientMessageId : String)
    (recipient : Option QueueRecipientIdentity) : Bool :=
  store.queueCancellationTombstones.holds fun row =>
    isMessage session clientMessageId row && cancellationGate recipient row.recipient

/-- The queue is bound to another session instance than the one enqueueing. -/
def isForeignQueue (store : TransportQueueStore) (session : String)
    (recipient : Option QueueRecipientIdentity) : Bool :=
  match recipient, ((store.queueMeta.lookup session).bind fun row =>
      truthy row.recipient.sessionInstanceId) with
  | some identity, some bound => bound ≠ identity.sessionInstanceId
  | _, _ => false

/-- A same-name replacement drops the stale queue and starts a fresh one. -/
def replaceForeignQueue (store : TransportQueueStore) (session : String)
    (recipient : Option QueueRecipientIdentity) : TransportQueueStore :=
  if store.isForeignQueue session recipient then
    ((store.deleteSessionQueueStateRows session).ensureMeta session recipient).1
  else store

/-- Retain only the newest pending fire of a cron schedule. -/
def supersedeCron (store : TransportQueueStore) (session : String) (commandId : Option String)
    (now : Int) : TransportQueueStore :=
  match cronScheduleId commandId with
  | some schedule =>
    store.updateEntries (supersededByCron session schedule) (QueueEntryRow.supersede now)
      fun _ => rfl
  | none => store

def evictMessage (store : TransportQueueStore) (session : String)
    (evictClientMessageId : Option String) : TransportQueueStore :=
  match evictClientMessageId with
  | some clientMessageId => store.deleteMessage session clientMessageId ungated
  | none => store

def takeOrdinal (store : TransportQueueStore) (session : String) : TransportQueueStore :=
  { store with
    queueMeta := store.queueMeta.updateWhere (fun row => row.sessionName = session)
      (fun row => { row with nextOrdinal := row.nextOrdinal + 1 }) fun _ => rfl }

def newEntryRow (input : EnqueueTransportQueueEntryInput) (session clientMessageId : String)
    (recipient : Option QueueRecipientIdentity) (now : Int) (ordinal : Nat) :
    QueueEntryRow where
  sessionName := session
  clientMessageId
  commandId := trimmed input.commandId
  text := input.text
  status := .queued
  placement := input.placement.getD .normal
  ordinal
  createdAt := now
  updatedAt := now
  activityGeneration := input.activityGeneration
  replacesClientMessageId := trimmed input.replacesClientMessageId
  failureReason := none
  dropReason := none
  handoffId := none
  handoffStartedAt := none
  handoffExpiresAt := none
  handoffAttempt := none
  privateMaterialRef := input.privateMaterialJson.map fun _ => clientMessageId
  supervisionReference := input.supervisionReference
  recipient := callerColumns recipient

def newMaterialRow (input : EnqueueTransportQueueEntryInput) (session clientMessageId : String)
    (recipient : Option QueueRecipientIdentity) (now : Int) : Option QueuePrivateMaterialRow :=
  input.privateMaterialJson.map fun materialJson => {
    sessionName := session
    clientMessageId
    materialJson
    updatedAt := now
    recipient := callerColumns recipient }

/-- Store the row under the session's next ordinal, and its material if it has any. -/
def insertMessage (store : TransportQueueStore) (input : EnqueueTransportQueueEntryInput)
    (session clientMessageId : String) (recipient : Option QueueRecipientIdentity) (now : Int)
    (ordinal : Nat) : Except QueueStoreError TransportQueueStore :=
  match store.queueEntries.insert
      (newEntryRow input session clientMessageId recipient now ordinal) with
  | none => .error .uniqueConstraint
  | some queueEntries =>
    .ok { store.takeOrdinal session with
      queueEntries
      queuePrivateMaterial := (newMaterialRow input session clientMessageId recipient now).elim
        store.queuePrivateMaterial store.queuePrivateMaterial.insertOrReplace }

/-- The part of an enqueue that a cancellation does not stop. -/
def admitMessage (store : TransportQueueStore) (input : EnqueueTransportQueueEntryInput)
    (session clientMessageId : String) (recipient : Option QueueRecipientIdentity) (now : Int)
    (evictClientMessageId : Option String) :
    Except QueueStoreError (TransportQueueStore × EnqueueTransportQueueEntryResult) := do
  let owned := store.replaceForeignQueue session recipient
  let ordinal := (owned.ensureMeta session recipient).2.nextOrdinal
  let cleared := (owned.supersedeCron session input.commandId now).evictMessage session
    evictClientMessageId
  let inserted ← cleared.insertMessage input session clientMessageId recipient now ordinal
  let bumped := inserted.bumpVersion session
  let queued := bumped.1.snapshotAfter session "enqueue" (some bumped.2.version)
  pure (queued.1, {
    queueSnapshot := queued.2
    dropSnapshot := evictClientMessageId.map fun _ =>
      (queued.1.snapshotAfter session "drop" (some (bumped.2.dropVersion .capacityEvicted))).2
    cancelled := false })

/-- `input.clientMessageId?.trim() || randomUUID()`. -/
def identifyMessage (store : TransportQueueStore) (clientMessageId : Option String) :
    TransportQueueStore × String :=
  match trimmed clientMessageId with
  | some given => (store, given)
  | none => store.freshUUID

/-- The store in which an enqueue looks for a cancellation of its message. -/
def openForEnqueue (store : TransportQueueStore) (session : String)
    (input : EnqueueTransportQueueEntryInput) (now : Int) : TransportQueueStore :=
  ((store.identifyMessage input.clientMessageId).1.ensureMeta session
    (normalizeQueueRecipient input.recipient)).1.pruneCancellations now

def enqueueWithCapacityEviction (store : TransportQueueStore) (clock : Int)
    (input : EnqueueTransportQueueEntryInput) (evictClientMessageIdInput : Option String) :
    Except QueueStoreError (TransportQueueStore × EnqueueTransportQueueEntryResult) := do
  let session ← normalizeSessionName input.sessionName
  let now := input.now.getD clock
  let clientMessageId := (store.identifyMessage input.clientMessageId).2
  let recipient := normalizeQueueRecipient input.recipient
  let opened := store.openForEnqueue session input now
  if opened.isCancelled session clientMessageId recipient then
    let read := opened.snapshotAfter session "enqueue_cancelled" none
    pure (read.1, { queueSnapshot := read.2, dropSnapshot := none, cancelled := true })
  else
    opened.admitMessage input session clientMessageId recipient now
      (trimmed evictClientMessageIdInput)

def enqueue (store : TransportQueueStore) (clock : Int)
    (input : EnqueueTransportQueueEntryInput) :
    Except QueueStoreError (TransportQueueStore × QueueSnapshot) := do
  let enqueued ← store.enqueueWithCapacityEviction clock input none
  pure (enqueued.1, enqueued.2.queueSnapshot)

def retry (store : TransportQueueStore) (clock : Int)
    (sessionNameInput failedClientMessageIdInput : String)
    (input : EnqueueTransportQueueEntryInput) :
    Except QueueStoreError (TransportQueueStore × QueueSnapshot) := do
  let session ← normalizeSessionName sessionNameInput
  let failedClientMessageId ←
    requireNonEmpty (trim failedClientMessageIdInput) "failedClientMessageId"
  store.enqueue clock { input with
    sessionName := session
    replacesClientMessageId := some failedClientMessageId }

/-! ## Rows in place -/

def isStaleDelegation (cutoff : Int) (row : QueueEntryRow) : Bool :=
  row.queued && row.createdAt < cutoff && like delegationSenderPattern row.text

def expireStaleDelegationEntries (store : TransportQueueStore) (now thresholdMs : Int) :
    TransportQueueStore × List StaleDelegationQueueEntry :=
  let cutoff := now - max 1000 thresholdMs
  let rows := (store.queueEntries.select (isStaleDelegation cutoff)).insertionSort
    fun a b => a.createdAt ≤ b.createdAt
  let expired := store.updateEntries (isStaleDelegation cutoff)
    (fun row => { row.withoutHandoff with
      status := .expired
      failureReason := some .expired
      dropReason := some .staleExpired
      updatedAt := now })
    fun _ => rfl
  let stripped := rows.foldl
    (fun store row => store.deleteMaterial row.sessionName row.clientMessageId) expired
  let bumped := (firstOccurrences (rows.map (·.sessionName))).foldl
    (fun store session => (store.bumpVersion session).1) stripped
  (bumped, rows.map fun row => ⟨row.sessionName, row.clientMessageId, row.createdAt, row.text⟩)

def attachSupervisionReference (store : TransportQueueStore)
    (sessionNameInput clientMessageIdInput : String) (reference : QueueSupervisionReference)
    (now : Int) : Except QueueStoreError (TransportQueueStore × Bool) := do
  let session ← normalizeSessionName sessionNameInput
  let clientMessageId ← requireNonEmpty (trim clientMessageIdInput) "clientMessageId"
  match store.entry? session clientMessageId with
  | none => pure (store, false)
  | some existing =>
    match existing.supervisionReference with
    | some held =>
      if held = reference then pure (store, true)
      else throw .supervisionReferenceMismatch
    | none =>
      let attached := store.updateEntries (isMessage session clientMessageId)
        (fun row => { row with supervisionReference := some reference, updatedAt := now })
        fun _ => rfl
      pure ((attached.bumpVersion session).1, true)

/-- An edited message forgets the expansion of its previous text. -/
def rewritePrivateMaterialTextStrippingSecrets (store : TransportQueueStore)
    (session clientMessageId text : String) (now : Int) (replacement : Option EditReplacement) :
    Except QueueStoreError TransportQueueStore :=
  match (store.queuePrivateMaterial.lookup (session, clientMessageId)).bind fun row =>
      row.materialJson.nonEmpty? with
  | none => .ok store
  | some (.malformed _) => .ok (store.deleteMaterial session clientMessageId)
  | some (.encoded (.obj members)) =>
    .ok { store with
      queuePrivateMaterial := store.queuePrivateMaterial.updateWhere
        (isMessage session clientMessageId)
        (fun row => { row with
          materialJson := .encoded (.obj (rewriteMaterial text replacement members))
          updatedAt := now })
        fun _ => rfl }
  | some (.encoded (.arr items)) =>
    .ok { store with
      queuePrivateMaterial := store.queuePrivateMaterial.updateWhere
        (isMessage session clientMessageId)
        (fun row => { row with materialJson := .encoded (.arr items), updatedAt := now })
        fun _ => rfl }
  | some (.encoded _) => .error .materialNotAnObject

def edit (store : TransportQueueStore) (sessionNameInput clientMessageIdInput text : String)
    (now : Int) (replacement : Option EditReplacement) :
    Except QueueStoreError (TransportQueueStore × QueueSnapshot) := do
  let session ← normalizeSessionName sessionNameInput
  let clientMessageId ← requireNonEmpty (trim clientMessageIdInput) "clientMessageId"
  let retexted := (store.ensureMeta session none).1.updateEntries
    (isMessage session clientMessageId)
    (fun row => { row with text, updatedAt := now }) fun _ => rfl
  let rewritten ← retexted.rewritePrivateMaterialTextStrippingSecrets session clientMessageId
    text now replacement
  let bumped := rewritten.bumpVersion session
  pure (bumped.1.snapshotAfter session "edit" (some bumped.2.version))

/-! ## Handoff leases -/

def isLeasable (session clientMessageId : String) (caller : Option QueueRecipientIdentity)
    (row : QueueEntryRow) : Bool :=
  isMessage session clientMessageId row && row.queued && recipientPredicate caller row.recipient

def leaseMessage (store : TransportQueueStore) (session handoffId : String) (leaseMs now : Int)
    (caller : Option QueueRecipientIdentity) (clientMessageId : String) : TransportQueueStore :=
  store.updateEntries (isLeasable session clientMessageId caller)
    (QueueEntryRow.lease handoffId leaseMs now) fun _ => rfl

/-- The store after the `UPDATE` of every id, with the summed `changes`. -/
def leaseMessages (store : TransportQueueStore) (session handoffId : String) (leaseMs now : Int)
    (caller : Option QueueRecipientIdentity) (clientMessageIds : List String) :
    TransportQueueStore × Nat :=
  clientMessageIds.foldl
    (fun state clientMessageId =>
      (state.1.leaseMessage session handoffId leaseMs now caller clientMessageId,
        state.2 + state.1.queueEntries.changes (isLeasable session clientMessageId caller)))
    (store, 0)

def markHandoffInFlight (store : TransportQueueStore) (sessionNameInput : String)
    (clientMessageIds : List String) (leaseMs now : Int)
    (recipient : Option QueueRecipientIdentity) :
    Except QueueStoreError (TransportQueueStore × List HandoffTransportQueueEntry) := do
  let session ← normalizeSessionName sessionNameInput
  if clientMessageIds = [] then pure (store, [])
  else
    let caller := normalizeQueueRecipient recipient
    let named := store.freshUUID
    let handoffId := named.2
    let opened := (named.1.ensureMeta session caller).1.pruneCancellations now
    let leased := opened.leaseMessages session handoffId leaseMs now caller clientMessageIds
    let bumped := if leased.2 > 0 then (leased.1.bumpVersion session).1 else leased.1
    let rows := (bumped.readRows session none).filter fun entry =>
      clientMessageIds.contains entry.row.clientMessageId &&
        (entry.row.status = .handoffInflight && entry.row.handoffId = some handoffId)
    pure (bumped, rows.map fun entry => {
      entry := buildQueueProjectionEntry entry
      handoffId
      privateMaterialJson :=
        (bumped.queuePrivateMaterial.lookup (session, entry.row.clientMessageId)).bind
          fun held => held.materialJson.nonEmpty? })

def isReleasable (session handoffId clientMessageId : String) (row : QueueEntryRow) : Bool :=
  isMessage session clientMessageId row && row.status = .handoffInflight &&
    row.handoffId = some handoffId

def releaseMessages (store : TransportQueueStore) (session handoffId : String) (now : Int)
    (clientMessageIds : List String) : TransportQueueStore × Nat :=
  clientMessageIds.foldl
    (fun state clientMessageId =>
      (state.1.updateEntries (isReleasable session handoffId clientMessageId)
          (QueueEntryRow.release now) fun _ => rfl,
        state.2 + state.1.queueEntries.changes (isReleasable session handoffId clientMessageId)))
    (store, 0)

def releaseHandoff (store : TransportQueueStore) (sessionNameInput handoffIdInput : String)
    (clientMessageIds : List String) (now : Int) :
    Except QueueStoreError (TransportQueueStore × QueueSnapshot) := do
  let session ← normalizeSessionName sessionNameInput
  let handoffId ← requireNonEmpty (trim handoffIdInput) "handoffId"
  let ids := normalizeMessageIds clientMessageIds
  if ids = [] then pure (store.snapshotAfter session "release_handoff_noop" none)
  else
    let released := (store.ensureMeta session none).1.releaseMessages session handoffId now ids
    if released.2 > 0 then
      let bumped := released.1.bumpVersion session
      pure (bumped.1.snapshotAfter session "release_handoff" (some bumped.2.version))
    else pure (released.1.snapshotAfter session "release_handoff" none)

def isExpiredHandoff (session : String) (now : Int) (includeUnexpired : Bool)
    (row : QueueEntryRow) : Bool :=
  inSession session row && row.status = .handoffInflight &&
    (includeUnexpired || row.handoffExpiresAt.any fun expiresAt => expiresAt ≤ now)

def restoreExpiredHandoffs (store : TransportQueueStore) (sessionNameInput : String) (now : Int)
    (includeUnexpired : Bool) : Except QueueStoreError (TransportQueueStore × QueueSnapshot) := do
  let session ← normalizeSessionName sessionNameInput
  let opened := (store.ensureMeta session none).1
  let isExhausted := fun row : QueueEntryRow =>
    isExpiredHandoff session now includeUnexpired row && row.exhausted
  let isRestorable := fun row : QueueEntryRow =>
    isExpiredHandoff session now includeUnexpired row && !row.exhausted
  let failed := opened.updateEntries isExhausted
    (fun row => { row.withoutHandoff with
      status := .failed
      failureReason := some .dispatchFailed
      updatedAt := now })
    fun _ => rfl
  let restored := failed.updateEntries isRestorable (QueueEntryRow.release now) fun _ => rfl
  let source :=
    if includeUnexpired then "restore_restart_handoffs" else "restore_expired_handoffs"
  if failed.queueEntries.changes isRestorable > 0 ∨ opened.queueEntries.changes isExhausted > 0 then
    let bumped := restored.bumpVersion session
    pure (bumped.1.snapshotAfter session source (some bumped.2.version))
  else pure (restored.snapshotAfter session source none)

/-! ## Material policy -/

def markAppendFallback (store : TransportQueueStore) (sessionName clientMessageId : String)
    (reason : TransportAppendFallbackReason) (recipient : Option QueueRecipientIdentity) :
    Except QueueStoreError TransportQueueStore := do
  let session ← normalizeSessionName sessionName
  let material ← store.readPrivateDispatchMaterial sessionName clientMessageId recipient
  match material with
  | none => pure store
  | some (.malformed _) => throw .malformedMaterial
  | some (.encoded value) =>
    if value = .null ∨ value = .bool false ∨ value = .num 0 ∨ value = .str "" ∨
        value.field? "appendFallbackReason" = some (.str reason.text) then
      pure store
    else
      let rewritten ← withAppendFallback reason value
      -- The statement binds the names as they were passed, untrimmed.
      let marked := { store with
        queuePrivateMaterial := store.queuePrivateMaterial.updateWhere
          (fun row => isMessage sessionName clientMessageId row &&
            recipientPredicate (normalizeQueueRecipient recipient) row.recipient)
          (fun row => { row with materialJson := .encoded rewritten }) fun _ => rfl }
      pure ((marked.ensureMeta session none).1.incrementVersion sessionName)

/-- Remove only persisted peer-audit messages after a daemon restart. -/
def scrubPeerAuditOrphans (store : TransportQueueStore) (sessionNameInput : String) :
    Except QueueStoreError (TransportQueueStore × List String) := do
  let session ← normalizeSessionName sessionNameInput
  let orphanIds := (store.queuePrivateMaterial.select fun row =>
    inSession session row && isPeerAuditMaterial row.materialJson).map (·.clientMessageId)
  if orphanIds = [] then pure (store, [])
  else
    let removed := orphanIds.foldl
      (fun store clientMessageId => store.deleteMessage session clientMessageId ungated)
      (store.ensureMeta session none).1
    pure ((removed.bumpVersion session).1, orphanIds)

/-! ## Settling messages -/

/-- A transition of one row that also deletes its private material. -/
def settleStrippingMaterial (store : TransportQueueStore) (session clientMessageId : String)
    (settles : QueueEntryRow → Bool) (update : QueueEntryRow → QueueEntryRow)
    (keeps : ∀ row, (update row).key = row.key) : TransportQueueStore :=
  ((store.ensureMeta session none).1.updateEntries
    (fun row => isMessage session clientMessageId row && settles row) update
    keeps).deleteMaterial session clientMessageId

def markMissingPrivateMaterialFailed (store : TransportQueueStore)
    (sessionNameInput clientMessageIdInput : String) (now : Int) :
    Except QueueStoreError (TransportQueueStore × QueueSnapshot) := do
  let session ← normalizeSessionName sessionNameInput
  let clientMessageId ← requireNonEmpty (trim clientMessageIdInput) "clientMessageId"
  let failed := store.settleStrippingMaterial session clientMessageId (fun _ => true)
    (fun row => { row with
      status := .failed
      failureReason := some .privateMaterialMissing
      dropReason := some .privateMaterialMissing
      updatedAt := now })
    fun _ => rfl
  let bumped := failed.bumpVersion session
  pure (bumped.1.snapshotAfter session "private_material_missing"
    (some (bumped.2.dropVersion .privateMaterialMissing)))

def markDeleted (store : TransportQueueStore) (sessionNameInput clientMessageIdInput : String)
    (now : Int) : Except QueueStoreError (TransportQueueStore × QueueSnapshot) := do
  let session ← normalizeSessionName sessionNameInput
  let clientMessageId ← requireNonEmpty (trim clientMessageIdInput) "clientMessageId"
  let deleted := store.settleStrippingMaterial session clientMessageId (fun _ => true)
    (fun row => { row with status := .deleted, updatedAt := now }) fun _ => rfl
  let bumped := deleted.bumpVersion session
  pure (bumped.1.snapshotAfter session "delete" (some bumped.2.version))

/-- Only a failed row is dismissed, but the material goes whatever the row's status. -/
def dismissFailed (store : TransportQueueStore) (sessionNameInput clientMessageIdInput : String)
    (now : Int) : Except QueueStoreError (TransportQueueStore × QueueSnapshot) := do
  let session ← normalizeSessionName sessionNameInput
  let clientMessageId ← requireNonEmpty (trim clientMessageIdInput) "clientMessageId"
  let dismissed := store.settleStrippingMaterial session clientMessageId
    (fun row => row.status.isFailed)
    (fun row => { row with status := .dismissed, updatedAt := now }) fun _ => rfl
  let bumped := dismissed.bumpVersion session
  pure (bumped.1.snapshotAfter session "dismiss_failed" (some bumped.2.version))

def markFailed (store : TransportQueueStore) (sessionNameInput clientMessageIdInput : String)
    (failureReason : QueueFailureReason) (now : Int) :
    Except QueueStoreError (TransportQueueStore × QueueSnapshot) := do
  let session ← normalizeSessionName sessionNameInput
  let clientMessageId ← requireNonEmpty (trim clientMessageIdInput) "clientMessageId"
  let failed := (store.ensureMeta session none).1.updateEntries
    (isMessage session clientMessageId)
    (fun row => { row with
      status := .failed
      failureReason := some failureReason
      updatedAt := now })
    fun _ => rfl
  let bumped := failed.bumpVersion session
  pure (bumped.1.snapshotAfter session "mark_failed" (some bumped.2.version))

end Host

end TransportQueueStore

end ImCodes.Queue
