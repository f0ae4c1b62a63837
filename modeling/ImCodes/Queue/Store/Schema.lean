import ImCodes.Library.Json
import ImCodes.Library.Table
import ImCodes.Queue.Types

/-!
# The durable queue: tables and recipients

One `TransportQueueStore` is the five queue tables of the daemon's database. Every
row but those of `queue_meta` belongs to a session and a message, and carries two
nullable columns naming the runtime it is addressed to.
-/

set_option autoImplicit false

namespace ImCodes.Queue

open Library

def maxQueueHandoffAttempts : Nat := 3

def queueCancellationTombstoneTtlMs : Int := 24 * 60 * 60 * 1000

inductive QueueStoreError where
  | required (label : String)
  | supervisionReferenceMismatch
  | uniqueConstraint
  | malformedMaterial
  | materialNotAnObject
deriving DecidableEq, Repr

theorem bind_eq_ok {Error Value Result : Type} {first : Except Error Value}
    {rest : Value → Except Error Result} {result : Result} :
    first >>= rest = .ok result ↔ ∃ value, first = .ok value ∧ rest value = .ok result := by
  cases first with
  | error error => simp [bind, Except.bind]
  | ok value => simp [bind, Except.bind]

theorem answer_ok {Error Value Result : Type} {call : Except Error Value}
    {make : Value → Result} {result : Result}
    (done : call >>= (fun answer => pure (make answer)) = .ok result) :
    ∃ answer, call = .ok answer ∧ make answer = result := by
  obtain ⟨answer, called, done⟩ := bind_eq_ok.mp done
  exact ⟨answer, called, Except.ok.inj done⟩

def normalizeSessionName (sessionName : String) : Except QueueStoreError String :=
  if trim sessionName = "" then .error (.required "sessionName") else .ok (trim sessionName)

def requireNonEmpty (value label : String) : Except QueueStoreError String :=
  if value = "" then .error (.required label) else .ok value

/-- The runtime a queue row is addressed to. -/
structure QueueRecipientIdentity where
  sessionInstanceId : String
  runtimeEpoch : String
deriving DecidableEq, Repr

/-- Usable identity, or none. A blank field is not a wildcard. -/
def normalizeQueueRecipient (recipient : Option QueueRecipientIdentity) :
    Option QueueRecipientIdentity :=
  match trimmed (recipient.map (·.sessionInstanceId)), trimmed (recipient.map (·.runtimeEpoch)) with
  | some sessionInstanceId, some runtimeEpoch => some ⟨sessionInstanceId, runtimeEpoch⟩
  | _, _ => none

/-- The columns `recipient_session_instance_id` and `recipient_runtime_epoch`. -/
structure RecipientColumns where
  sessionInstanceId : Option String
  runtimeEpoch : Option String
deriving DecidableEq, Repr

def RecipientColumns.legacy : RecipientColumns := ⟨none, none⟩

def RecipientColumns.unset (columns : RecipientColumns) : Bool :=
  truthy columns.sessionInstanceId = none && truthy columns.runtimeEpoch = none

def QueueRecipientIdentity.columns (identity : QueueRecipientIdentity) : RecipientColumns :=
  ⟨some identity.sessionInstanceId, some identity.runtimeEpoch⟩

/-- The columns a caller writes, and the only ones `recipientPredicate` lets it match. -/
def callerColumns : Option QueueRecipientIdentity → RecipientColumns
  | some identity => identity.columns
  | none => .legacy

def recipientPredicate (caller : Option QueueRecipientIdentity) (columns : RecipientColumns) :
    Bool :=
  columns = callerColumns caller

structure QueueMetaRow where
  sessionName : String
  queueEpoch : String
  queueAuthorityId : String
  pendingMessageVersion : Nat
  nextOrdinal : Nat
  recipient : RecipientColumns
deriving DecidableEq, Repr

structure QueueEntryRow where
  sessionName : String
  clientMessageId : String
  commandId : Option String
  text : String
  status : QueueEntryStatus
  placement : QueuePlacement
  ordinal : Nat
  createdAt : Int
  updatedAt : Int
  activityGeneration : Option String
  replacesClientMessageId : Option String
  failureReason : Option QueueFailureReason
  dropReason : Option QueueDropReason
  handoffId : Option String
  handoffStartedAt : Option Int
  handoffExpiresAt : Option Int
  handoffAttempt : Option Nat
  privateMaterialRef : Option String
  supervisionReference : Option QueueSupervisionReference
  recipient : RecipientColumns
deriving DecidableEq, Repr

structure QueuePrivateMaterialRow where
  sessionName : String
  clientMessageId : String
  materialJson : JsonText
  updatedAt : Int
  recipient : RecipientColumns
deriving DecidableEq, Repr

structure QueueDeliveryTombstoneRow where
  sessionName : String
  queueEpoch : String
  clientMessageId : String
  deliveryFrameId : String
  createdAt : Int
  recipient : RecipientColumns
  providerConversationKey : Option String
deriving DecidableEq, Repr

structure QueueCancellationTombstoneRow where
  sessionName : String
  clientMessageId : String
  createdAt : Int
  recipient : RecipientColumns
deriving DecidableEq, Repr

def QueueEntryRow.key (row : QueueEntryRow) : String × String :=
  (row.sessionName, row.clientMessageId)

def QueuePrivateMaterialRow.key (row : QueuePrivateMaterialRow) : String × String :=
  (row.sessionName, row.clientMessageId)

def QueueDeliveryTombstoneRow.key (row : QueueDeliveryTombstoneRow) : String × String × String :=
  (row.sessionName, row.queueEpoch, row.clientMessageId)

def QueueCancellationTombstoneRow.key (row : QueueCancellationTombstoneRow) : String × String :=
  (row.sessionName, row.clientMessageId)

/-- What the four message tables have in common; the source loops over their names. -/
class MessageRow (Row : Type) where
  sessionName : Row → String
  clientMessageId : Row → String
  recipient : Row → RecipientColumns
  timestamp : Row → Int
  withRecipient : Row → RecipientColumns → Row

instance : MessageRow QueueEntryRow where
  sessionName := QueueEntryRow.sessionName
  clientMessageId := QueueEntryRow.clientMessageId
  recipient := QueueEntryRow.recipient
  timestamp := QueueEntryRow.createdAt
  withRecipient row recipient := { row with recipient }

instance : MessageRow QueuePrivateMaterialRow where
  sessionName := QueuePrivateMaterialRow.sessionName
  clientMessageId := QueuePrivateMaterialRow.clientMessageId
  recipient := QueuePrivateMaterialRow.recipient
  timestamp := QueuePrivateMaterialRow.updatedAt
  withRecipient row recipient := { row with recipient }

instance : MessageRow QueueDeliveryTombstoneRow where
  sessionName := QueueDeliveryTombstoneRow.sessionName
  clientMessageId := QueueDeliveryTombstoneRow.clientMessageId
  recipient := QueueDeliveryTombstoneRow.recipient
  timestamp := QueueDeliveryTombstoneRow.createdAt
  withRecipient row recipient := { row with recipient }

instance : MessageRow QueueCancellationTombstoneRow where
  sessionName := QueueCancellationTombstoneRow.sessionName
  clientMessageId := QueueCancellationTombstoneRow.clientMessageId
  recipient := QueueCancellationTombstoneRow.recipient
  timestamp := QueueCancellationTombstoneRow.createdAt
  withRecipient row recipient := { row with recipient }

/-- A row of a message table, seen through what the four have in common. -/
structure QueueMessageRow where
  sessionName : String
  clientMessageId : String
  recipient : RecipientColumns
  timestamp : Int
deriving DecidableEq, Repr

def asMessageRow {Row : Type} [MessageRow Row] (row : Row) : QueueMessageRow where
  sessionName := MessageRow.sessionName row
  clientMessageId := MessageRow.clientMessageId row
  recipient := MessageRow.recipient row
  timestamp := MessageRow.timestamp row

structure TransportQueueStore where
  queueMeta : Table QueueMetaRow String QueueMetaRow.sessionName
  queueEntries : Table QueueEntryRow (String × String) QueueEntryRow.key
  queuePrivateMaterial : Table QueuePrivateMaterialRow (String × String) QueuePrivateMaterialRow.key
  queueDeliveryTombstones :
    Table QueueDeliveryTombstoneRow (String × String × String) QueueDeliveryTombstoneRow.key
  queueCancellationTombstones :
    Table QueueCancellationTombstoneRow (String × String) QueueCancellationTombstoneRow.key
  /-- How many UUIDs the host has handed out. -/
  uuidsIssued : Nat

def TransportQueueStore.empty : TransportQueueStore :=
  ⟨.empty, .empty, .empty, .empty, .empty, 0⟩

def TransportQueueStore.entry? (store : TransportQueueStore) (sessionName clientMessageId : String) :
    Option QueueEntryRow :=
  store.queueEntries.lookup (sessionName, clientMessageId)

/-- The row of one message matches `WHERE session_name = ? AND client_message_id = ?`. -/
def isMessage {Row : Type} [MessageRow Row] (sessionName clientMessageId : String) (row : Row) :
    Bool :=
  MessageRow.sessionName row = sessionName && MessageRow.clientMessageId row = clientMessageId

def inSession {Row : Type} [MessageRow Row] (sessionName : String) (row : Row) : Bool :=
  MessageRow.sessionName row = sessionName

theorem isMessage_iff_entryKey {session clientMessageId : String} {row : QueueEntryRow} :
    isMessage session clientMessageId row = true ↔ row.key = (session, clientMessageId) := by
  simp [isMessage, MessageRow.sessionName, MessageRow.clientMessageId, QueueEntryRow.key]

theorem isMessage_iff_materialKey {session clientMessageId : String}
    {row : QueuePrivateMaterialRow} :
    isMessage session clientMessageId row = true ↔ row.key = (session, clientMessageId) := by
  simp [isMessage, MessageRow.sessionName, MessageRow.clientMessageId,
    QueuePrivateMaterialRow.key]

theorem isMessage_iff_cancellationKey {session clientMessageId : String}
    {row : QueueCancellationTombstoneRow} :
    isMessage session clientMessageId row = true ↔ row.key = (session, clientMessageId) := by
  simp [isMessage, MessageRow.sessionName, MessageRow.clientMessageId,
    QueueCancellationTombstoneRow.key]

/-- `[...new Set(texts)]`. -/
def firstOccurrences : List String → List String
  | [] => []
  | text :: rest => text :: (firstOccurrences rest).filter fun other => other ≠ text

theorem mem_firstOccurrences {texts : List String} {text : String} :
    text ∈ firstOccurrences texts ↔ text ∈ texts := by
  induction texts with
  | nil => rfl
  | cons head rest ih =>
    by_cases same : text = head
    · simp [firstOccurrences, same]
    · simp [firstOccurrences, same, ih]

/-- `[...new Set(ids.map((id) => id.trim()).filter(Boolean))]`. -/
def normalizeMessageIds (ids : List String) : List String :=
  firstOccurrences ((ids.map trim).filter fun id => id ≠ "")

theorem normalizeSessionName_eq_ok {sessionName session : String}
    (accepted : normalizeSessionName sessionName = .ok session) :
    session = trim sessionName ∧ session ≠ "" ∧ trim session = session := by
  unfold normalizeSessionName at accepted
  split at accepted
  · cases accepted
  · next nonempty =>
      cases accepted
      exact ⟨rfl, nonempty, trim_trim sessionName⟩

theorem requireNonEmpty_eq_ok {value label result : String}
    (accepted : requireNonEmpty value label = .ok result) : result = value ∧ value ≠ "" := by
  unfold requireNonEmpty at accepted
  split at accepted
  · cases accepted
  · next nonempty =>
      cases accepted
      exact ⟨rfl, nonempty⟩

section
variable {Result : Type} {rest : String → Except QueueStoreError Result} {result : Result}

theorem session_ok {sessionName : String}
    (done : normalizeSessionName sessionName >>= rest = .ok result) :
    rest (trim sessionName) = .ok result := by
  obtain ⟨session, named, done⟩ := bind_eq_ok.mp done
  rwa [(normalizeSessionName_eq_ok named).1] at done

theorem message_ok {value label : String}
    (done : requireNonEmpty value label >>= rest = .ok result) : rest value = .ok result := by
  obtain ⟨required, named, done⟩ := bind_eq_ok.mp done
  rwa [(requireNonEmpty_eq_ok named).1] at done

end

theorem normalizeQueueRecipient_eq_some {recipient : Option QueueRecipientIdentity}
    {identity : QueueRecipientIdentity} (found : normalizeQueueRecipient recipient = some identity) :
    identity.sessionInstanceId ≠ "" ∧ identity.runtimeEpoch ≠ "" ∧
      normalizeQueueRecipient (some identity) = some identity := by
  unfold normalizeQueueRecipient at found
  split at found
  · next instanceFound epochFound =>
      cases found
      obtain ⟨cleanInstance, instanceText⟩ := trimmed_eq_some instanceFound
      obtain ⟨cleanEpoch, epochText⟩ := trimmed_eq_some epochFound
      refine ⟨instanceText, epochText, ?_⟩
      simp [normalizeQueueRecipient, trimmed_of_clean cleanInstance instanceText,
        trimmed_of_clean cleanEpoch epochText]
  · cases found

theorem normalizeQueueRecipient_idem (recipient : Option QueueRecipientIdentity) :
    normalizeQueueRecipient (normalizeQueueRecipient recipient) =
      normalizeQueueRecipient recipient := by
  cases found : normalizeQueueRecipient recipient with
  | none => rfl
  | some identity => exact (normalizeQueueRecipient_eq_some found).2.2

@[simp] theorem recipientPredicate_iff {caller : Option QueueRecipientIdentity}
    {columns : RecipientColumns} :
    recipientPredicate caller columns = true ↔ columns = callerColumns caller := by
  simp [recipientPredicate]

end ImCodes.Queue
