import ImCodes.Library.Text

/-!
# Transport queue types

The vocabulary that the durable queue of the daemon and the projection of its
clients share: entry statuses, the events on the wire, and the display order.
-/

set_option autoImplicit false

namespace ImCodes.Queue

open Library

inductive QueueEntryStatus where
  | queued
  | handoffInflight
  | dispatching
  | failed
  | expired
  | capacityEvicted
  | cancelled
  | sent
  | deleted
  | dismissed
  | sessionRemoved
deriving DecidableEq, Repr

inductive QueuePlacement where
  | normal
  | front
deriving DecidableEq, Repr

/-- Daemon-authored lifecycle identity for supervision control traffic. -/
inductive QueueSupervisionReference where
  | exactIntegration (taskId assignmentId revision : String)
  | implementationBlocker (taskId assignmentId revision exactError : String)
deriving DecidableEq, Repr

inductive QueueDropReason where
  | expired
  | staleExpired
  | superseded
  | capacityEvicted
  | userCleared
  | userStopped
  | sessionRemoved
  | privateMaterialMissing
deriving DecidableEq, Repr

/-- `undeclared` is a reason outside the declared set, as an event off the wire
can carry one. -/
inductive QueueResetReason where
  | sqliteRestore
  | runtimeRecreated
  | userClear
  | authorityCorruptReinitialized
  | undeclared (text : String)
deriving DecidableEq, Repr

inductive QueueFailureReason where
  | dispatchFailed
  | expired
  | capacityEvicted
  | cancelled
  | privateMaterialMissing
  | sqliteDegraded
deriving DecidableEq, Repr

inductive SessionSendDeliveryMode where
  | append
  | queue
deriving DecidableEq, Repr

inductive TransportAppendFallbackReason where
  | unsupported
  | attachmentsUnsupported
  | controlUnsupported
  | stale
deriving DecidableEq, Repr

def SessionSendDeliveryMode.text : SessionSendDeliveryMode → String
  | .append => "append"
  | .queue => "queue"

def SessionSendDeliveryMode.ofText? (text : String) : Option SessionSendDeliveryMode :=
  [.append, .queue].find? fun mode => mode.text = text

def TransportAppendFallbackReason.text : TransportAppendFallbackReason → String
  | .unsupported => "unsupported"
  | .attachmentsUnsupported => "attachments_unsupported"
  | .controlUnsupported => "control_unsupported"
  | .stale => "stale"

def TransportAppendFallbackReason.ofText? (text : String) :
    Option TransportAppendFallbackReason :=
  [.unsupported, .attachmentsUnsupported, .controlUnsupported, .stale].find?
    fun reason => reason.text = text

/-- `LIVE_QUEUE_ENTRY_STATUSES`. -/
def QueueEntryStatus.isLive (status : QueueEntryStatus) : Bool :=
  status ∈ [QueueEntryStatus.queued, .handoffInflight, .dispatching]

/-- `FAILED_QUEUE_ENTRY_STATUSES`. -/
def QueueEntryStatus.isFailed (status : QueueEntryStatus) : Bool :=
  status ∈ [QueueEntryStatus.failed, .expired, .capacityEvicted, .cancelled]

/-- `QUEUE_RESET_REASONS`. -/
def QueueResetReason.isRecognized (reason : QueueResetReason) : Bool :=
  reason ∈ [QueueResetReason.sqliteRestore, .runtimeRecreated, .userClear,
    .authorityCorruptReinitialized]

/-- Who sent a message into a shared session. -/
structure QueueSharedActorProjection where
  actorId : Option String
  displayName : Option String
  role : Option String
  type : Option String
  avatarUrl : Option String
  color : Option String
deriving DecidableEq, Repr

structure QueueProjectionEntry where
  clientMessageId : String
  text : String
  status : QueueEntryStatus
  placement : QueuePlacement
  ordinal : Int
  createdAt : Int
  updatedAt : Int
  commandId : Option String
  activityGeneration : Option String
  replacesClientMessageId : Option String
  failureReason : Option QueueFailureReason
  dropReason : Option QueueDropReason
  sharedActor : Option QueueSharedActorProjection
  supervisionReference : Option QueueSupervisionReference
  deliveryMode : Option SessionSendDeliveryMode
  appendFallbackReason : Option TransportAppendFallbackReason
deriving DecidableEq, Repr

structure QueueSnapshot where
  sessionName : String
  queueEpoch : String
  queueAuthorityId : String
  pendingMessageVersion : JsNumber
  pendingMessageEntries : List QueueProjectionEntry
  failedMessageEntries : List QueueProjectionEntry
  source : String
  resetReason : Option QueueResetReason
  dropReason : Option QueueDropReason
  activityGeneration : Option String
deriving DecidableEq, Repr

structure QueueDeliveryFact where
  sessionName : String
  clientMessageId : String
  queueEpoch : String
  queueAuthorityId : String
  pendingMessageVersion : JsNumber
  deliveryFrameId : String
  deliveryFrameVersion : JsNumber
deriving DecidableEq, Repr

inductive QueueReceiptStatus where
  | accepted
  | error
deriving DecidableEq, Repr

structure QueueMutationReceipt where
  sessionName : String
  commandId : String
  status : QueueReceiptStatus
  reason : Option String
deriving DecidableEq, Repr

structure QueueFailureDropEvent where
  sessionName : String
  queueEpoch : String
  queueAuthorityId : String
  pendingMessageVersion : JsNumber
  clientMessageId : String
  failureReason : Option QueueFailureReason
  dropReason : Option QueueDropReason
deriving DecidableEq, Repr

structure QueueResetEvent where
  sessionName : String
  queueEpoch : String
  queueAuthorityId : String
  pendingMessageVersion : JsNumber
  resetReason : QueueResetReason
deriving DecidableEq, Repr

inductive QueueEvent where
  | snapshot (event : QueueSnapshot)
  | delivery (event : QueueDeliveryFact)
  | receipt (event : QueueMutationReceipt)
  | failure (event : QueueFailureDropEvent)
  | reset (event : QueueResetEvent)
deriving DecidableEq, Repr

/-- The columns the display order compares. -/
structure QueuePosition where
  placement : QueuePlacement
  ordinal : Int
  createdAt : Int
  clientMessageId : String
deriving DecidableEq, Repr

def QueueProjectionEntry.position (entry : QueueProjectionEntry) : QueuePosition where
  placement := entry.placement
  ordinal := entry.ordinal
  createdAt := entry.createdAt
  clientMessageId := entry.clientMessageId

section Order

variable [Host]

/-- The comparator of every queue listing. -/
def compareQueuePositions (a b : QueuePosition) : Int :=
  if a.placement ≠ b.placement then
    if a.placement = .front then -1 else 1
  else if a.ordinal - b.ordinal ≠ 0 then a.ordinal - b.ordinal
  else if a.createdAt - b.createdAt ≠ 0 then a.createdAt - b.createdAt
  else Host.localeCompare a.clientMessageId b.clientMessageId

def sortByPosition {Entry : Type} (position : Entry → QueuePosition)
    (entries : List Entry) : List Entry :=
  entries.insertionSort fun a b => compareQueuePositions (position a) (position b) ≤ 0

@[simp] theorem mem_sortByPosition {Entry : Type} {position : Entry → QueuePosition}
    {entries : List Entry} {entry : Entry} :
    entry ∈ sortByPosition position entries ↔ entry ∈ entries :=
  (List.perm_insertionSort _ entries).mem_iff

end Order

end ImCodes.Queue
