import ImCodes.Library.Table
import ImCodes.Library.Json
import Mathlib.Data.List.Sort

/-!
# Attended consents

A guest of an attended link asks the owner of a desktop for consent. The server keeps each
request as a row, the node answers it once, and one session may then be opened on it. What a
transaction does to a row it has locked is a function of that row here.
-/

set_option autoImplicit false

namespace ImCodes.Remote

open Library

inductive ConsentState
  | pending | approved | denied | cancelled | timedOut
deriving DecidableEq, Repr

inductive ConsentDecision
  | approved | denied
deriving DecidableEq, Repr

inductive ConsentCancelReason
  | timeout | localUiFailed | protectedDesktop | nonInteractiveSession | nodeRestarted
  | daemonGenerationChanged | browserDisconnected | linkRevoked | modeMismatch | hostMismatch
deriving DecidableEq, Repr

/-- The server's own cause of a cancellation, kept for the audit. -/
inductive ConsentCancelTrigger
  | browserDisconnect | linkRevoke | localStop | endpointReplaced | daemonDisconnect
  | callerCancel | nodeCancel | timeout
deriving DecidableEq, Repr

inductive ConsentError
  | invalidRequest | dispatchFailed | notFound | notApproved | expired | bindingMismatch
  | alreadyConsumed
  /-- The database refused a second row of one approval id. -/
  | duplicateKey
deriving DecidableEq, Repr

inductive AccessMode
  | view | control
deriving DecidableEq, Repr

inductive ActorSource
  | account | attendedLink | unattendedLink | nodePassword
deriving DecidableEq, Repr

structure ConsentRow where
  approvalId : String
  hostId : String
  actorSource : ActorSource
  actorAuditId : String
  browserKeyHash : String
  executionServerId : String
  endpointGeneration : Int
  daemonGeneration : Int
  accessMode : AccessMode
  requesterLabel : String
  state : ConsentState
  nodeDecision : Option ConsentDecision
  nodeCancelReason : Option ConsentCancelReason
  nodeResolvedAt : Option Int
  cancelReason : Option ConsentCancelReason
  cancelTrigger : Option ConsentCancelTrigger
  createdAt : Int
  deadlineAt : Int
  resolvedAt : Option Int
  consumedAt : Option Int
  consumedSessionId : Option String
  updatedAt : Int
deriving DecidableEq, Repr

abbrev ConsentTable := Table ConsentRow String ConsentRow.approvalId

/-- A row as the callers see it. -/
structure AttendedConsent where
  approvalId : String
  hostId : String
  actorAuditId : String
  browserKeyHash : String
  executionServerId : String
  endpointGeneration : Int
  daemonGeneration : Int
  mode : AccessMode
  requesterLabel : String
  state : ConsentState
  nodeDecision : Option ConsentDecision
  nodeCancelReason : Option ConsentCancelReason
  cancelReason : Option ConsentCancelReason
  cancelTrigger : Option ConsentCancelTrigger
  createdAt : Int
  deadlineAt : Int
  resolvedAt : Option Int
  consumedAt : Option Int
  consumedSessionId : Option String
deriving DecidableEq, Repr

def ConsentRow.toConsent (row : ConsentRow) : AttendedConsent where
  approvalId := row.approvalId
  hostId := row.hostId
  actorAuditId := row.actorAuditId
  browserKeyHash := row.browserKeyHash
  executionServerId := row.executionServerId
  endpointGeneration := row.endpointGeneration
  daemonGeneration := row.daemonGeneration
  mode := row.accessMode
  requesterLabel := row.requesterLabel
  state := row.state
  nodeDecision := row.nodeDecision
  nodeCancelReason := row.nodeCancelReason
  cancelReason := row.cancelReason
  cancelTrigger := row.cancelTrigger
  createdAt := row.createdAt
  deadlineAt := row.deadlineAt
  resolvedAt := row.resolvedAt
  consumedAt := row.consumedAt
  consumedSessionId := row.consumedSessionId

structure RequestConsentInput where
  hostId : String
  actorAuditId : String
  browserKeyHash : String
  executionServerId : String
  endpointGeneration : Int
  daemonGeneration : Int
  mode : AccessMode
  requesterLabel : String
  deadlineAt : Int
deriving DecidableEq, Repr

/-- What the transport hands over of a node: its endpoint, and the frame unread. -/
structure NodeResultEnvelope where
  executionServerId : String
  daemonGeneration : Int
  message : Json
deriving DecidableEq

inductive CancelSelector
  | approvalId (value : String)
  | browserKeyHash (value : String)
  | actorAuditId (value : String)
  | hostId (value : String)
  | executionServer (executionServerId : String) (daemonGeneration : Option Int)
deriving DecidableEq, Repr

structure CancelConsentsInput where
  selector : CancelSelector
  reason : ConsentCancelReason
  trigger : ConsentCancelTrigger
  /-- Whether a dispatcher is given. -/
  dispatches : Bool
deriving DecidableEq, Repr

structure ConsumeConsentInput where
  approvalId : String
  hostId : String
  actorAuditId : String
  browserKeyHash : String
  executionServerId : String
  endpointGeneration : Int
  daemonGeneration : Int
  mode : AccessMode
  sessionId : String
deriving DecidableEq, Repr

/-! ## Validation -/

def isSafeInteger (value : Int) : Bool :=
  decide (value.natAbs ≤ 9007199254740991)

def isSafeNonNegativeInteger (value : Int) : Bool :=
  isSafeInteger value && decide (0 ≤ value)

/-- `/^[A-Za-z0-9_-]{16,128}$/`. -/
def isRemoteDesktopId (value : String) : Bool :=
  let chars := value.toList
  decide (16 ≤ chars.length) && decide (chars.length ≤ 128) &&
    chars.all fun c => c.isAlphanum || c = '_' || c = '-'

/-- `/^[0-9a-f]{64}$/`. -/
def isBrowserKeyHash (value : String) : Bool :=
  let chars := value.toList
  decide (chars.length = 64) &&
    chars.all fun c => c.isDigit || (decide ('a' ≤ c) && decide (c ≤ 'f'))

def requesterLabelBytes : Nat := 128
def consentDeadlineMs : Int := 60000

def isBoundedString (value : String) (maxBytes : Nat) : Bool :=
  decide (value ≠ "") && decide (value.utf8ByteSize ≤ maxBytes)

def RequestConsentInput.isValid (input : RequestConsentInput) (now : Int) : Bool :=
  isRemoteDesktopId input.hostId && isRemoteDesktopId input.actorAuditId &&
    isBrowserKeyHash input.browserKeyHash && isRemoteDesktopId input.executionServerId &&
    isSafeNonNegativeInteger input.endpointGeneration &&
    isSafeNonNegativeInteger input.daemonGeneration &&
    isBoundedString input.requesterLabel requesterLabelBytes &&
    isSafeInteger input.deadlineAt && decide (now < input.deadlineAt) &&
    decide (input.deadlineAt - now ≤ consentDeadlineMs)

def ConsumeConsentInput.isValid (input : ConsumeConsentInput) : Bool :=
  isRemoteDesktopId input.approvalId && isRemoteDesktopId input.hostId &&
    isRemoteDesktopId input.actorAuditId && isBrowserKeyHash input.browserKeyHash &&
    isRemoteDesktopId input.executionServerId &&
    isSafeNonNegativeInteger input.endpointGeneration &&
    isSafeNonNegativeInteger input.daemonGeneration && isRemoteDesktopId input.sessionId

def CancelSelector.isValid : CancelSelector → Bool
  | .approvalId value | .actorAuditId value | .hostId value => isRemoteDesktopId value
  | .browserKeyHash value => isBrowserKeyHash value
  | .executionServer executionServerId daemonGeneration =>
    isRemoteDesktopId executionServerId && daemonGeneration.all isSafeNonNegativeInteger

/-- `selectorSql`: the clause of the `WHERE` the selector stands for. -/
def CancelSelector.selects (selector : CancelSelector) (row : ConsentRow) : Bool :=
  match selector with
  | .approvalId value => row.approvalId = value
  | .browserKeyHash value => row.browserKeyHash = value
  | .actorAuditId value => row.actorAuditId = value
  | .hostId value => row.hostId = value
  | .executionServer executionServerId none => row.executionServerId = executionServerId
  | .executionServer executionServerId (some daemonGeneration) =>
    row.executionServerId = executionServerId && row.daemonGeneration = daemonGeneration

/-! ## Messages to and from the node -/

structure ConsentRequestMessage where
  approvalId : String
  hostId : String
  mode : AccessMode
  requesterLabel : String
  createdAt : Int
  deadlineAt : Int
  daemonGeneration : Int
deriving DecidableEq, Repr

/-- The messages a node may send. -/
inductive NodeConsentMessage
  | result (approvalId : String) (decision : ConsentDecision) (daemonGeneration : Int)
  | cancel (approvalId : String) (reason : ConsentCancelReason)
deriving DecidableEq, Repr

def NodeConsentMessage.approvalId : NodeConsentMessage → String
  | .result approvalId _ _ | .cancel approvalId _ => approvalId

/-- The messages the server sends. -/
inductive ServerConsentMessage
  | request (message : ConsentRequestMessage)
  | cancel (approvalId : String) (reason : ConsentCancelReason)
deriving DecidableEq, Repr

structure ConsentDispatchCommand where
  executionServerId : String
  daemonGeneration : Int
  message : ServerConsentMessage
deriving DecidableEq, Repr

def ConsentDecision.ofText : String → Option ConsentDecision
  | "approved" => some .approved
  | "denied" => some .denied
  | _ => none

def ConsentCancelReason.ofText : String → Option ConsentCancelReason
  | "timeout" => some .timeout
  | "local_ui_failed" => some .localUiFailed
  | "protected_desktop" => some .protectedDesktop
  | "non_interactive_session" => some .nonInteractiveSession
  | "node_restarted" => some .nodeRestarted
  | "daemon_generation_changed" => some .daemonGenerationChanged
  | "browser_disconnected" => some .browserDisconnected
  | "link_revoked" => some .linkRevoked
  | "mode_mismatch" => some .modeMismatch
  | "host_mismatch" => some .hostMismatch
  | _ => none

def hasExactKeys (value : Json) (required : List String) : Bool :=
  match value with
  | .obj members =>
    (required.all fun key => members.any fun member => member.1 = key) &&
      members.all fun member => required.contains member.1
  | _ => false

def idField? (value : Json) (name : String) : Option String :=
  ((value.field? name).bind Json.asString?).filter isRemoteDesktopId

def safeIntegerField? (value : Json) (name : String) : Option Int :=
  match value.field? name with
  | some (.num number) =>
    if number.den = 1 ∧ isSafeNonNegativeInteger number.num then some number.num else none
  | _ => none

/-- `validateRemoteDesktopConsentMessage`, of the messages a node may send. -/
def validateNodeConsentMessage (value : Json) : Option NodeConsentMessage :=
  if value.field? "type" = some (.str "remote_desktop.consent.result") then
    if hasExactKeys value ["type", "approvalId", "decision", "daemonGeneration"] then do
      let approvalId ← idField? value "approvalId"
      let text ← (value.field? "decision").bind Json.asString?
      let decision ← ConsentDecision.ofText text
      let daemonGeneration ← safeIntegerField? value "daemonGeneration"
      some (.result approvalId decision daemonGeneration)
    else none
  else if value.field? "type" = some (.str "remote_desktop.consent.cancel") then
    if hasExactKeys value ["type", "approvalId", "reason"] then do
      let approvalId ← idField? value "approvalId"
      let text ← (value.field? "reason").bind Json.asString?
      let reason ← ConsentCancelReason.ofText text
      some (.cancel approvalId reason)
    else none
  else none

def ConsentRequestMessage.isValid (message : ConsentRequestMessage) : Bool :=
  isRemoteDesktopId message.approvalId && isRemoteDesktopId message.hostId &&
    isBoundedString message.requesterLabel requesterLabelBytes &&
    isSafeNonNegativeInteger message.createdAt &&
    isSafeNonNegativeInteger message.deadlineAt &&
    isSafeNonNegativeInteger message.daemonGeneration &&
    decide (message.createdAt < message.deadlineAt) &&
    decide (message.deadlineAt - message.createdAt ≤ consentDeadlineMs)

/-- What of a node's frame is taken up at all. -/
def NodeResultEnvelope.nodeMessage? (input : NodeResultEnvelope) : Option NodeConsentMessage :=
  if isRemoteDesktopId input.executionServerId &&
      isSafeNonNegativeInteger input.daemonGeneration then
    validateNodeConsentMessage input.message
  else none

/-! ## What a transaction does to a row -/

namespace ConsentRow

/-- The row `requestAttendedConsent` inserts. -/
def requested (input : RequestConsentInput) (approvalId : String) (now : Int) : ConsentRow where
  approvalId := approvalId
  hostId := input.hostId
  actorSource := .attendedLink
  actorAuditId := input.actorAuditId
  browserKeyHash := input.browserKeyHash
  executionServerId := input.executionServerId
  endpointGeneration := input.endpointGeneration
  daemonGeneration := input.daemonGeneration
  accessMode := input.mode
  requesterLabel := input.requesterLabel
  state := .pending
  nodeDecision := none
  nodeCancelReason := none
  nodeResolvedAt := none
  cancelReason := none
  cancelTrigger := none
  createdAt := now
  deadlineAt := input.deadlineAt
  resolvedAt := none
  consumedAt := none
  consumedSessionId := none
  updatedAt := now

/-- `state IN ('pending', 'approved') AND consumed_at IS NULL`. -/
def isOpen (row : ConsentRow) : Bool :=
  (row.state = .pending || row.state = .approved) && row.consumedAt.isNone

def timeOut (row : ConsentRow) (now : Int) : ConsentRow :=
  { row with
    state := .timedOut
    cancelReason := some .timeout
    cancelTrigger := some .timeout
    resolvedAt := some now
    updatedAt := now }

/-- `recordAttendedConsentNodeMessage` on the row it locked: whether the message was accepted,
and the row it leaves. Its statements repeat the guards checked here. -/
def recordNodeMessage (row : ConsentRow) (input : NodeResultEnvelope)
    (message : NodeConsentMessage) (now : Int) : Bool × ConsentRow :=
  if row.state ≠ .pending ∨ row.nodeResolvedAt.isSome ∨
      row.executionServerId ≠ input.executionServerId ∨
      row.daemonGeneration ≠ input.daemonGeneration then (false, row)
  else if row.deadlineAt ≤ now then (false, row.timeOut now)
  else
    match message with
    | .result _ decision daemonGeneration =>
      if daemonGeneration ≠ input.daemonGeneration then (false, row)
      else
        (true, { row with
          state := match decision with
            | .approved => .approved
            | .denied => .denied
          nodeDecision := some decision
          nodeResolvedAt := some now
          resolvedAt := some now
          updatedAt := now })
    | .cancel _ reason =>
      (true, { row with
        state := .cancelled
        nodeCancelReason := some reason
        nodeResolvedAt := some now
        cancelReason := some reason
        cancelTrigger := some .nodeCancel
        resolvedAt := some now
        updatedAt := now })

def cancel (row : ConsentRow) (reason : ConsentCancelReason) (trigger : ConsentCancelTrigger)
    (now : Int) : ConsentRow :=
  { row with
    state := .cancelled
    cancelReason := some reason
    cancelTrigger := some trigger
    resolvedAt := some now
    updatedAt := now }

def hasExactBinding (row : ConsentRow) (input : ConsumeConsentInput) : Bool :=
  row.hostId = input.hostId && row.actorSource = .attendedLink &&
    row.actorAuditId = input.actorAuditId && row.browserKeyHash = input.browserKeyHash &&
    row.executionServerId = input.executionServerId &&
    row.endpointGeneration = input.endpointGeneration &&
    row.daemonGeneration = input.daemonGeneration && row.accessMode = input.mode

/-- `consumeApprovedAttendedConsent` on the row it locked: its answer, and the row its
statements leave, which a raised error takes back. -/
def consume (row : ConsentRow) (input : ConsumeConsentInput) (now : Int) :
    Except ConsentError (AttendedConsent × Bool) × ConsentRow :=
  if row.hasExactBinding input = false then (.error .bindingMismatch, row)
  else if row.consumedAt.isSome then
    if row.state = .approved ∧ row.consumedSessionId = some input.sessionId then
      (.ok (row.toConsent, true), row)
    else (.error .alreadyConsumed, row)
  else if row.state ≠ .approved ∨ row.nodeDecision ≠ some .approved then
    (.error .notApproved, row)
  else if row.deadlineAt ≤ now then (.error .expired, row.timeOut now)
  else
    let consumed := { row with
      consumedAt := some now
      consumedSessionId := some input.sessionId
      updatedAt := now }
    (.ok (consumed.toConsent, false), consumed)

/-- `ORDER BY created_at, approval_id`. -/
def createdOrder (left right : ConsentRow) : Prop :=
  left.createdAt < right.createdAt ∨
    (left.createdAt = right.createdAt ∧ left.approvalId ≤ right.approvalId)

/-- `ORDER BY deadline_at, approval_id`. -/
def deadlineOrder (left right : ConsentRow) : Prop :=
  left.deadlineAt < right.deadlineAt ∨
    (left.deadlineAt = right.deadlineAt ∧ left.approvalId ≤ right.approvalId)

instance : DecidableRel createdOrder := fun _ _ =>
  inferInstanceAs (Decidable (_ ∨ _))

instance : DecidableRel deadlineOrder := fun _ _ =>
  inferInstanceAs (Decidable (_ ∨ _))

end ConsentRow

end ImCodes.Remote
