import ImCodes.Library.Table
import ImCodes.Library.Text
import ImCodes.Library.Run

/-!
# The store of delegation replies

A delegation is an authority to reply: a row that is pending until a result comes back, and the
messages received under it. The rows are of two tables with a status column each. An update of
one table is a statement here, and an operation of the store is a few of them in a transaction.
-/

set_option autoImplicit false

namespace ImCodes.Delegation

open Library

structure BoundIdentity where
  sessionName : String
  sessionInstanceId : String
  runtimeEpoch : String
deriving DecidableEq, Repr

inductive ReplyStatus
  | pending | held | received | delivered | suppressed | expired
deriving DecidableEq, Repr

inductive DelegationPurpose
  | supervisionAudit
deriving DecidableEq, Repr

inductive MessageKind
  | delegationCompletion | peerAuditFinal
deriving DecidableEq, Repr

def replyTtlMs : Int := 48 * 60 * 60000
def replyMaxMessages : Nat := 64

/-- A row of `delegation_replies`. -/
structure ReplyAuthority where
  delegationId : String
  capabilityHash : String
  origin : BoundIdentity
  target : BoundIdentity
  dispatchId : String
  messageId : String
  notificationId : String
  purpose : Option DelegationPurpose
  auditAttemptId : Option String
  auditRevision : Option String
  auditedSessionName : Option String
  taskId : Option String
  assignmentId : Option String
  coordinatorAssignmentId : Option String
  status : ReplyStatus
  result : Option String
  createdAt : Int
  expiresAt : Int
  updatedAt : Int
  deliveredAt : Option Int
deriving DecidableEq, Repr

/-- A row of `delegation_reply_messages`. -/
structure ReplyMessage where
  delegationId : String
  resultKey : String
  notificationId : String
  messageKind : MessageKind
  result : String
  status : ReplyStatus
  createdAt : Int
  updatedAt : Int
  deliveredAt : Option Int
deriving DecidableEq, Repr

/-- A row as the callers see it; an empty text in an optional column counts as none. -/
structure ReplyRecord where
  delegationId : String
  capabilityHash : String
  origin : BoundIdentity
  target : BoundIdentity
  dispatchId : String
  messageId : String
  notificationId : String
  messageKind : Option MessageKind
  purpose : Option DelegationPurpose
  auditAttemptId : Option String
  auditRevision : Option String
  auditedSessionName : Option String
  taskId : Option String
  assignmentId : Option String
  coordinatorAssignmentId : Option String
  status : ReplyStatus
  result : Option String
  createdAt : Int
  expiresAt : Int
  updatedAt : Int
  deliveredAt : Option Int
deriving DecidableEq, Repr

/-- `parseRow` of a row of the authorities. -/
def ReplyAuthority.record (row : ReplyAuthority) : ReplyRecord where
  delegationId := row.delegationId
  capabilityHash := row.capabilityHash
  origin := row.origin
  target := row.target
  dispatchId := row.dispatchId
  messageId := row.messageId
  notificationId := row.notificationId
  messageKind := none
  purpose := row.purpose
  auditAttemptId := truthy row.auditAttemptId
  auditRevision := truthy row.auditRevision
  auditedSessionName := truthy row.auditedSessionName
  taskId := truthy row.taskId
  assignmentId := truthy row.assignmentId
  coordinatorAssignmentId := truthy row.coordinatorAssignmentId
  status := row.status
  result := row.result
  createdAt := row.createdAt
  expiresAt := row.expiresAt
  updatedAt := row.updatedAt
  deliveredAt := row.deliveredAt

/-- `parseRow` of a message joined with its authority. -/
def ReplyMessage.record (message : ReplyMessage) (authority : ReplyAuthority) : ReplyRecord :=
  { authority.record with
    notificationId := message.notificationId
    messageKind := some message.messageKind
    status := message.status
    result := some message.result
    updatedAt := message.updatedAt
    deliveredAt := message.deliveredAt }

def ReplyRecord.isTaskBound (record : ReplyRecord) : Bool :=
  record.taskId.isSome && record.assignmentId.isSome

abbrev ReplyMessage.key (message : ReplyMessage) : String × String :=
  (message.delegationId, message.resultKey)

structure DelegationReplyStore where
  authorities : Table ReplyAuthority String ReplyAuthority.delegationId
  messages : Table ReplyMessage (String × String) ReplyMessage.key

structure CreateReplyInput where
  origin : BoundIdentity
  target : BoundIdentity
  dispatchId : String
  messageId : String
  purpose : Option DelegationPurpose
  auditAttemptId : Option String
  auditRevision : Option String
  auditedSessionName : Option String
  taskId : Option String
  assignmentId : Option String
  coordinatorAssignmentId : Option String
deriving DecidableEq, Repr

structure RebindOriginInput where
  delegationId : String
  taskId : String
  assignmentId : String
  coordinatorAssignmentId : String
  origin : BoundIdentity
deriving DecidableEq, Repr

structure RebindTargetInput where
  delegationId : String
  taskId : String
  assignmentId : String
  target : BoundIdentity
deriving DecidableEq, Repr

structure MatchAuditInput where
  taskId : String
  assignmentId : String
  auditAttemptId : String
  auditRevision : String
  sender : BoundIdentity
deriving DecidableEq, Repr

/-- The one auditor the registry has for an assignment, and what it has superseded. -/
structure AssignmentAuthority where
  assignmentId : String
  messageId : String
  supersededMessageIds : List String
  /-- A message id and the session it was sent to. -/
  supersededDeliveries : List (String × String)
  origins : List BoundIdentity
  target : BoundIdentity
deriving DecidableEq, Repr

structure FindDeliveryInput where
  taskId : String
  auditAttemptId : String
  auditRevision : String
  auditedSessionName : String
  assignmentAuthority : Option AssignmentAuthority
deriving DecidableEq, Repr

structure ReceiveInput where
  delegationId : String
  result : String
  sender : BoundIdentity
  authorizedSender : Option BoundIdentity
  messageKind : Option MessageKind
  hold : Bool
deriving DecidableEq, Repr

structure SuppressInput where
  delegationId : String
  taskId : String
  assignmentId : String
  auditAttemptId : String
  auditRevision : String
  sender : BoundIdentity
deriving DecidableEq, Repr

inductive ReceiveRefusal
  | notFound | identity | expired | limit
  /-- The notification id drawn for the message was taken, and the insert failed. -/
  | duplicateNotification
deriving DecidableEq, Repr

inductive AuthorityMatch
  | none
  | matched (record : ReplyRecord)
  | ambiguous
deriving DecidableEq, Repr

namespace DelegationReplyStore

def empty : DelegationReplyStore := ⟨Table.empty, Table.empty⟩

/-! ## Statements -/

def get (store : DelegationReplyStore) (delegationId : String) : Option ReplyRecord :=
  (store.authorities.lookup delegationId).map ReplyAuthority.record

def getMessage (store : DelegationReplyStore) (delegationId notificationId : String) :
    Option ReplyRecord := do
  let message ← store.messages.rows.find? fun message =>
    message.delegationId = delegationId && message.notificationId = notificationId
  let authority ← store.authorities.lookup delegationId
  some (message.record authority)

def messageByResultKey (store : DelegationReplyStore) (delegationId key : String) :
    Option ReplyRecord := do
  let message ← store.messages.lookup (delegationId, key)
  let notificationId ← truthy (some message.notificationId)
  store.getMessage delegationId notificationId

/-- `UPDATE delegation_replies SET status = ?, updated_at = ? WHERE ...`. -/
def setStatus (store : DelegationReplyStore) (status : ReplyStatus) (now : Int)
    (chosen : ReplyAuthority → Bool) : DelegationReplyStore :=
  { store with
    authorities := store.authorities.updateWhere chosen
      (fun row => { row with status := status, updatedAt := now }) fun _ => rfl }

/-- `UPDATE delegation_reply_messages SET status = ?, updated_at = ? WHERE ...`. -/
def setMessageStatus (store : DelegationReplyStore) (status : ReplyStatus) (now : Int)
    (chosen : ReplyMessage → Bool) : DelegationReplyStore :=
  { store with
    messages := store.messages.updateWhere chosen
      (fun message => { message with status := status, updatedAt := now }) fun _ => rfl }

/-- `SELECT COUNT(*) FROM delegation_reply_messages WHERE delegation_id = ?`. -/
def messageCount (store : DelegationReplyStore) (delegationId : String) : Nat :=
  store.messages.changes fun message => message.delegationId = delegationId

/-! ## Operations -/

/-- An exact audit redelivery replaces the authority of the delivery before it. -/
def isReplacedBy (input : CreateReplyInput) (row : ReplyAuthority) : Bool :=
  row.purpose = some .supervisionAudit && row.taskId = input.taskId &&
    row.assignmentId = input.assignmentId && row.auditAttemptId = input.auditAttemptId &&
    row.auditRevision = input.auditRevision && row.origin = input.origin &&
    row.target = input.target &&
    row.auditedSessionName.getD "" = input.auditedSessionName.getD "" && row.status = .pending

def isExactAudit (input : CreateReplyInput) : Bool :=
  input.purpose = some .supervisionAudit && (truthy input.auditAttemptId).isSome &&
    (truthy input.auditRevision).isSome && (truthy input.taskId).isSome &&
    (truthy input.assignmentId).isSome

/-- The ids are the ones drawn; the row is missing where the first of them is taken. -/
def create (store : DelegationReplyStore) (input : CreateReplyInput)
    (delegationId notificationId : String) (now : Int) :
    DelegationReplyStore × Option ReplyRecord :=
  let replaced :=
    if isExactAudit input then store.setStatus .expired now (isReplacedBy input) else store
  let row : ReplyAuthority :=
    { delegationId := delegationId
      capabilityHash := ""
      origin := input.origin
      target := input.target
      dispatchId := input.dispatchId
      messageId := input.messageId
      notificationId := notificationId
      purpose := input.purpose
      auditAttemptId := input.auditAttemptId
      auditRevision := input.auditRevision
      auditedSessionName := input.auditedSessionName
      taskId := input.taskId
      assignmentId := input.assignmentId
      coordinatorAssignmentId := input.coordinatorAssignmentId
      status := .pending
      result := none
      createdAt := now
      expiresAt := now + replyTtlMs
      updatedAt := now
      deliveredAt := none }
  match replaced.authorities.insert row with
  | none => (replaced, none)
  | some authorities =>
    let created := { replaced with authorities := authorities }
    (created, created.get delegationId)

def rebindAuthorizedOrigin (store : DelegationReplyStore) (input : RebindOriginInput) (now : Int) :
    DelegationReplyStore × Option ReplyRecord :=
  match store.get input.delegationId with
  | none => (store, none)
  | some current =>
    if current.taskId ≠ some input.taskId ∨ current.assignmentId ≠ some input.assignmentId ∨
        current.coordinatorAssignmentId ≠ some input.coordinatorAssignmentId ∨
        current.origin.sessionName ≠ input.origin.sessionName then (store, none)
    else
      let rebound := { store with
        authorities := store.authorities.updateWhere
          (fun row => row.delegationId = input.delegationId &&
            row.taskId = some input.taskId && row.assignmentId = some input.assignmentId)
          (fun row => { row with
            origin := { row.origin with
              sessionInstanceId := input.origin.sessionInstanceId
              runtimeEpoch := input.origin.runtimeEpoch }
            updatedAt := now }) fun _ => rfl }
      (rebound, rebound.get input.delegationId)

def rebindAssignmentTarget (store : DelegationReplyStore) (input : RebindTargetInput) (now : Int) :
    DelegationReplyStore × Option ReplyRecord :=
  match store.get input.delegationId with
  | none => (store, none)
  | some current =>
    if current.taskId ≠ some input.taskId ∨ current.assignmentId ≠ some input.assignmentId then
      (store, none)
    else
      let rebound := { store with
        authorities := store.authorities.updateWhere
          (fun row => row.delegationId = input.delegationId &&
            row.taskId = some input.taskId && row.assignmentId = some input.assignmentId)
          (fun row => { row with target := input.target, updatedAt := now }) fun _ => rfl }
      (rebound, rebound.get input.delegationId)

/-- The later of two records, by their creation and then by their ids. -/
def laterOf (latest candidate : ReplyRecord) : ReplyRecord :=
  if latest.createdAt < candidate.createdAt ∨
      (candidate.createdAt = latest.createdAt ∧
        utf16 latest.delegationId < utf16 candidate.delegationId) then candidate
  else latest

def latest? : List ReplyRecord → Option ReplyRecord
  | [] => none
  | first :: rest => some (rest.foldl laterOf first)

def expirePending (store : DelegationReplyStore) (now : Int) (delegationId : String) :
    DelegationReplyStore :=
  store.setStatus .expired now fun row =>
    row.delegationId = delegationId && row.status = .pending

def matchPendingAuditAuthority (store : DelegationReplyStore) (input : MatchAuditInput)
    (now : Int) : DelegationReplyStore × Option ReplyRecord :=
  let records := (store.authorities.select fun row =>
    row.purpose = some .supervisionAudit && row.taskId = some input.taskId &&
      row.assignmentId = some input.assignmentId &&
      row.auditAttemptId = some input.auditAttemptId &&
      row.auditRevision = some input.auditRevision && row.target = input.sender &&
      row.status = .pending).map ReplyAuthority.record
  match latest? records with
  | none => (store, none)
  | some current =>
    if records.any fun candidate => candidate.origin ≠ current.origin ||
        candidate.auditedSessionName ≠ current.auditedSessionName then (store, none)
    else
      let superseded := records.filter fun record => record.delegationId ≠ current.delegationId
      let converged := superseded.foldl
        (fun store record => store.expirePending now record.delegationId) store
      let isExact := current.purpose = some .supervisionAudit ∧
        current.taskId = some input.taskId ∧ current.assignmentId = some input.assignmentId ∧
        current.auditAttemptId = some input.auditAttemptId ∧
        current.auditRevision = some input.auditRevision ∧ current.status = .pending ∧
        current.target = input.sender
      (converged, if isExact then some current else none)

/-- The pending deliveries of one audit attempt. What is made of them does not depend on their
order. -/
def pendingDeliveries (store : DelegationReplyStore) (taskId auditAttemptId auditRevision : String) :
    List ReplyRecord :=
  (store.authorities.select fun row =>
    row.purpose = some .supervisionAudit && row.taskId = some taskId &&
      row.auditAttemptId = some auditAttemptId && row.auditRevision = some auditRevision &&
      (truthy row.assignmentId).isSome && row.status = .pending).map ReplyAuthority.record

def deliveryKey (messageId sessionName : String) : String :=
  messageId ++ "\x00" ++ sessionName

namespace AssignmentAuthority

def isSupersededTarget (authority : AssignmentAuthority) (record : ReplyRecord) : Bool :=
  (authority.supersededDeliveries.map fun delivery => deliveryKey delivery.1 delivery.2).contains
    (deliveryKey record.messageId record.target.sessionName)

/-- A record that competes with the one auditor of the registry. -/
def competes (authority : AssignmentAuthority) (auditedSessionName : String)
    (record : ReplyRecord) : Bool :=
  record.assignmentId ≠ some authority.assignmentId ||
    record.auditedSessionName ≠ some auditedSessionName ||
    !(authority.origins.map BoundIdentity.sessionName).contains record.origin.sessionName ||
    (record.target ≠ authority.target && !isSupersededTarget authority record &&
      (record.target.sessionName ≠ authority.target.sessionName ||
        !(authority.messageId :: authority.supersededMessageIds).contains record.messageId))

def isExact (authority : AssignmentAuthority) (record : ReplyRecord) : Bool :=
  record.messageId = authority.messageId && record.target = authority.target &&
    authority.origins.any fun origin => record.origin = origin

def isStaleOrigin (authority : AssignmentAuthority) (record : ReplyRecord) : Bool :=
  record.messageId = authority.messageId && record.target = authority.target &&
    (authority.origins.filter fun origin =>
      origin.sessionName = record.origin.sessionName).length = 1

end AssignmentAuthority

/-- `UPDATE ... SET origin_session_instance_id = ?, origin_runtime_epoch = ?` of a pending row. -/
def advanceOrigin (store : DelegationReplyStore) (delegationId : String) (origin : BoundIdentity)
    (now : Int) : DelegationReplyStore :=
  { store with
    authorities := store.authorities.updateWhere
      (fun row => row.delegationId = delegationId && row.status = .pending)
      (fun row => { row with
        origin := { row.origin with
          sessionInstanceId := origin.sessionInstanceId
          runtimeEpoch := origin.runtimeEpoch }
        updatedAt := now }) fun _ => rfl }

/-- The exact record, or the one whose origin is advanced to be it. -/
def currentDelivery (store : DelegationReplyStore) (authority : AssignmentAuthority)
    (active : List ReplyRecord) (now : Int) : DelegationReplyStore × Option ReplyRecord :=
  match latest? (active.filter (AssignmentAuthority.isExact authority)) with
  | some current => (store, some current)
  | none =>
    match active.filter (AssignmentAuthority.isStaleOrigin authority) with
    | [candidate] =>
      match authority.origins.find? fun origin =>
          origin.sessionName = candidate.origin.sessionName with
      | some origin =>
        (store.advanceOrigin candidate.delegationId origin now,
          some { candidate with origin := origin })
      | none => (store, none)
    | _ => (store, none)

/-- What the deliveries of the one assignment of the registry come to. -/
def convergeDeliveries (store : DelegationReplyStore) (authority : AssignmentAuthority)
    (taskId auditAttemptId auditRevision : String) (records : List ReplyRecord) (now : Int) :
    DelegationReplyStore × AuthorityMatch :=
  let active := records.filter fun record =>
    !AssignmentAuthority.isSupersededTarget authority record
  match store.currentDelivery authority active now with
  | (advanced, some current) =>
    let converged := advanced.setStatus .expired now fun row =>
      row.purpose = some .supervisionAudit && row.taskId = some taskId &&
        row.assignmentId = some authority.assignmentId &&
        row.auditAttemptId = some auditAttemptId &&
        row.auditRevision = some auditRevision && row.status = .pending &&
        row.delegationId ≠ current.delegationId
    match converged.get current.delegationId with
    | some record => (converged, .matched record)
    | none => (converged, .none)
  | (_, none) =>
    if active = [] then
      (records.foldl (fun store record => store.expirePending now record.delegationId) store,
        .none)
    else (store, .ambiguous)

def findPendingAuditDelivery (store : DelegationReplyStore) (input : FindDeliveryInput)
    (now : Int) : DelegationReplyStore × AuthorityMatch :=
  let taskId := trim input.taskId
  let auditAttemptId := trim input.auditAttemptId
  let auditRevision := trim input.auditRevision
  let auditedSessionName := trim input.auditedSessionName
  if taskId = "" ∨ auditAttemptId = "" ∨ auditRevision = "" ∨ auditedSessionName = "" then
    (store, .none)
  else
    let records := store.pendingDeliveries taskId auditAttemptId auditRevision
    match input.assignmentAuthority with
    | none =>
      match records with
      | [] => (store, .none)
      | [record] =>
        if record.auditedSessionName = some auditedSessionName then (store, .matched record)
        else (store, .ambiguous)
      | _ => (store, .ambiguous)
    | some authority =>
      if trim authority.assignmentId = "" ∨ trim authority.messageId = "" ∨
          authority.origins = [] then (store, .none)
      else if records = [] then (store, .none)
      else if records.any (AssignmentAuthority.competes authority auditedSessionName) then
        (store, .ambiguous)
      else store.convergeDeliveries authority taskId auditAttemptId auditRevision records now

/-- The answers of `receive` that are accepted: the record, and whether it was there before. -/
abbrev ReceiveAnswer := Except ReceiveRefusal (ReplyRecord × Bool)

/-- The message `receive` stores. -/
def receivedMessage (resultKey : String → String) (input : ReceiveInput) (notificationId : String)
    (now : Int) : ReplyMessage where
  delegationId := input.delegationId
  resultKey := resultKey input.result
  notificationId := notificationId
  messageKind := input.messageKind.getD .delegationCompletion
  result := input.result
  status := if input.hold then .held else .received
  createdAt := now
  updatedAt := now
  deliveredAt := none

/-- The authority takes up the result, unless that is held. -/
def receiveAuthority (store : DelegationReplyStore) (input : ReceiveInput)
    (notificationId : String) (now : Int) : DelegationReplyStore :=
  if input.hold then store
  else { store with
    authorities := store.authorities.updateWhere (fun row => row.delegationId = input.delegationId)
      (fun row => { row with
        status := .received
        result := some input.result
        notificationId := notificationId
        updatedAt := now }) fun _ => rfl }

/-- The notification id is the one drawn. -/
def receive (resultKey : String → String) (store : DelegationReplyStore) (input : ReceiveInput)
    (notificationId : String) (now : Int) : DelegationReplyStore × ReceiveAnswer :=
  match store.get input.delegationId with
  | none => (store, .error .notFound)
  | some current =>
    if input.authorizedSender.getD current.target ≠ input.sender then
      (store, .error .identity)
    else if current.isTaskBound = false ∧
        (current.status = .expired ∨ current.expiresAt ≤ now) then
      (store.setStatus .expired now fun row => row.delegationId = input.delegationId,
        .error .expired)
    else
      match store.messageByResultKey input.delegationId (resultKey input.result) with
      | some existing => (store, .ok (existing, true))
      | none =>
        if replyMaxMessages ≤ store.messageCount input.delegationId then
          (store, .error .limit)
        else if store.messages.holds fun message =>
            message.notificationId = notificationId then
          (store, .error .duplicateNotification)
        else
          match store.messages.insert
            (receivedMessage resultKey input notificationId now) with
          | none => (store, .error .duplicateNotification)
          | some messages =>
            let updated :=
              { store with messages := messages }.receiveAuthority input notificationId now
            match updated.getMessage input.delegationId notificationId with
            | none => (updated, .error .notFound)
            | some record => (updated, .ok (record, false))

def suppressHeldAuditCompletions (store : DelegationReplyStore) (input : SuppressInput)
    (now : Int) : DelegationReplyStore × List String :=
  let isIts := store.authorities.holds fun row =>
    row.delegationId = input.delegationId && row.purpose = some .supervisionAudit &&
      row.taskId = some input.taskId && row.assignmentId = some input.assignmentId &&
      row.auditAttemptId = some input.auditAttemptId &&
      row.auditRevision = some input.auditRevision && row.target = input.sender
  let isHeld (message : ReplyMessage) : Bool :=
    message.delegationId = input.delegationId &&
      message.messageKind = .delegationCompletion && message.status = .held
  let ids := if isIts then
      ((store.messages.select isHeld).map ReplyMessage.notificationId).filter fun id => id ≠ ""
    else []
  if ids = [] then (store, []) else (store.setMessageStatus .suppressed now isHeld, ids)

def releaseHeldAuditCompletion (store : DelegationReplyStore) (delegationId notificationId : String)
    (now : Int) : DelegationReplyStore × Option ReplyRecord :=
  match store.getMessage delegationId notificationId with
  | none => (store, none)
  | some held =>
    if held.status ≠ .held ∨ held.messageKind ≠ some .delegationCompletion then (store, none)
    else
      let isIt (message : ReplyMessage) : Bool :=
        message.delegationId = delegationId && message.notificationId = notificationId &&
          message.messageKind = .delegationCompletion && message.status = .held
      if store.messages.changes isIt ≠ 1 then (store, none)
      else
        let released := store.setMessageStatus .received now isIt
        (released, released.getMessage delegationId notificationId)

def isReceived (delegationId notificationId : String) (message : ReplyMessage) : Bool :=
  message.delegationId = delegationId && message.notificationId = notificationId &&
    message.status = .received

def deliverMessage (store : DelegationReplyStore) (delegationId notificationId : String)
    (now : Int) : DelegationReplyStore :=
  { store with
    messages := store.messages.updateWhere (isReceived delegationId notificationId)
      (fun message => { message with
        status := .delivered
        deliveredAt := some now
        updatedAt := now }) fun _ => rfl }

def deliverAuthority (store : DelegationReplyStore) (delegationId : String) (now : Int) :
    DelegationReplyStore :=
  { store with
    authorities := store.authorities.updateWhere (fun row => row.delegationId = delegationId)
      (fun row => { row with
        status := .delivered
        deliveredAt := some now
        updatedAt := now }) fun _ => rfl }

def isAuditProse (store : DelegationReplyStore) (delegationId notificationId : String) : Bool :=
  (store.getMessage delegationId notificationId).any fun record =>
    record.purpose = some .supervisionAudit && record.messageKind = some .delegationCompletion

def isStillReceived (delegationId : String) (message : ReplyMessage) : Bool :=
  message.delegationId = delegationId && message.status = .received

def markDelivered (store : DelegationReplyStore) (delegationId notificationId : String)
    (now : Int) : DelegationReplyStore × Bool :=
  let delivered := store.deliverMessage delegationId notificationId now
  if store.messages.changes (isReceived delegationId notificationId) ≠ 1 then (delivered, false)
  else if store.isAuditProse delegationId notificationId then (delivered, true)
  else if delivered.messages.changes (isStillReceived delegationId) = 0 then
    (delivered.deliverAuthority delegationId now, true)
  else (delivered, true)

def expire (store : DelegationReplyStore) (delegationId : String) (now : Int) :
    DelegationReplyStore :=
  (store.setStatus .expired now fun row => row.delegationId = delegationId).setMessageStatus
    .expired now fun message => message.delegationId = delegationId && message.status = .received

def retireForEndedTask (store : DelegationReplyStore) (delegationId : String) (now : Int) :
    DelegationReplyStore × Nat :=
  let isOpen (message : ReplyMessage) : Bool :=
    message.delegationId = delegationId &&
      (message.status = .received || message.status = .held)
  ((store.setStatus .expired now fun row =>
      row.delegationId = delegationId && row.status ≠ .delivered).setMessageStatus .expired now
    isOpen, store.messages.changes isOpen)

end DelegationReplyStore

/-- An operation of the store, with the ids it draws. -/
inductive ReplyOperation
  | create (input : CreateReplyInput) (delegationId notificationId : String)
  | rebindAuthorizedOrigin (input : RebindOriginInput)
  | rebindAssignmentTarget (input : RebindTargetInput)
  | matchPendingAuditAuthority (input : MatchAuditInput)
  | findPendingAuditDelivery (input : FindDeliveryInput)
  | receive (input : ReceiveInput) (notificationId : String)
  | suppressHeldAuditCompletions (input : SuppressInput)
  | releaseHeldAuditCompletion (delegationId notificationId : String)
  | markDelivered (delegationId notificationId : String)
  | expire (delegationId : String)
  | retireForEndedTask (delegationId : String)
deriving DecidableEq

inductive ReplyAnswer
  | record (record : Option ReplyRecord)
  | authority (found : AuthorityMatch)
  | received (answer : DelegationReplyStore.ReceiveAnswer)
  | suppressed (notificationIds : List String)
  | delivered (answer : Bool)
  | retired (count : Nat)
  | done

open DelegationReplyStore in
/-- An operation at its time, with its answer. -/
def DelegationReplyStore.perform (resultKey : String → String) (store : DelegationReplyStore)
    (now : Int) : ReplyOperation → DelegationReplyStore × ReplyAnswer
  | .create input delegationId notificationId =>
    (store.create input delegationId notificationId now).map id .record
  | .rebindAuthorizedOrigin input => (store.rebindAuthorizedOrigin input now).map id .record
  | .rebindAssignmentTarget input => (store.rebindAssignmentTarget input now).map id .record
  | .matchPendingAuditAuthority input =>
    (store.matchPendingAuditAuthority input now).map id .record
  | .findPendingAuditDelivery input =>
    (store.findPendingAuditDelivery input now).map id .authority
  | .receive input notificationId =>
    (store.receive resultKey input notificationId now).map id .received
  | .suppressHeldAuditCompletions input =>
    (store.suppressHeldAuditCompletions input now).map id .suppressed
  | .releaseHeldAuditCompletion delegationId notificationId =>
    (store.releaseHeldAuditCompletion delegationId notificationId now).map id .record
  | .markDelivered delegationId notificationId =>
    (store.markDelivered delegationId notificationId now).map id .delivered
  | .expire delegationId => (store.expire delegationId now, .done)
  | .retireForEndedTask delegationId =>
    (store.retireForEndedTask delegationId now).map id .retired

end ImCodes.Delegation
