import ImCodes.Queue.Store.Step

/-!
# The resend queue

The in-memory mirror of messages that arrived while a provider was offline. Every
change of it goes along with a call of the durable store; the two are one state here.
A method that throws leaves what it has done so far, so answers carry the error.
-/

set_option autoImplicit false

namespace ImCodes.Queue

open Library

def resendExpiryMs : Int := 5 * 60 * 1000

def maxResendEntries : Nat := 10

/-- A queued resend. The members whose content is only stored and compared are JSON. -/
structure ResendEntry where
  recipient : Option QueueRecipientIdentity
  supervisionReference : Option QueueSupervisionReference
  activeTurnDeliveryKind : Option String
  peerAudit : Option Json
  delegationReply : Option Json
  commandMode : Bool
  text : String
  providerText : Option String
  aliasAudit : Option Json
  messageOrigin : Option Json
  messagePreamble : Option String
  commandId : String
  clientMessageId : Option String
  attachments : List Json
  sharedActor : Option Json
  sharedMachineAuthority : Option String
  deliveryMode : Option SessionSendDeliveryMode
  timelineCommitted : Bool
  historyCommitted : Bool
  registeredSystemContract : Option Json
  queuedAt : Int
deriving DecidableEq

/-- A short text with nothing attached, as the runs on fixed inputs queue it. -/
def plainResend (recipient : Option QueueRecipientIdentity) (clientMessageId commandId : String)
    (queuedAt : Int) : ResendEntry where
  recipient
  supervisionReference := none
  activeTurnDeliveryKind := none
  peerAudit := none
  delegationReply := none
  commandMode := false
  text := "hello"
  providerText := none
  aliasAudit := none
  messageOrigin := none
  messagePreamble := none
  commandId
  clientMessageId := some clientMessageId
  attachments := []
  sharedActor := none
  sharedMachineAuthority := none
  deliveryMode := none
  timelineCommitted := false
  historyCommitted := false
  registeredSystemContract := none
  queuedAt

def QueueSupervisionReference.toJson : QueueSupervisionReference → Json
  | .exactIntegration taskId assignmentId revision =>
    .obj [("kind", .str "exact_integration"), ("taskId", .str taskId),
      ("assignmentId", .str assignmentId), ("revision", .str revision)]
  | .implementationBlocker taskId assignmentId revision exactError =>
    .obj [("kind", .str "implementation_blocker"), ("taskId", .str taskId),
      ("assignmentId", .str assignmentId), ("revision", .str revision),
      ("exactError", .str exactError)]

namespace ResendEntry

/-- `...(value ? { name: value } : {})`. -/
def optionalMember (name : String) (value : Option Json) : List (String × Json) :=
  value.toList.map fun given => (name, given)

def flagMember (name : String) (flag : Bool) : List (String × Json) :=
  if flag then [(name, .bool true)] else []

/-- The private material an entry is stored with. -/
def privateMaterial (entry : ResendEntry) (clientMessageId : String) : Json :=
  .obj <|
    [("clientMessageId", .str clientMessageId), ("text", .str entry.text)] ++
    optionalMember "providerText" (entry.providerText.map .str) ++
    optionalMember "aliasAudit" entry.aliasAudit ++
    optionalMember "messageOrigin" entry.messageOrigin ++
    optionalMember "messagePreamble" ((truthy entry.messagePreamble).map .str) ++
    (if entry.attachments = [] then [] else [("attachmentRefs", .arr entry.attachments)]) ++
    optionalMember "sharedActorEnvelope" entry.sharedActor ++
    optionalMember "sharedMachineAuthority" ((truthy entry.sharedMachineAuthority).map .str) ++
    optionalMember "deliveryMode" (entry.deliveryMode.map fun mode => .str mode.text) ++
    optionalMember "activeTurnDeliveryKind" ((truthy entry.activeTurnDeliveryKind).map .str) ++
    optionalMember "peerAudit" entry.peerAudit ++
    optionalMember "delegationReply" entry.delegationReply ++
    flagMember "commandMode" entry.commandMode ++
    flagMember "timelineCommitted" entry.timelineCommitted ++
    flagMember "historyCommitted" entry.historyCommitted ++
    optionalMember "supervisionReference"
      (entry.supervisionReference.map QueueSupervisionReference.toJson) ++
    optionalMember "registeredSystemContract" entry.registeredSystemContract

def isExpired (now : Int) (entry : ResendEntry) : Bool :=
  now - entry.queuedAt > resendExpiryMs

/-- What the durable store is asked to enqueue. -/
def enqueueInput (entry : ResendEntry) (sessionName clientMessageId : String) :
    EnqueueTransportQueueEntryInput where
  sessionName
  recipient := entry.recipient
  text := entry.text
  clientMessageId := some clientMessageId
  commandId := some entry.commandId
  placement := none
  now := some entry.queuedAt
  activityGeneration := none
  replacesClientMessageId := none
  privateMaterialJson := some (.encoded (entry.privateMaterial clientMessageId))
  supervisionReference := entry.supervisionReference

end ResendEntry

def supervisionReferencesMatch (durable replay : Option QueueSupervisionReference) : Bool :=
  durable = replay

/-- Members an older daemon left out of the durable material, filled in from its row. -/
def upgradeDurableMaterial (durableReference : Option QueueSupervisionReference) (replay : Json)
    (members : List (String × Json)) : List (String × Json) :=
  let referenced := match durableReference with
    | some reference =>
      if (Json.obj members).field? "supervisionReference" = none then
        Json.setMember "supervisionReference" reference.toJson members
      else members
    | none => members
  if (Json.obj referenced).field? "activeTurnDeliveryKind" = none then
    let hasReply := match (Json.obj referenced).field? "delegationReply" with
      | some (.obj _) | some (.arr _) => true
      | _ => false
    if hasReply && replay.field? "activeTurnDeliveryKind" = some (.str "delegation_reply") then
      Json.setMember "activeTurnDeliveryKind" (.str "delegation_reply") referenced
    else if durableReference.isSome &&
        (Json.obj referenced).field? "deliveryMode" = some (.str "append") &&
        replay.field? "activeTurnDeliveryKind" = some (.str "mcp_message") then
      Json.setMember "activeTurnDeliveryKind" (.str "mcp_message") referenced
    else referenced
  else referenced

def privateMaterialMatchesReplay (durable : Option JsonText) (replay : Json)
    (durableReference replayReference : Option QueueSupervisionReference) : Bool :=
  durable = some (.encoded replay) ||
    (supervisionReferencesMatch durableReference replayReference &&
      match durable with
      | some (.encoded (.obj members)) =>
        Json.deepStrictEqual (.obj (upgradeDurableMaterial durableReference replay members)) replay
      | _ => false)

inductive ResendRejection where
  | sqliteEnqueueFailed
  | cancelled
  | idempotencyConflict
  | capacityExhausted
deriving DecidableEq, Repr

inductive EnqueueResendResult where
  | accepted (droppedOldest : Bool) (pendingVersion : JsNumber) (queueSnapshot : QueueSnapshot)
      (dropSnapshot : Option QueueSnapshot)
  | rejected (pendingVersion : JsNumber) (reason : ResendRejection)
deriving DecidableEq, Repr

/-- What `clearResend` may be called for: one of the reset reasons or of the drop reasons. -/
inductive ClearReason where
  | reset (reason : QueueResetReason)
  | drop (reason : QueueDropReason)
deriving DecidableEq, Repr

/-- The resend queues of the process, and the store. A session without an entry in the
map and one with an empty list are not told apart by any reader. -/
structure ResendState where
  queues : String → List ResendEntry
  store : TransportQueueStore

namespace ResendState

def setQueue (state : ResendState) (sessionName : String) (entries : List ResendEntry) :
    ResendState :=
  { state with queues := Function.update state.queues sessionName entries }

section Host

variable [Host]

/-- The deprecated revision counter: it mints nothing but reads the committed version. -/
def bumpTransportQueueRevision (state : ResendState) (sessionName : String) :
    ResendState × Except QueueStoreError JsNumber :=
  match state.store.readSnapshot sessionName "revision_shim" with
  | .ok read => ({ state with store := read.1 }, .ok read.2.pendingMessageVersion)
  | .error error => (state, .error error)

def identifyResend (state : ResendState) (entry : ResendEntry) : ResendState × String :=
  let identified := state.store.identifyMessage entry.clientMessageId
  ({ state with store := identified.1 }, identified.2)

/-- An exact retry is accepted once, anything else under a live id is a conflict. -/
def answerReplay (state : ResendState) (sessionName clientMessageId : String)
    (entry : ResendEntry) (retainInMemory : Bool) (read : QueueSnapshot)
    (existing : QueueProjectionEntry) (material : Option JsonText) :
    ResendState × EnqueueResendResult :=
  let list := state.queues sessionName
  let local_ := if retainInMemory then
      list.find? fun candidate => candidate.clientMessageId = some clientMessageId
    else none
  let localMatches := local_.all fun held => { held with queuedAt := entry.queuedAt } = entry
  let privateMaterialMatches :=
    privateMaterialMatchesReplay material (entry.privateMaterial clientMessageId)
        existing.supervisionReference entry.supervisionReference ||
      (material = none && entry.recipient = none)
  let exactReplay := existing.text = entry.text && existing.commandId = some entry.commandId &&
    supervisionReferencesMatch existing.supervisionReference entry.supervisionReference &&
    privateMaterialMatches && localMatches
  if exactReplay then
    (if retainInMemory && local_.isNone then state.setQueue sessionName (list ++ [entry])
      else state,
      .accepted false read.pendingMessageVersion read none)
  else (state, .rejected read.pendingMessageVersion .idempotencyConflict)

/-- The idempotency check before the durable write; none when the write is to be tried. -/
def checkReplay (state : ResendState) (sessionName clientMessageId : String)
    (entry : ResendEntry) (retainInMemory : Bool) :
    Except QueueStoreError (ResendState × Option EnqueueResendResult) := do
  let read ← state.store.readSnapshot sessionName "read"
  let seen := { state with store := read.1 }
  match read.2.pendingMessageEntries.find? fun candidate =>
      candidate.clientMessageId = clientMessageId with
  | some existing =>
    let material ← read.1.readPrivateDispatchMaterial sessionName clientMessageId entry.recipient
    let answered := seen.answerReplay sessionName clientMessageId entry retainInMemory read.2
      existing material
    pure (answered.1, some answered.2)
  | none =>
    if !retainInMemory && maxResendEntries ≤ read.2.pendingMessageEntries.length then
      pure (seen, some (.rejected read.2.pendingMessageVersion .capacityExhausted))
    else pure (seen, none)

/-- The durable write failed: a live row of the same content makes it a replay. -/
def answerFailedWrite (state : ResendState) (sessionName clientMessageId : String)
    (entry : ResendEntry) : ResendState × Except QueueStoreError (EnqueueResendResult ⊕ QueueSnapshot) :=
  let rejected := fun (state : ResendState) =>
    let bumped := state.bumpTransportQueueRevision sessionName
    (bumped.1, bumped.2.map fun version => Sum.inl (.rejected version .sqliteEnqueueFailed))
  match state.store.readSnapshot sessionName "read" with
  | .error _ => rejected state
  | .ok read =>
    let seen := { state with store := read.1 }
    match read.1.readPrivateDispatchMaterial sessionName clientMessageId entry.recipient with
    | .error error => (seen, .error error)
    | .ok material =>
      match read.2.pendingMessageEntries.find? fun candidate =>
          candidate.clientMessageId = clientMessageId with
      | none => rejected seen
      | some existing =>
        if existing.text = entry.text && existing.commandId = some entry.commandId &&
            supervisionReferencesMatch existing.supervisionReference
              entry.supervisionReference &&
            (privateMaterialMatchesReplay material (entry.privateMaterial clientMessageId)
                existing.supervisionReference entry.supervisionReference ||
              (material = none && entry.recipient = none)) then
          (seen, .ok (.inr read.2))
        else
          (seen, .ok (.inl (.rejected read.2.pendingMessageVersion .idempotencyConflict)))

/-- The in-memory holder after the durable write: superseded fires go, then the oldest
entry if the list is still full, and the new entry is added. -/
def retainEntry (state : ResendState) (sessionName : String) (entry : ResendEntry) :
    ResendState × Bool :=
  let list := state.queues sessionName
  let kept := match cronScheduleId (some entry.commandId) with
    | some schedule =>
      list.filter fun candidate => cronScheduleId (some candidate.commandId) ≠ some schedule
    | none => list
  let bumped := if kept.length ≠ list.length then
      ((state.setQueue sessionName kept).bumpTransportQueueRevision sessionName).1
    else state
  if maxResendEntries ≤ kept.length then
    (bumped.setQueue sessionName (kept.tail ++ [entry]), true)
  else (bumped.setQueue sessionName (kept ++ [entry]), false)

/-- The durable write, then the mirror in memory. -/
def writeResend (state : ResendState) (clock : Int) (sessionName clientMessageId : String)
    (entry : ResendEntry) (retainInMemory : Bool) :
    ResendState × Except QueueStoreError EnqueueResendResult :=
  let list := state.queues sessionName
  let evicted := if maxResendEntries ≤ list.length then list.head? else none
  let finish := fun (state : ResendState) (queueSnapshot : QueueSnapshot)
      (dropSnapshot : Option QueueSnapshot) =>
    if retainInMemory then
      let retained := state.retainEntry sessionName entry
      (retained.1,
        Except.ok (.accepted retained.2 queueSnapshot.pendingMessageVersion queueSnapshot
          dropSnapshot))
    else
      (state,
        .ok (.accepted false queueSnapshot.pendingMessageVersion queueSnapshot dropSnapshot))
  match state.store.enqueueWithCapacityEviction clock
      (entry.enqueueInput sessionName clientMessageId) (evicted.bind (·.clientMessageId)) with
  | .ok result =>
    let written := { state with store := result.1 }
    if result.2.cancelled then
      (written, .ok (.rejected result.2.queueSnapshot.pendingMessageVersion .cancelled))
    else finish written result.2.queueSnapshot result.2.dropSnapshot
  | .error _ =>
    let answered := state.answerFailedWrite sessionName clientMessageId entry
    match answered.2 with
    | .error error => (answered.1, .error error)
    | .ok (.inl rejection) => (answered.1, .ok rejection)
    | .ok (.inr queueSnapshot) => finish answered.1 queueSnapshot none

def enqueueResendInternal (state : ResendState) (clock : Int) (sessionName : String)
    (entryInput : ResendEntry) (retainInMemory : Bool) :
    ResendState × Except QueueStoreError EnqueueResendResult :=
  let identified := state.identifyResend entryInput
  let clientMessageId := identified.2
  let entry := { entryInput with clientMessageId := some clientMessageId }
  match identified.1.checkReplay sessionName clientMessageId entry retainInMemory with
  | .ok (seen, some answer) => (seen, .ok answer)
  | .ok (seen, none) => seen.writeResend clock sessionName clientMessageId entry retainInMemory
  -- The check is only a fast path: the write that follows is what decides.
  | .error _ =>
    identified.1.writeResend clock sessionName clientMessageId entry retainInMemory

def enqueueResend (state : ResendState) (clock : Int) (sessionName : String)
    (entry : ResendEntry) : ResendState × Except QueueStoreError EnqueueResendResult :=
  state.enqueueResendInternal clock sessionName entry true

/-- A failing store call is logged and skipped. -/
def tryStore {Answer : Type} (state : ResendState)
    (call : TransportQueueStore → Except QueueStoreError (TransportQueueStore × Answer)) :
    ResendState × Option Answer :=
  match call state.store with
  | .ok result => ({ state with store := result.1 }, some result.2)
  | .error _ => (state, none)

def clearResend (state : ResendState) (sessionName : String) (reason : ClearReason) :
    ResendState × Except QueueStoreError (Option QueueSnapshot) :=
  let bumped := state.bumpTransportQueueRevision sessionName
  match bumped.2 with
  | .error error => (bumped.1, .error error)
  | .ok _ =>
    let cleared := match reason with
      | .reset resetReason =>
        bumped.1.tryStore fun store => store.reset sessionName resetReason none
      | .drop dropReason =>
        let dropped := bumped.1.tryStore fun store => store.dropAll sessionName dropReason
        if dropReason = QueueDropReason.sessionRemoved ∧ dropped.2.isSome then
          ((dropped.1.tryStore fun store =>
            store.reset sessionName .runtimeRecreated none).1, dropped.2)
        else dropped
    (cleared.1.setQueue sessionName [], .ok cleared.2)

end Host

end ResendState

end ImCodes.Queue
