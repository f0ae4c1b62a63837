import ImCodes.TaskPair.Store

/-!
# Putting a marker to the store

`TaskPairService.applyMarker`: a marker is looked up among the recorded ones, put to the pair
it names, recorded and the pair saved. Three answers leave no record: a copy of a verdict, a
STARTED that changes nothing and a READY_FOR_AUDIT of the material already under audit.
-/

set_option autoImplicit false

namespace ImCodes.TaskPair

open Library TaskPairState

/-- What `applyMarker` takes from the sessions, the configuration and the clock. -/
structure TaskPairServiceHost extends TaskPairHost where
  /-- The thinking level a session is configured with. -/
  effort : String → Option String
  projectBrainSession : String → String
  projectBlocking : String → Option (List AuditSeverity)
  /-- Where a path under an earlier place of a workspace is now. -/
  redirectTaskPairWorkspacePath : TaskPairWorkspace → String → String
  /-- The items of a checklist whose box is not set. -/
  uncheckedItems : String → TaskPairChecklistBox → List Nat
  updateTaskPairChecklist : String → List Nat → TaskPairChecklistBox → String
  buildHeldWaitReason : String → TaskPairState → String
  /-- Whether a CLAIM gets its resource. -/
  claimResource : String → String → TaskPairAttrs → Bool
  clock : Int

structure ApplyMarkerInput where
  initialScheduling : Option TaskPairScheduling
  project : String
  writer : String
  marker : TaskPairMarker
  source : TaskPairEventSource
  eventId : String
  now : Int
  turnText : Option String
  requireStructuredPairCreate : Bool
deriving DecidableEq

inductive MarkerAnswer where
  | replayed
  | claimed (pair : Option TaskPairState)
  | idempotentStarted
  | duplicateReady
  | applied (transition : TaskPairTransition)

/-- The pair in the answer, if the marker wrote one. -/
def MarkerAnswer.pair : MarkerAnswer → Option TaskPairState
  | .claimed pair => pair
  | .applied transition => transition.pair
  | _ => none

namespace TaskPairAttrs

def set (attrs : TaskPairAttrs) (key value : String) : TaskPairAttrs :=
  if attrs.any fun attr => attr.1 = key then
    attrs.map fun attr => if attr.1 = key then (key, value) else attr
  else attrs ++ [(key, value)]

def stable (attrs : TaskPairAttrs) : TaskPairAttrs :=
  (attrs.filter fun attr => !(['_', '_'].isPrefixOf attr.1.toList)).insertionSort
    fun a b => utf16 a.1 ≤ utf16 b.1

end TaskPairAttrs

def namedSession (attrs : TaskPairAttrs) (key : String) : Option String :=
  (attrs.named? key).filter (· ≠ taskPairNoAuditor)

/-- The thinking level of a named session goes with the marker unless it states one. -/
def withThinking (host : TaskPairServiceHost) (attrs : TaskPairAttrs) : TaskPairAttrs :=
  let one := fun (attrs : TaskPairAttrs) (session thinking : String) =>
    match (namedSession attrs session).bind fun name => trimmed (host.effort name) with
    | some level => if (attrs.named? thinking).isSome then attrs else attrs.set thinking level
    | none => attrs
  one (one attrs "executor" "executorthinking") "auditor" "auditorthinking"

/-- `-` stands for the writer's single open pair in the project. -/
def resolveTaskId (store : TaskPairStore) (project writer taskId : String)
    (verb : Option TaskPairVerb) : Option String :=
  if taskId ≠ taskPairInferTaskId then some taskId
  else if verb = some .queue then some taskId
  else
    match (store.activePairsOf project).filter fun stored =>
      decide (stored.state.executor = some writer) || decide (stored.state.auditor = some writer)
    with
    | [own] => some own.state.taskId
    | _ => none

def taskPairMarkerDedupWindowMs : Int := 15000

def auditVerbs : List TaskPairVerb := [.pass, .rework, .readyForAudit]

/-- A copy of the marker that brought the pair where it is. -/
def isDuplicateVerdictMarker (store : TaskPairStore) (existing : Option StoredTaskPair)
    (input : ApplyMarkerInput) : Bool :=
  match existing, input.marker.knownVerb with
  | some existing, some verb =>
    if verb ∈ auditVerbs then
      let head := ((input.marker.attrs.get? "head").or
        (existing.state.material.bind (·.head))).getD ""
      (store.listEvents existing.project existing.state.taskId 200).any fun event =>
        event.writer = input.writer && event.verb = some verb &&
        decide (0 ≤ input.now - event.at_) &&
        decide (input.now - event.at_ ≤ taskPairMarkerDedupWindowMs) &&
        (event.attrs.get? "__round").getD "" = toString existing.state.round &&
        (event.attrs.get? "__head").getD "" = head &&
        event.toStatus.all (· = existing.state.status) &&
        decide (event.attrs.stable = input.marker.attrs.stable)
    else false
  | _, _ => false

/-- The named sessions that another started pair reserves. -/
def busySessions (store : TaskPairStore) (attrs : TaskPairAttrs) (taskId : Option String) :
    List String :=
  ([namedSession attrs "executor", namedSession attrs "auditor"].filterMap id).filter fun session =>
    store.isParticipantOfOpenPair session taskId

def sameButUpdated (left right : TaskPairState) : Bool :=
  decide ({ left with updatedAt := 0 } = { right with updatedAt := 0 })

def isIdempotentStarted (input : ApplyMarkerInput) (existing : TaskPairState)
    (transition : TaskPairTransition) (role : TaskPairRole) : Bool :=
  input.marker.knownVerb = some .started && input.source = .marker && role = .executor &&
  existing.status = .working && transition.effect = .status &&
  transition.fromStatus = some .working && transition.toStatus = some .working &&
  !transition.unusual && transition.intents.isEmpty &&
  transition.pair.any fun pair => sameButUpdated existing pair

/-- The attributes a marker is recorded with: a verdict's and a READY_FOR_AUDIT's round and head
go with them. -/
def eventAttrs (marker : TaskPairMarker) (existing : Option TaskPairState)
    (transition : TaskPairTransition) : TaskPairAttrs :=
  let eventPair := transition.pair.or existing
  let head := (((marker.attrs.get? "head").or
    ((existing.bind (·.material)).bind (·.head))).or
      ((eventPair.bind (·.material)).bind (·.head))).getD ""
  let round := if marker.knownVerb = some .readyForAudit then eventPair.or existing
    else existing.or eventPair
  if marker.knownVerb.any (· ∈ auditVerbs) then
    (marker.attrs.set "__round" (round.elim "" fun pair => toString pair.round)).set "__head" head
  else marker.attrs

def redirectMaterialToCurrentWorkspace (host : TaskPairServiceHost) (pair : TaskPairState) :
    TaskPairState :=
  match pair.material, pair.workspace with
  | some material, some workspace =>
    let moved := fun path => host.redirectTaskPairWorkspacePath workspace path
    { pair with material := some { material with
        worktree := material.worktree.map moved
        path := material.path.map moved } }
  | _, _ => pair

/-- A pair parked behind another one says so, and says whom it waits for. -/
def noteParticipantConflicts (host : TaskPairServiceHost) (store : TaskPairStore)
    (project : String) (saved : TaskPairState) (busy : List String) : TaskPairState :=
  let held := fun candidate : StoredTaskPair =>
    [candidate.state.executor, candidate.state.auditor].filterMap id |>.filter (· ∈ busy)
  let conflicts := store.listActivePairs.filter fun candidate =>
    decide (candidate.key ≠ (project, saved.taskId)) && (held candidate) ≠ []
  match conflicts with
  | [] => saved
  | first :: _ =>
    if saved.status = .queued then
      let flagged := saved.addFlag .waitingForCapacity
      let changed := match (held first).head? with
        | some session =>
          let known := "waiting for " ++ session ++ " (busy in " ++ first.state.taskId
          if saved.capacityWaitReason.any fun reason : String =>
              known.toList.isPrefixOf reason.toList then none
          else some (host.buildHeldWaitReason session first.state)
        | none => none
      if flagged = saved ∧ changed.isNone then saved
      else { flagged with
        capacityWaitReason := changed.or saved.capacityWaitReason
        updatedAt := host.clock }
    else saved

/-- Which markers set the boxes that nobody has set by CHECK. -/
def shouldAutoTickChecklist (host : TaskPairServiceHost) (verb : Option TaskPairVerb)
    (transition : TaskPairTransition) (pair : TaskPairState) : Bool :=
  match truthy pair.brief with
  | none => false
  | some brief =>
    if verb = some .readyForAudit && transition.toStatus = some .inAudit then
      host.uncheckedItems brief .implemented ≠ []
    else if verb = some .pass && transition.toStatus = some .passed then true
    else verb = some .done && pair.auditor = some taskPairNoAuditor &&
      (transition.toStatus = some .awaitingBrainDecision || transition.toStatus = some .done)

def TaskPairChecklistBox.text : TaskPairChecklistBox → String
  | .implemented => "implemented"
  | .audited => "audited"

/-- One box of the backstop: the brief with it set, and the event that says so. -/
def autoTickBox (host : TaskPairServiceHost) (project eventId : String) (now : Int)
    (store : TaskPairStore) (pair : TaskPairState) (box : TaskPairChecklistBox) :
    TaskPairStore × TaskPairState :=
  let brief := pair.brief.getD ""
  let items := host.uncheckedItems brief box
  let markdown := host.updateTaskPairChecklist brief items box
  if items = [] ∨ markdown = brief then (store, pair)
  else
    let next := { pair with brief := some markdown, updatedAt := now }
    let event : TaskPairEventRecord :=
      { id := eventId ++ ":checklist-auto:" ++ box.text
        project := project
        taskId := pair.taskId
        writer := "daemon"
        verb := none
        attrs := [("box", box.text), ("checked", "true")]
        toStatus := some next.status
        at_ := now }
    ((store.savePair project next).recordEvent event, next)

def autoTickChecklist (host : TaskPairServiceHost) (project eventId : String) (now : Int)
    (store : TaskPairStore) (pair : TaskPairState) (verb : Option TaskPairVerb) :
    TaskPairStore × TaskPairState :=
  let implemented := autoTickBox host project eventId now store pair .implemented
  if verb = some .pass then
    autoTickBox host project eventId now implemented.1 implemented.2 .audited
  else implemented

/-- A pair that the marker creates takes the scheduling it comes with. -/
def scheduledPair (input : ApplyMarkerInput) (existing : Option TaskPairState)
    (pair : TaskPairState) : TaskPairState :=
  if existing.isNone then { pair with scheduling := input.initialScheduling.or pair.scheduling }
  else pair

/-- The pair a marker wrote goes to the store, with what the daemon adds to it at once. The
answer has the pair as the marker left it, or with the boxes of the backstop. -/
def saveTransition (host : TaskPairServiceHost) (store : TaskPairStore) (input : ApplyMarkerInput)
    (existing : Option TaskPairState) (transition : TaskPairTransition) (busy : List String)
    (pair : TaskPairState) : TaskPairStore × TaskPairState :=
  let scheduled := scheduledPair input existing pair
  let placed := redirectMaterialToCurrentWorkspace host scheduled
  let saved := store.savePair input.project placed
  let noted := if busy = [] then placed
    else noteParticipantConflicts host saved input.project placed busy
  let written := saved.savePair input.project noted
  if shouldAutoTickChecklist host input.marker.knownVerb transition noted then
    autoTickChecklist host input.project input.eventId input.now written noted
      input.marker.knownVerb
  else (written, scheduled)

def eventOf (input : ApplyMarkerInput) (taskId : String) (attrs : TaskPairAttrs)
    (toStatus : Option TaskPairStatus) : TaskPairEventRecord where
  id := input.eventId
  project := input.project
  taskId := taskId
  writer := input.writer
  verb := input.marker.knownVerb
  attrs := attrs
  toStatus := toStatus
  at_ := input.now

/-- A CLAIM is recorded, whether or not it gets its resource. -/
def applyClaim (host : TaskPairServiceHost) (store : TaskPairStore) (input : ApplyMarkerInput)
    (existing : StoredTaskPair) : TaskPairStore × MarkerAnswer :=
  let state := existing.state
  let event := eventOf input state.taskId input.marker.attrs (some state.status)
  if host.claimResource input.project input.writer input.marker.attrs then
    let claimed := { state with updatedAt := input.now }
    ((store.savePair input.project claimed).recordEvent event, .claimed (some claimed))
  else (store.recordEvent event, .claimed (some state))

def contextOf (host : TaskPairServiceHost) (input : ApplyMarkerInput) (busy : List String) :
    TaskPairApplyContext where
  writer := input.writer
  fallbackBrain := host.projectBrainSession input.project
  projectBlocking := host.projectBlocking input.project
  now := input.now
  source := input.source
  busySessions := if busy = [] then none else some busy
  turnText := input.turnText
  requireStructuredPairCreate := input.requireStructuredPairCreate

def markerTransition (host : TaskPairServiceHost) (input : ApplyMarkerInput)
    (taskId : Option String) (existing : Option TaskPairState) (busy : List String) :
    TaskPairTransition :=
  match taskId with
  | some taskId =>
    applyTaskPairMarker host.toTaskPairHost existing { input.marker with taskId := taskId }
      (contextOf host input busy)
  | none =>
    { pair := none
      fromStatus := none
      toStatus := none
      effect := .unresolved
      unusual := true
      intents := []
      verdict := none }

def existingPair (store : TaskPairStore) (project : String) (taskId : Option String) :
    Option StoredTaskPair :=
  (taskId.filter (· ≠ taskPairInferTaskId)).bind (store.getPair project)

def ApplyMarkerInput.configured (host : TaskPairServiceHost) (input : ApplyMarkerInput) :
    ApplyMarkerInput :=
  { input with marker := { input.marker with attrs := withThinking host input.marker.attrs } }

def taskIdOf (store : TaskPairStore) (input : ApplyMarkerInput) : Option String :=
  truthy (resolveTaskId store input.project input.writer input.marker.taskId
    input.marker.knownVerb)

/-- The marker is recorded and the pair it wrote saved. -/
def commitTransition (host : TaskPairServiceHost) (store : TaskPairStore)
    (input : ApplyMarkerInput) (taskId : Option String) (existing : Option TaskPairState)
    (busy : List String) (transition : TaskPairTransition) : TaskPairStore × MarkerAnswer :=
  let recorded := store.recordEvent (eventOf input (taskId.getD input.marker.taskId)
    (eventAttrs input.marker existing transition) transition.toStatus)
  match transition.pair with
  | some pair =>
    let saved := saveTransition host recorded input existing transition busy pair
    (saved.1, .applied { transition with pair := some saved.2 })
  | none => (recorded, .applied transition)

/-- A marker that is neither recorded yet nor a CLAIM. -/
def putMarker (host : TaskPairServiceHost) (store : TaskPairStore) (input : ApplyMarkerInput)
    (taskId : Option String) (existing : Option StoredTaskPair) : TaskPairStore × MarkerAnswer :=
  if isDuplicateVerdictMarker store existing input then (store, .replayed)
  else
    let state := existing.map (·.state)
    let busy := busySessions store input.marker.attrs taskId
    let transition := markerTransition host input taskId state busy
    let role := taskPairRoleOf (state.or transition.pair) input.writer
    if state.any fun pair => isIdempotentStarted input pair transition role then
      (store, .idempotentStarted)
    else if existing.isSome ∧ transition.effect = .duplicateReady then
      (store, .duplicateReady)
    else commitTransition host store input taskId state busy transition

def applyMarker (host : TaskPairServiceHost) (store : TaskPairStore) (given : ApplyMarkerInput) :
    TaskPairStore × MarkerAnswer :=
  let input := given.configured host
  if store.hasEvent input.eventId then (store, .replayed)
  else
    let taskId := taskIdOf store input
    let existing := existingPair store input.project taskId
    match input.marker.knownVerb, existing with
    | some .claim, some claimed => applyClaim host store input claimed
    | _, _ => putMarker host store input taskId existing

def markerStep (host : TaskPairServiceHost) (store : TaskPairStore) (input : ApplyMarkerInput) :
    TaskPairStore :=
  (applyMarker host store input).1

end ImCodes.TaskPair
