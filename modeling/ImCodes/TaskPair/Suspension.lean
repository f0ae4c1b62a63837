import ImCodes.Library.DepthFirst
import ImCodes.TaskPair.Store

/-!
# Pausing pairs and waiting for others

A Brain pauses a pair by hand or until other pairs of the project are done, and resumes it. The
scheduler goes through the paused pairs, clears the dependencies that are done and admits a
pair that may go on, waiting for each of its messages.
-/

set_option autoImplicit false

namespace ImCodes.TaskPair

open Library TaskPairState

def taskPairMaxDependencies : Nat := 32

def taskPairDependencyGraphLimit : Nat := 4096

def taskPairBothIdleCheckIntervalMs : Int := 30000

/-! ## Dependencies -/

def StoredTaskPair.dependsOn (stored : StoredTaskPair) : List String :=
  stored.state.scheduling.elim [] (·.dependsOn)

namespace TaskPairStore

def dependenciesOf (store : TaskPairStore) (project taskId : String) : Option (List String) :=
  (store.getPair project taskId).map (·.dependsOn)

end TaskPairStore

def dependencyError : SearchError → String
  | .cyclic => "self/cyclic task dependency"
  | .tooLarge => "dependency graph is too large"
  | .missing => "dependency is unavailable in this project"

/-- The texts of a list of texts, none of them blank. -/
def dependencyIds : Option Json → Option (List String)
  | some (.arr items) =>
    if taskPairMaxDependencies < items.length then none
    else items.mapM fun item =>
      match item with
      | .str id => if trim id = "" then none else some (trim id)
      | _ => none
  | _ => none

/-- Task ids, each named once, in the order in which they were first named. -/
def validatePairDependencies (store : TaskPairStore) (project taskId : String)
    (input : Option Json) : Except String (List String) :=
  match dependencyIds input with
  | none => .error "dependsOn must be an array of at most 32 task ids"
  | some named =>
    let ids := named.eraseDups
    match (Search.start ids).result (store.dependenciesOf project) taskId
      taskPairDependencyGraphLimit with
    | .error error => .error (dependencyError error)
    | .ok _ => .ok ids

/-! ## Pausing and resuming -/

def initialPairWait (writer : String) (dependsOn : List String) (now : Int) :
    TaskPairScheduling where
  epoch := 1
  manual := false
  dependsOn := dependsOn
  since := now
  writer := writer
  note := none
  resumePending := none
  admitted := none
  resumedAt := none
  resumeRetryAt := none
  failureNotified := none

inductive TaskPairPauseMode where
  | manual
  | dependencies (dependsOn : Option Json)
deriving Repr

structure PauseRequest where
  project : String
  taskId : String
  writer : String
  mode : TaskPairPauseMode
  note : Option String

def openPairOf (store : TaskPairStore) (project taskId writer : String) : Option StoredTaskPair :=
  (store.getPair project taskId).filter fun pair =>
    pair.state.brain = writer && !(isTerminalTaskPairStatus pair.state.status)

/-- A pause that is in force already writes nothing. -/
def pausePair (store : TaskPairStore) (request : PauseRequest) (now : Int) :
    Except String TaskPairStore :=
  match openPairOf store request.project request.taskId request.writer with
  | none => .error "only the current Brain may pause an open pair"
  | some pair =>
    let prev := pair.state.scheduling
    let dependencies := match request.mode with
      | .dependencies dependsOn =>
        validatePairDependencies store request.project request.taskId dependsOn
      | .manual => .ok pair.dependsOn
    match dependencies with
    | .error error => .error error
    | .ok deps =>
      let manual := request.mode matches .manual || prev.any (·.manual)
      if prev.any fun prev => prev.manual = manual && prev.dependsOn = deps &&
          prev.note = request.note && prev.resumePending ≠ some true then .ok store
      else
        let next : TaskPairScheduling :=
          { initialPairWait request.writer deps now with
            epoch := prev.elim 0 (·.epoch) + 1
            manual := manual
            resumePending := some (!manual && deps.isEmpty)
            note := truthy request.note }
        match store.patchScheduling request.project request.taskId prev next now with
        | none => .error "pair changed; retry pause"
        | some saved => .ok saved

def resumePair (store : TaskPairStore) (project taskId writer : String) (now : Int) :
    Except String TaskPairStore :=
  match openPairOf store project taskId writer with
  | none => .error "only the current Brain may resume an open pair"
  | some pair =>
    match pair.state.scheduling with
    | none => .ok store
    | some prev =>
      if !prev.manual then .ok store
      else
        let next := { prev with
          epoch := prev.epoch + 1
          manual := false
          resumePending := some prev.dependsOn.isEmpty
          admitted := some false
          since := now }
        match store.patchScheduling project taskId (some prev) next now with
        | none => .error "pair changed; retry resume"
        | some saved => .ok saved

/-! ## Execution slots -/

def roleSessions (pair : TaskPairState) : List String :=
  [truthy pair.executor, truthy pair.auditor].filterMap fun session =>
    session.filter (· ≠ taskPairNoAuditor)

def taskPairHoldsExecutionSlot (pair : TaskPairState) (busy : String → Bool) : Bool :=
  decide (pair.status ∈ taskPairOpenStatuses) &&
    (!(isTaskPairSuspended pair) || pair.scheduling.any (·.admitted = some true) ||
      (roleSessions pair).any busy)

/-- The role whose turn it is in a pair that is not paused. -/
def taskPairSideToAct (pair : TaskPairState) : Option TaskPairRole :=
  if isTaskPairSuspended pair then none
  else
    match pair.status with
    | .working | .rework | .awaitingAudit | .passed => some .executor
    | .inAudit => if pair.hasAudit then some .auditor else some .executor
    | _ => none

/-! ## Reconciliation -/

/-- What the scheduler reads of the sessions and their configuration. -/
structure SessionFacts where
  liveBusy : String → Bool
  resolveTaskPairMaxConcurrency : String → Nat

structure ReconcileHost extends SessionFacts where
  suspensionStopped : Bool
  now : Int

/-- Where a reconciliation waits: for the notice that a dependency failed, or for the message
that a pair is resumed. -/
inductive ReconcilePoint where
  | next
  | notifying
  | resuming (stored : StoredTaskPair) (scheduling : TaskPairScheduling)
deriving DecidableEq

structure ReconcileRun where
  waiting : List StoredTaskPair
  point : ReconcilePoint
deriving DecidableEq

/-- The pairs of a Brain in a project, but for one of them, that hold an execution slot. -/
def otherSlots (store : TaskPairStore) (busy : String → Bool) (project brain taskId : String) :
    Nat :=
  ((store.activePairsOf project).filter fun stored =>
    decide (stored.state.brain = brain) && decide (stored.state.taskId ≠ taskId) &&
      taskPairHoldsExecutionSlot stored.state busy).length

/-- A place given to a pair, in the store it is given in. -/
structure Admission where
  store : TaskPairStore
  project : String
  brain : String
  taskId : String

/-- What one pair of a reconciliation comes to before the next wait. -/
structure ReconcileOutcome where
  store : TaskPairStore
  point : ReconcilePoint
  admission : Option Admission

section
variable (host : ReconcileHost)

/-- The message is sent or waits in a queue; else the pair goes on waiting for a while. -/
def finishResume (store : TaskPairStore) (stored : StoredTaskPair) (s : TaskPairScheduling)
    (delivered : Bool) : TaskPairStore :=
  let next := if delivered then
      { s with
        resumePending := some false
        admitted := some false
        resumeRetryAt := none
        resumedAt := some host.now }
    else
      { s with
        admitted := some false
        resumeRetryAt := some (host.now + taskPairBothIdleCheckIntervalMs) }
  (store.patchScheduling stored.project stored.state.taskId (some s) next host.now).getD store

/-- The session that is told to go on. -/
def resumeTarget (pair : TaskPairState) : Option String :=
  if pair.status = .queued then none
  else
    (match taskPairSideToAct { pair with scheduling := none } with
    | some .auditor => truthy pair.auditor
    | some .executor => truthy pair.executor
    | _ => none).filter (· ≠ taskPairNoAuditor)

/-- The resumed pair is told, or is through at once where there is nobody to tell. -/
def resumeAdmitted (store : TaskPairStore) (stored : StoredTaskPair) (s : TaskPairScheduling)
    (admission : Option Admission) : ReconcileOutcome :=
  if (resumeTarget stored.state).isSome then ⟨store, .resuming stored s, admission⟩
  else ⟨finishResume host store stored s true, .next, admission⟩

/-- A pair without open dependencies goes on when its sessions are quiet and there is room. -/
def reconcileResume (store : TaskPairStore) (stored : StoredTaskPair) (s : TaskPairScheduling) :
    ReconcileOutcome :=
  let waits : ReconcileOutcome := ⟨store, .next, none⟩
  if s.manual || !s.dependsOn.isEmpty || s.resumePending ≠ some true ||
      decide (host.now < s.resumeRetryAt.getD 0) then waits
  else if (roleSessions stored.state).any host.liveBusy then waits
  else if s.admitted ≠ some true ∧ stored.state.status ≠ .queued then
    let pair := stored.state
    if host.resolveTaskPairMaxConcurrency pair.brain ≤
        otherSlots store host.liveBusy stored.project pair.brain pair.taskId then waits
    else
      let next := { s with admitted := some true }
      match store.patchScheduling stored.project pair.taskId (some s) next host.now with
      | none => waits
      | some saved =>
        match saved.getPair stored.project pair.taskId with
        | none => ⟨saved, .next, none⟩
        | some admitted => resumeAdmitted host saved admitted next
            (some ⟨store, stored.project, pair.brain, pair.taskId⟩)
  else resumeAdmitted host store stored s none

/-- One pair that was listed: its dependencies first, then its place among the running ones. -/
def reconcilePair (store : TaskPairStore) (original : StoredTaskPair) : ReconcileOutcome :=
  let waits : ReconcileOutcome := ⟨store, .next, none⟩
  let stored := (store.getPair original.project original.state.taskId).getD original
  match stored.state.scheduling with
  | none => waits
  | some s =>
    let statuses := s.dependsOn.map fun id =>
      (store.getPair stored.project id).map (·.state.status)
    if s.dependsOn.isEmpty then reconcileResume host store stored s
    else if statuses.any fun status => status.isNone || status = some .cancelled then
      if s.failureNotified = some true then waits
      else
        match store.patchScheduling stored.project stored.state.taskId (some s)
          { s with failureNotified := some true } host.now with
        | none => waits
        | some saved => ⟨saved, .notifying, none⟩
    -- A pass is not completion: only the Brain's accepted DONE lets the pair go on.
    else if statuses.all (· = some .done) then
      let next := { s with
        dependsOn := []
        resumePending := some !s.manual
        admitted := some false }
      match store.patchScheduling stored.project stored.state.taskId (some s) next host.now with
      | none => waits
      | some saved =>
        match saved.getPair stored.project stored.state.taskId with
        | none => ⟨saved, .next, none⟩
        | some cleared => reconcileResume host saved cleared next
    else waits

def startReconcileRun (store : TaskPairStore) : ReconcileRun where
  waiting := store.listActivePairs.filter fun stored => stored.state.scheduling.isSome
  point := .next

/-- A reconciliation goes on from where it waits; `none` when it is through. -/
def resumeReconcileRun (store : TaskPairStore) (run : ReconcileRun) (delivered : Bool) :
    TaskPairStore × Option ReconcileRun × Option Admission :=
  match run.point with
  | .notifying => (store, some { run with point := .next }, none)
  | .resuming stored s =>
    (finishResume host store stored s delivered, some { run with point := .next }, none)
  | .next =>
    match run.waiting with
    | [] => (store, none, none)
    | original :: rest =>
      if host.suspensionStopped then (store, none, none)
      else
        let outcome := reconcilePair host store original
        (outcome.store, some ⟨rest, outcome.point⟩, outcome.admission)

end

end ImCodes.TaskPair
