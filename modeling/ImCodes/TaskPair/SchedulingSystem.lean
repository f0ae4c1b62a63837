import ImCodes.TaskPair.QueueRun
import ImCodes.TaskPair.Suspension

/-!
# Scheduling beside markers

The Brain pauses and resumes its pairs and creates pairs that wait for others, the daemon saves
copies of pairs it read before, and runs of the queue and of the reconciliation go on where they
wait, in any order. No pair is pruned meanwhile.
-/

set_option autoImplicit false

namespace ImCodes.TaskPair

open Library

/-- The dependencies of a pair to be created, checked before its sessions are prepared. -/
structure PairCreation where
  project : String
  brain : String
  taskId : String
  dependencies : List String
deriving DecidableEq

structure SchedulingSystem extends QueueSystem where
  sessions : SessionFacts
  reconciling : Option ReconcileRun
  creations : List PairCreation

inductive SchedulingAction where
  | queue (action : QueueAction)
  /-- Sessions become busy or free, and limits are configured. -/
  | sessions (facts : SessionFacts)
  | save (project : String) (state : TaskPairState)
  | pause (request : PauseRequest) (now : Int)
  | resume (project taskId writer : String) (now : Int)
  | checkCreation (project brain taskId : String) (dependsOn : Option Json)
  | create (host : TaskPairServiceHost) (creation : PairCreation) (input : ApplyMarkerInput)
  | reconcile
  | goOn (suspensionStopped : Bool) (now : Int) (delivered : Bool)

def QueueHost.within (host : QueueHost) (facts : SessionFacts) : QueueHost :=
  { host with
    maxConcurrency := facts.resolveTaskPairMaxConcurrency
    occupiesSlot := fun stored => taskPairHoldsExecutionSlot stored.state facts.liveBusy }

/-- A run of the queue counts slots by the sessions as they are; a marker comes without a
scheduling. -/
def QueueAction.within (facts : SessionFacts) : QueueAction → QueueAction
  | .marker host input => .marker host { input with initialScheduling := none }
  | .runQueue host key => .runQueue (host.within facts) key
  | .resume host key answer => .resume (host.within facts) key answer

/-- The QUEUE of a pair that waits for others from the start. -/
def createInput (creation : PairCreation) (input : ApplyMarkerInput) : ApplyMarkerInput :=
  { input with
    project := creation.project
    writer := creation.brain
    marker := { input.marker with
      knownVerb := some .queue
      taskId := creation.taskId }
    source := .mcp
    initialScheduling := if creation.dependencies = [] then none
      else some (initialPairWait creation.brain creation.dependencies input.now) }

namespace SchedulingSystem

def start (store : TaskPairStore) (sessions : SessionFacts) : SchedulingSystem where
  store := store
  runs := fun _ => none
  sessions := sessions
  reconciling := none
  creations := []

def withStore (system : SchedulingSystem) (store : TaskPairStore) : SchedulingSystem :=
  { system with store := store }

def reconcileHost (system : SchedulingSystem) (suspensionStopped : Bool) (now : Int) :
    ReconcileHost :=
  { system.sessions with
    suspensionStopped := suspensionStopped
    now := now }

/-- A new pair's dependencies are checked, and its task id is free so far. -/
def checkedCreation (store : TaskPairStore) (project brain taskId : String)
    (dependsOn : Option Json) : Option PairCreation :=
  let dependencies := if dependsOn.isNone then .ok []
    else validatePairDependencies store project taskId dependsOn
  match dependencies with
  | .error _ => none
  | .ok ids =>
    if (store.getPair project taskId).isSome then none else some ⟨project, brain, taskId, ids⟩

def step (system : SchedulingSystem) : SchedulingAction → SchedulingSystem
  | .queue action =>
    { system with
      toQueueSystem := system.toQueueSystem.step (action.within system.sessions) }
  | .sessions facts => { system with sessions := facts }
  | .save project state =>
    -- A copy with a scheduling is one of a stored pair.
    if (system.store.getPair project state.taskId).isNone ∧ state.scheduling.isSome then system
    else system.withStore (system.store.savePair project state)
  | .pause request now =>
    match pausePair system.store request now with
    | .error _ => system
    | .ok store => system.withStore store
  | .resume project taskId writer now =>
    match resumePair system.store project taskId writer now with
    | .error _ => system
    | .ok store => system.withStore store
  | .checkCreation project brain taskId dependsOn =>
    { system with
      creations := system.creations ++
        (checkedCreation system.store project brain taskId dependsOn).toList }
  | .create host creation input =>
    if creation ∈ system.creations then
      system.withStore (markerStep host system.store (createInput creation input))
    else system
  | .reconcile =>
    if system.reconciling.isSome then system
    else { system with reconciling := some (startReconcileRun system.store) }
  | .goOn suspensionStopped now delivered =>
    match system.reconciling with
    | none => system
    | some run =>
      let resumed := resumeReconcileRun (system.reconcileHost suspensionStopped now)
        system.store run delivered
      { system.withStore resumed.1 with reconciling := resumed.2.1 }

/-- The pair a step of a queue run dispatches, in the store it is dispatched in. -/
def dispatchOf (system : SchedulingSystem) : QueueAction → Option Admission
  | .resume host key answer =>
    (system.runs key).bind fun run =>
      match run.point with
      | .preparing _ => none
      | _ =>
        match queueDecision host system.store run answer with
        | .goesOn _ _ => none
        | .dispatches store listed _ _ =>
          some ⟨store, key.project, key.brain, listed.state.taskId⟩
  | _ => none

/-- The place a step gives to a pair. -/
def admission (system : SchedulingSystem) : SchedulingAction → Option Admission
  | .queue action => system.dispatchOf (action.within system.sessions)
  | .goOn suspensionStopped now delivered =>
    system.reconciling.bind fun run =>
      (resumeReconcileRun (system.reconcileHost suspensionStopped now) system.store run
        delivered).2.2
  | _ => none

def idleSessions : SessionFacts := ⟨fun _ => false, fun _ => 1⟩

end SchedulingSystem

end ImCodes.TaskPair
