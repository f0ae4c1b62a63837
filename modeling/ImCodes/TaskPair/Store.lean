import ImCodes.Library.Json
import ImCodes.Library.Run
import ImCodes.Library.Table
import ImCodes.TaskPair.Apply

/-!
# The store of task pairs

The pairs of every project under their project and task id, the markers recorded so far, and
the daemon's `applyMarker`, which puts one marker to the pair it names.
-/

set_option autoImplicit false

namespace ImCodes.TaskPair

open Library

/-- A pair with the place it has in the queue of its project. -/
structure StoredTaskPair where
  project : String
  state : TaskPairState
  queueOrder : Nat
  legacyTaskId : Option String
deriving DecidableEq

def StoredTaskPair.key (stored : StoredTaskPair) : String × String :=
  (stored.project, stored.state.taskId)

/-- Of a recorded marker, what a later marker is compared with. -/
structure TaskPairEventRecord where
  id : String
  project : String
  taskId : String
  writer : String
  verb : Option TaskPairVerb
  attrs : TaskPairAttrs
  toStatus : Option TaskPairStatus
  at_ : Int
deriving DecidableEq

structure TaskPairStore where
  pairs : Table StoredTaskPair (String × String) StoredTaskPair.key
  events : Table TaskPairEventRecord String (·.id)

def taskPairParticipantStatuses : List TaskPairStatus :=
  [.working, .inAudit, .awaitingAudit, .awaitingBrainDecision, .rework, .passed]

namespace TaskPairStore

def empty : TaskPairStore := ⟨.empty, .empty⟩

def getPair (store : TaskPairStore) (project taskId : String) : Option StoredTaskPair :=
  store.pairs.lookup (project, taskId)

def hasEvent (store : TaskPairStore) (id : String) : Bool :=
  (store.events.lookup id).isSome

def recordEvent (store : TaskPairStore) (event : TaskPairEventRecord) : TaskPairStore :=
  { store with events := store.events.insertOrIgnore event }

/-- The newest events of a pair. -/
def listEvents (store : TaskPairStore) (project taskId : String) (limit : Nat) :
    List TaskPairEventRecord :=
  ((store.events.select fun event =>
    decide (event.project = project) && decide (event.taskId = taskId)).insertionSort
      fun a b => b.at_ ≤ a.at_).take limit

/-- The pairs that are not closed, in the order of the queue. -/
def listActivePairs (store : TaskPairStore) : List StoredTaskPair :=
  (store.pairs.select fun stored => !isTerminalTaskPairStatus stored.state.status).insertionSort
    fun a b => a.queueOrder < b.queueOrder ∨
      a.queueOrder = b.queueOrder ∧ a.state.updatedAt ≤ b.state.updatedAt

def activePairsOf (store : TaskPairStore) (project : String) : List StoredTaskPair :=
  store.listActivePairs.filter fun stored => decide (stored.project = project)

def holds (stored : StoredTaskPair) (sessionName : String) : Bool :=
  decide (stored.state.status ∈ taskPairParticipantStatuses) &&
    (decide (stored.state.executor = some sessionName) ||
      decide (stored.state.auditor = some sessionName))

def isParticipantOfOpenPair (store : TaskPairStore) (sessionName : String)
    (exceptTaskId : Option String) : Bool :=
  store.listActivePairs.any fun stored =>
    decide (some stored.state.taskId ≠ exceptTaskId) && holds stored sessionName

def nextQueueOrder (store : TaskPairStore) : Nat :=
  (store.pairs.rows.map (·.queueOrder)).foldl max 0 + 1

/-- The row is written whole, but for its place in the queue and the scheduling it has, which
a copy of the pair never changes. -/
def savePair (store : TaskPairStore) (project : String) (state : TaskPairState) :
    TaskPairStore :=
  let row : StoredTaskPair :=
    match store.getPair project state.taskId with
    | some existing =>
      { existing with state := { state with scheduling := existing.state.scheduling } }
    | none =>
      { project, state
        queueOrder := store.nextQueueOrder
        legacyTaskId := none }
  { store with pairs := store.pairs.upsert row }

/-- The scheduling of an open pair is written if it is still the expected one; `none` where
nothing was written. -/
def patchScheduling (store : TaskPairStore) (project taskId : String)
    (expected : Option TaskPairScheduling) (next : TaskPairScheduling) (at_ : Int) :
    Option TaskPairStore :=
  match store.getPair project taskId with
  | some stored =>
    if !(isTerminalTaskPairStatus stored.state.status) && stored.state.scheduling = expected then
      some { store with pairs := store.pairs.upsert { stored with
        state := { stored.state with scheduling := some next, updatedAt := at_ } } }
    else none
  | none => none

end TaskPairStore

end ImCodes.TaskPair
