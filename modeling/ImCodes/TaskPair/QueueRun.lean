import ImCodes.TaskPair.Replays

/-!
# Runs of the queue

The scheduler goes through the queued pairs of a project's Brain, fills their open roles and
dispatches them while the Brain has room. A run waits for provisioning and for deliveries, and
other runs and markers come in between.
-/

set_option autoImplicit false

namespace ImCodes.TaskPair

open Library TaskPairState

inductive TaskPairPickRole where
  | executor | auditor
deriving DecidableEq, Repr

inductive TaskPairPool where
  | primary | economy
deriving DecidableEq, Repr

/-- What a session is picked by. -/
structure TaskPairPick where
  brain : String
  role : TaskPairPickRole
  pool : TaskPairPool
  exclude : List String
  project : String
  requestedModel : Option String
deriving DecidableEq, Repr

/-- What the scheduler takes from the sessions, the pools and the clock. -/
structure QueueHost extends TaskPairServiceHost where
  maxConcurrency : String → Nat
  occupiesSlot : StoredTaskPair → Bool
  isBusy : String → Bool
  busyReasons : String → String
  /-- No pool is configured and too few sessions are left for the roles to fill. -/
  needsUserPoolChoice : String → Nat → List String → Bool
  pick : TaskPairPick → Option String
  /-- Another pair that edits the executor's project directory in place. -/
  inPlaceHolder : TaskPairStore → TaskPairState → String → Option StoredTaskPair
  inPlaceRoot : StoredTaskPair → String

structure QueueKey where
  project : String
  brain : String
deriving DecidableEq, Repr

/-- The DISPATCH of a run: the pair as the run listed it, the sessions it found for it, and who
had the pair before the DISPATCH and after it. -/
structure QueuedDispatch where
  listed : StoredTaskPair
  executor : String
  auditor : String
  before : Option TaskPairBooking
  after : Option TaskPairBooking
deriving DecidableEq

/-- Where a run waits. -/
inductive QueuePoint where
  | next
  | notifying
  | executorAsked (listed : StoredTaskPair)
  | auditorAsked (listed : StoredTaskPair) (executor : Option String)
  | preparing (own : QueuedDispatch)
  | announcing
deriving DecidableEq

structure QueueRun where
  key : QueueKey
  max : Nat
  openPairs : Nat
  waiting : List StoredTaskPair
  point : QueuePoint
deriving DecidableEq

inductive QueueEvent where
  /-- The pair counts as one of the Brain's open pairs. -/
  | counted (own : QueuedDispatch)
  | briefed (own : QueuedDispatch) (session : String)
  | assigned (own : QueuedDispatch) (session : String)
deriving DecidableEq

/-! ## Flags -/

/-- A flag on a waiting pair, and why it waits. -/
def flagQuiet (store : TaskPairStore) (host : QueueHost) (project taskId : String)
    (flag : TaskPairFlag) (detail : Option String) : TaskPairStore :=
  match store.getPair project taskId with
  | none => store
  | some stored =>
    let pair := stored.state
    let reason := if flag = .waitingForCapacity then detail.or pair.capacityWaitReason
      else pair.capacityWaitReason
    if pair.flags.contains flag ∧ reason = pair.capacityWaitReason then store
    else store.savePair project { pair.addFlag flag with
      capacityWaitReason := reason
      updatedAt := host.clock }

/-- The pair may still be acted on as it was listed. -/
def scheduleStillCurrent (store : TaskPairStore) (project : String) (pair : TaskPairState) :
    Bool :=
  match store.getPair project pair.taskId with
  | none => false
  | some current =>
    !(isTerminalTaskPairStatus current.state.status) && !(isTaskPairSuspended current.state) &&
      (current.state.scheduling.elim 0 (·.epoch)) = (pair.scheduling.elim 0 (·.epoch))

def namedParticipants (pair : TaskPairState) : List String :=
  [truthy pair.executor, truthy pair.auditor].filterMap fun session =>
    session.filter (· ≠ taskPairNoAuditor)

/-- A named session that is held or busy, and what the pair is flagged with. -/
def participantWait (host : QueueHost) (store : TaskPairStore) (pair : TaskPairState) :
    Option String :=
  let named := namedParticipants pair
  match named.find? fun session => store.isParticipantOfOpenPair session (some pair.taskId) with
  | some held =>
    let holder := store.listActivePairs.find? fun candidate =>
      candidate.state.taskId ≠ pair.taskId &&
        (candidate.state.executor = some held || candidate.state.auditor = some held)
    some (holder.elim ("waiting for " ++ held ++ " (busy in another open pair)") fun holder =>
      host.buildHeldWaitReason held holder.state)
  | none =>
    (named.find? host.isBusy).map fun busy =>
      "waiting for " ++ busy ++ " (session busy" ++ host.busyReasons busy ++ ")"

/-! ## One pair of the queue -/

def queuePool (pair : TaskPairState) : TaskPairPool :=
  if pair.executorPool = some "economy" then .economy else .primary

def pickExecutor (host : QueueHost) (key : QueueKey) (pair : TaskPairState) : Option String :=
  host.pick ⟨key.brain, .executor, queuePool pair, key.brain :: (truthy pair.auditor).toList,
    key.project, pair.executorModel⟩

def pickAuditor (host : QueueHost) (key : QueueKey) (pair : TaskPairState) (executor : String) :
    Option String :=
  host.pick ⟨key.brain, .auditor, .primary, [key.brain, executor], key.project,
    pair.auditorModel⟩

/-- What a run comes to before its next wait: the store, and either the point it goes on from
or the pair it is about to dispatch. -/
inductive QueueDecision where
  | goesOn (store : TaskPairStore) (point : QueuePoint)
  | dispatches (store : TaskPairStore) (listed : StoredTaskPair) (executor auditor : String)

section
variable (host : QueueHost) (store : TaskPairStore) (key : QueueKey) (listed : StoredTaskPair)

def waitsFor (detail : String) : QueueDecision :=
  .goesOn (flagQuiet store host key.project listed.state.taskId .waitingForCapacity (some detail))
    .next

def withAuditor (executor auditor : Option String) : QueueDecision :=
  if !(scheduleStillCurrent store key.project listed.state) then .goesOn store .next
  else
    match truthy executor, truthy auditor with
    | none, _ => waitsFor host store key listed "waiting for an executor from the configured pool"
    | some _, none => waitsFor host store key listed
        "waiting for an auditor from the configured pool"
    | some executor, some auditor =>
      if executor = auditor then
        waitsFor host store key listed "waiting for distinct executor and auditor sessions"
      else
        match host.inPlaceHolder store listed.state executor with
        | some holder => waitsFor host store key listed ("waiting for " ++ holder.state.taskId ++
            " (it edits " ++ host.inPlaceRoot holder ++
            " in place; pass parallel=true on DISPATCH to run alongside)")
        | none => .dispatches store listed executor auditor

def withExecutor (executor : Option String) : QueueDecision :=
  if !(scheduleStillCurrent store key.project listed.state) then .goesOn store .next
  else
    match listed.state.auditor with
    | some auditor => withAuditor host store key listed executor (some auditor)
    | none =>
      match truthy executor with
      | none => withAuditor host store key listed executor none
      | some found =>
        match pickAuditor host key listed.state found with
        | some auditor => withAuditor host store key listed executor (some auditor)
        | none => .goesOn store (.auditorAsked listed executor)

def considerPair : QueueDecision :=
  let pair := listed.state
  if !(scheduleStillCurrent store key.project pair) then .goesOn store .next
  -- An imported pair without a brief is parked until Brain adds one.
  else if pair.brief.isNone && (truthy listed.legacyTaskId).isSome then .goesOn store .next
  else
    match participantWait host store pair with
    | some detail => waitsFor host store key listed detail
    | none =>
      let need := (if (truthy pair.executor).isNone && (truthy pair.executorModel).isNone then 1
          else 0) +
        (if (truthy pair.auditor).isNone && (truthy pair.auditorModel).isNone then 1 else 0)
      if host.needsUserPoolChoice key.brain need (key.brain :: namedParticipants pair) then
        .goesOn (flagQuiet store host key.project pair.taskId .noPoolConfigured none) .notifying
      else
        let flagged := if (truthy pair.executor).isNone || (truthy pair.auditor).isNone then
            flagQuiet store host key.project pair.taskId .waitingForCapacity none
          else store
        match pair.executor.or (pickExecutor host key pair) with
        | some executor => withExecutor host flagged key listed (some executor)
        | none => .goesOn flagged (.executorAsked listed)

end

/-- The run from where it waits to its next wait, up to a DISPATCH. -/
def queueDecision (host : QueueHost) (store : TaskPairStore) (run : QueueRun)
    (answer : Option String) : QueueDecision :=
  match run.point with
  | .next =>
    match run.waiting with
    | [] => .goesOn store .next
    | listed :: _ =>
      if run.max ≤ run.openPairs then
        waitsFor host store run.key listed ("waiting for concurrency capacity (" ++
          toString run.openPairs ++ "/" ++ toString run.max ++ " open pairs)")
      else considerPair host store run.key listed
  | .executorAsked listed => withExecutor host store run.key listed answer
  | .auditorAsked listed executor => withAuditor host store run.key listed executor answer
  | _ => .goesOn store .next

/-! ## The DISPATCH and the brief -/

def queueDispatch (host : QueueHost) (key : QueueKey) (taskId executor auditor : String) :
    ApplyMarkerInput where
  initialScheduling := none
  project := key.project
  writer := "daemon"
  marker := ⟨some .dispatch, taskId, [("executor", executor), ("auditor", auditor)], none⟩
  source := .queue
  eventId := "queue:" ++ key.project ++ ":" ++ taskId ++ ":dispatch:" ++ toString host.clock
  now := host.clock
  turnText := none
  requireStructuredPairCreate := false

/-- The pair without what it was flagged with while it waited. -/
def withoutWaitFlags (pair : TaskPairState) : TaskPairState :=
  { pair with
    flags := pair.flags.filter fun flag => flag ≠ .waitingForCapacity && flag ≠ .noPoolConfigured
    capacityWaitReason := none }

/-- The DISPATCH of the queue, whatever becomes of it: the pair is saved without its wait flags
and counts as open. -/
def admitPair (host : QueueHost) (store : TaskPairStore) (run : QueueRun)
    (listed : StoredTaskPair) (executor auditor : String) :
    TaskPairStore × QueueRun × List QueueEvent :=
  let taskId := listed.state.taskId
  let applied := applyMarker host.toTaskPairServiceHost store
    (queueDispatch host run.key taskId executor auditor)
  match applied.2.pair.or (applied.1.pairAt run.key.project taskId) with
  | none => (applied.1, { run with point := .next }, [])
  | some dispatched =>
    let saved := applied.1.savePair run.key.project (withoutWaitFlags dispatched)
    let own : QueuedDispatch :=
      { listed, executor, auditor
        before := (store.pairAt run.key.project taskId).map (·.booking)
        after := (saved.pairAt run.key.project taskId).map (·.booking) }
    (saved, { run with openPairs := run.openPairs + 1, point := .preparing own }, [.counted own])

def briefEvents (own : QueuedDispatch) (executor auditor : Option String) : List QueueEvent :=
  executor.toList.map (.briefed own) ++
    (auditor.filter (· ≠ taskPairNoAuditor)).toList.map (.assigned own)

/-- Who is told of the pair: the sessions of the DISPATCH where the pair has a brief, the
sessions it has by now where it has none. -/
def briefParticipants (store : TaskPairStore) (run : QueueRun) (own : QueuedDispatch) :
    List QueueEvent :=
  if own.listed.state.brief.isSome then briefEvents own (some own.executor) (some own.auditor)
  else
    match store.pairAt run.key.project own.listed.state.taskId with
    | none => []
    | some pair => briefEvents own (truthy pair.executor) (truthy pair.auditor)

/-- The list a run works on: its Brain's queued pairs, urgent ones first. -/
def startQueueRun (host : QueueHost) (store : TaskPairStore) (key : QueueKey) : QueueRun :=
  let pairs := (store.activePairsOf key.project).filter fun stored => stored.state.brain = key.brain
  { key
    max := host.maxConcurrency key.brain
    openPairs := (pairs.filter host.occupiesSlot).length
    waiting := (pairs.filter fun stored =>
      stored.state.status = .queued && !(isTaskPairSuspended stored.state)).insertionSort
        fun a b => (a.state.urgent = some true ∧ b.state.urgent ≠ some true) ∨
          ((a.state.urgent = some true ↔ b.state.urgent = some true) ∧ a.queueOrder ≤ b.queueOrder)
    point := .next }

/-- The run with its list shortened by the pair it considers. -/
def QueueRun.advance (run : QueueRun) : QueueRun :=
  match run.point with
  | .next => { run with waiting := if run.max ≤ run.openPairs then [] else run.waiting.tail }
  | _ => run

/-- A run goes on from where it waits; `none` when it is through. -/
def resumeQueueRun (host : QueueHost) (store : TaskPairStore) (run : QueueRun)
    (answer : Option String) : TaskPairStore × Option QueueRun × List QueueEvent :=
  match run.point with
  | .preparing own =>
    (store, some { run with point := .announcing }, briefParticipants store run own)
  | _ =>
    match queueDecision host store run answer with
    | .goesOn after point =>
      let going := { run.advance with point := point }
      (after, if point = .next ∧ going.waiting = [] then none else some going, [])
    | .dispatches before listed executor auditor =>
      let admitted := admitPair host before run.advance listed executor auditor
      (admitted.1, some admitted.2.1, admitted.2.2)

/-! ## Runs beside each other -/

/-- The store, and the runs under way: one at most for a project and Brain. -/
structure QueueSystem where
  store : TaskPairStore
  runs : QueueKey → Option QueueRun

inductive QueueAction where
  | marker (host : TaskPairServiceHost) (input : ApplyMarkerInput)
  | runQueue (host : QueueHost) (key : QueueKey)
  | resume (host : QueueHost) (key : QueueKey) (answer : Option String)

namespace QueueSystem

def withRun (system : QueueSystem) (store : TaskPairStore) (key : QueueKey)
    (run : Option QueueRun) : QueueSystem where
  store := store
  runs := fun other => if other = key then run else system.runs other

def step (system : QueueSystem) : QueueAction → QueueSystem
  | .marker host input => { system with store := markerStep host system.store input }
  | .runQueue host key =>
    if (system.runs key).isSome then system
    else system.withRun system.store key (some (startQueueRun host system.store key))
  | .resume host key answer =>
    match system.runs key with
    | none => system
    | some run =>
      let resumed := resumeQueueRun host system.store run answer
      system.withRun resumed.1 key resumed.2.1

/-- What the step of a run counts and sends. -/
def events (system : QueueSystem) : QueueAction → List QueueEvent
  | .resume host key answer =>
    match system.runs key with
    | none => []
    | some run => (resumeQueueRun host system.store run answer).2.2
  | _ => []

end QueueSystem

end ImCodes.TaskPair
