import ImCodes.TaskPair.Identity
import ImCodes.TaskPair.Service

/-!
# What `applyMarker` writes

A marker changes one pair of the store at most, the one it names, and of that pair what its
transition changed, but for the notes the daemon adds on the way to the store.
-/

set_option autoImplicit false

namespace ImCodes.TaskPair

open Library TaskPairState

/-- A host without session settings, checklists and moved workspaces. -/
def plainServiceHost : TaskPairServiceHost :=
  { plainHost with
    effort := fun _ => none
    projectBrainSession := fun project => project ++ "_brain"
    projectBlocking := fun _ => none
    redirectTaskPairWorkspacePath := fun _ path => path
    uncheckedItems := fun _ _ => []
    updateTaskPairChecklist := fun brief _ _ => brief
    buildHeldWaitReason := fun session holder =>
      "waiting for " ++ session ++ " (busy in " ++ holder.taskId ++ ")"
    claimResource := fun _ _ _ => false
    clock := 0 }

/-- A marker of the session `writer` in a project, recorded under an id of its own. -/
def plainInput (eventId project writer : String) (source : TaskPairEventSource) (now : Int)
    (marker : TaskPairMarker) : ApplyMarkerInput where
  initialScheduling := none
  project := project
  writer := writer
  marker := marker
  source := source
  eventId := eventId
  now := now
  turnText := none
  requireStructuredPairCreate := false

namespace TaskPairStore

def pairAt (store : TaskPairStore) (project taskId : String) : Option TaskPairState :=
  (store.getPair project taskId).map (·.state)

variable (store : TaskPairStore)

@[simp] theorem recordEvent_getPair (event : TaskPairEventRecord) (project taskId : String) :
    (store.recordEvent event).getPair project taskId = store.getPair project taskId := rfl

@[simp] theorem recordEvent_pairAt (event : TaskPairEventRecord) (project taskId : String) :
    (store.recordEvent event).pairAt project taskId = store.pairAt project taskId := rfl

@[simp] theorem savePair_events (project : String) (state : TaskPairState) :
    (store.savePair project state).events = store.events := rfl

variable {store}

theorem getPair_key {project taskId : String} {stored : StoredTaskPair}
    (found : store.getPair project taskId = some stored) :
    stored.project = project ∧ stored.state.taskId = taskId :=
  Prod.mk.injEq .. ▸ (Table.lookup_eq_some_iff.mp found).2

theorem getPair_mem {project taskId : String} {stored : StoredTaskPair}
    (found : store.getPair project taskId = some stored) : stored ∈ store.pairs :=
  (Table.lookup_eq_some_iff.mp found).1

theorem savePair_row (project : String) (state : TaskPairState) :
    ∃ row : StoredTaskPair, row.project = project ∧
      (∃ scheduling, row.state = { state with scheduling := scheduling }) ∧
      (store.savePair project state).pairs = store.pairs.upsert row := by
  cases found : store.getPair project state.taskId with
  | none =>
    refine ⟨⟨project, state, store.nextQueueOrder, none⟩, rfl, ⟨state.scheduling, rfl⟩, ?_⟩
    simp only [savePair, found]
  | some existing =>
    refine ⟨{ existing with state := { state with scheduling := existing.state.scheduling } },
      (getPair_key found).1, ⟨existing.state.scheduling, rfl⟩, ?_⟩
    simp only [savePair, found]

theorem getPair_savePair_other {project : String} {state : TaskPairState} {other task : String}
    (different : (other, task) ≠ (project, state.taskId)) :
    (store.savePair project state).getPair other task = store.getPair other task := by
  obtain ⟨row, rowProject, ⟨scheduling, rowState⟩, written⟩ :=
    @savePair_row store project state
  have rowKey : row.key = (project, state.taskId) := by
    simp only [StoredTaskPair.key, rowProject, rowState]
  unfold getPair
  rw [written, Table.lookup_upsert, rowKey, if_neg different.symm]

theorem pairAt_savePair_other {project : String} {state : TaskPairState} {other task : String}
    (different : (other, task) ≠ (project, state.taskId)) :
    (store.savePair project state).pairAt other task = store.pairAt other task := by
  simp only [pairAt, getPair_savePair_other different]

theorem pairAt_savePair (project : String) (state : TaskPairState) :
    ∃ scheduling, (store.savePair project state).pairAt project state.taskId =
      some { state with scheduling := scheduling } := by
  obtain ⟨row, rowProject, ⟨scheduling, rowState⟩, written⟩ :=
    @savePair_row store project state
  have rowKey : row.key = (project, state.taskId) := by
    simp only [StoredTaskPair.key, rowProject, rowState]
  refine ⟨scheduling, ?_⟩
  simp only [pairAt, getPair, written, Table.lookup_upsert, rowKey, if_true, Option.map_some,
    rowState]

end TaskPairStore

/-! ## From the transition to the store -/

section
variable (host : TaskPairServiceHost)

@[simp] theorem redirectMaterial_taskId (pair : TaskPairState) :
    (redirectMaterialToCurrentWorkspace host pair).taskId = pair.taskId := by
  unfold redirectMaterialToCurrentWorkspace
  split <;> rfl

theorem redirectMaterial_scheduled (pair : TaskPairState)
    (scheduling : Option TaskPairScheduling) :
    redirectMaterialToCurrentWorkspace host { pair with scheduling := scheduling } =
      { pair with
        scheduling := scheduling
        material := (redirectMaterialToCurrentWorkspace host pair).material } := by
  cases material : pair.material <;> cases workspace : pair.workspace <;>
    simp [redirectMaterialToCurrentWorkspace, material, workspace]

theorem noteParticipantConflicts_cases (store : TaskPairStore) (project : String)
    (saved : TaskPairState) (busy : List String) :
    ∃ flags reason updatedAt, noteParticipantConflicts host store project saved busy =
      { saved with flags := flags, capacityWaitReason := reason, updatedAt := updatedAt } := by
  have unchanged : ∃ flags reason updatedAt, saved =
      { saved with flags := flags, capacityWaitReason := reason, updatedAt := updatedAt } :=
    ⟨saved.flags, saved.capacityWaitReason, saved.updatedAt, rfl⟩
  have flagged : ∀ reason, ∃ flags updatedAt, { saved.addFlag .waitingForCapacity with
      capacityWaitReason := reason, updatedAt := host.clock } =
      { saved with flags := flags, capacityWaitReason := reason, updatedAt := updatedAt } := by
    intro reason
    refine ⟨(saved.addFlag .waitingForCapacity).flags, host.clock, ?_⟩
    simp only [addFlag]
    split <;> rfl
  unfold noteParticipantConflicts
  dsimp only
  split
  · exact unchanged
  · split
    · split
      · exact unchanged
      · obtain ⟨flags, updatedAt, same⟩ := flagged _
        exact ⟨flags, _, updatedAt, same⟩
    · exact unchanged

theorem autoTickBox_cases (project eventId : String) (now : Int) (store : TaskPairStore)
    (pair : TaskPairState) (box : TaskPairChecklistBox) :
    (autoTickBox host project eventId now store pair box = (store, pair)) ∨
    ∃ brief event, autoTickBox host project eventId now store pair box =
      ((store.savePair project { pair with brief := some brief, updatedAt := now }).recordEvent
        event, { pair with brief := some brief, updatedAt := now }) := by
  unfold autoTickBox
  extract_lets brief items markdown
  split
  · exact .inl rfl
  · exact .inr ⟨_, _, rfl⟩

end

/-- The store has the pair, whatever place the queue gives it, and every other pair as before. -/
structure Wrote (before after : TaskPairStore) (project : String) (pair : TaskPairState) :
    Prop where
  own : ∃ scheduling, after.pairAt project pair.taskId =
    some { pair with scheduling := scheduling }
  others : ∀ other task, (other, task) ≠ (project, pair.taskId) →
    after.getPair other task = before.getPair other task

theorem wrote_savePair (store : TaskPairStore) (project : String) (pair : TaskPairState) :
    Wrote store (store.savePair project pair) project pair where
  own := TaskPairStore.pairAt_savePair project pair
  others _ _ different := TaskPairStore.getPair_savePair_other different

theorem Wrote.savePair {before after : TaskPairStore} {project : String}
    {pair next : TaskPairState} (wrote : Wrote before after project pair)
    (same : next.taskId = pair.taskId) : Wrote before (after.savePair project next) project next
    where
  own := TaskPairStore.pairAt_savePair project next
  others other task different :=
    (TaskPairStore.getPair_savePair_other different).trans
      (wrote.others other task (same ▸ different))

section
variable (host : TaskPairServiceHost) (store : TaskPairStore) (input : ApplyMarkerInput)
  (existing : Option TaskPairState) (transition : TaskPairTransition) (busy : List String)
  (pair : TaskPairState)

def placedPair : TaskPairState :=
  redirectMaterialToCurrentWorkspace host (scheduledPair input existing pair)

theorem placedPair_cases :
    ∃ scheduling, placedPair host input existing pair =
      { pair with
        scheduling := scheduling
        material := (redirectMaterialToCurrentWorkspace host pair).material } := by
  unfold placedPair scheduledPair
  split
  · exact ⟨_, redirectMaterial_scheduled host pair _⟩
  · exact ⟨pair.scheduling, redirectMaterial_scheduled host pair pair.scheduling⟩

def notedPair : TaskPairState :=
  let placed := placedPair host input existing pair
  if busy = [] then placed
  else noteParticipantConflicts host (store.savePair input.project placed) input.project placed
    busy

theorem notedPair_cases :
    ∃ scheduling flags reason updatedAt, notedPair host store input existing busy pair =
      { pair with
        scheduling := scheduling
        material := (redirectMaterialToCurrentWorkspace host pair).material
        flags := flags
        capacityWaitReason := reason
        updatedAt := updatedAt } := by
  obtain ⟨scheduling, placed⟩ := placedPair_cases host input existing pair
  unfold notedPair
  extract_lets given
  split
  · exact ⟨scheduling, pair.flags, pair.capacityWaitReason, pair.updatedAt, placed⟩
  · obtain ⟨flags, reason, updatedAt, noted⟩ := noteParticipantConflicts_cases host
      (store.savePair input.project given) input.project given busy
    refine ⟨scheduling, flags, reason, updatedAt, ?_⟩
    rw [noted]
    simp only [given, placed]

theorem notedPair_taskId : (notedPair host store input existing busy pair).taskId = pair.taskId := by
  obtain ⟨scheduling, flags, reason, updatedAt, noted⟩ :=
    notedPair_cases host store input existing busy pair
  rw [noted]

theorem wrote_noted : Wrote store
    ((store.savePair input.project (placedPair host input existing pair)).savePair input.project
      (notedPair host store input existing busy pair))
    input.project (notedPair host store input existing busy pair) := by
  apply (wrote_savePair store input.project (placedPair host input existing pair)).savePair
  obtain ⟨scheduling, placed⟩ := placedPair_cases host input existing pair
  rw [notedPair_taskId, placed]

theorem saveTransition_unticked
    (unticked : shouldAutoTickChecklist host input.marker.knownVerb transition
      (notedPair host store input existing busy pair) = false) :
    saveTransition host store input existing transition busy pair =
      ((store.savePair input.project (placedPair host input existing pair)).savePair input.project
        (notedPair host store input existing busy pair),
       scheduledPair input existing pair) := by
  change (if shouldAutoTickChecklist host input.marker.knownVerb transition
    (notedPair host store input existing busy pair) = true then _ else _) = _
  rw [unticked]
  rfl

variable {host store input existing transition busy} {taskId : Option String}

theorem commitTransition_unwritten (nothing : transition.pair = none) :
    (commitTransition host store input taskId existing busy transition).1.pairs = store.pairs := by
  unfold commitTransition
  rw [nothing]
  rfl

theorem commitTransition_written {pair : TaskPairState} (written : transition.pair = some pair)
    (unticked : ∀ noted, noted.brief = pair.brief →
      shouldAutoTickChecklist host input.marker.knownVerb transition noted = false) :
    ∃ scheduling flags reason updatedAt,
      Wrote store (commitTransition host store input taskId existing busy transition).1
        input.project
        { pair with
          scheduling := scheduling
          material := (redirectMaterialToCurrentWorkspace host pair).material
          flags := flags
          capacityWaitReason := reason
          updatedAt := updatedAt } := by
  unfold commitTransition
  rw [written]
  extract_lets recorded
  dsimp only
  have wrote := wrote_noted host recorded input existing busy pair
  obtain ⟨scheduling, flags, reason, updatedAt, noted⟩ :=
    notedPair_cases host recorded input existing busy pair
  rw [saveTransition_unticked host recorded input existing transition busy pair
    (unticked _ (by rw [noted]))]
  refine ⟨scheduling, flags, reason, updatedAt, ?_⟩
  rw [noted] at wrote ⊢
  exact ⟨wrote.own, wrote.others⟩

end

end ImCodes.TaskPair
