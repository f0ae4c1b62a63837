import ImCodes.TaskPair.WaitingPairs

/-!
# Admissions and the limit

A Brain runs a limited number of its pairs at a time. A reconciliation counts the slots in the
step in which it admits a pair. A run of the queue counts them once, when it starts, and then
waits several times, so its count holds only as long as no other step takes a slot behind it or
lowers the limit.
-/

set_option autoImplicit false

namespace ImCodes.TaskPair

open Library TaskPairState

/-! ## Slots -/

/-- The pairs of a Brain in a project that hold an execution slot. -/
def slotPairs (store : TaskPairStore) (busy : String → Bool) (key : QueueKey) :
    List StoredTaskPair :=
  (store.activePairsOf key.project).filter fun stored =>
    decide (stored.state.brain = key.brain) && taskPairHoldsExecutionSlot stored.state busy

def slotsOf (store : TaskPairStore) (busy : String → Bool) (key : QueueKey) : Nat :=
  (slotPairs store busy key).length

def ChangesOnly (project taskId : String) (before after : TaskPairStore) : Prop :=
  ∀ other task, (other, task) ≠ (project, taskId) →
    after.getPair other task = before.getPair other task

section
variable {store before after : TaskPairStore} {busy : String → Bool} {key : QueueKey}
  {stored : StoredTaskPair}

theorem open_of_holdsSlot (holds : taskPairHoldsExecutionSlot stored.state busy = true) :
    isTerminalTaskPairStatus stored.state.status = false := by
  simp only [taskPairHoldsExecutionSlot, Bool.and_eq_true, decide_eq_true_eq] at holds
  have isOpen := holds.1
  revert isOpen
  cases stored.state.status <;> decide

theorem mem_slotPairs : stored ∈ slotPairs store busy key ↔
    store.getPair stored.project stored.state.taskId = some stored ∧
      stored.project = key.project ∧ stored.state.brain = key.brain ∧
      taskPairHoldsExecutionSlot stored.state busy = true := by
  simp only [slotPairs, TaskPairStore.activePairsOf, List.mem_filter, mem_listActivePairs,
    Bool.and_eq_true, decide_eq_true_eq]
  constructor
  · rintro ⟨⟨⟨member, -⟩, inProject⟩, ofBrain, holds⟩
    exact ⟨Table.lookup_of_mem member, inProject, ofBrain, holds⟩
  · rintro ⟨found, inProject, ofBrain, holds⟩
    exact ⟨⟨⟨TaskPairStore.getPair_mem found, open_of_holdsSlot holds⟩, inProject⟩, ofBrain,
      holds⟩

theorem slotPairs_nodup : ((slotPairs store busy key).map (·.key)).Nodup := by
  have listed : (store.listActivePairs.map (·.key)).Nodup := by
    have selected : ((store.pairs.select fun stored =>
        !isTerminalTaskPairStatus stored.state.status).map (·.key)).Nodup :=
      (List.filter_sublist.map _).nodup store.pairs.unique
    exact ((List.perm_insertionSort _ _).map _).nodup_iff.mpr selected
  exact ((List.filter_sublist.trans List.filter_sublist).map _).nodup listed

theorem slotsOf_le (gained : List (String × String))
    (each : ∀ stored ∈ slotPairs after busy key, stored.key ∈ gained ∨
      ∃ earlier ∈ slotPairs before busy key, earlier.key = stored.key) :
    slotsOf after busy key ≤ gained.length + slotsOf before busy key := by
  have covered : (slotPairs after busy key).map (·.key) ⊆
      gained ++ (slotPairs before busy key).map (·.key) := by
    intro target member
    obtain ⟨stored, held, rfl⟩ := List.mem_map.mp member
    rcases each stored held with isGained | ⟨earlier, wasHeld, same⟩
    · exact List.mem_append_left _ isGained
    · exact List.mem_append_right _ (List.mem_map.mpr ⟨earlier, wasHeld, same⟩)
  have shorter := (slotPairs_nodup.subperm covered).length_le
  simpa [slotsOf] using shorter

theorem ChangesOnly.slotsOf_le {project taskId : String}
    (changes : ChangesOnly project taskId before after) :
    slotsOf after busy key ≤ slotsOf before busy key + 1 := by
  have bounded := @TaskPair.slotsOf_le before after busy key [(project, taskId)] (by
    intro stored held
    by_cases own : stored.key = (project, taskId)
    · exact .inl (by simp [own])
    · obtain ⟨found, inProject, ofBrain, holds⟩ := mem_slotPairs.mp held
      have earlier := (changes _ _ own).symm.trans found
      exact .inr ⟨stored, mem_slotPairs.mpr ⟨earlier, inProject, ofBrain, holds⟩, rfl⟩)
  simpa [Nat.add_comm] using bounded

theorem slotsOf_samePairs (same : after.pairs = before.pairs) :
    slotsOf after busy key = slotsOf before busy key := by
  simp only [slotsOf, slotPairs, TaskPairStore.activePairsOf, TaskPairStore.listActivePairs, same]

theorem otherSlots_le (project brain taskId : String) :
    otherSlots store busy project brain taskId ≤ slotsOf store busy ⟨project, brain⟩ := by
  unfold otherSlots slotsOf slotPairs
  apply List.Sublist.length_le
  apply List.monotone_filter_right
  intro stored other
  simp only [Bool.and_eq_true] at other ⊢
  exact ⟨other.1.1, other.2⟩

/-! ## What a step of a run does to the slots -/

theorem getPair_savePair_stored {project : String} {state : TaskPairState}
    {existing : StoredTaskPair} (found : store.getPair project state.taskId = some existing) :
    (store.savePair project state).getPair project state.taskId =
      some { existing with state := { state with scheduling := existing.state.scheduling } } := by
  have own := TaskPairStore.getPair_key found
  have saved : (store.savePair project state).pairs = store.pairs.upsert
      { existing with state := { state with scheduling := existing.state.scheduling } } := by
    simp only [TaskPairStore.savePair, found]
  rw [TaskPairStore.getPair, saved, Table.lookup_upsert, if_pos]
  simp [StoredTaskPair.key, own.1]

theorem flagQuiet_slotsOf (host : QueueHost) (project taskId : String) (flag : TaskPairFlag)
    (detail : Option String) :
    slotsOf (flagQuiet store host project taskId flag detail) busy key ≤ slotsOf store busy key := by
  unfold flagQuiet
  split
  · exact Nat.le_refl _
  · rename_i own found
    extract_lets pair reason
    split
    · exact Nat.le_refl _
    · have named : (pair.addFlag flag).taskId = taskId :=
        (congrArg Prod.fst (identity_addFlag pair flag)).trans (TaskPairStore.getPair_key found).2
      generalize flagged : ({ pair.addFlag flag with
        capacityWaitReason := reason
        updatedAt := host.clock } : TaskPairState) = saved
      have isTask : saved.taskId = taskId := by
        rw [← flagged]
        exact named
      have row := @getPair_savePair_stored store project saved own (by rw [isTask]; exact found)
      have bounded := @slotsOf_le store (store.savePair project saved) busy key [] (by
        intro stored held
        obtain ⟨isStored, inProject, ofBrain, holds⟩ := mem_slotPairs.mp held
        by_cases same : stored.key = (project, saved.taskId)
        · have projectSame : stored.project = project := congrArg Prod.fst same
          have taskSame : stored.state.taskId = saved.taskId := congrArg Prod.snd same
          rw [projectSame, taskSame, row] at isStored
          cases isStored
          have ownKey := TaskPairStore.getPair_key found
          have sameFacts : saved.brain = own.state.brain ∧ saved.status = own.state.status ∧
              saved.executor = own.state.executor ∧ saved.auditor = own.state.auditor := by
            rw [← flagged]
            simp only [TaskPairState.addFlag, pair]
            split <;> exact ⟨rfl, rfl, rfl, rfl⟩
          refine .inr ⟨own, mem_slotPairs.mpr ⟨?_, inProject, ?_, ?_⟩, ?_⟩
          · rw [ownKey.1, ownKey.2]
            exact found
          · exact sameFacts.1.symm.trans ofBrain
          · simpa only [taskPairHoldsExecutionSlot, isTaskPairSuspended, roleSessions,
              sameFacts] using holds
          · simp [StoredTaskPair.key, ownKey.2, isTask]
        · have unchanged := @TaskPairStore.getPair_savePair_other store project saved _ _ same
          rw [unchanged] at isStored
          exact .inr ⟨stored, mem_slotPairs.mpr ⟨isStored, inProject, ofBrain, holds⟩, rfl⟩)
      simpa using bounded

theorem FlagsOf.slotsOf_le {host : QueueHost} {project : String}
    (flags : FlagsOf host project before after) :
    slotsOf after busy key ≤ slotsOf before busy key := by
  induction flags with
  | none => exact Nat.le_refl _
  | flag _ taskId flag detail ih => exact (flagQuiet_slotsOf host _ _ _ _).trans ih

theorem dispatch_changesOnly {host : TaskPairServiceHost} {input : ApplyMarkerInput}
    (known : input.marker.knownVerb = some .dispatch) :
    ((applyMarker host store input).1.pairs = store.pairs ∧
      (applyMarker host store input).2.pair = none) ∨
    ∃ pair, (applyMarker host store input).2.pair = some pair ∧
      ChangesOnly input.project pair.taskId store (applyMarker host store input).1 := by
  cases recorded : store.hasEvent input.eventId with
  | true =>
    left
    have isRecorded : store.hasEvent (input.configured host).eventId = true := recorded
    simp only [applyMarker, isRecorded, if_true]
    exact ⟨trivial, rfl⟩
  | false =>
    have verb : (input.configured host).marker.knownVerb = some .dispatch := known
    have project : (input.configured host).project = input.project := rfl
    rw [applyMarker_dispatch known recorded, ← project]
    generalize input.configured host = given at verb
    rw [putMarker_dispatch_answer verb]
    have own : ∀ task stored, existingPair store given.project (some task) = some stored →
        stored.state.taskId = task := fun task stored found =>
      (TaskPairStore.getPair_key (existingPair_taskId found)).2
    cases resolved : taskIdOf store given with
    | none =>
      left
      have unwritten : (markerTransition host given none
          ((existingPair store given.project none).map (·.state))
          (busySessions store given.marker.attrs none)).pair = none := rfl
      rw [putMarker_dispatch verb, unwritten]
      exact ⟨commitTransition_unwritten unwritten, rfl⟩
    | some task =>
      cases written : (markerTransition host given (some task)
          ((existingPair store given.project (some task)).map (·.state))
          (busySessions store given.marker.attrs (some task))).pair with
      | none =>
        left
        rw [putMarker_dispatch verb]
        exact ⟨commitTransition_unwritten written, rfl⟩
      | some pair =>
        right
        obtain ⟨saved, wrote, isTask, -⟩ := dispatch_writes verb (own task) written
        have others := wrote.others
        rw [isTask] at others
        refine ⟨_, rfl, ?_⟩
        rw [scheduledPair_taskId, markerTransition_taskId (own task) written]
        exact others

theorem admitPair_slotsOf {host : QueueHost} {run : QueueRun} {listed : StoredTaskPair}
    {executor auditor : String} :
    slotsOf (admitPair host store run listed executor auditor).1 busy key + run.openPairs ≤
      slotsOf store busy key +
        (admitPair host store run listed executor auditor).2.1.openPairs := by
  unfold admitPair
  extract_lets taskId applied
  have dispatched := @dispatch_changesOnly store host.toTaskPairServiceHost
    (queueDispatch host run.key taskId executor auditor) rfl
  change (applied.1.pairs = store.pairs ∧ applied.2.pair = none) ∨
    ∃ pair, applied.2.pair = some pair ∧
      ChangesOnly run.key.project pair.taskId store applied.1 at dispatched
  have saves : ∀ pair : TaskPairState, ChangesOnly run.key.project pair.taskId store applied.1 →
      ChangesOnly run.key.project pair.taskId store
        (applied.1.savePair run.key.project (withoutWaitFlags pair)) := by
    intro pair changes other task different
    have kept := @TaskPairStore.getPair_savePair_other applied.1 run.key.project
      (withoutWaitFlags pair) other task different
    exact kept.trans (changes other task different)
  split
  · rcases dispatched with ⟨same, -⟩ | ⟨pair, answered, -⟩
    · rw [slotsOf_samePairs same]
    · rename_i missing
      rw [answered] at missing
      cases missing
  · rename_i pair isPair
    have changes : ChangesOnly run.key.project pair.taskId store applied.1 := by
      rcases dispatched with ⟨same, -⟩ | ⟨answer, answered, changes⟩
      · intro other task _
        simp only [TaskPairStore.getPair, same]
      · rw [answered] at isPair
        cases isPair
        exact changes
    have bounded := @ChangesOnly.slotsOf_le _ _ busy key _ _ (saves pair changes)
    dsimp only
    omega

end

/-! ## What a run of the queue counts -/

def QueueRun.asks (run : QueueRun) : Prop :=
  (∃ listed, run.point = .executorAsked listed) ∨
    ∃ listed executor, run.point = .auditorAsked listed executor

def QueueRun.hasRoom (run : QueueRun) : Prop :=
  run.openPairs < run.max ∧ (run.waiting ≠ [] ∨ run.asks)

def SchedulingAction.resumedRun : SchedulingAction → Option QueueKey
  | .queue (.resume _ key _) => some key
  | _ => none

namespace SchedulingSystem

def CountHolds (system : SchedulingSystem) (key : QueueKey) (run : QueueRun) : Prop :=
  run.hasRoom → slotsOf system.store system.sessions.liveBusy key ≤ run.openPairs ∧
    run.max ≤ system.sessions.resolveTaskPairMaxConcurrency key.brain

def KeepsCounts (system : SchedulingSystem) (action : SchedulingAction) : Prop :=
  ∀ key run, system.runs key = some run → action.resumedRun ≠ some key →
    (system.step action).CountHolds key run

/-- A pair is admitted only while fewer of its Brain's other pairs than the limit hold a slot. -/
def AdmitsWithinLimit (system : SchedulingSystem) (action : SchedulingAction) : Prop :=
  ∀ admission, system.admission action = some admission →
    otherSlots admission.store system.sessions.liveBusy admission.project admission.brain
        admission.taskId <
      system.sessions.resolveTaskPairMaxConcurrency admission.brain

structure RunCounts (system : SchedulingSystem) (key : QueueKey) (run : QueueRun) : Prop where
  isKey : run.key = key
  room : run.asks → run.openPairs < run.max
  holds : system.CountHolds key run

/-- What a run may go by after a step of its own. -/
def StillCounts (system : SchedulingSystem) (key : QueueKey) (after : TaskPairStore)
    (next : QueueRun) : Prop :=
  next.key = key ∧ (next.asks → next.openPairs < next.max) ∧
    (next.hasRoom → slotsOf after system.sessions.liveBusy key ≤ next.openPairs ∧
      next.max ≤ system.sessions.resolveTaskPairMaxConcurrency key.brain)

def RunsCount (system : SchedulingSystem) : Prop :=
  ∀ key run, system.runs key = some run → system.RunCounts key run

end SchedulingSystem

section
variable {host : QueueHost} {store : TaskPairStore} {run : QueueRun} {answer : Option String}
  {listed : StoredTaskPair} {executor auditor : String}

theorem admitPair_run : (admitPair host store run listed executor auditor).2.1.key = run.key ∧
    (admitPair host store run listed executor auditor).2.1.max = run.max ∧
    ¬ (admitPair host store run listed executor auditor).2.1.asks := by
  unfold admitPair
  extract_lets taskId applied
  split
  all_goals
    refine ⟨rfl, rfl, ?_⟩
    rintro (⟨_, isPoint⟩ | ⟨_, _, isPoint⟩) <;> cases isPoint

theorem advance_waiting (left : run.advance.waiting ≠ []) : run.waiting ≠ [] := by
  intro nothing
  apply left
  unfold QueueRun.advance
  split
  · simp [nothing]
  · exact nothing

theorem advance_counts : run.advance.openPairs = run.openPairs ∧ run.advance.max = run.max := by
  unfold QueueRun.advance
  split <;> exact ⟨rfl, rfl⟩

theorem queueDecision_considers :
    (∃ after, queueDecision host store run answer = .goesOn after .next) ∨
    (∃ after, queueDecision host store run answer = .goesOn after .notifying) ∨
    (run.waiting ≠ [] ∧ run.openPairs < run.max) ∨ run.asks := by
  cases point : run.point with
  | next =>
    cases waiting : run.waiting with
    | nil =>
      left
      exact ⟨store, by simp only [queueDecision, point, waiting]⟩
    | cons first rest =>
      by_cases full : run.max ≤ run.openPairs
      · left
        simp only [queueDecision, point, waiting, if_pos full, waitsFor]
        exact ⟨_, rfl⟩
      · exact .inr (.inr (.inl ⟨by simp, by omega⟩))
  | executorAsked listed => exact .inr (.inr (.inr (.inl ⟨listed, point⟩)))
  | auditorAsked listed executor => exact .inr (.inr (.inr (.inr ⟨listed, executor, point⟩)))
  | notifying => exact .inl ⟨store, by simp only [queueDecision, point]⟩
  | preparing own => exact .inl ⟨store, by simp only [queueDecision, point]⟩
  | announcing => exact .inl ⟨store, by simp only [queueDecision, point]⟩

theorem hasRoom_of_considers (room : run.asks → run.openPairs < run.max)
    (considers : (run.waiting ≠ [] ∧ run.openPairs < run.max) ∨ run.asks) : run.hasRoom := by
  rcases considers with ⟨left, free⟩ | asks
  · exact ⟨free, .inl left⟩
  · exact ⟨room asks, .inr asks⟩

end

namespace SchedulingSystem

section
variable {system : SchedulingSystem} {host : QueueHost} {key : QueueKey} {run : QueueRun}
  {answer : Option String}

theorem RunCounts.goesOn (counts : system.RunCounts key run)
    {after : TaskPairStore} {point : QueuePoint}
    (decided : queueDecision host system.store run answer = .goesOn after point) {next : QueueRun}
    (isNext : next = { run.advance with point := point }) :
    system.StillCounts key after next := by
  subst isNext
  obtain ⟨openSame, maxSame⟩ := @advance_counts run
  have flags := @queueDecision_flags host system.store run answer
  rw [decided] at flags
  have considers := @queueDecision_considers host system.store run answer
  rw [decided] at considers
  have asked : ({ run.advance with point := point } : QueueRun).asks → run.hasRoom := by
    intro asks
    apply hasRoom_of_considers counts.room
    rcases considers with ⟨_, same⟩ | ⟨_, same⟩ | considers
    · cases same
      rcases asks with ⟨_, isPoint⟩ | ⟨_, _, isPoint⟩ <;> cases isPoint
    · cases same
      rcases asks with ⟨_, isPoint⟩ | ⟨_, _, isPoint⟩ <;> cases isPoint
    · exact considers
  refine ⟨(advance_key run).trans counts.isKey, ?_, ?_⟩
  · intro asks
    change run.advance.openPairs < run.advance.max
    rw [openSame, maxSame]
    exact (asked asks).1
  · rintro ⟨free, left | asks⟩
    · change run.advance.openPairs < run.advance.max at free
      rw [openSame, maxSame] at free
      obtain ⟨slots, limit⟩ := counts.holds ⟨free, .inl (advance_waiting left)⟩
      change _ ≤ run.advance.openPairs ∧ run.advance.max ≤ _
      rw [openSame, maxSame]
      exact ⟨flags.slotsOf_le.trans slots, limit⟩
    · obtain ⟨slots, limit⟩ := counts.holds (asked asks)
      change _ ≤ run.advance.openPairs ∧ run.advance.max ≤ _
      rw [openSame, maxSame]
      exact ⟨flags.slotsOf_le.trans slots, limit⟩

theorem RunCounts.hasRoom (counts : system.RunCounts key run) {before : TaskPairStore}
    {listed : StoredTaskPair} {executor auditor : String}
    (decided : queueDecision host system.store run answer =
      .dispatches before listed executor auditor) : run.hasRoom := by
  have considers := @queueDecision_considers host system.store run answer
  rw [decided] at considers
  apply hasRoom_of_considers counts.room
  rcases considers with ⟨_, same⟩ | ⟨_, same⟩ | considers
  · cases same
  · cases same
  · exact considers

theorem RunCounts.dispatches (counts : system.RunCounts key run) {before : TaskPairStore}
    {listed : StoredTaskPair} {executor auditor : String}
    (decided : queueDecision host system.store run answer =
      .dispatches before listed executor auditor) :
    system.StillCounts key (admitPair host before run.advance listed executor auditor).1
      (admitPair host before run.advance listed executor auditor).2.1 := by
  obtain ⟨openSame, maxSame⟩ := @advance_counts run
  obtain ⟨slots, limit⟩ := counts.holds (counts.hasRoom decided)
  have flags := @queueDecision_flags host system.store run answer
  rw [decided] at flags
  change FlagsOf host run.key.project system.store before at flags
  have flagged := @FlagsOf.slotsOf_le _ _ system.sessions.liveBusy key _ _ flags
  have taken := @admitPair_slotsOf before system.sessions.liveBusy key host run.advance listed
    executor auditor
  obtain ⟨keySame, maxAdmitted, quiet⟩ := @admitPair_run host before run.advance listed executor
    auditor
  refine ⟨keySame.trans ((advance_key run).trans counts.isKey), fun asks => absurd asks quiet, ?_⟩
  intro _
  rw [maxAdmitted, maxSame]
  exact ⟨by omega, limit⟩

theorem RunCounts.resumed (counts : system.RunCounts key run) {next : QueueRun}
    (isNext : (resumeQueueRun host system.store run answer).2.1 = some next) :
    system.StillCounts key (resumeQueueRun host system.store run answer).1 next := by
  cases point : run.point with
  | preparing own =>
    simp only [resumeQueueRun, point, Option.some.injEq] at isNext ⊢
    subst isNext
    refine ⟨counts.isKey, ?_, ?_⟩
    · intro asks
      rcases asks with ⟨_, isPoint⟩ | ⟨_, _, isPoint⟩ <;> cases isPoint
    · rintro ⟨free, left | asks⟩
      · exact counts.holds ⟨free, .inl left⟩
      · rcases asks with ⟨_, isPoint⟩ | ⟨_, _, isPoint⟩ <;> cases isPoint
  | _ =>
    simp only [resumeQueueRun, point] at isNext ⊢
    cases decided : queueDecision host system.store run answer with
    | goesOn after point =>
      rw [decided] at isNext
      dsimp only at isNext ⊢
      split at isNext
      · cases isNext
      · exact counts.goesOn decided (Option.some.inj isNext).symm
    | dispatches before listed executor auditor =>
      rw [decided] at isNext
      cases isNext
      exact counts.dispatches decided

end

theorem startQueueRun_counts (system : SchedulingSystem) (host : QueueHost) (key : QueueKey) :
    system.RunCounts key (startQueueRun (host.within system.sessions) system.store key) where
  isKey := rfl
  room asks := by
    rcases asks with ⟨_, isPoint⟩ | ⟨_, _, isPoint⟩ <;> cases isPoint
  holds _ := by
    refine ⟨Nat.le_of_eq ?_, Nat.le_refl _⟩
    simp only [slotsOf, slotPairs, startQueueRun, List.filter_filter]
    apply congrArg List.length
    apply List.filter_congr
    intro stored _
    exact Bool.and_comm _ _

theorem step_otherRuns {system : SchedulingSystem} {action : SchedulingAction} {key : QueueKey}
    {run : QueueRun} (other : action.resumedRun ≠ some key)
    (after : (system.step action).runs key = some run) :
    system.runs key = some run ∨ (system.step action).RunCounts key run := by
  cases action with
  | queue action =>
    cases action with
    | marker host input => exact .inl after
    | runQueue host own =>
      by_cases same : key = own
      · subst same
        by_cases busy : (system.runs key).isSome
        · left
          simpa only [step, QueueAction.within, QueueSystem.step, busy, if_true] using after
        · right
          simp only [step, QueueAction.within, QueueSystem.step, busy, Bool.false_eq_true,
            if_false, QueueSystem.withRun, if_true] at after ⊢
          cases after
          obtain ⟨isKey, room, holds⟩ := startQueueRun_counts system host key
          exact ⟨isKey, room, holds⟩
      · left
        simp only [step, QueueAction.within, QueueSystem.step] at after
        split at after
        · exact after
        · simpa only [QueueSystem.withRun, if_neg same] using after
    | resume host own answer =>
      left
      have different : key ≠ own := by
        rintro rfl
        exact other rfl
      simp only [step, QueueAction.within, QueueSystem.step] at after
      split at after
      · exact after
      · simpa only [QueueSystem.withRun, if_neg different] using after
  | save project state =>
    left
    simp only [step] at after
    split at after <;> exact after
  | pause request now =>
    left
    simp only [step] at after
    split at after <;> exact after
  | resume project taskId writer now =>
    left
    simp only [step] at after
    split at after <;> exact after
  | create host creation input =>
    left
    simp only [step] at after
    split at after <;> exact after
  | reconcile =>
    left
    simp only [step] at after
    split at after <;> exact after
  | goOn suspensionStopped now delivered =>
    left
    simp only [step] at after
    split at after <;> exact after
  | _ => exact .inl after

theorem step_runsCount {system : SchedulingSystem} {action : SchedulingAction}
    (keeps : system.KeepsCounts action) (counts : system.RunsCount) :
    (system.step action).RunsCount := by
  intro key run after
  by_cases other : action.resumedRun ≠ some key
  · rcases step_otherRuns other after with before | fresh
    · exact ⟨(counts key run before).isKey, (counts key run before).room,
        keeps key run before other⟩
    · exact fresh
  · rw [not_not] at other
    cases action with
    | queue action =>
      cases action with
      | resume host own answer =>
        cases other
        cases under : system.runs key with
        | none =>
          simp only [step, QueueAction.within, QueueSystem.step, under] at after
          cases after
        | some earlier =>
          simp only [step, QueueAction.within, QueueSystem.step, under,
            QueueSystem.withRun, if_true] at after ⊢
          obtain ⟨isKey, room, holds⟩ := (counts key earlier under).resumed after
          exact ⟨isKey, room, holds⟩
      | _ => cases other
    | _ => cases other

theorem reconcileResume_admits {host : ReconcileHost} {store : TaskPairStore}
    {stored : StoredTaskPair} {s : TaskPairScheduling} {admission : Admission}
    (admits : (reconcileResume host store stored s).admission = some admission) :
    otherSlots admission.store host.liveBusy admission.project admission.brain admission.taskId <
      host.resolveTaskPairMaxConcurrency admission.brain := by
  have told : ∀ (after : TaskPairStore) (own : StoredTaskPair) (next : TaskPairScheduling)
      (given : Option Admission),
      (resumeAdmitted host after own next given).admission = given := by
    intro after own next given
    unfold resumeAdmitted
    split <;> rfl
  unfold reconcileResume at admits
  extract_lets waits at admits
  split at admits
  · cases admits
  · split at admits
    · cases admits
    · split at admits
      · split at admits
        · cases admits
        · rename_i room
          split at admits
          · cases admits
          · split at admits
            · cases admits
            · rw [told] at admits
              cases admits
              exact Nat.lt_of_not_le room
      · rw [told] at admits
        cases admits

theorem reconcilePair_admits {host : ReconcileHost} {store : TaskPairStore}
    {original : StoredTaskPair} {admission : Admission}
    (admits : (reconcilePair host store original).admission = some admission) :
    otherSlots admission.store host.liveBusy admission.project admission.brain admission.taskId <
      host.resolveTaskPairMaxConcurrency admission.brain := by
  unfold reconcilePair at admits
  extract_lets waits stored at admits
  split at admits
  · cases admits
  · extract_lets statuses at admits
    split at admits
    · exact reconcileResume_admits admits
    · split at admits
      · split at admits
        · cases admits
        · split at admits <;> cases admits
      · split at admits
        · split at admits
          · cases admits
          · split at admits
            · cases admits
            · exact reconcileResume_admits admits
        · cases admits

theorem step_admitsWithinLimit {system : SchedulingSystem} (counts : system.RunsCount)
    (action : SchedulingAction) : system.AdmitsWithinLimit action := by
  intro admission admits
  cases action with
  | queue action =>
    cases action with
    | resume host key answer =>
      simp only [SchedulingSystem.admission, QueueAction.within, dispatchOf,
        Option.bind_eq_some_iff] at admits
      obtain ⟨run, under, admits⟩ := admits
      have own := counts key run under
      split at admits
      · cases admits
      · split at admits
        · cases admits
        · rename_i before listed executor auditor decided
          cases admits
          have room := own.hasRoom decided
          obtain ⟨slots, limit⟩ := own.holds room
          have flags := @queueDecision_flags (host.within system.sessions) system.store run
            answer
          rw [decided] at flags
          change FlagsOf _ _ system.store before at flags
          have flagged := @FlagsOf.slotsOf_le _ _ system.sessions.liveBusy key _ _ flags
          have others : otherSlots before system.sessions.liveBusy key.project key.brain
              listed.state.taskId ≤ slotsOf before system.sessions.liveBusy key :=
            otherSlots_le key.project key.brain listed.state.taskId
          have free := room.1
          change otherSlots before system.sessions.liveBusy key.project key.brain
            listed.state.taskId < system.sessions.resolveTaskPairMaxConcurrency key.brain
          omega
    | _ => cases admits
  | goOn suspensionStopped now delivered =>
    simp only [SchedulingSystem.admission, Option.bind_eq_some_iff] at admits
    obtain ⟨run, -, admits⟩ := admits
    unfold resumeReconcileRun at admits
    split at admits
    · cases admits
    · cases admits
    · split at admits
      · cases admits
      · split at admits
        · cases admits
        · exact reconcilePair_admits admits
  | _ => cases admits

/-- Every admission keeps to the limit, of a reconciliation and of a run of the queue, in a run
in which nothing takes a slot behind the count of a run of the queue or lowers the limit under
it. -/
theorem admissions_keep_to_the_limit (store : TaskPairStore) (sessions : SessionFacts)
    (actions : List SchedulingAction)
    (keeps : Meets step KeepsCounts (start store sessions) actions) :
    Meets step AdmitsWithinLimit (start store sessions) actions := by
  have everywhere : ∀ {system : SchedulingSystem} {actions : List SchedulingAction},
      system.RunsCount → Meets step KeepsCounts system actions →
      Meets step AdmitsWithinLimit system actions := by
    intro system actions counts keeps
    induction actions generalizing system with
    | nil => trivial
    | cons action rest ih =>
      exact ⟨step_admitsWithinLimit counts action, ih (step_runsCount keeps.1 counts) keeps.2⟩
  apply everywhere _ keeps
  intro key run under
  cases under

def alphaKey : QueueKey := ⟨"alpha", "alpha_brain"⟩

/-- `T1` waits in the queue, and a run of the queue finds it. -/
def queueRunOnT1 (attrs : TaskPairAttrs) : List SchedulingAction :=
  [.queue (.marker plainServiceHost (plainInput "e1" "alpha" "alpha_brain" .mcp 1
      { plainMarker .queue attrs with brief := some "build it" })),
    .queue (.runQueue plainQueueHost alphaKey)]

theorem lone_run_keeps_to_the_limit :
    Meets step AdmitsWithinLimit (start .empty idleSessions)
      (queueRunOnT1 [("executor", "x"), ("auditor", "y")] ++
        [.queue (.resume plainQueueHost alphaKey none)]) := by
  apply admissions_keep_to_the_limit
  refine ⟨?_, ?_, ?_, trivial⟩
  · intro key run under
    cases under
  · intro key run under
    cases under
  · intro key run under other
    have isKey : key = alphaKey := by
      by_contra different
      change (if key = alphaKey then _ else none) = some run at under
      rw [if_neg different] at under
      cases under
    subst isKey
    exact absurd rfl other

/-- While a run waits for an executor of `T1`, the Brain starts `T2` and has no room left. -/
def overtakenByT2 : List SchedulingAction :=
  queueRunOnT1 [("auditor", "y")] ++
    [.queue (.resume plainQueueHost alphaKey none),
      .queue (.marker plainServiceHost (plainInput "e2" "alpha" "alpha_brain" .mcp 2
        { plainMarker .dispatch [("executor", "z"), ("auditor", "w")] with taskId := "T2" }))]

/-- A run goes by the count it made when it started, and starts a second pair of a Brain that
runs one at a time. -/
theorem queue_run_exceeds_the_limit :
    ¬ ∀ (store : TaskPairStore) (sessions : SessionFacts) (actions : List SchedulingAction),
      Meets step AdmitsWithinLimit (start store sessions) actions := by
  intro keeps
  have ran := keeps .empty idleSessions
    (overtakenByT2 ++ [.queue (.resume plainQueueHost alphaKey (some "x"))])
  rw [meets_append] at ran
  have last := ran.2.1
  have seen : ((run step (start .empty idleSessions) overtakenByT2).admission
      (.queue (.resume plainQueueHost alphaKey (some "x")))).map (fun admission =>
        (otherSlots admission.store idleSessions.liveBusy admission.project admission.brain
          admission.taskId, admission.taskId)) = some (1, "T1") := by
    decide +kernel
  obtain ⟨admission, isAdmission, slots⟩ := Option.map_eq_some_iff.mp seen
  have within := last admission isAdmission
  change otherSlots admission.store idleSessions.liveBusy admission.project admission.brain
    admission.taskId < 1 at within
  have full := congrArg Prod.fst slots
  dsimp only at full
  omega

end SchedulingSystem

end ImCodes.TaskPair
