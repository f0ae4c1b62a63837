import ImCodes.TaskPair.WakeAuthority

/-!
# Messages from before a pause

Each pause and each resume of a pair starts a new epoch, and nothing takes an epoch back. So a
message bound to the pair is refused from then on. Until then it is let through as long as its
session keeps a role and the pairs stay open.
-/

set_option autoImplicit false

namespace ImCodes.TaskPair

open Library

/-- A Brain pauses or resumes a pair. -/
def SchedulingAction.reschedules : SchedulingAction → Bool
  | .pause _ _ => true
  | .resume _ _ _ _ => true
  | _ => false

/-! ## Epochs -/

def EpochsGrow (before after : TaskPairStore) : Prop :=
  ∀ project taskId scheduling, before.schedulingAt project taskId = some scheduling →
    ∃ later, after.schedulingAt project taskId = some later ∧ epochOf scheduling ≤ epochOf later

section
variable {before after : TaskPairStore}

theorem EpochsGrow.refl (store : TaskPairStore) : EpochsGrow store store :=
  fun _ _ scheduling found => ⟨scheduling, found, Nat.le_refl _⟩

theorem EpochsGrow.trans {middle : TaskPairStore} (first : EpochsGrow before middle)
    (second : EpochsGrow middle after) : EpochsGrow before after := by
  intro project taskId scheduling found
  obtain ⟨between, foundBetween, grows⟩ := first project taskId scheduling found
  obtain ⟨later, foundLater, growsOn⟩ := second project taskId between foundBetween
  exact ⟨later, foundLater, grows.trans growsOn⟩

theorem KeepsSchedulings.unchanged {own : String} {given : Option TaskPairScheduling}
    (keeps : KeepsSchedulings own given before after) {project taskId : String}
    {scheduling : Option TaskPairScheduling}
    (found : before.schedulingAt project taskId = some scheduling) :
    after.schedulingAt project taskId = some scheduling := by
  by_cases same : project = own
  · subst same
    exact keeps.kept taskId scheduling found
  · rw [keeps.others project taskId same]
    exact found

theorem ReconciledTo.epochsGrow (reconciled : ReconciledTo before after) :
    EpochsGrow before after := by
  induction reconciled with
  | none => exact EpochsGrow.refl before
  | @patch store saved own ownTask s next at_ _ patched isReconciled ih =>
    apply ih.trans
    obtain ⟨current, written, others⟩ := TaskPairStore.schedulingAt_patch patched
    intro project taskId scheduling found
    by_cases same : (project, taskId) = (own, ownTask)
    · cases same
      rw [current] at found
      cases found
      exact ⟨some next, written, Nat.le_of_eq isReconciled.epoch.symm⟩
    · exact ⟨scheduling, (others project taskId same).trans found, Nat.le_refl _⟩

theorem patchScheduling_newEpoch {own ownTask : String} {prev : Option TaskPairScheduling}
    {next : TaskPairScheduling} {at_ : Int}
    (patched : before.patchScheduling own ownTask prev next at_ = some after)
    (newer : next.epoch = epochOf prev + 1) {project taskId : String}
    {scheduling : Option TaskPairScheduling}
    (found : before.schedulingAt project taskId = some scheduling) :
    ∃ later, after.schedulingAt project taskId = some later ∧
      (later = scheduling ∨ epochOf scheduling < epochOf later) := by
  obtain ⟨current, written, others⟩ := TaskPairStore.schedulingAt_patch patched
  by_cases same : (project, taskId) = (own, ownTask)
  · cases same
    rw [current] at found
    cases found
    refine ⟨some next, written, .inr ?_⟩
    change epochOf prev < next.epoch
    omega
  · exact ⟨scheduling, (others project taskId same).trans found, .inl rfl⟩

end

def Awake (scheduling : Option TaskPairScheduling) : Prop :=
  ∀ s, scheduling = some s → ¬ s.Waits

theorem ReconciledTo.awake {before after : TaskPairStore} (reconciled : ReconciledTo before after)
    {project taskId : String} {scheduling : Option TaskPairScheduling}
    (found : before.schedulingAt project taskId = some scheduling) (awake : Awake scheduling) :
    after.schedulingAt project taskId = some scheduling := by
  induction reconciled with
  | none => exact found
  | @patch store saved own ownTask s next at_ _ patched isReconciled ih =>
    obtain ⟨current, written, others⟩ := TaskPairStore.schedulingAt_patch patched
    by_cases same : (project, taskId) = (own, ownTask)
    · cases same
      rw [ih] at current
      exact absurd isReconciled.waits (awake s (Option.some.inj current))
    · exact (others project taskId same).trans ih

theorem awake_of_not_suspended {pair : TaskPairState}
    (isOpen : isTerminalTaskPairStatus pair.status = false)
    (running : isTaskPairSuspended pair = false) : Awake pair.scheduling := by
  intro s given waits
  unfold isTaskPairSuspended at running
  rw [isOpen, given] at running
  rcases waits with manual | waiting | pending
  · simp [manual] at running
  · simp [waiting] at running
  · simp [pending] at running

theorem not_suspended_of_awake {pair : TaskPairState} (awake : Awake pair.scheduling) :
    isTaskPairSuspended pair = false := by
  cases given : pair.scheduling with
  | none => simp [isTaskPairSuspended, given]
  | some s =>
    have resting := awake s given
    simp only [TaskPairScheduling.Waits, not_or, ne_eq, not_not] at resting
    obtain ⟨manual, nothing, pending⟩ := resting
    simp [isTaskPairSuspended, given, manual, nothing, pending]

namespace SchedulingSystem

section
variable {system : SchedulingSystem} (resumes : system.Resumes) {action : SchedulingAction}
  {project taskId : String} {scheduling : Option TaskPairScheduling}

theorem step_reschedules (isReschedule : action.reschedules = true)
    (found : system.store.schedulingAt project taskId = some scheduling) :
    ∃ later, (system.step action).store.schedulingAt project taskId = some later ∧
      (later = scheduling ∨ epochOf scheduling < epochOf later) := by
  have unchanged : ∃ later, system.store.schedulingAt project taskId = some later ∧
      (later = scheduling ∨ epochOf scheduling < epochOf later) := ⟨scheduling, found, .inl rfl⟩
  cases action with
  | pause request now =>
    simp only [step]
    cases paused : pausePair system.store request now with
    | error _ => exact unchanged
    | ok store =>
      rcases pausePair_cases paused with rfl | ⟨prev, next, patched, newer, -⟩
      · exact unchanged
      · exact patchScheduling_newEpoch patched newer found
  | resume own ownTask writer now =>
    simp only [step]
    cases resumed : resumePair system.store own ownTask writer now with
    | error _ => exact unchanged
    | ok store =>
      rcases resumePair_cases resumed with rfl | ⟨prev, next, patched, newer, -⟩
      · exact unchanged
      · exact patchScheduling_newEpoch patched newer found
  | _ => cases isReschedule

theorem reschedule_epochsGrow (isReschedule : action.reschedules = true) :
    EpochsGrow system.store (system.step action).store := by
  intro project taskId scheduling found
  obtain ⟨later, foundLater, rfl | newer⟩ := step_reschedules isReschedule found
  · exact ⟨later, foundLater, Nat.le_refl _⟩
  · exact ⟨later, foundLater, newer.le⟩

include resumes

theorem step_epochsGrow (action : SchedulingAction) :
    EpochsGrow system.store (system.step action).store := by
  rcases step_cases resumes action with
    ⟨own, given, keeps, -⟩ | ⟨request, now, rfl, -⟩ | ⟨own, ownTask, writer, now, rfl, -⟩ |
    reconciled
  · exact fun _ _ scheduling found => ⟨scheduling, keeps.unchanged found, Nat.le_refl _⟩
  · exact reschedule_epochsGrow rfl
  · exact reschedule_epochsGrow rfl
  · exact reconciled.epochsGrow

theorem step_awake (found : system.store.schedulingAt project taskId = some scheduling)
    (awake : Awake scheduling) (undisturbed : action.reschedules = true →
      (system.step action).store.schedulingAt project taskId =
        system.store.schedulingAt project taskId) :
    (system.step action).store.schedulingAt project taskId = some scheduling := by
  rcases step_cases resumes action with
    ⟨own, given, keeps, -⟩ | ⟨request, now, rfl, -⟩ | ⟨own, ownTask, writer, now, rfl, -⟩ |
    reconciled
  · exact keeps.unchanged found
  · exact (undisturbed rfl).trans found
  · exact (undisturbed rfl).trans found
  · exact reconciled.awake found awake

end

theorem start_resumes (store : TaskPairStore) (sessions : SessionFacts) :
    (start store sessions).Resumes := by
  intro run started
  cases started

theorem run_resumes {system : SchedulingSystem} (resumes : system.Resumes)
    (actions : List SchedulingAction) : (run step system actions).Resumes := by
  induction actions generalizing system with
  | nil => exact resumes
  | cons action rest ih => exact ih (step_resumes resumes action)

theorem run_epochsGrow {system : SchedulingSystem} (resumes : system.Resumes)
    (actions : List SchedulingAction) :
    EpochsGrow system.store (run step system actions).store := by
  induction actions generalizing system with
  | nil => exact EpochsGrow.refl _
  | cons action rest ih =>
    exact (step_epochsGrow resumes action).trans (ih (step_resumes resumes action))

/-- No pause and no resume of the run changes the scheduling of one of the pairs. -/
def Undisturbed (pairs : List TaskPairWakeBinding) : SchedulingSystem → List SchedulingAction → Prop :=
  Meets step fun system action => action.reschedules = true → ∀ pair ∈ pairs,
    (system.step action).store.schedulingAt pair.project pair.taskId =
      system.store.schedulingAt pair.project pair.taskId

theorem run_awake {system : SchedulingSystem} (resumes : system.Resumes)
    {pairs : List TaskPairWakeBinding} {actions : List SchedulingAction}
    (undisturbed : Undisturbed pairs system actions) {pair : TaskPairWakeBinding}
    (member : pair ∈ pairs) {scheduling : Option TaskPairScheduling}
    (found : system.store.schedulingAt pair.project pair.taskId = some scheduling)
    (awake : Awake scheduling) :
    (run step system actions).store.schedulingAt pair.project pair.taskId = some scheduling := by
  induction actions generalizing system with
  | nil => exact found
  | cons action rest ih =>
    exact ih (step_resumes resumes action) undisturbed.2
      (step_awake resumes found awake fun isReschedule =>
        undisturbed.1 isReschedule pair member)

/-! ## Messages -/

theorem pairWakeBindings_stored {store : TaskPairStore} {target taskId : String}
    {binding : TaskPairWakeBinding} (member : binding ∈ pairWakeBindings store target taskId) :
    ∃ stored, store.getPair binding.project binding.taskId = some stored ∧
      isTerminalTaskPairStatus stored.state.status = false ∧
      binding.epoch = epochOf stored.state.scheduling := by
  obtain ⟨stored, filtered, rfl⟩ := List.mem_map.mp member
  have active := (List.mem_filter.mp (List.mem_filter.mp filtered).1).1
  obtain ⟨inStore, isOpen⟩ := mem_listActivePairs.mp active
  exact ⟨stored, Table.lookup_of_mem inStore, isOpen, rfl⟩

theorem pairWakeBindings_natural (store : TaskPairStore) (target taskId : String) :
    ∀ binding ∈ pairWakeBindings store target taskId, 0 ≤ binding.epoch := by
  intro binding member
  obtain ⟨stored, -, -, epoch⟩ := pairWakeBindings_stored member
  omega

theorem stored_of_schedulingAt {store : TaskPairStore} {project taskId : String}
    {scheduling : Option TaskPairScheduling}
    (found : store.schedulingAt project taskId = some scheduling) :
    ∃ stored, store.getPair project taskId = some stored ∧
      stored.state.scheduling = scheduling := by
  obtain ⟨pair, isPair, same⟩ := Option.map_eq_some_iff.mp found
  obtain ⟨stored, isStored, rfl⟩ := Option.map_eq_some_iff.mp isPair
  exact ⟨stored, isStored, same⟩

theorem bindingAllowed_later {store : TaskPairStore} {reason : String}
    {binding : TaskPairWakeBinding} {scheduling : Option TaskPairScheduling}
    (found : store.schedulingAt binding.project binding.taskId = some scheduling)
    (later : binding.epoch < epochOf scheduling) : bindingAllowed store reason binding = false := by
  obtain ⟨stored, isStored, rfl⟩ := stored_of_schedulingAt found
  have changed : ¬ (epochOf stored.state.scheduling : Int) = binding.epoch := by omega
  simp [bindingAllowed, isStored, changed]

theorem bindingAllowed_awake {store : TaskPairStore} {reason : String}
    {binding : TaskPairWakeBinding} {stored : StoredTaskPair}
    (found : store.getPair binding.project binding.taskId = some stored)
    (isOpen : isTerminalTaskPairStatus stored.state.status = false)
    (awake : Awake stored.state.scheduling)
    (epoch : binding.epoch = epochOf stored.state.scheduling) :
    bindingAllowed store reason binding = true := by
  have free : (stored.state.scheduling.any (·.manual) = false) ∧ stored.dependsOn = [] := by
    unfold StoredTaskPair.dependsOn
    cases given : stored.state.scheduling with
    | none => simp
    | some s =>
      have resting := awake s given
      simp only [TaskPairScheduling.Waits, not_or, ne_eq, not_not] at resting
      simp [resting.1, resting.2.1]
  simp [bindingAllowed, found, isOpen, epoch, not_suspended_of_awake awake, free]

/-- The id of a message dies with the epoch of a pair it is bound to: from the first pause or
resume on that changes one of these pairs, no session may read it, whatever its task id, reason
and scope are. Bound to pairs that may go on, it is let through as long as they are open and
its session has a role in them. -/
theorem bound_wakes_follow_their_epoch (store : TaskPairStore) (sessions : SessionFacts)
    (earlier : List SchedulingAction) (target taskId reason : String)
    (dedupeScope : Option String) (uuid : Uuid) (id : String)
    (minted : mintTaskPairMessageId (run step (start store sessions) earlier).store target taskId
      reason dedupeScope uuid = some id) :
    let system := run step (start store sessions) earlier
    let bindings := pairWakeBindings system.store target taskId
    (∀ binding ∈ bindings, ∀ before action after sessionName, action.reschedules = true →
      ((run step system before).step action).store.schedulingAt binding.project binding.taskId ≠
        (run step system before).store.schedulingAt binding.project binding.taskId →
      queuedPairWakeAllowed (run step system (before ++ action :: after)).store sessionName id =
        false) ∧
    (bindings ≠ [] → (∀ binding ∈ bindings, binding.IsSafe) →
      (∀ binding ∈ bindings, ∀ stored,
        system.store.getPair binding.project binding.taskId = some stored →
          isTaskPairSuspended stored.state = false) →
      ∀ (actions : List SchedulingAction) (sessionName : String), Undisturbed bindings system actions →
        (∀ binding ∈ bindings, ∀ stored,
          (run step system actions).store.getPair binding.project binding.taskId = some stored →
            isTerminalTaskPairStatus stored.state.status = false ∧
              some sessionName ∈ [some stored.state.brain, stored.state.executor,
                stored.state.auditor]) →
        queuedPairWakeAllowed (run step system actions).store sessionName id = true) := by
  intro system bindings
  have isId : id = taskPairMessageId bindings taskId reason dedupeScope uuid := by
    unfold mintTaskPairMessageId at minted
    extract_lets own at minted
    split at minted
    · cases minted
    · split at minted
      · cases minted
      · exact (Option.some.inj minted).symm
  have natural := pairWakeBindings_natural system.store target taskId
  have resumes : system.Resumes := run_resumes (start_resumes store sessions) earlier
  constructor
  · intro binding member before action after sessionName isReschedule changed
    obtain ⟨stored, inStore, -, epoch⟩ := pairWakeBindings_stored member
    have found := TaskPairStore.schedulingAt_of_getPair inStore
    obtain ⟨reached, foundReached, grown⟩ := run_epochsGrow resumes before _ _ _ found
    have resumesBefore := run_resumes resumes before
    obtain ⟨next, foundNext, same | newer⟩ := step_reschedules isReschedule foundReached
    · rw [foundNext, foundReached, same] at changed
      exact absurd rfl changed
    · obtain ⟨last, foundLast, grownOn⟩ :=
        run_epochsGrow (step_resumes resumesBefore action) after _ _ _ foundNext
      rw [run_append, run_cons, isId, queuedPairWakeAllowed_bound (List.ne_nil_of_mem member)
        natural]
      have refused : pairWakeAllowed (run step ((run step system before).step action) after).store
          bindings reason = false := by
        apply List.all_eq_false.mpr
        refine ⟨binding, member, ?_⟩
        rw [bindingAllowed_later foundLast (by omega)]
        simp
      rw [refused, Bool.and_false]
  · intro bound safe running actions sessionName undisturbed standing
    rw [isId, queuedPairWakeAllowed_bound bound natural, decide_eq_true safe, Bool.true_and,
      Bool.and_eq_true]
    have kept : ∀ binding ∈ bindings, ∃ stored,
        (run step system actions).store.getPair binding.project binding.taskId = some stored ∧
          Awake stored.state.scheduling ∧ binding.epoch = epochOf stored.state.scheduling := by
      intro binding member
      obtain ⟨stored, inStore, isOpen, epoch⟩ := pairWakeBindings_stored member
      have awake := awake_of_not_suspended isOpen (running binding member stored inStore)
      have found := run_awake resumes undisturbed member
        (TaskPairStore.schedulingAt_of_getPair inStore) awake
      obtain ⟨later, isLater, same⟩ := stored_of_schedulingAt found
      exact ⟨later, isLater, same ▸ awake, same ▸ epoch⟩
    constructor
    · apply List.all_eq_true.mpr
      intro binding member
      obtain ⟨stored, found, -, -⟩ := kept binding member
      have named := (standing binding member stored found).2
      simp only [List.mem_cons, Option.some.injEq, List.not_mem_nil, or_false] at named
      simp only [bindingNames, found, Bool.or_eq_true, decide_eq_true_eq]
      rcases named with same | same | same
      · exact .inl (.inl same.symm)
      · exact .inl (.inr same.symm)
      · exact .inr same.symm
    · apply List.all_eq_true.mpr
      intro binding member
      obtain ⟨stored, found, awake, epoch⟩ := kept binding member
      exact bindingAllowed_awake found (standing binding member stored found).1 awake epoch

/-- `T1` waits in the queue of the project `alpha`. -/
def queuesT1 (eventId : String) (now : Int) : SchedulingAction :=
  .queue (.marker plainServiceHost (plainInput eventId "alpha" "alpha_brain" .mcp now
    { plainMarker .queue [("executor", "x"), ("auditor", "y")] with brief := some "build it" }))

def pausesT1 (now : Int) : SchedulingAction :=
  .pause ⟨"alpha", "T1", "alpha_brain", .manual, none⟩ now

def plainUuid : Uuid := ⟨"0", by decide⟩

theorem paused_wake_is_dead :
    queuedPairWakeAllowed (run step (run step (start .empty idleSessions) [queuesT1 "e1" 1])
      ([] ++ pausesT1 2 :: [])).store "alpha_brain"
      (taskPairMessageId [⟨"alpha", "T1", 0⟩] "T1" "stalled" none plainUuid) = false :=
  (bound_wakes_follow_their_epoch .empty idleSessions [queuesT1 "e1" 1] "alpha_brain" "T1"
    "stalled" none plainUuid _ (by decide +kernel)).1 ⟨"alpha", "T1", 0⟩ (by decide +kernel) []
    (pausesT1 2) [] "alpha_brain" rfl (by decide +kernel)

/-- `T1` is cancelled. -/
def cancelledT1 : List SchedulingAction :=
  [queuesT1 "e1" 1,
    .queue (.marker plainServiceHost (plainInput "e2" "alpha" "alpha_brain" .mcp 2
      (plainMarker .cancel [])))]

/-- A message about a closed pair is bound to nothing, and is let through after the pair was
taken up again and paused. -/
theorem unbound_wake_outlives_pause :
    ¬ ∀ (store : TaskPairStore) (sessions : SessionFacts) (earlier : List SchedulingAction)
      (target taskId reason : String) (dedupeScope : Option String) (uuid : Uuid) (id : String),
      mintTaskPairMessageId (run step (start store sessions) earlier).store target taskId reason
        dedupeScope uuid = some id →
      ∀ project stored, (run step (start store sessions) earlier).store.getPair project taskId =
          some stored → stored.state.brain = target →
        ∀ before action after sessionName, action.reschedules = true →
          ((run step (start store sessions) (earlier ++ before)).step action).store.schedulingAt
              project taskId ≠
            (run step (start store sessions) (earlier ++ before)).store.schedulingAt
              project taskId →
          queuedPairWakeAllowed (run step (start store sessions)
            (earlier ++ before ++ action :: after)).store sessionName id = false := by
  intro dead
  have closed : ((run step (start .empty idleSessions) cancelledT1).store.getPair "alpha"
      "T1").map (fun stored => (stored.state.brain, stored.state.status)) =
      some ("alpha_brain", .cancelled) := by
    decide +kernel
  obtain ⟨stored, found, facts⟩ := Option.map_eq_some_iff.mp closed
  have refused := dead .empty idleSessions cancelledT1 "alpha_brain" "T1" "brain-workspace-kept"
    none plainUuid (taskPairMessageId [] "T1" "brain-workspace-kept" none plainUuid)
    (by decide +kernel) "alpha" stored found (congrArg Prod.fst facts) [queuesT1 "e3" 3]
    (pausesT1 4) [] "alpha_brain" rfl (by decide +kernel)
  have allowed : queuedPairWakeAllowed (run step (start .empty idleSessions)
      (cancelledT1 ++ [queuesT1 "e3" 3] ++ pausesT1 4 :: [])).store "alpha_brain"
      (taskPairMessageId [] "T1" "brain-workspace-kept" none plainUuid) = true := by
    decide +kernel
  rw [allowed] at refused
  cases refused

end SchedulingSystem

end ImCodes.TaskPair
