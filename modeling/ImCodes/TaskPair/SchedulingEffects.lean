import ImCodes.TaskPair.QueueBriefs
import ImCodes.TaskPair.SchedulingSystem

/-!
# What becomes of a pair's scheduling

A copy of a pair that is saved never changes the scheduling the stored pair has, so a marker and
a run of the queue change none; a pair that a marker creates has the scheduling its QUEUE comes
with. All other changes are patches of the scheduling a reader found.
-/

set_option autoImplicit false

namespace ImCodes.TaskPair

open Library TaskPairState

namespace TaskPairStore

variable {store saved : TaskPairStore} {project taskId : String}

def schedulingAt (store : TaskPairStore) (project taskId : String) :
    Option (Option TaskPairScheduling) :=
  (store.pairAt project taskId).map (·.scheduling)

theorem schedulingAt_of_getPair {stored : StoredTaskPair}
    (found : store.getPair project taskId = some stored) :
    store.schedulingAt project taskId = some stored.state.scheduling := by
  simp [schedulingAt, pairAt, found]

theorem dependenciesOf_eq (store : TaskPairStore) (project taskId : String) :
    store.dependenciesOf project taskId =
      (store.schedulingAt project taskId).map fun scheduling =>
        scheduling.elim [] (·.dependsOn) := by
  simp only [dependenciesOf, schedulingAt, pairAt, Option.map_map]
  rfl

@[simp] theorem schedulingAt_recordEvent (event : TaskPairEventRecord) :
    (store.recordEvent event).schedulingAt project taskId = store.schedulingAt project taskId :=
  rfl

theorem pairAt_savePair_eq (state : TaskPairState) :
    (store.savePair project state).pairAt project state.taskId =
      some { state with
        scheduling := (store.schedulingAt project state.taskId).getD state.scheduling } := by
  simp only [schedulingAt, pairAt, getPair, savePair]
  cases found : store.pairs.lookup (project, state.taskId) with
  | none =>
    dsimp only
    rw [Table.lookup_upsert]
    simp [StoredTaskPair.key]
  | some existing =>
    have named : existing.project = project := (getPair_key found).1
    dsimp only
    rw [Table.lookup_upsert]
    simp [StoredTaskPair.key, named]

theorem schedulingAt_savePair (state : TaskPairState) :
    (store.savePair project state).schedulingAt project state.taskId =
      some ((store.schedulingAt project state.taskId).getD state.scheduling) := by
  simp [schedulingAt, pairAt_savePair_eq]

theorem schedulingAt_savePair_other {state : TaskPairState} {other task : String}
    (different : (other, task) ≠ (project, state.taskId)) :
    (store.savePair project state).schedulingAt other task = store.schedulingAt other task := by
  simp only [schedulingAt, pairAt_savePair_other different]

theorem patchScheduling_eq_some {expected : Option TaskPairScheduling}
    {next : TaskPairScheduling} {at_ : Int}
    (patched : store.patchScheduling project taskId expected next at_ = some saved) :
    ∃ stored, store.getPair project taskId = some stored ∧
      isTerminalTaskPairStatus stored.state.status = false ∧
      stored.state.scheduling = expected ∧
      saved.getPair project taskId = some { stored with
        state := { stored.state with scheduling := some next, updatedAt := at_ } } ∧
      ∀ other task, (other, task) ≠ (project, taskId) →
        saved.getPair other task = store.getPair other task := by
  unfold patchScheduling at patched
  cases found : store.getPair project taskId with
  | none => simp [found] at patched
  | some stored =>
    obtain ⟨inProject, named⟩ := getPair_key found
    simp only [found] at patched
    split at patched
    · rename_i current
      simp only [Bool.and_eq_true, Bool.not_eq_true', decide_eq_true_eq] at current
      cases patched
      have key : ({ stored with
          state := { stored.state with scheduling := some next, updatedAt := at_ } } :
            StoredTaskPair).key = (project, taskId) := by
        simp [StoredTaskPair.key, inProject, named]
      refine ⟨stored, rfl, current.1, current.2, ?_, ?_⟩
      · simp [getPair, Table.lookup_upsert, key]
      · intro other task different
        simp [getPair, Table.lookup_upsert, key, different.symm]
    · cases patched

theorem schedulingAt_patch {expected : Option TaskPairScheduling} {next : TaskPairScheduling}
    {at_ : Int} (patched : store.patchScheduling project taskId expected next at_ = some saved) :
    store.schedulingAt project taskId = some expected ∧
      saved.schedulingAt project taskId = some (some next) ∧
      ∀ other task, (other, task) ≠ (project, taskId) →
        saved.schedulingAt other task = store.schedulingAt other task := by
  obtain ⟨stored, found, -, current, written, others⟩ := patchScheduling_eq_some patched
  refine ⟨?_, ?_, ?_⟩
  · rw [schedulingAt_of_getPair found, current]
  · rw [schedulingAt_of_getPair written]
  · intro other task different
    simp only [schedulingAt, pairAt, others other task different]

end TaskPairStore

/-! ## A new pair -/

namespace TaskPairState

section
variable (pair : TaskPairState)

@[simp] theorem scheduling_applyBlockingAttr (attrs : TaskPairAttrs) :
    (pair.applyBlockingAttr attrs).scheduling = pair.scheduling := by
  unfold applyBlockingAttr
  split <;> rfl

@[simp] theorem scheduling_applyOutputAttr (attrs : TaskPairAttrs) :
    (pair.applyOutputAttr attrs).scheduling = pair.scheduling := by
  unfold applyOutputAttr
  split <;> rfl

@[simp] theorem scheduling_spendCap (reason : TaskPairCappedReason) :
    (pair.spendCap reason).2.1.scheduling = pair.scheduling := by
  obtain ⟨_, _, _, changes⟩ := pair.spendCap_changes reason
  rw [changes]

@[simp] theorem scheduling_setRolesFromAttrsQueued (attrs : TaskPairAttrs) :
    (pair.setRolesFromAttrsQueued attrs).scheduling = pair.scheduling := by
  unfold setRolesFromAttrsQueued
  rw [scheduling_applyBlockingAttr]
  rfl

@[simp] theorem scheduling_setRolesFromAttrs (attrs : TaskPairAttrs) :
    (pair.setRolesFromAttrs attrs).1.scheduling = pair.scheduling := by
  obtain ⟨_, _, _, _, changes⟩ := pair.setRolesFromAttrs_changes attrs
  rw [changes]
  rfl

@[simp] theorem scheduling_withBrief (brief : Option String) :
    (pair.withBrief brief).scheduling = pair.scheduling := rfl

end

end TaskPairState

def Unscheduled (transition : TaskPairTransition) : Prop :=
  ∀ after, transition.pair = some after → after.scheduling = none

section
variable (verb : TaskPairVerb) (marker : TaskPairMarker) (ctx : TaskPairApplyContext)

theorem unscheduled_written {transition : TaskPairTransition} {pair : TaskPairState}
    (written : transition.pair = some pair) (unscheduled : pair.scheduling = none) :
    Unscheduled transition := by
  intro after again
  cases written.symm.trans again
  exact unscheduled

theorem createFromProgress_unscheduled : Unscheduled (createFromProgress verb marker ctx) := by
  unfold createFromProgress
  extract_lets blank fresh
  have named : (fresh.setRolesFromAttrs marker.attrs).1.scheduling = none :=
    scheduling_setRolesFromAttrs fresh marker.attrs
  generalize fresh.setRolesFromAttrs marker.attrs = roles at named
  obtain ⟨pair, intents⟩ := roles
  have same : pair.scheduling = none := named
  dsimp -zeta only
  by_cases done : verb = .done
  · subst done
    extract_lets audited stated waiting
    have statedSame : waiting.scheduling = none :=
      (scheduling_applyOutputAttr pair marker.attrs).trans same
    have spentSame := (scheduling_spendCap waiting .doneReminder).trans statedSame
    generalize waiting.spendCap .doneReminder = spending at spentSame
    obtain ⟨allowed, spent, notices⟩ := spending
    dsimp only
    split
    · split <;> exact unscheduled_written rfl spentSame
    · exact unscheduled_written rfl statedSame
  · split
    · dsimp only
      split
      · split <;> exact unscheduled_written rfl same
      · exact unscheduled_written rfl same
    · exact absurd rfl done
    · exact unscheduled_written rfl same

theorem createPair_unscheduled : Unscheduled (createPair verb marker ctx) := by
  unfold createPair
  extract_lets queued
  have queuedSame : queued.scheduling = none := by
    simp only [queued, scheduling_withBrief, scheduling_setRolesFromAttrsQueued]
    rfl
  cases verb with
  | queue => exact unscheduled_written rfl queuedSame
  | dispatch =>
    have named := scheduling_setRolesFromAttrs (newPair marker.taskId ctx.writer ctx .working)
      marker.attrs
    dsimp only
    generalize (newPair marker.taskId ctx.writer ctx .working).setRolesFromAttrs
      marker.attrs = roles at named ⊢
    obtain ⟨pair, intents⟩ := roles
    have same : (pair.withBrief marker.brief).scheduling = none := named
    dsimp only
    split
    · exact unscheduled_written rfl queuedSame
    · split
      · exact unscheduled_written rfl queuedSame
      · split <;> exact unscheduled_written rfl same
  | started => exact createFromProgress_unscheduled .started marker ctx
  | working => exact createFromProgress_unscheduled .working marker ctx
  | readyForAudit => exact createFromProgress_unscheduled .readyForAudit marker ctx
  | done => exact createFromProgress_unscheduled .done marker ctx
  | _ =>
    intro after written
    cases written

end

theorem applyTaskPairMarker_unscheduled (host : TaskPairHost) (marker : TaskPairMarker)
    (ctx : TaskPairApplyContext) : Unscheduled (applyTaskPairMarker host none marker ctx) := by
  intro after written
  unfold applyTaskPairMarker at written
  split at written
  · simp [recorded] at written
  · next verb known =>
      split at written
      · rw [applyUnnamed_unwritten] at written
        cases written
      · dsimp only at written
        split at written
        · simp [recorded] at written
        · exact createPair_unscheduled verb marker ctx after written

/-! ## Saving copies -/

/-- The stored pairs of the project keep their schedulings, a new one has the given one, and
other projects are left alone. -/
structure KeepsSchedulings (project : String) (given : Option TaskPairScheduling)
    (before after : TaskPairStore) : Prop where
  kept : ∀ taskId scheduling, before.schedulingAt project taskId = some scheduling →
    after.schedulingAt project taskId = some scheduling
  fresh : ∀ taskId scheduling, before.schedulingAt project taskId = none →
    after.schedulingAt project taskId = some scheduling → scheduling = given
  others : ∀ other taskId, other ≠ project →
    after.schedulingAt other taskId = before.schedulingAt other taskId

section
variable {store before after : TaskPairStore} {project : String}
  {given : Option TaskPairScheduling}

theorem KeepsSchedulings.refl (store : TaskPairStore) :
    KeepsSchedulings project given store store where
  kept _ _ found := found
  fresh taskId scheduling missing found := by
    rw [missing] at found
    cases found
  others _ _ _ := rfl

theorem KeepsSchedulings.trans {middle : TaskPairStore}
    (first : KeepsSchedulings project given before middle)
    (second : KeepsSchedulings project given middle after) :
    KeepsSchedulings project given before after where
  kept taskId scheduling found := second.kept _ _ (first.kept _ _ found)
  fresh taskId scheduling missing found := by
    cases between : middle.schedulingAt project taskId with
    | none => exact second.fresh taskId scheduling between found
    | some early =>
      have same := (second.kept taskId early between).symm.trans found
      rw [Option.some.inj same] at between
      exact first.fresh taskId scheduling missing between
  others other taskId different :=
    (second.others other taskId different).trans (first.others other taskId different)

theorem KeepsSchedulings.isSome (keeps : KeepsSchedulings project given before after)
    {taskId : String} (stored : (before.schedulingAt project taskId).isSome) :
    (after.schedulingAt project taskId).isSome := by
  obtain ⟨scheduling, found⟩ := Option.isSome_iff_exists.mp stored
  simp [keeps.kept taskId scheduling found]

theorem KeepsSchedulings.recordEvent (keeps : KeepsSchedulings project given before after)
    (event : TaskPairEventRecord) :
    KeepsSchedulings project given before (after.recordEvent event) :=
  ⟨keeps.kept, keeps.fresh, keeps.others⟩

theorem savePair_isSome (state : TaskPairState) :
    ((store.savePair project state).schedulingAt project state.taskId).isSome := by
  simp [TaskPairStore.schedulingAt_savePair]

theorem savePair_keepsSchedulings {state : TaskPairState}
    (known : (store.schedulingAt project state.taskId).isSome ∨ state.scheduling = given) :
    KeepsSchedulings project given store (store.savePair project state) where
  kept taskId scheduling found := by
    by_cases own : taskId = state.taskId
    · subst own
      rw [TaskPairStore.schedulingAt_savePair, found]
      rfl
    · rw [TaskPairStore.schedulingAt_savePair_other (by simp [own]), found]
  fresh taskId scheduling missing found := by
    by_cases own : taskId = state.taskId
    · subst own
      rw [TaskPairStore.schedulingAt_savePair, missing] at found
      cases found
      simpa [missing] using known
    · rw [TaskPairStore.schedulingAt_savePair_other (by simp [own]), missing] at found
      cases found
  others other taskId different := TaskPairStore.schedulingAt_savePair_other (by simp [different])

theorem KeepsSchedulings.savePair {state : TaskPairState}
    (keeps : KeepsSchedulings project given before after)
    (stored : (after.schedulingAt project state.taskId).isSome) :
    KeepsSchedulings project given before (after.savePair project state) :=
  keeps.trans (savePair_keepsSchedulings (.inl stored))

end

/-! ## A marker -/

section
variable {host : TaskPairServiceHost} {store before : TaskPairStore} {input : ApplyMarkerInput}

theorem autoTickBox_keepsSchedulings {project eventId : String} {now : Int} {pair : TaskPairState}
    {given : Option TaskPairScheduling} (box : TaskPairChecklistBox)
    (keeps : KeepsSchedulings project given before store)
    (stored : (store.schedulingAt project pair.taskId).isSome) :
    let ticked := autoTickBox host project eventId now store pair box
    KeepsSchedulings project given before ticked.1 ∧
      (ticked.1.schedulingAt project ticked.2.taskId).isSome := by
  rcases autoTickBox_cases host project eventId now store pair box with
    unchanged | ⟨brief, event, written⟩
  · rw [unchanged]
    exact ⟨keeps, stored⟩
  · rw [written]
    have own : (store.schedulingAt project
        ({ pair with brief := some brief, updatedAt := now } : TaskPairState).taskId).isSome :=
      stored
    exact ⟨(keeps.savePair own).recordEvent event, savePair_isSome _⟩

theorem saveTransition_keepsSchedulings (existing : Option TaskPairState)
    (transition : TaskPairTransition) (busy : List String) (pair : TaskPairState)
    (known : existing.isSome → (store.schedulingAt input.project pair.taskId).isSome)
    (new : existing = none → pair.scheduling = none) :
    let saved := saveTransition host store input existing transition busy pair
    KeepsSchedulings input.project input.initialScheduling store saved.1 ∧
      (saved.1.schedulingAt input.project saved.2.taskId).isSome := by
  unfold saveTransition
  extract_lets scheduled placed saved noted written result
  have scheduledId : scheduled.taskId = pair.taskId := scheduledPair_taskId existing pair
  have placedId : placed.taskId = pair.taskId :=
    (redirectMaterial_taskId host scheduled).trans scheduledId
  have notedId : noted.taskId = pair.taskId := by
    simp only [noted]
    split
    · exact placedId
    · obtain ⟨flags, reason, updatedAt, same⟩ :=
        noteParticipantConflicts_cases host saved input.project placed busy
      rw [same]
      exact placedId
  have first : KeepsSchedulings input.project input.initialScheduling store saved := by
    apply savePair_keepsSchedulings
    rw [placedId]
    cases isNew : existing with
    | some old => exact .inl (known (by simp [isNew]))
    | none =>
      right
      have given : scheduled.scheduling = input.initialScheduling := by
        simp [scheduled, scheduledPair, isNew, new isNew]
      have same : placed.scheduling = scheduled.scheduling := by
        have cases_ := redirectMaterial_scheduled host scheduled scheduled.scheduling
        exact congrArg (·.scheduling) cases_
      exact same.trans given
  have savedHas : (saved.schedulingAt input.project pair.taskId).isSome := by
    rw [← placedId]
    exact savePair_isSome placed
  have second : KeepsSchedulings input.project input.initialScheduling store written :=
    first.savePair (by rw [notedId]; exact savedHas)
  have writtenHas : (written.schedulingAt input.project noted.taskId).isSome :=
    savePair_isSome noted
  simp only [result]
  split
  · unfold autoTickChecklist
    extract_lets implemented
    have ticked := @autoTickBox_keepsSchedulings host _ _ _ input.eventId input.now _ _
      .implemented second writtenHas
    split
    · exact autoTickBox_keepsSchedulings .audited ticked.1 ticked.2
    · exact ticked
  · refine ⟨second, ?_⟩
    rw [scheduledId, ← notedId]
    exact writtenHas

/-- A marker keeps the scheduling of every stored pair, and the pair in its answer is stored. -/
structure MarkerKeeps (store : TaskPairStore) (project : String)
    (given : Option TaskPairScheduling) (applied : TaskPairStore × MarkerAnswer) : Prop where
  keeps : KeepsSchedulings project given store applied.1
  answered : ∀ pair, applied.2.pair = some pair →
    (applied.1.schedulingAt project pair.taskId).isSome

theorem markerKeeps_unwritten {project : String} {given : Option TaskPairScheduling}
    {answer : MarkerAnswer} (nothing : answer.pair = none) :
    MarkerKeeps store project given (store, answer) where
  keeps := KeepsSchedulings.refl store
  answered pair answered := by
    rw [nothing] at answered
    cases answered

theorem existingPair_found {project : String} {taskId : Option String}
    {existing : StoredTaskPair} (found : existingPair store project taskId = some existing) :
    ∃ id, taskId = some id ∧ store.getPair project id = some existing := by
  unfold existingPair at found
  obtain ⟨id, named, stored⟩ := Option.bind_eq_some_iff.mp found
  exact ⟨id, (Option.filter_eq_some_iff.mp named).1, stored⟩

theorem applyClaim_keeps {existing : StoredTaskPair} {taskId : String}
    (found : store.getPair input.project taskId = some existing) :
    MarkerKeeps store input.project input.initialScheduling
      (applyClaim host store input existing) := by
  have named := (TaskPairStore.getPair_key found).2
  have stored : (store.schedulingAt input.project existing.state.taskId).isSome := by
    rw [named]
    simp [TaskPairStore.schedulingAt_of_getPair found]
  unfold applyClaim
  extract_lets state event claimed
  split
  · constructor
    · have saved : KeepsSchedulings input.project input.initialScheduling store
          (store.savePair input.project claimed) := savePair_keepsSchedulings (.inl stored)
      exact saved.recordEvent event
    · intro pair answered
      cases answered
      exact savePair_isSome claimed
  · constructor
    · exact (KeepsSchedulings.refl store).recordEvent event
    · intro pair answered
      cases answered
      exact stored

theorem markerTransition_written {taskId : Option String} {existing : Option StoredTaskPair}
    (isExisting : existing = existingPair store input.project taskId) {busy : List String}
    {after : TaskPairState}
    (written : (markerTransition host input taskId (existing.map (·.state)) busy).pair =
      some after) :
    (existing.isSome → (store.schedulingAt input.project after.taskId).isSome) ∧
      (existing = none → after.scheduling = none) := by
  cases taskId with
  | none => cases written
  | some id =>
    constructor
    · intro there
      obtain ⟨old, rfl⟩ := Option.isSome_iff_exists.mp there
      obtain ⟨_, same, found⟩ := existingPair_found isExisting.symm
      cases same
      have named : after.taskId = id := by
        apply applyTaskPairMarker_taskId _ written
        intro pair isOld
        cases isOld
        exact (TaskPairStore.getPair_key found).2
      rw [named]
      simp [TaskPairStore.schedulingAt_of_getPair found]
    · rintro rfl
      exact applyTaskPairMarker_unscheduled host.toTaskPairHost _ _ after written

theorem putMarker_keeps {taskId : Option String} {existing : Option StoredTaskPair}
    (isExisting : existing = existingPair store input.project taskId) :
    MarkerKeeps store input.project input.initialScheduling
      (putMarker host store input taskId existing) := by
  unfold putMarker
  split
  · exact markerKeeps_unwritten rfl
  · extract_lets state busy transition role
    split
    · exact markerKeeps_unwritten rfl
    · split
      · exact markerKeeps_unwritten rfl
      · unfold commitTransition
        extract_lets recorded
        have start : KeepsSchedulings input.project input.initialScheduling store recorded :=
          (KeepsSchedulings.refl store).recordEvent _
        split
        · rename_i pair written
          obtain ⟨known, new⟩ := markerTransition_written isExisting written
          have saved := @saveTransition_keepsSchedulings host recorded input state transition
            busy pair
            (by intro there; exact known (by simpa [state] using there))
            (by intro missing; exact new (by simpa [state] using missing))
          constructor
          · exact start.trans saved.1
          · intro answered isAnswered
            cases isAnswered
            exact saved.2
        · rename_i nothing
          constructor
          · exact start
          · intro pair answered
            rw [MarkerAnswer.pair, nothing] at answered
            cases answered

theorem applyMarker_keeps :
    MarkerKeeps store input.project input.initialScheduling (applyMarker host store input) := by
  unfold applyMarker
  extract_lets configured taskId existing
  change MarkerKeeps store configured.project configured.initialScheduling _
  split
  · exact markerKeeps_unwritten rfl
  · split
    · rename_i found
      obtain ⟨id, -, stored⟩ := existingPair_found found
      exact applyClaim_keeps stored
    · exact putMarker_keeps rfl

end

/-! ## A run of the queue -/

/-- What a run makes of a store by flagging pairs of its project. -/
inductive FlagsOf (host : QueueHost) (project : String) (start : TaskPairStore) :
    TaskPairStore → Prop where
  | none : FlagsOf host project start start
  | flag {store : TaskPairStore} (earlier : FlagsOf host project start store) (taskId : String)
      (flag : TaskPairFlag) (detail : Option String) :
      FlagsOf host project start (flagQuiet store host project taskId flag detail)

def QueueDecision.store : QueueDecision → TaskPairStore
  | .goesOn store _ => store
  | .dispatches store _ _ _ => store

section
variable {host : QueueHost} {start store : TaskPairStore} {key : QueueKey}
  {listed : StoredTaskPair}

theorem withAuditor_flags (flags : FlagsOf host key.project start store)
    (executor auditor : Option String) :
    FlagsOf host key.project start (withAuditor host store key listed executor auditor).store := by
  unfold withAuditor
  split
  · exact flags
  · split
    · exact flags.flag _ _ _
    · exact flags.flag _ _ _
    · split
      · exact flags.flag _ _ _
      · split
        · exact flags.flag _ _ _
        · exact flags

theorem withExecutor_flags (flags : FlagsOf host key.project start store)
    (executor : Option String) :
    FlagsOf host key.project start (withExecutor host store key listed executor).store := by
  unfold withExecutor
  split
  · exact flags
  · split
    · exact withAuditor_flags flags _ _
    · split
      · exact withAuditor_flags flags _ _
      · split
        · exact withAuditor_flags flags _ _
        · exact flags

theorem considerPair_flags :
    FlagsOf host key.project store (considerPair host store key listed).store := by
  have unchanged : FlagsOf host key.project store store := .none
  unfold considerPair
  extract_lets pair need flagged
  split
  · exact unchanged
  · split
    · exact unchanged
    · split
      · exact unchanged.flag _ _ _
      · have flags : FlagsOf host key.project store flagged := by
          simp only [flagged]
          split
          · exact unchanged.flag _ _ _
          · exact unchanged
        split
        · exact unchanged.flag _ _ _
        · split
          · exact withExecutor_flags flags _
          · exact flags

theorem queueDecision_flags (run : QueueRun) (answer : Option String) :
    FlagsOf host run.key.project store (queueDecision host store run answer).store := by
  have unchanged : FlagsOf host run.key.project store store := .none
  unfold queueDecision
  split
  · split
    · exact unchanged
    · split
      · exact unchanged.flag _ _ _
      · exact considerPair_flags
  · exact withExecutor_flags unchanged _
  · exact withAuditor_flags unchanged _ _
  · exact unchanged

theorem flagQuiet_keepsSchedulings {project taskId : String} {given : Option TaskPairScheduling}
    (flag : TaskPairFlag) (detail : Option String) :
    KeepsSchedulings project given store (flagQuiet store host project taskId flag detail) := by
  unfold flagQuiet
  split
  · exact KeepsSchedulings.refl store
  · rename_i stored found
    extract_lets pair reason
    split
    · exact KeepsSchedulings.refl store
    · apply savePair_keepsSchedulings
      left
      have named : (stored.state.addFlag flag).taskId = taskId :=
        (congrArg Prod.fst (identity_addFlag stored.state flag)).trans
          (TaskPairStore.getPair_key found).2
      change (store.schedulingAt project (stored.state.addFlag flag).taskId).isSome
      rw [named]
      simp [TaskPairStore.schedulingAt_of_getPair found]

theorem FlagsOf.keepsSchedulings {project : String} {given : Option TaskPairScheduling}
    (flags : FlagsOf host project start store) : KeepsSchedulings project given start store := by
  induction flags with
  | none => exact KeepsSchedulings.refl start
  | flag _ taskId flag detail ih => exact ih.trans (flagQuiet_keepsSchedulings flag detail)

theorem admitPair_keepsSchedulings (run : QueueRun) (executor auditor : String) :
    KeepsSchedulings run.key.project none store
      (admitPair host store run listed executor auditor).1 := by
  unfold admitPair
  extract_lets taskId applied
  have marked : MarkerKeeps store run.key.project none applied :=
    @applyMarker_keeps host.toTaskPairServiceHost store
      (queueDispatch host run.key taskId executor auditor)
  split
  · exact marked.keeps
  · rename_i dispatched isDispatched
    apply marked.keeps.savePair
    change (applied.1.schedulingAt run.key.project dispatched.taskId).isSome
    cases answered : applied.2.pair with
    | some pair =>
      rw [answered] at isDispatched
      cases isDispatched
      exact marked.answered dispatched answered
    | none =>
      rw [answered] at isDispatched
      have found : applied.1.pairAt run.key.project taskId = some dispatched := isDispatched
      have named : dispatched.taskId = taskId := by
        obtain ⟨stored, isStored, rfl⟩ := Option.map_eq_some_iff.mp found
        exact (TaskPairStore.getPair_key isStored).2
      rw [named, TaskPairStore.schedulingAt, found]
      rfl

theorem resumeQueueRun_keepsSchedulings (run : QueueRun) (answer : Option String) :
    KeepsSchedulings run.key.project none store (resumeQueueRun host store run answer).1 := by
  have flags := @queueDecision_flags host store run answer
  unfold resumeQueueRun
  split
  · exact KeepsSchedulings.refl store
  · split
    · rename_i decided
      rw [decided] at flags
      exact flags.keepsSchedulings
    · rename_i before listed executor auditor decided
      rw [decided] at flags
      have admitted := @admitPair_keepsSchedulings host before listed run.advance executor auditor
      rw [advance_key] at admitted
      exact flags.keepsSchedulings.trans admitted

end

theorem queueStep_keepsSchedulings (system : QueueSystem) (facts : SessionFacts)
    (action : QueueAction) : ∃ project,
    KeepsSchedulings project none system.store (system.step (action.within facts)).store := by
  cases action with
  | marker host input =>
    have marked := @applyMarker_keeps host system.store { input with initialScheduling := none }
    exact ⟨input.project, marked.keeps⟩
  | runQueue host key =>
    refine ⟨key.project, ?_⟩
    simp only [QueueAction.within, QueueSystem.step]
    split
    · exact KeepsSchedulings.refl system.store
    · exact KeepsSchedulings.refl system.store
  | resume host key answer =>
    cases under : system.runs key with
    | none =>
      refine ⟨key.project, ?_⟩
      simp only [QueueAction.within, QueueSystem.step, under]
      exact KeepsSchedulings.refl system.store
    | some run =>
      refine ⟨run.key.project, ?_⟩
      simp only [QueueAction.within, QueueSystem.step, under]
      exact resumeQueueRun_keepsSchedulings run answer

/-! ## The reconciliation -/

def TaskPairScheduling.Waits (s : TaskPairScheduling) : Prop :=
  s.manual = true ∨ s.dependsOn ≠ [] ∨ s.resumePending = some true

/-- The scheduling of a waiting pair is replaced by one of the same epoch that waits for no
further pair. -/
structure IsReconciled (s next : TaskPairScheduling) : Prop where
  waits : s.Waits
  epoch : next.epoch = s.epoch
  dependsOn : next.dependsOn = s.dependsOn ∨ next.dependsOn = []

/-- What a reconciliation makes of a store by its patches. -/
inductive ReconciledTo (start : TaskPairStore) : TaskPairStore → Prop where
  | none : ReconciledTo start start
  | patch {store saved : TaskPairStore} {project taskId : String} {s next : TaskPairScheduling}
      {at_ : Int} (earlier : ReconciledTo start store)
      (patched : store.patchScheduling project taskId (some s) next at_ = some saved)
      (isReconciled : IsReconciled s next) :
      ReconciledTo start saved

section
variable {host : ReconcileHost} {start store : TaskPairStore} {stored : StoredTaskPair}
  {s : TaskPairScheduling}

def ReconcilePoint.Resumes : ReconcilePoint → Prop
  | .resuming _ s => s.resumePending = some true
  | _ => True

theorem finishResume_reconciled (earlier : ReconciledTo start store)
    (pending : s.resumePending = some true) (delivered : Bool) :
    ReconciledTo start (finishResume host store stored s delivered) := by
  unfold finishResume
  extract_lets next
  have isReconciled : IsReconciled s next := by
    refine ⟨.inr (.inr pending), ?_, ?_⟩
    · simp only [next]
      split <;> rfl
    · left
      simp only [next]
      split <;> rfl
  cases patched : store.patchScheduling stored.project stored.state.taskId (some s) next
      host.now with
  | none => exact earlier
  | some saved => exact earlier.patch patched isReconciled

theorem resumeAdmitted_reconciled (earlier : ReconciledTo start store)
    (pending : s.resumePending = some true) (admission : Option Admission) :
    ReconciledTo start (resumeAdmitted host store stored s admission).store ∧
      (resumeAdmitted host store stored s admission).point.Resumes := by
  unfold resumeAdmitted
  split
  · exact ⟨earlier, pending⟩
  · exact ⟨finishResume_reconciled earlier pending true, trivial⟩

theorem reconcileResume_reconciled (earlier : ReconciledTo start store) :
    ReconciledTo start (reconcileResume host store stored s).store ∧
      (reconcileResume host store stored s).point.Resumes := by
  unfold reconcileResume
  extract_lets waits pair next
  have unchanged : ReconciledTo start waits.store ∧ waits.point.Resumes := ⟨earlier, trivial⟩
  split
  · exact unchanged
  · rename_i goes
    have pending : s.resumePending = some true := by
      simp only [Bool.or_eq_true, decide_eq_true_eq, not_or, ne_eq, not_not] at goes
      exact goes.1.2
    split
    · exact unchanged
    · split
      · split
        · exact unchanged
        · split
          · exact unchanged
          · rename_i saved patched
            have later : ReconciledTo start saved :=
              earlier.patch patched ⟨.inr (.inr pending), rfl, .inl rfl⟩
            split
            · exact ⟨later, trivial⟩
            · exact resumeAdmitted_reconciled (s := next) later pending _
      · exact resumeAdmitted_reconciled earlier pending _

theorem reconcilePair_reconciled (original : StoredTaskPair) :
    ReconciledTo store (reconcilePair host store original).store ∧
      (reconcilePair host store original).point.Resumes := by
  have start : ReconciledTo store store := .none
  unfold reconcilePair
  extract_lets waits stored
  have unchanged : ReconciledTo store waits.store ∧ waits.point.Resumes := ⟨start, trivial⟩
  split
  · exact unchanged
  · rename_i s isScheduled
    extract_lets statuses next
    split
    · exact reconcileResume_reconciled start
    · rename_i depends
      have waits : s.Waits := .inr (.inl (by simpa using depends))
      split
      · split
        · exact unchanged
        · split
          · exact unchanged
          · rename_i saved patched
            exact ⟨start.patch patched ⟨waits, rfl, .inl rfl⟩, trivial⟩
      · split
        · split
          · exact unchanged
          · rename_i saved patched
            have later : ReconciledTo store saved := start.patch patched ⟨waits, rfl, .inr rfl⟩
            split
            · exact ⟨later, trivial⟩
            · exact reconcileResume_reconciled later
        · exact unchanged

theorem resumeReconcileRun_reconciled {run : ReconcileRun} (resumes : run.point.Resumes)
    (delivered : Bool) :
    let resumed := resumeReconcileRun host store run delivered
    ReconciledTo store resumed.1 ∧ ∀ later, resumed.2.1 = some later → later.point.Resumes := by
  unfold resumeReconcileRun
  split
  · refine ⟨.none, ?_⟩
    intro later isLater
    cases isLater
    trivial
  · rename_i stored s isPoint
    rw [isPoint] at resumes
    refine ⟨finishResume_reconciled .none resumes delivered, ?_⟩
    intro later isLater
    cases isLater
    trivial
  · split
    · exact ⟨.none, by simp⟩
    · split
      · exact ⟨.none, by simp⟩
      · obtain ⟨reconciled, resumes⟩ := @reconcilePair_reconciled host store ‹_›
        refine ⟨reconciled, ?_⟩
        intro later isLater
        cases isLater
        exact resumes

end

/-! ## One step -/

theorem pausePair_cases {store saved : TaskPairStore} {request : PauseRequest} {now : Int}
    (paused : pausePair store request now = .ok saved) :
    saved = store ∨ ∃ prev next, store.patchScheduling request.project request.taskId prev next
        now = some saved ∧
      next.epoch = prev.elim 0 (·.epoch) + 1 ∧
      (next.dependsOn = prev.elim [] (·.dependsOn) ∨
        ∃ dependsOn, validatePairDependencies store request.project request.taskId dependsOn =
          .ok next.dependsOn) := by
  unfold pausePair at paused
  split at paused
  · cases paused
  · rename_i pair found
    extract_lets prev dependencies at paused
    cases decided : dependencies with
    | error error =>
      rw [decided] at paused
      cases paused
    | ok deps =>
      rw [decided] at paused
      dsimp only at paused
      split at paused
      · cases paused
        exact .inl rfl
      · split at paused
        · cases paused
        · rename_i patched
          cases paused
          refine .inr ⟨prev, _, patched, rfl, ?_⟩
          simp only [dependencies] at decided
          split at decided
          · exact .inr ⟨_, decided⟩
          · cases decided
            exact .inl rfl

theorem resumePair_cases {store saved : TaskPairStore} {project taskId writer : String}
    {now : Int} (resumed : resumePair store project taskId writer now = .ok saved) :
    saved = store ∨ ∃ prev next, store.patchScheduling project taskId (some prev) next now =
        some saved ∧
      next.epoch = prev.epoch + 1 ∧ next.dependsOn = prev.dependsOn := by
  unfold resumePair at resumed
  split at resumed
  · cases resumed
  · split at resumed
    · cases resumed
      exact .inl rfl
    · split at resumed
      · cases resumed
        exact .inl rfl
      · extract_lets next at resumed
        split at resumed
        · cases resumed
        · rename_i patched
          cases resumed
          exact .inr ⟨_, next, patched, rfl, rfl⟩

namespace SchedulingSystem

def Resumes (system : SchedulingSystem) : Prop :=
  ∀ run, system.reconciling = some run → run.point.Resumes

theorem step_cases {system : SchedulingSystem} (resumes : system.Resumes)
    (action : SchedulingAction) :
    (∃ project given, KeepsSchedulings project given system.store (system.step action).store ∧
      ∀ s, given = some s → ∃ creation ∈ system.creations, creation.project = project ∧
        s.dependsOn = creation.dependencies) ∨
    (∃ request now, action = .pause request now ∧
      pausePair system.store request now = .ok (system.step action).store) ∨
    (∃ project taskId writer now, action = .resume project taskId writer now ∧
      resumePair system.store project taskId writer now = .ok (system.step action).store) ∨
    ReconciledTo system.store (system.step action).store := by
  have unchanged : ∃ project given, KeepsSchedulings project given system.store system.store ∧
      ∀ s, given = some s → ∃ creation ∈ system.creations, creation.project = project ∧
        s.dependsOn = creation.dependencies :=
    ⟨"", none, KeepsSchedulings.refl _, by simp⟩
  cases action with
  | queue action =>
    obtain ⟨project, keeps⟩ := queueStep_keepsSchedulings system.toQueueSystem system.sessions
      action
    exact .inl ⟨project, none, keeps, by simp⟩
  | sessions facts => exact .inl unchanged
  | save project state =>
    left
    simp only [step]
    split
    · exact unchanged
    · rename_i copied
      refine ⟨project, none, savePair_keepsSchedulings ?_, by simp⟩
      cases found : system.store.getPair project state.taskId with
      | none => exact .inr (by simpa [found] using copied)
      | some stored => exact .inl (by simp [TaskPairStore.schedulingAt_of_getPair found])
  | pause request now =>
    simp only [step]
    split
    · exact .inl unchanged
    · rename_i paused
      exact .inr (.inl ⟨request, now, rfl, paused⟩)
  | resume project taskId writer now =>
    simp only [step]
    split
    · exact .inl unchanged
    · rename_i resumed
      exact .inr (.inr (.inl ⟨project, taskId, writer, now, rfl, resumed⟩))
  | checkCreation project brain taskId dependsOn => exact .inl unchanged
  | create host creation input =>
    left
    simp only [step]
    split
    · rename_i checked
      have marked := @applyMarker_keeps host system.store (createInput creation input)
      refine ⟨creation.project, _, marked.keeps, ?_⟩
      intro s given
      simp only [createInput] at given
      split at given
      · cases given
      · cases given
        exact ⟨creation, checked, rfl, rfl⟩
    · exact unchanged
  | reconcile =>
    left
    simp only [step]
    split
    · exact unchanged
    · exact unchanged
  | goOn suspensionStopped now delivered =>
    cases under : system.reconciling with
    | none =>
      left
      simp only [step, under]
      exact unchanged
    | some run =>
      simp only [step, under]
      exact .inr (.inr (.inr (resumeReconcileRun_reconciled (resumes run under) delivered).1))

theorem step_resumes {system : SchedulingSystem} (resumes : system.Resumes)
    (action : SchedulingAction) : (system.step action).Resumes := by
  cases action with
  | reconcile =>
    simp only [step]
    split
    · exact resumes
    · intro run started
      cases started
      trivial
  | goOn suspensionStopped now delivered =>
    cases under : system.reconciling with
    | none =>
      simp only [step, under]
      exact resumes
    | some run =>
      simp only [step, under]
      exact (resumeReconcileRun_reconciled (resumes run under) delivered).2
  | save project state =>
    simp only [step]
    split <;> exact resumes
  | pause request now =>
    simp only [step]
    split <;> exact resumes
  | resume project taskId writer now =>
    simp only [step]
    split <;> exact resumes
  | create host creation input =>
    simp only [step]
    split <;> exact resumes
  | _ => exact resumes

end SchedulingSystem

end ImCodes.TaskPair
