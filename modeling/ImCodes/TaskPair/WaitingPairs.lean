import ImCodes.TaskPair.SchedulingEffects

/-!
# Pairs that wait for each other

The pairs of a project wait for each other without a cycle: a pause is checked and written in
one go, and a new pair waits for pairs that are there while none can wait for it yet.
-/

set_option autoImplicit false

namespace ImCodes.TaskPair

open Library Relation

namespace TaskPairStore

def WaitsFor (store : TaskPairStore) (project : String) : String → String → Prop :=
  successorEdge (store.dependenciesOf project)

def IsStored (store : TaskPairStore) (project taskId : String) : Prop :=
  (store.getPair project taskId).isSome

end TaskPairStore

/-! ## Checking dependencies -/

def IsMalformed (input : Option Json) : Prop :=
  ∀ items, input = some (.arr items) →
    taskPairMaxDependencies < items.length ∨
      ∃ item ∈ items, ∀ id, item = .str id → trim id = ""

theorem dependencyIds_eq_none_iff (input : Option Json) :
    dependencyIds input = none ↔ IsMalformed input := by
  unfold dependencyIds IsMalformed
  split
  · rename_i items
    split
    · rename_i many
      simp [many]
    · rename_i few
      simp only [Option.some.injEq, Json.arr.injEq, forall_eq', few, false_or]
      clear few
      induction items with
      | nil => simp
      | cons item rest ih =>
        cases item with
        | str id =>
          by_cases blank : trim id = ""
          · simp [List.mapM_cons, blank]
          · simp [List.mapM_cons, blank, ← ih]
            exact Option.eq_none_iff_forall_ne_some.symm
        | _ => simp [List.mapM_cons]
  · rename_i unlisted
    simp only [true_iff]
    intro items isList
    exact absurd isList (by simpa using unlisted items)

section
variable {store : TaskPairStore} {project taskId : String} {input : Option Json}

theorem reached_eraseDups {next : String → Option (List String)} {ids : List String} {id : String} :
    Search.Reached next ids.eraseDups id ↔ Search.Reached next ids id := by
  simp [Search.Reached, List.mem_eraseDups]

theorem fails_eraseDups {next : String → Option (List String)} {avoid : String} {limit : Nat}
    {ids : List String} :
    Search.Fails next avoid limit ids.eraseDups ↔ Search.Fails next avoid limit ids := by
  simp only [Search.Fails, reached_eraseDups]

theorem validatePairDependencies_error_iff :
    (∃ error, validatePairDependencies store project taskId input = .error error) ↔
      IsMalformed input ∨ ∃ ids, dependencyIds input = some ids ∧
        Search.Fails (store.dependenciesOf project) taskId taskPairDependencyGraphLimit ids := by
  rw [← dependencyIds_eq_none_iff]
  unfold validatePairDependencies
  cases named : dependencyIds input with
  | none => simp
  | some ids =>
    have decided := (@Search.sound_start _ (store.dependenciesOf project) taskId
      taskPairDependencyGraphLimit ids.eraseDups).result_iff
    rw [fails_eraseDups] at decided
    simp only [reduceCtorEq, false_or, Option.some.injEq, exists_eq_left', ← decided]
    split
    · rename_i failed
      simp [failed]
    · rename_i found
      simp [found]

theorem validatePairDependencies_ok {ids : List String}
    (valid : validatePairDependencies store project taskId input = .ok ids) :
    ¬ Search.Fails (store.dependenciesOf project) taskId taskPairDependencyGraphLimit ids := by
  intro fails
  have failed : ∃ error, validatePairDependencies store project taskId input = .error error := by
    unfold validatePairDependencies at valid
    cases named : dependencyIds input with
    | none => simp [named] at valid
    | some given =>
      simp only [named] at valid
      split at valid
      · cases valid
      · cases valid
        exact validatePairDependencies_error_iff.mpr
          (.inr ⟨given, named, fails_eraseDups.mp fails⟩)
  obtain ⟨error, failed⟩ := failed
  rw [valid] at failed
  cases failed

theorem checked_dependency {ids : List String} {id : String}
    (valid : validatePairDependencies store project taskId input = .ok ids) (member : id ∈ ids) :
    store.IsStored project id ∧ ¬ ReflTransGen (store.WaitsFor project) id taskId := by
  have sound := validatePairDependencies_ok valid
  simp only [Search.Fails, not_or, not_exists, not_and] at sound
  obtain ⟨present, -, apart⟩ := sound
  constructor
  · have found := present id ⟨id, member, .refl⟩
    rw [TaskPairStore.IsStored, Option.isSome_iff_ne_none]
    intro missing
    exact found (by simp [TaskPairStore.dependenciesOf, missing])
  · intro path
    exact apart taskId ⟨id, member, path⟩ |>.1 rfl

end

/-! ## What a step does to who waits for whom -/

section
variable {before after : TaskPairStore} {project : String}

theorem isStored_iff (store : TaskPairStore) (project taskId : String) :
    store.IsStored project taskId ↔ (store.schedulingAt project taskId).isSome := by
  simp [TaskPairStore.IsStored, TaskPairStore.schedulingAt, TaskPairStore.pairAt]

theorem waitsFor_iff (store : TaskPairStore) (taskId target : String) :
    store.WaitsFor project taskId target ↔
      ∃ s, store.schedulingAt project taskId = some (some s) ∧ target ∈ s.dependsOn := by
  unfold TaskPairStore.WaitsFor successorEdge
  rw [TaskPairStore.dependenciesOf_eq]
  cases store.schedulingAt project taskId with
  | none => simp
  | some scheduling => cases scheduling <;> simp

/-- The pairs of a project wait for stored pairs, and for each other without a cycle. -/
structure WaitsSoundly (store : TaskPairStore) (project : String) : Prop where
  acyclic : Acyclic (store.WaitsFor project)
  stored : ∀ taskId target, store.WaitsFor project taskId target → store.IsStored project target

theorem KeepsSchedulings.isStored {own : String} {given : Option TaskPairScheduling}
    (keeps : KeepsSchedulings own given before after) {taskId : String}
    (stored : before.IsStored project taskId) : after.IsStored project taskId := by
  rw [isStored_iff] at stored ⊢
  by_cases same : project = own
  · subst same
    exact keeps.isSome stored
  · rw [keeps.others project taskId same]
    exact stored

theorem KeepsSchedulings.waitsSoundly {own : String} {given : Option TaskPairScheduling}
    (keeps : KeepsSchedulings own given before after)
    (known : ∀ s, given = some s → ∀ id ∈ s.dependsOn, before.IsStored own id)
    (sound : WaitsSoundly before project) : WaitsSoundly after project := by
  have targets : ∀ taskId target, after.WaitsFor project taskId target →
      before.IsStored project target ∧
        (before.IsStored project taskId → before.WaitsFor project taskId target) := by
    intro taskId target waits
    obtain ⟨s, found, member⟩ := (waitsFor_iff after taskId target).mp waits
    by_cases same : project = own
    · subst same
      cases earlier : before.schedulingAt project taskId with
      | none =>
        have fresh := keeps.fresh taskId (some s) earlier found
        refine ⟨known s fresh.symm target member, ?_⟩
        intro stored
        rw [isStored_iff, earlier] at stored
        cases stored
      | some scheduling =>
        have kept := (keeps.kept taskId scheduling earlier).symm.trans found
        rw [Option.some.inj kept] at earlier
        have waited := (waitsFor_iff before taskId target).mpr ⟨s, earlier, member⟩
        exact ⟨sound.stored taskId target waited, fun _ => waited⟩
    · rw [keeps.others project taskId same] at found
      have waited := (waitsFor_iff before taskId target).mpr ⟨s, found, member⟩
      exact ⟨sound.stored taskId target waited, fun _ => waited⟩
  constructor
  · intro node cycle
    -- Whatever is waited for was stored before, and so were the edges between such pairs.
    have path : ∀ last, TransGen (after.WaitsFor project) node last →
        before.IsStored project node → TransGen (before.WaitsFor project) node last := by
      intro last path stored
      induction path with
      | single step => exact .single ((targets _ _ step).2 stored)
      | tail path step ih =>
        obtain ⟨_, _, into⟩ := TransGen.tail'_iff.mp path
        exact ih.tail ((targets _ _ step).2 (targets _ _ into).1)
    obtain ⟨_, _, into⟩ := TransGen.tail'_iff.mp cycle
    exact sound.acyclic node (path node cycle (targets _ _ into).1)
  · intro taskId target waits
    exact keeps.isStored (targets taskId target waits).1

theorem patchScheduling_waitsFor {own taskId : String} {expected : Option TaskPairScheduling}
    {next : TaskPairScheduling} {at_ : Int}
    (patched : before.patchScheduling own taskId expected next at_ = some after) :
    (∀ project id, before.IsStored project id → after.IsStored project id) ∧
      ∀ project id target, after.WaitsFor project id target →
        before.WaitsFor project id target ∨
          (project = own ∧ id = taskId ∧ target ∈ next.dependsOn) := by
  obtain ⟨current, written, others⟩ := TaskPairStore.schedulingAt_patch patched
  constructor
  · intro project id stored
    rw [isStored_iff] at stored ⊢
    by_cases same : (project, id) = (own, taskId)
    · cases same
      rw [written]
      rfl
    · rw [others project id same]
      exact stored
  · intro project id target waits
    obtain ⟨s, found, member⟩ := (waitsFor_iff after id target).mp waits
    by_cases same : (project, id) = (own, taskId)
    · cases same
      rw [written] at found
      cases found
      exact .inr ⟨rfl, rfl, member⟩
    · rw [others project id same] at found
      exact .inl ((waitsFor_iff before id target).mpr ⟨s, found, member⟩)

theorem WaitsSoundly.patch {own taskId : String} {expected : Option TaskPairScheduling}
    {next : TaskPairScheduling} {at_ : Int}
    (patched : before.patchScheduling own taskId expected next at_ = some after)
    (checked : ∀ id ∈ next.dependsOn, before.WaitsFor own taskId id ∨
      (before.IsStored own id ∧ ¬ ReflTransGen (before.WaitsFor own) id taskId))
    (sound : ∀ project, WaitsSoundly before project) (project : String) :
    WaitsSoundly after project := by
  obtain ⟨stays, edges⟩ := patchScheduling_waitsFor patched
  have noWayBack : ∀ id ∈ next.dependsOn, ¬ ReflTransGen (before.WaitsFor own) id taskId := by
    intro id member back
    rcases checked id member with waited | ⟨-, apart⟩
    · exact (sound own).acyclic taskId (TransGen.head' waited back)
    · exact apart back
  constructor
  · by_cases same : project = own
    · subst same
      apply ((addEdges_acyclic_iff (sound project).acyclic).mpr noWayBack).mono
      intro id target waits
      rcases edges project id target waits with old | ⟨-, rfl, member⟩
      · exact .inl old
      · exact .inr ⟨rfl, member⟩
    · apply (sound project).acyclic.mono
      intro id target waits
      exact (edges project id target waits).resolve_right fun new => same new.1
  · intro id target waits
    apply stays
    rcases edges project id target waits with old | ⟨rfl, rfl, member⟩
    · exact (sound project).stored id target old
    · rcases checked target member with waited | ⟨isStored, -⟩
      · exact (sound project).stored id target waited
      · exact isStored

end

/-! ## Runs -/

namespace SchedulingSystem

/-- What holds in every state of a run. -/
structure IsSound (system : SchedulingSystem) : Prop where
  resumes : system.Resumes
  waits : ∀ project, WaitsSoundly system.store project
  checked : ∀ creation ∈ system.creations, ∀ id ∈ creation.dependencies,
    system.store.IsStored creation.project id

variable {system : SchedulingSystem}

theorem checkedCreation_stored {store : TaskPairStore} {project brain taskId : String}
    {dependsOn : Option Json} {creation : PairCreation}
    (isChecked : checkedCreation store project brain taskId dependsOn = some creation) :
    ∀ id ∈ creation.dependencies, store.IsStored creation.project id := by
  unfold checkedCreation at isChecked
  extract_lets dependencies at isChecked
  cases decided : dependencies with
  | error error =>
    rw [decided] at isChecked
    cases isChecked
  | ok ids =>
    rw [decided] at isChecked
    dsimp only at isChecked
    split at isChecked
    · cases isChecked
    · cases isChecked
      intro id member
      simp only [dependencies] at decided
      split at decided
      · cases decided
        cases member
      · exact (checked_dependency decided member).1

theorem reconciled_sound {before after : TaskPairStore} (reconciled : ReconciledTo before after)
    (sound : ∀ project, WaitsSoundly before project) :
    (∀ project, WaitsSoundly after project) ∧
      ∀ project id, before.IsStored project id → after.IsStored project id := by
  induction reconciled with
  | none => exact ⟨sound, fun _ _ stored => stored⟩
  | @patch store saved project taskId s next at_ _ patched isReconciled ih =>
    constructor
    · apply WaitsSoundly.patch patched _ ih.1
      intro id member
      left
      have current := (TaskPairStore.schedulingAt_patch patched).1
      apply (waitsFor_iff store taskId id).mpr
      refine ⟨s, current, ?_⟩
      rcases isReconciled.dependsOn with same | cleared
      · rw [← same]
        exact member
      · rw [cleared] at member
        cases member
    · intro other id stored
      exact (patchScheduling_waitsFor patched).1 other id (ih.2 other id stored)

theorem step_waits (sound : system.IsSound) (action : SchedulingAction) :
    (∀ project, WaitsSoundly (system.step action).store project) ∧
      ∀ project id, system.store.IsStored project id →
        (system.step action).store.IsStored project id := by
  rcases step_cases sound.resumes action with
    ⟨own, given, keeps, known⟩ | ⟨request, now, -, paused⟩ |
    ⟨project, taskId, writer, now, -, resumed⟩ | reconciled
  · constructor
    · intro project
      apply keeps.waitsSoundly _ (sound.waits project)
      intro s isGiven id member
      obtain ⟨creation, isChecked, rfl, same⟩ := known s isGiven
      exact sound.checked creation isChecked id (same ▸ member)
    · intro project id stored
      exact keeps.isStored stored
  · rcases pausePair_cases paused with unchanged | ⟨prev, next, patched, -, depends⟩
    · rw [unchanged]
      exact ⟨sound.waits, fun _ _ stored => stored⟩
    · refine ⟨WaitsSoundly.patch patched ?_ sound.waits, (patchScheduling_waitsFor patched).1⟩
      intro id member
      rcases depends with same | ⟨dependsOn, valid⟩
      · left
        rw [same] at member
        cases prev with
        | none => cases member
        | some s =>
          exact (waitsFor_iff _ _ _).mpr
            ⟨s, (TaskPairStore.schedulingAt_patch patched).1, member⟩
      · exact .inr (checked_dependency valid member)
  · rcases resumePair_cases resumed with unchanged | ⟨prev, next, patched, -, same⟩
    · rw [unchanged]
      exact ⟨sound.waits, fun _ _ stored => stored⟩
    · refine ⟨WaitsSoundly.patch patched ?_ sound.waits, (patchScheduling_waitsFor patched).1⟩
      intro id member
      rw [same] at member
      exact .inl ((waitsFor_iff _ _ _).mpr
        ⟨prev, (TaskPairStore.schedulingAt_patch patched).1, member⟩)
  · exact reconciled_sound reconciled sound.waits

theorem step_creations (action : SchedulingAction) {creation : PairCreation}
    (member : creation ∈ (system.step action).creations) :
    creation ∈ system.creations ∨
      ((system.step action).store = system.store ∧
        ∀ id ∈ creation.dependencies, system.store.IsStored creation.project id) := by
  cases action with
  | checkCreation project brain taskId dependsOn =>
    rcases List.mem_append.mp member with older | new
    · exact .inl older
    · exact .inr ⟨rfl, checkedCreation_stored (Option.mem_toList.mp new)⟩
  | save project state =>
    left
    simp only [step] at member
    split at member <;> exact member
  | pause request now =>
    left
    simp only [step] at member
    split at member <;> exact member
  | resume project taskId writer now =>
    left
    simp only [step] at member
    split at member <;> exact member
  | create host creation input =>
    left
    simp only [step] at member
    split at member <;> exact member
  | reconcile =>
    left
    simp only [step] at member
    split at member <;> exact member
  | goOn suspensionStopped now delivered =>
    left
    cases under : system.reconciling <;> simpa only [step, under, withStore] using member
  | _ => exact .inl member

theorem step_sound (action : SchedulingAction) (sound : system.IsSound) :
    (system.step action).IsSound where
  resumes := step_resumes sound.resumes action
  waits := (step_waits sound action).1
  checked creation member id isDependency := by
    rcases step_creations action member with older | ⟨same, stored⟩
    · exact (step_waits sound action).2 _ _ (sound.checked creation older id isDependency)
    · rw [same]
      exact stored id isDependency

theorem start_sound (sessions : SessionFacts) : (start .empty sessions).IsSound where
  resumes run under := by cases under
  waits project := by
    have nothing : ∀ taskId target,
        ¬ (start .empty sessions).store.WaitsFor project taskId target := by
      rintro taskId target ⟨dependencies, found, -⟩
      cases found
    constructor
    · intro node cycle
      obtain ⟨_, _, into⟩ := TransGen.tail'_iff.mp cycle
      exact nothing _ _ into
    · intro taskId target waits
      exact absurd waits (nothing taskId target)
  checked creation member := by cases member

theorem run_sound (sessions : SessionFacts) (actions : List SchedulingAction) :
    (run step (start .empty sessions) actions).IsSound :=
  Reachable.invariant (start_sound sessions) (fun _ action sound => step_sound action sound)
    ⟨actions, rfl⟩

/-- In no state of a run do the pairs of a project wait for each other in a cycle, and new
dependencies are refused exactly if they are malformed, lead to a missing pair or to too many,
or would close a cycle. On a graph of any kind the check comes to an end, and it also refuses
dependencies that lead to a cycle they are not part of. -/
theorem waiting_pairs_never_deadlock (sessions : SessionFacts) (actions : List SchedulingAction)
    (project : String) :
    let store := (run step (start .empty sessions) actions).store
    Acyclic (store.WaitsFor project) ∧
    (∀ taskId input,
      (∃ error, validatePairDependencies store project taskId input = .error error) ↔
        IsMalformed input ∨ ∃ ids, dependencyIds input = some ids ∧
          ((∃ id, Search.Reached (store.dependenciesOf project) ids id ∧
              store.getPair project id = none) ∨
            (∃ pairs : Finset String, 4096 < pairs.card ∧
              ∀ id ∈ pairs, Search.Reached (store.dependenciesOf project) ids id) ∨
            ¬ Acyclic (addEdges (store.WaitsFor project) taskId ids))) ∧
    ∀ (any : TaskPairStore) taskId input,
      (∃ error, validatePairDependencies any project taskId input = .error error) ↔
        IsMalformed input ∨ ∃ ids, dependencyIds input = some ids ∧
          ((∃ id, Search.Reached (any.dependenciesOf project) ids id ∧
              any.getPair project id = none) ∨
            (∃ pairs : Finset String, 4096 < pairs.card ∧
              ∀ id ∈ pairs, Search.Reached (any.dependenciesOf project) ids id) ∨
            ∃ id, Search.Reached (any.dependenciesOf project) ids id ∧
              (id = taskId ∨ TransGen (any.WaitsFor project) id id)) := by
  have missing_iff : ∀ (store : TaskPairStore) id,
      store.dependenciesOf project id = none ↔ store.getPair project id = none := by
    simp [TaskPairStore.dependenciesOf]
  have onAny : ∀ (any : TaskPairStore) taskId input,
      (∃ error, validatePairDependencies any project taskId input = .error error) ↔
        IsMalformed input ∨ ∃ ids, dependencyIds input = some ids ∧
          ((∃ id, Search.Reached (any.dependenciesOf project) ids id ∧
              any.getPair project id = none) ∨
            (∃ pairs : Finset String, 4096 < pairs.card ∧
              ∀ id ∈ pairs, Search.Reached (any.dependenciesOf project) ids id) ∨
            ∃ id, Search.Reached (any.dependenciesOf project) ids id ∧
              (id = taskId ∨ TransGen (any.WaitsFor project) id id)) := by
    intro any taskId input
    rw [validatePairDependencies_error_iff]
    simp only [Search.Fails, missing_iff]
    rfl
  intro store
  have acyclic : Acyclic (store.WaitsFor project) := (run_sound sessions actions).waits project
    |>.acyclic
  refine ⟨acyclic, ?_, onAny⟩
  intro taskId input
  rw [onAny store taskId input]
  -- Without a cycle in the graph the pair itself must be reached.
  have closes : ∀ ids, (∃ id, Search.Reached (store.dependenciesOf project) ids id ∧
      (id = taskId ∨ TransGen (store.WaitsFor project) id id)) ↔
      ¬ Acyclic (addEdges (store.WaitsFor project) taskId ids) := by
    intro ids
    rw [addEdges_acyclic_iff acyclic]
    simp only [not_forall, not_not]
    constructor
    · rintro ⟨id, ⟨root, member, path⟩, rfl | cycle⟩
      · exact ⟨root, member, path⟩
      · exact absurd cycle (acyclic id)
    · rintro ⟨root, member, path⟩
      exact ⟨taskId, ⟨root, member, path⟩, .inl rfl⟩
  simp only [closes]

end SchedulingSystem

end ImCodes.TaskPair
