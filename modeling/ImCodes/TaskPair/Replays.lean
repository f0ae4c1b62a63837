import ImCodes.TaskPair.Recording

/-!
# Markers that come again

The daemon reads turns again after a crash and puts their markers under the ids they had. A
recorded marker does nothing then. One that was answered without a record is put to the pair
anew, and what it does depends on where the pair is by then.
-/

set_option autoImplicit false

namespace ImCodes.TaskPair

open Library TaskPairState

def SameStandings (before after : TaskPairStore) : Prop :=
  ∀ project taskId, (after.pairAt project taskId).map (·.standing) =
    (before.pairAt project taskId).map (·.standing)

def IsMaterialInPlace (host : TaskPairServiceHost) (pair : TaskPairState) : Prop :=
  (redirectMaterialToCurrentWorkspace host pair).material = pair.material

def SetsNoBox (host : TaskPairServiceHost) (pair : TaskPairState) (verb : TaskPairVerb) : Prop :=
  verb = .readyForAudit → pair.status = .inAudit →
    (truthy pair.brief).all fun brief => host.uncheckedItems brief .implemented = []

/-- Where the pair is when a marker without a record comes again, for it to do nothing: past
the marker or not yet at it, under audit with the same material, or in no state to take it. -/
def IsHarmless (host : TaskPairServiceHost) (pair : TaskPairState) (marker : TaskPairMarker)
    (ctx : TaskPairApplyContext) (verb : TaskPairVerb) : Prop :=
  IsIgnored pair marker ctx verb ∨
  (verb = .readyForAudit ∧ mismatchedBase host.toTaskPairHost pair marker.attrs ctx.now = none ∧
    isDuplicateReady host.toTaskPairHost (draftOf pair marker ctx) = true) ∨
  (IsRefused host.toTaskPairHost pair marker ctx verb ∧ IsMaterialInPlace host pair ∧
    SetsNoBox host pair verb)

/-- What must hold where a marker comes again: it is recorded, it is still taken for a copy of
the verdict before it, it is about no pair, or it is harmless to its pair. -/
def IsHarmlessReplay (host : TaskPairServiceHost) (store : TaskPairStore)
    (input : ApplyMarkerInput) : Prop :=
  store.hasEvent input.eventId = true ∨
  isDuplicateVerdictMarker store (existingPair store input.project (taskIdOf store input)) input =
    true ∨
  taskIdOf store input = none ∨
  ∃ taskId stored verb, taskIdOf store input = some taskId ∧
    existingPair store input.project (some taskId) = some stored ∧
    input.marker.knownVerb = some verb ∧ verb ∈ unrecordedVerbs ∧
    IsHarmless host stored.state { input.marker with taskId := taskId }
      (contextOf host input (busySessions store input.marker.attrs (some taskId))) verb

/-! ## A note changes no standing -/

section
variable {host : TaskPairServiceHost} {store after : TaskPairStore} {input : ApplyMarkerInput}

theorem sameStandings_of_pairs (same : after.pairs = store.pairs) : SameStandings store after := by
  intro project taskId
  simp only [TaskPairStore.pairAt, TaskPairStore.getPair, same]

theorem redirectMaterial_congr {left right : TaskPairState}
    (material : left.material = right.material) (workspace : left.workspace = right.workspace) :
    (redirectMaterialToCurrentWorkspace host left).material =
      (redirectMaterialToCurrentWorkspace host right).material := by
  unfold redirectMaterialToCurrentWorkspace
  rw [← material, ← workspace]
  cases foundMaterial : left.material <;> cases foundWorkspace : left.workspace <;>
    simp [foundMaterial, ← material]

theorem commitTransition_noted {taskId : String} {stored : StoredTaskPair} {busy : List String}
    {transition : TaskPairTransition}
    (own : store.getPair input.project taskId = some stored)
    (identity : ∀ pair, transition.pair = some pair → pair.taskId = taskId)
    (noted : IsNoted stored.state transition) (inPlace : IsMaterialInPlace host stored.state)
    (unticked : ∀ pair : TaskPairState, pair.brief = stored.state.brief →
      shouldAutoTickChecklist host input.marker.knownVerb transition pair = false) :
    SameStandings store
      (commitTransition host store input (some taskId) (some stored.state) busy transition).1 := by
  cases written : transition.pair with
  | none => exact sameStandings_of_pairs (commitTransition_unwritten written)
  | some pair =>
    have same : pair.standing = stored.state.standing := noted.standing pair written
    have brief : pair.brief = stored.state.brief := congrArg TaskPairStanding.brief same
    have material : pair.material = stored.state.material :=
      congrArg (fun standing => standing.audit.material) same
    have workspace : pair.workspace = stored.state.workspace :=
      congrArg TaskPairStanding.workspace same
    obtain ⟨scheduling, flags, reason, updatedAt, wrote⟩ :=
      @commitTransition_written host store input (some stored.state) _ busy (some taskId) _
        written (fun noted isBrief => unticked noted (isBrief.trans brief))
    have placed : (redirectMaterialToCurrentWorkspace host pair).material = pair.material :=
      (redirectMaterial_congr material workspace).trans (inPlace.trans material.symm)
    intro project task
    by_cases isOwn : (project, task) = (input.project, taskId)
    · obtain ⟨rfl, rfl⟩ := Prod.mk.inj isOwn
      obtain ⟨queued, found⟩ := wrote.own
      rw [identity pair written] at found
      rw [found, TaskPairStore.pairAt, own]
      simp only [Option.map_some, Option.some.injEq]
      rw [← same]
      simp only [standing, audit, placed]
    · have different : (project, task) ≠ (input.project, pair.taskId) := by
        rw [identity pair written]
        exact isOwn
      rw [TaskPairStore.pairAt, wrote.others project task different]
      rfl

theorem putMarker_sameStandings {taskId : Option String} {existing : Option StoredTaskPair}
    (committed : SameStandings store
      (commitTransition host store input taskId (existing.map (·.state))
        (busySessions store input.marker.attrs taskId)
        (markerTransition host input taskId (existing.map (·.state))
          (busySessions store input.marker.attrs taskId))).1) :
    SameStandings store (putMarker host store input taskId existing).1 := by
  unfold putMarker
  split
  · exact fun _ _ => rfl
  · extract_lets state busy transition role
    split
    · exact fun _ _ => rfl
    · split
      · exact fun _ _ => rfl
      · exact committed

theorem unticked_noted {stored pair : TaskPairState} {marker : TaskPairMarker}
    {ctx : TaskPairApplyContext} {verb : TaskPairVerb} {transition : TaskPairTransition}
    (member : verb ∈ unrecordedVerbs)
    (refused : IsRefused host.toTaskPairHost stored marker ctx verb)
    (noted : IsNoted stored transition) (setsNoBox : SetsNoBox host stored verb)
    (brief : pair.brief = stored.brief) :
    shouldAutoTickChecklist host (some verb) transition pair = false := by
  simp only [unrecordedVerbs, List.mem_cons, List.not_mem_nil, or_false] at member
  rcases member with rfl | rfl | rfl | rfl
  · exact unticked_other (by decide)
  · unfold shouldAutoTickChecklist
    rw [noted.toStatus, brief]
    cases text : truthy stored.brief with
    | none => rfl
    | some text' =>
      by_cases inAudit : stored.status = .inAudit
      · have ticked := setsNoBox rfl inAudit
        rw [text] at ticked
        have nothing : host.uncheckedItems text' .implemented = [] := by simpa using ticked
        simp [inAudit, nothing]
      · simp [inAudit]
  · have unpassed : stored.status ≠ .passed := by
      rcases refused with closed | idle
      · intro passed
        simp [passed, isTerminalTaskPairStatus] at closed
      · exact idle.1
    unfold shouldAutoTickChecklist
    rw [noted.toStatus]
    split
    · rfl
    · simp [unpassed]
  · exact unticked_other (by decide)

theorem putMarker_harmless {taskId : String} {stored : StoredTaskPair} {verb : TaskPairVerb}
    (found : existingPair store input.project (some taskId) = some stored)
    (known : input.marker.knownVerb = some verb) (member : verb ∈ unrecordedVerbs)
    (harmless : IsHarmless host stored.state { input.marker with taskId := taskId }
      (contextOf host input (busySessions store input.marker.attrs (some taskId))) verb) :
    SameStandings store (putMarker host store input (some taskId) (some stored)).1 := by
  have own := existingPair_taskId found
  have named : taskId ≠ taskPairInferTaskId := by
    rintro rfl
    simp [existingPair, Option.filter] at found
  apply putMarker_sameStandings
  have identity : ∀ pair, (markerTransition host input (some taskId) (some stored.state)
      (busySessions store input.marker.attrs (some taskId))).pair = some pair →
      pair.taskId = taskId := by
    intro pair written
    refine @markerTransition_taskId _ _ _ (some stored) _ _ ?_ written
    intro other same
    cases same
    exact (TaskPairStore.getPair_key own).2
  have applied : markerTransition host input (some taskId) (some stored.state)
      (busySessions store input.marker.attrs (some taskId)) =
      applyToPair host.toTaskPairHost stored.state verb { input.marker with taskId := taskId }
        (contextOf host input (busySessions store input.marker.attrs (some taskId))) := by
    simp only [markerTransition, applyTaskPairMarker, known, if_neg named]
  simp only [Option.map_some]
  rcases harmless with ignored | ⟨rfl, matching, duplicate⟩ | ⟨refused, inPlace, setsNoBox⟩
  · have recorded := @applyToPair_ignored host.toTaskPairHost _ _ _ _ member ignored
    exact sameStandings_of_pairs (commitTransition_unwritten (applied ▸ recorded.unwritten))
  · have unwritten := @applyToPair_duplicate host.toTaskPairHost _ _ _ matching duplicate
    exact sameStandings_of_pairs (commitTransition_unwritten (applied ▸ unwritten))
  · have noted := applyToPair_refused member refused
    rw [← applied] at noted
    refine commitTransition_noted own identity noted inPlace ?_
    intro pair brief
    rw [known]
    exact unticked_noted member refused noted setsNoBox brief

end

theorem applyMarker_harmless {host : TaskPairServiceHost} {store : TaskPairStore}
    {again : ApplyMarkerInput}
    (harmless : IsHarmlessReplay host store (again.configured host)) :
    SameStandings store (applyMarker host store again).1 := by
  unfold applyMarker
  extract_lets input taskId existing
  rcases harmless with recorded | copy | unresolved | ⟨task, stored, verb, resolved, found, known,
    member, onPair⟩
  · rw [if_pos recorded]
    exact fun _ _ => rfl
  · split
    · exact fun _ _ => rfl
    · split
      · rename_i claims existed
        have single : isDuplicateVerdictMarker store existing input = false :=
          isDuplicateVerdictMarker_other claims (by decide)
        exact absurd (copy.symm.trans single) (by decide)
      · unfold putMarker
        rw [if_pos copy]
        exact fun _ _ => rfl
  · split
    · exact fun _ _ => rfl
    · have noTask : taskId = none := unresolved
      have nobody : existing = none := by
        simp only [existing, noTask]
        rfl
      split
      · rename_i existed
        rw [nobody] at existed
        cases existed
      · apply putMarker_sameStandings
        rw [nobody]
        apply sameStandings_of_pairs
        apply commitTransition_unwritten
        simp only [noTask, markerTransition]
  · split
    · exact fun _ _ => rfl
    · have isTask : taskId = some task := resolved
      have existed : existing = some stored := by
        simp only [existing, isTask]
        exact found
      split
      · rename_i claims _
        rw [known] at claims
        cases claims
        exact absurd member (by decide)
      · rw [existed, isTask]
        exact putMarker_harmless found known member onPair

/-! ## Runs -/

/-- A call of `applyMarker`, and the host as it was then. -/
abbrev MarkerCall := TaskPairServiceHost × ApplyMarkerInput

def callStep (store : TaskPairStore) (call : MarkerCall) : TaskPairStore :=
  markerStep call.1 store call.2

theorem run_keepsEvents (calls : List MarkerCall) (store : TaskPairStore) :
    EventsKept store (run callStep store calls) :=
  @run_related _ _ callStep EventsKept (fun _ _ => id) (fun _ _ _ => EventsKept.trans)
    (fun _ _ => applyMarker_keepsEvents) store calls

theorem run_records {before after : List MarkerCall} {call : MarkerCall} {store : TaskPairStore}
    (other : ∀ verb, call.2.marker.knownVerb = some verb → verb ∉ unrecordedVerbs) :
    (run callStep store (before ++ call :: after)).hasEvent call.2.eventId = true := by
  rw [run_append]
  exact run_keepsEvents after _ _ (applyMarker_records other)

/-- A marker that comes again at any later point of a run leaves every pair where it stands, if
its verb is one that is always recorded or it is harmless there. -/
theorem replays_change_no_standing (start : TaskPairStore) (before after : List MarkerCall)
    (call : MarkerCall) (host : TaskPairServiceHost) (again : ApplyMarkerInput)
    (sameEvent : again.eventId = call.2.eventId)
    (harmless : (∀ verb, call.2.marker.knownVerb = some verb → verb ∉ unrecordedVerbs) ∨
      IsHarmlessReplay host (run callStep start (before ++ call :: after))
        (again.configured host)) :
    SameStandings (run callStep start (before ++ call :: after))
      (applyMarker host (run callStep start (before ++ call :: after)) again).1 := by
  rcases harmless with other | harmless
  · apply applyMarker_harmless
    left
    have recorded := @run_records before after _ start other
    rw [← sameEvent] at recorded
    exact recorded
  · exact applyMarker_harmless harmless

/-- `T1` is dispatched, started twice, submitted and sent back. -/
def opened : List MarkerCall :=
  [(plainServiceHost, plainInput "e1" "alpha" "alpha_brain" .mcp 1
    (plainMarker .dispatch [("executor", "x"), ("auditor", "y")]))]

def startsAgain : ApplyMarkerInput :=
  plainInput "e2" "alpha" "x" .marker 2 (plainMarker .started [])

def sentBack : List MarkerCall :=
  [(plainServiceHost, plainInput "e3" "alpha" "x" .marker 3
      (plainMarker .readyForAudit [("head", "abcdef1")])),
    (plainServiceHost, plainInput "e4" "alpha" "y" .marker 4
      (plainMarker .rework [("p0", "1")]))]

private def inAudit : TaskPairStore :=
  run callStep .empty (opened ++ (plainServiceHost, startsAgain) :: sentBack.take 1)

/-- A STARTED of a pair at work comes again when the pair is under audit. -/
theorem replays_change_no_standing_started :
    SameStandings inAudit (applyMarker plainServiceHost inAudit startsAgain).1 := by
  refine replays_change_no_standing .empty opened (sentBack.take 1) (plainServiceHost, startsAgain)
    plainServiceHost startsAgain rfl (.inr (.inr (.inr (.inr ?_))))
  have found : (existingPair inAudit "alpha" (some "T1")).isSome = true := by decide +kernel
  obtain ⟨stored, isStored⟩ := Option.isSome_iff_exists.mp found
  have standing : (existingPair inAudit "alpha" (some "T1")).all (fun stored => decide (
      stored.state.status = .inAudit ∧ taskPairRoleOf (some stored.state) "x" = .executor ∧
      hasAuthority stored.state (plainMarker .started []) (contextOf plainServiceHost
        (startsAgain.configured plainServiceHost) []) = false ∧
      (redirectMaterialToCurrentWorkspace plainServiceHost stored.state).material =
        stored.state.material)) = true := by
    decide +kernel
  rw [isStored, Option.all_some, decide_eq_true_eq] at standing
  obtain ⟨status, role, authority, material⟩ := standing
  exact ⟨"T1", stored, .started, by decide +kernel, isStored, rfl, by decide,
    .inr (.inr ⟨.inr (.inr (.inl ⟨.inl status, role, authority⟩)), material, nofun⟩)⟩

/-- A STARTED that changed nothing takes a pair out of its rework when it comes again. -/
theorem replayed_started_leaves_rework :
    ¬ ∀ (start : TaskPairStore) (before after : List MarkerCall) (call : MarkerCall)
      (host : TaskPairServiceHost) (again : ApplyMarkerInput), again = call.2 →
      SameStandings (run callStep start (before ++ call :: after))
        (applyMarker host (run callStep start (before ++ call :: after)) again).1 := by
  intro harmless
  have same := harmless .empty opened sentBack (plainServiceHost, startsAgain) plainServiceHost
    startsAgain rfl "alpha" "T1"
  have statuses := congrArg (Option.map fun standing => standing.audit.status) same
  simp only [Option.map_map] at statuses
  have before : ((run callStep .empty (opened ++ (plainServiceHost, startsAgain) ::
      sentBack)).pairAt "alpha" "T1").map (·.status) = some .rework := by
    decide +kernel
  have after : ((applyMarker plainServiceHost (run callStep .empty
      (opened ++ (plainServiceHost, startsAgain) :: sentBack)) startsAgain).1.pairAt "alpha"
        "T1").map (·.status) = some .working := by
    decide +kernel
  have impossible : some TaskPairStatus.working = some .rework := after.symm.trans
    (statuses.trans before)
  cases impossible

end ImCodes.TaskPair
