import ImCodes.TaskPair.Dispatch
import ImCodes.TaskPair.ServiceEffects

/-!
# Sessions in more than one pair

A DISPATCH asks of the sessions it names whether a started pair reserves them, and takes no
pair of its own task id into account. So a pair shares a session only with its namesake in
another project, or through a role that it keeps without naming it.
-/

set_option autoImplicit false

namespace ImCodes.TaskPair

open Library TaskPairState

section
variable (store : TaskPairStore) (project taskId : String)

def HeldElsewhere (session : String) : Prop :=
  ∃ other ∈ store.pairs, other.key ≠ (project, taskId) ∧
    TaskPairStore.holds other session = true

def HeldByNamesake (session : String) : Prop :=
  ∃ other ∈ store.pairs, other.project ≠ project ∧ other.state.taskId = taskId ∧
    TaskPairStore.holds other session = true

/-- If the pair is started and has both roles, it shares neither session with another pair. -/
def SharesNoSession (booking : TaskPairBooking) : Prop :=
  booking.status ∈ taskPairParticipantStatuses →
    ∀ executor auditor, booking.executor = some executor → booking.auditor = some auditor →
      ∀ session ∈ [executor, auditor], session ≠ taskPairNoAuditor →
        ¬HeldElsewhere store project taskId session

def BooksAlone : Prop :=
  ∀ own, store.pairAt project taskId = some own →
    SharesNoSession store project taskId own.booking

/-- A role that is filled by name must be free of namesakes, one that is kept of every pair. -/
def RoleIsFree (named kept : Option String) : Prop :=
  match named with
  | some session => session ≠ taskPairNoAuditor → ¬HeldByNamesake store project taskId session
  | none => ∀ session, kept = some session → session ≠ taskPairNoAuditor →
      ¬HeldElsewhere store project taskId session

end

/-- What must hold before a DISPATCH for its pair to share no session after it: where the
DISPATCH starts the pair, both roles are free; where it leaves the pair as it is, the pair
shares no session already. -/
def LeavesPairAlone (host : TaskPairServiceHost) (store : TaskPairStore)
    (input : ApplyMarkerInput) (taskId : String) : Prop :=
  let attrs := input.marker.attrs
  let existing := (existingPair store input.project (some taskId)).map (·.state)
  let ctx := contextOf host input (busySessions store attrs (some taskId))
  if store.hasEvent input.eventId then BooksAlone store input.project taskId
  else
    match dispatchFate { input.marker with taskId := taskId } ctx existing with
    | .kept => BooksAlone store input.project taskId
    | .queued => True
    | .started =>
      let before := startedBooking existing
      (before.named attrs).executor.isSome → (before.named attrs).auditor.isSome →
        RoleIsFree store input.project taskId (attrs.named? "executor") before.executor ∧
          RoleIsFree store input.project taskId (attrs.named? "auditor") before.auditor

/-! ## The reservations a marker sees -/

section
variable {store after : TaskPairStore} {project taskId session : String}

theorem getPair_of_mem {other : StoredTaskPair} (member : other ∈ store.pairs) :
    store.getPair other.project other.state.taskId = some other :=
  Table.lookup_of_mem member

theorem heldElsewhere_congr
    (others : ∀ other task, (other, task) ≠ (project, taskId) →
      after.getPair other task = store.getPair other task) :
    HeldElsewhere after project taskId session ↔ HeldElsewhere store project taskId session := by
  constructor
  · rintro ⟨other, member, different, held⟩
    have found := getPair_of_mem member
    rw [others _ _ different] at found
    exact ⟨other, TaskPairStore.getPair_mem found, different, held⟩
  · rintro ⟨other, member, different, held⟩
    have found := getPair_of_mem member
    rw [← others _ _ different] at found
    exact ⟨other, TaskPairStore.getPair_mem found, different, held⟩

theorem mem_listActivePairs {stored : StoredTaskPair} :
    stored ∈ store.listActivePairs ↔
      stored ∈ store.pairs ∧ isTerminalTaskPairStatus stored.state.status = false := by
  simp [TaskPairStore.listActivePairs, List.mem_insertionSort, Table.mem_select]

theorem active_of_holds {stored : StoredTaskPair}
    (held : TaskPairStore.holds stored session = true) :
    isTerminalTaskPairStatus stored.state.status = false := by
  simp only [TaskPairStore.holds, Bool.and_eq_true, decide_eq_true_eq] at held
  cases status : stored.state.status <;>
    simp_all [taskPairParticipantStatuses, isTerminalTaskPairStatus]

theorem heldElsewhere_iff_namesake
    (unreserved : store.isParticipantOfOpenPair session (some taskId) = false) :
    HeldElsewhere store project taskId session ↔ HeldByNamesake store project taskId session := by
  constructor
  · rintro ⟨other, member, different, held⟩
    have active := mem_listActivePairs.mpr ⟨member, active_of_holds held⟩
    have same : other.state.taskId = taskId := by
      have refused := List.any_eq_false.mp unreserved other active
      simpa [held] using refused
    refine ⟨other, member, ?_, same, held⟩
    intro sameProject
    exact different (Prod.ext sameProject same)
  · rintro ⟨other, member, elsewhere, -, held⟩
    exact ⟨other, member, fun same => elsewhere (congrArg Prod.fst same), held⟩

theorem mem_busySessions {attrs : TaskPairAttrs} {key : String}
    (role : key = "executor" ∨ key = "auditor") (named : namedSession attrs key = some session)
    (reserved : store.isParticipantOfOpenPair session (some taskId) = true) :
    session ∈ busySessions store attrs (some taskId) := by
  refine List.mem_filter.mpr ⟨?_, reserved⟩
  rcases role with rfl | rfl <;> simp [named]

theorem unreserved_of_free {host : TaskPairServiceHost} {input : ApplyMarkerInput} {key : String}
    (free : namesBusySession input.marker
      (contextOf host input (busySessions store input.marker.attrs (some taskId))) = false)
    (role : key = "executor" ∨ key = "auditor")
    (named : input.marker.attrs.named? key = some session) (real : session ≠ taskPairNoAuditor) :
    store.isParticipantOfOpenPair session (some taskId) = false := by
  by_contra reserved
  have stated : input.marker.attrs.get? key = some session := (Option.filter_eq_some_iff.mp named).1
  have busy : session ∈ busySessions store input.marker.attrs (some taskId) := by
    refine mem_busySessions role ?_ (Bool.not_eq_false _ ▸ reserved)
    simp [namedSession, named, real]
  have some_ : busySessions store input.marker.attrs (some taskId) ≠ [] :=
    List.ne_nil_of_mem busy
  simp only [namesBusySession, namedParticipantIsBusy, contextOf, if_neg some_, Option.any_some,
    Bool.or_eq_false_iff] at free
  rcases role with rfl | rfl
  · have refused := free.1
    simp [stated, busy] at refused
  · have refused := free.2
    simp [stated, busy, real] at refused

end

theorem roleIsFree_iff {store : TaskPairStore} {project taskId : String} {named kept : Option String}
    (unreserved : ∀ session, named = some session → session ≠ taskPairNoAuditor →
      store.isParticipantOfOpenPair session (some taskId) = false) :
    RoleIsFree store project taskId named kept ↔
      ∀ session, named.or kept = some session → session ≠ taskPairNoAuditor →
        ¬HeldElsewhere store project taskId session := by
  cases named with
  | none => simp [RoleIsFree]
  | some session =>
    simp only [RoleIsFree, Option.some_or, Option.some.injEq, forall_eq']
    constructor
    · intro free real
      rw [heldElsewhere_iff_namesake (unreserved session rfl real)]
      exact free real
    · intro free real
      rw [← heldElsewhere_iff_namesake (unreserved session rfl real)]
      exact free real

/-! ## The DISPATCH -/

section
variable {marker : TaskPairMarker} {ctx : TaskPairApplyContext}

theorem fate_started {existing : Option TaskPairState}
    (started : dispatchFate marker ctx existing = .started) :
    namesBusySession marker ctx = false ∧
      (startedBooking existing).status ∈ taskPairParticipantStatuses := by
  unfold dispatchFate at started
  split at started
  · cases started
  · cases existing with
    | some pair =>
      dsimp only at started
      split at started
      · cases started
      · rename_i may
        split at started
        · cases started
        · rename_i starts
          simp only [staysQueued, Bool.or_eq_true, not_or, Bool.not_eq_true] at starts
          refine ⟨starts.1, ?_⟩
          have running : isTerminalTaskPairStatus pair.status = false := by
            simp only [mayDispatch] at may
            simp_all
          cases status : pair.status <;>
            simp_all [startedBooking, booking, taskPairParticipantStatuses,
              isTerminalTaskPairStatus]
    | none =>
      dsimp only at started
      split at started
      · cases started
      · split at started
        · cases started
        · rename_i starts
          simp only [Bool.or_eq_true, not_or, Bool.not_eq_true] at starts
          exact ⟨starts.2, by decide⟩

end

section
variable {host : TaskPairServiceHost} {store : TaskPairStore} {input : ApplyMarkerInput}

theorem isDuplicateVerdictMarker_other {existing : Option StoredTaskPair} {verb : TaskPairVerb}
    (known : input.marker.knownVerb = some verb) (other : verb ∉ auditVerbs) :
    isDuplicateVerdictMarker store existing input = false := by
  unfold isDuplicateVerdictMarker
  rw [known]
  cases existing <;> simp [other]

theorem isIdempotentStarted_other {existing : TaskPairState} {transition : TaskPairTransition}
    {role : TaskPairRole} {verb : TaskPairVerb} (known : input.marker.knownVerb = some verb)
    (other : verb ≠ .started) : isIdempotentStarted input existing transition role = false := by
  simp [isIdempotentStarted, known, other]

theorem unticked_other {transition : TaskPairTransition} {pair : TaskPairState}
    {verb : TaskPairVerb}
    (other : verb ∉ [TaskPairVerb.readyForAudit, .pass, .done]) :
    shouldAutoTickChecklist host (some verb) transition pair = false := by
  unfold shouldAutoTickChecklist
  split
  · rfl
  · simp only [List.mem_cons, List.not_mem_nil, or_false, not_or] at other
    simp [other.1, other.2.1, other.2.2]

theorem markerTransition_taskId {taskId : String} {existing : Option StoredTaskPair}
    {busy : List String} {pair : TaskPairState}
    (own : ∀ stored, existing = some stored → stored.state.taskId = taskId)
    (written : (markerTransition host input (some taskId) (existing.map (·.state)) busy).pair =
      some pair) : pair.taskId = taskId := by
  apply @applyTaskPairMarker_taskId _ _ { input.marker with taskId := taskId } _ _ ?_ written
  intro before found
  obtain ⟨stored, isStored, rfl⟩ := Option.map_eq_some_iff.mp found
  exact own stored isStored

theorem putMarker_dispatch {taskId : Option String} {existing : Option StoredTaskPair}
    (known : input.marker.knownVerb = some .dispatch) :
    putMarker host store input taskId existing =
      commitTransition host store input taskId (existing.map (·.state))
        (busySessions store input.marker.attrs taskId)
        (markerTransition host input taskId (existing.map (·.state))
          (busySessions store input.marker.attrs taskId)) := by
  have effect : (markerTransition host input taskId (existing.map (·.state))
      (busySessions store input.marker.attrs taskId)).effect ≠ .duplicateReady := by
    cases taskId with
    | none => simp [markerTransition]
    | some taskId =>
      exact @dispatch_effect host.toTaskPairHost (existing.map (·.state))
        { input.marker with taskId := taskId } _ known
  unfold putMarker
  rw [if_neg (by simp [isDuplicateVerdictMarker_other known (by decide)])]
  dsimp only
  rw [if_neg, if_neg (fun duplicate => effect duplicate.2)]
  cases existing <;> simp [isIdempotentStarted_other known (by decide)]

theorem dispatch_writes {taskId : String} {existing : Option StoredTaskPair}
    (known : input.marker.knownVerb = some .dispatch)
    (own : ∀ stored, existing = some stored → stored.state.taskId = taskId)
    {pair : TaskPairState}
    (written : (markerTransition host input (some taskId) (existing.map (·.state))
      (busySessions store input.marker.attrs (some taskId))).pair = some pair) :
    ∃ saved : TaskPairState,
      Wrote store (putMarker host store input (some taskId) existing).1 input.project saved ∧
        saved.taskId = taskId ∧ saved.booking = pair.booking := by
  have identity := markerTransition_taskId own written
  rw [putMarker_dispatch known]
  obtain ⟨scheduling, flags, reason, updatedAt, wrote⟩ :=
    @commitTransition_written host store input (existing.map (·.state)) _
      (busySessions store input.marker.attrs (some taskId)) (some taskId) _ written
      (fun noted _ => known ▸ unticked_other (by decide))
  exact ⟨_, wrote, identity, rfl⟩

end

section
variable {store after : TaskPairStore} {project taskId : String}

theorem booksAlone_unwritten (same : after.pairs = store.pairs) :
    BooksAlone after project taskId ↔ BooksAlone store project taskId := by
  simp only [BooksAlone, SharesNoSession, HeldElsewhere, TaskPairStore.pairAt,
    TaskPairStore.getPair, same]

theorem booksAlone_wrote {saved : TaskPairState} (wrote : Wrote store after project saved)
    (own : saved.taskId = taskId) :
    BooksAlone after project taskId ↔ SharesNoSession store project taskId saved.booking := by
  subst own
  obtain ⟨scheduling, found⟩ := wrote.own
  have alone : BooksAlone after project saved.taskId ↔
      SharesNoSession after project saved.taskId saved.booking := by
    simp only [BooksAlone, found, Option.some.injEq, forall_eq']
    rfl
  rw [alone]
  simp only [SharesNoSession, heldElsewhere_congr wrote.others]

theorem existingPair_taskId {existing : StoredTaskPair}
    (found : existingPair store project (some taskId) = some existing) :
    store.getPair project taskId = some existing := by
  unfold existingPair at found
  by_cases unnamed : taskId = taskPairInferTaskId
  · simp [Option.filter, unnamed] at found
  · simpa [Option.filter, unnamed] using found

theorem sharesNoSession_started {attrs : TaskPairAttrs} {before : TaskPairBooking}
    (started : before.status ∈ taskPairParticipantStatuses)
    (unreserved : ∀ key, key = "executor" ∨ key = "auditor" → ∀ session,
      attrs.named? key = some session → session ≠ taskPairNoAuditor →
        store.isParticipantOfOpenPair session (some taskId) = false) :
    SharesNoSession store project taskId (before.named attrs) ↔
      ((before.named attrs).executor.isSome → (before.named attrs).auditor.isSome →
        RoleIsFree store project taskId (attrs.named? "executor") before.executor ∧
          RoleIsFree store project taskId (attrs.named? "auditor") before.auditor) := by
  rw [roleIsFree_iff (unreserved "executor" (.inl rfl)),
    roleIsFree_iff (unreserved "auditor" (.inr rfl))]
  simp only [SharesNoSession, TaskPairBooking.named, started, forall_const, List.mem_cons,
    List.not_mem_nil, or_false, Option.isSome_iff_exists]
  constructor
  · rintro alone ⟨executor, isExecutor⟩ ⟨auditor, isAuditor⟩
    have free := alone executor auditor isExecutor isAuditor
    constructor
    · intro session found
      obtain rfl := Option.some.inj (isExecutor.symm.trans found)
      exact free executor (.inl rfl)
    · intro session found
      obtain rfl := Option.some.inj (isAuditor.symm.trans found)
      exact free auditor (.inr rfl)
  · intro free executor auditor isExecutor isAuditor session member
    obtain ⟨executorFree, auditorFree⟩ := free ⟨executor, isExecutor⟩ ⟨auditor, isAuditor⟩
    rcases member with rfl | rfl
    · exact executorFree session isExecutor
    · exact auditorFree session isAuditor

end

/-- A DISPATCH leaves a started pair without a session of another one exactly when the roles
it fills by name are free of namesakes and the sessions it keeps are free of every pair. -/
theorem dispatch_books_alone_iff (host : TaskPairServiceHost) (store : TaskPairStore)
    (given : ApplyMarkerInput) (dispatches : given.marker.knownVerb = some .dispatch)
    (taskId : String) (resolved : taskIdOf store (given.configured host) = some taskId) :
    BooksAlone (applyMarker host store given).1 given.project taskId ↔
      LeavesPairAlone host store (given.configured host) taskId := by
  have known : (given.configured host).marker.knownVerb = some .dispatch := dispatches
  have applied : applyMarker host store given =
      if store.hasEvent (given.configured host).eventId then (store, .replayed)
      else putMarker host store (given.configured host) (some taskId)
        (existingPair store (given.configured host).project (some taskId)) := by
    simp only [applyMarker, resolved, known]
  have project : given.project = (given.configured host).project := rfl
  rw [applied, project]
  generalize given.configured host = input at known
  unfold LeavesPairAlone
  by_cases recorded : store.hasEvent input.eventId = true
  · simp only [recorded, if_true]
  · simp only [recorded, Bool.false_eq_true, if_false]
    have own : ∀ stored, existingPair store input.project (some taskId) = some stored →
        stored.state.taskId = taskId := fun stored found =>
      (TaskPairStore.getPair_key (existingPair_taskId found)).2
    have fate := @dispatch_followsFate host.toTaskPairHost
      ((existingPair store input.project (some taskId)).map (·.state))
      { input.marker with taskId := taskId }
      (contextOf host input (busySessions store input.marker.attrs (some taskId))) known
    generalize decided : dispatchFate { input.marker with taskId := taskId }
      (contextOf host input (busySessions store input.marker.attrs (some taskId)))
      ((existingPair store input.project (some taskId)).map (·.state)) = decision at fate ⊢
    cases decision with
    | kept =>
      cases written : (markerTransition host input (some taskId)
          ((existingPair store input.project (some taskId)).map (·.state))
          (busySessions store input.marker.attrs (some taskId))).pair with
      | none =>
        rw [putMarker_dispatch known]
        exact booksAlone_unwritten (commitTransition_unwritten written)
      | some after =>
        obtain ⟨saved, wrote, ownSaved, booking⟩ := dispatch_writes known own written
        obtain ⟨before, existed, sameBooking⟩ := fate after written
        obtain ⟨stored, isStored, rfl⟩ := Option.map_eq_some_iff.mp existed
        have found : store.pairAt input.project taskId = some stored.state := by
          rw [TaskPairStore.pairAt, existingPair_taskId isStored]
          rfl
        rw [booksAlone_wrote wrote ownSaved, booking, sameBooking]
        simp only [BooksAlone, found, Option.some.injEq, forall_eq']
    | queued =>
      obtain ⟨after, written, queued⟩ := fate
      obtain ⟨saved, wrote, ownSaved, booking⟩ := dispatch_writes known own written
      have waiting : saved.booking.status = .queued :=
        (congrArg TaskPairBooking.status booking).trans queued
      rw [booksAlone_wrote wrote ownSaved]
      simp [SharesNoSession, waiting, taskPairParticipantStatuses]
    | started =>
      obtain ⟨after, written, booked⟩ := fate
      obtain ⟨saved, wrote, ownSaved, booking⟩ := dispatch_writes known own written
      obtain ⟨free, participant⟩ := fate_started decided
      rw [booksAlone_wrote wrote ownSaved, booking, booked]
      exact sharesNoSession_started participant fun key role session named real =>
        unreserved_of_free free role named real

/-- The Brain of a project opens its pair `T1` for the sessions `x` and `y`. -/
def opensT1 (project : String) : ApplyMarkerInput :=
  plainInput (project ++ ":1") project (project ++ "_brain") .mcp 1
    (plainMarker .dispatch [("executor", "x"), ("auditor", "y")])

/-- The project `beta` has an open pair `T1` of other sessions. -/
private def betaOpen : TaskPairStore :=
  (applyMarker plainServiceHost .empty (plainInput "beta:1" "beta" "beta_brain" .mcp 1
    (plainMarker .dispatch [("executor", "u"), ("auditor", "v")]))).1

theorem dispatch_books_alone_first :
    BooksAlone (applyMarker plainServiceHost betaOpen (opensT1 "alpha")).1 "alpha" "T1" := by
  apply (dispatch_books_alone_iff plainServiceHost betaOpen (opensT1 "alpha") (by decide) "T1"
    (by decide +kernel)).mpr
  have free : ∀ other ∈ betaOpen.pairs.rows, TaskPairStore.holds other "x" = false ∧
      TaskPairStore.holds other "y" = false := by decide +kernel
  unfold LeavesPairAlone
  dsimp only
  rw [if_neg (by decide +kernel)]
  split
  · next kept => exact absurd kept (by decide +kernel)
  · trivial
  · intro _ _
    constructor
    · rintro _ ⟨other, member, _, _, held⟩
      exact absurd held (by simp [(free other member).1])
    · rintro _ ⟨other, member, _, _, held⟩
      exact absurd held (by simp [(free other member).2])

/-- Two projects have a pair `T1` of the same two sessions. -/
theorem namesakes_share_sessions :
    ¬ ∀ (host : TaskPairServiceHost) (inputs : List ApplyMarkerInput) (given : ApplyMarkerInput)
      (taskId : String), given.marker.knownVerb = some .dispatch →
      taskIdOf (run (markerStep host) .empty inputs) (given.configured host) = some taskId →
      BooksAlone (applyMarker host (run (markerStep host) .empty inputs) given).1 given.project
        taskId := by
  intro alone
  have booked := alone plainServiceHost [opensT1 "alpha"] (opensT1 "beta") "T1" (by decide)
    (by decide +kernel)
  have own : ((applyMarker plainServiceHost
      (run (markerStep plainServiceHost) .empty [opensT1 "alpha"]) (opensT1 "beta")).1.pairAt
        "beta" "T1").map (·.booking) = some ⟨.working, some "x", some "y"⟩ := by
    decide +kernel
  have holder : ((applyMarker plainServiceHost
      (run (markerStep plainServiceHost) .empty [opensT1 "alpha"]) (opensT1 "beta")).1.getPair
        "alpha" "T1").map (fun stored => (stored.project, TaskPairStore.holds stored "x")) =
      some ("alpha", true) := by
    decide +kernel
  obtain ⟨pair, isOwn, booking⟩ := Option.map_eq_some_iff.mp own
  obtain ⟨other, isOther, held⟩ := Option.map_eq_some_iff.mp holder
  simp only [Prod.mk.injEq] at held
  have shares := booked pair isOwn
  rw [booking] at shares
  refine shares (by decide) "x" "y" rfl rfl "x" (by simp) (by decide)
    ⟨other, TaskPairStore.getPair_mem isOther, ?_, held.2⟩
  intro same
  have project := congrArg Prod.fst same
  simp [StoredTaskPair.key, held.1, opensT1, plainInput] at project

end ImCodes.TaskPair
