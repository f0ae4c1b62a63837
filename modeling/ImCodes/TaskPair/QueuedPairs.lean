import ImCodes.TaskPair.HeldAudits

/-!
# How a queued pair starts

A queued pair is to start through the scheduler's admission, or by the word of its Brain or
the daemon. DONE is the verb whose guard is missing, and a participant's progress marker is
let through if its source is the queue.
-/

set_option autoImplicit false

namespace ImCodes.TaskPair

open Library TaskPairState

section
variable (pair : TaskPairState) (marker : TaskPairMarker) (ctx : TaskPairApplyContext)

def IsAdmission : Prop :=
  (marker.knownVerb = some .dispatch ∧ ctx.source = .queue) ∨
    (hasAuthority pair marker ctx = true ∧ ctx.source ≠ .implicitDispatch)

/-- A marker without authority that takes a queued pair from the queue: the executor's DONE
where no audit is wanted, and progress under the queue's own source. -/
def JumpsQueue (host : TaskPairHost) : Prop :=
  marker.taskId ≠ taskPairInferTaskId ∧ hasAuthority pair marker ctx = false ∧
    isSuspendedSource pair ctx = false ∧ (truthy pair.executor).isSome = true ∧
    ((marker.knownVerb = some .done ∧ pair.hasAudit = false ∧
        taskPairRoleOf (some pair) ctx.writer = .executor) ∨
      (ctx.source = .queue ∧
        (marker.knownVerb = some .started ∨ marker.knownVerb = some .working)) ∨
      (ctx.source = .queue ∧ marker.knownVerb = some .readyForAudit ∧ pair.hasAudit = true ∧
        mismatchedBase host pair marker.attrs ctx.now = none))

end

section
variable {host : TaskPairHost} {pair : TaskPairState} {marker : TaskPairMarker}
  {ctx : TaskPairApplyContext}

/-! ## What the guards let through -/

theorem guardedMarker_queued {verb : TaskPairVerb} (queued : pair.status = .queued)
    (reached : guardedMarker (draftOf pair marker ctx) verb = none) :
    isSuspendedSource pair ctx = false ∧
    (hasAuthority pair marker ctx = false →
      verb ∈ [TaskPairVerb.started, .working, .readyForAudit, .done] →
      (truthy pair.executor).isSome = true) ∧
    (verb ∈ [TaskPairVerb.started, .working, .readyForAudit] →
      ctx.source = .queue ∨
        (hasAuthority pair marker ctx = true ∧ ctx.source ≠ .implicitDispatch)) := by
  unfold guardedMarker at reached
  extract_lets existing source at reached
  have existingQueued : existing.status = .queued := queued
  split at reached
  · cases reached
  · rename_i driven
    split at reached
    · cases reached
    · rename_i admitted
      split at reached
      · cases reached
      · split at reached
        · cases reached
        · split at reached
          · cases reached
          · rename_i awake
            refine ⟨Bool.eq_false_iff.mpr awake, ?_, ?_⟩
            · intro unauthorised progress
              have noAuthority : (draftOf pair marker ctx).roleAuthority = false := unauthorised
              simp only [existingQueued, noAuthority, List.contains_iff_mem.mpr progress,
                decide_true, Bool.not_false, Bool.and_true, Bool.true_and,
                Option.isNone_iff_eq_none] at driven
              exact Option.isSome_iff_ne_none.mpr driven
            · intro progress
              by_cases fromQueue : ctx.source = .queue
              · exact .inl fromQueue
              · right
                have other : source ≠ .queue := fromQueue
                simp [existingQueued, other] at admitted
                exact admitted (by simpa using progress)

theorem guardedMarker_of_queued {verb : TaskPairVerb} (queued : pair.status = .queued)
    (driven : (truthy pair.executor).isSome = true) (awake : isSuspendedSource pair ctx = false)
    (other : verb ≠ .dispatch) (admitted : verb = .done ∨ ctx.source = .queue) :
    guardedMarker (draftOf pair marker ctx) verb = none := by
  have untitled : isTitleOnlyDispatch (draftOf pair marker ctx).marker verb = false := by
    simp [isTitleOnlyDispatch, other]
  have running : (draftOf pair marker ctx).terminal = false := by
    simp [Draft.terminal, draftOf, isTerminalTaskPairStatus, queued]
  have present : (truthy pair.executor).isNone = false := by
    cases found : truthy pair.executor with
    | none => simp [found] at driven
    | some executor => rfl
  unfold guardedMarker
  extract_lets existing source
  have executor : (truthy existing.executor).isNone = false := present
  have heard : source ≠ .queue → verb = .done := fun elsewhere =>
    admitted.resolve_right elsewhere
  rw [if_neg (by simp [executor]), if_neg, if_neg (by simp [running]),
    if_neg (by simp [untitled]), if_neg]
  · exact Bool.eq_false_iff.mp awake
  · intro stopped
    simp only [Bool.and_eq_true, decide_eq_true_eq] at stopped
    have done := heard stopped.1.1.2
    simp [done] at stopped

/-! ## What a marker does to a queued pair -/

theorem isAdmission_of_authority (authority : hasAuthority pair marker ctx = true)
    (source : ctx.source = .queue ∨
      (hasAuthority pair marker ctx = true ∧ ctx.source ≠ .implicitDispatch)) :
    IsAdmission pair marker ctx := by
  refine .inr ⟨authority, ?_⟩
  rcases source with fromQueue | ⟨-, explicit⟩
  · simp [fromQueue]
  · exact explicit

theorem source_of_unauthorised (unauthorised : hasAuthority pair marker ctx = false)
    (source : ctx.source = .queue ∨
      (hasAuthority pair marker ctx = true ∧ ctx.source ≠ .implicitDispatch)) :
    ctx.source = .queue := by
  rcases source with fromQueue | ⟨authorised, -⟩
  · exact fromQueue
  · simp [unauthorised] at authorised

theorem AuditChange.of_queued {verb : TaskPairVerb} {before after : AuditRecord}
    (change : AuditChange host (draftOf pair marker ctx) verb before after)
    (same : pair.audit = before) (queued : pair.status = .queued)
    (known : marker.knownVerb = some verb) (named : marker.taskId ≠ taskPairInferTaskId) :
    after.status = .queued ∨
      (hasAuthority pair marker ctx = true ∧
        (after.status ∈ [TaskPairStatus.done, .cancelled] ∨ IsAdmission pair marker ctx)) ∨
      JumpsQueue pair marker ctx host := by
  subst same
  have waiting : pair.audit.status = .queued := queued
  cases change with
  | kept => exact .inl waiting
  | steered authorised steered =>
    obtain ⟨status, auditor, rfl | ⟨-, started⟩ | rfl, rfl⟩ := steered
    · exact .inl rfl
    · exact absurd waiting started
    · exact .inl waiting
  | admitted authorised dispatch admits =>
    exact .inr (.inl ⟨authorised, .inr (.inl ⟨dispatch ▸ known, admits.1⟩)⟩)
  | cancelled authorised => exact .inr (.inl ⟨authorised, .inl (by simp)⟩)
  | progressed progress unguarded reached =>
    obtain ⟨awake, driven, source⟩ := guardedMarker_queued queued reached
    have starts : verb ∈ [TaskPairVerb.started, .working, .readyForAudit] := by
      rcases progress with rfl | rfl <;> simp
    cases authority : hasAuthority pair marker ctx with
    | true => exact .inr (.inl ⟨rfl, .inr (isAdmission_of_authority authority (source starts))⟩)
    | false =>
      have fromQueue := source_of_unauthorised authority (source starts)
      refine .inr (.inr ⟨named, authority, awake, driven authority ?_, .inr (.inl
        ⟨fromQueue, ?_⟩)⟩)
      · rcases progress with rfl | rfl <;> simp
      · rcases progress with rfl | rfl
        · exact .inl known
        · exact .inr known
  | submitted ready accepted submits =>
    subst ready
    simp only [acceptsReady, Bool.and_eq_true, Option.isNone_iff_eq_none] at accepted
    obtain ⟨⟨⟨⟨reached, -⟩, -⟩, audited⟩, matched⟩ := accepted
    obtain ⟨awake, driven, source⟩ := guardedMarker_queued queued reached
    have starts : TaskPairVerb.readyForAudit ∈
        [TaskPairVerb.started, .working, .readyForAudit] := by simp
    cases authority : hasAuthority pair marker ctx with
    | true => exact .inr (.inl ⟨rfl, .inr (isAdmission_of_authority authority (source starts))⟩)
    | false =>
      have fromQueue := source_of_unauthorised authority (source starts)
      exact .inr (.inr ⟨named, authority, awake, driven authority (by simp), .inr (.inr
        ⟨fromQueue, known, audited, matched⟩)⟩)
  | reopened authorised passed reopened => exact absurd (waiting.symm.trans passed) (by simp)
  | finished finish reached finishes =>
    rcases finishes with ⟨authorised | passed, rfl⟩ | ⟨unwanted, executor, unauthorised, -⟩
    · exact .inr (.inl ⟨authorised, .inl (by simp)⟩)
    · exact absurd (waiting.symm.trans passed) (by simp)
    · obtain ⟨awake, driven, -⟩ := guardedMarker_queued queued reached
      have unnamed : pair.auditor = some taskPairNoAuditor := unwanted
      exact .inr (.inr ⟨named, unauthorised, awake,
        driven unauthorised (by simp [finish]), .inl ⟨finish ▸ known,
          by simp [hasAudit, unnamed], executor⟩⟩)

theorem markedPair_of_queued (queued : pair.status = .queued) :
    (markedPair host pair marker ctx).status = .queued ∨
      (hasAuthority pair marker ctx = true ∧
        ((markedPair host pair marker ctx).status ∈ [TaskPairStatus.done, .cancelled] ∨
          IsAdmission pair marker ctx)) ∨
      JumpsQueue pair marker ctx host := by
  rcases applyTaskPairMarker_cases host (some pair) marker ctx with
    ⟨unwritten, -⟩ | ⟨verb, known, named, ⟨impossible, -⟩ | ⟨existing, found, applied⟩⟩
  · exact .inl (by simp [markedPair, unwritten, queued])
  · cases impossible
  · cases found
    rcases applyToPair_cases host pair verb marker ctx with
      unjudged | ⟨verdictVerb, after, gives⟩
    · rw [← applied] at unjudged
      have change := markedPair_of_unjudged unjudged .kept
      exact change.of_queued rfl queued known named
    · have opened : pair.status = .inAudit := gives.opened.2.1
      exact absurd (queued.symm.trans opened) (by simp)

theorem markedPair_of_jump (queued : pair.status = .queued)
    (jumps : JumpsQueue pair marker ctx host) :
    (markedPair host pair marker ctx).status ∈ taskPairOpenStatuses ∧
      ¬ IsAdmission pair marker ctx := by
  obtain ⟨named, unauthorised, awake, driven, moves⟩ := jumps
  have running : isTerminalTaskPairStatus pair.status = false := by
    simp [isTerminalTaskPairStatus, queued]
  have unpassed : pair.status ≠ .passed := by simp [queued]
  have undecided : pair.status ≠ .awaitingBrainDecision := by simp [queued]
  constructor
  · rcases moves with ⟨done, unwanted, executor⟩ | ⟨fromQueue, progress⟩ |
      ⟨fromQueue, ready, audited, matched⟩
    · have reported := @markedPair_of_done host _ _ _ named unauthorised running unpassed
        undecided done (guardedMarker_of_queued queued driven awake (by simp) (.inl rfl)) executor
        unwanted
      simp [reported, taskPairOpenStatuses]
    · have free : isGuardedProgress (draftOf pair marker ctx) = false := by
        have status : (draftOf pair marker ctx).existing.status = .queued := queued
        simp [isGuardedProgress, status, taskPairAuditHeldStatuses]
      have working : (markedPair host pair marker ctx).status = .working := by
        rcases progress with known | known
        · exact markedPair_of_progress named unauthorised running unpassed undecided known
            (.inl rfl) (guardedMarker_of_queued queued driven awake (by simp) (.inr fromQueue))
            free
        · exact markedPair_of_progress named unauthorised running unpassed undecided known
            (.inr rfl) (guardedMarker_of_queued queued driven awake (by simp) (.inr fromQueue))
            free
      simp [working, taskPairOpenStatuses]
    · have opened := @markedPair_of_ready host _ _ _ named unauthorised running unpassed ready
        (guardedMarker_of_queued queued driven awake (by simp) (.inr fromQueue))
        (by simp [queued]) audited matched
      simp [opened, taskPairOpenStatuses]
  · rintro (⟨dispatch, -⟩ | ⟨authorised, -⟩)
    · rcases moves with ⟨done, -⟩ | ⟨-, progress | progress⟩ | ⟨-, ready, -⟩
      · simp [done] at dispatch
      · simp [progress] at dispatch
      · simp [progress] at dispatch
      · simp [ready] at dispatch
    · simp [unauthorised] at authorised

end

/-! ## Runs -/

section
variable (host : TaskPairHost)

def MarksQueued (pair : Option TaskPairState) (step : PairStep) (existing : TaskPairState)
    (marker : TaskPairMarker) (ctx : TaskPairApplyContext) : Prop :=
  pair = some existing ∧ existing.status = .queued ∧ step = .marker marker ctx

def OpensByAdmission (pair : Option TaskPairState) (step : PairStep) : Prop :=
  ∀ existing marker ctx, MarksQueued pair step existing marker ctx →
    (markedPair host existing marker ctx).status ∈ taskPairOpenStatuses →
    IsAdmission existing marker ctx

def IsUnauthorised (pair : Option TaskPairState) (step : PairStep) : Prop :=
  ∀ existing marker ctx, pair = some existing → step = .marker marker ctx →
    hasAuthority existing marker ctx = false

def IsOpen (pair : Option TaskPairState) : Prop :=
  ∃ opened, pair = some opened ∧ opened.status ∈ taskPairOpenStatuses

def IsQueued (pair : Option TaskPairState) : Prop :=
  ∃ queued, pair = some queued ∧ queued.status = .queued

/-- In a run a queued pair starts by admission only, and no sequence of steps by participants
and other sessions opens it. -/
def StartsByAdmission (steps : List PairStep) : Prop :=
  Meets (pairStep host) (OpensByAdmission host) none steps ∧
    ∀ first second rest, steps = first ++ second ++ rest →
      IsQueued (run (pairStep host) none first) →
      Meets (pairStep host) IsUnauthorised (run (pairStep host) none first) second →
      ¬ IsOpen (run (pairStep host) none (first ++ second))

def JumpsQueueStep (pair : Option TaskPairState) (step : PairStep) : Prop :=
  ∃ existing marker ctx, MarksQueued pair step existing marker ctx ∧
    JumpsQueue existing marker ctx host

end

section
variable {host : TaskPairHost}

theorem opensByAdmission_iff (pair : Option TaskPairState) (step : PairStep) :
    OpensByAdmission host pair step ↔ ¬ JumpsQueueStep host pair step := by
  constructor
  · rintro opens ⟨existing, marker, ctx, marks, jumps⟩
    obtain ⟨opened, unadmitted⟩ := markedPair_of_jump marks.2.1 jumps
    exact unadmitted (opens existing marker ctx marks opened)
  · intro waits existing marker ctx marks opened
    rcases @markedPair_of_queued host existing marker ctx marks.2.1 with
      queued | ⟨-, closed | admitted⟩ | jumps
    · simp [queued, taskPairOpenStatuses] at opened
    · simp only [List.mem_cons, List.not_mem_nil, or_false] at closed
      rcases closed with closed | closed <;> simp [closed, taskPairOpenStatuses] at opened
    · exact admitted
    · exact absurd ⟨existing, marker, ctx, marks, jumps⟩ waits

theorem pairStep_marker (pair : TaskPairState) (marker : TaskPairMarker)
    (ctx : TaskPairApplyContext) :
    pairStep host (some pair) (.marker marker ctx) = some (markedPair host pair marker ctx) := by
  simp only [pairStep, TaskPairTransition.after, markedPair]
  cases (applyTaskPairMarker host (some pair) marker ctx).pair <;> rfl

theorem isQueued_step {pair : Option TaskPairState} {step : PairStep} (queued : IsQueued pair)
    (unauthorised : IsUnauthorised pair step) (waits : ¬ JumpsQueueStep host pair step) :
    IsQueued (pairStep host pair step) := by
  obtain ⟨existing, rfl, status⟩ := queued
  cases step with
  | marker marker ctx =>
    have noAuthority := unauthorised existing marker ctx rfl rfl
    refine ⟨_, pairStep_marker existing marker ctx, ?_⟩
    rcases @markedPair_of_queued host existing marker ctx status with
      queued | ⟨authorised, -⟩ | jumps
    · exact queued
    · simp [noAuthority] at authorised
    · exact absurd ⟨existing, marker, ctx, ⟨rfl, status, rfl⟩, jumps⟩ waits
  | workspace workspace now => exact ⟨_, rfl, status⟩
  | scheduling scheduling now => exact ⟨_, rfl, status⟩
  | holdMaterial head base now =>
    refine ⟨_, rfl, ?_⟩
    obtain ⟨hold, -, held⟩ := holdMaterialOutsideBase_held host existing head base now
    exact (congrArg AuditRecord.status held).trans status

theorem isQueued_run {pair : Option TaskPairState} {steps : List PairStep} (queued : IsQueued pair)
    (unauthorised : Meets (pairStep host) IsUnauthorised pair steps)
    (waits : Meets (pairStep host) (fun pair step => ¬ JumpsQueueStep host pair step) pair steps) :
    IsQueued (run (pairStep host) pair steps) := by
  induction steps generalizing pair with
  | nil => exact queued
  | cons step rest ih =>
    exact ih (isQueued_step queued unauthorised.1 waits.1) unauthorised.2 waits.2

theorem not_isOpen_of_isQueued {pair : Option TaskPairState} (queued : IsQueued pair) :
    ¬ IsOpen pair := by
  rintro ⟨opened, found, status⟩
  obtain ⟨existing, same, waiting⟩ := queued
  cases found.symm.trans same
  simp [waiting, taskPairOpenStatuses] at status

end

/-- In a run queued pairs start by admission only exactly where no step jumps the queue. -/
theorem queued_pairs_start_by_admission_iff (host : TaskPairHost) (steps : List PairStep) :
    StartsByAdmission host steps ↔
      Meets (pairStep host) (fun pair step => ¬ JumpsQueueStep host pair step) none steps := by
  constructor
  · intro starts
    exact starts.1.mono fun pair step opens => (opensByAdmission_iff pair step).mp opens
  · intro waits
    refine ⟨waits.mono fun pair step waiting => (opensByAdmission_iff pair step).mpr waiting, ?_⟩
    intro first second rest split queued unauthorised
    subst split
    obtain ⟨-, afterFirst⟩ := meets_append.mp (meets_append.mp waits).1
    rw [run_append]
    exact not_isOpen_of_isQueued (isQueued_run queued unauthorised afterFirst)

/-- A pair queued for `exec` whose Brain wants no audit. -/
def unauditedQueueSteps : List PairStep :=
  [writes "brain" .queue [("executor", "exec"), ("auditor", "none")] .marker]

def unauditedQueued : TaskPairState :=
  (run (pairStep plainHost) none unauditedQueueSteps).getD
    (newPair "T1" "brain" (plainContext "brain" .marker) .done)

/-- The executor's DONE opens the queued pair; its WORKING would then start the work. -/
theorem executor_done_jumps_queue :
    ¬ StartsByAdmission plainHost (unauditedQueueSteps ++ [writes "exec" .done [] .marker]) := by
  intro starts
  have ran : run (pairStep plainHost) none unauditedQueueSteps = some unauditedQueued := by
    decide +kernel
  have jumps : JumpsQueue unauditedQueued (plainMarker .done []) (plainContext "exec" .marker)
      plainHost :=
    ⟨by decide, by decide +kernel, by decide +kernel, by decide +kernel,
      .inl ⟨rfl, by decide +kernel, by decide +kernel⟩⟩
  have opens := (meets_append.mp starts.1).2.1
  exact (opensByAdmission_iff _ _).mp opens
    ⟨unauditedQueued, _, _, ⟨ran, by decide +kernel, rfl⟩, jumps⟩

end ImCodes.TaskPair
