import ImCodes.Library.Run
import ImCodes.TaskPair.Lifecycle

/-!
# Who may move a pending audit

A pair in audit, or awaiting it, belongs to its executor's READY_FOR_AUDIT and its auditor's
verdict; the Brain and the daemon may step in. The markers of other sessions, and the
auditor's own progress markers, are not kept out everywhere.
-/

set_option autoImplicit false

namespace ImCodes.TaskPair

open Library TaskPairState

section
variable (host : TaskPairHost) (pair : TaskPairState) (marker : TaskPairMarker)
  (ctx : TaskPairApplyContext)

def markedPair : TaskPairState :=
  (applyTaskPairMarker host (some pair) marker ctx).pair.getD pair

def hasAuthority : Bool :=
  (draftOf pair marker ctx).roleAuthority

/-- The marker is one by which its writer may move a pending audit. -/
def MayMoveAudit : Prop :=
  (marker.knownVerb = some .readyForAudit ∧ taskPairRoleOf (some pair) ctx.writer = .executor) ∨
  ((marker.knownVerb = some .pass ∨ marker.knownVerb = some .rework) ∧
    taskPairRoleOf (some pair) ctx.writer = .auditor ∧
    (applyTaskPairMarker host (some pair) marker ctx).effect = .verdict) ∨
  hasAuthority pair marker ctx = true

/-- The marker has no say in a pending audit: another session's, or a party's progress. -/
def HasNoSay : Prop :=
  hasAuthority pair marker ctx = false ∧
    (taskPairRoleOf (some pair) ctx.writer = .other ∨
      ((marker.knownVerb = some .started ∨ marker.knownVerb = some .working) ∧
        (taskPairRoleOf (some pair) ctx.writer = .executor ∨
          taskPairRoleOf (some pair) ctx.writer = .auditor)))

def HoldsAudit : Prop :=
  ((markedPair host pair marker ctx).status ≠ pair.status → MayMoveAudit host pair marker ctx) ∧
  (HasNoSay pair marker ctx → (markedPair host pair marker ctx).status = pair.status ∧
    (VerdictOpen pair → VerdictOpen (markedPair host pair marker ctx)))

def isSuspendedSource : Bool :=
  (ctx.source = .heartbeat || ctx.source = .queue) && isTaskPairSuspended pair

/-- The markers that move a pending audit though their writer has no part in it: progress of
anyone but the executor, another's READY_FOR_AUDIT, and a DONE where no audit is wanted. -/
def MovesUninvited : Prop :=
  marker.taskId ≠ taskPairInferTaskId ∧ hasAuthority pair marker ctx = false ∧
    isSuspendedSource pair ctx = false ∧
    ((taskPairRoleOf (some pair) ctx.writer ≠ .executor ∧
        (marker.knownVerb = some .started ∨ marker.knownVerb = some .working)) ∨
      (taskPairRoleOf (some pair) ctx.writer ≠ .executor ∧
        marker.knownVerb = some .readyForAudit ∧ pair.status = .awaitingAudit ∧
        pair.hasAudit = true ∧ mismatchedBase host pair marker.attrs ctx.now = none) ∨
      (taskPairRoleOf (some pair) ctx.writer = .executor ∧
        marker.knownVerb = some .done ∧ pair.hasAudit = false))

end

section
variable {host : TaskPairHost} {pair : TaskPairState} {marker : TaskPairMarker}
  {ctx : TaskPairApplyContext}

theorem status_of_held (held : pair.status ∈ taskPairAuditHeldStatuses) :
    pair.status = .inAudit ∨ pair.status = .awaitingAudit := by
  simpa [taskPairAuditHeldStatuses] using held

theorem guardedMarker_of_suspended (verb : TaskPairVerb)
    (suspended : isSuspendedSource pair ctx = true) :
    guardedMarker (draftOf pair marker ctx) verb ≠ none := by
  intro unguarded
  simp only [guardedMarker] at unguarded
  split at unguarded
  · cases unguarded
  · split at unguarded
    · cases unguarded
    · split at unguarded
      · cases unguarded
      · split at unguarded
        · cases unguarded
        · split at unguarded
          · cases unguarded
          · rename_i awake
            exact awake suspended

theorem guardedMarker_of_held (verb : TaskPairVerb)
    (held : pair.status ∈ taskPairAuditHeldStatuses) (other : verb ≠ .dispatch)
    (awake : isSuspendedSource pair ctx = false) :
    guardedMarker (draftOf pair marker ctx) verb = none := by
  have untitled : isTitleOnlyDispatch (draftOf pair marker ctx).marker verb = false := by
    simp [isTitleOnlyDispatch, other]
  have running : (draftOf pair marker ctx).terminal = false := by
    rcases status_of_held held with status | status <;>
      simp [Draft.terminal, draftOf, isTerminalTaskPairStatus, status]
  have waiting : pair.status ≠ .queued := by
    rcases status_of_held held with status | status <;> simp [status]
  have watched : ¬ ((decide (ctx.source = .heartbeat) || decide (ctx.source = .queue)) &&
      isTaskPairSuspended pair) = true := by
    rw [← isSuspendedSource, awake]
    simp
  unfold guardedMarker
  extract_lets existing source
  have started : existing.status ≠ .queued := waiting
  rw [if_neg (by simp [started]), if_neg (by simp [started]), if_neg (by simp [running]),
    if_neg (by simp [untitled])]
  exact if_neg watched

theorem applyTaskPairMarker_of_reached {verb : TaskPairVerb}
    (known : marker.knownVerb = some verb) (named : marker.taskId ≠ taskPairInferTaskId)
    (reached : guardedMarker (draftOf pair marker ctx) verb = none) :
    applyTaskPairMarker host (some pair) marker ctx =
      applyVerb host (touched (draftOf pair marker ctx) verb) verb := by
  simp [applyTaskPairMarker, known, named, applyToPair, reached]

theorem markedPair_of_unjudged {meets : AuditRecord → Prop}
    (unjudged : Unjudged (applyTaskPairMarker host (some pair) marker ctx) meets)
    (unchanged : meets pair.audit) : meets (markedPair host pair marker ctx).audit := by
  unfold markedPair
  cases written : (applyTaskPairMarker host (some pair) marker ctx).pair with
  | none => exact unchanged
  | some after => exact unjudged.writes after written

theorem verdictOpen_of_audit {before after : TaskPairState} (same : after.audit = before.audit)
    (opened : VerdictOpen before) : VerdictOpen after := by
  simp only [audit, AuditRecord.mk.injEq] at same
  simpa [VerdictOpen, hasAudit, same] using opened

theorem holdsAudit_of_same (same : (markedPair host pair marker ctx).audit = pair.audit) :
    HoldsAudit host pair marker ctx := by
  have status : (markedPair host pair marker ctx).status = pair.status :=
    congrArg AuditRecord.status same
  exact ⟨fun moved => absurd status moved, fun _ => ⟨status, verdictOpen_of_audit same⟩⟩

theorem holdsAudit_of_authority (authorised : hasAuthority pair marker ctx = true) :
    HoldsAudit host pair marker ctx := by
  refine ⟨fun _ => .inr (.inr authorised), ?_⟩
  rintro ⟨unauthorised, -⟩
  simp [authorised] at unauthorised

/-! ## The markers that move it -/

theorem isHistorical_of_running {draft : Draft} (verb : TaskPairVerb)
    (running : draft.terminal = false) (unpassed : draft.pair.status ≠ .passed) :
    isHistorical draft verb = false ∧ reopensPassed draft verb = false := by
  simp [isHistorical, reopensPassed, running, unpassed]

theorem touched_of_unauthorised (verb : TaskPairVerb)
    (unauthorised : hasAuthority pair marker ctx = false) :
    (touched (draftOf pair marker ctx) verb).pair.audit = pair.audit :=
  touched_same (draftOf pair marker ctx) verb (.inl unauthorised)

theorem applyProgress_moves {draft : Draft} (verb : TaskPairVerb)
    (unguarded : isGuardedProgress draft = false)
    (undecided : draft.pair.status ≠ .awaitingBrainDecision) :
    ∃ after, (applyProgress draft verb).pair = some after ∧ after.status = .working := by
  unfold applyProgress
  extract_lets existing guarded status noted announced
  rw [if_neg (by simpa [isGuardedProgress] using unguarded), if_neg undecided]
  split
  · exact ⟨_, rfl, rfl⟩
  · exact ⟨_, rfl, rfl⟩

theorem openAuditRound_writes (draft : Draft) :
    ∃ after, (openAuditRound draft).pair = some after ∧ after.status = .inAudit := by
  have written : (openAuditRound draft).pair.isSome = true := by
    unfold openAuditRound
    extract_lets status noted announced opened
    split <;> rfl
  obtain ⟨after, same⟩ := Option.isSome_iff_exists.mp written
  have audit := (openAuditRound_unjudged draft).writes after same
  exact ⟨after, same, congrArg AuditRecord.status audit⟩

theorem applyReady_opens {draft : Draft} (audited : draft.pair.hasAudit = true)
    (matched : mismatchedBase host draft.pair draft.marker.attrs draft.ctx.now = none)
    (before : draft.existing.status ≠ .inAudit) (closed : draft.pair.status ≠ .inAudit) :
    ∃ after, (applyReady host draft).pair = some after ∧ after.status = .inAudit := by
  have fresh : isDuplicateReady host draft = false := by simp [isDuplicateReady, before]
  unfold applyReady
  extract_lets attrs now
  rw [if_neg (by simp [audited]), show mismatchedBase host draft.pair attrs now = none from matched]
  dsimp only
  rw [if_neg (by simp [fresh]), if_neg closed]
  exact openAuditRound_writes _

theorem applyDone_reports {draft : Draft} (running : draft.terminal = false)
    (unwanted : draft.pair.hasAudit = false) (executor : draft.role = .executor)
    (unauthorised : draft.roleAuthority = false)
    (undecided : draft.pair.status ≠ .awaitingBrainDecision) :
    ∃ after, (applyDone draft).pair = some after ∧ after.status = .awaitingBrainDecision := by
  unfold applyDone
  extract_lets attrs stated close hasAudit
  rw [if_neg (by simp [running]), if_neg (by simp [running]), if_neg (by simp [executor]),
    if_neg (by simp [hasAudit, unwanted]), if_neg (by simp [unauthorised]),
    if_pos (by simp [hasAudit, unwanted, executor, undecided])]
  exact ⟨_, rfl, rfl⟩

section
variable {verb : TaskPairVerb} (named : marker.taskId ≠ taskPairInferTaskId)
  (unauthorised : hasAuthority pair marker ctx = false)
  (running : isTerminalTaskPairStatus pair.status = false) (unpassed : pair.status ≠ .passed)
  (undecided : pair.status ≠ .awaitingBrainDecision)
include named unauthorised running unpassed

theorem applyTaskPairMarker_of_running (known : marker.knownVerb = some verb)
    (reached : guardedMarker (draftOf pair marker ctx) verb = none) :
    applyTaskPairMarker host (some pair) marker ctx =
        applyVerb host (touched (draftOf pair marker ctx) verb) verb ∧
      isHistorical (touched (draftOf pair marker ctx) verb) verb = false ∧
      reopensPassed (touched (draftOf pair marker ctx) verb) verb = false ∧
      (touched (draftOf pair marker ctx) verb).pair.status = pair.status ∧
      (touched (draftOf pair marker ctx) verb).pair.auditor = pair.auditor := by
  have same := touched_of_unauthorised verb unauthorised
  have status : (touched (draftOf pair marker ctx) verb).pair.status = pair.status :=
    congrArg AuditRecord.status same
  have open_ : (touched (draftOf pair marker ctx) verb).terminal = false := by
    simpa [Draft.terminal, draftOf] using running
  obtain ⟨timely, kept⟩ := isHistorical_of_running verb open_ (by rwa [status])
  exact ⟨applyTaskPairMarker_of_reached known named reached, timely, kept, status,
    congrArg AuditRecord.auditor same⟩

include undecided

theorem markedPair_of_progress (known : marker.knownVerb = some verb)
    (progress : verb = .started ∨ verb = .working)
    (reached : guardedMarker (draftOf pair marker ctx) verb = none)
    (free : isGuardedProgress (draftOf pair marker ctx) = false) :
    (markedPair host pair marker ctx).status = .working := by
  obtain ⟨applied, timely, kept, status, -⟩ := @applyTaskPairMarker_of_running host _ _ _ verb
    named unauthorised running unpassed known reached
  have isProgress : applyTaskPairMarker host (some pair) marker ctx =
      applyProgress (touched (draftOf pair marker ctx) verb) verb := by
    rw [applied]
    rcases progress with rfl | rfl <;> simp [applyVerb, timely, kept]
  have unguarded : isGuardedProgress (touched (draftOf pair marker ctx) verb) = false := by
    simpa [isGuardedProgress] using free
  obtain ⟨after, written, working⟩ := applyProgress_moves verb unguarded (by rwa [status])
  simp [markedPair, isProgress, written, working]

theorem markedPair_of_done (known : marker.knownVerb = some .done)
    (reached : guardedMarker (draftOf pair marker ctx) .done = none)
    (executor : taskPairRoleOf (some pair) ctx.writer = .executor)
    (unwanted : pair.hasAudit = false) :
    (markedPair host pair marker ctx).status = .awaitingBrainDecision := by
  obtain ⟨applied, timely, kept, status, auditor⟩ := @applyTaskPairMarker_of_running host _ _ _
    .done named unauthorised running unpassed known reached
  have isDone : applyTaskPairMarker host (some pair) marker ctx =
      applyDone (touched (draftOf pair marker ctx) .done) := by
    rw [applied]
    simp [applyVerb, timely, kept]
  have open_ : (touched (draftOf pair marker ctx) .done).terminal = false := by
    simpa [Draft.terminal, draftOf] using running
  obtain ⟨after, written, reported⟩ := @applyDone_reports
    (touched (draftOf pair marker ctx) .done) open_
    (by simpa [TaskPairState.hasAudit, auditor] using unwanted)
    (by simpa [draftOf] using executor) ((touched_roleAuthority _ _).trans unauthorised)
    (by simpa [status])
  simp [markedPair, isDone, written, reported]

omit undecided

theorem markedPair_of_ready (known : marker.knownVerb = some .readyForAudit)
    (reached : guardedMarker (draftOf pair marker ctx) .readyForAudit = none)
    (closed : pair.status ≠ .inAudit) (audited : pair.hasAudit = true)
    (matched : mismatchedBase host pair marker.attrs ctx.now = none) :
    (markedPair host pair marker ctx).status = .inAudit := by
  obtain ⟨applied, timely, kept, status, auditor⟩ := @applyTaskPairMarker_of_running host _ _ _
    .readyForAudit named unauthorised running unpassed known reached
  have isReady : applyTaskPairMarker host (some pair) marker ctx =
      applyReady host (touched (draftOf pair marker ctx) .readyForAudit) := by
    rw [applied]
    simp [applyVerb, timely, kept]
  have roundBase : (touched (draftOf pair marker ctx) .readyForAudit).pair.roundBase =
      pair.roundBase := (touched_workspace (draftOf pair marker ctx) .readyForAudit).1
  have still : mismatchedBase host (touched (draftOf pair marker ctx) .readyForAudit).pair
      (touched (draftOf pair marker ctx) .readyForAudit).marker.attrs
      (touched (draftOf pair marker ctx) .readyForAudit).ctx.now = none := by
    unfold mismatchedBase at matched ⊢
    rw [roundBase, touched_marker, touched_ctx]
    exact matched
  obtain ⟨after, written, inAudit⟩ := @applyReady_opens host
    (touched (draftOf pair marker ctx) .readyForAudit)
    (by simpa [TaskPairState.hasAudit, auditor] using audited) still
    (by simpa [draftOf] using closed) (by rwa [status])
  simp [markedPair, isReady, written, inAudit]

end

theorem running_of_held (held : pair.status ∈ taskPairAuditHeldStatuses) :
    isTerminalTaskPairStatus pair.status = false ∧ pair.status ≠ .passed ∧
      pair.status ≠ .awaitingBrainDecision := by
  rcases status_of_held held with status | status <;> simp [isTerminalTaskPairStatus, status]

/-! ## Everyone else -/

theorem AuditChange.same_of_executor_progress {verb : TaskPairVerb} {before after : AuditRecord}
    (change : AuditChange host (draftOf pair marker ctx) verb before after)
    (progress : verb = .started ∨ verb = .working)
    (held : pair.status ∈ taskPairAuditHeldStatuses)
    (unauthorised : hasAuthority pair marker ctx = false)
    (executor : taskPairRoleOf (some pair) ctx.writer = .executor) : after = before := by
  have guarded : isGuardedProgress (draftOf pair marker ctx) = true := by
    have role : (draftOf pair marker ctx).role = .executor := executor
    have noAuthority : (draftOf pair marker ctx).roleAuthority = false := unauthorised
    have status : (draftOf pair marker ctx).existing.status ∈ taskPairAuditHeldStatuses := held
    simp [isGuardedProgress, role, noAuthority, status]
  cases change with
  | kept => rfl
  | steered authorised steered =>
    have authority : hasAuthority pair marker ctx = true := authorised
    simp [authority] at unauthorised
  | admitted authorised dispatch admits => rcases progress with rfl | rfl <;> cases dispatch
  | cancelled authorised =>
    have authority : hasAuthority pair marker ctx = true := authorised
    simp [authority] at unauthorised
  | progressed progress unguarded reached => simp [guarded] at unguarded
  | submitted ready accepted submits => rcases progress with rfl | rfl <;> cases ready
  | reopened authorised passed reopened =>
    have authority : hasAuthority pair marker ctx = true := authorised
    simp [authority] at unauthorised
  | finished finish reached finishes => rcases progress with rfl | rfl <;> cases finish

theorem holdsAudit_of_submits {material : Option TaskPairMaterial}
    (known : marker.knownVerb = some .readyForAudit)
    (submits : Submits material pair.audit (markedPair host pair marker ctx).audit)
    (entitled : taskPairRoleOf (some pair) ctx.writer = .executor ∨ pair.status = .inAudit) :
    HoldsAudit host pair marker ctx := by
  by_cases inAudit : pair.status = .inAudit
  · rcases submits with ⟨-, same⟩ | ⟨closed, -⟩
    · simp only [audit, AuditRecord.mk.injEq] at same
      refine ⟨fun moved => absurd same.1 moved, fun _ => ⟨same.1, ?_⟩⟩
      rintro ⟨audited, -, submitted⟩
      refine ⟨by simpa [TaskPairState.hasAudit, same] using audited, same.1.trans inAudit, ?_⟩
      rw [same.2.2.2.2.2.1]
      cases material with
      | none => exact submitted
      | some written => rfl
    · exact absurd inAudit closed
  · have executor := entitled.resolve_right inAudit
    refine ⟨fun _ => .inl ⟨known, executor⟩, ?_⟩
    rintro ⟨-, other | ⟨progress, -⟩⟩
    · simp [other] at executor
    · simp [known] at progress

theorem holdsAudit_of_verdict {verb : TaskPairVerb} {verdictVerb : TaskPairVerdictVerb}
    {after : TaskPairState} (known : marker.knownVerb = some verb)
    (unauthorised : hasAuthority pair marker ctx = false)
    (gives : GivesVerdict (draftOf pair marker ctx) verb
      (applyTaskPairMarker host (some pair) marker ctx) verdictVerb after) :
    HoldsAudit host pair marker ctx := by
  have auditor : taskPairRoleOf (some pair) ctx.writer = .auditor := by
    rcases gives.permitted with auditor | authorised
    · exact auditor
    · have authority : hasAuthority pair marker ctx = true := authorised
      simp [authority] at unauthorised
  have verdictKnown : marker.knownVerb = some .pass ∨ marker.knownVerb = some .rework := by
    rw [known, gives.verb_eq]
    cases verdictVerb with
    | pass => exact .inl rfl
    | rework => exact .inr rfl
  have marked : markedPair host pair marker ctx = after := by
    simp [markedPair, gives.written]
  constructor
  · intro moved
    obtain ⟨verdict, -, -, ⟨-, -, same⟩ | ⟨-, applied, -⟩⟩ := gives.judged
    · rw [marked] at moved
      exact absurd (congrArg AuditRecord.status same) moved
    · exact .inr (.inl ⟨verdictKnown, auditor, applied⟩)
  · rintro ⟨-, other | ⟨progress, -⟩⟩
    · simp [other] at auditor
    · rcases verdictKnown with isVerdict | isVerdict <;> simp [isVerdict] at progress

theorem holdsAudit_of_suspended {verb : TaskPairVerb}
    (applied : applyTaskPairMarker host (some pair) marker ctx =
      applyToPair host pair verb marker ctx)
    (suspended : isSuspendedSource pair ctx = true) : HoldsAudit host pair marker ctx := by
  obtain ⟨transition, guarded⟩ :=
    Option.ne_none_iff_exists'.mp (@guardedMarker_of_suspended pair marker ctx verb suspended)
  have stopped : applyTaskPairMarker host (some pair) marker ctx = transition := by
    simp [applied, applyToPair, guarded]
  have kept := guardedMarker_unjudged guarded
  rw [← stopped] at kept
  exact holdsAudit_of_same (markedPair_of_unjudged kept rfl)

theorem holdsAudit_of_change {verb : TaskPairVerb} {next : AuditRecord}
    (held : pair.status ∈ taskPairAuditHeldStatuses)
    (invited : ¬ MovesUninvited host pair marker ctx)
    (authority : hasAuthority pair marker ctx = false)
    (awake : isSuspendedSource pair ctx = false) (known : marker.knownVerb = some verb)
    (named : marker.taskId ≠ taskPairInferTaskId)
    (changed : (markedPair host pair marker ctx).audit = next)
    (change : AuditChange host (draftOf pair marker ctx) verb pair.audit next) :
    HoldsAudit host pair marker ctx := by
  have uninvited := fun moves => invited ⟨named, authority, awake, moves⟩
  have unauthorised : (draftOf pair marker ctx).roleAuthority = false := authority
  by_cases executor : taskPairRoleOf (some pair) ctx.writer = .executor
  · by_cases progress : verb = .started ∨ verb = .working
    · exact holdsAudit_of_same
        (changed.trans (change.same_of_executor_progress progress held authority executor))
    · cases change with
      | kept => exact holdsAudit_of_same changed
      | steered authorised steered => simp [unauthorised] at authorised
      | admitted authorised dispatch admits => simp [unauthorised] at authorised
      | cancelled authorised => simp [unauthorised] at authorised
      | progressed progressing unguarded reached => exact absurd progressing progress
      | submitted ready accepted submits =>
        rw [← changed] at submits
        exact holdsAudit_of_submits (ready ▸ known) submits (.inl executor)
      | reopened authorised passed reopened => simp [unauthorised] at authorised
      | finished finish reached finishes =>
        rcases finishes with ⟨authorised | passed, -⟩ | ⟨unwanted, -, -, -⟩
        · simp [unauthorised] at authorised
        · rcases status_of_held held with status | status <;> simp [audit, status] at passed
        · refine absurd (.inr (.inr ⟨executor, finish ▸ known, ?_⟩)) uninvited
          have unnamed : pair.auditor = some taskPairNoAuditor := unwanted
          simp [hasAudit, unnamed]
  · cases change with
    | kept => exact holdsAudit_of_same changed
    | steered authorised steered => simp [unauthorised] at authorised
    | admitted authorised dispatch admits => simp [unauthorised] at authorised
    | cancelled authorised => simp [unauthorised] at authorised
    | progressed progress unguarded reached =>
      refine absurd (.inl ⟨executor, ?_⟩) uninvited
      rcases progress with rfl | rfl
      · exact .inl known
      · exact .inr known
    | submitted ready accepted submits =>
      rw [← changed] at submits
      rcases status_of_held held with inAudit | awaiting
      · exact holdsAudit_of_submits (ready ▸ known) submits (.inr inAudit)
      · refine absurd (.inr (.inl ⟨executor, ready ▸ known, awaiting, ?_⟩)) uninvited
        simp only [acceptsReady, Bool.and_eq_true, Option.isNone_iff_eq_none] at accepted
        exact ⟨accepted.1.2, accepted.2⟩
    | reopened authorised passed reopened => simp [unauthorised] at authorised
    | finished finish reached finishes =>
      rcases finishes with ⟨authorised | passed, -⟩ | ⟨-, byExecutor, -, -⟩
      · simp [unauthorised] at authorised
      · rcases status_of_held held with status | status <;> simp [audit, status] at passed
      · exact absurd byExecutor executor

theorem holdsAudit_of_invited (held : pair.status ∈ taskPairAuditHeldStatuses)
    (invited : ¬ MovesUninvited host pair marker ctx) : HoldsAudit host pair marker ctx := by
  cases authority : hasAuthority pair marker ctx with
  | true => exact holdsAudit_of_authority authority
  | false =>
    rcases applyTaskPairMarker_cases host (some pair) marker ctx with
      ⟨unwritten, -⟩ | ⟨verb, known, named, ⟨impossible, -⟩ | ⟨existing, found, applied⟩⟩
    · exact holdsAudit_of_same (by simp [markedPair, unwritten])
    · cases impossible
    · cases found
      cases suspended : isSuspendedSource pair ctx with
      | true => exact holdsAudit_of_suspended applied suspended
      | false =>
        rcases applyToPair_cases host pair verb marker ctx with
          unjudged | ⟨verdictVerb, after, gives⟩
        · rw [← applied] at unjudged
          exact holdsAudit_of_change held invited authority suspended known named rfl
            (markedPair_of_unjudged unjudged .kept)
        · rw [← applied] at gives
          exact holdsAudit_of_verdict known authority gives

theorem not_holdsAudit_of_uninvited (held : pair.status ∈ taskPairAuditHeldStatuses)
    (uninvited : MovesUninvited host pair marker ctx) : ¬ HoldsAudit host pair marker ctx := by
  obtain ⟨named, unauthorised, awake, moves⟩ := uninvited
  obtain ⟨running, unpassed, undecided⟩ := running_of_held held
  rintro ⟨movers, -⟩
  rcases moves with ⟨outsider, progress⟩ | ⟨outsider, ready, awaiting, audited, matched⟩ |
    ⟨executor, done, unwanted⟩
  · have free : isGuardedProgress (draftOf pair marker ctx) = false := by
      have role : (draftOf pair marker ctx).role ≠ .executor := outsider
      simp [isGuardedProgress, role]
    have moved : (markedPair host pair marker ctx).status = .working := by
      rcases progress with known | known
      · exact markedPair_of_progress named unauthorised running unpassed undecided known (.inl rfl)
          (guardedMarker_of_held _ held (by simp) awake) free
      · exact markedPair_of_progress named unauthorised running unpassed undecided known (.inr rfl)
          (guardedMarker_of_held _ held (by simp) awake) free
    have left : (markedPair host pair marker ctx).status ≠ pair.status := by
      rcases status_of_held held with status | status <;> simp [moved, status]
    rcases movers left with ⟨ready, -⟩ | ⟨verdict, -⟩ | authorised
    · rcases progress with known | known <;> simp [known] at ready
    · rcases progress with known | known <;> simp [known] at verdict
    · simp [unauthorised] at authorised
  · have moved : (markedPair host pair marker ctx).status = .inAudit :=
      markedPair_of_ready named unauthorised running unpassed ready
        (guardedMarker_of_held _ held (by simp) awake) (by simp [awaiting]) audited matched
    rcases movers (by simp [moved, awaiting]) with ⟨-, executor⟩ | ⟨verdict, -⟩ | authorised
    · exact outsider executor
    · simp [ready] at verdict
    · simp [unauthorised] at authorised
  · have moved : (markedPair host pair marker ctx).status = .awaitingBrainDecision :=
      markedPair_of_done named unauthorised running unpassed undecided done
        (guardedMarker_of_held _ held (by simp) awake) executor unwanted
    have left : (markedPair host pair marker ctx).status ≠ pair.status := by
      rcases status_of_held held with status | status <;> simp [moved, status]
    rcases movers left with ⟨ready, -⟩ | ⟨verdict, -⟩ | authorised
    · simp [done] at ready
    · simp [done] at verdict
    · simp [unauthorised] at authorised

end

/-- A pending audit is moved only by those who may exactly where nobody moves it uninvited. -/
theorem pending_audit_held_iff (host : TaskPairHost) (pair : TaskPairState)
    (marker : TaskPairMarker) (ctx : TaskPairApplyContext)
    (held : pair.status ∈ taskPairAuditHeldStatuses) :
    HoldsAudit host pair marker ctx ↔ ¬ MovesUninvited host pair marker ctx :=
  ⟨fun holds uninvited => not_holdsAudit_of_uninvited held uninvited holds,
    holdsAudit_of_invited held⟩

def submittedPair : TaskPairState :=
  (run (pairStep plainHost) none submittedSteps).getD
    (newPair "T1" "brain" (plainContext "brain" .marker) .queued)

theorem pending_audit_held_iff_executor_working :
    HoldsAudit plainHost submittedPair (plainMarker .working []) (plainContext "exec" .marker) := by
  have executor : taskPairRoleOf (some submittedPair) (plainContext "exec" .marker).writer =
      .executor := by decide +kernel
  refine (pending_audit_held_iff plainHost submittedPair (plainMarker .working [])
    (plainContext "exec" .marker) (by decide +kernel)).mpr ?_
  rintro ⟨-, -, -, ⟨outsider, -⟩ | ⟨outsider, -⟩ | ⟨-, done, -⟩⟩
  · exact outsider executor
  · exact outsider executor
  · cases done

/-- The auditor's own WORKING takes the pair out of the audit it is to judge. -/
theorem auditor_working_voids_audit :
    submittedPair.status ∈ taskPairAuditHeldStatuses ∧
      ¬ HoldsAudit plainHost submittedPair (plainMarker .working [])
        (plainContext "aud" .marker) := by
  have held : submittedPair.status ∈ taskPairAuditHeldStatuses := by decide +kernel
  refine ⟨held, not_holdsAudit_of_uninvited held ⟨by decide, by decide +kernel,
    by decide +kernel, .inl ⟨by decide +kernel, .inr rfl⟩⟩⟩

end ImCodes.TaskPair
