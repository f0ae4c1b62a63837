import ImCodes.TaskPair.DoubleBooking

/-!
# Markers that only leave a note

Where a pair stands: its status and round, its roles, its brief, its material and its verdict.
Many markers are recorded and, at most, noted on the pair for their writer's sake, and some may
come twice without a difference.
-/

set_option autoImplicit false

namespace ImCodes.TaskPair

open Library TaskPairState

structure TaskPairStanding where
  audit : AuditRecord
  brain : String
  executor : Option String
  brief : Option String
  workspace : Option TaskPairWorkspace

namespace TaskPairState

variable (pair : TaskPairState)

def standing : TaskPairStanding where
  audit := pair.audit
  brain := pair.brain
  executor := pair.executor
  brief := pair.brief
  workspace := pair.workspace

@[simp] theorem standing_clearSideFlags (role : TaskPairRole) (all : Bool) :
    (pair.clearSideFlags role all).standing = pair.standing := by
  simp only [clearSideFlags]
  split <;> split <;> rfl

@[simp] theorem standing_spendCap (reason : TaskPairCappedReason) :
    (pair.spendCap reason).2.1.standing = pair.standing := by
  obtain ⟨_, _, _, changes⟩ := pair.spendCap_changes reason
  rw [changes]
  rfl

theorem standing_resolveTaskPairBrainWait (now : Int) (writer : String) (note : Option String)
    (decided : pair.status ≠ .awaitingBrainDecision) :
    (pair.resolveTaskPairBrainWait now writer note).standing = pair.standing := by
  simp [resolveTaskPairBrainWait, removeFlag, standing, audit, decided]

end TaskPairState

theorem touched_standing (draft : Draft) (verb : TaskPairVerb)
    (stays : draft.roleAuthority = false ∨ verb ∉ resolvingVerbs ∨
      draft.pair.status ≠ .awaitingBrainDecision) :
    (touched draft verb).pair.standing = draft.pair.standing := by
  unfold touched
  extract_lets stamped cleared
  have clearedStanding : cleared.pair.standing = draft.pair.standing := by
    simp only [cleared]
    split
    · exact standing_clearSideFlags _ _ _
    · rfl
  split
  · rename_i resolves
    simp only [Bool.and_eq_true, List.contains_iff_mem] at resolves
    have clearedStatus : cleared.pair.status = draft.pair.status :=
      congrArg (fun standing => standing.audit.status) clearedStanding
    have decided : cleared.pair.status ≠ .awaitingBrainDecision := by
      rw [clearedStatus]
      rcases stays with unauthorised | other | decided
      · simp [unauthorised] at resolves
      · exact absurd resolves.2 other
      · exact decided
    exact (standing_resolveTaskPairBrainWait _ _ _ _ decided).trans clearedStanding
  · exact clearedStanding

/-! ## Recorded and noted -/

/-- The marker is recorded and no pair written. -/
structure IsRecordedOnly (transition : TaskPairTransition) : Prop where
  unwritten : transition.pair = none
  effect : transition.effect ≠ .duplicateReady

/-- The pair is written, if at all, with the standing it had. -/
structure IsNoted (pair : TaskPairState) (transition : TaskPairTransition) : Prop where
  standing : ∀ after, transition.pair = some after → after.standing = pair.standing
  toStatus : transition.toStatus = some pair.status
  effect : transition.effect ≠ .duplicateReady

section
variable {draft : Draft}

theorem isRecordedOnly_keep : IsRecordedOnly draft.keep := ⟨rfl, by simp [Draft.keep, recorded]⟩

theorem isRecordedOnly_keepQuietly : IsRecordedOnly draft.keepQuietly :=
  ⟨rfl, by simp [Draft.keepQuietly, recorded]⟩

theorem isNoted_keep : IsNoted draft.existing draft.keep :=
  ⟨by simp [Draft.keep, recorded], rfl, by simp [Draft.keep, recorded]⟩

theorem isNoted_keepQuietly : IsNoted draft.existing draft.keepQuietly :=
  ⟨by simp [Draft.keepQuietly, recorded], rfl, by simp [Draft.keepQuietly, recorded]⟩

theorem isNoted_reject {text : String}
    (same : draft.pair.standing = draft.existing.standing) :
    IsNoted draft.existing (draft.reject text) := by
  have effect := reject_effect draft text
  have spent := (standing_spendCap draft.pair .policyRejection).trans same
  refine ⟨?_, ?_, by simp [effect]⟩
  · unfold Draft.reject
    generalize draft.pair.spendCap .policyRejection = spending at spent
    obtain ⟨allowed, counted, notices⟩ := spending
    dsimp only at spent ⊢
    split
    · intro after written
      cases written
      exact spent
    · intro after written
      cases written
  · unfold Draft.reject
    generalize draft.pair.spendCap .policyRejection = spending at spent
    obtain ⟨allowed, counted, notices⟩ := spending
    dsimp only at spent ⊢
    split
    · exact congrArg some (congrArg (fun standing => standing.audit.status) spent)
    · rfl

theorem isNoted_holdPass {held : TaskPairMaterialHold}
    (same : draft.pair.standing = draft.existing.standing) :
    IsNoted draft.existing (holdPass draft held) := by
  unfold holdPass
  extract_lets blocked
  have rejected : IsNoted draft.existing blocked := isNoted_reject same
  split
  · exact ⟨rejected.standing, rejected.toStatus, rejected.effect⟩
  · exact rejected

theorem isNoted_noticeClosed : IsNoted draft.existing (noticeClosed draft) := by
  simp only [noticeClosed]
  split
  · exact isNoted_keep
  · refine ⟨?_, rfl, by simp⟩
    intro after written
    cases written
    rfl

theorem isNoted_guardedMarker {verb : TaskPairVerb} {transition : TaskPairTransition}
    (guarded : guardedMarker draft verb = some transition) :
    IsNoted draft.existing transition := by
  simp only [guardedMarker] at guarded
  split at guarded
  · cases guarded
    exact isNoted_keep
  · split at guarded
    · cases guarded
      exact ⟨by simp [recorded], rfl, by simp [recorded]⟩
    · split at guarded
      · cases guarded
        exact isNoted_noticeClosed
      · split at guarded
        · cases guarded
          unfold updateTitle
          split
          · split
            · refine ⟨?_, rfl, by simp⟩
              intro after written
              cases written
              rfl
            · exact isNoted_keep
          · exact isNoted_keep
        · split at guarded
          · cases guarded
            exact isNoted_keepQuietly
          · cases guarded

end

/-! ## Markers that may come twice -/

def unrecordedVerbs : List TaskPairVerb := [.started, .readyForAudit, .pass, .rework]

section
variable (host : TaskPairHost) (pair : TaskPairState) (marker : TaskPairMarker)
  (ctx : TaskPairApplyContext)

/-- The pair is past the marker, or not yet at it: it is recorded without a word. -/
def IsIgnored (verb : TaskPairVerb) : Prop :=
  let role := taskPairRoleOf (some pair) ctx.writer
  (isTerminalTaskPairStatus pair.status = true ∧
    (verb = .pass ∨ hasAuthority pair marker ctx = true)) ∨
  (pair.status = .passed ∧ ¬(role = .brain ∧ (verb = .started ∨ verb = .rework))) ∨
  (pair.status = .queued ∧ (verb = .started ∨ verb = .readyForAudit) ∧ ctx.source ≠ .queue ∧
    hasAuthority pair marker ctx = false) ∨
  isSuspendedSource pair ctx = true ∨
  (verb = .readyForAudit ∧ isTerminalTaskPairStatus pair.status = false ∧
    pair.hasAudit = false)

/-- A STARTED that finds the pair at work, or may not take it out of its audit or away from
its Brain. -/
def IsIdleStarted : Prop :=
  let role := taskPairRoleOf (some pair) ctx.writer
  pair.status = .working ∨
  ((pair.status = .inAudit ∨ pair.status = .awaitingAudit) ∧ role = .executor ∧
    hasAuthority pair marker ctx = false) ∨
  (pair.status = .awaitingBrainDecision ∧ role ≠ .executor ∧
    hasAuthority pair marker ctx = false)

/-- A verdict without an open round that its writer may judge. -/
def IsIdleVerdict (verb : TaskPairVerdictVerb) : Prop :=
  pair.status ≠ .passed ∧
  (¬VerdictOpen pair ∨
    (taskPairRoleOf (some pair) ctx.writer ≠ .auditor ∧ hasAuthority pair marker ctx = false) ∨
    (verb = .pass ∧ pair.materialHold.isSome = true))

/-- The marker is answered, at most, with a note on the pair. -/
def IsRefused (verb : TaskPairVerb) : Prop :=
  isTerminalTaskPairStatus pair.status = true ∨
  match verb with
  | .started => IsIdleStarted pair marker ctx
  | .readyForAudit => (mismatchedBase host pair marker.attrs ctx.now).isSome = true
  | .pass => IsIdleVerdict pair marker ctx .pass
  | .rework => IsIdleVerdict pair marker ctx .rework
  | _ => False

end

section
variable {host : TaskPairHost} {pair : TaskPairState} {marker : TaskPairMarker}
  {ctx : TaskPairApplyContext} {verb : TaskPairVerb}

theorem guardedMarker_recordedOnly {transition : TaskPairTransition}
    (guarded : guardedMarker (draftOf pair marker ctx) verb = some transition)
    (undispatched : verb ≠ .dispatch)
    (unclosed : isTerminalTaskPairStatus pair.status = false ∨ verb = .pass ∨
      hasAuthority pair marker ctx = true) :
    IsRecordedOnly transition := by
  simp only [guardedMarker] at guarded
  split at guarded
  · cases guarded
    exact isRecordedOnly_keep
  · split at guarded
    · cases guarded
      exact ⟨rfl, by simp [recorded]⟩
    · split at guarded
      · rename_i closed
        have terminal : (draftOf pair marker ctx).terminal =
          isTerminalTaskPairStatus pair.status := rfl
        have authority : (draftOf pair marker ctx).roleAuthority = hasAuthority pair marker ctx :=
          rfl
        simp only [terminal, authority, Bool.and_eq_true, Bool.not_eq_true'] at closed
        rcases unclosed with open_ | pass | authorised
        · simp [open_] at closed
        · simp [pass] at closed
        · simp [authorised] at closed
      · split at guarded
        · rename_i titled
          simp [isTitleOnlyDispatch, undispatched] at titled
        · split at guarded
          · cases guarded
            exact isRecordedOnly_keepQuietly
          · cases guarded

theorem guardedMarker_awake (reached : guardedMarker (draftOf pair marker ctx) verb = none) :
    isSuspendedSource pair ctx = false := by
  simp only [guardedMarker] at reached
  split at reached
  · cases reached
  · split at reached
    · cases reached
    · split at reached
      · cases reached
      · split at reached
        · cases reached
        · split at reached
          · cases reached
          · rename_i awake
            exact Bool.eq_false_iff.mpr awake

theorem applyToPair_eq :
    applyToPair host pair verb marker ctx =
      match guardedMarker (draftOf pair marker ctx) verb with
      | some transition => transition
      | none => applyVerb host (touched (draftOf pair marker ctx) verb) verb := rfl

theorem applyVerb_historical (member : verb ∈ unrecordedVerbs)
    (past : isTerminalTaskPairStatus pair.status = true ∨ (pair.status = .passed ∧
      ¬(taskPairRoleOf (some pair) ctx.writer = .brain ∧ (verb = .started ∨ verb = .rework)))) :
    applyVerb host (touched (draftOf pair marker ctx) verb) verb =
      (touched (draftOf pair marker ctx) verb).keep := by
  have decided : pair.status ≠ .awaitingBrainDecision := by
    rcases past with terminal | passed
    · intro awaiting
      simp [awaiting, isTerminalTaskPairStatus] at terminal
    · simp [passed.1]
  have same : (touched (draftOf pair marker ctx) verb).pair.standing = pair.standing :=
    touched_standing _ _ (.inr (.inr decided))
  have status : (touched (draftOf pair marker ctx) verb).pair.status = pair.status :=
    congrArg (fun standing => standing.audit.status) same
  have historical : isHistorical (touched (draftOf pair marker ctx) verb) verb = true := by
    have listed : [TaskPairVerb.started, .working, .readyForAudit, .pass, .rework,
        .check].contains verb = true := by
      revert member
      cases verb <;> decide
    simp only [isHistorical, listed, Bool.true_and, Bool.or_eq_true]
    rcases past with terminal | ⟨passed, notBrain⟩
    · left
      simpa [Draft.terminal, draftOf] using terminal
    · right
      have role : (touched (draftOf pair marker ctx) verb).role =
          taskPairRoleOf (some pair) ctx.writer := by
        simp [draftOf]
      have closedTo : reopensPassed (touched (draftOf pair marker ctx) verb) verb = false := by
        by_contra reopens
        simp only [reopensPassed, role, Bool.not_eq_false, Bool.and_eq_true,
          decide_eq_true_eq] at reopens
        refine notBrain ⟨reopens.1.2, ?_⟩
        revert member reopens
        cases verb <;> simp [unrecordedVerbs]
      simp [status, passed, closedTo]
  unfold applyVerb
  rw [if_pos historical]

theorem applyToPair_ignored (member : verb ∈ unrecordedVerbs)
    (ignored : IsIgnored pair marker ctx verb) :
    IsRecordedOnly (applyToPair host pair verb marker ctx) := by
  have undispatched : verb ≠ .dispatch := by
    rintro rfl
    exact absurd member (by decide)
  rw [applyToPair_eq]
  cases guarded : guardedMarker (draftOf pair marker ctx) verb with
  | some transition =>
    refine guardedMarker_recordedOnly guarded undispatched ?_
    rcases ignored with closed | passed | queued | suspended | unaudited
    · exact .inr closed.2
    · simp [passed.1, isTerminalTaskPairStatus]
    · simp [queued.1, isTerminalTaskPairStatus]
    · left
      simp only [isSuspendedSource, isTaskPairSuspended, Bool.and_eq_true] at suspended
      simpa using suspended.2.1
    · exact .inl unaudited.2.1
  | none =>
    dsimp only
    rcases ignored with closed | passed | queued | suspended | unaudited
    · rw [applyVerb_historical member (.inl closed.1)]
      exact isRecordedOnly_keep
    · rw [applyVerb_historical member (.inr passed)]
      exact isRecordedOnly_keep
    · obtain ⟨isQueued, progress, elsewhere, unauthorised⟩ := queued
      have admitted := (guardedMarker_queued isQueued guarded).2.2
        (by rcases progress with rfl | rfl <;> simp)
      rcases admitted with fromQueue | ⟨authorised, -⟩
      · exact absurd fromQueue elsewhere
      · simp [unauthorised] at authorised
    · simp [guardedMarker_awake guarded] at suspended
    · obtain ⟨rfl, open_, noAudit⟩ := unaudited
      have same := touched_standing (draftOf pair marker ctx) .readyForAudit
        (.inr (.inl (by decide)))
      have noAuditor : (touched (draftOf pair marker ctx) .readyForAudit).pair.hasAudit =
          false := by
        have auditor : (touched (draftOf pair marker ctx) .readyForAudit).pair.auditor =
            pair.auditor := congrArg (fun standing => standing.audit.auditor) same
        simpa [TaskPairState.hasAudit, auditor] using noAudit
      unfold applyVerb
      split
      · exact isRecordedOnly_keep
      · rename_i current
        rw [if_neg (by simp [reopensPassed])]
        simp only [applyReady, noAuditor, Bool.not_false, if_true]
        exact isRecordedOnly_keep

theorem touched_facts
    (stays : hasAuthority pair marker ctx = false ∨ verb ∉ resolvingVerbs ∨
      pair.status ≠ .awaitingBrainDecision) :
    (touched (draftOf pair marker ctx) verb).existing = pair ∧
      (touched (draftOf pair marker ctx) verb).pair.standing = pair.standing ∧
      (touched (draftOf pair marker ctx) verb).role = taskPairRoleOf (some pair) ctx.writer ∧
      (touched (draftOf pair marker ctx) verb).roleAuthority = hasAuthority pair marker ctx ∧
      (touched (draftOf pair marker ctx) verb).terminal =
        isTerminalTaskPairStatus pair.status ∧
      (touched (draftOf pair marker ctx) verb).marker = marker ∧
      (touched (draftOf pair marker ctx) verb).ctx = ctx := by
  refine ⟨by simp [draftOf], touched_standing _ _ stays, by simp [draftOf], ?_, ?_,
    by simp [draftOf], by simp [draftOf]⟩
  · rw [touched_roleAuthority]
    rfl
  · rw [touched_terminal]
    rfl

theorem applyProgress_idle {draft : Draft} (idle : IsIdleStarted draft.existing marker ctx)
    (same : draft.pair.standing = draft.existing.standing)
    (role : draft.role = taskPairRoleOf (some draft.existing) ctx.writer)
    (authority : draft.roleAuthority = hasAuthority draft.existing marker ctx) :
    IsNoted draft.existing (applyProgress draft .started) := by
  have status : draft.pair.status = draft.existing.status :=
    congrArg (fun standing => standing.audit.status) same
  unfold applyProgress
  extract_lets existing answer current noted announced
  by_cases guarded : (draft.role = .executor && !draft.roleAuthority &&
      taskPairAuditHeldStatuses.contains existing.status) = true
  · rw [if_pos guarded]
    split
    · exact ⟨by simp [answer, recorded], rfl, by simp⟩
    · refine ⟨?_, rfl, by simp⟩
      intro after written
      cases written
      rfl
  · rw [if_neg guarded]
    rcases idle with working | held | ⟨awaiting, stranger, unauthorised⟩
    · have pairWorking : draft.pair.status = .working := status.trans working
      have running : draft.terminal = false := by
        simp [Draft.terminal, working, isTerminalTaskPairStatus]
      have sameDraft : announced.existing = draft.existing ∧ announced.pair = draft.pair := by
        simp only [announced, running, Bool.false_eq_true, if_false]
        exact ⟨rfl, rfl⟩
      rw [if_neg (by simp [pairWorking]), if_neg (by simp [current, pairWorking, running])]
      refine ⟨?_, ?_, by simp [Draft.done]⟩
      · intro after written
        cases written
        simp only [Draft.update, sameDraft.2]
        rw [← same]
        simp only [standing, audit, pairWorking]
      · simp [Draft.done, Draft.update, working]
    · exfalso
      obtain ⟨pending, executor, unauthorised⟩ := held
      apply guarded
      rw [role, executor, authority, unauthorised]
      rcases pending with inAudit | awaitingAudit
      · simp [existing, inAudit, taskPairAuditHeldStatuses]
      · simp [existing, awaitingAudit, taskPairAuditHeldStatuses]
    · rw [if_pos (status.trans awaiting), if_neg]
      · exact isNoted_reject same
      · simp [role, stranger, authority, unauthorised]

theorem applyVerdictMarker_idle {draft : Draft} {verdict : TaskPairVerdictVerb}
    (idle : IsIdleVerdict draft.existing marker ctx verdict)
    (same : draft.pair.standing = draft.existing.standing)
    (role : draft.role = taskPairRoleOf (some draft.existing) ctx.writer)
    (authority : draft.roleAuthority = hasAuthority draft.existing marker ctx) :
    IsNoted draft.existing (applyVerdictMarker host draft verdict) := by
  have audit : draft.pair.audit = draft.existing.audit := congrArg TaskPairStanding.audit same
  have open_ : VerdictOpen draft.pair ↔ VerdictOpen draft.existing := by
    have auditor : draft.pair.auditor = draft.existing.auditor := congrArg AuditRecord.auditor audit
    have status : draft.pair.status = draft.existing.status := congrArg AuditRecord.status audit
    have material : draft.pair.material = draft.existing.material :=
      congrArg AuditRecord.material audit
    simp [VerdictOpen, TaskPairState.hasAudit, auditor, status, material]
  unfold applyVerdictMarker
  extract_lets text
  split
  · exact isNoted_reject same
  · rename_i opened
    split
    · exact isNoted_reject same
    · rename_i permitted
      rcases idle.2 with closed | stranger | held
      · exfalso
        apply closed
        rw [← open_]
        simp only [not_or, Bool.not_eq_true', Bool.not_eq_false, ne_eq, not_not,
          Option.isNone_iff_eq_none] at opened
        exact ⟨opened.1, opened.2.1, by simpa [Option.isSome_iff_ne_none] using opened.2.2⟩
      · exfalso
        apply permitted
        simp [role, stranger.1, authority, stranger.2]
      · obtain ⟨rfl, isHeld⟩ := held
        have hold : draft.pair.materialHold = draft.existing.materialHold :=
          congrArg AuditRecord.materialHold audit
        rw [← hold] at isHeld
        obtain ⟨material, found⟩ := Option.isSome_iff_exists.mp isHeld
        simp only [found]
        exact isNoted_holdPass same

theorem applyReady_mismatched {draft : Draft}
    (mismatched : (mismatchedBase host draft.pair draft.marker.attrs draft.ctx.now).isSome = true)
    (same : draft.pair.standing = draft.existing.standing) :
    IsNoted draft.existing (applyReady host draft) := by
  unfold applyReady
  extract_lets attrs now
  split
  · exact isNoted_keep
  · split
    · exact isNoted_reject same
    · rename_i matching
      simp [attrs, now, matching] at mismatched

theorem touched_ready :
    mismatchedBase host (touched (draftOf pair marker ctx) verb).pair marker.attrs ctx.now =
        mismatchedBase host pair marker.attrs ctx.now ∧
      isDuplicateReady host (touched (draftOf pair marker ctx) verb) =
        isDuplicateReady host (draftOf pair marker ctx) := by
  obtain ⟨roundBase, kind, workspace⟩ := touched_workspace (draftOf pair marker ctx) verb
  constructor
  · simp only [mismatchedBase, roundBase]
    rfl
  · simp only [isDuplicateReady, readyCandidate, touched_existing, touched_marker, touched_ctx,
      roundBase, workspace]

theorem applyToPair_refused (member : verb ∈ unrecordedVerbs)
    (refused : IsRefused host pair marker ctx verb) :
    IsNoted pair (applyToPair host pair verb marker ctx) := by
  rw [applyToPair_eq]
  cases guarded : guardedMarker (draftOf pair marker ctx) verb with
  | some transition => exact isNoted_guardedMarker guarded
  | none =>
    dsimp only
    have kept : IsNoted pair (touched (draftOf pair marker ctx) verb).keep := by
      have keep := @isNoted_keep (touched (draftOf pair marker ctx) verb)
      rwa [touched_existing] at keep
    rcases refused with closed | refused
    · rw [applyVerb_historical member (.inl closed)]
      exact kept
    · unfold applyVerb
      split
      · exact kept
      · rename_i current
        cases verb with
        | started =>
          have stays : hasAuthority pair marker ctx = false ∨
              TaskPairVerb.started ∉ resolvingVerbs ∨
              pair.status ≠ .awaitingBrainDecision := by
            rcases refused with working | held | stranger
            · exact .inr (.inr (by simp [working]))
            · exact .inl held.2.2
            · exact .inl stranger.2.2
          obtain ⟨existing, same, role, authority, -⟩ := touched_facts stays
          generalize touched (draftOf pair marker ctx) .started = draft at *
          subst existing
          have status : draft.pair.status = draft.existing.status :=
            congrArg (fun standing => standing.audit.status) same
          rw [if_neg]
          · exact applyProgress_idle refused same role authority
          · have unpassed : draft.existing.status ≠ .passed := by
              rcases refused with working | held | stranger
              · simp [working]
              · rcases held.1 with inAudit | awaitingAudit
                · simp [inAudit]
                · simp [awaitingAudit]
              · simp [stranger.1]
            simp [reopensPassed, status, unpassed]
        | readyForAudit =>
          obtain ⟨existing, same, -, -, -, sameMarker, sameCtx⟩ :=
            @touched_facts pair marker ctx .readyForAudit (.inr (.inl (by decide)))
          have mismatched := (@touched_ready host pair marker ctx .readyForAudit).1
          generalize touched (draftOf pair marker ctx) .readyForAudit = draft at *
          subst existing
          rw [if_neg (by simp [reopensPassed])]
          refine applyReady_mismatched ?_ same
          rw [sameMarker, sameCtx, mismatched]
          exact refused
        | pass =>
          obtain ⟨existing, same, role, authority, -⟩ :=
            @touched_facts pair marker ctx .pass (.inr (.inl (by decide)))
          generalize touched (draftOf pair marker ctx) .pass = draft at *
          subst existing
          rw [if_neg (by simp [reopensPassed])]
          exact applyVerdictMarker_idle refused same role authority
        | rework =>
          obtain ⟨existing, same, role, authority, -⟩ :=
            @touched_facts pair marker ctx .rework (.inr (.inl (by decide)))
          generalize touched (draftOf pair marker ctx) .rework = draft at *
          subst existing
          have status : draft.pair.status = draft.existing.status :=
            congrArg (fun standing => standing.audit.status) same
          rw [if_neg (by simp [reopensPassed, status, refused.1])]
          exact applyVerdictMarker_idle refused same role authority
        | _ => exact refused.elim

theorem applyToPair_duplicate
    (matching : mismatchedBase host pair marker.attrs ctx.now = none)
    (duplicate : isDuplicateReady host (draftOf pair marker ctx) = true) :
    (applyToPair host pair .readyForAudit marker ctx).pair = none := by
  have status : pair.status = .inAudit := by
    simp only [isDuplicateReady, Bool.and_eq_true, decide_eq_true_eq] at duplicate
    exact duplicate.1.1
  rw [applyToPair_eq]
  cases guarded : guardedMarker (draftOf pair marker ctx) .readyForAudit with
  | some transition =>
    exact (guardedMarker_recordedOnly guarded (by simp)
      (.inl (by simp [status, isTerminalTaskPairStatus]))).unwritten
  | none =>
    obtain ⟨sameBase, sameDuplicate⟩ := @touched_ready host pair marker ctx .readyForAudit
    dsimp only
    unfold applyVerb
    split
    · rfl
    · rw [if_neg (by simp [reopensPassed])]
      unfold applyReady
      extract_lets attrs now
      have noMismatch : mismatchedBase host
          (touched (draftOf pair marker ctx) .readyForAudit).pair attrs now = none := by
        simpa [attrs, now, draftOf] using sameBase.trans matching
      dsimp only
      split
      · rfl
      · rw [noMismatch, sameDuplicate, duplicate]
        rfl

end

end ImCodes.TaskPair
