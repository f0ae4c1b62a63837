import ImCodes.Library.Run
import ImCodes.TaskPair.Lifecycle

/-!
# No audited pair finishes unearned

A passed pair has the PASS of its own round, on material that is there and not held; a pair
with an auditor is done only from there, or by its Brain's word, which leaves a mark.
-/

set_option autoImplicit false

namespace ImCodes.TaskPair

open Library TaskPairState

/-- The PASS that a passed pair rests on. -/
structure EarnedPass (pair : TaskPairState) : Prop where
  passRound : pair.passRound = some pair.round
  lastVerdict : ∃ verdict, pair.lastVerdict = some verdict ∧ verdict.verb = .pass ∧
    verdict.round = pair.round ∧ isAppliedVerdict verdict.judgement = true
  material : pair.material.isSome = true
  unheld : pair.materialHold = none

def PassedIsEarned (pair : TaskPairState) : Prop :=
  pair.status = .passed → EarnedPass pair

section
variable {before after : TaskPairState}

theorem EarnedPass.of_audit (earned : EarnedPass before) (auditor : Option String)
    (same : after.audit = { before.audit with auditor := auditor }) : EarnedPass after := by
  simp only [audit, AuditRecord.mk.injEq] at same
  obtain ⟨-, -, round, passRound, lastVerdict, material, materialHold⟩ := same
  constructor
  · rw [passRound, round, earned.passRound]
  · rw [lastVerdict, round]
    exact earned.lastVerdict
  · rw [material]
    exact earned.material
  · rw [materialHold]
    exact earned.unheld

theorem passedIsEarned_of_status (open_ : after.audit.status ≠ .passed) : PassedIsEarned after :=
  fun passed => absurd passed open_

theorem AuditChange.passedIsEarned {host : TaskPairHost} {draft : Draft} {verb : TaskPairVerb}
    (change : AuditChange host draft verb before.audit after.audit)
    (earned : PassedIsEarned before) : PassedIsEarned after := by
  generalize changed : after.audit = next at change
  cases change with
  | kept =>
    intro passed
    have status : before.status = .passed :=
      (congrArg AuditRecord.status changed).symm.trans passed
    exact (earned status).of_audit before.auditor changed
  | steered authorised steered =>
    obtain ⟨status, auditor, opened, rfl⟩ := steered
    have statusEq : after.status = status := congrArg AuditRecord.status changed
    rcases opened with rfl | ⟨rfl, -⟩ | rfl
    · exact passedIsEarned_of_status (by simp [changed])
    · exact passedIsEarned_of_status (by simp [changed])
    · intro passed
      exact (earned (statusEq.symm.trans passed)).of_audit auditor changed
  | admitted authorised dispatch admits =>
    obtain ⟨-, auditor, rfl⟩ := admits
    exact passedIsEarned_of_status (by simp [changed])
  | cancelled authorised => exact passedIsEarned_of_status (by simp [changed])
  | progressed progress unguarded reached => exact passedIsEarned_of_status (by simp [changed])
  | submitted ready accepted submits =>
    refine passedIsEarned_of_status ?_
    rcases submits with ⟨inAudit, rfl⟩ | ⟨-, rfl⟩
    · simp [changed, inAudit]
    · simp [changed]
  | reopened authorised passed reopened =>
    obtain ⟨status, member, rfl⟩ := reopened
    refine passedIsEarned_of_status ?_
    rw [changed]
    rintro rfl
    simp at member
  | finished finish reached finishes =>
    refine passedIsEarned_of_status ?_
    rcases finishes with ⟨-, rfl⟩ | ⟨-, -, -, rfl⟩
    · simp [changed]
    · simp [changed]

theorem GivesVerdict.passedIsEarned {draft : Draft} {verb : TaskPairVerb}
    {transition : TaskPairTransition} {verdictVerb : TaskPairVerdictVerb}
    (gives : GivesVerdict draft verb transition verdictVerb after) : PassedIsEarned after := by
  obtain ⟨verdict, isVerb, round, ⟨-, -, held⟩ | ⟨applied, -, ⟨pass, passed⟩ | ⟨-, reworked⟩⟩⟩ :=
    gives.judged
  · refine passedIsEarned_of_status ?_
    have status : draft.pair.audit.status = .inAudit := gives.opened.2.1
    simp [held, status]
  · intro _
    simp only [audit, AuditRecord.mk.injEq] at passed
    obtain ⟨-, -, roundEq, passRound, lastVerdict, material, unheld⟩ := passed
    constructor
    · rw [passRound, roundEq]
    · exact ⟨verdict, lastVerdict, isVerb.trans pass, by rw [round, roundEq]; rfl, applied⟩
    · rw [material]
      exact gives.opened.2.2
    · exact unheld
  · exact passedIsEarned_of_status (by simp [reworked])

end

theorem pairStep_passedIsEarned (host : TaskPairHost) (pair : Option TaskPairState)
    (step : PairStep) (earned : ∀ before, pair = some before → PassedIsEarned before) :
    ∀ after, pairStep host pair step = some after → PassedIsEarned after := by
  intro after stepped
  cases pairStep_effect host pair step with
  | unchanged same => exact earned after (same ▸ stepped)
  | created verb marker ctx marked known fresh new written audit =>
    rw [stepped] at written
    cases written
    obtain ⟨-, -, -, ⟨status, -⟩ | ⟨-, status, -⟩⟩ := audit
    · refine passedIsEarned_of_status ?_
      intro passed
      simp [passed] at status
    · exact passedIsEarned_of_status (by simp [status])
  | changed verb marker ctx marked known named existing new found written applied change =>
    rw [stepped] at written
    cases written
    exact change.passedIsEarned (earned existing found)
  | judged verdictVerb marker ctx marked existing new found written gives =>
    rw [stepped] at written
    cases written
    exact gives.passedIsEarned
  | held existing new found written held =>
    rw [stepped] at written
    cases written
    obtain ⟨hold, rfl | inAudit, same⟩ := held
    · intro passed
      have status : existing.status = .passed :=
        (congrArg AuditRecord.status same).symm.trans passed
      exact (earned existing found status).of_audit existing.auditor same
    · refine passedIsEarned_of_status ?_
      simp [same, inAudit]

/-! ## Closing a pair -/

def IsForcedDone (pair : TaskPairState) (step : PairStep) : Prop :=
  ∃ marker ctx, step = .marker marker ctx ∧ marker.knownVerb = some .done ∧
    taskPairRoleOf (some pair) ctx.writer = .brain ∧
    isTrue (marker.attrs.get? "force") = true

theorem contains_addFlag (pair : TaskPairState) (flag : TaskPairFlag) :
    (pair.addFlag flag).flags.contains flag = true := by
  unfold addFlag
  split
  · assumption
  · simp

theorem applyDone_closes {draft : Draft} {after : TaskPairState}
    (same : draft.existing.audit = draft.pair.audit) (open_ : draft.pair.status ≠ .done)
    (written : (applyDone draft).pair = some after) (closed : after.status = .done)
    (audited : draft.pair.hasAudit = true) :
    draft.pair.status = .passed ∨ (draft.role = .brain ∧
      isTrue (draft.marker.attrs.get? "force") = true ∧
      after.flags.contains .unaudited = true) := by
  unfold applyDone at written
  extract_lets attrs stated close hasAudit at written
  split at written
  · rename_i dismissed
    have status : draft.existing.status = draft.pair.status := congrArg AuditRecord.status same
    simp [status, open_] at dismissed
  · split at written
    · cases written
    · split at written
      · rename_i forced
        simp only [Bool.and_eq_true, decide_eq_true_eq] at forced
        split at written
        · cases written
          exact .inr ⟨forced.1, forced.2, contains_addFlag _ _⟩
        · rename_i passed
          simp only [hasAudit, audited, Bool.and_true, ne_eq, decide_not, Bool.not_eq_true',
            decide_eq_false_iff_not, not_not] at passed
          exact .inl passed
      · split at written
        · rename_i passed
          simp only [Bool.and_eq_true, decide_eq_true_eq] at passed
          exact .inl passed.2
        · split at written
          · rename_i unaudited
            simp [hasAudit, audited] at unaudited
          · split at written
            · rename_i unaudited
              simp [hasAudit, audited] at unaudited
            · have unchanged : draft.pair.audit = draft.pair.audit := rfl
              have rejected := (@unjudged_reject _ (· = draft.pair.audit) _ unchanged).writes _ written
              have status : after.status = draft.pair.status := congrArg AuditRecord.status rejected
              exact absurd (status.symm.trans closed) open_

theorem AuditChange.closes {host : TaskPairHost} {draft : Draft} {verb : TaskPairVerb}
    {before after : AuditRecord} (change : AuditChange host draft verb before after)
    (open_ : before.status ≠ .done) (closed : after.status = .done) :
    verb = .done ∧ after = { before with status := .done } := by
  cases change with
  | kept => exact absurd closed open_
  | steered authorised steered =>
    obtain ⟨status, auditor, rfl | ⟨rfl, -⟩ | rfl, rfl⟩ := steered
    · cases closed
    · cases closed
    · exact absurd closed open_
  | admitted authorised dispatch admits =>
    obtain ⟨-, auditor, rfl⟩ := admits
    cases closed
  | cancelled authorised => cases closed
  | progressed progress unguarded reached => cases closed
  | submitted ready accepted submits =>
    rcases submits with ⟨-, rfl⟩ | ⟨-, rfl⟩
    · exact absurd closed open_
    · cases closed
  | reopened authorised passed reopened =>
    obtain ⟨status, member, rfl⟩ := reopened
    have isDone : status = .done := closed
    simp [isDone] at member
  | finished finish reached finishes =>
    rcases finishes with ⟨-, rfl⟩ | ⟨-, -, -, rfl⟩
    · exact ⟨finish, rfl⟩
    · cases closed

theorem applyToPair_closes {host : TaskPairHost} {pair after : TaskPairState}
    {marker : TaskPairMarker} {ctx : TaskPairApplyContext}
    (written : (applyToPair host pair .done marker ctx).pair = some after)
    (open_ : pair.status ≠ .done) (closed : after.status = .done)
    (audited : pair.hasAudit = true) :
    pair.status = .passed ∨ (taskPairRoleOf (some pair) ctx.writer = .brain ∧
      isTrue (marker.attrs.get? "force") = true ∧
      after.flags.contains .unaudited = true) := by
  simp only [applyToPair] at written
  cases guarded : guardedMarker (draftOf pair marker ctx) .done with
  | some transition =>
    rw [guarded] at written
    have kept := (guardedMarker_unjudged guarded).writes after written
    have status : after.status = pair.status := congrArg AuditRecord.status kept
    exact absurd (status.symm.trans closed) open_
  | none =>
    rw [guarded] at written
    have same : (touched (draftOf pair marker ctx) .done).pair.audit = pair.audit :=
      touched_same (draftOf pair marker ctx) .done (.inr (by simp [resolvingVerbs]))
    have status : (touched (draftOf pair marker ctx) .done).pair.status = pair.status :=
      congrArg AuditRecord.status same
    have auditor : (touched (draftOf pair marker ctx) .done).pair.auditor = pair.auditor :=
      congrArg AuditRecord.auditor same
    have applied : applyVerb host (touched (draftOf pair marker ctx) .done) .done =
        applyDone (touched (draftOf pair marker ctx) .done) := by
      simp [applyVerb, isHistorical, reopensPassed]
    rw [applied] at written
    have closes := applyDone_closes (by rw [same, touched_existing]; rfl) (by rwa [status])
      written closed (by simpa [TaskPairState.hasAudit, auditor] using audited)
    rwa [status, touched_role, touched_marker] at closes

/-! ## Runs -/

/-- In every run a passed pair has earned its PASS, and an audited pair is closed only after
one or by its Brain's force. -/
theorem audited_pair_finishes_passed (host : TaskPairHost) (steps : List PairStep)
    (step : PairStep) :
    (∀ pair, run (pairStep host) none steps = some pair → pair.status = .passed →
      EarnedPass pair) ∧
    ∀ after, pairStep host (run (pairStep host) none steps) step = some after →
      after.status = .done → after.hasAudit = true →
      (∀ pair, run (pairStep host) none steps = some pair → pair.status ≠ .done) →
      ∃ pair, run (pairStep host) none steps = some pair ∧
        (pair.status = .passed ∨
          (IsForcedDone pair step ∧ after.flags.contains .unaudited = true)) := by
  constructor
  · have reachable : Reachable (pairStep host) none (run (pairStep host) none steps) := ⟨steps, rfl⟩
    exact @Reachable.invariant _ _ _ _
      (fun pair => ∀ state, pair = some state → PassedIsEarned state) (by simp)
      (fun pair step earned => pairStep_passedIsEarned host pair step earned) _ reachable
  · intro after stepped closed audited open_
    cases pairStep_effect host (run (pairStep host) none steps) step with
    | unchanged same => exact absurd closed (open_ after (same ▸ stepped))
    | created verb marker ctx marked known fresh new written audit =>
      rw [stepped] at written
      cases written
      obtain ⟨-, -, -, ⟨status, -⟩ | ⟨-, status, -⟩⟩ := audit
      · have isDone : after.audit.status = .done := closed
        simp [isDone] at status
      · exact absurd (status.symm.trans closed) (by simp)
    | changed verb marker ctx marked known named existing new found written applied change =>
      rw [stepped] at written
      cases written
      have existingOpen := open_ existing found
      obtain ⟨rfl, same⟩ := change.closes existingOpen closed
      have auditor : after.auditor = existing.auditor := congrArg AuditRecord.auditor same
      have wanted : existing.hasAudit = true := by
        simpa [TaskPairState.hasAudit, auditor] using audited
      refine ⟨existing, found, ?_⟩
      rcases applyToPair_closes applied existingOpen closed wanted with
        passed | ⟨brain, force, unaudited⟩
      · exact .inl passed
      · exact .inr ⟨⟨marker, ctx, marked, known, brain, force⟩, unaudited⟩
    | judged verdictVerb marker ctx marked existing new found written gives =>
      rw [stepped] at written
      cases written
      obtain ⟨verdict, -, -, ⟨-, -, held⟩ | ⟨-, -, ⟨-, passed⟩ | ⟨-, reworked⟩⟩⟩ := gives.judged
      · have status : after.status = existing.status := congrArg AuditRecord.status held
        exact absurd (status.symm.trans closed) (open_ existing found)
      · exact absurd ((congrArg AuditRecord.status passed).symm.trans closed) (by simp)
      · exact absurd ((congrArg AuditRecord.status reworked).symm.trans closed) (by simp)
    | held existing new found written held =>
      rw [stepped] at written
      cases written
      obtain ⟨hold, -, same⟩ := held
      have status : after.status = existing.status := congrArg AuditRecord.status same
      exact absurd (status.symm.trans closed) (open_ existing found)

theorem audited_pair_finishes_passed_after_pass :
    ∃ pair after,
      run (pairStep plainHost) none (submittedSteps ++ [writes "aud" .pass [] .marker]) =
        some pair ∧
      EarnedPass pair ∧
      pairStep plainHost (some pair) (writes "exec" .done [] .marker) = some after ∧
      after.status = .done ∧ pair.status = .passed := by
  have passed : (run (pairStep plainHost) none
      (submittedSteps ++ [writes "aud" .pass [] .marker])).map (·.status) = some .passed := by
    decide +kernel
  have closed : (pairStep plainHost (run (pairStep plainHost) none
      (submittedSteps ++ [writes "aud" .pass [] .marker]))
      (writes "exec" .done [] .marker)).map
        (fun after => (after.status, after.hasAudit)) = some (.done, true) := by
    decide +kernel
  obtain ⟨pair, ran, status⟩ := Option.map_eq_some_iff.mp passed
  obtain ⟨after, stepped, final⟩ := Option.map_eq_some_iff.mp closed
  simp only [Prod.mk.injEq] at final
  obtain ⟨earned, closes⟩ := audited_pair_finishes_passed plainHost
    (submittedSteps ++ [writes "aud" .pass [] .marker]) (writes "exec" .done [] .marker)
  have open_ : ∀ before, run (pairStep plainHost) none
      (submittedSteps ++ [writes "aud" .pass [] .marker]) = some before →
        before.status ≠ .done := by
    intro before found
    rw [ran] at found
    cases found
    simp [status]
  obtain ⟨before, found, -⟩ := closes after stepped final.1 final.2 open_
  rw [ran] at stepped
  exact ⟨pair, after, ran, earned pair ran status, stepped, final.1, status⟩

end ImCodes.TaskPair
