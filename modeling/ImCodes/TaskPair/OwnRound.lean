import ImCodes.Library.Run
import ImCodes.TaskPair.Lifecycle

/-!
# The material a verdict judges

A verdict is to judge material its own round submitted. A READY_FOR_AUDIT that names no
material, where the pair has no workspace, opens a round on what the last one left.
-/

set_option autoImplicit false

namespace ImCodes.TaskPair

open Library TaskPairState

section
variable (host : TaskPairHost)

/-- The material a READY_FOR_AUDIT writes. -/
def writtenMaterial (pair : Option TaskPairState) (marker : TaskPairMarker)
    (ctx : TaskPairApplyContext) : Option TaskPairMaterial :=
  match pair with
  | none => materialFromAttrs marker.attrs ctx.now
  | some pair => readyMaterial pair marker.attrs ctx.now

/-- A READY_FOR_AUDIT of the run wrote the material onto the pair, and the round is still the
one it was. -/
def WrittenThisRound (steps : List PairStep) (round : Nat) (material : TaskPairMaterial) : Prop :=
  ∃ first marker ctx second, steps = first ++ .marker marker ctx :: second ∧
    marker.knownVerb = some .readyForAudit ∧
    writtenMaterial (run (pairStep host) none first) marker ctx = some material ∧
    (∃ taken, run (pairStep host) none (first ++ [.marker marker ctx]) = some taken ∧
      taken.material = some material) ∧
    ∀ between rest, second = between ++ rest → ∃ pair,
      run (pairStep host) none (first ++ .marker marker ctx :: between) = some pair ∧
        pair.round = round

/-- Every verdict of a run that counts judges material its own round wrote. -/
def JudgesOwnRound (steps : List PairStep) : Prop :=
  ∀ earlier marker ctx later, steps = earlier ++ .marker marker ctx :: later →
    (applyTaskPairMarker host (run (pairStep host) none earlier) marker ctx).effect = .verdict →
    ∃ pair material, run (pairStep host) none earlier = some pair ∧
      pair.material = some material ∧ WrittenThisRound host earlier pair.round material

/-- A READY_FOR_AUDIT that opens a round without material on a pair that still has some. -/
def ReusesMaterial (pair : Option TaskPairState) (step : PairStep) : Prop :=
  ∃ existing marker ctx, pair = some existing ∧ step = .marker marker ctx ∧
    marker.knownVerb = some .readyForAudit ∧ marker.taskId ≠ taskPairInferTaskId ∧
    acceptsReady host (draftOf existing marker ctx) = true ∧ existing.status ≠ .inAudit ∧
    existing.material.isSome = true ∧ readyMaterial existing marker.attrs ctx.now = none

end

section
variable {host : TaskPairHost}

def AuditIsFresh (host : TaskPairHost) (steps : List PairStep) : Prop :=
  ∀ pair, run (pairStep host) none steps = some pair → pair.status = .inAudit →
    ∀ material, pair.material = some material → WrittenThisRound host steps pair.round material

theorem WrittenThisRound.extend {steps : List PairStep} {round : Nat}
    {material : TaskPairMaterial} (written : WrittenThisRound host steps round material)
    {step : PairStep} {pair : TaskPairState}
    (stepped : run (pairStep host) none (steps ++ [step]) = some pair)
    (same : pair.round = round) : WrittenThisRound host (steps ++ [step]) round material := by
  obtain ⟨first, marker, ctx, second, rfl, ready, wrote, took, constant⟩ := written
  refine ⟨first, marker, ctx, second ++ [step], by simp, ready, wrote, took, ?_⟩
  intro between rest split
  rcases List.eq_nil_or_concat rest with rfl | ⟨initial, last, rfl⟩
  · rw [List.append_nil] at split
    subst split
    exact ⟨pair, by simpa using stepped, same⟩
  · rw [List.concat_eq_append, ← List.append_assoc] at split
    exact constant between initial (List.append_inj' split rfl).1

theorem writtenThisRound_of_ready {steps : List PairStep} {marker : TaskPairMarker}
    {ctx : TaskPairApplyContext} {pair : TaskPairState} {material : TaskPairMaterial}
    (ready : marker.knownVerb = some .readyForAudit)
    (wrote : writtenMaterial (run (pairStep host) none steps) marker ctx = some material)
    (stepped : run (pairStep host) none (steps ++ [.marker marker ctx]) = some pair)
    (took : pair.material = some material) :
    WrittenThisRound host (steps ++ [.marker marker ctx]) pair.round material := by
  refine ⟨steps, marker, ctx, [], rfl, ready, wrote, ⟨pair, stepped, took⟩, ?_⟩
  intro between rest nothing
  obtain ⟨rfl, rfl⟩ := List.append_eq_nil_iff.mp nothing.symm
  exact ⟨pair, stepped, rfl⟩

theorem auditIsFresh_step {steps : List PairStep} {step : PairStep}
    (fresh : AuditIsFresh host steps)
    (new : ¬ ReusesMaterial host (run (pairStep host) none steps) step) :
    AuditIsFresh host (steps ++ [step]) := by
  intro pair ran inAudit material submitted
  have stepped : pairStep host (run (pairStep host) none steps) step = some pair := by
    rw [run_append] at ran
    exact ran
  have carried : ∀ before, run (pairStep host) none steps = some before →
      before.status = .inAudit → before.round = pair.round → before.material = pair.material →
      WrittenThisRound host (steps ++ [step]) pair.round material := by
    intro before found wasInAudit sameRound sameMaterial
    have written := fresh before found wasInAudit material (sameMaterial.trans submitted)
    rw [sameRound] at written
    exact written.extend ran rfl
  cases pairStep_effect host (run (pairStep host) none steps) step with
  | unchanged same => exact carried pair (same.symm.trans stepped) inAudit rfl rfl
  | created verb marker ctx marked known fresh new written audit =>
    rw [stepped] at written
    cases written
    subst marked
    obtain ⟨-, -, -, ⟨status, -⟩ | ⟨rfl, -, wrote⟩⟩ := audit
    · have isInAudit : pair.audit.status = .inAudit := inAudit
      simp [isInAudit] at status
    · refine writtenThisRound_of_ready known ?_ ran submitted
      rw [fresh]
      exact wrote.symm.trans submitted
  | changed verb marker ctx marked known named existing after found written applied change =>
    rw [stepped] at written
    cases written
    subst marked
    have status : pair.audit.status = .inAudit := inAudit
    generalize changed : pair.audit = next at change status
    cases change with
    | kept =>
      simp only [audit, AuditRecord.mk.injEq] at changed
      exact carried existing found status changed.2.2.1.symm changed.2.2.2.2.2.1.symm
    | steered authorised steered =>
      obtain ⟨moved, auditor, opened, rfl⟩ := steered
      simp only [audit, AuditRecord.mk.injEq] at changed
      rcases opened with rfl | ⟨rfl, -⟩ | rfl
      · cases status
      · cases status
      · exact carried existing found status changed.2.2.1.symm changed.2.2.2.2.2.1.symm
    | admitted authorised dispatch admits =>
      obtain ⟨-, auditor, rfl⟩ := admits
      cases status
    | cancelled authorised => cases status
    | progressed progress unguarded reached => cases status
    | submitted ready accepted submits =>
      cases wrote : readyMaterial existing marker.attrs ctx.now with
      | some written =>
        have same : pair.material = some written := by
          have sameAudit : pair.audit.material = some written := by
            rcases submits with ⟨-, rfl⟩ | ⟨-, rfl⟩ <;>
              simp [changed, draftOf, wrote]
          exact sameAudit
        refine writtenThisRound_of_ready (ready ▸ known) ?_ ran submitted
        rw [found]
        exact wrote.trans (same.symm.trans submitted)
      | none =>
        rcases submits with ⟨wasInAudit, rfl⟩ | ⟨closed, rfl⟩
        · simp only [audit, AuditRecord.mk.injEq, draftOf, wrote, Option.none_or] at changed
          exact carried existing found wasInAudit changed.2.2.1.symm
            changed.2.2.2.2.2.1.symm
        · simp only [audit, AuditRecord.mk.injEq, draftOf, wrote, Option.none_or] at changed
          refine absurd ⟨existing, marker, ctx, found, rfl, ready ▸ known, named, accepted,
            closed, ?_, wrote⟩ new
          rw [← changed.2.2.2.2.2.1, submitted]
          rfl
    | reopened authorised passed reopened =>
      obtain ⟨moved, member, rfl⟩ := reopened
      have isInAudit : moved = .inAudit := status
      simp [isInAudit] at member
    | finished finish reached finishes =>
      rcases finishes with ⟨-, rfl⟩ | ⟨-, -, -, rfl⟩ <;> cases status
  | judged verdictVerb marker ctx marked existing after found written gives =>
    rw [stepped] at written
    cases written
    obtain ⟨verdict, -, -, ⟨-, -, held⟩ | ⟨-, -, ⟨-, passed⟩ | ⟨-, reworked⟩⟩⟩ := gives.judged
    · simp only [audit, AuditRecord.mk.injEq] at held
      exact carried existing found gives.opened.2.1 held.2.2.1.symm held.2.2.2.2.2.1.symm
    · have status : pair.status = .passed := congrArg AuditRecord.status passed
      simp [status] at inAudit
    · have status : pair.status = .rework := congrArg AuditRecord.status reworked
      simp [status] at inAudit
  | held existing after found written held =>
    rw [stepped] at written
    cases written
    obtain ⟨hold, -, same⟩ := held
    simp only [audit, AuditRecord.mk.injEq] at same
    exact carried existing found (same.1.symm.trans inAudit) same.2.2.1.symm
      same.2.2.2.2.2.1.symm

theorem auditIsFresh_run {steps : List PairStep}
    (new : Meets (pairStep host) (fun pair step => ¬ ReusesMaterial host pair step) none steps) :
    AuditIsFresh host steps := by
  induction steps using List.reverseRecOn with
  | nil => simp [AuditIsFresh]
  | append_singleton initial last ih =>
    obtain ⟨earlier, atLast⟩ := meets_append.mp new
    exact auditIsFresh_step (ih earlier) atLast.1

theorem verdictOpen_of_effect {pair : Option TaskPairState} {marker : TaskPairMarker}
    {ctx : TaskPairApplyContext}
    (counts : (applyTaskPairMarker host pair marker ctx).effect = .verdict) :
    ∃ existing, pair = some existing ∧ VerdictOpen existing := by
  rcases applyTaskPairMarker_cases host pair marker ctx with
    ⟨-, other⟩ | ⟨verb, known, named, ⟨-, same⟩ | ⟨existing, rfl, same⟩⟩
  · exact absurd counts other
  · rw [same] at counts
    exact absurd counts (createPair_unjudged verb marker ctx).effect
  · rw [same] at counts
    rcases applyToPair_cases host existing verb marker ctx with
      unjudged | ⟨verdictVerb, after, gives⟩
    · exact absurd counts unjudged.effect
    · exact ⟨existing, rfl, gives.opened⟩

end

/-- Where no READY_FOR_AUDIT opens a round on leftover material, every verdict that counts
judges material of its own round. -/
theorem verdicts_judge_own_round (host : TaskPairHost) (steps : List PairStep)
    (new : Meets (pairStep host) (fun pair step => ¬ ReusesMaterial host pair step) none steps) :
    JudgesOwnRound host steps := by
  rintro earlier marker ctx later rfl counts
  obtain ⟨pair, found, -, inAudit, submitted⟩ := verdictOpen_of_effect counts
  obtain ⟨material, isMaterial⟩ := Option.isSome_iff_exists.mp submitted
  have fresh := auditIsFresh_run (meets_append.mp new).1
  exact ⟨pair, material, found, isMaterial, fresh pair found inAudit material isMaterial⟩

def passedSteps : List PairStep := submittedSteps ++ [writes "aud" .pass [] .marker]

theorem verdicts_judge_own_round_passed : JudgesOwnRound plainHost passedSteps := by
  refine verdicts_judge_own_round plainHost passedSteps ?_
  refine ⟨?_, ?_, ?_, trivial⟩
  · rintro ⟨existing, marker, ctx, nothing, -⟩
    cases nothing
  · rintro ⟨existing, marker, ctx, found, marked, -, -, -, -, submitted, -⟩
    have empty : (run (pairStep plainHost) none (submittedSteps.take 1)).bind (·.material) =
        none := by decide +kernel
    rw [show run (pairStep plainHost) none (submittedSteps.take 1) = some existing from found]
      at empty
    simp [show existing.material = none from empty] at submitted
  · rintro ⟨existing, marker, ctx, -, marked, ready, -⟩
    cases marked
    cases ready

def bareResubmission : List PairStep :=
  submittedSteps ++ [writes "aud" .rework [("p0", "1")] .marker,
    writes "exec" .readyForAudit [] .marker]

theorem bare_resubmission_judges_old_material :
    ¬ JudgesOwnRound plainHost (bareResubmission ++ [writes "aud" .pass [] .marker]) := by
  intro judges
  obtain ⟨pair, material, ran, submitted, written⟩ :=
    judges bareResubmission _ _ [] rfl (by decide +kernel)
  have second : pair.round = 2 := by
    have round : (run (pairStep plainHost) none bareResubmission).map (·.round) = some 2 := by
      decide +kernel
    simpa [ran] using round
  obtain ⟨first, marker, ctx, rest, split, ready, wrote, -, constant⟩ := written
  rcases first with _ | ⟨dispatch, _ | ⟨submit, _ | ⟨rework, _ | ⟨bare, longer⟩⟩⟩⟩
  · cases split
    cases ready
  · cases split
    obtain ⟨before, found, sameRound⟩ := constant [] _ rfl
    have round : (run (pairStep plainHost) none submittedSteps).map (·.round) = some 1 := by
      decide +kernel
    rw [show run (pairStep plainHost) none submittedSteps = some before from found] at round
    simp [sameRound, second] at round
  · cases split
    cases ready
  · cases split
    have nothing : writtenMaterial (run (pairStep plainHost) none
        (submittedSteps ++ [writes "aud" .rework [("p0", "1")] .marker]))
        (plainMarker .readyForAudit []) (plainContext "exec" .marker) = none := by
      decide +kernel
    exact absurd (nothing.symm.trans wrote) (by simp)
  · have lengths := congrArg List.length split
    simp [bareResubmission, submittedSteps] at lengths

end ImCodes.TaskPair
