import ImCodes.TaskPair.Caps
import ImCodes.TaskPair.Dispatch

/-!
# Rejected markers

A marker is rejected by its verb's own branch, on the copy of the pair that its writer's waits have
been cleared on already. So a rejected marker changes nothing but its bookkeeping exactly if there
was no wait for it to clear.
-/

set_option autoImplicit false

namespace ImCodes.TaskPair

open Library TaskPairState

/-! ## Rejections -/

/-- What a draft is answered with, given the capped message its marker asks for. -/
inductive Answers (draft : Draft) (asked : Option TaskPairCappedReason)
    (transition : TaskPairTransition) : Prop where
  | rejected (wanted : asked = some .policyRejection) (text : String)
      (pair : transition.pair = (draft.reject text).pair)
      (effect : transition.effect = .recorded)
      (notices : ∀ intent ∈ (draft.reject text).intents, intent ∈ transition.intents) :
      Answers draft asked transition
  | answered (unwanted : asked ≠ some .policyRejection)
      (unrejected : transition.pair = none ∨ transition.effect ≠ .recorded) :
      Answers draft asked transition

section
variable {draft : Draft} {asked : Option TaskPairCappedReason}

theorem answers_reject (wanted : asked = some .policyRejection) (text : String) :
    Answers draft asked (draft.reject text) :=
  .rejected wanted text rfl (reject_effect draft text) fun _ => id

theorem answers_keep (unwanted : asked ≠ some .policyRejection) :
    Answers draft asked draft.keep :=
  .answered unwanted (.inl rfl)

theorem answers_done {other : Draft} {effect : TaskPairEffect}
    (unwanted : asked ≠ some .policyRejection) (different : effect ≠ .recorded) :
    Answers draft asked (other.done effect) :=
  .answered unwanted (.inr different)

private theorem effect_ite {condition : Prop} [Decidable condition] {first second : TaskPairEffect}
    (isFirst : first ≠ .recorded) (isSecond : second ≠ .recorded) :
    (if condition then first else second) ≠ .recorded := by
  split
  · exact isFirst
  · exact isSecond

theorem answers_dismissed {existing : TaskPairState} {now : Int}
    (unwanted : asked ≠ some .policyRejection) :
    Answers draft asked (dismissIntegration existing now) := by
  refine .answered unwanted ?_
  unfold dismissIntegration
  split
  · exact .inl rfl
  · exact .inr (by simp)

end

section
variable (host : TaskPairHost) (draft : Draft)

theorem applyCheck_answers :
    Answers draft (cappedMessage host draft .check) (applyCheck host draft) := by
  unfold applyCheck
  cases parsed : parseTaskPairChecklistCheck draft.marker.attrs with
  | none =>
    simp only [cappedMessage, parsed]
    exact answers_reject rfl _
  | some check =>
    dsimp -zeta only
    extract_lets allowed currentBrief
    have may : allowed = mayCheck draft check := rfl
    clear_value allowed
    subst may
    simp only [cappedMessage, parsed, Option.any_some]
    cases mayCheck draft check with
    | false => exact answers_reject rfl _
    | true =>
      simp only [Bool.not_true, Bool.false_eq_true, if_true, if_false]
      generalize host.applyTaskPairChecklistCheck currentBrief check = changed
      obtain ⟨markdown, indexes⟩ := changed
      split
      · exact answers_done (by simp) (by simp)
      · exact answers_done (by simp) (by simp)

theorem applyQueue_answers :
    Answers draft (cappedMessage host draft .queue) (applyQueue draft) := by
  unfold applyQueue
  extract_lets named reopened
  have unwanted : cappedMessage host draft .queue ≠ some .policyRejection := by
    simp [cappedMessage]
  split
  · exact answers_keep unwanted
  · split
    · exact answers_done unwanted (by simp)
    · split
      · exact answers_done unwanted (by simp)
      · exact answers_keep unwanted

theorem applyDispatch_answers :
    Answers draft (cappedMessage host draft .dispatch) (applyDispatch draft) := by
  simp only [applyDispatch]
  cases authorised : draft.roleAuthority with
  | false =>
    simp only [cappedMessage, authorised]
    exact answers_keep (by simp)
  | true =>
    cases terminal : draft.terminal with
    | true =>
      simp only [cappedMessage, authorised, terminal]
      exact answers_reject rfl _
    | false =>
      have unwanted : cappedMessage host draft .dispatch ≠ some .policyRejection := by
        simp [cappedMessage, terminal]
      simp only [Bool.not_true, Bool.false_eq_true, if_false]
      split
      · split
        · exact answers_done unwanted (by simp)
        · exact answers_done unwanted (by simp)
      · split
        · exact answers_done unwanted (by simp)
        · split
          · exact answers_done unwanted (by simp)
          · split
            · exact answers_done unwanted (by simp)
            · exact answers_done unwanted (by simp)

theorem applyProgress_answers (verb : TaskPairVerb) (progress : verb = .started ∨ verb = .working) :
    Answers draft (cappedMessage host draft verb) (applyProgress draft verb) := by
  have asked : cappedMessage host draft verb =
      if !(isGuardedProgress draft) && draft.pair.status = .awaitingBrainDecision &&
        !(draft.role = .executor || draft.roleAuthority) then some .policyRejection
      else none := by
    rcases progress with rfl | rfl <;> rfl
  rw [asked]
  unfold applyProgress
  extract_lets existing guarded status noted announced
  have guard : isGuardedProgress draft = (decide (draft.role = .executor) &&
    !draft.roleAuthority && taskPairAuditHeldStatuses.contains existing.status) := rfl
  rw [← guard]
  cases isGuardedProgress draft with
  | true =>
    simp only [Bool.not_true, Bool.false_and, Bool.false_eq_true, if_true, if_false]
    split
    · exact .answered (by simp) (.inl rfl)
    · exact .answered (by simp) (.inr (by simp))
  | false =>
    by_cases awaiting : draft.pair.status = .awaitingBrainDecision
    · simp only [awaiting, Bool.not_false, decide_true, Bool.true_and, Bool.false_eq_true,
        if_true, if_false]
      cases (decide (draft.role = .executor) || draft.roleAuthority) with
      | true => exact answers_done (by simp) (by simp)
      | false => exact answers_reject rfl _
    · simp only [awaiting, decide_false, Bool.and_false, Bool.false_and, Bool.false_eq_true,
        if_false]
      split
      · exact answers_done (by simp) (by simp)
      · exact answers_done (by simp) (by simp)

theorem applyReady_answers :
    Answers draft (cappedMessage host draft .readyForAudit) (applyReady host draft) := by
  unfold applyReady
  extract_lets attrs now quiet submitted
  cases audited : draft.pair.hasAudit with
  | false =>
    simp only [cappedMessage, audited]
    exact answers_keep (by simp)
  | true =>
    cases mismatched : mismatchedBase host draft.pair attrs now with
    | some bases =>
      have rejected : mismatchedBase host draft.pair draft.marker.attrs draft.ctx.now =
        some bases := mismatched
      simp only [cappedMessage, audited, rejected]
      exact answers_reject rfl _
    | none =>
      have matched : mismatchedBase host draft.pair draft.marker.attrs draft.ctx.now = none :=
        mismatched
      have unwanted : cappedMessage host draft .readyForAudit ≠ some .policyRejection := by
        simp [cappedMessage, matched]
      rw [if_neg (by simp)]
      dsimp only
      split
      · exact .answered unwanted (.inl rfl)
      · split
        · split
          · exact answers_done unwanted (by simp)
          · exact answers_done unwanted (by simp)
        · unfold openAuditRound
          extract_lets
          split
          · exact answers_done unwanted (by simp)
          · exact answers_done unwanted (by simp)

theorem holdPass_answers (held : TaskPairMaterialHold) :
    Answers draft (some .policyRejection) (holdPass draft held) := by
  unfold holdPass
  extract_lets blocked
  have effect : blocked.effect = .recorded := reject_effect draft _
  split
  · exact .rejected rfl _ rfl effect fun intent member => List.mem_append_left _ member
  · exact .rejected rfl _ rfl effect fun _ => id

theorem applyVerdictMarker_answers (verb : TaskPairVerdictVerb) :
    Answers draft (cappedMessage host draft verb.verb) (applyVerdictMarker host draft verb) := by
  have asked : cappedMessage host draft verb.verb = verdictMessage draft verb := by
    cases verb <;> rfl
  rw [asked]
  unfold applyVerdictMarker
  extract_lets verbText
  split
  · rename_i closed
    have refused : takesVerdict draft = false := by
      rcases closed with unwanted | elsewhere | empty
      · simp [takesVerdict, show draft.pair.hasAudit = false by simpa using unwanted]
      · simp [takesVerdict, elsewhere]
      · simp [takesVerdict, Option.isNone_iff_eq_none.mp empty]
    exact answers_reject (by simp [verdictMessage, refused]) _
  · rename_i opened
    simp only [not_or, Bool.not_eq_true', Bool.not_eq_false, ne_eq, not_not,
      Option.isNone_iff_eq_none] at opened
    split
    · rename_i forbidden
      have refused : takesVerdict draft = false := by
        simp only [ne_eq, decide_not, Bool.and_eq_true, Bool.not_eq_true',
          decide_eq_false_iff_not] at forbidden
        simp [takesVerdict, forbidden.1, forbidden.2]
      exact answers_reject (by simp [verdictMessage, refused]) _
    · rename_i permitted
      have takes : takesVerdict draft = true := by
        have submitted := Option.isSome_iff_ne_none.mpr opened.2.2
        by_cases auditor : draft.role = .auditor
        · simp [takesVerdict, opened, submitted, auditor]
        · simp only [ne_eq, auditor, decide_not, decide_false, Bool.not_false, Bool.true_and,
            Bool.not_eq_true', Bool.not_eq_false] at permitted
          simp [takesVerdict, opened, submitted, permitted]
      split
      · rename_i held isHeld _ _ _ _ _
        have wanted : verdictMessage draft .pass = some .policyRejection := by
          simp [verdictMessage, isHeld]
        rw [wanted]
        exact holdPass_answers draft held
      · rename_i verb _ _ verdict noted judged settled given unheld
        have unwanted : verdictMessage draft verb ≠ some .policyRejection := by
          have free : (decide (verb = .pass) && draft.pair.materialHold.isSome) = false := by
            cases held : draft.pair.materialHold with
            | none => simp
            | some hold =>
              have other : verb ≠ .pass := fun pass => unheld hold pass held
              simp [other]
          simp only [verdictMessage, takes, free, Bool.not_true, Bool.or_false, Bool.false_eq_true,
            if_false]
          split <;> simp
        exact .answered unwanted (.inr (effect_ite (by simp) (by simp)))

theorem applyNextRound_answers :
    Answers draft (cappedMessage host draft .nextRound) (applyNextRound draft) := by
  have asked : cappedMessage host draft .nextRound =
      if opensNextRound draft then none else some .policyRejection := rfl
  have refuses : opensNextRound draft = false → ∀ text,
      Answers draft (cappedMessage host draft .nextRound) (draft.reject text) := by
    intro refused text
    exact answers_reject (by rw [asked, refused]; rfl) text
  unfold applyNextRound
  extract_lets taskId named previousHead commit deliveryRound note opened
  have opens : opensNextRound draft = (draft.brainAuthority && !draft.terminal &&
      decide (draft.pair.status = .passed) &&
        !((truthy named).any fun base => !(isRoundBase base))) := rfl
  cases brain : draft.brainAuthority with
  | false => exact refuses (by simp [opens, brain]) _
  | true =>
    cases terminal : draft.terminal with
    | true => exact refuses (by simp [opens, terminal]) _
    | false =>
      rw [if_neg (by simp), if_neg (by simp)]
      by_cases passed : draft.pair.status = .passed
      · rw [if_neg (not_not.mpr passed)]
        cases unbased : (truthy named).any fun base => !(isRoundBase base) with
        | true => exact refuses (by simp [opens, unbased]) _
        | false =>
          have ready : opensNextRound draft = true := by
            simp [opens, brain, terminal, passed, unbased]
          rw [if_neg (by simp)]
          exact answers_done (by simp [asked, ready]) (by simp)
      · rw [if_pos passed]
        exact refuses (by simp [opens, passed]) _

theorem applyDone_answers :
    Answers draft (cappedMessage host draft .done) (applyDone draft) := by
  have asked : cappedMessage host draft .done =
      if acceptsDone draft then none else some .policyRejection := rfl
  have accepted : acceptsDone draft = true →
      cappedMessage host draft .done ≠ some .policyRejection := by
    intro accepts
    rw [asked, if_pos accepts]
    simp
  unfold applyDone
  extract_lets attrs stated close hasAudit
  have accepts : acceptsDone draft = (draft.terminal ||
      (decide (draft.role = .brain) && isTrue (attrs.get? "force")) ||
      (hasAudit && decide (draft.role = .executor) && decide (draft.pair.status = .passed)) ||
      (!hasAudit && draft.roleAuthority) ||
      (!hasAudit && decide (draft.role = .executor) &&
        decide (draft.pair.status ≠ .awaitingBrainDecision))) := rfl
  clear_value hasAudit
  cases terminal : draft.terminal with
  | true =>
    have unwanted := accepted (by simp [accepts, terminal])
    simp only [Bool.true_and, if_true]
    split
    · exact answers_dismissed unwanted
    · exact .answered unwanted (.inl rfl)
  | false =>
    rw [if_neg (by simp), if_neg (by simp)]
    cases forced : (decide (draft.role = .brain) && isTrue (attrs.get? "force")) with
    | true =>
      have unwanted := accepted (by rw [accepts, forced]; simp)
      rw [if_pos rfl]
      split
      · exact answers_done unwanted (by simp)
      · exact answers_done unwanted (by simp)
    | false =>
      rw [if_neg (by simp)]
      cases earned : (hasAudit && decide (draft.role = .executor) &&
          decide (draft.pair.status = .passed)) with
      | true =>
        rw [if_pos rfl]
        exact answers_done (accepted (by rw [accepts, earned]; simp)) (by simp)
      | false =>
        rw [if_neg (by simp)]
        cases authorised : (!hasAudit && draft.roleAuthority) with
        | true =>
          rw [if_pos rfl]
          exact answers_done (accepted (by rw [accepts, authorised]; simp)) (by simp)
        | false =>
          rw [if_neg (by simp)]
          cases reported : (!hasAudit && decide (draft.role = .executor) &&
              decide (draft.pair.status ≠ .awaitingBrainDecision)) with
          | true =>
            rw [if_pos rfl]
            exact answers_done (accepted (by rw [accepts, reported]; simp)) (by simp)
          | false =>
            rw [if_neg (by simp)]
            refine answers_reject ?_ _
            rw [asked, accepts, terminal, forced, earned, authorised, reported]
            rfl

theorem applyWait_answers (verb : TaskPairVerb) (waits : verb = .blocked ∨ verb = .needsInput) :
    Answers draft (cappedMessage host draft verb) (applyWait draft verb) := by
  have unwanted : cappedMessage host draft verb ≠ some .policyRejection := by
    rcases waits with rfl | rfl
    · simp only [cappedMessage]
      split <;> simp
    · simp [cappedMessage]
  unfold applyWait
  extract_lets
  split
  · exact .answered unwanted (.inl rfl)
  · split
    · exact answers_done unwanted (by simp)
    · split
      · exact answers_done unwanted (by simp)
      · exact answers_done unwanted (by simp)

theorem applyReassign_answers :
    Answers draft (cappedMessage host draft .reassign) (applyReassign draft) := by
  have unwanted : cappedMessage host draft .reassign ≠ some .policyRejection := by
    simp [cappedMessage]
  unfold applyReassign
  extract_lets
  split
  · exact answers_keep unwanted
  · exact answers_done unwanted (effect_ite (by simp) (by simp))

theorem applyCancel_answers :
    Answers draft (cappedMessage host draft .cancel) (applyCancel draft) := by
  unfold applyCancel
  cases authorised : draft.roleAuthority with
  | false => exact answers_reject (by simp [cappedMessage, authorised]) _
  | true =>
    have unwanted : cappedMessage host draft .cancel ≠ some .policyRejection := by
      simp [cappedMessage, authorised]
    rw [if_neg (by simp)]
    split
    · exact answers_dismissed unwanted
    · split
      · exact .answered unwanted (.inl rfl)
      · exact answers_done unwanted (by simp)

theorem applyVerb_answers (verb : TaskPairVerb) (timely : isHistorical draft verb = false)
    (kept : reopensPassed draft verb = false) :
    Answers draft (cappedMessage host draft verb) (applyVerb host draft verb) := by
  unfold applyVerb
  rw [if_neg (by simp [timely]), if_neg (by simp [kept])]
  cases verb with
  | check => exact applyCheck_answers host draft
  | queue => exact applyQueue_answers host draft
  | dispatch => exact applyDispatch_answers host draft
  | started => exact applyProgress_answers host draft _ (.inl rfl)
  | working => exact applyProgress_answers host draft _ (.inr rfl)
  | readyForAudit => exact applyReady_answers host draft
  | pass => exact applyVerdictMarker_answers host draft .pass
  | rework => exact applyVerdictMarker_answers host draft .rework
  | nextRound => exact applyNextRound_answers host draft
  | done => exact applyDone_answers host draft
  | blocked => exact applyWait_answers host draft _ (.inl rfl)
  | needsInput => exact applyWait_answers host draft _ (.inr rfl)
  | reassign => exact applyReassign_answers host draft
  | cancel => exact applyCancel_answers host draft
  | claim => exact answers_keep (by simp [cappedMessage])

end

/-! ## Bookkeeping -/

/-- A pair without what a rejection may change. -/
def TaskPairState.withoutBookkeeping (pair : TaskPairState) : TaskPairState :=
  { pair with
    updatedAt := 0
    capCounts := []
    capRound := 0
    closedNoticeSentTo := []
    inAuditNoticeRound := none
    flags := pair.flags.filter fun flag => flag ∉ taskPairCapFlags }

theorem withoutBookkeeping_spendCap {pair spent : TaskPairState} {notices : List TaskPairIntent}
    (spends : pair.spendCap .policyRejection = (true, spent, notices)) :
    spent.withoutBookkeeping = pair.withoutBookkeeping := by
  have result : (pair.spendCap .policyRejection).2.1.withoutBookkeeping =
      pair.withoutBookkeeping := by
    unfold spendCap
    extract_lets counted used
    have same : counted.withoutBookkeeping = pair.withoutBookkeeping := by
      simp only [counted]
      split <;> rfl
    split
    · exact same
    · split
      · exact same
      · refine Eq.trans ?_ same
        unfold addFlag
        split
        · rfl
        · have capped : TaskPairCappedReason.policyRejection.flag ∈ taskPairCapFlags := by decide
          simp [withoutBookkeeping, capped]
  rw [spends] at result
  exact result

/-! ## Waits -/

/-- Whether a progress marker of the role clears a wait: an authority clears any. -/
def hasWait (pair : TaskPairState) (role : TaskPairRole) (authority : Bool) : Bool :=
  if authority then
    pair.flags.contains .blocked || pair.flags.contains .needsInput || pair.blockedSide.isSome ||
      pair.needsInputSide.isSome || pair.blockedNote.isSome
  else pair.blockedSide = some role || pair.needsInputSide = some role

private theorem removeFlag_absent {pair : TaskPairState} {flag : TaskPairFlag}
    (absent : flag ∉ pair.flags) : pair.removeFlag flag = pair := by
  have unchanged : pair.flags.filter (· ≠ flag) = pair.flags := by
    apply List.filter_eq_self.mpr
    intro other member
    have different : other ≠ flag := fun isFlag => absent (isFlag ▸ member)
    simpa using different
  calc pair.removeFlag flag = { pair with flags := pair.flags } := by
        rw [removeFlag, unchanged]
    _ = pair := rfl

private theorem hasWait_eq_false_iff {pair : TaskPairState} {role : TaskPairRole} :
    hasWait pair role true = false ↔ .blocked ∉ pair.flags ∧ .needsInput ∉ pair.flags ∧
      pair.blockedSide = none ∧ pair.needsInputSide = none ∧ pair.blockedNote = none := by
  simp [hasWait, and_assoc]

private theorem removeWaits_iff {pair cleared : TaskPairState} {role : TaskPairRole}
    (flags : cleared.flags = (pair.flags.filter (· ≠ .blocked)).filter (· ≠ .needsInput))
    (blockedSide : cleared.blockedSide = none) (needsInputSide : cleared.needsInputSide = none)
    (blockedNote : cleared.blockedNote = none)
    (same : cleared.withoutBookkeeping = pair.withoutBookkeeping) :
    hasWait pair role true = false := by
  have sameFlags := congrArg TaskPairState.flags same
  simp only [withoutBookkeeping, flags] at sameFlags
  have needsInput : .needsInput ∉ pair.flags := by
    intro member
    have kept : TaskPairFlag.needsInput ∈ pair.flags.filter (fun flag => flag ∉ taskPairCapFlags) :=
      List.mem_filter.mpr ⟨member, by decide⟩
    rw [← sameFlags] at kept
    simpa using (List.mem_filter.mp (List.mem_filter.mp kept).1).2
  have blocked : .blocked ∉ pair.flags := by
    intro member
    have kept : TaskPairFlag.blocked ∈ pair.flags.filter (fun flag => flag ∉ taskPairCapFlags) :=
      List.mem_filter.mpr ⟨member, by decide⟩
    rw [← sameFlags] at kept
    have both := (List.mem_filter.mp (List.mem_filter.mp kept).1).1
    simpa using (List.mem_filter.mp both).2
  have sides := congrArg TaskPairState.blockedSide same
  have others := congrArg TaskPairState.needsInputSide same
  have notes := congrArg TaskPairState.blockedNote same
  exact hasWait_eq_false_iff.mpr ⟨blocked, needsInput, sides.symm.trans blockedSide,
    others.symm.trans needsInputSide, notes.symm.trans blockedNote⟩

private theorem clearSideFlags_iff (pair : TaskPairState) (role : TaskPairRole)
    (authority : Bool) :
    (pair.clearSideFlags role authority).withoutBookkeeping = pair.withoutBookkeeping ↔
      hasWait pair role authority = false := by
  cases authority with
  | true =>
    constructor
    · exact removeWaits_iff rfl rfl rfl rfl
    · intro none
      obtain ⟨blocked, needsInput, blockedSide, needsInputSide, note⟩ :=
        hasWait_eq_false_iff.mp none
      have first : pair.clearBlocked = pair := by
        rw [clearBlocked, removeFlag_absent blocked, ← blockedSide, ← note]
      have second : pair.clearNeedsInput = pair := by
        rw [clearNeedsInput, removeFlag_absent needsInput, ← needsInputSide, ← note]
      simp only [clearSideFlags, Bool.true_or, if_true, first, second]
  | false =>
    by_cases blockedSide : pair.blockedSide = some role
    · have has : hasWait pair role false = true := by simp [hasWait, blockedSide]
      rw [has]
      simp only [Bool.true_eq_false, iff_false]
      intro same
      have sides := congrArg TaskPairState.blockedSide same
      have cleared : (pair.clearSideFlags role false).blockedSide = none := by
        simp only [clearSideFlags, blockedSide, decide_true, Bool.or_true, if_true]
        split <;> rfl
      rw [show (pair.clearSideFlags role false).withoutBookkeeping.blockedSide =
        (pair.clearSideFlags role false).blockedSide from rfl, cleared] at sides
      rw [show pair.withoutBookkeeping.blockedSide = pair.blockedSide from rfl,
        blockedSide] at sides
      cases sides
    · by_cases needsInputSide : pair.needsInputSide = some role
      · have has : hasWait pair role false = true := by simp [hasWait, needsInputSide]
        rw [has]
        simp only [Bool.true_eq_false, iff_false]
        intro same
        have sides := congrArg TaskPairState.needsInputSide same
        have cleared : (pair.clearSideFlags role false).needsInputSide = none := by
          simp [clearSideFlags, blockedSide, needsInputSide, clearNeedsInput]
        rw [show (pair.clearSideFlags role false).withoutBookkeeping.needsInputSide =
          (pair.clearSideFlags role false).needsInputSide from rfl, cleared] at sides
        rw [show pair.withoutBookkeeping.needsInputSide = pair.needsInputSide from rfl,
          needsInputSide] at sides
        cases sides
      · have kept : pair.clearSideFlags role false = pair := by
          simp [clearSideFlags, blockedSide, needsInputSide]
        simp [kept, hasWait, blockedSide, needsInputSide]

private theorem resolveTaskPairBrainWait_iff {pair : TaskPairState} {role : TaskPairRole}
    (decided : pair.status ≠ .awaitingBrainDecision) (now : Int) (writer : String)
    (note : Option String) :
    (pair.resolveTaskPairBrainWait now writer note).withoutBookkeeping =
        pair.withoutBookkeeping ↔
      hasWait pair role true = false ∧
        pair.lastWaitResolution = some ⟨writer, truthy note, now⟩ := by
  have resolved : pair.resolveTaskPairBrainWait now writer note =
      { (pair.removeFlag .blocked).removeFlag .needsInput with
        blockedSide := none
        needsInputSide := none
        blockedNote := none
        lastWaitResolution := some ⟨writer, truthy note, now⟩ } := by
    unfold resolveTaskPairBrainWait
    exact if_neg decided
  rw [resolved]
  constructor
  · intro same
    refine ⟨removeWaits_iff rfl rfl rfl rfl same, ?_⟩
    exact (congrArg TaskPairState.lastWaitResolution same).symm
  · intro unchanged
    obtain ⟨waitless, resolution⟩ := unchanged
    obtain ⟨blocked, needsInput, blockedSide, needsInputSide, noteless⟩ :=
      hasWait_eq_false_iff.mp waitless
    have unflagged : (pair.removeFlag .blocked).removeFlag .needsInput = pair := by
      rw [removeFlag_absent blocked, removeFlag_absent needsInput]
    have same : pair = { pair with
        blockedSide := none
        needsInputSide := none
        blockedNote := none
        lastWaitResolution := some ⟨writer, truthy note, now⟩ } := by
      cases pair
      simp only at blockedSide needsInputSide noteless resolution
      subst blockedSide needsInputSide noteless resolution
      rfl
    rw [unflagged, ← same]

/-! ## Rejected markers -/

def TaskPairState.stamped (pair : TaskPairState) (now : Int) : TaskPairState :=
  { pair with updatedAt := now }

/-- What a marker that is rejected does to the waits of its pair: progress clears those of its
writer, and an authority's DISPATCH of a closed pair resolves all of them. -/
def clearsWait (draft : Draft) (verb : TaskPairVerb) : Bool :=
  if verb = .dispatch then
    hasWait draft.pair draft.role true || draft.pair.lastWaitResolution ≠
      some ⟨draft.ctx.writer, truthy (draft.marker.attrs.get? "note"), draft.ctx.now⟩
  else progressVerbs.contains verb && hasWait draft.pair draft.role draft.roleAuthority

def isRejected (host : TaskPairHost) (draft : Draft) (verb : TaskPairVerb) : Bool :=
  (guardedMarker draft verb).isNone && !(isHistorical draft verb) &&
    !(reopensPassed draft verb) && cappedMessage host draft verb = some .policyRejection

section
variable (host : TaskPairHost) (draft : Draft) (verb : TaskPairVerb)

private theorem touched_passed :
    (touched draft verb).pair.status = .passed ↔ draft.pair.status = .passed := by
  have audit := touched_audit draft verb
  have status := congrArg AuditRecord.status audit
  rw [show (touched draft verb).pair.audit.status = (touched draft verb).pair.status from rfl]
    at status
  rw [status]
  split
  · rename_i resumes
    simp [resumes.2.2]
  · rfl

private theorem reopensPassed_touched :
    reopensPassed (touched draft verb) verb = reopensPassed draft verb := by
  simp only [reopensPassed, touched_passed, touched_role]

private theorem isHistorical_touched :
    isHistorical (touched draft verb) verb = isHistorical draft verb := by
  simp only [isHistorical, reopensPassed_touched, touched_passed, touched_terminal]

private theorem takesVerdict_touched (same : (touched draft verb).pair.audit = draft.pair.audit) :
    takesVerdict (touched draft verb) = takesVerdict draft := by
  have auditor := congrArg AuditRecord.auditor same
  have status := congrArg AuditRecord.status same
  have material := congrArg AuditRecord.material same
  simp only [audit] at auditor status material
  simp only [takesVerdict, hasAudit, auditor, status, material, touched_role,
    touched_roleAuthority]

private theorem verdictMessage_rejects (judged : TaskPairVerdictVerb) :
    verdictMessage draft judged = some .policyRejection ↔
      (!(takesVerdict draft) || (judged = .pass && draft.pair.materialHold.isSome)) = true := by
  unfold verdictMessage
  split
  · rename_i refused
    simp [refused]
  · rename_i taken
    split
    · simpa using taken
    · simpa using taken

private theorem cappedMessage_touched :
    cappedMessage host (touched draft verb) verb = some .policyRejection ↔
      cappedMessage host draft verb = some .policyRejection := by
  by_cases same : draft.roleAuthority = false ∨ verb ∉ resolvingVerbs
  · have kept := touched_same draft verb same
    have auditor : (touched draft verb).pair.auditor = draft.pair.auditor :=
      congrArg AuditRecord.auditor kept
    have status : (touched draft verb).pair.status = draft.pair.status :=
      congrArg AuditRecord.status kept
    have held : (touched draft verb).pair.materialHold = draft.pair.materialHold :=
      congrArg AuditRecord.materialHold kept
    have takes := takesVerdict_touched draft verb kept
    have bases := (touched_workspace draft verb).1
    cases verb with
    | pass => simp only [cappedMessage, verdictMessage_rejects, takes, held]
    | rework => simp only [cappedMessage, verdictMessage_rejects, takes, held]
    | check =>
      have may : mayCheck (touched draft .check) = mayCheck draft := by
        funext check
        simp [mayCheck]
      simp [cappedMessage, may]
    | _ =>
      simp [cappedMessage, isGuardedProgress, mismatchedBase, opensNextRound,
        acceptsDone, hasAudit, auditor, status, bases, touched_role, touched_roleAuthority,
        touched_brainAuthority, touched_terminal, touched_marker, touched_ctx, touched_existing]
  · simp only [not_or, Bool.not_eq_false, not_not] at same
    obtain ⟨authorised, resolves⟩ := same
    simp only [resolvingVerbs, List.mem_cons, List.not_mem_nil, or_false] at resolves
    rcases resolves with rfl | rfl | rfl | rfl | rfl | rfl <;>
      simp [cappedMessage, authorised]

private theorem touched_cleared (progress : progressVerbs.contains verb = true)
    (other : verb ≠ .dispatch)
    (unresolved : draft.roleAuthority = false ∨ verb ∉ resolvingVerbs) :
    (touched draft verb).pair =
      (draft.pair.stamped draft.ctx.now).clearSideFlags draft.role draft.roleAuthority := by
  have stays : ¬(draft.roleAuthority && resolvingVerbs.contains verb) = true := by
    rcases unresolved with unauthorised | stays
    · simp [unauthorised]
    · simp [stays]
  have clears : (progressVerbs.contains verb && !(draft.terminal && verb = .dispatch) ||
      (draft.roleAuthority && [TaskPairVerb.queue, .reassign].contains verb)) = true := by
    rw [progress]
    simp [other]
  unfold touched
  dsimp only
  rw [if_pos clears]
  exact congrArg Draft.pair (if_neg stays)

private theorem touched_keeps
    (rejected : cappedMessage host draft verb = some .policyRejection)
    (fresh : draft.existing = draft.pair) :
    (touched draft verb).pair.withoutBookkeeping = draft.pair.withoutBookkeeping ↔
      clearsWait draft verb = false := by
  have stamp : (draft.pair.stamped draft.ctx.now).withoutBookkeeping =
      draft.pair.withoutBookkeeping := rfl
  have waits : ∀ authority, hasWait (draft.pair.stamped draft.ctx.now) draft.role authority =
      hasWait draft.pair draft.role authority := fun _ => rfl
  by_cases dispatch : verb = .dispatch
  · subst dispatch
    have closed : draft.roleAuthority = true ∧ draft.terminal = true := by
      simpa [cappedMessage] using rejected
    have decided : (draft.pair.stamped draft.ctx.now).status ≠ .awaitingBrainDecision := by
      intro awaiting
      have terminal := closed.2
      have status : draft.pair.status = .awaitingBrainDecision := awaiting
      simp [Draft.terminal, fresh, status, isTerminalTaskPairStatus] at terminal
    have resolved : (touched draft .dispatch).pair =
        (draft.pair.stamped draft.ctx.now).resolveTaskPairBrainWait
          draft.ctx.now draft.ctx.writer (draft.marker.attrs.get? "note") := by
      simp [touched, closed, progressVerbs, Draft.update, stamped]
    rw [resolved, ← stamp, @resolveTaskPairBrainWait_iff _ draft.role decided, waits]
    simp only [clearsWait, if_true, ne_eq, Bool.or_eq_false_iff, decide_eq_false_iff_not, not_not]
    rfl
  · cases progress : progressVerbs.contains verb with
    | true =>
      have unresolved : draft.roleAuthority = false ∨ verb ∉ resolvingVerbs := by
        cases authorised : draft.roleAuthority with
        | false => exact .inl rfl
        | true =>
          right
          cases verb <;> simp [cappedMessage, authorised] at rejected dispatch ⊢ <;> decide
      rw [touched_cleared draft verb progress dispatch unresolved, ← stamp, clearSideFlags_iff,
        waits, clearsWait, if_neg dispatch, progress, Bool.true_and]
    | false =>
      have kept : (touched draft verb).pair = draft.pair.stamped draft.ctx.now := by
        have silent : verb = .check ∨ verb = .nextRound ∨ verb = .cancel := by
          cases verb <;> simp [cappedMessage, progressVerbs] at rejected progress ⊢
        rcases silent with rfl | rfl | rfl <;>
          simp [touched, progressVerbs, Draft.update, stamped]
      rw [kept, stamp, clearsWait, if_neg dispatch, progress]
      simp

end

section
variable (host : TaskPairHost) (existing : Option TaskPairState) (marker : TaskPairMarker)
  (ctx : TaskPairApplyContext)

/-- A marker that is answered with a rejection changes nothing but bookkeeping. -/
def RejectionKeeps : Prop :=
  let transition := applyTaskPairMarker host existing marker ctx
  transition.effect = .recorded → transition.intents.any (·.isPolicyNotice) = true →
    ∀ after, transition.pair = some after →
      ∃ pair, existing = some pair ∧ after.withoutBookkeeping = pair.withoutBookkeeping

/-- A marker is rejected with a notice while there is a wait for it to clear. -/
def LosesWait : Prop :=
  ∃ pair verb, existing = some pair ∧ marker.knownVerb = some verb ∧
    marker.taskId ≠ taskPairInferTaskId ∧ isRejected host (draftOf pair marker ctx) verb = true ∧
    pair.caps.used .policyRejection < taskPairMessageCapPerRound ∧
    clearsWait (draftOf pair marker ctx) verb = true

end

private theorem guardedMarker_unrejected {draft : Draft} {verb : TaskPairVerb}
    {transition : TaskPairTransition} (guarded : guardedMarker draft verb = some transition)
    (recorded : transition.effect = .recorded)
    (noticed : transition.intents.any (·.isPolicyNotice) = true) : transition.pair = none := by
  simp only [guardedMarker] at guarded
  split at guarded
  · cases guarded
    rfl
  · split at guarded
    · cases guarded
      rfl
    · split at guarded
      · cases guarded
        unfold noticeClosed at noticed
        extract_lets existing at noticed
        split at noticed
        · simp [Draft.keep, TaskPair.recorded] at noticed
        · simp [TaskPairIntent.isPolicyNotice] at noticed
      · split at guarded
        · cases guarded
          unfold updateTitle at recorded ⊢
          split at recorded
          · split at recorded
            · cases recorded
            · simp [*, Draft.keep, TaskPair.recorded]
          · simp [*, Draft.keep, TaskPair.recorded]
        · split at guarded
          · cases guarded
            rfl
          · cases guarded

private theorem createFromProgress_effect (verb : TaskPairVerb) (marker : TaskPairMarker)
    (ctx : TaskPairApplyContext) : (createFromProgress verb marker ctx).effect = .created := by
  unfold createFromProgress
  extract_lets blank fresh
  generalize fresh.setRolesFromAttrs marker.attrs = roles
  obtain ⟨pair, intents⟩ := roles
  dsimp only
  split
  · split
    · split <;> rfl
    · rfl
  · split
    · split <;> rfl
    · rfl
  · rfl

private theorem createPair_unrejected (verb : TaskPairVerb) (marker : TaskPairMarker)
    (ctx : TaskPairApplyContext) :
    (createPair verb marker ctx).pair = none ∨ (createPair verb marker ctx).effect = .created := by
  unfold createPair
  extract_lets queued
  cases verb with
  | dispatch =>
    right
    dsimp only
    split
    · rfl
    · split
      · rfl
      · split <;> rfl
  | started | working | readyForAudit | done =>
    exact .inr (createFromProgress_effect _ marker ctx)
  | queue => exact .inr rfl
  | _ => exact .inl rfl

section
variable {host : TaskPairHost} {pair : TaskPairState} {verb : TaskPairVerb}
  {marker : TaskPairMarker} {ctx : TaskPairApplyContext}

private theorem applyToPair_unrejected
    (accepted : isRejected host (draftOf pair marker ctx) verb = false)
    (recorded : (applyToPair host pair verb marker ctx).effect = .recorded)
    (noticed : (applyToPair host pair verb marker ctx).intents.any (·.isPolicyNotice) = true) :
    (applyToPair host pair verb marker ctx).pair = none := by
  cases guarded : guardedMarker (draftOf pair marker ctx) verb with
  | some transition =>
    have applied : applyToPair host pair verb marker ctx = transition := by
      simp [applyToPair, guarded]
    rw [applied] at recorded noticed ⊢
    exact guardedMarker_unrejected guarded recorded noticed
  | none =>
    have applied : applyToPair host pair verb marker ctx =
        applyVerb host (touched (draftOf pair marker ctx) verb) verb := by
      simp [applyToPair, guarded]
    rw [applied] at recorded ⊢
    cases late : isHistorical (draftOf pair marker ctx) verb with
    | true =>
      unfold applyVerb
      rw [if_pos (by rw [isHistorical_touched, late])]
      rfl
    | false =>
      cases reopens : reopensPassed (draftOf pair marker ctx) verb with
      | true =>
        unfold applyVerb at recorded
        rw [if_neg (by simp [isHistorical_touched, late]),
          if_pos (by rw [reopensPassed_touched, reopens])] at recorded
        cases recorded
      | false =>
        have unasked :
            cappedMessage host (draftOf pair marker ctx) verb ≠ some .policyRejection := by
          simpa [isRejected, guarded, late, reopens] using accepted
        have answers := applyVerb_answers host (touched (draftOf pair marker ctx) verb) verb
          (by rw [isHistorical_touched, late]) (by rw [reopensPassed_touched, reopens])
        cases answers with
        | rejected wanted text written effect notices =>
          exact absurd ((cappedMessage_touched host _ verb).mp wanted) unasked
        | answered unwanted unrejected =>
          rcases unrejected with unwritten | other
          · exact unwritten
          · exact absurd recorded other

private theorem applyToPair_rejected
    (rejected : isRejected host (draftOf pair marker ctx) verb = true) :
    (taskPairMessageCapPerRound ≤ pair.caps.used .policyRejection ∧
      (applyToPair host pair verb marker ctx).pair = none) ∨
    (pair.caps.used .policyRejection < taskPairMessageCapPerRound ∧
      (applyToPair host pair verb marker ctx).effect = .recorded ∧
      (applyToPair host pair verb marker ctx).intents.any (·.isPolicyNotice) = true ∧
      ∃ after, (applyToPair host pair verb marker ctx).pair = some after ∧
        after.withoutBookkeeping =
          (touched (draftOf pair marker ctx) verb).pair.withoutBookkeeping) := by
  simp only [isRejected, Bool.and_eq_true, Option.isNone_iff_eq_none, Bool.not_eq_true',
    decide_eq_true_eq] at rejected
  obtain ⟨⟨⟨guarded, late⟩, reopens⟩, asked⟩ := rejected
  have applied : applyToPair host pair verb marker ctx =
      applyVerb host (touched (draftOf pair marker ctx) verb) verb := by
    simp [applyToPair, guarded]
  have used := congrArg (fun caps => CapRecord.used caps .policyRejection)
    (touched_caps verb (draftOf pair marker ctx)).1
  have answers := applyVerb_answers host (touched (draftOf pair marker ctx) verb) verb
    (by rw [isHistorical_touched, late]) (by rw [reopensPassed_touched, reopens])
  rw [applied]
  cases answers with
  | answered unwanted => exact absurd ((cappedMessage_touched host _ verb).mpr asked) unwanted
  | rejected wanted text written effect notices =>
    rw [written]
    rcases spendCap_cases (touched (draftOf pair marker ctx) verb).pair .policyRejection with
      ⟨below, spent, spends⟩ | ⟨exhausted, spent, spends⟩
    · refine .inr ⟨lt_of_eq_of_lt used.symm below, effect, ?_, spent, ?_,
        withoutBookkeeping_spendCap spends⟩
      · rw [List.any_eq_true]
        have sent : .policyNotice ctx.writer marker.taskId text ∈
            ((touched (draftOf pair marker ctx) verb).reject text).intents := by
          simp only [Draft.reject, spends]
          simp [Draft.done, Draft.push, draftOf]
        exact ⟨_, notices _ sent, rfl⟩
      · simp [Draft.reject, spends, Draft.done, Draft.push]
    · refine .inl ⟨le_of_le_of_eq exhausted used, ?_⟩
      simp [Draft.reject, spends, Draft.keep, TaskPair.recorded]

end

/-- A rejected marker keeps the pair up to bookkeeping unless it clears a wait before it is
rejected. -/
theorem rejections_keep_iff (host : TaskPairHost) (existing : Option TaskPairState)
    (marker : TaskPairMarker) (ctx : TaskPairApplyContext) :
    RejectionKeeps host existing marker ctx ↔ ¬ LosesWait host existing marker ctx := by
  constructor
  · intro keeps loses
    obtain ⟨pair, verb, rfl, known, named, rejected, below, clears⟩ := loses
    have applied : applyTaskPairMarker host (some pair) marker ctx =
        applyToPair host pair verb marker ctx := by
      simp [applyTaskPairMarker, known, named]
    unfold RejectionKeeps at keeps
    simp only [applied] at keeps
    obtain ⟨exhausted, -⟩ | ⟨-, effect, noticed, after, written, touchedSame⟩ :=
      applyToPair_rejected rejected
    · exact absurd below (Nat.not_lt.mpr exhausted)
    · obtain ⟨other, same, kept⟩ := keeps effect noticed after written
      cases same
      have asked : cappedMessage host (draftOf pair marker ctx) verb = some .policyRejection := by
        simp only [isRejected, Bool.and_eq_true, decide_eq_true_eq] at rejected
        exact rejected.2
      have cleared := (touched_keeps host (draftOf pair marker ctx) verb asked rfl).mp
        (touchedSame.symm.trans kept)
      rw [cleared] at clears
      cases clears
  · intro kept effect noticed after written
    rcases applyTaskPairMarker_cases host existing marker ctx with
      ⟨unwritten, -⟩ | ⟨verb, known, named, ⟨rfl, applied⟩ | ⟨pair, rfl, applied⟩⟩
    · rw [unwritten] at written
      cases written
    · rw [applied] at written effect
      rcases createPair_unrejected verb marker ctx with unwritten | isCreated
      · rw [unwritten] at written
        cases written
      · rw [isCreated] at effect
        cases effect
    · rw [applied] at written effect noticed
      refine ⟨pair, rfl, ?_⟩
      cases rejected : isRejected host (draftOf pair marker ctx) verb with
      | false =>
        rw [applyToPair_unrejected rejected effect noticed] at written
        cases written
      | true =>
        obtain ⟨-, unwritten⟩ | ⟨below, -, -, spent, isSpent, same⟩ :=
          applyToPair_rejected rejected
        · rw [unwritten] at written
          cases written
        · cases isSpent.symm.trans written
          have stays : clearsWait (draftOf pair marker ctx) verb = false := by
            by_contra clears
            rw [Bool.not_eq_false] at clears
            exact kept ⟨pair, verb, rfl, known, named, rejected, below, clears⟩
          have asked : cappedMessage host (draftOf pair marker ctx) verb =
              some .policyRejection := by
            simp only [isRejected, Bool.and_eq_true, decide_eq_true_eq] at rejected
            exact rejected.2
          exact same.trans
            ((touched_keeps host (draftOf pair marker ctx) verb asked rfl).mpr stays)

section FixedRuns

def blockedSteps : List PairStep :=
  [writes "brain" .dispatch [("executor", "exec"), ("auditor", "aud")] .implicitDispatch,
    writes "exec" .blocked [("note", "no credentials")] .marker]

/-- A DONE that is rejected for the missing audit takes back the executor's BLOCKED. -/
theorem rejection_clears_blocked :
    ¬ RejectionKeeps plainHost (run (pairStep plainHost) none blockedSteps)
      (plainMarker .done []) (plainContext "exec" .marker) := by
  intro keeps
  have effect : (applyTaskPairMarker plainHost (run (pairStep plainHost) none blockedSteps)
      (plainMarker .done []) (plainContext "exec" .marker)).effect = .recorded := by
    decide +kernel
  have noticed : (applyTaskPairMarker plainHost (run (pairStep plainHost) none blockedSteps)
      (plainMarker .done []) (plainContext "exec" .marker)).intents.any (·.isPolicyNotice) =
        true := by
    decide +kernel
  have cleared : (applyTaskPairMarker plainHost (run (pairStep plainHost) none blockedSteps)
      (plainMarker .done []) (plainContext "exec" .marker)).pair.map (·.blockedSide) =
        some none := by
    decide +kernel
  have raised : (run (pairStep plainHost) none blockedSteps).map (·.blockedSide) =
      some (some .executor) := by
    decide +kernel
  obtain ⟨after, written, sideless⟩ := Option.map_eq_some_iff.mp cleared
  obtain ⟨pair, found, same⟩ := keeps effect noticed after written
  rw [found] at raised
  have side : pair.blockedSide = some .executor := Option.some.inj raised
  have kept := congrArg TaskPairState.blockedSide same
  change after.blockedSide = pair.blockedSide at kept
  rw [sideless, side] at kept
  cases kept

end FixedRuns

end ImCodes.TaskPair
