import ImCodes.TaskPair.Lifecycle

/-!
# Capped messages, marker by marker

Which markers are to be answered by a message that is capped per round, and whether the cap lets
it be sent.
-/

set_option autoImplicit false

namespace ImCodes.TaskPair

open Library TaskPairState

/-! ## What is counted -/

def taskPairCapFlags : List TaskPairFlag := TaskPairCappedReason.all.map (·.flag)

/-- What a pair keeps of its capped messages. -/
structure CapRecord where
  round : Nat
  capRound : Nat
  capCounts : List (TaskPairCappedReason × Nat)

namespace CapRecord

def counted (record : CapRecord) : List (TaskPairCappedReason × Nat) :=
  if record.capRound = record.round then record.capCounts else []

def used (record : CapRecord) (reason : TaskPairCappedReason) : Nat :=
  ((record.counted.find? fun count => count.1 = reason).map (·.2)).getD 0

end CapRecord

namespace TaskPairState

def caps (pair : TaskPairState) : CapRecord where
  round := pair.round
  capRound := pair.capRound
  capCounts := pair.capCounts

section
variable (pair : TaskPairState)

@[simp] theorem caps_resolveTaskPairBrainWait (now : Int) (writer : String)
    (note : Option String) :
    (pair.resolveTaskPairBrainWait now writer note).caps = pair.caps := by
  unfold resolveTaskPairBrainWait
  extract_lets waits resolved
  split <;> rfl

@[simp] theorem caps_clearSideFlags (role : TaskPairRole) (all : Bool) :
    (pair.clearSideFlags role all).caps = pair.caps := by
  simp only [clearSideFlags]
  split <;> split <;> rfl

theorem spendCap_cases (reason : TaskPairCappedReason) :
    (pair.caps.used reason < taskPairMessageCapPerRound ∧
      ∃ spent, pair.spendCap reason = (true, spent, [])) ∨
    (taskPairMessageCapPerRound ≤ pair.caps.used reason ∧
      ∃ spent, pair.spendCap reason = (false, spent,
        if reason.flag ∈ pair.flags then [] else [.brainNotice reason.flag])) := by
  unfold spendCap
  extract_lets counted used
  have flags : counted.flags = pair.flags := by
    simp only [counted]
    split <;> rfl
  have counts : counted.capCounts = pair.caps.counted := by
    simp only [counted, CapRecord.counted]
    split
    · next same => exact (if_pos same).symm
    · next stale => exact (if_neg stale).symm
  have usedCaps : used = pair.caps.used reason := by
    simp only [used, capCount, counts]
    rfl
  clear_value used counted
  subst usedCaps
  by_cases below : pair.caps.used reason < taskPairMessageCapPerRound
  · exact .inl ⟨below, _, if_pos below⟩
  · refine .inr ⟨by omega, ?_⟩
    rw [if_neg below]
    by_cases flagged : reason.flag ∈ pair.flags
    · exact ⟨counted, by simp [flags, flagged]⟩
    · exact ⟨counted.addFlag reason.flag, by simp [flags, flagged]⟩

end

end TaskPairState

/-! ## Messages sent -/

def TaskPairIntent.isPolicyNotice : TaskPairIntent → Bool
  | .policyNotice .. => true
  | _ => false

/-! ## Messages asked for -/

section
variable (host : TaskPairHost) (draft : Draft)

def mayCheck (check : TaskPairChecklistCheck) : Bool :=
  draft.role = .brain || draft.role = .daemon ||
    (check.box = .implemented && draft.role = .executor) ||
    (check.box = .audited && draft.role = .auditor)

def takesVerdict : Bool :=
  draft.pair.hasAudit && draft.pair.status = .inAudit && draft.pair.material.isSome &&
    (draft.role = .auditor || draft.roleAuthority)

def opensNextRound : Bool :=
  draft.brainAuthority && !draft.terminal && draft.pair.status = .passed &&
    !((truthy ((draft.marker.attrs.get? "base").map trim)).any fun base => !(isRoundBase base))

/-- A DONE that is not answered by a rejection. -/
def acceptsDone : Bool :=
  draft.terminal || (draft.role = .brain && isTrue (draft.marker.attrs.get? "force")) ||
    (draft.pair.hasAudit && draft.role = .executor && draft.pair.status = .passed) ||
    (!draft.pair.hasAudit && draft.roleAuthority) ||
    (!draft.pair.hasAudit && draft.role = .executor &&
      draft.pair.status ≠ .awaitingBrainDecision)

def verdictMessage (verb : TaskPairVerdictVerb) : Option TaskPairCappedReason :=
  if !(takesVerdict draft) || (verb = .pass && draft.pair.materialHold.isSome) then
    some .policyRejection
  else if isAppliedVerdict
      (judgeTaskPairVerdict verb draft.marker.attrs draft.pair.blocking).judgement then none
  else some .verdictCorrection

/-- The capped message a verb asks to send. -/
def cappedMessage : TaskPairVerb → Option TaskPairCappedReason
  | .check =>
    if (parseTaskPairChecklistCheck draft.marker.attrs).any (mayCheck draft) then none
    else some .policyRejection
  | .dispatch => if draft.roleAuthority && draft.terminal then some .policyRejection else none
  | .started | .working =>
    if !(isGuardedProgress draft) && draft.pair.status = .awaitingBrainDecision &&
      !(draft.role = .executor || draft.roleAuthority) then some .policyRejection
    else none
  | .readyForAudit =>
    if draft.pair.hasAudit &&
      (mismatchedBase host draft.pair draft.marker.attrs draft.ctx.now).isSome then
      some .policyRejection
    else none
  | .pass => verdictMessage draft .pass
  | .rework => verdictMessage draft .rework
  | .nextRound => if opensNextRound draft then none else some .policyRejection
  | .done => if acceptsDone draft then none else some .policyRejection
  | .blocked =>
    if !draft.terminal && !draft.roleAuthority && draft.role = .executor &&
      isAboutAuditor draft.marker.attrs && draft.pair.hasAudit then some .blockedReplacement
    else none
  | .cancel => if draft.roleAuthority then none else some .policyRejection
  | .queue | .needsInput | .reassign | .claim => none

end

theorem touched_caps (verb : TaskPairVerb) (draft : Draft) :
    (touched draft verb).pair.caps = draft.pair.caps ∧
      (touched draft verb).intents = draft.intents := by
  unfold touched
  extract_lets stamped cleared
  have clearedCaps : cleared.pair.caps = draft.pair.caps := by
    simp only [cleared]
    split
    · exact caps_clearSideFlags _ _ _
    · rfl
  have clearedIntents : cleared.intents = draft.intents := by
    simp only [cleared]
    split <;> rfl
  split
  · exact ⟨(caps_resolveTaskPairBrainWait _ _ _ _).trans clearedCaps, clearedIntents⟩
  · exact ⟨clearedCaps, clearedIntents⟩

end ImCodes.TaskPair
