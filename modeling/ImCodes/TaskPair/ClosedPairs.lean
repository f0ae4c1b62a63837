import ImCodes.Library.Run
import ImCodes.TaskPair.Caps

/-!
# Closed pairs

A pair that is done or cancelled is history to everyone: only a QUEUE of its Brain or the
daemon takes it up again, and until then each other writer hears once that it is closed.
-/

set_option autoImplicit false

namespace ImCodes.TaskPair

open Library TaskPairState

/-! ## Who was told -/

/-- A transition that tells nobody of a closure and forgets nobody who was told. -/
structure TellsNobody (told : List String) (transition : TaskPairTransition) : Prop where
  silent : ∀ target, .closedPairNotice target ∉ transition.intents
  keeps : ∀ after, transition.pair = some after → after.closedNoticeSentTo = told

namespace TaskPairState

section
variable (pair : TaskPairState)

@[simp] theorem told_addFlag (flag : TaskPairFlag) :
    (pair.addFlag flag).closedNoticeSentTo = pair.closedNoticeSentTo := by
  simp only [addFlag]
  split <;> rfl

@[simp] theorem told_clearSideFlags (role : TaskPairRole) (all : Bool) :
    (pair.clearSideFlags role all).closedNoticeSentTo = pair.closedNoticeSentTo := by
  simp only [clearSideFlags]
  split <;> split <;> rfl

@[simp] theorem told_resolveTaskPairBrainWait (now : Int) (writer : String)
    (note : Option String) :
    (pair.resolveTaskPairBrainWait now writer note).closedNoticeSentTo =
      pair.closedNoticeSentTo := by
  simp only [resolveTaskPairBrainWait]
  split <;> rfl

@[simp] theorem told_applyBlockingAttr (attrs : TaskPairAttrs) :
    (pair.applyBlockingAttr attrs).closedNoticeSentTo = pair.closedNoticeSentTo := by
  simp only [applyBlockingAttr]
  split <;> rfl

@[simp] theorem told_applyOutputAttr (attrs : TaskPairAttrs) :
    (pair.applyOutputAttr attrs).closedNoticeSentTo = pair.closedNoticeSentTo := by
  simp only [applyOutputAttr]
  split <;> rfl

@[simp] theorem told_setRolesFromAttrsQueued (attrs : TaskPairAttrs) :
    (pair.setRolesFromAttrsQueued attrs).closedNoticeSentTo = pair.closedNoticeSentTo := by
  simp only [setRolesFromAttrsQueued, told_applyBlockingAttr]
  rfl

@[simp] theorem told_setRolesFromAttrs (attrs : TaskPairAttrs) :
    (pair.setRolesFromAttrs attrs).1.closedNoticeSentTo = pair.closedNoticeSentTo := by
  obtain ⟨_, _, _, _, changes⟩ := pair.setRolesFromAttrs_changes attrs
  rw [changes]
  rfl

@[simp] theorem told_spendCap (reason : TaskPairCappedReason) :
    (pair.spendCap reason).2.1.closedNoticeSentTo = pair.closedNoticeSentTo := by
  obtain ⟨_, _, _, changes⟩ := pair.spendCap_changes reason
  rw [changes]

theorem spendCap_silent (reason : TaskPairCappedReason) (target : String) :
    .closedPairNotice target ∉ (pair.spendCap reason).2.2 := by
  unfold spendCap
  extract_lets counted used
  split
  · simp
  · split <;> simp

end

end TaskPairState

section
variable {host : TaskPairHost} {draft : Draft} {told : List String}

theorem tellsNobody_keep : TellsNobody told draft.keep :=
  ⟨by simp [Draft.keep, recorded], by simp [Draft.keep, recorded]⟩

theorem tellsNobody_keepQuietly : TellsNobody told draft.keepQuietly :=
  ⟨by simp [Draft.keepQuietly, recorded], by simp [Draft.keepQuietly, recorded]⟩

theorem tellsNobody_done {effect : TaskPairEffect}
    (silent : ∀ target, .closedPairNotice target ∉ draft.intents)
    (keeps : draft.pair.closedNoticeSentTo = told) : TellsNobody told (draft.done effect) := by
  refine ⟨silent, ?_⟩
  intro after written
  cases written
  exact keeps

theorem tellsNobody_dismissed {existing : TaskPairState} {now : Int}
    (keeps : existing.closedNoticeSentTo = told) :
    TellsNobody told (dismissIntegration existing now) := by
  unfold dismissIntegration
  split
  · exact ⟨by simp [recorded], by simp [recorded]⟩
  · refine ⟨by simp, ?_⟩
    intro after written
    cases written
    exact keeps

section
variable (silent : ∀ target, .closedPairNotice target ∉ draft.intents)
include silent

theorem tellsNobody_reject (text : String) :
    TellsNobody draft.pair.closedNoticeSentTo (draft.reject text) := by
  have quiet := draft.pair.spendCap_silent .policyRejection
  have kept := draft.pair.told_spendCap .policyRejection
  unfold Draft.reject
  generalize draft.pair.spendCap .policyRejection = spending at quiet kept ⊢
  obtain ⟨allowed, spent, notices⟩ := spending
  cases allowed with
  | false => exact tellsNobody_keep
  | true =>
    refine tellsNobody_done ?_ kept
    intro target
    simpa [Draft.push, silent] using quiet target

theorem applyCheck_told :
    TellsNobody draft.pair.closedNoticeSentTo (applyCheck host draft) := by
  unfold applyCheck
  split
  · exact tellsNobody_reject silent _
  · extract_lets allowed currentBrief
    split
    · exact tellsNobody_reject silent _
    · generalize host.applyTaskPairChecklistCheck currentBrief _ = changed
      obtain ⟨markdown, indexes⟩ := changed
      dsimp only
      split
      · exact tellsNobody_done silent rfl
      · exact tellsNobody_done silent rfl

theorem applyQueue_told (running : draft.roleAuthority = false ∨ draft.terminal = false) :
    TellsNobody draft.pair.closedNoticeSentTo (applyQueue draft) := by
  unfold applyQueue
  extract_lets named reopened
  cases authorised : draft.roleAuthority with
  | false => exact tellsNobody_keep
  | true =>
    have open_ : draft.terminal = false := by simpa [authorised] using running
    rw [if_neg (by simp), open_]
    split
    · exact tellsNobody_done silent (told_setRolesFromAttrsQueued _ _)
    · exact tellsNobody_keep

omit silent in
theorem requeued_told {reset : Draft} (silent : ∀ target, .closedPairNotice target ∉ reset.intents) :
    TellsNobody reset.pair.closedNoticeSentTo (requeued reset) := by
  refine tellsNobody_done ?_ (told_setRolesFromAttrsQueued _ _)
  intro target
  simpa [Draft.push, Draft.update] using silent target

omit silent in
theorem setRolesFromAttrs_silent (pair : TaskPairState) (attrs : TaskPairAttrs)
    (target : String) : .closedPairNotice target ∉ (pair.setRolesFromAttrs attrs).2 := by
  unfold setRolesFromAttrs
  extract_lets audited named
  split <;> simp

theorem applyDispatch_told :
    TellsNobody draft.pair.closedNoticeSentTo (applyDispatch draft) := by
  have notices := setRolesFromAttrs_silent (draft.update resetCaps).pair draft.marker.attrs
  have named : ((draft.update resetCaps).pair.setRolesFromAttrs
      draft.marker.attrs).1.closedNoticeSentTo = draft.pair.closedNoticeSentTo :=
    told_setRolesFromAttrs _ _
  have queues := @requeued_told (draft.update resetCaps) silent
  have queuesBriefed := @requeued_told
    ((draft.update resetCaps).update (·.withBrief draft.marker.brief)) silent
  simp only [applyDispatch]
  generalize (draft.update resetCaps).pair.setRolesFromAttrs draft.marker.attrs = naming
    at notices named ⊢
  obtain ⟨pair, intents⟩ := naming
  dsimp only at notices named ⊢
  have placedSilent : ∀ target, .closedPairNotice target ∉ draft.intents ++ intents := by
    intro target
    simpa [silent] using notices target
  split
  · exact tellsNobody_keep
  · split
    · exact tellsNobody_reject silent _
    · split
      · split
        · exact queuesBriefed
        · exact tellsNobody_done placedSilent named
      · split
        · exact queuesBriefed
        · split
          · exact queues
          · split
            · refine tellsNobody_done ?_ ?_
              · intro target
                simp only [Draft.push, Draft.update]
                split <;> simpa using placedSilent target
              · simp only [Draft.push, Draft.update]
                split <;> exact named
            · refine tellsNobody_done ?_ ?_
              · intro target
                simp only [Draft.push, Draft.update]
                split <;> simpa using placedSilent target
              · simp only [Draft.push, Draft.update]
                split <;> exact named

theorem applyProgress_told (verb : TaskPairVerb)
    (same : draft.existing.closedNoticeSentTo = draft.pair.closedNoticeSentTo) :
    TellsNobody draft.pair.closedNoticeSentTo (applyProgress draft verb) := by
  unfold applyProgress
  extract_lets existing guarded status noted announced
  have announcedSilent : ∀ target, .closedPairNotice target ∉ announced.intents := by
    intro target
    simp only [announced]
    split
    · simpa [Draft.push] using silent target
    · exact silent target
  have announcedTold : announced.pair.closedNoticeSentTo = draft.pair.closedNoticeSentTo := by
    simp only [announced]
    split <;> rfl
  split
  · split
    · exact ⟨by simp [guarded, recorded], by simp [guarded, recorded]⟩
    · refine ⟨by simp, ?_⟩
      intro after written
      cases written
      exact same
  · split
    · split
      · exact tellsNobody_done silent rfl
      · exact tellsNobody_reject silent _
    · split
      · exact tellsNobody_done announcedSilent announcedTold
      · exact tellsNobody_done announcedSilent announcedTold

theorem openAuditRound_told :
    TellsNobody draft.pair.closedNoticeSentTo (openAuditRound draft) := by
  unfold openAuditRound
  extract_lets status noted announced opened
  have openedSilent : ∀ target, .closedPairNotice target ∉ opened.intents := by
    intro target
    simp only [opened, announced, Draft.update]
    split
    · simpa [Draft.push] using silent target
    · exact silent target
  have openedTold : opened.pair.closedNoticeSentTo = draft.pair.closedNoticeSentTo := by
    simp only [opened, announced, Draft.update]
    split <;> split <;> rfl
  split
  · refine tellsNobody_done ?_ ((told_addFlag _ _).trans openedTold)
    intro target
    simpa [Draft.push, Draft.update] using openedSilent target
  · refine tellsNobody_done ?_ openedTold
    intro target
    simp only [Draft.push, auditRequests]
    split <;> simpa using openedSilent target

theorem applyReady_told :
    TellsNobody draft.pair.closedNoticeSentTo (applyReady host draft) := by
  unfold applyReady
  extract_lets attrs now quiet submitted
  split
  · exact tellsNobody_keep
  · split
    · exact tellsNobody_reject silent _
    · split
      · exact ⟨by simp [quiet, Draft.keepQuietly, recorded],
          by simp [quiet, Draft.keepQuietly, recorded]⟩
      · split
        · split
          · refine tellsNobody_done ?_ rfl
            intro target
            have submittedSilent : .closedPairNotice target ∉ submitted.intents := silent target
            simp only [Draft.push, auditRequests]
            split <;> simpa using submittedSilent
          · exact tellsNobody_done silent rfl
        · exact @openAuditRound_told submitted silent

theorem holdPass_told (held : TaskPairMaterialHold) :
    TellsNobody draft.pair.closedNoticeSentTo (holdPass draft held) := by
  unfold holdPass
  extract_lets blocked
  have rejected : TellsNobody draft.pair.closedNoticeSentTo blocked := tellsNobody_reject silent _
  split
  · refine ⟨?_, rejected.keeps⟩
    intro target
    simpa using rejected.silent target
  · exact rejected

theorem applyVerdict_told (verb : TaskPairVerdictVerb)
    (verdict : TaskPairVerdictJudgementResult) :
    (∀ target, .closedPairNotice target ∉ (applyVerdict host draft verb verdict).intents) ∧
      (applyVerdict host draft verb verdict).pair.closedNoticeSentTo =
        draft.pair.closedNoticeSentTo := by
  unfold applyVerdict
  extract_lets turnText judged cleared wasRework reworked noticed
  have judgedSilent : ∀ target, .closedPairNotice target ∉ judged.intents := silent
  have reworkedSilent : ∀ target, .closedPairNotice target ∉ reworked.intents := silent
  have noticedSilent : ∀ target, .closedPairNotice target ∉ noticed.intents := by
    intro target
    simp only [noticed]
    split
    · split
      · exact reworkedSilent target
      · simpa [Draft.push] using reworkedSilent target
    · exact reworkedSilent target
  have noticedTold : noticed.pair.closedNoticeSentTo = draft.pair.closedNoticeSentTo := by
    simp only [noticed]
    split
    · split <;> rfl
    · rfl
  split
  · have quiet := judged.pair.spendCap_silent .verdictCorrection
    have kept := judged.pair.told_spendCap .verdictCorrection
    generalize judged.pair.spendCap .verdictCorrection = spending at quiet kept ⊢
    obtain ⟨allowed, spent, notices⟩ := spending
    cases allowed with
    | false =>
      refine ⟨?_, kept⟩
      intro target
      simpa [Draft.push, judgedSilent] using quiet target
    | true =>
      refine ⟨?_, kept⟩
      intro target
      simpa [Draft.push, judgedSilent] using quiet target
  · cases verb with
    | pass => exact ⟨silent, rfl⟩
    | rework =>
      dsimp -zeta only
      split
      · extract_lets nudged
        have nudgedSilent : ∀ target, .closedPairNotice target ∉ nudged.intents := by
          intro target
          simp only [nudged]
          split
          · simpa [Draft.push, Draft.update] using noticedSilent target
          · exact noticedSilent target
        have nudgedTold : nudged.pair.closedNoticeSentTo = draft.pair.closedNoticeSentTo := by
          simp only [nudged]
          split
          · exact noticedTold
          · exact noticedTold
        split
        · refine ⟨?_, nudgedTold⟩
          intro target
          simpa [Draft.push] using nudgedSilent target
        · exact ⟨nudgedSilent, nudgedTold⟩
      · exact ⟨noticedSilent, noticedTold⟩

theorem applyVerdictMarker_told (verb : TaskPairVerdictVerb) :
    TellsNobody draft.pair.closedNoticeSentTo (applyVerdictMarker host draft verb) := by
  unfold applyVerdictMarker
  extract_lets verbText
  split
  · exact tellsNobody_reject silent _
  · split
    · exact tellsNobody_reject silent _
    · split
      · exact holdPass_told silent _
      · rename_i verb _ _ verdict noted judged settled given unheld
        have notedSilent : ∀ target, .closedPairNotice target ∉ noted.intents := silent
        obtain ⟨quiet, kept⟩ := @applyVerdict_told host noted notedSilent verb verdict
        have settledIntents : settled.intents = (applyVerdict host noted verb verdict).intents := by
          simp only [settled]
          split <;> rfl
        have settledTold : settled.pair.closedNoticeSentTo = draft.pair.closedNoticeSentTo := by
          refine Eq.trans ?_ kept
          simp only [settled]
          split <;> rfl
        have settledSilent : ∀ target, .closedPairNotice target ∉ settled.intents := by
          rw [settledIntents]
          exact quiet
        have written : TellsNobody draft.pair.closedNoticeSentTo given :=
          tellsNobody_done settledSilent settledTold
        exact ⟨written.silent, written.keeps⟩

theorem applyNextRound_told :
    TellsNobody draft.pair.closedNoticeSentTo (applyNextRound draft) := by
  unfold applyNextRound
  extract_lets taskId named previousHead commit deliveryRound note opened
  split
  · exact tellsNobody_reject silent _
  · split
    · exact tellsNobody_reject silent _
    · split
      · exact tellsNobody_reject silent _
      · split
        · exact tellsNobody_reject silent _
        · refine tellsNobody_done ?_ (told_resolveTaskPairBrainWait _ _ _ _)
          intro target
          simpa [Draft.push, opened, Draft.update] using silent target

theorem applyDone_told (same : draft.existing.closedNoticeSentTo = draft.pair.closedNoticeSentTo) :
    TellsNobody draft.pair.closedNoticeSentTo (applyDone draft) := by
  unfold applyDone
  extract_lets attrs stated close hasAudit
  have statedTold : stated.pair.closedNoticeSentTo = draft.pair.closedNoticeSentTo :=
    told_applyOutputAttr _ _
  have closes : ∀ closing : Draft, closing.intents = draft.intents →
      closing.pair.closedNoticeSentTo = draft.pair.closedNoticeSentTo → ∀ effect,
      TellsNobody draft.pair.closedNoticeSentTo (close closing effect) := by
    intro closing intents kept effect
    refine tellsNobody_done ?_ kept
    intro target
    simpa [Draft.push, Draft.update, intents] using silent target
  split
  · exact tellsNobody_dismissed same
  · split
    · exact tellsNobody_keepQuietly
    · split
      · split
        · exact closes (stated.update (·.addFlag .unaudited)) rfl
            ((told_addFlag _ _).trans statedTold) _
        · exact closes stated rfl statedTold _
      · split
        · exact closes stated rfl statedTold _
        · split
          · exact closes stated rfl statedTold _
          · split
            · exact tellsNobody_done silent statedTold
            · exact tellsNobody_reject silent _

theorem applyWait_told (verb : TaskPairVerb) :
    TellsNobody draft.pair.closedNoticeSentTo (applyWait draft verb) := by
  unfold applyWait
  extract_lets attrs flag side freshlyFlagged flagged told
  have flaggedTold : flagged.pair.closedNoticeSentTo = draft.pair.closedNoticeSentTo :=
    told_addFlag _ _
  have toldPair : told.pair.closedNoticeSentTo = draft.pair.closedNoticeSentTo := by
    refine Eq.trans ?_ flaggedTold
    simp only [told]
    split <;> rfl
  have toldSilent : ∀ target, .closedPairNotice target ∉ told.intents := by
    have flaggedSilent : ∀ target, .closedPairNotice target ∉ flagged.intents := silent
    intro target
    simp only [told]
    split
    · simpa [Draft.push] using flaggedSilent target
    · exact flaggedSilent target
  split
  · exact tellsNobody_keepQuietly
  · split
    · exact tellsNobody_done silent rfl
    · split
      · have quiet := told.pair.spendCap_silent .blockedReplacement
        have kept := told.pair.told_spendCap .blockedReplacement
        generalize told.pair.spendCap .blockedReplacement = spending at quiet kept ⊢
        obtain ⟨allowed, spent, notices⟩ := spending
        cases allowed with
        | false =>
          refine tellsNobody_done ?_ (kept.trans toldPair)
          intro target
          simpa [Draft.push, toldSilent] using quiet target
        | true =>
          refine tellsNobody_done ?_ (kept.trans toldPair)
          intro target
          simpa [Draft.push, toldSilent] using quiet target
      · exact tellsNobody_done toldSilent toldPair

theorem applyReassign_told :
    TellsNobody draft.pair.closedNoticeSentTo (applyReassign draft) := by
  unfold applyReassign
  extract_lets attrs reset resumed rolesChanged
  split
  · exact tellsNobody_keep
  · have resumedTold : resumed.pair.closedNoticeSentTo = draft.pair.closedNoticeSentTo := by
      simp only [resumed, reset]
      split <;> split <;> rfl
    have resumedSilent : ∀ target, .closedPairNotice target ∉ resumed.intents := by
      intro target
      simp only [resumed, reset]
      split <;> split <;> exact silent target
    have named := (told_setRolesFromAttrs resumed.pair attrs).trans resumedTold
    have notices := setRolesFromAttrs_silent resumed.pair attrs
    generalize resumed.pair.setRolesFromAttrs attrs = naming at named notices ⊢
    obtain ⟨pair, intents⟩ := naming
    dsimp -zeta only at named notices ⊢
    extract_lets placed queued picked settled
    have placedTold : placed.pair.closedNoticeSentTo = draft.pair.closedNoticeSentTo := by
      refine Eq.trans ?_ named
      simp only [placed, Draft.update]
      split
      · split
        · split <;> rfl
        · rfl
      · split
        · split <;> rfl
        · rfl
    have placedSilent : ∀ target, .closedPairNotice target ∉ placed.intents := by
      intro target
      simpa [placed, Draft.push, Draft.update, resumedSilent] using notices target
    have queuedTold : queued.pair.closedNoticeSentTo = draft.pair.closedNoticeSentTo := by
      refine Eq.trans ?_ placedTold
      simp only [queued]
      split
      · simp only [Draft.push, Draft.update]
        split
        · exact told_addFlag _ _
        · rfl
      · split <;> rfl
    have queuedSilent : ∀ target, .closedPairNotice target ∉ queued.intents := by
      intro target
      simp only [queued]
      split
      · simpa [Draft.push, Draft.update] using placedSilent target
      · split
        · simpa [Draft.push] using placedSilent target
        · exact placedSilent target
    have pickedTold : picked.pair.closedNoticeSentTo = draft.pair.closedNoticeSentTo := by
      refine Eq.trans ?_ queuedTold
      simp only [picked]
      split <;> rfl
    have pickedSilent : ∀ target, .closedPairNotice target ∉ picked.intents := by
      intro target
      simp only [picked]
      split
      · simpa [Draft.push] using queuedSilent target
      · exact queuedSilent target
    refine tellsNobody_done pickedSilent ?_
    refine Eq.trans ?_ pickedTold
    simp only [settled, Draft.update]
    split
    · split <;> rfl
    · split <;> rfl

theorem applyCancel_told
    (same : draft.existing.closedNoticeSentTo = draft.pair.closedNoticeSentTo) :
    TellsNobody draft.pair.closedNoticeSentTo (applyCancel draft) := by
  unfold applyCancel
  split
  · exact tellsNobody_reject silent _
  · split
    · exact tellsNobody_dismissed same
    · split
      · exact tellsNobody_keepQuietly
      · refine tellsNobody_done ?_ rfl
        intro target
        simpa [Draft.push, Draft.update] using silent target

end

theorem touched_told (draft : Draft) (verb : TaskPairVerb) :
    (touched draft verb).pair.closedNoticeSentTo = draft.pair.closedNoticeSentTo := by
  unfold touched
  extract_lets stamped cleared
  have clearedTold : cleared.pair.closedNoticeSentTo = draft.pair.closedNoticeSentTo := by
    simp only [cleared]
    split
    · exact told_clearSideFlags _ _ _
    · rfl
  split
  · exact (told_resolveTaskPairBrainWait _ _ _ _).trans clearedTold
  · exact clearedTold

end

/-! ## What a marker does to a closed pair -/

/-- What a closed pair holds on to. -/
structure ClosedRecord where
  status : TaskPairStatus
  executor : Option String
  auditor : Option String
  brief : Option String
  material : Option TaskPairMaterial
  round : Nat
  deliveryRound : Option Nat
  passRound : Option Nat
  lastVerdict : Option TaskPairLastVerdict

def TaskPairState.closedRecord (pair : TaskPairState) : ClosedRecord where
  status := pair.status
  executor := pair.executor
  auditor := pair.auditor
  brief := pair.brief
  material := pair.material
  round := pair.round
  deliveryRound := pair.deliveryRound
  passRound := pair.passRound
  lastVerdict := pair.lastVerdict

def Preserves (record : ClosedRecord) (transition : TaskPairTransition) : Prop :=
  ∀ after, transition.pair = some after → after.closedRecord = record

section
variable {host : TaskPairHost} {draft : Draft} {record : ClosedRecord}

theorem preserves_unwritten {transition : TaskPairTransition} (unwritten : transition.pair = none) :
    Preserves record transition := by
  intro after written
  simp [unwritten] at written

theorem preserves_written {transition : TaskPairTransition} {after : TaskPairState}
    (written : transition.pair = some after) (same : after.closedRecord = record) :
    Preserves record transition := by
  intro other found
  cases written.symm.trans found
  exact same

theorem closedRecord_addFlag (pair : TaskPairState) (flag : TaskPairFlag) :
    (pair.addFlag flag).closedRecord = pair.closedRecord := by
  simp only [addFlag]
  split <;> rfl

theorem closedRecord_spendCap (pair : TaskPairState) (reason : TaskPairCappedReason) :
    (pair.spendCap reason).2.1.closedRecord = pair.closedRecord := by
  unfold spendCap
  extract_lets counted used
  have countedSame : counted.closedRecord = pair.closedRecord := by
    simp only [counted]
    split <;> rfl
  split
  · exact countedSame
  · split
    · exact countedSame
    · exact (closedRecord_addFlag _ _).trans countedSame

theorem preserves_reject (text : String) :
    Preserves draft.pair.closedRecord (draft.reject text) := by
  have kept := closedRecord_spendCap draft.pair .policyRejection
  unfold Draft.reject
  generalize draft.pair.spendCap .policyRejection = spending at kept ⊢
  obtain ⟨allowed, spent, notices⟩ := spending
  cases allowed with
  | false => exact preserves_unwritten rfl
  | true => exact preserves_written rfl kept

theorem preserves_dismissed {existing : TaskPairState} {now : Int}
    (same : existing.closedRecord = record) :
    Preserves record (dismissIntegration existing now) := by
  unfold dismissIntegration
  split
  · exact preserves_unwritten rfl
  · exact preserves_written rfl same

theorem closedRecord_touched (verb : TaskPairVerb)
    (decided : draft.pair.status ≠ .awaitingBrainDecision) :
    (touched draft verb).pair.closedRecord = draft.pair.closedRecord := by
  have cleared : ∀ (pair : TaskPairState) (role : TaskPairRole) (all : Bool),
      (pair.clearSideFlags role all).closedRecord = pair.closedRecord := by
    intro pair role all
    simp only [clearSideFlags]
    split <;> split <;> rfl
  unfold touched
  extract_lets stamped cleanly
  have cleanlySame : cleanly.pair.closedRecord = draft.pair.closedRecord := by
    simp only [cleanly]
    split
    · exact cleared _ _ _
    · rfl
  split
  · have status : cleanly.pair.status = draft.pair.status :=
      congrArg ClosedRecord.status cleanlySame
    simp only [Draft.update, resolveTaskPairBrainWait]
    rw [if_neg]
    · exact cleanlySame
    · exact fun awaiting => decided (status.symm.trans awaiting)
  · exact cleanlySame

theorem applyVerb_preserves (verb : TaskPairVerb) (terminal : draft.terminal = true)
    (same : draft.existing.closedRecord = draft.pair.closedRecord)
    (other : ¬ (verb = .queue ∧ draft.roleAuthority = true)) :
    Preserves draft.pair.closedRecord (applyVerb host draft verb) := by
  unfold applyVerb
  split
  · exact preserves_unwritten rfl
  · rename_i timely
    have unpassed : reopensPassed draft verb = false := by
      have status : draft.pair.status = draft.existing.status :=
        (congrArg ClosedRecord.status same).symm
      have closed : draft.existing.status ≠ .passed := by
        intro passed
        simp [Draft.terminal, passed, isTerminalTaskPairStatus] at terminal
      simp [reopensPassed, status, closed]
    rw [if_neg (by simp [unpassed])]
    cases verb with
    | check | started | working | readyForAudit | pass | rework =>
      simp [isHistorical, terminal] at timely
    | queue =>
      have unauthorised : draft.roleAuthority = false := by simpa using other
      simp only [applyQueue, unauthorised]
      exact preserves_unwritten rfl
    | dispatch =>
      simp only [applyDispatch, terminal]
      split
      · exact preserves_unwritten rfl
      · exact preserves_reject _
    | nextRound =>
      simp only [applyNextRound, terminal]
      split
      · exact preserves_reject _
      · exact preserves_reject _
    | done =>
      change Preserves draft.pair.closedRecord (applyDone draft)
      unfold applyDone
      extract_lets attrs stated close hasAudit
      split
      · exact preserves_dismissed same
      · exact preserves_unwritten rfl
    | blocked | needsInput =>
      simp only [applyWait, terminal]
      exact preserves_unwritten rfl
    | reassign =>
      simp only [applyReassign, terminal, Bool.or_true]
      exact preserves_unwritten rfl
    | cancel =>
      change Preserves draft.pair.closedRecord (applyCancel draft)
      unfold applyCancel
      split
      · exact preserves_reject _
      · split
        · exact preserves_dismissed same
        · exact preserves_unwritten rfl
    | claim => exact preserves_unwritten rfl

theorem guardedMarker_preserves {verb : TaskPairVerb} {transition : TaskPairTransition}
    (guarded : guardedMarker draft verb = some transition) :
    Preserves draft.existing.closedRecord transition := by
  intro after written
  obtain ⟨told, title, rfl⟩ := guardedMarker_written guarded written
  rfl

end

section
variable (host : TaskPairHost) (pair : TaskPairState) (verb : TaskPairVerb)
  (marker : TaskPairMarker) (ctx : TaskPairApplyContext)

theorem applyToPair_preserves (closed : isTerminalTaskPairStatus pair.status = true)
    (other : ¬ (verb = .queue ∧ (draftOf pair marker ctx).roleAuthority = true)) :
    Preserves pair.closedRecord (applyToPair host pair verb marker ctx) := by
  unfold applyToPair
  extract_lets draft
  split
  · rename_i transition guarded
    exact guardedMarker_preserves guarded
  · have decided : draft.pair.status ≠ .awaitingBrainDecision := by
      intro awaiting
      have status : pair.status = .awaitingBrainDecision := awaiting
      simp [status, isTerminalTaskPairStatus] at closed
    have same := closedRecord_touched verb decided
    have kept := @applyVerb_preserves host (touched draft verb) verb
      (by rw [touched_terminal]; exact closed) (by rw [touched_existing, same]; rfl)
      (by rw [touched_roleAuthority]; exact other)
    rw [same] at kept
    exact kept

/-- A transition that tells nobody, tells its writer for the first time, or takes a closed
pair up again. -/
inductive TellsAtMostOnce (pair : TaskPairState) (ctx : TaskPairApplyContext)
    (transition : TaskPairTransition) : Prop where
  | nobody (tells : TellsNobody pair.closedNoticeSentTo transition) :
      TellsAtMostOnce pair ctx transition
  | writer (untold : ctx.writer ∉ pair.closedNoticeSentTo)
      (intents : transition.intents = [.closedPairNotice ctx.writer])
      (after : TaskPairState) (written : transition.pair = some after)
      (told : after.closedNoticeSentTo = pair.closedNoticeSentTo ++ [ctx.writer]) :
      TellsAtMostOnce pair ctx transition
  | reopened (closed : isTerminalTaskPairStatus pair.status = true)
      (silent : ∀ target, .closedPairNotice target ∉ transition.intents)
      (after : TaskPairState) (written : transition.pair = some after)
      (queued : after.status = .queued) : TellsAtMostOnce pair ctx transition

theorem guardedMarker_told {transition : TaskPairTransition}
    (guarded : guardedMarker (draftOf pair marker ctx) verb = some transition) :
    TellsAtMostOnce pair ctx transition := by
  simp only [guardedMarker] at guarded
  split at guarded
  · cases guarded
    exact .nobody tellsNobody_keep
  · split at guarded
    · cases guarded
      exact .nobody ⟨by simp [recorded], by simp [recorded]⟩
    · split at guarded
      · cases guarded
        unfold noticeClosed
        extract_lets existing
        split
        · exact .nobody tellsNobody_keep
        · rename_i untold
          exact .writer (by simpa [existing, draftOf] using untold) rfl _ rfl rfl
      · split at guarded
        · cases guarded
          unfold updateTitle
          split
          · split
            · refine .nobody ⟨by simp, ?_⟩
              intro after written
              cases written
              rfl
            · exact .nobody tellsNobody_keep
          · exact .nobody tellsNobody_keep
        · split at guarded
          · cases guarded
            exact .nobody tellsNobody_keepQuietly
          · cases guarded

theorem applyVerb_told (draft : Draft) (silent : ∀ target, .closedPairNotice target ∉ draft.intents)
    (same : draft.existing.closedNoticeSentTo = draft.pair.closedNoticeSentTo)
    (reopens : verb = .queue → draft.roleAuthority = false ∨ draft.terminal = false) :
    TellsNobody draft.pair.closedNoticeSentTo (applyVerb host draft verb) := by
  unfold applyVerb
  split
  · exact tellsNobody_keep
  · split
    · refine tellsNobody_done ?_ rfl
      intro target
      simpa [Draft.push, Draft.update] using silent target
    · cases verb with
      | check => exact applyCheck_told silent
      | queue => exact applyQueue_told silent (reopens rfl)
      | dispatch => exact applyDispatch_told silent
      | started => exact applyProgress_told silent _ same
      | working => exact applyProgress_told silent _ same
      | readyForAudit => exact applyReady_told silent
      | pass => exact applyVerdictMarker_told silent .pass
      | rework => exact applyVerdictMarker_told silent .rework
      | nextRound => exact applyNextRound_told silent
      | done => exact applyDone_told silent same
      | blocked => exact applyWait_told silent _
      | needsInput => exact applyWait_told silent _
      | reassign => exact applyReassign_told silent
      | cancel => exact applyCancel_told silent same
      | claim => exact tellsNobody_keep

theorem applyToPair_told :
    TellsAtMostOnce pair ctx (applyToPair host pair verb marker ctx) := by
  unfold applyToPair
  extract_lets draft
  split
  · rename_i transition guarded
    exact guardedMarker_told pair verb marker ctx guarded
  · have told := touched_told draft verb
    have silent : ∀ target, .closedPairNotice target ∉ (touched draft verb).intents := by
      rw [(touched_caps verb draft).2]
      simp [draft, draftOf]
    by_cases reopens : verb = .queue ∧ draft.roleAuthority = true ∧ draft.terminal = true
    · obtain ⟨rfl, authorised, terminal⟩ := reopens
      have unqueued : (touched draft .queue).pair.status ≠ .queued := by
        intro queued
        have decided : draft.pair.status ≠ .awaitingBrainDecision := by
          intro awaiting
          simp [Draft.terminal, show draft.existing.status = .awaitingBrainDecision from awaiting,
            isTerminalTaskPairStatus] at terminal
        have status := congrArg ClosedRecord.status (closedRecord_touched .queue decided)
        have waiting : draft.existing.status = .queued := status.symm.trans queued
        simp [Draft.terminal, waiting, isTerminalTaskPairStatus] at terminal
      have timely : isHistorical (touched draft .queue) .queue = false := by simp [isHistorical]
      have kept : reopensPassed (touched draft .queue) .queue = false := by simp [reopensPassed]
      unfold applyVerb
      rw [if_neg (by simp [timely]), if_neg (by simp [kept])]
      change TellsAtMostOnce pair ctx (applyQueue (touched draft .queue))
      unfold applyQueue
      extract_lets named reopened
      rw [if_neg (by simp [authorised]), if_neg unqueued, if_pos (by simp [terminal])]
      refine .reopened terminal ?_ _ rfl rfl
      have reopenedSilent : ∀ target, .closedPairNotice target ∉ reopened.intents := silent
      intro target
      simpa [Draft.push, Draft.done] using reopenedSilent target
    · have kept := applyVerb_told host verb (touched draft verb) silent
        (by rw [touched_existing, told]; rfl) ?_
      · rw [told] at kept
        exact .nobody kept
      · rintro rfl
        rw [touched_roleAuthority, touched_terminal]
        cases authorised : draft.roleAuthority with
        | false => exact .inl rfl
        | true => exact .inr (by simpa [authorised] using reopens)

end

/-! ## Runs -/

section
variable (host : TaskPairHost)

/-- The daemon's own notes send nothing. -/
def stepTransition (pair : Option TaskPairState) (step : PairStep) : TaskPairTransition :=
  match step with
  | .marker marker ctx => applyTaskPairMarker host pair marker ctx
  | _ => { recorded pair false [] with pair := pairStep host pair step }

theorem pairStep_eq_after (pair : Option TaskPairState) (step : PairStep) :
    pairStep host pair step = (stepTransition host pair step).after pair := by
  cases step with
  | marker marker ctx => rfl
  | workspace workspace now => cases pair <;> rfl
  | scheduling scheduling now => cases pair <;> rfl
  | holdMaterial head base now => cases pair <;> rfl

def QueuesWithAuthority (existing : TaskPairState) (step : PairStep) : Prop :=
  ∃ marker ctx, step = .marker marker ctx ∧ marker.knownVerb = some .queue ∧
    (draftOf existing marker ctx).roleAuthority = true

def Reopens (pair : Option TaskPairState) (step : PairStep) : Prop :=
  ∃ existing after, pair = some existing ∧ isTerminalTaskPairStatus existing.status = true ∧
    pairStep host pair step = some after ∧ after.status ≠ existing.status

def closedNotices (writer : String) (pair : Option TaskPairState) (step : PairStep) : Nat :=
  (stepTransition host pair step).intents.count (.closedPairNotice writer)

/-- In a run every closed pair stays as it is but for an authoritative QUEUE, and between two
reopenings no writer is told twice of the closure. -/
def StaysClosed (steps : List PairStep) : Prop :=
  (∀ earlier step later existing, steps = earlier ++ step :: later →
    run (pairStep host) none earlier = some existing →
    isTerminalTaskPairStatus existing.status = true → ¬ QueuesWithAuthority existing step →
    ∃ after, pairStep host (some existing) step = some after ∧
      after.closedRecord = existing.closedRecord) ∧
  ∀ first stretch rest writer, steps = first ++ stretch ++ rest →
    Meets (pairStep host) (fun pair step => ¬ Reopens host pair step)
      (run (pairStep host) none first) stretch →
    tally (pairStep host) (closedNotices host writer) (run (pairStep host) none first) stretch ≤ 1

end

section
variable {host : TaskPairHost}

theorem closedRecord_holdMaterialOutsideBase (pair : TaskPairState) (head base : String)
    (now : Int) :
    (holdMaterialOutsideBase host pair head base now).closedRecord = pair.closedRecord := by
  unfold holdMaterialOutsideBase
  split
  · rfl
  · split
    · split <;> rfl
    · rfl

theorem pairStep_preserves {existing : TaskPairState} {step : PairStep}
    (closed : isTerminalTaskPairStatus existing.status = true)
    (other : ¬ QueuesWithAuthority existing step) :
    ∃ after, pairStep host (some existing) step = some after ∧
      after.closedRecord = existing.closedRecord := by
  cases step with
  | marker marker ctx =>
    have preserved : Preserves existing.closedRecord
        (applyTaskPairMarker host (some existing) marker ctx) := by
      rcases applyTaskPairMarker_cases host (some existing) marker ctx with
        ⟨unwritten, -⟩ | ⟨verb, known, named, ⟨impossible, -⟩ | ⟨pair, found, applied⟩⟩
      · exact preserves_unwritten unwritten
      · cases impossible
      · cases found
        rw [applied]
        refine applyToPair_preserves host existing verb marker ctx closed ?_
        rintro ⟨rfl, authorised⟩
        exact other ⟨marker, ctx, rfl, known, authorised⟩
    simp only [pairStep, TaskPairTransition.after]
    cases written : (applyTaskPairMarker host (some existing) marker ctx).pair with
    | none => exact ⟨existing, rfl, rfl⟩
    | some after => exact ⟨after, rfl, preserved after written⟩
  | workspace workspace now => exact ⟨_, rfl, rfl⟩
  | scheduling scheduling now => exact ⟨_, rfl, rfl⟩
  | holdMaterial head base now =>
    exact ⟨_, rfl, closedRecord_holdMaterialOutsideBase existing head base now⟩

/-! ## Notices -/

def toldOf (pair : Option TaskPairState) : List String :=
  (pair.map (·.closedNoticeSentTo)).getD []

section
variable (verb : TaskPairVerb) (marker : TaskPairMarker) (ctx : TaskPairApplyContext)
  (target : String)

theorem createFromProgress_silent :
    .closedPairNotice target ∉ (createFromProgress verb marker ctx).intents := by
  unfold createFromProgress
  extract_lets blank fresh
  have named := setRolesFromAttrs_silent fresh marker.attrs target
  generalize fresh.setRolesFromAttrs marker.attrs = naming at named ⊢
  obtain ⟨pair, intents⟩ := naming
  dsimp -zeta only at named ⊢
  split
  · split
    · extract_lets audited
      split
      · simpa [created] using named
      · exact named
    · exact named
  · extract_lets stated waiting
    split
    · have quiet := waiting.spendCap_silent .doneReminder target
      generalize waiting.spendCap .doneReminder = spending at quiet ⊢
      obtain ⟨allowed, spent, notices⟩ := spending
      cases allowed with
      | false => simpa [created, named] using quiet
      | true => simpa [created, named] using quiet
    · exact named
  · exact named

theorem createPair_silent : .closedPairNotice target ∉ (createPair verb marker ctx).intents := by
  cases verb with
  | queue => simp [createPair, created]
  | dispatch =>
    simp only [createPair]
    split
    · simp [created]
    · split
      · simp [created]
      · have named := setRolesFromAttrs_silent
          (newPair marker.taskId ctx.writer ctx .working) marker.attrs target
        generalize (newPair marker.taskId ctx.writer ctx .working).setRolesFromAttrs
          marker.attrs = naming at named ⊢
        obtain ⟨pair, intents⟩ := naming
        split
        · simpa [created] using named
        · exact named
  | started | working | readyForAudit | done => exact createFromProgress_silent _ marker ctx target
  | pass | rework | check | cancel | blocked | needsInput | reassign | claim | nextRound =>
    simp [createPair, recorded]

theorem applyUnnamed_silent (existing : Option TaskPairState) :
    (applyUnnamed existing verb marker ctx).pair = none ∧
      .closedPairNotice target ∉ (applyUnnamed existing verb marker ctx).intents := by
  unfold applyUnnamed
  split
  · split
    · split
      · exact ⟨rfl, by simp⟩
      · exact ⟨rfl, by simp [recorded]⟩
    · exact ⟨rfl, by simp [recorded]⟩
  · exact ⟨rfl, by simp [recorded]⟩

end

theorem closedNotices_step (writer : String) (pair : Option TaskPairState) (step : PairStep)
    (kept : ¬ Reopens host pair step) :
    toldOf pair ⊆ toldOf (pairStep host pair step) ∧
    (closedNotices host writer pair step = 0 ∨
      closedNotices host writer pair step = 1 ∧ writer ∉ toldOf pair ∧
        writer ∈ toldOf (pairStep host pair step)) := by
  have silent : ∀ existing : TaskPairState, pair = some existing →
      TellsNobody existing.closedNoticeSentTo (stepTransition host pair step) →
      toldOf pair ⊆ toldOf (pairStep host pair step) ∧
        closedNotices host writer pair step = 0 := by
    rintro existing rfl tells
    refine ⟨?_, List.count_eq_zero.mpr (tells.silent writer)⟩
    rw [pairStep_eq_after, TaskPairTransition.after]
    cases written : (stepTransition host (some existing) step).pair with
    | none => exact List.Subset.refl _
    | some after => simp [toldOf, tells.keeps after written]
  cases pair with
  | none =>
    refine ⟨by simp [toldOf], .inl ?_⟩
    cases step with
    | marker marker ctx =>
      refine List.count_eq_zero.mpr ?_
      simp only [stepTransition, applyTaskPairMarker]
      split
      · simp [recorded]
      · split
        · exact (applyUnnamed_silent _ marker ctx writer none).2
        · split
          · simp [recorded]
          · exact createPair_silent _ marker ctx writer
    | workspace workspace now => rfl
    | scheduling scheduling now => rfl
    | holdMaterial head base now => rfl
  | some existing =>
    cases step with
    | marker marker ctx =>
      cases known : marker.knownVerb with
      | none =>
        obtain ⟨grows, quiet⟩ := silent existing rfl
          ⟨by simp [stepTransition, applyTaskPairMarker, known, recorded],
            by simp [stepTransition, applyTaskPairMarker, known, recorded]⟩
        exact ⟨grows, .inl quiet⟩
      | some verb =>
        by_cases named : marker.taskId = taskPairInferTaskId
        · have applied : stepTransition host (some existing) (.marker marker ctx) =
              applyUnnamed (some existing) verb marker ctx := by
            simp [stepTransition, applyTaskPairMarker, known, named]
          obtain ⟨grows, quiet⟩ := silent existing rfl (by
            rw [applied]
            refine ⟨fun target => (applyUnnamed_silent verb marker ctx target _).2, ?_⟩
            simp [(applyUnnamed_silent verb marker ctx writer (some existing)).1])
          exact ⟨grows, .inl quiet⟩
        · have applied : stepTransition host (some existing) (.marker marker ctx) =
              applyToPair host existing verb marker ctx := by
            simp [stepTransition, applyTaskPairMarker, known, named]
          cases applyToPair_told host existing verb marker ctx with
          | nobody tells =>
            rw [← applied] at tells
            obtain ⟨grows, quiet⟩ := silent existing rfl tells
            exact ⟨grows, .inl quiet⟩
          | writer untold intents after written told =>
            rw [← applied] at intents written
            have moved : toldOf (pairStep host (some existing) (.marker marker ctx)) =
                existing.closedNoticeSentTo ++ [ctx.writer] := by
              rw [pairStep_eq_after, TaskPairTransition.after, written]
              exact told
            rw [moved]
            refine ⟨List.subset_append_left _ _, ?_⟩
            by_cases mine : writer = ctx.writer
            · subst mine
              exact .inr ⟨by simp [closedNotices, intents], untold, by simp⟩
            · exact .inl (by simp [closedNotices, intents, Ne.symm mine])
          | reopened closed silent after written queued =>
            rw [← applied] at written
            refine absurd ⟨existing, after, rfl, closed, ?_, ?_⟩ kept
            · rw [pairStep_eq_after, TaskPairTransition.after, written]
              rfl
            · rintro same
              simp [← same, queued, isTerminalTaskPairStatus] at closed
    | workspace workspace now => exact ⟨List.Subset.refl _, .inl rfl⟩
    | scheduling scheduling now => exact ⟨List.Subset.refl _, .inl rfl⟩
    | holdMaterial head base now =>
      have told : (holdMaterialOutsideBase host existing head base now).closedNoticeSentTo =
          existing.closedNoticeSentTo := by
        unfold holdMaterialOutsideBase
        split
        · rfl
        · split
          · split <;> rfl
          · rfl
      obtain ⟨grows, quiet⟩ := silent existing rfl
        ⟨by simp [stepTransition, recorded], by
          intro after written
          cases written
          exact told⟩
      exact ⟨grows, .inl quiet⟩

theorem closedNotices_run (writer : String) (start : Option TaskPairState)
    (steps : List PairStep)
    (kept : Meets (pairStep host) (fun pair step => ¬ Reopens host pair step) start steps) :
    tally (pairStep host) (closedNotices host writer) start steps ≤
      if writer ∈ toldOf start then 0 else 1 := by
  induction steps generalizing start with
  | nil => simp [tally]
  | cons step rest ih =>
    obtain ⟨grows, quiet | ⟨once, untold, told⟩⟩ := closedNotices_step writer start step kept.1
    · have later := ih (pairStep host start step) kept.2
      simp only [tally, quiet, Nat.zero_add]
      by_cases already : writer ∈ toldOf start
      · simpa [already, grows already] using later
      · rw [if_neg already]
        exact later.trans (by split <;> omega)
    · have later := ih (pairStep host start step) kept.2
      simp only [told, if_true] at later
      simp only [tally, once, untold, if_false]
      omega

end

/-- Closed pairs stay closed. -/
theorem closed_pairs_stay_closed (host : TaskPairHost) (steps : List PairStep) :
    StaysClosed host steps := by
  constructor
  · intro earlier step later existing split found closed other
    exact pairStep_preserves closed other
  · intro first stretch rest writer split kept
    have bounded := closedNotices_run writer (run (pairStep host) none first) stretch kept
    exact bounded.trans (by split <;> omega)

end ImCodes.TaskPair
