import ImCodes.TaskPair.Lifecycle

/-!
# What a marker never changes

No marker changes the task a pair is for or the Brain it belongs to.
-/

set_option autoImplicit false

namespace ImCodes.TaskPair

open Library TaskPairState

namespace TaskPairState

def identity (pair : TaskPairState) : String × String := (pair.taskId, pair.brain)

section
variable (pair : TaskPairState)

@[simp] theorem identity_addFlag (flag : TaskPairFlag) :
    (pair.addFlag flag).identity = pair.identity := by
  unfold addFlag
  split <;> rfl

@[simp] theorem identity_removeFlag (flag : TaskPairFlag) :
    (pair.removeFlag flag).identity = pair.identity := rfl

@[simp] theorem identity_markTaskPairStarted (now : Int) :
    (pair.markTaskPairStarted now).identity = pair.identity := rfl

@[simp] theorem identity_resolveTaskPairBrainWait (now : Int) (writer : String)
    (note : Option String) :
    (pair.resolveTaskPairBrainWait now writer note).identity = pair.identity := by
  unfold resolveTaskPairBrainWait
  dsimp only
  split <;> rfl

@[simp] theorem identity_clearSideFlags (role : TaskPairRole) (all : Bool) :
    (pair.clearSideFlags role all).identity = pair.identity := by
  unfold clearSideFlags
  dsimp only
  split <;> split <;> rfl

@[simp] theorem identity_spendCap (reason : TaskPairCappedReason) :
    (pair.spendCap reason).2.1.identity = pair.identity := by
  obtain ⟨_, _, _, changes⟩ := pair.spendCap_changes reason
  rw [changes]
  rfl

@[simp] theorem identity_resetCaps : pair.resetCaps.identity = pair.identity := rfl

@[simp] theorem identity_applyBlockingAttr (attrs : TaskPairAttrs) :
    (pair.applyBlockingAttr attrs).identity = pair.identity := by
  unfold applyBlockingAttr
  split <;> rfl

@[simp] theorem identity_applyOutputAttr (attrs : TaskPairAttrs) :
    (pair.applyOutputAttr attrs).identity = pair.identity := by
  unfold applyOutputAttr
  split <;> rfl

@[simp] theorem identity_setRolesFromAttrsQueued (attrs : TaskPairAttrs) :
    (pair.setRolesFromAttrsQueued attrs).identity = pair.identity := by
  unfold setRolesFromAttrsQueued
  rw [identity_applyBlockingAttr]
  rfl

@[simp] theorem identity_setRolesFromAttrs (attrs : TaskPairAttrs) :
    (pair.setRolesFromAttrs attrs).1.identity = pair.identity := by
  obtain ⟨_, _, _, _, changes⟩ := pair.setRolesFromAttrs_changes attrs
  rw [changes]
  rfl

@[simp] theorem identity_withBrief (brief : Option String) :
    (pair.withBrief brief).identity = pair.identity := rfl

end

end TaskPairState

def KeepsIdentity (identity : String × String) (transition : TaskPairTransition) : Prop :=
  ∀ after, transition.pair = some after → after.identity = identity

section
variable {host : TaskPairHost} {draft : Draft} {identity : String × String}

theorem keepsIdentity_unwritten {transition : TaskPairTransition}
    (unwritten : transition.pair = none) : KeepsIdentity identity transition := by
  intro after written
  simp [unwritten] at written

theorem keepsIdentity_written {transition : TaskPairTransition} {after : TaskPairState}
    (written : transition.pair = some after) (same : after.identity = identity) :
    KeepsIdentity identity transition := by
  intro other found
  cases written.symm.trans found
  exact same

theorem keepsIdentity_reject (same : draft.pair.identity = identity) (text : String) :
    KeepsIdentity identity (draft.reject text) := by
  have kept := (identity_spendCap draft.pair .policyRejection).trans same
  unfold Draft.reject
  generalize draft.pair.spendCap .policyRejection = spending at kept ⊢
  obtain ⟨allowed, spent, notices⟩ := spending
  cases allowed with
  | false => exact keepsIdentity_unwritten rfl
  | true => exact keepsIdentity_written rfl kept

theorem keepsIdentity_dismissed {existing : TaskPairState} {now : Int}
    (same : existing.identity = identity) :
    KeepsIdentity identity (dismissIntegration existing now) := by
  unfold dismissIntegration
  split
  · exact keepsIdentity_unwritten rfl
  · exact keepsIdentity_written rfl same

theorem identity_touched (verb : TaskPairVerb) :
    (touched draft verb).pair.identity = draft.pair.identity := by
  unfold touched
  extract_lets stamped cleared
  have clearedSame : cleared.pair.identity = draft.pair.identity := by
    simp only [cleared]
    split
    · exact identity_clearSideFlags _ _ _
    · rfl
  split
  · exact (identity_resolveTaskPairBrainWait _ _ _ _).trans clearedSame
  · exact clearedSame

/-! ## Verb by verb -/

variable (same : draft.pair.identity = identity)

include same in
theorem applyCheck_identity : KeepsIdentity identity (applyCheck host draft) := by
  unfold applyCheck
  split
  · exact keepsIdentity_reject same _
  · dsimp only
    split
    · exact keepsIdentity_reject same _
    · split
      · exact keepsIdentity_written rfl same
      · exact keepsIdentity_written rfl same

include same in
theorem applyQueue_identity : KeepsIdentity identity (applyQueue draft) := by
  have named : ((draft.pair.setRolesFromAttrsQueued draft.marker.attrs).withBrief
      draft.marker.brief).identity = identity := by simpa using same
  unfold applyQueue
  split
  · exact keepsIdentity_unwritten rfl
  · split
    · exact keepsIdentity_written rfl named
    · split
      · exact keepsIdentity_written rfl named
      · exact keepsIdentity_unwritten rfl

include same in
theorem requeued_identity : KeepsIdentity identity (requeued draft) := by
  have named : (draft.pair.setRolesFromAttrsQueued draft.marker.attrs).identity = identity := by
    simpa using same
  exact keepsIdentity_written rfl named

include same in
theorem applyDispatch_identity : KeepsIdentity identity (applyDispatch draft) := by
  unfold applyDispatch
  extract_lets attrs busy reset
  have resetSame : reset.pair.identity = identity := same
  have named := (identity_setRolesFromAttrs reset.pair attrs).trans resetSame
  split
  · exact keepsIdentity_unwritten rfl
  · split
    · exact keepsIdentity_reject same _
    · generalize reset.pair.setRolesFromAttrs attrs = roles at named ⊢
      obtain ⟨placed, notices⟩ := roles
      dsimp only at named ⊢
      split
      · split
        · exact requeued_identity resetSame
        · exact keepsIdentity_written rfl named
      · split
        · exact requeued_identity resetSame
        · split
          · exact requeued_identity resetSame
          · split
            · split <;> exact keepsIdentity_written rfl named
            · split <;> exact keepsIdentity_written rfl named

include same in
theorem applyProgress_identity (verb : TaskPairVerb) (kept : draft.existing.identity = identity) :
    KeepsIdentity identity (applyProgress draft verb) := by
  unfold applyProgress
  extract_lets existing recorded status noted announced
  have announcedSame : announced.pair.identity = identity := by
    simp only [announced]
    split <;> exact same
  split
  · split
    · exact keepsIdentity_unwritten rfl
    · exact keepsIdentity_written rfl kept
  · split
    · split
      · exact keepsIdentity_written rfl same
      · exact keepsIdentity_reject same _
    · split
      · exact keepsIdentity_written rfl announcedSame
      · exact keepsIdentity_written rfl announcedSame

include same in
theorem openAuditRound_identity : KeepsIdentity identity (openAuditRound draft) := by
  unfold openAuditRound
  extract_lets status noted announced opened
  have announcedSame : announced.pair.identity = identity := by
    simp only [announced]
    split <;> exact same
  have openedSame : opened.pair.identity = identity := by
    refine Eq.trans ?_ announcedSame
    simp only [opened, Draft.update, identity_removeFlag, identity_resetCaps]
    split <;> rfl
  split
  · exact keepsIdentity_written rfl ((identity_addFlag _ _).trans openedSame)
  · exact keepsIdentity_written rfl openedSame

include same in
theorem applyReady_identity : KeepsIdentity identity (applyReady host draft) := by
  unfold applyReady
  extract_lets attrs now submitted
  split
  · exact keepsIdentity_unwritten rfl
  · split
    · exact keepsIdentity_reject same _
    · split
      · exact keepsIdentity_unwritten rfl
      · split
        · split
          · exact keepsIdentity_written rfl same
          · exact keepsIdentity_written rfl same
        · exact openAuditRound_identity same

include same in
theorem applyVerdict_identity (verb : TaskPairVerdictVerb)
    (verdict : TaskPairVerdictJudgementResult) :
    (applyVerdict host draft verb verdict).pair.identity = identity := by
  unfold applyVerdict
  extract_lets turnText judged cleared wasRework reworked noticed
  have judgedSame : judged.pair.identity = identity := same
  have reworkedSame : reworked.pair.identity = identity := same
  split
  · have spentSame := (identity_spendCap judged.pair .verdictCorrection).trans judgedSame
    generalize judged.pair.spendCap .verdictCorrection = spending at spentSame ⊢
    obtain ⟨allowed, spent, notices⟩ := spending
    dsimp only at spentSame ⊢
    split <;> exact spentSame
  · cases verb with
    | pass => exact same
    | rework =>
      have noticedSame : noticed.pair.identity = identity := by
        simp only [noticed]
        split
        · split <;> exact reworkedSame
        · exact reworkedSame
      dsimp -zeta only
      split
      · extract_lets nudged
        have nudgedSame : nudged.pair.identity = identity := by
          simp only [nudged]
          split <;> exact noticedSame
        split <;> exact nudgedSame
      · exact noticedSame

include same in
theorem holdPass_identity (held : TaskPairMaterialHold) :
    KeepsIdentity identity (holdPass draft held) := by
  unfold holdPass
  extract_lets blocked
  have kept : KeepsIdentity identity blocked := keepsIdentity_reject same _
  split
  · exact fun after written => kept after written
  · exact kept

include same in
theorem applyVerdictMarker_identity (verb : TaskPairVerdictVerb) :
    KeepsIdentity identity (applyVerdictMarker host draft verb) := by
  unfold applyVerdictMarker
  extract_lets verbText
  split
  · exact keepsIdentity_reject same _
  · split
    · exact keepsIdentity_reject same _
    · split
      · exact holdPass_identity same _
      · rename_i verb _ _ verdict noted judged settled given _
        have judgedSame : judged.pair.identity = identity :=
          @applyVerdict_identity host noted identity same verb verdict
        have settledSame : settled.pair.identity = identity := by
          simp only [settled]
          split <;> exact judgedSame
        exact keepsIdentity_written rfl settledSame

include same in
theorem applyNextRound_identity : KeepsIdentity identity (applyNextRound draft) := by
  unfold applyNextRound
  extract_lets taskId named previousHead commit deliveryRound note opened
  have openedSame : opened.pair.identity = identity :=
    (identity_resolveTaskPairBrainWait draft.pair _ _ _).trans same
  split
  · exact keepsIdentity_reject same _
  · split
    · exact keepsIdentity_reject same _
    · split
      · exact keepsIdentity_reject same _
      · split
        · exact keepsIdentity_reject same _
        · exact keepsIdentity_written rfl openedSame

include same in
theorem applyDone_identity (kept : draft.existing.identity = identity) :
    KeepsIdentity identity (applyDone draft) := by
  unfold applyDone
  extract_lets attrs stated close hasAudit
  have statedSame : stated.pair.identity = identity :=
    (identity_applyOutputAttr draft.pair attrs).trans same
  split
  · exact keepsIdentity_dismissed kept
  · split
    · exact keepsIdentity_unwritten rfl
    · split
      · split
        · exact keepsIdentity_written rfl ((identity_addFlag _ _).trans statedSame)
        · exact keepsIdentity_written rfl statedSame
      · split
        · exact keepsIdentity_written rfl statedSame
        · split
          · exact keepsIdentity_written rfl statedSame
          · split
            · exact keepsIdentity_written rfl statedSame
            · exact keepsIdentity_reject same _

include same in
theorem applyWait_identity (verb : TaskPairVerb) : KeepsIdentity identity (applyWait draft verb) := by
  unfold applyWait
  extract_lets attrs flag side freshlyFlagged flagged told
  have flaggedSame : flagged.pair.identity = identity := (identity_addFlag _ _).trans same
  have toldSame : told.pair.identity = identity := by
    simp only [told]
    split <;> exact flaggedSame
  split
  · exact keepsIdentity_unwritten rfl
  · split
    · exact keepsIdentity_written rfl same
    · split
      · have spentSame := (identity_spendCap told.pair .blockedReplacement).trans toldSame
        generalize told.pair.spendCap .blockedReplacement = spending at spentSame ⊢
        obtain ⟨allowed, spent, notices⟩ := spending
        dsimp only at spentSame ⊢
        split <;> exact keepsIdentity_written rfl spentSame
      · exact keepsIdentity_written rfl toldSame

include same in
theorem applyReassign_identity : KeepsIdentity identity (applyReassign draft) := by
  unfold applyReassign
  extract_lets attrs reset resumed rolesChanged
  split
  · exact keepsIdentity_unwritten rfl
  · have resumedSame : resumed.pair.identity = identity := by
      simp only [resumed, reset]
      split <;> split <;> exact same
    have named := (identity_setRolesFromAttrs resumed.pair attrs).trans resumedSame
    generalize resumed.pair.setRolesFromAttrs attrs = naming at named ⊢
    obtain ⟨pair, intents⟩ := naming
    dsimp -zeta only at named ⊢
    extract_lets placed queued picked settled
    have placedSame : placed.pair.identity = identity := by
      refine Eq.trans ?_ named
      simp only [placed, Draft.update]
      split
      · split
        · split <;> rfl
        · rfl
      · split
        · split <;> rfl
        · rfl
    have queuedSame : queued.pair.identity = identity := by
      refine Eq.trans ?_ placedSame
      simp only [queued]
      split
      · simp only [Draft.push, Draft.update]
        split
        · exact identity_addFlag _ _
        · rfl
      · split <;> rfl
    have pickedSame : picked.pair.identity = identity := by
      refine Eq.trans ?_ queuedSame
      simp only [picked]
      split <;> rfl
    have settledSame : settled.pair.identity = identity := by
      refine Eq.trans ?_ pickedSame
      simp only [settled, Draft.update]
      split <;> split <;> rfl
    exact keepsIdentity_written rfl settledSame

include same in
theorem applyCancel_identity (kept : draft.existing.identity = identity) :
    KeepsIdentity identity (applyCancel draft) := by
  unfold applyCancel
  split
  · exact keepsIdentity_reject same _
  · split
    · exact keepsIdentity_dismissed kept
    · split
      · exact keepsIdentity_unwritten rfl
      · exact keepsIdentity_written rfl same

theorem guardedMarker_identity {verb : TaskPairVerb} {transition : TaskPairTransition}
    (guarded : guardedMarker draft verb = some transition) :
    KeepsIdentity draft.existing.identity transition := by
  intro after written
  obtain ⟨told, title, rfl⟩ := guardedMarker_written guarded written
  rfl

include same in
theorem applyVerb_identity (verb : TaskPairVerb) (kept : draft.existing.identity = identity) :
    KeepsIdentity identity (applyVerb host draft verb) := by
  unfold applyVerb
  split
  · exact keepsIdentity_unwritten rfl
  · split
    · exact keepsIdentity_written rfl same
    · cases verb with
      | check => exact applyCheck_identity same
      | queue => exact applyQueue_identity same
      | dispatch => exact applyDispatch_identity same
      | started => exact applyProgress_identity same .started kept
      | working => exact applyProgress_identity same .working kept
      | readyForAudit => exact applyReady_identity same
      | pass => exact applyVerdictMarker_identity same .pass
      | rework => exact applyVerdictMarker_identity same .rework
      | nextRound => exact applyNextRound_identity same
      | done => exact applyDone_identity same kept
      | blocked => exact applyWait_identity same .blocked
      | needsInput => exact applyWait_identity same .needsInput
      | reassign => exact applyReassign_identity same
      | cancel => exact applyCancel_identity same kept
      | claim => exact keepsIdentity_unwritten rfl

end

theorem applyToPair_identity (host : TaskPairHost) (existing : TaskPairState) (verb : TaskPairVerb)
    (marker : TaskPairMarker) (ctx : TaskPairApplyContext) :
    KeepsIdentity existing.identity (applyToPair host existing verb marker ctx) := by
  unfold applyToPair
  dsimp only
  split
  · next guarded => exact guardedMarker_identity guarded
  · apply applyVerb_identity (identity_touched verb)
    rw [touched_existing]
    rfl

section
variable (verb : TaskPairVerb) (marker : TaskPairMarker) (ctx : TaskPairApplyContext)

theorem applyUnnamed_unwritten (existing : Option TaskPairState) :
    (applyUnnamed existing verb marker ctx).pair = none := by
  unfold applyUnnamed
  split
  · split
    · split <;> rfl
    · rfl
  · rfl

theorem createFromProgress_identity :
    KeepsIdentity (marker.taskId, ctx.fallbackBrain) (createFromProgress verb marker ctx) := by
  unfold createFromProgress
  extract_lets blank fresh
  have named : (fresh.setRolesFromAttrs marker.attrs).1.identity =
      (marker.taskId, ctx.fallbackBrain) := identity_setRolesFromAttrs fresh marker.attrs
  generalize fresh.setRolesFromAttrs marker.attrs = roles at named
  obtain ⟨pair, intents⟩ := roles
  have same : pair.identity = (marker.taskId, ctx.fallbackBrain) := named
  dsimp -zeta only
  by_cases done : verb = .done
  · subst done
    extract_lets audited stated waiting
    have stated_same : waiting.identity = (marker.taskId, ctx.fallbackBrain) :=
      (identity_applyOutputAttr pair marker.attrs).trans same
    have spent_same := (identity_spendCap waiting .doneReminder).trans stated_same
    generalize waiting.spendCap .doneReminder = spending at spent_same
    obtain ⟨allowed, spent, notices⟩ := spending
    dsimp only
    split
    · split <;> exact keepsIdentity_written rfl spent_same
    · exact keepsIdentity_written rfl stated_same
  · split
    · dsimp only
      split
      · split <;> exact keepsIdentity_written rfl same
      · exact keepsIdentity_written rfl same
    · exact absurd rfl done
    · exact keepsIdentity_written rfl same

theorem createPair_identity :
    ∃ brain, KeepsIdentity (marker.taskId, brain) (createPair verb marker ctx) := by
  unfold createPair
  extract_lets queued
  have queuedSame : queued.identity = (marker.taskId, ctx.writer) := by
    simp only [queued, identity_withBrief, identity_setRolesFromAttrsQueued]
    rfl
  cases verb with
  | queue => exact ⟨_, keepsIdentity_written rfl queuedSame⟩
  | dispatch =>
    refine ⟨ctx.writer, ?_⟩
    have named := identity_setRolesFromAttrs (newPair marker.taskId ctx.writer ctx .working)
      marker.attrs
    dsimp only
    generalize (newPair marker.taskId ctx.writer ctx .working).setRolesFromAttrs
      marker.attrs = roles at named ⊢
    obtain ⟨pair, intents⟩ := roles
    have same : (pair.withBrief marker.brief).identity = (marker.taskId, ctx.writer) := named
    dsimp only
    split
    · exact keepsIdentity_written rfl queuedSame
    · split
      · exact keepsIdentity_written rfl queuedSame
      · split <;> exact keepsIdentity_written rfl same
  | started => exact ⟨_, createFromProgress_identity .started marker ctx⟩
  | working => exact ⟨_, createFromProgress_identity .working marker ctx⟩
  | readyForAudit => exact ⟨_, createFromProgress_identity .readyForAudit marker ctx⟩
  | done => exact ⟨_, createFromProgress_identity .done marker ctx⟩
  | _ => exact ⟨ctx.writer, keepsIdentity_unwritten rfl⟩

end

theorem applyTaskPairMarker_identity {host : TaskPairHost} {existing : TaskPairState}
    {marker : TaskPairMarker} {ctx : TaskPairApplyContext} :
    KeepsIdentity existing.identity (applyTaskPairMarker host (some existing) marker ctx) := by
  unfold applyTaskPairMarker
  split
  · exact keepsIdentity_unwritten rfl
  · next verb known =>
      split
      · exact keepsIdentity_unwritten (applyUnnamed_unwritten verb marker ctx _)
      · exact applyToPair_identity host existing verb marker ctx

theorem applyTaskPairMarker_taskId {host : TaskPairHost} {existing : Option TaskPairState}
    {marker : TaskPairMarker} {ctx : TaskPairApplyContext} {after : TaskPairState}
    (named : ∀ pair, existing = some pair → pair.taskId = marker.taskId)
    (written : (applyTaskPairMarker host existing marker ctx).pair = some after) :
    after.taskId = marker.taskId := by
  cases existing with
  | some pair =>
    have kept := applyTaskPairMarker_identity after written
    exact (congrArg Prod.fst kept).trans (named pair rfl)
  | none =>
    unfold applyTaskPairMarker at written
    split at written
    · simp [recorded] at written
    · next verb known =>
        split at written
        · rw [applyUnnamed_unwritten] at written
          cases written
        · dsimp only at written
          split at written
          · simp [recorded] at written
          · obtain ⟨brain, kept⟩ := createPair_identity verb marker ctx
            exact congrArg Prod.fst (kept after written)

end ImCodes.TaskPair
