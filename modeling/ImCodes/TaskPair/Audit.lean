import ImCodes.TaskPair.Apply

/-!
# What a marker does to an audit

Most of what a marker changes says nothing about the audit: flags, caps, names, briefs. The
audit of a pair is the rest, and every marker changes it in one of a few ways.
-/

set_option autoImplicit false

namespace ImCodes.TaskPair

open Library TaskPairState

/-- What decides which verdicts count. -/
structure AuditRecord where
  status : TaskPairStatus
  auditor : Option String
  round : Nat
  passRound : Option Nat
  lastVerdict : Option TaskPairLastVerdict
  material : Option TaskPairMaterial
  materialHold : Option TaskPairMaterialHold

namespace TaskPairState

def audit (pair : TaskPairState) : AuditRecord where
  status := pair.status
  auditor := pair.auditor
  round := pair.round
  passRound := pair.passRound
  lastVerdict := pair.lastVerdict
  material := pair.material
  materialHold := pair.materialHold

/-! ## Operations that leave the audit alone -/

variable (pair : TaskPairState)

@[simp] theorem audit_addFlag (flag : TaskPairFlag) : (pair.addFlag flag).audit = pair.audit := by
  unfold addFlag
  split <;> rfl

@[simp] theorem audit_removeFlag (flag : TaskPairFlag) :
    (pair.removeFlag flag).audit = pair.audit := rfl

@[simp] theorem audit_resetCaps : pair.resetCaps.audit = pair.audit := rfl

@[simp] theorem audit_clearSideFlags (role : TaskPairRole) (all : Bool) :
    (pair.clearSideFlags role all).audit = pair.audit := by
  simp only [clearSideFlags]
  split <;> split <;> rfl

@[simp] theorem audit_spendCap (reason : TaskPairCappedReason) :
    (pair.spendCap reason).2.1.audit = pair.audit := by
  obtain ⟨_, _, _, changes⟩ := pair.spendCap_changes reason
  rw [changes]
  rfl

@[simp] theorem audit_withBrief (brief : Option String) :
    (pair.withBrief brief).audit = pair.audit := rfl

@[simp] theorem audit_applyWorkspaceAttr (attrs : TaskPairAttrs) :
    (pair.applyWorkspaceAttr attrs).audit = pair.audit := rfl

@[simp] theorem audit_applyBlockingAttr (attrs : TaskPairAttrs) :
    (pair.applyBlockingAttr attrs).audit = pair.audit := by
  unfold applyBlockingAttr
  split <;> rfl

@[simp] theorem audit_applyOutputAttr (attrs : TaskPairAttrs) :
    (pair.applyOutputAttr attrs).audit = pair.audit := by
  unfold applyOutputAttr
  split <;> rfl

/-! ## Operations that name roles or start the pair -/

@[simp] theorem audit_markTaskPairStarted (now : Int) :
    (pair.markTaskPairStarted now).audit = { pair.audit with status := .working } := rfl

@[simp] theorem audit_setRolesFromAttrsQueued (attrs : TaskPairAttrs) :
    (pair.setRolesFromAttrsQueued attrs).audit =
      { pair.audit with auditor := (attrs.named? "auditor").or pair.auditor } := by
  simp only [setRolesFromAttrsQueued, audit_applyBlockingAttr, audit_applyWorkspaceAttr]
  rfl

@[simp] theorem audit_setRolesFromAttrs (attrs : TaskPairAttrs) :
    (pair.setRolesFromAttrs attrs).1.audit =
      { pair.audit with auditor := (attrs.named? "auditor").or pair.auditor } := by
  obtain ⟨_, _, _, _, changes⟩ := pair.setRolesFromAttrs_changes attrs
  rw [changes]
  rfl

theorem audit_resolveTaskPairBrainWait (now : Int) (writer : String) (note : Option String) :
    (pair.resolveTaskPairBrainWait now writer note).audit =
      if pair.status = .awaitingBrainDecision then { pair.audit with status := .working }
      else pair.audit := by
  by_cases awaiting : pair.status = .awaitingBrainDecision
  · simp [resolveTaskPairBrainWait, removeFlag, audit, markTaskPairStarted, awaiting]
  · simp [resolveTaskPairBrainWait, removeFlag, audit, awaiting]

end TaskPairState

/-! ## Transitions without a verdict -/

/-- A transition that applies no verdict, and what holds of the audit it writes, if any. -/
structure Unjudged (transition : TaskPairTransition) (meets : AuditRecord → Prop) : Prop where
  effect : transition.effect ≠ .verdict
  writes : ∀ pair, transition.pair = some pair → meets pair.audit

theorem unjudged_of_pair_none {transition : TaskPairTransition} {meets : AuditRecord → Prop}
    (effect : transition.effect ≠ .verdict) (untouched : transition.pair = none) :
    Unjudged transition meets :=
  ⟨effect, by simp [untouched]⟩

theorem Unjudged.mono {transition : TaskPairTransition} {meets weaker : AuditRecord → Prop}
    (unjudged : Unjudged transition meets) (imp : ∀ audit, meets audit → weaker audit) :
    Unjudged transition weaker :=
  ⟨unjudged.effect, fun pair written => imp _ (unjudged.writes pair written)⟩

section
variable {draft : Draft} {meets : AuditRecord → Prop}

theorem unjudged_keep : Unjudged draft.keep meets :=
  unjudged_of_pair_none (by simp [Draft.keep, recorded]) rfl

theorem unjudged_keepQuietly : Unjudged draft.keepQuietly meets :=
  unjudged_of_pair_none (by simp [Draft.keepQuietly, recorded]) rfl

theorem unjudged_done {effect : TaskPairEffect} (other : effect ≠ .verdict)
    (written : meets draft.pair.audit) : Unjudged (draft.done effect) meets := by
  refine ⟨other, ?_⟩
  intro pair same
  cases same
  exact written

theorem unjudged_reject {text : String} (unchanged : meets draft.pair.audit) :
    Unjudged (draft.reject text) meets := by
  simp only [Draft.reject]
  split
  · exact unjudged_done (by simp) (by simpa [Draft.push] using unchanged)
  · exact unjudged_keep

end

/-! ## Verb by verb -/

def Steered (before after : AuditRecord) : Prop :=
  ∃ status auditor, (status = .queued ∨ (status = .working ∧ before.status ≠ .queued) ∨
    status = before.status) ∧ after = { before with status, auditor }

theorem Steered.refl (audit : AuditRecord) : Steered audit audit :=
  ⟨_, _, .inr (.inr rfl), rfl⟩

theorem Steered.trans {first second third : AuditRecord} (start : Steered first second)
    (next : Steered second third) : Steered first third := by
  obtain ⟨firstStatus, firstAuditor, firstOpen, rfl⟩ := start
  obtain ⟨status, auditor, opened, rfl⟩ := next
  refine ⟨status, auditor, ?_, rfl⟩
  rcases opened with queued | ⟨working, notQueued⟩ | rfl
  · exact .inl queued
  · rcases firstOpen with firstQueued | ⟨-, started⟩ | same
    · exact absurd firstQueued notQueued
    · exact .inr (.inl ⟨working, started⟩)
    · exact .inr (.inl ⟨working, by rwa [← same]⟩)
  · exact firstOpen

theorem steered_queued {before after : AuditRecord}
    (same : after = { before with status := .queued }) : Steered before after :=
  ⟨.queued, before.auditor, .inl rfl, same⟩

theorem steered_working {before after : AuditRecord} (started : before.status ≠ .queued)
    (same : after = { before with status := .working }) : Steered before after :=
  ⟨.working, before.auditor, .inr (.inl ⟨rfl, started⟩), same⟩

theorem steered_of_auditor {before after : AuditRecord} (auditor : Option String)
    (same : after = { before with auditor }) : Steered before after :=
  ⟨before.status, auditor, .inr (.inr rfl), same⟩

section
variable (host : TaskPairHost) (draft : Draft)

theorem applyCheck_unjudged : Unjudged (applyCheck host draft) (· = draft.pair.audit) := by
  unfold applyCheck
  split
  · exact unjudged_reject rfl
  · simp only
    split
    · exact unjudged_reject rfl
    · split
      · exact unjudged_done (by simp) rfl
      · exact unjudged_done (by simp) rfl

theorem applyQueue_unjudged :
    Unjudged (applyQueue draft) fun audit =>
      draft.roleAuthority = true ∧ Steered draft.pair.audit audit := by
  have named : Steered draft.pair.audit
      ((draft.pair.setRolesFromAttrsQueued draft.marker.attrs).withBrief
        draft.marker.brief).audit := by
    exact steered_of_auditor _ (by rw [audit_withBrief, audit_setRolesFromAttrsQueued])
  simp only [applyQueue]
  split
  · exact unjudged_keep
  · rename_i authorised
    simp only [Bool.not_eq_true', Bool.not_eq_false] at authorised
    split
    · exact unjudged_done (by simp) ⟨authorised, named⟩
    · split
      · exact unjudged_done (by simp)
          ⟨authorised, named.trans (steered_queued rfl)⟩
      · exact unjudged_keep

theorem requeued_unjudged : Unjudged (requeued draft) (Steered draft.pair.audit) := by
  have named : Steered draft.pair.audit
      (draft.pair.setRolesFromAttrsQueued draft.marker.attrs).audit :=
    steered_of_auditor _ (audit_setRolesFromAttrsQueued _ _)
  exact unjudged_done (by simp) (named.trans (steered_queued rfl))

def Admits (draft : Draft) (before after : AuditRecord) : Prop :=
  draft.ctx.source = .queue ∧ ∃ auditor, after = { before with status := .working, auditor }

theorem applyDispatch_unjudged :
    Unjudged (applyDispatch draft) fun audit => draft.roleAuthority = true ∧
      (Steered draft.pair.audit audit ∨ Admits draft draft.pair.audit audit) := by
  have namedAudit := audit_setRolesFromAttrs draft.pair.resetCaps draft.marker.attrs
  have named : Steered draft.pair.audit
      (draft.pair.resetCaps.setRolesFromAttrs draft.marker.attrs).1.audit :=
    steered_of_auditor _ (by rw [namedAudit, audit_resetCaps])
  simp only [applyDispatch]
  split
  · exact unjudged_keep
  · rename_i authorised
    simp only [Bool.not_eq_true', Bool.not_eq_false] at authorised
    have queues : ∀ reset : Draft, Unjudged (requeued reset) fun audit =>
        reset.pair.audit = draft.pair.audit → draft.roleAuthority = true ∧
          (Steered draft.pair.audit audit ∨ Admits draft draft.pair.audit audit) := by
      intro reset
      refine (requeued_unjudged reset).mono ?_
      intro audit steered same
      exact ⟨authorised, .inl (same ▸ steered)⟩
    split
    · exact unjudged_reject ⟨authorised, .inl (Steered.refl _)⟩
    · split
      · rename_i awaiting
        split
        · exact (queues _).mono fun audit meets => meets rfl
        · refine unjudged_done (by simp) ⟨authorised, .inl ?_⟩
          simp only [Draft.update, Draft.push, audit_markTaskPairStarted, audit_withBrief]
          have waiting : draft.pair.status = .awaitingBrainDecision := awaiting
          exact steered_working (by simp [audit, waiting]) rfl |>.trans (by
            rw [namedAudit]
            exact steered_of_auditor _ rfl)
      · split
        · exact (queues _).mono fun audit meets => meets rfl
        · rename_i admitted
          split
          · exact (queues _).mono fun audit meets => meets rfl
          · split
            · rename_i waits
              have queued : draft.pair.status = .queued :=
                (congrArg AuditRecord.status namedAudit).symm.trans waits
              have source : draft.ctx.source = .queue := by
                by_contra other
                exact admitted ⟨queued, other⟩
              refine unjudged_done (by simp) ⟨authorised, .inr ⟨source,
                (draft.marker.attrs.named? "auditor").or draft.pair.auditor, ?_⟩⟩
              have started := congrArg
                (fun audit : AuditRecord => { audit with status := .working }) namedAudit
              split
              · exact started
              · exact started
            · refine unjudged_done (by simp) ⟨authorised, .inl ?_⟩
              split
              · exact named
              · exact named

/-- A READY_FOR_AUDIT on an open round replaces its material; any other opens the next round. -/
def Submits (material : Option TaskPairMaterial) (before after : AuditRecord) : Prop :=
  (before.status = .inAudit ∧
    after = { before with materialHold := none, material := material.or before.material }) ∨
  (before.status ≠ .inAudit ∧ after = { before with
    status := .inAudit
    round := before.round + 1
    materialHold := none
    material := material.or before.material })

theorem openAuditRound_unjudged :
    Unjudged (openAuditRound draft) (· = { draft.pair.audit with
      status := .inAudit
      round := draft.pair.round + 1 }) := by
  unfold openAuditRound
  extract_lets status noted announced opened
  have announcedPair : announced.pair = draft.pair := by
    simp only [announced]
    split <;> rfl
  have same : opened.pair.audit = { draft.pair.audit with
      status := .inAudit
      round := draft.pair.round + 1 } := by
    simp only [opened, Draft.update, announcedPair, audit_removeFlag, audit_resetCaps]
    split <;> rfl
  split
  · exact unjudged_done (by simp) (by simpa [Draft.update, Draft.push] using same)
  · exact unjudged_done (by simp) same

theorem applyReady_unjudged :
    Unjudged (applyReady host draft) fun audit =>
      audit = draft.pair.audit ∨ (draft.pair.hasAudit = true ∧
        mismatchedBase host draft.pair draft.marker.attrs draft.ctx.now = none ∧
        Submits (readyMaterial draft.pair draft.marker.attrs draft.ctx.now) draft.pair.audit
          audit) := by
  simp only [applyReady]
  split
  · exact unjudged_keep
  · rename_i audited
    simp only [Bool.not_eq_true', Bool.not_eq_false] at audited
    split
    · exact unjudged_reject (.inl rfl)
    · rename_i matched
      split
      · exact unjudged_of_pair_none (by simp) rfl
      · split
        · rename_i inAudit
          split
          · exact unjudged_done (by simp) (.inr ⟨audited, matched, .inl ⟨inAudit, rfl⟩⟩)
          · exact unjudged_done (by simp) (.inr ⟨audited, matched, .inl ⟨inAudit, rfl⟩⟩)
        · rename_i otherwise
          refine (openAuditRound_unjudged _).mono ?_
          rintro audit rfl
          exact .inr ⟨audited, matched, .inr ⟨otherwise, rfl⟩⟩

def isGuardedProgress (draft : Draft) : Bool :=
  draft.role = .executor && !draft.roleAuthority &&
    taskPairAuditHeldStatuses.contains draft.existing.status

theorem applyProgress_unjudged (verb : TaskPairVerb)
    (same : draft.roleAuthority = false → draft.existing.audit = draft.pair.audit) :
    Unjudged (applyProgress draft verb) fun audit =>
      audit = draft.pair.audit ∨
        (isGuardedProgress draft = false ∧
          audit = { draft.pair.audit with status := .working }) := by
  simp only [applyProgress]
  split
  · rename_i guarded
    simp only [Bool.and_eq_true, Bool.not_eq_true'] at guarded
    split
    · exact unjudged_of_pair_none (by simp) rfl
    · refine ⟨by simp, ?_⟩
      intro pair written
      cases written
      exact .inl (same guarded.1.2)
  · rename_i free
    have unguarded : isGuardedProgress draft = false := by simpa [isGuardedProgress] using free
    split
    · split
      · exact unjudged_done (by simp) (.inr ⟨unguarded, rfl⟩)
      · exact unjudged_reject (.inl rfl)
    · split
      · refine unjudged_done (by simp) (.inr ⟨unguarded, ?_⟩)
        split <;> rfl
      · refine unjudged_done (by simp) (.inr ⟨unguarded, ?_⟩)
        split <;> rfl

/-- A pair reopened for work, nothing of its audit left. -/
def Reopened (before after : AuditRecord) : Prop :=
  ∃ status ∈ [TaskPairStatus.working, .rework], after = { before with
    status := status
    material := none
    passRound := none
    lastVerdict := none }

theorem reopenPassed_unjudged (verb : TaskPairVerb) :
    Unjudged (reopenPassed draft verb) (Reopened draft.pair.audit) := by
  refine unjudged_done (by simp) ⟨if verb = .rework then .rework else .working, ?_, rfl⟩
  split <;> simp

theorem applyNextRound_unjudged :
    Unjudged (applyNextRound draft) fun audit =>
      audit = draft.pair.audit ∨ (draft.brainAuthority = true ∧ draft.pair.status = .passed ∧
        Reopened draft.pair.audit audit) := by
  simp only [applyNextRound]
  split
  · exact unjudged_reject (.inl rfl)
  · rename_i authorised
    simp only [Bool.not_eq_true', Bool.not_eq_false] at authorised
    split
    · exact unjudged_reject (.inl rfl)
    · split
      · exact unjudged_reject (.inl rfl)
      · rename_i passed
        simp only [ne_eq, not_not] at passed
        split
        · exact unjudged_reject (.inl rfl)
        · refine unjudged_done (by simp) (.inr ⟨authorised, passed, .working, by simp, ?_⟩)
          have resolved : (draft.pair.resolveTaskPairBrainWait draft.ctx.now draft.ctx.writer
              (trimmed (draft.marker.attrs.get? "note"))).audit =
                { draft.pair.audit with status := (draft.pair.resolveTaskPairBrainWait
                  draft.ctx.now draft.ctx.writer
                  (trimmed (draft.marker.attrs.get? "note"))).audit.status } := by
            rw [audit_resolveTaskPairBrainWait]
            split <;> rfl
          exact congrArg (fun audit : AuditRecord => { audit with
            status := .working
            material := none
            passRound := none
            lastVerdict := none }) resolved

theorem dismissIntegration_unjudged (existing : TaskPairState) (now : Int) :
    Unjudged (dismissIntegration existing now) (· = existing.audit) := by
  unfold dismissIntegration
  split
  · exact unjudged_of_pair_none (by simp [recorded]) rfl
  · refine ⟨by simp, ?_⟩
    intro pair written
    cases written
    rfl

theorem applyCancel_unjudged (same : draft.existing.audit = draft.pair.audit) :
    Unjudged (applyCancel draft) fun audit =>
      audit = draft.pair.audit ∨ (draft.roleAuthority = true ∧
        audit = { draft.pair.audit with status := .cancelled }) := by
  simp only [applyCancel]
  split
  · exact unjudged_reject (.inl rfl)
  · rename_i authorised
    simp only [Bool.not_eq_true', Bool.not_eq_false] at authorised
    split
    · exact (dismissIntegration_unjudged _ _).mono fun audit kept => .inl (kept.trans same)
    · split
      · exact unjudged_keepQuietly
      · exact unjudged_done (by simp) (.inr ⟨authorised, rfl⟩)

/-- A DONE closes the pair or, where no audit is wanted, reports it to the Brain. -/
def Finishes (draft : Draft) (before after : AuditRecord) : Prop :=
  ((draft.roleAuthority = true ∨ before.status = .passed) ∧
    after = { before with status := .done }) ∨
  (before.auditor = some taskPairNoAuditor ∧ draft.role = .executor ∧
    draft.roleAuthority = false ∧ after = { before with status := .awaitingBrainDecision })

theorem applyDone_unjudged (same : draft.existing.audit = draft.pair.audit) :
    Unjudged (applyDone draft) fun audit =>
      audit = draft.pair.audit ∨ Finishes draft draft.pair.audit audit := by
  unfold applyDone
  extract_lets attrs stated close hasAudit
  have statedAudit : stated.pair.audit = draft.pair.audit := audit_applyOutputAttr _ _
  have closes : (draft.roleAuthority = true ∨ draft.pair.audit.status = .passed) →
      ∀ closing : Draft, closing.pair.audit = draft.pair.audit → ∀ effect,
      effect ≠ .verdict → Unjudged (close closing effect) fun audit =>
        audit = draft.pair.audit ∨ Finishes draft draft.pair.audit audit := by
    intro entitled closing kept effect other
    refine unjudged_done other (.inr (.inl ⟨entitled, ?_⟩))
    exact congrArg (fun audit : AuditRecord => { audit with status := .done }) kept
  split
  · exact (dismissIntegration_unjudged _ _).mono fun audit kept => .inl (kept.trans same)
  · split
    · exact unjudged_keepQuietly
    · split
      · rename_i forced
        simp only [Bool.and_eq_true, decide_eq_true_eq] at forced
        have brain : draft.roleAuthority = true ∨ draft.pair.audit.status = .passed :=
          .inl (by simp [Draft.roleAuthority, Draft.brainAuthority, forced.1])
        split
        · exact closes brain _ (by simpa [Draft.update] using statedAudit) _ (by simp)
        · exact closes brain _ statedAudit _ (by simp)
      · split
        · rename_i passed
          simp only [Bool.and_eq_true, decide_eq_true_eq] at passed
          exact closes (.inr passed.2) _ statedAudit _ (by simp)
        · split
          · rename_i authorised
            simp only [Bool.and_eq_true] at authorised
            exact closes (.inl authorised.2) _ statedAudit _ (by simp)
          · rename_i unauthorised
            split
            · rename_i reports
              simp only [Bool.and_eq_true, decide_eq_true_eq] at reports
              have noAuthority : draft.roleAuthority = false := by
                simpa [reports.1.1] using unauthorised
              have unwanted : draft.pair.auditor = some taskPairNoAuditor := by
                simpa [hasAudit, TaskPairState.hasAudit] using reports.1.1
              refine unjudged_done (by simp)
                (.inr (.inr ⟨unwanted, reports.1.2, noAuthority, ?_⟩))
              exact congrArg
                (fun audit : AuditRecord => { audit with status := .awaitingBrainDecision })
                statedAudit
            · exact unjudged_reject (.inl rfl)

theorem applyWait_unjudged (verb : TaskPairVerb) :
    Unjudged (applyWait draft verb) (· = draft.pair.audit) := by
  unfold applyWait
  extract_lets attrs flag side freshlyFlagged flagged told
  have flaggedAudit : flagged.pair.audit = draft.pair.audit := audit_addFlag _ _
  have toldAudit : told.pair.audit = draft.pair.audit := by
    simp only [told]
    split <;> exact flaggedAudit
  split
  · exact unjudged_keepQuietly
  · split
    · exact unjudged_done (by simp) rfl
    · split
      · have spentAudit := (audit_spendCap told.pair .blockedReplacement).trans toldAudit
        generalize told.pair.spendCap .blockedReplacement = spending at spentAudit ⊢
        obtain ⟨allowed, spent, notices⟩ := spending
        refine unjudged_done (by simp) ?_
        cases allowed
        · exact spentAudit
        · exact spentAudit
      · exact unjudged_done (by simp) toldAudit

theorem applyReassign_unjudged :
    Unjudged (applyReassign draft) fun audit =>
      draft.roleAuthority = true ∧ Steered draft.pair.audit audit := by
  unfold applyReassign
  extract_lets attrs reset resumed rolesChanged
  split
  · exact unjudged_keep
  · rename_i otherwise
    simp only [Bool.or_eq_true, Bool.not_eq_true', not_or, Bool.not_eq_false] at otherwise
    have resetAudit : reset.pair.audit = draft.pair.audit := by
      simp only [reset]
      split <;> rfl
    have resumedAudit : Steered draft.pair.audit resumed.pair.audit := by
      simp only [resumed]
      split
      · rename_i awaiting
        have waiting : draft.pair.status = .awaitingBrainDecision :=
          (congrArg AuditRecord.status resetAudit).symm.trans awaiting
        exact steered_working (by simp [audit, waiting])
          (congrArg (fun audit : AuditRecord => { audit with status := .working }) resetAudit)
      · rw [resetAudit]
        exact Steered.refl _
    have namedAudit : Steered draft.pair.audit (resumed.pair.setRolesFromAttrs attrs).1.audit :=
      resumedAudit.trans (steered_of_auditor _ (audit_setRolesFromAttrs _ _))
    generalize resumed.pair.setRolesFromAttrs attrs = naming at namedAudit ⊢
    obtain ⟨named, notices⟩ := naming
    dsimp -zeta only at namedAudit ⊢
    extract_lets placed queued picked settled
    have placedAudit : placed.pair.audit = named.audit := by
      simp only [placed, Draft.update]
      split
      · split
        · split <;> rfl
        · rfl
      · split
        · split <;> rfl
        · rfl
    have queuedAudit : Steered named.audit queued.pair.audit := by
      simp only [queued]
      split
      · refine steered_queued ?_
        have waiting := congrArg (fun audit : AuditRecord => { audit with status := .queued })
          placedAudit
        simp only [Draft.push, Draft.update]
        split
        · exact (audit_addFlag _ _).trans waiting
        · exact waiting
      · split
        · rw [← placedAudit]
          exact Steered.refl _
        · rw [← placedAudit]
          exact Steered.refl _
    have pickedAudit : picked.pair.audit = queued.pair.audit := by
      simp only [picked]
      split <;> rfl
    have settledAudit : Steered queued.pair.audit settled.pair.audit := by
      have unaudited : ∀ pair : TaskPairState, Steered pair.audit
          (if attrs.get? "auditor" = some taskPairNoAuditor && pair.status = .inAudit then
            { pair with status := .working } else pair).audit := by
        intro pair
        split
        · rename_i dropped
          simp only [Bool.and_eq_true, decide_eq_true_eq] at dropped
          exact steered_working (by simp [audit, dropped.2]) rfl
        · exact Steered.refl _
      rw [← pickedAudit]
      simp only [settled, Draft.update]
      split
      · exact unaudited (picked.pair.removeFlag .executorSilent)
      · exact unaudited picked.pair
    refine unjudged_done ?_
      ⟨otherwise.1, (namedAudit.trans queuedAudit).trans settledAudit⟩
    split <;> simp

/-! ## Verdicts -/

def VerdictOpen (pair : TaskPairState) : Prop :=
  pair.hasAudit = true ∧ pair.status = .inAudit ∧ pair.material.isSome = true

/-- What a judged verdict leaves: a PASS or REWORK that counts, or one that does not. -/
def Judged (verb : TaskPairVerdictVerb) (before : AuditRecord) (effect : TaskPairEffect)
    (after : AuditRecord) : Prop :=
  ∃ verdict : TaskPairLastVerdict, verdict.verb = verb ∧ verdict.round = before.round ∧
    ((isAppliedVerdict verdict.judgement = false ∧ effect = .verdictHeld ∧
        after = { before with lastVerdict := some verdict, materialHold := none }) ∨
      (isAppliedVerdict verdict.judgement = true ∧ effect = .verdict ∧
        ((verb = .pass ∧ after = { before with
            status := .passed
            passRound := some before.round
            lastVerdict := some verdict
            materialHold := none }) ∨
          (verb = .rework ∧ after = { before with
            status := .rework
            lastVerdict := some verdict
            materialHold := none }))))

/-- The verdict a marker records. -/
def lastVerdictOf (verb : TaskPairVerdictVerb) (verdict : TaskPairVerdictJudgementResult) :
    TaskPairLastVerdict :=
  ⟨verb, verdict.counts, verdict.judgement, draft.pair.round,
    truthy ((truthy draft.ctx.turnText).map host.noticeText)⟩

theorem applyVerdict_held (verb : TaskPairVerdictVerb) (verdict : TaskPairVerdictJudgementResult)
    (held : isAppliedVerdict verdict.judgement = false) :
    (applyVerdict host draft verb verdict).pair.audit =
      { draft.pair.audit with lastVerdict := some (lastVerdictOf host draft verb verdict) } := by
  unfold applyVerdict
  extract_lets turnText judged
  simp only [held, Bool.not_false, if_true]
  have spentAudit := audit_spendCap judged.pair .verdictCorrection
  generalize judged.pair.spendCap .verdictCorrection = spending at spentAudit ⊢
  obtain ⟨allowed, spent, notices⟩ := spending
  cases allowed
  · exact spentAudit
  · exact spentAudit

theorem applyVerdict_pass (verdict : TaskPairVerdictJudgementResult)
    (applied : isAppliedVerdict verdict.judgement = true) :
    (applyVerdict host draft .pass verdict).pair.audit = { draft.pair.audit with
      status := .passed
      passRound := some draft.pair.round
      lastVerdict := some (lastVerdictOf host draft .pass verdict) } := by
  unfold applyVerdict
  extract_lets turnText judged
  simp only [applied, Bool.not_true, Bool.false_eq_true, if_false]
  rfl

theorem applyVerdict_rework (verdict : TaskPairVerdictJudgementResult)
    (applied : isAppliedVerdict verdict.judgement = true) :
    (applyVerdict host draft .rework verdict).pair.audit = { draft.pair.audit with
      status := .rework
      lastVerdict := some (lastVerdictOf host draft .rework verdict) } := by
  unfold applyVerdict
  extract_lets turnText judged cleared wasRework reworked noticed
  rw [if_neg (by simp [applied])]
  have noticedPair : noticed.pair = reworked.pair := by
    simp only [noticed]
    split
    · split <;> rfl
    · rfl
  dsimp -zeta only
  split
  · extract_lets nudged
    have nudgedAudit : nudged.pair.audit = reworked.pair.audit := by
      have noticedAudit : noticed.pair.audit = reworked.pair.audit := congrArg audit noticedPair
      simp only [nudged]
      split
      · exact noticedAudit
      · exact noticedAudit
    split
    · exact nudgedAudit
    · exact nudgedAudit
  · exact congrArg audit noticedPair

theorem holdPass_unjudged (held : TaskPairMaterialHold) :
    Unjudged (holdPass draft held) (· = draft.pair.audit) := by
  unfold holdPass
  extract_lets blocked
  have rejected : Unjudged blocked (· = draft.pair.audit) := unjudged_reject rfl
  split
  · exact ⟨rejected.effect, rejected.writes⟩
  · exact rejected

theorem applyVerdictMarker_cases (verb : TaskPairVerdictVerb) :
    Unjudged (applyVerdictMarker host draft verb) (· = draft.pair.audit) ∨
    (VerdictOpen draft.pair ∧ (draft.role = .auditor ∨ draft.roleAuthority = true) ∧
      (verb = .pass → draft.pair.materialHold = none) ∧
      ∃ after, (applyVerdictMarker host draft verb).pair = some after ∧
        Judged verb draft.pair.audit (applyVerdictMarker host draft verb).effect after.audit) := by
  unfold applyVerdictMarker
  extract_lets verbText
  split
  · exact .inl (unjudged_reject rfl)
  · rename_i opened
    simp only [not_or, Bool.not_eq_true', Bool.not_eq_false, ne_eq, not_not,
      Option.isNone_iff_eq_none] at opened
    split
    · exact .inl (unjudged_reject rfl)
    · rename_i permitted
      simp only [ne_eq, decide_not, Bool.and_eq_true, Bool.not_eq_true', decide_eq_false_iff_not,
        not_and, Bool.not_eq_false] at permitted
      split
      · exact .inl (holdPass_unjudged _ _)
      · rename_i verb _ _ verdict noted judged settled _ unheld
        have settledAudit : settled.pair.audit = judged.pair.audit := by
          simp only [settled]
          split <;> rfl
        refine .inr ⟨⟨opened.1, opened.2.1, by simpa [Option.isSome_iff_ne_none] using opened.2.2⟩,
          ?_, ?_, settled.pair, rfl, ?_⟩
        · by_cases auditor : draft.role = .auditor
          · exact .inl auditor
          · exact .inr (permitted auditor)
        · intro pass
          cases held : draft.pair.materialHold with
          | none => rfl
          | some hold => exact absurd held (unheld hold pass)
        · rw [settledAudit]
          refine ⟨lastVerdictOf host noted verb verdict, rfl, rfl, ?_⟩
          have cleared : ∀ record : AuditRecord,
              (applyVerdict host noted verb verdict).pair.audit = record →
                judged.pair.audit = { record with materialHold := none } := by
            rintro record rfl
            rfl
          cases applied : isAppliedVerdict verdict.judgement with
          | false =>
            refine .inl ⟨applied, if_neg (by simp [applied]), ?_⟩
            exact cleared _ (applyVerdict_held host noted verb verdict applied)
          | true =>
            refine .inr ⟨applied, if_pos applied, ?_⟩
            cases verb with
            | pass => exact .inl ⟨rfl, cleared _ (applyVerdict_pass host noted verdict applied)⟩
            | rework =>
              exact .inr ⟨rfl, cleared _ (applyVerdict_rework host noted verdict applied)⟩

end

end ImCodes.TaskPair
