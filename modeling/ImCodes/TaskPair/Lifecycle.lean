import ImCodes.TaskPair.Audit

/-!
# The lifecycle of a pair

What any marker, whoever writes it, can do to the audit of an existing pair, what a new pair
starts with, and runs of markers between which the daemon updates the pair.
-/

set_option autoImplicit false

namespace ImCodes.TaskPair

open Library TaskPairState

/-! ## Before the verb -/

def resolvingVerbs : List TaskPairVerb :=
  [.started, .working, .dispatch, .queue, .reassign, .needsInput]

section
variable (draft : Draft) (verb : TaskPairVerb)

theorem touched_frame :
    (touched draft verb).existing = draft.existing ∧ (touched draft verb).marker = draft.marker ∧
      (touched draft verb).ctx = draft.ctx ∧ (touched draft verb).role = draft.role := by
  simp only [touched]
  split <;> split <;> exact ⟨rfl, rfl, rfl, rfl⟩

@[simp] theorem touched_existing : (touched draft verb).existing = draft.existing :=
  (touched_frame draft verb).1

@[simp] theorem touched_marker : (touched draft verb).marker = draft.marker :=
  (touched_frame draft verb).2.1

@[simp] theorem touched_ctx : (touched draft verb).ctx = draft.ctx :=
  (touched_frame draft verb).2.2.1

@[simp] theorem touched_role : (touched draft verb).role = draft.role :=
  (touched_frame draft verb).2.2.2

@[simp] theorem touched_brainAuthority :
    (touched draft verb).brainAuthority = draft.brainAuthority := by
  simp [Draft.brainAuthority]

@[simp] theorem touched_roleAuthority :
    (touched draft verb).roleAuthority = draft.roleAuthority := by
  simp [Draft.roleAuthority]

@[simp] theorem touched_terminal : (touched draft verb).terminal = draft.terminal := by
  simp [Draft.terminal]

theorem touched_audit :
    (touched draft verb).pair.audit =
      if draft.roleAuthority = true ∧ verb ∈ resolvingVerbs ∧
          draft.pair.status = .awaitingBrainDecision then
        { draft.pair.audit with status := .working }
      else draft.pair.audit := by
  unfold touched
  extract_lets stamped cleared before
  have clearedAudit : cleared.pair.audit = draft.pair.audit := by
    simp only [cleared]
    split
    · exact audit_clearSideFlags _ _ _
    · rfl
  have clearedStatus : cleared.pair.status = draft.pair.status :=
    congrArg AuditRecord.status clearedAudit
  split
  · rename_i resolves
    simp only [Bool.and_eq_true, List.contains_iff_mem] at resolves
    simp only [Draft.update, audit_resolveTaskPairBrainWait, clearedStatus, clearedAudit]
    have resolving : verb ∈ resolvingVerbs := resolves.2
    by_cases awaiting : draft.pair.status = .awaitingBrainDecision
    · simp [awaiting, resolves.1, resolving, before]
    · simp [awaiting]
  · rename_i otherwise
    simp only [Bool.and_eq_true, List.contains_iff_mem] at otherwise
    rw [clearedAudit, if_neg]
    rintro ⟨authorised, resolves, -⟩
    exact otherwise ⟨authorised, resolves⟩

theorem touched_steered : Steered draft.pair.audit (touched draft verb).pair.audit := by
  rw [touched_audit]
  split
  · rename_i resolves
    exact steered_working (by simp [audit, resolves.2.2]) rfl
  · exact Steered.refl _

theorem touched_same (same : draft.roleAuthority = false ∨ verb ∉ resolvingVerbs) :
    (touched draft verb).pair.audit = draft.pair.audit := by
  rw [touched_audit, if_neg]
  rintro ⟨authorised, resolves, -⟩
  rcases same with unauthorised | other
  · simp [unauthorised] at authorised
  · exact other resolves

end

/-! ## One marker on a pair -/

theorem touched_workspace (draft : Draft) (verb : TaskPairVerb) :
    (touched draft verb).pair.roundBase = draft.pair.roundBase ∧
      (touched draft verb).pair.workspaceKind = draft.pair.workspaceKind ∧
      (touched draft verb).pair.workspace = draft.pair.workspace := by
  have cleared : ∀ (pair : TaskPairState) (role : TaskPairRole) (all : Bool),
      (pair.clearSideFlags role all).roundBase = pair.roundBase ∧
        (pair.clearSideFlags role all).workspaceKind = pair.workspaceKind ∧
        (pair.clearSideFlags role all).workspace = pair.workspace := by
    intro pair role all
    simp only [clearSideFlags]
    split <;> split <;> exact ⟨rfl, rfl, rfl⟩
  have resolved : ∀ (pair : TaskPairState) (writer : String) (note : Option String),
      (pair.resolveTaskPairBrainWait draft.ctx.now writer note).roundBase = pair.roundBase ∧
        (pair.resolveTaskPairBrainWait draft.ctx.now writer note).workspaceKind =
          pair.workspaceKind ∧
        (pair.resolveTaskPairBrainWait draft.ctx.now writer note).workspace = pair.workspace := by
    intro pair writer note
    simp only [resolveTaskPairBrainWait]
    split <;> exact ⟨rfl, rfl, rfl⟩
  unfold touched
  extract_lets stamped cleanly
  have kept : cleanly.pair.roundBase = draft.pair.roundBase ∧
      cleanly.pair.workspaceKind = draft.pair.workspaceKind ∧
      cleanly.pair.workspace = draft.pair.workspace := by
    simp only [cleanly]
    split
    · exact cleared _ _ _
    · exact ⟨rfl, rfl, rfl⟩
  split
  · obtain ⟨roundBase, workspaceKind, workspace⟩ := resolved cleanly.pair draft.ctx.writer
      (draft.marker.attrs.get? "note")
    exact ⟨roundBase.trans kept.1, workspaceKind.trans kept.2.1, workspace.trans kept.2.2⟩
  · exact kept

def acceptsReady (host : TaskPairHost) (draft : Draft) : Bool :=
  (guardedMarker draft .readyForAudit).isNone && !draft.terminal &&
    draft.pair.status ≠ .passed && draft.pair.hasAudit &&
    (mismatchedBase host draft.pair draft.marker.attrs draft.ctx.now).isNone

/-- What a marker without a verdict does to the audit of its pair. -/
inductive AuditChange (host : TaskPairHost) (draft : Draft) (verb : TaskPairVerb)
    (before : AuditRecord) : AuditRecord → Prop where
  | kept : AuditChange host draft verb before before
  | steered {after : AuditRecord} (authorised : draft.roleAuthority = true)
      (steered : Steered before after) : AuditChange host draft verb before after
  | admitted {after : AuditRecord} (authorised : draft.roleAuthority = true)
      (dispatch : verb = .dispatch) (admits : Admits draft before after) :
      AuditChange host draft verb before after
  | cancelled (authorised : draft.roleAuthority = true) :
      AuditChange host draft verb before { before with status := .cancelled }
  | progressed (progress : verb = .started ∨ verb = .working)
      (unguarded : isGuardedProgress draft = false)
      (reached : guardedMarker draft verb = none) :
      AuditChange host draft verb before { before with status := .working }
  | submitted {after : AuditRecord} (ready : verb = .readyForAudit)
      (accepted : acceptsReady host draft = true)
      (submits : Submits (readyMaterial draft.pair draft.marker.attrs draft.ctx.now) before after) :
      AuditChange host draft verb before after
  | reopened {after : AuditRecord} (authorised : draft.roleAuthority = true)
      (passed : before.status = .passed) (reopened : Reopened before after) :
      AuditChange host draft verb before after
  | finished {after : AuditRecord} (finish : verb = .done)
      (reached : guardedMarker draft verb = none)
      (finishes : Finishes draft before after) : AuditChange host draft verb before after

def TaskPairVerdictVerb.verb : TaskPairVerdictVerb → TaskPairVerb
  | .pass => .pass
  | .rework => .rework

/-- A verdict given, whether or not it counts. -/
structure GivesVerdict (draft : Draft) (verb : TaskPairVerb) (transition : TaskPairTransition)
    (verdictVerb : TaskPairVerdictVerb) (after : TaskPairState) : Prop where
  verb_eq : verb = verdictVerb.verb
  opened : VerdictOpen draft.pair
  permitted : draft.role = .auditor ∨ draft.roleAuthority = true
  unheld : verdictVerb = .pass → draft.pair.materialHold = none
  written : transition.pair = some after
  judged : Judged verdictVerb draft.pair.audit transition.effect after.audit

theorem noticeClosed_unjudged (draft : Draft) :
    Unjudged (noticeClosed draft) (· = draft.existing.audit) := by
  simp only [noticeClosed]
  split
  · exact unjudged_keep
  · refine ⟨by simp, ?_⟩
    intro pair written
    cases written
    rfl

theorem updateTitle_unjudged (draft : Draft) :
    Unjudged (updateTitle draft) (· = draft.existing.audit) := by
  unfold updateTitle
  split
  · split
    · refine ⟨by simp, ?_⟩
      intro pair written
      cases written
      rfl
    · exact unjudged_keep
  · exact unjudged_keep

theorem guardedMarker_unjudged {draft : Draft} {verb : TaskPairVerb}
    {transition : TaskPairTransition} (guarded : guardedMarker draft verb = some transition) :
    Unjudged transition (· = draft.existing.audit) := by
  simp only [guardedMarker] at guarded
  split at guarded
  · cases guarded
    exact unjudged_keep
  · split at guarded
    · cases guarded
      exact unjudged_of_pair_none (by simp [recorded]) rfl
    · split at guarded
      · cases guarded
        exact noticeClosed_unjudged draft
      · split at guarded
        · cases guarded
          exact updateTitle_unjudged draft
        · split at guarded
          · cases guarded
            exact unjudged_keepQuietly
          · cases guarded

section
variable (host : TaskPairHost) (draft : Draft)

theorem Draft.roleAuthority_of_brainAuthority {draft : Draft}
    (brain : draft.brainAuthority = true) : draft.roleAuthority = true := by
  simp [Draft.roleAuthority, brain]

theorem Draft.brainAuthority_of_role {draft : Draft} (brain : draft.role = .brain) :
    draft.brainAuthority = true := by
  simp [Draft.brainAuthority, brain]

theorem verdictMarker_cases (verb : TaskPairVerdictVerb) :
    Unjudged (applyVerdictMarker host (touched draft verb.verb) verb)
        (AuditChange host draft verb.verb draft.pair.audit) ∨
      ∃ after, GivesVerdict draft verb.verb
        (applyVerdictMarker host (touched draft verb.verb) verb) verb after := by
  have same : (touched draft verb.verb).pair.audit = draft.pair.audit :=
    touched_same draft _ (.inr (by cases verb <;> simp [TaskPairVerdictVerb.verb, resolvingVerbs]))
  rcases applyVerdictMarker_cases host (touched draft verb.verb) verb with
    rejected | ⟨opened, permitted, unheld, after, written, judged⟩
  · refine .inl (rejected.mono ?_)
    rintro audit rfl
    rw [same]
    exact .kept
  · refine .inr ⟨after, rfl, ?_, by simpa using permitted, ?_, written, by rwa [same] at judged⟩
    · have auditor : (touched draft verb.verb).pair.auditor = draft.pair.auditor :=
        congrArg AuditRecord.auditor same
      have status : (touched draft verb.verb).pair.status = draft.pair.status :=
        congrArg AuditRecord.status same
      have material : (touched draft verb.verb).pair.material = draft.pair.material :=
        congrArg AuditRecord.material same
      simpa [VerdictOpen, TaskPairState.hasAudit, auditor, status, material] using opened
    · intro pass
      exact (congrArg AuditRecord.materialHold same).symm.trans (unheld pass)

theorem progress_cases (verb : TaskPairVerb) (progress : verb = .started ∨ verb = .working)
    (start : draft.existing = draft.pair) (reached : guardedMarker draft verb = none) :
    Unjudged (applyProgress (touched draft verb) verb)
      (AuditChange host draft verb draft.pair.audit) := by
  have same := touched_same draft verb
  refine (applyProgress_unjudged (touched draft verb) verb ?_).mono ?_
  · intro unauthorised
    rw [same (.inl (by simpa using unauthorised)), touched_existing, start]
  · rintro after (rfl | ⟨unguarded, rfl⟩)
    · cases authorised : draft.roleAuthority with
      | true => exact .steered authorised (touched_steered draft verb)
      | false =>
        rw [same (.inl authorised)]
        exact .kept
    · have overwritten : { (touched draft verb).pair.audit with status := .working } =
          { draft.pair.audit with status := .working } := by
        rw [touched_audit]
        split <;> rfl
      rw [overwritten]
      exact .progressed progress (by simpa [isGuardedProgress] using unguarded) reached

theorem applyVerb_cases (verb : TaskPairVerb) (start : draft.existing = draft.pair)
    (unguarded : guardedMarker draft verb = none) :
    Unjudged (applyVerb host (touched draft verb) verb)
        (AuditChange host draft verb draft.pair.audit) ∨
      ∃ verdictVerb after,
        GivesVerdict draft verb (applyVerb host (touched draft verb) verb) verdictVerb after := by
  have steered := touched_steered draft verb
  have same := touched_same draft verb
  unfold applyVerb
  split
  · exact .inl unjudged_keep
  · rename_i timely
    split
    · rename_i reopens
      simp only [reopensPassed, Bool.and_eq_true, decide_eq_true_eq, touched_role] at reopens
      have brain := Draft.roleAuthority_of_brainAuthority (Draft.brainAuthority_of_role reopens.1.2)
      refine .inl ((reopenPassed_unjudged _ verb).mono ?_)
      rintro audit ⟨status, member, rfl⟩
      have passed : draft.pair.status = .passed := by
        have status : (touched draft verb).pair.audit.status = .passed := reopens.1.1
        rw [touched_audit] at status
        split at status
        · cases status
        · exact status
      refine .reopened brain passed ⟨status, member, ?_⟩
      rw [touched_audit]
      split <;> rfl
    · cases verb with
      | check =>
        refine .inl ((applyCheck_unjudged host _).mono ?_)
        rintro audit rfl
        rw [same (.inr (by simp [resolvingVerbs]))]
        exact .kept
      | queue =>
        refine .inl ((applyQueue_unjudged _).mono ?_)
        rintro audit ⟨authorised, moved⟩
        exact .steered (by simpa using authorised) (steered.trans moved)
      | dispatch =>
        refine .inl ((applyDispatch_unjudged _).mono ?_)
        rintro audit ⟨authorised, moved | ⟨source, auditor, rfl⟩⟩
        · exact .steered (by simpa using authorised) (steered.trans moved)
        · refine .admitted (by simpa using authorised) rfl ⟨by simpa using source, auditor, ?_⟩
          rw [touched_audit]
          split <;> rfl
      | started => exact .inl (progress_cases host draft .started (.inl rfl) start unguarded)
      | working => exact .inl (progress_cases host draft .working (.inr rfl) start unguarded)
      | readyForAudit =>
        refine .inl ((applyReady_unjudged host _).mono ?_)
        have unresolved := same (.inr (by simp [resolvingVerbs]))
        obtain ⟨roundBase, workspaceKind, workspace⟩ := touched_workspace draft .readyForAudit
        have auditor : (touched draft .readyForAudit).pair.auditor = draft.pair.auditor :=
          congrArg AuditRecord.auditor unresolved
        rw [unresolved]
        rintro after (rfl | ⟨audited, matched, submits⟩)
        · exact .kept
        · refine .submitted rfl ?_ ?_
          · have status : (touched draft .readyForAudit).pair.status = draft.pair.status :=
              congrArg AuditRecord.status unresolved
            simp [isHistorical, reopensPassed, status] at timely
            have wanted : draft.pair.hasAudit = true := by
              simpa [TaskPairState.hasAudit, auditor] using audited
            have based : mismatchedBase host draft.pair draft.marker.attrs draft.ctx.now =
                none := by
              simpa [mismatchedBase, roundBase] using matched
            simp [acceptsReady, unguarded, timely, wanted, based]
          · simpa [readyMaterial, roundBase, workspaceKind, workspace] using submits
      | pass =>
        rcases verdictMarker_cases host draft .pass with unjudged | ⟨after, gives⟩
        · exact .inl unjudged
        · exact .inr ⟨_, after, gives⟩
      | rework =>
        rcases verdictMarker_cases host draft .rework with unjudged | ⟨after, gives⟩
        · exact .inl unjudged
        · exact .inr ⟨_, after, gives⟩
      | nextRound =>
        refine .inl ((applyNextRound_unjudged _).mono ?_)
        rw [same (.inr (by simp [resolvingVerbs]))]
        rintro audit (rfl | ⟨authorised, passed, reopened⟩)
        · exact .kept
        · have unresolved := same (.inr (by simp [resolvingVerbs]))
          exact .reopened (Draft.roleAuthority_of_brainAuthority (by simpa using authorised))
            ((congrArg AuditRecord.status unresolved).symm.trans passed) reopened
      | done =>
        have unresolved := same (.inr (by simp [resolvingVerbs]))
        refine .inl ((applyDone_unjudged _ (by rw [unresolved, touched_existing, start])).mono ?_)
        rw [unresolved]
        rintro audit (rfl | finishes)
        · exact .kept
        · exact .finished rfl unguarded (by simpa [Finishes] using finishes)
      | blocked =>
        refine .inl ((applyWait_unjudged _ _).mono ?_)
        rintro audit rfl
        rw [same (.inr (by simp [resolvingVerbs]))]
        exact .kept
      | needsInput =>
        refine .inl ((applyWait_unjudged _ _).mono ?_)
        rintro audit rfl
        cases authorised : draft.roleAuthority with
        | true => exact .steered authorised steered
        | false =>
          rw [same (.inl authorised)]
          exact .kept
      | reassign =>
        refine .inl ((applyReassign_unjudged _).mono ?_)
        rintro audit ⟨authorised, moved⟩
        exact .steered (by simpa using authorised) (steered.trans moved)
      | cancel =>
        have unresolved := same (.inr (by simp [resolvingVerbs]))
        refine .inl ((applyCancel_unjudged _ (by rw [unresolved, touched_existing, start])).mono ?_)
        rw [unresolved, touched_roleAuthority]
        rintro audit (rfl | ⟨authorised, rfl⟩)
        · exact .kept
        · exact .cancelled authorised
      | claim => exact .inl unjudged_keep

end

theorem applyToPair_cases (host : TaskPairHost) (pair : TaskPairState) (verb : TaskPairVerb)
    (marker : TaskPairMarker) (ctx : TaskPairApplyContext) :
    Unjudged (applyToPair host pair verb marker ctx)
        (AuditChange host (draftOf pair marker ctx) verb pair.audit) ∨
      ∃ verdictVerb after, GivesVerdict (draftOf pair marker ctx) verb
        (applyToPair host pair verb marker ctx) verdictVerb after := by
  simp only [applyToPair]
  cases guarded : guardedMarker (draftOf pair marker ctx) verb with
  | some transition =>
    refine .inl ((guardedMarker_unjudged guarded).mono ?_)
    rintro audit rfl
    exact .kept
  | none => exact applyVerb_cases host (draftOf pair marker ctx) verb rfl guarded

/-! ## A marker without a pair -/

/-- A new pair has no verdict, and material only if its first marker submitted some. -/
def NewAudit (verb : TaskPairVerb) (marker : TaskPairMarker) (ctx : TaskPairApplyContext)
    (after : AuditRecord) : Prop :=
  after.passRound = none ∧ after.lastVerdict = none ∧ after.materialHold = none ∧
    ((after.status ∈ [TaskPairStatus.queued, .working, .awaitingAudit, .awaitingBrainDecision] ∧
        after.material = none) ∨
      (verb = .readyForAudit ∧ after.status = .inAudit ∧
        after.material = materialFromAttrs marker.attrs ctx.now))

theorem unjudged_created {pair : TaskPairState} {unusual : Bool} {intents : List TaskPairIntent}
    {meets : AuditRecord → Prop} (written : meets pair.audit) :
    Unjudged (created pair unusual intents) meets := by
  refine ⟨by simp [created], ?_⟩
  intro after same
  cases same
  exact written

section
variable (verb : TaskPairVerb) (marker : TaskPairMarker) (ctx : TaskPairApplyContext)

theorem createFromProgress_unjudged :
    Unjudged (createFromProgress verb marker ctx) (NewAudit verb marker ctx) := by
  unfold createFromProgress
  extract_lets start fresh
  have namedAudit := audit_setRolesFromAttrs fresh marker.attrs
  generalize fresh.setRolesFromAttrs marker.attrs = naming at namedAudit ⊢
  obtain ⟨pair, intents⟩ := naming
  dsimp -zeta only at namedAudit ⊢
  have moved : ∀ status ∈ [TaskPairStatus.queued, .working, .awaitingAudit,
      .awaitingBrainDecision], NewAudit verb marker ctx { pair.audit with status } := by
    intro status open_
    rw [namedAudit]
    exact ⟨rfl, rfl, rfl, .inl ⟨open_, rfl⟩⟩
  have kept : NewAudit verb marker ctx pair.audit := by
    have same : pair.audit = { pair.audit with status := .working } := by
      rw [namedAudit]
      rfl
    rw [same]
    exact moved .working (by simp)
  split
  · split
    · have submitted : NewAudit .readyForAudit marker ctx { pair.audit with
          status := .inAudit
          round := 1
          material := materialFromAttrs marker.attrs ctx.now } := by
        rw [namedAudit]
        exact ⟨rfl, rfl, rfl, .inr ⟨rfl, rfl, rfl⟩⟩
      dsimp only
      split
      · exact unjudged_created submitted
      · exact unjudged_created submitted
    · exact unjudged_created kept
  · have reported : ∀ status ∈ [TaskPairStatus.queued, .working, .awaitingAudit,
        .awaitingBrainDecision], NewAudit .done marker ctx
          (TaskPairState.audit { pair.applyOutputAttr marker.attrs with status }) := by
      intro status open_
      have stated := congrArg (fun audit : AuditRecord => { audit with status })
        (audit_applyOutputAttr pair marker.attrs)
      exact (congrArg (NewAudit .done marker ctx) stated).mpr (moved status open_)
    dsimp only
    split
    · have written : NewAudit .done marker ctx (spendCap
          { pair.applyOutputAttr marker.attrs with status := .awaitingAudit }
          .doneReminder).2.1.audit := by
        rw [audit_spendCap]
        exact reported .awaitingAudit (by simp)
      split
      · exact unjudged_created written
      · exact unjudged_created written
    · exact unjudged_created (reported .awaitingBrainDecision (by simp))
  · exact unjudged_created kept

theorem createPair_unjudged :
    Unjudged (createPair verb marker ctx) (NewAudit verb marker ctx) := by
  unfold createPair
  extract_lets queued
  have queuedAudit : NewAudit verb marker ctx queued.audit := by
    simp only [queued, audit_withBrief, audit_setRolesFromAttrsQueued]
    exact ⟨rfl, rfl, rfl, .inl ⟨by simp [audit, newPair], rfl⟩⟩
  split
  · exact unjudged_created queuedAudit
  · split
    · exact unjudged_created queuedAudit
    · split
      · exact unjudged_created queuedAudit
      · have namedAudit := audit_setRolesFromAttrs
          (newPair marker.taskId ctx.writer ctx .working) marker.attrs
        generalize (newPair marker.taskId ctx.writer ctx .working).setRolesFromAttrs
          marker.attrs = naming at namedAudit ⊢
        obtain ⟨pair, intents⟩ := naming
        have written : NewAudit .dispatch marker ctx (pair.withBrief marker.brief).audit := by
          rw [audit_withBrief, show pair.audit = _ from namedAudit]
          exact ⟨rfl, rfl, rfl, .inl ⟨by simp [audit, newPair], rfl⟩⟩
        dsimp only
        split
        · exact unjudged_created written
        · exact unjudged_created written
  all_goals first
    | exact createFromProgress_unjudged _ marker ctx
    | exact unjudged_of_pair_none (by simp [recorded]) rfl

end

theorem applyTaskPairMarker_cases (host : TaskPairHost) (existing : Option TaskPairState)
    (marker : TaskPairMarker) (ctx : TaskPairApplyContext) :
    ((applyTaskPairMarker host existing marker ctx).pair = none ∧
        (applyTaskPairMarker host existing marker ctx).effect ≠ .verdict) ∨
      ∃ verb, marker.knownVerb = some verb ∧ marker.taskId ≠ taskPairInferTaskId ∧
        ((existing = none ∧ applyTaskPairMarker host existing marker ctx =
            createPair verb marker ctx) ∨
          ∃ pair, existing = some pair ∧ applyTaskPairMarker host existing marker ctx =
            applyToPair host pair verb marker ctx) := by
  simp only [applyTaskPairMarker]
  cases known : marker.knownVerb with
  | none => exact .inl ⟨rfl, by simp⟩
  | some verb =>
    simp only
    split
    · left
      unfold applyUnnamed
      split
      · split
        · split <;> exact ⟨rfl, by simp [recorded]⟩
        · exact ⟨rfl, by simp [recorded]⟩
      · exact ⟨rfl, by simp⟩
    · rename_i named
      cases existing with
      | none =>
        dsimp only
        split
        · exact .inl ⟨rfl, by simp [recorded]⟩
        · exact .inr ⟨verb, rfl, named, .inl ⟨rfl, rfl⟩⟩
      | some pair => exact .inr ⟨verb, rfl, named, .inr ⟨pair, rfl, rfl⟩⟩

/-! ## Runs -/

/-- What happens to a pair: a marker, or what the daemon notes on it between markers. -/
inductive PairStep where
  | marker (marker : TaskPairMarker) (ctx : TaskPairApplyContext)
  | workspace (workspace : Option TaskPairWorkspace) (now : Int)
  | scheduling (scheduling : Option TaskPairScheduling) (now : Int)
  | holdMaterial (head base : String) (now : Int)

/-- The round's material does not build on the round's base: no PASS until it is replaced. -/
def holdMaterialOutsideBase (host : TaskPairHost) (pair : TaskPairState) (head base : String)
    (now : Int) : TaskPairState :=
  if pair.status ≠ .inAudit ∨ pair.materialHold.isSome then pair
  else
    match truthy (pair.material.bind (·.head)) with
    | some current =>
      if sameTaskPairCommit host current head then
        { pair with materialHold := some ⟨head, base, now⟩, updatedAt := now }
      else pair
    | none => pair

def pairStep (host : TaskPairHost) (pair : Option TaskPairState) :
    PairStep → Option TaskPairState
  | .marker marker ctx => (applyTaskPairMarker host pair marker ctx).after pair
  | .workspace workspace now =>
    pair.map fun pair => { pair with workspace := workspace, updatedAt := now }
  | .scheduling scheduling now =>
    pair.map fun pair => { pair with scheduling := scheduling, updatedAt := now }
  | .holdMaterial head base now =>
    pair.map fun pair => holdMaterialOutsideBase host pair head base now

def Held (before after : AuditRecord) : Prop :=
  ∃ hold, (hold = before.materialHold ∨ before.status = .inAudit) ∧
    after = { before with materialHold := hold }

theorem holdMaterialOutsideBase_held (host : TaskPairHost) (pair : TaskPairState)
    (head base : String) (now : Int) :
    Held pair.audit (holdMaterialOutsideBase host pair head base now).audit := by
  unfold holdMaterialOutsideBase
  split
  · exact ⟨pair.materialHold, .inl rfl, rfl⟩
  · rename_i open_
    simp only [ne_eq, not_or, not_not] at open_
    split
    · split
      · exact ⟨_, .inr open_.1, rfl⟩
      · exact ⟨pair.materialHold, .inl rfl, rfl⟩
    · exact ⟨pair.materialHold, .inl rfl, rfl⟩

/-- A host for texts without letters beyond ASCII and briefs without checklists. -/
def plainHost : TaskPairHost where
  toLowerCase := fun text => String.ofList (text.toList.map Char.toLower)
  noticeText := fun text => text
  hasAuditorProposal := fun _ => false
  applyTaskPairChecklistCheck := fun brief _ => (brief, [])

/-- A marker of the pair `T1`. -/
def plainMarker (verb : TaskPairVerb) (attrs : TaskPairAttrs) : TaskPairMarker :=
  ⟨some verb, "T1", attrs, none⟩

/-- A project whose Brain is the session `brain`. -/
def plainContext (writer : String) (source : TaskPairEventSource) : TaskPairApplyContext where
  writer := writer
  fallbackBrain := "brain"
  projectBlocking := none
  now := 1
  source := source
  busySessions := none
  turnText := none
  requireStructuredPairCreate := false

def writes (writer : String) (verb : TaskPairVerb) (attrs : TaskPairAttrs)
    (source : TaskPairEventSource) : PairStep :=
  .marker (plainMarker verb attrs) (plainContext writer source)

def submittedSteps : List PairStep :=
  [writes "brain" .dispatch [("executor", "exec"), ("auditor", "aud")] .implicitDispatch,
    writes "exec" .readyForAudit [("head", "1234567")] .marker]

/-- The ways a step of a run can change the pair it finds. -/
inductive StepEffect (host : TaskPairHost) (before : Option TaskPairState) (step : PairStep)
    (after : Option TaskPairState) : Prop where
  | unchanged (same : after = before) : StepEffect host before step after
  | created (verb : TaskPairVerb) (marker : TaskPairMarker) (ctx : TaskPairApplyContext)
      (marked : step = .marker marker ctx) (known : marker.knownVerb = some verb)
      (fresh : before = none) (pair : TaskPairState)
      (written : after = some pair) (audit : NewAudit verb marker ctx pair.audit) :
      StepEffect host before step after
  | changed (verb : TaskPairVerb) (marker : TaskPairMarker) (ctx : TaskPairApplyContext)
      (marked : step = .marker marker ctx) (known : marker.knownVerb = some verb)
      (named : marker.taskId ≠ taskPairInferTaskId)
      (existing pair : TaskPairState) (found : before = some existing)
      (written : after = some pair)
      (applied : (applyToPair host existing verb marker ctx).pair = some pair)
      (change : AuditChange host (draftOf existing marker ctx) verb existing.audit pair.audit) :
      StepEffect host before step after
  | judged (verdictVerb : TaskPairVerdictVerb) (marker : TaskPairMarker)
      (ctx : TaskPairApplyContext) (marked : step = .marker marker ctx)
      (existing pair : TaskPairState) (found : before = some existing)
      (written : after = some pair)
      (gives : GivesVerdict (draftOf existing marker ctx) verdictVerb.verb
        (applyTaskPairMarker host before marker ctx) verdictVerb pair) :
      StepEffect host before step after
  | held (existing pair : TaskPairState) (found : before = some existing)
      (written : after = some pair) (held : Held existing.audit pair.audit) :
      StepEffect host before step after

theorem pairStep_effect (host : TaskPairHost) (pair : Option TaskPairState) (step : PairStep) :
    StepEffect host pair step (pairStep host pair step) := by
  cases step with
  | marker marker ctx =>
    simp only [pairStep, TaskPairTransition.after]
    cases written : (applyTaskPairMarker host pair marker ctx).pair with
    | none => exact .unchanged rfl
    | some after =>
      rw [Option.some_or]
      rcases applyTaskPairMarker_cases host pair marker ctx with
        ⟨none_, -⟩ | ⟨verb, known, named, ⟨rfl, same⟩ | ⟨existing, rfl, same⟩⟩
      · simp [none_] at written
      · rw [same] at written
        exact .created verb marker ctx rfl known rfl after rfl
          ((createPair_unjudged verb marker ctx).writes after written)
      · rcases applyToPair_cases host existing verb marker ctx with
          unjudged | ⟨verdictVerb, judged, gives⟩
        · rw [same] at written
          exact .changed verb marker ctx rfl known named existing after rfl rfl written
            (unjudged.writes after written)
        · have given := gives.written
          rw [← same, written] at given
          cases given
          rw [← same, gives.verb_eq] at gives
          exact .judged verdictVerb marker ctx rfl existing after rfl rfl gives
  | workspace workspace now =>
    cases pair with
    | none => exact .unchanged rfl
    | some pair => exact .held pair _ rfl rfl ⟨pair.materialHold, .inl rfl, rfl⟩
  | scheduling scheduling now =>
    cases pair with
    | none => exact .unchanged rfl
    | some pair => exact .held pair _ rfl rfl ⟨pair.materialHold, .inl rfl, rfl⟩
  | holdMaterial head base now =>
    cases pair with
    | none => exact .unchanged rfl
    | some pair =>
      exact .held pair _ rfl rfl (holdMaterialOutsideBase_held host pair head base now)

end ImCodes.TaskPair
