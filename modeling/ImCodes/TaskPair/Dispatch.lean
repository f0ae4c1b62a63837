import ImCodes.TaskPair.QueuedPairs

/-!
# What a DISPATCH does to a pair

A DISPATCH leaves its pair as it was, puts it in the queue or starts it with the roles it
names. Which of the three is decided by the pair, the marker and the sessions that are busy.
-/

set_option autoImplicit false

namespace ImCodes.TaskPair

open Library TaskPairState

/-- Whether a pair is started, and who is in its roles. -/
structure TaskPairBooking where
  status : TaskPairStatus
  executor : Option String
  auditor : Option String
deriving DecidableEq

/-- The roles with the sessions that attributes name for them. -/
def TaskPairBooking.named (booking : TaskPairBooking) (attrs : TaskPairAttrs) : TaskPairBooking :=
  { booking with
    executor := (attrs.named? "executor").or booking.executor
    auditor := (attrs.named? "auditor").or booking.auditor }

namespace TaskPairState

variable (pair : TaskPairState)

def booking : TaskPairBooking := ⟨pair.status, pair.executor, pair.auditor⟩

@[simp] theorem booking_addFlag (flag : TaskPairFlag) :
    (pair.addFlag flag).booking = pair.booking := by
  unfold addFlag
  split <;> rfl

@[simp] theorem booking_removeFlag (flag : TaskPairFlag) :
    (pair.removeFlag flag).booking = pair.booking := rfl

@[simp] theorem booking_resetCaps : pair.resetCaps.booking = pair.booking := rfl

@[simp] theorem booking_withBrief (brief : Option String) :
    (pair.withBrief brief).booking = pair.booking := rfl

@[simp] theorem booking_clearSideFlags (role : TaskPairRole) (all : Bool) :
    (pair.clearSideFlags role all).booking = pair.booking := by
  simp only [clearSideFlags]
  split <;> split <;> rfl

@[simp] theorem booking_spendCap (reason : TaskPairCappedReason) :
    (pair.spendCap reason).2.1.booking = pair.booking := by
  obtain ⟨_, _, _, changes⟩ := pair.spendCap_changes reason
  rw [changes]
  rfl

@[simp] theorem booking_setRolesFromAttrs (attrs : TaskPairAttrs) :
    (pair.setRolesFromAttrs attrs).1.booking = pair.booking.named attrs := by
  obtain ⟨_, _, _, _, changes⟩ := pair.setRolesFromAttrs_changes attrs
  rw [changes]
  rfl

theorem booking_resolveTaskPairBrainWait (now : Int) (writer : String) (note : Option String) :
    (pair.resolveTaskPairBrainWait now writer note).booking =
      if pair.status = .awaitingBrainDecision then { pair.booking with status := .working }
      else pair.booking := by
  by_cases awaiting : pair.status = .awaitingBrainDecision
  · simp [resolveTaskPairBrainWait, removeFlag, booking, markTaskPairStarted, awaiting]
  · simp [resolveTaskPairBrainWait, removeFlag, booking, awaiting]

end TaskPairState

/-! ## The three ways -/

inductive DispatchFate where
  | kept | queued | started
deriving DecidableEq, Repr

section
variable (pair : TaskPairState) (marker : TaskPairMarker) (ctx : TaskPairApplyContext)

def mayDispatch : Bool :=
  hasAuthority pair marker ctx && !(isTerminalTaskPairStatus pair.status) &&
    !(isTitleOnlyDispatch marker .dispatch) && !(isSuspendedSource pair ctx)

def namesBusySession : Bool := namedParticipantIsBusy marker.attrs ctx.busySessions

def staysQueued : Bool :=
  namesBusySession marker ctx || (pair.status = .queued && ctx.source ≠ .queue)

def dispatchFate (existing : Option TaskPairState) : DispatchFate :=
  if marker.taskId = taskPairInferTaskId then .kept
  else
    match existing with
    | some pair =>
      if !(mayDispatch pair marker ctx) then .kept
      else if staysQueued pair marker ctx then .queued
      else .started
    | none =>
      if requiresPairCreate .dispatch ctx then .kept
      else if ctx.source = .marker || namesBusySession marker ctx then .queued
      else .started

end

/-- The pair as a DISPATCH starts it, before the marker's own roles. -/
def startedBooking : Option TaskPairState → TaskPairBooking
  | some pair =>
    if pair.status = .queued ∨ pair.status = .awaitingBrainDecision then
      ⟨.working, pair.executor, pair.auditor⟩
    else pair.booking
  | none => ⟨.working, none, none⟩

/-- The pair a DISPATCH writes on each of the three ways. -/
def FollowsFate (existing : Option TaskPairState) (attrs : TaskPairAttrs)
    (transition : TaskPairTransition) : DispatchFate → Prop
  | .kept => ∀ after, transition.pair = some after →
      ∃ before, existing = some before ∧ after.booking = before.booking
  | .queued => ∃ after, transition.pair = some after ∧ after.status = .queued
  | .started => ∃ after, transition.pair = some after ∧
      after.booking = (startedBooking existing).named attrs

/-! ## A pair that exists -/

section
variable {pair : TaskPairState} {marker : TaskPairMarker} {ctx : TaskPairApplyContext}

theorem guardedMarker_dispatch :
    guardedMarker (draftOf pair marker ctx) .dispatch =
      if isTitleOnlyDispatch marker .dispatch then some (updateTitle (draftOf pair marker ctx))
      else if isSuspendedSource pair ctx then some (draftOf pair marker ctx).keepQuietly
      else none := by
  unfold guardedMarker
  extract_lets existing source
  rw [if_neg (by simp), if_neg (by simp), if_neg (by simp)]
  rfl

theorem touched_booking (draft : Draft) :
    (touched draft .dispatch).pair.booking =
      if draft.roleAuthority = true ∧ draft.pair.status = .awaitingBrainDecision then
        { draft.pair.booking with status := .working }
      else draft.pair.booking := by
  unfold touched
  extract_lets stamped cleared
  have clearedBooking : cleared.pair.booking = draft.pair.booking := by
    simp only [cleared]
    split
    · exact booking_clearSideFlags _ _ _
    · rfl
  have clearedStatus : cleared.pair.status = draft.pair.status :=
    congrArg TaskPairBooking.status clearedBooking
  have listed : [TaskPairVerb.started, .working, .dispatch, .queue, .reassign, .needsInput].contains
      TaskPairVerb.dispatch = true := rfl
  by_cases authorised : draft.roleAuthority = true
  · rw [if_pos (by rw [authorised, listed]; rfl)]
    simp only [Draft.update, booking_resolveTaskPairBrainWait, clearedBooking, clearedStatus,
      authorised, true_and]
    rfl
  · simp [authorised, clearedBooking]

theorem reject_booking {draft : Draft} {text : String} {after : TaskPairState}
    (written : (draft.reject text).pair = some after) : after.booking = draft.pair.booking := by
  have spent := booking_spendCap draft.pair .policyRejection
  unfold Draft.reject at written
  generalize draft.pair.spendCap .policyRejection = spending at spent written
  obtain ⟨allowed, counted, notices⟩ := spending
  dsimp only at spent written
  split at written
  · cases written
    exact spent
  · cases written

theorem updateTitle_booking {draft : Draft} {after : TaskPairState}
    (written : (updateTitle draft).pair = some after) :
    after.booking = draft.existing.booking := by
  unfold updateTitle at written
  split at written
  · split at written
    · cases written
      rfl
    · cases written
  · cases written

theorem requeued_status (draft : Draft) :
    ∃ after, (requeued draft).pair = some after ∧ after.status = .queued :=
  ⟨_, rfl, rfl⟩

theorem applyDispatch_queues {draft : Draft} (authorised : draft.roleAuthority = true)
    (running : draft.terminal = false)
    (stays : staysQueued draft.pair draft.marker draft.ctx = true) :
    ∃ after, (applyDispatch draft).pair = some after ∧ after.status = .queued := by
  unfold applyDispatch
  extract_lets attrs busy reset
  rw [if_neg (by simp [authorised]), if_neg (by simp [running])]
  generalize reset.pair.setRolesFromAttrs attrs = placing
  obtain ⟨placed, notices⟩ := placing
  dsimp -zeta only
  have waiting : namesBusySession draft.marker draft.ctx = true ∨
      (draft.pair.status = .queued ∧ draft.ctx.source ≠ .queue) := by
    simpa [staysQueued] using stays
  change busy = true ∨ (reset.pair.status = .queued ∧ draft.ctx.source ≠ .queue) at waiting
  split
  · rename_i awaiting
    have isBusy : busy = true := by
      rcases waiting with isBusy | ⟨queued, -⟩
      · exact isBusy
      · rw [queued] at awaiting
        cases awaiting
    rw [if_pos isBusy]
    exact requeued_status _
  · split
    · exact requeued_status _
    · rename_i admitted
      rw [if_pos (waiting.resolve_right admitted)]
      exact requeued_status _

theorem applyDispatch_starts {draft : Draft} (authorised : draft.roleAuthority = true)
    (running : draft.terminal = false)
    (starts : staysQueued draft.pair draft.marker draft.ctx = false) :
    ∃ after, (applyDispatch draft).pair = some after ∧
      after.booking = (startedBooking (some draft.pair)).named draft.marker.attrs := by
  have named : (draft.pair.resetCaps.setRolesFromAttrs draft.marker.attrs).1.booking =
      draft.pair.booking.named draft.marker.attrs :=
    booking_setRolesFromAttrs draft.pair.resetCaps draft.marker.attrs
  obtain ⟨free, admitted⟩ : namesBusySession draft.marker draft.ctx = false ∧
      ¬(draft.pair.status = .queued ∧ draft.ctx.source ≠ .queue) := by
    simpa [staysQueued] using starts
  unfold applyDispatch
  extract_lets attrs busy reset
  rw [if_neg (by simp [authorised]), if_neg (by simp [running])]
  have placing : reset.pair.setRolesFromAttrs attrs =
      draft.pair.resetCaps.setRolesFromAttrs draft.marker.attrs := rfl
  rw [placing]
  generalize draft.pair.resetCaps.setRolesFromAttrs draft.marker.attrs = roles at named
  obtain ⟨placed, notices⟩ := roles
  have placedStatus : placed.status = draft.pair.status :=
    congrArg TaskPairBooking.status named
  have status : reset.pair.status = draft.pair.status := rfl
  have notBusy : ¬busy = true := Bool.eq_false_iff.mp free
  have started : (⟨.working, placed.executor, placed.auditor⟩ : TaskPairBooking) =
      TaskPairBooking.named ⟨.working, draft.pair.executor, draft.pair.auditor⟩
        draft.marker.attrs :=
    congrArg (fun booking : TaskPairBooking => { booking with status := .working }) named
  dsimp -zeta only
  rw [status, if_neg notBusy, if_neg admitted, if_neg notBusy]
  by_cases awaiting : draft.pair.status = .awaitingBrainDecision
  · rw [if_pos awaiting]
    refine ⟨_, rfl, ?_⟩
    rw [startedBooking, if_pos (.inr awaiting), ← started]
    rfl
  · rw [if_neg awaiting, placedStatus]
    by_cases queued : draft.pair.status = .queued
    · rw [startedBooking, if_pos (Or.inl queued), ← started, if_pos queued]
      split <;> exact ⟨_, rfl, rfl⟩
    · rw [startedBooking, if_neg (not_or.mpr ⟨queued, awaiting⟩), if_neg queued]
      split <;> exact ⟨_, rfl, named⟩

variable {host : TaskPairHost}

theorem dispatch_verb (known : marker.knownVerb = some .dispatch)
    (named : marker.taskId ≠ taskPairInferTaskId) :
    applyTaskPairMarker host (some pair) marker ctx =
      if isTitleOnlyDispatch marker .dispatch then updateTitle (draftOf pair marker ctx)
      else if isSuspendedSource pair ctx then (draftOf pair marker ctx).keepQuietly
      else applyDispatch (touched (draftOf pair marker ctx) .dispatch) := by
  have applied : ∀ draft, applyVerb host draft .dispatch = applyDispatch draft := by
    intro draft
    simp [applyVerb, isHistorical, reopensPassed]
  simp only [applyTaskPairMarker, known, if_neg named, applyToPair, guardedMarker_dispatch, applied]
  by_cases titled : isTitleOnlyDispatch marker .dispatch = true
  · simp only [if_pos titled]
  · by_cases suspended : isSuspendedSource pair ctx = true
    · simp only [if_neg titled, if_pos suspended]
    · simp only [if_neg titled, if_neg suspended]

theorem dispatch_kept (known : marker.knownVerb = some .dispatch)
    (named : marker.taskId ≠ taskPairInferTaskId) (kept : mayDispatch pair marker ctx = false)
    {after : TaskPairState}
    (written : (applyTaskPairMarker host (some pair) marker ctx).pair = some after) :
    after.booking = pair.booking := by
  rw [dispatch_verb known named] at written
  split at written
  · exact updateTitle_booking written
  · rename_i untitled
    split at written
    · cases written
    · rename_i awake
      unfold applyDispatch at written
      dsimp only at written
      split at written
      · cases written
      · rename_i authorised
        have authority : hasAuthority pair marker ctx = true := by
          simpa [hasAuthority] using authorised
        have closed : isTerminalTaskPairStatus pair.status = true := by
          simpa [mayDispatch, authority, untitled, awake] using kept
        have terminal : (touched (draftOf pair marker ctx) .dispatch).terminal = true := by
          simpa [Draft.terminal, draftOf] using closed
        rw [if_pos terminal] at written
        rw [reject_booking written, touched_booking, if_neg]
        · rfl
        · rintro ⟨-, awaiting⟩
          have status : pair.status = .awaitingBrainDecision := awaiting
          simp [status, isTerminalTaskPairStatus] at closed

theorem dispatch_open (known : marker.knownVerb = some .dispatch)
    (named : marker.taskId ≠ taskPairInferTaskId) (may : mayDispatch pair marker ctx = true) :
    ∃ draft : Draft, applyTaskPairMarker host (some pair) marker ctx = applyDispatch draft ∧
      draft.roleAuthority = true ∧ draft.terminal = false ∧ draft.marker = marker ∧
      draft.ctx = ctx ∧
      startedBooking (some draft.pair) = startedBooking (some pair) ∧
      (draft.pair.status = .queued ↔ pair.status = .queued) := by
  simp only [mayDispatch, Bool.and_eq_true, Bool.not_eq_true'] at may
  obtain ⟨⟨⟨authorised, running⟩, untitled⟩, awake⟩ := may
  refine ⟨touched (draftOf pair marker ctx) .dispatch, ?_, ?_, ?_, by simp [draftOf],
    by simp [draftOf], ?_⟩
  · rw [dispatch_verb known named, if_neg (by simp [untitled]), if_neg (by simp [awake])]
  · simpa [hasAuthority] using authorised
  · simpa [Draft.terminal, draftOf] using running
  · have booking := touched_booking (draftOf pair marker ctx)
    generalize (touched (draftOf pair marker ctx) .dispatch).pair = copy at booking
    have authority : (draftOf pair marker ctx).roleAuthority = true := authorised
    have start : (draftOf pair marker ctx).pair = pair := rfl
    rw [authority, start] at booking
    by_cases awaiting : pair.status = .awaitingBrainDecision
    · rw [if_pos ⟨rfl, awaiting⟩] at booking
      have status : copy.status = .working := congrArg TaskPairBooking.status booking
      have executor : copy.executor = pair.executor := congrArg TaskPairBooking.executor booking
      have auditor : copy.auditor = pair.auditor := congrArg TaskPairBooking.auditor booking
      simp [startedBooking, awaiting, status, executor, auditor, TaskPairState.booking]
    · rw [if_neg (by simp [awaiting])] at booking
      have status : copy.status = pair.status := congrArg TaskPairBooking.status booking
      have executor : copy.executor = pair.executor := congrArg TaskPairBooking.executor booking
      have auditor : copy.auditor = pair.auditor := congrArg TaskPairBooking.auditor booking
      simp only [startedBooking, status, executor, auditor, booking, and_self]

end

/-! ## A pair the DISPATCH creates -/

section
variable {host : TaskPairHost} {marker : TaskPairMarker} {ctx : TaskPairApplyContext}

theorem dispatch_creates (known : marker.knownVerb = some .dispatch)
    (named : marker.taskId ≠ taskPairInferTaskId)
    (free : requiresPairCreate .dispatch ctx = false) :
    applyTaskPairMarker host none marker ctx = createPair .dispatch marker ctx := by
  simp only [applyTaskPairMarker, known, if_neg named, free, Bool.false_eq_true, if_false]

theorem createPair_queues (waits : ctx.source = .marker ∨ namesBusySession marker ctx = true) :
    ∃ after, (createPair .dispatch marker ctx).pair = some after ∧ after.status = .queued := by
  have queued : (((newPair marker.taskId ctx.writer ctx .queued).setRolesFromAttrsQueued
      marker.attrs).withBrief marker.brief).status = .queued := by
    have audit := audit_setRolesFromAttrsQueued (newPair marker.taskId ctx.writer ctx .queued)
      marker.attrs
    exact congrArg AuditRecord.status audit
  simp only [createPair]
  split
  · exact ⟨_, rfl, queued⟩
  · rename_i other
    have busy : namedParticipantIsBusy marker.attrs ctx.busySessions = true :=
      waits.resolve_left other
    rw [if_pos busy]
    exact ⟨_, rfl, queued⟩

theorem createPair_starts (other : ctx.source ≠ .marker)
    (free : namesBusySession marker ctx = false) :
    ∃ after, (createPair .dispatch marker ctx).pair = some after ∧
      after.booking = (startedBooking none).named marker.attrs := by
  have notBusy : ¬namedParticipantIsBusy marker.attrs ctx.busySessions = true :=
    Bool.eq_false_iff.mp free
  have booking := booking_setRolesFromAttrs (newPair marker.taskId ctx.writer ctx .working)
    marker.attrs
  simp only [createPair, if_neg other, if_neg notBusy]
  generalize (newPair marker.taskId ctx.writer ctx .working).setRolesFromAttrs marker.attrs =
    roles at booking
  obtain ⟨placed, intents⟩ := roles
  dsimp only
  split <;> exact ⟨_, rfl, booking⟩

end

theorem dispatch_followsFate (host : TaskPairHost) (existing : Option TaskPairState)
    {marker : TaskPairMarker} (ctx : TaskPairApplyContext)
    (known : marker.knownVerb = some .dispatch) :
    FollowsFate existing marker.attrs (applyTaskPairMarker host existing marker ctx)
      (dispatchFate marker ctx existing) := by
  unfold dispatchFate
  by_cases named : marker.taskId = taskPairInferTaskId
  · rw [if_pos named]
    intro after written
    simp [applyTaskPairMarker, known, named, applyUnnamed, recorded] at written
  · rw [if_neg named]
    cases existing with
    | some pair =>
      dsimp only
      by_cases may : mayDispatch pair marker ctx = true
      · obtain ⟨draft, applied, authorised, running, sameMarker, sameCtx, started, queued⟩ :=
          @dispatch_open _ _ _ host known named may
        have stays : staysQueued draft.pair draft.marker draft.ctx =
            staysQueued pair marker ctx := by
          simp only [staysQueued, sameMarker, sameCtx, queued]
        rw [if_neg (by simp [may]), applied]
        by_cases waits : staysQueued pair marker ctx = true
        · rw [if_pos waits]
          exact applyDispatch_queues authorised running (stays.trans waits)
        · rw [if_neg waits]
          have starts := applyDispatch_starts authorised running
            (stays.trans (Bool.eq_false_iff.mpr waits))
          rwa [started, sameMarker] at starts
      · rw [if_pos (by simpa using may)]
        intro after written
        exact ⟨pair, rfl, dispatch_kept known named (Bool.eq_false_iff.mpr may) written⟩
    | none =>
      dsimp only
      by_cases required : requiresPairCreate .dispatch ctx = true
      · rw [if_pos required]
        intro after written
        simp [applyTaskPairMarker, known, named, required, recorded] at written
      · rw [if_neg required, dispatch_creates known named (Bool.eq_false_iff.mpr required)]
        by_cases waits : ctx.source = .marker ∨ namesBusySession marker ctx = true
        · rw [if_pos (by simpa using waits)]
          exact createPair_queues waits
        · rw [if_neg (by simpa using waits)]
          obtain ⟨other, free⟩ := not_or.mp waits
          exact createPair_starts other (Bool.eq_false_iff.mpr free)

theorem reject_effect (draft : Draft) (text : String) : (draft.reject text).effect = .recorded := by
  unfold Draft.reject
  generalize draft.pair.spendCap .policyRejection = spending
  obtain ⟨allowed, spent, notices⟩ := spending
  dsimp only
  split <;> rfl

theorem applyDispatch_effect (draft : Draft) :
    (applyDispatch draft).effect = .recorded ∨ (applyDispatch draft).effect = .dispatched := by
  unfold applyDispatch
  extract_lets attrs busy reset
  split
  · exact .inl rfl
  · split
    · exact .inl (reject_effect _ _)
    · right
      generalize reset.pair.setRolesFromAttrs attrs = placing
      obtain ⟨placed, notices⟩ := placing
      dsimp only
      split
      · split <;> rfl
      · split
        · rfl
        · split
          · rfl
          · split <;> split <;> rfl

theorem dispatch_effect (host : TaskPairHost) (existing : Option TaskPairState)
    {marker : TaskPairMarker} (ctx : TaskPairApplyContext)
    (known : marker.knownVerb = some .dispatch) :
    (applyTaskPairMarker host existing marker ctx).effect ≠ .duplicateReady := by
  by_cases named : marker.taskId = taskPairInferTaskId
  · simp [applyTaskPairMarker, known, named, applyUnnamed, recorded]
  · cases existing with
    | some pair =>
      rw [dispatch_verb known named]
      split
      · unfold updateTitle
        split
        · split <;> simp [Draft.keep, recorded]
        · simp [Draft.keep, recorded]
      · split
        · simp [Draft.keepQuietly, recorded]
        · rcases applyDispatch_effect (touched (draftOf pair marker ctx) .dispatch) with
            kept | dispatched
          · simp [kept]
          · simp [dispatched]
    | none =>
      by_cases required : requiresPairCreate .dispatch ctx = true
      · simp [applyTaskPairMarker, known, named, required, recorded]
      · rw [dispatch_creates known named (Bool.eq_false_iff.mpr required)]
        generalize roles : (newPair marker.taskId ctx.writer ctx .working).setRolesFromAttrs
          marker.attrs = placing
        obtain ⟨placed, intents⟩ := placing
        simp only [createPair, roles]
        split
        · simp [created]
        · split
          · simp [created]
          · split <;> simp [created]

end ImCodes.TaskPair
