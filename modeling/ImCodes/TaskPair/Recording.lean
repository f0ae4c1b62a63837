import ImCodes.TaskPair.Standing

/-!
# Which markers are recorded

A marker is recorded under the id of its event, but for three answers: a copy of a verdict, an
idle STARTED and a READY_FOR_AUDIT of the material under audit. What is recorded stays.
-/

set_option autoImplicit false

namespace ImCodes.TaskPair

open Library TaskPairState

/-! ## Which markers are recorded -/

def IsOther (transition : TaskPairTransition) : Prop := transition.effect ≠ .duplicateReady

section
variable (host : TaskPairHost) (draft : Draft)

theorem isOther_reject (text : String) : IsOther (draft.reject text) := by
  simp [IsOther, reject_effect]

theorem applyCheck_isOther : IsOther (applyCheck host draft) := by
  unfold applyCheck
  split
  · exact isOther_reject _ _
  · dsimp only
    split
    · exact isOther_reject _ _
    · split <;> simp [IsOther, Draft.done]

theorem applyQueue_isOther : IsOther (applyQueue draft) := by
  simp only [applyQueue]
  split
  · simp [IsOther, Draft.keep, recorded]
  · split
    · simp [IsOther, Draft.done]
    · split <;> simp [IsOther, Draft.done, Draft.keep, recorded]

theorem applyProgress_isOther (verb : TaskPairVerb) : IsOther (applyProgress draft verb) := by
  unfold applyProgress
  dsimp only
  split
  · split <;> simp [IsOther]
  · split
    · split
      · simp [IsOther, Draft.done]
      · exact isOther_reject _ _
    · split <;> simp [IsOther, Draft.done]

theorem applyVerdictMarker_isOther (verb : TaskPairVerdictVerb) :
    IsOther (applyVerdictMarker host draft verb) := by
  unfold applyVerdictMarker
  extract_lets text
  split
  · exact isOther_reject _ _
  · split
    · exact isOther_reject _ _
    · split
      · unfold holdPass
        extract_lets blocked
        have rejected : IsOther blocked := isOther_reject _ _
        split
        · exact rejected
        · exact rejected
      · rename_i verdict noted judged settled _ _
        change (if isAppliedVerdict verdict.judgement then TaskPairEffect.verdict
          else .verdictHeld) ≠ .duplicateReady
        split <;> simp

theorem applyNextRound_isOther : IsOther (applyNextRound draft) := by
  unfold applyNextRound
  extract_lets taskId named
  split
  · exact isOther_reject _ _
  · split
    · exact isOther_reject _ _
    · split
      · exact isOther_reject _ _
      · split
        · exact isOther_reject _ _
        · simp [IsOther, Draft.done]

theorem dismissIntegration_isOther (existing : TaskPairState) (now : Int) :
    IsOther (dismissIntegration existing now) := by
  unfold dismissIntegration
  split <;> simp [IsOther, recorded]

theorem applyDone_isOther : IsOther (applyDone draft) := by
  unfold applyDone
  extract_lets attrs stated close hasAudit
  split
  · exact dismissIntegration_isOther _ _
  · split
    · simp [IsOther, Draft.keepQuietly, recorded]
    · split
      · split <;> simp [IsOther, close, Draft.done]
      · split
        · simp [IsOther, close, Draft.done]
        · split
          · simp [IsOther, close, Draft.done]
          · split
            · simp [IsOther, Draft.done]
            · exact isOther_reject _ _

theorem applyWait_isOther (verb : TaskPairVerb) : IsOther (applyWait draft verb) := by
  unfold applyWait
  extract_lets attrs flag side fresh flagged told
  split
  · simp [IsOther, Draft.keepQuietly, recorded]
  · split
    · simp [IsOther, Draft.done]
    · split
      · generalize told.pair.spendCap .blockedReplacement = spending
        obtain ⟨allowed, spent, notices⟩ := spending
        simp [IsOther, Draft.done]
      · simp [IsOther, Draft.done]

theorem applyReassign_isOther : IsOther (applyReassign draft) := by
  unfold applyReassign
  extract_lets attrs reset resumed rolesChanged
  split
  · simp [IsOther, Draft.keep, recorded]
  · generalize resumed.pair.setRolesFromAttrs attrs = roles
    obtain ⟨named, notices⟩ := roles
    dsimp -zeta only
    extract_lets placed queued picked settled
    change (if resumed.pair.auditor = settled.pair.auditor then TaskPairEffect.reassigned
      else .reassignedAuditor) ≠ .duplicateReady
    split <;> simp

theorem applyCancel_isOther : IsOther (applyCancel draft) := by
  unfold applyCancel
  split
  · exact isOther_reject _ _
  · split
    · exact dismissIntegration_isOther _ _
    · split <;> simp [IsOther, Draft.keepQuietly, Draft.done, recorded]

theorem applyVerb_isOther {verb : TaskPairVerb} (other : verb ≠ .readyForAudit) :
    IsOther (applyVerb host draft verb) := by
  unfold applyVerb
  split
  · simp [IsOther, Draft.keep, recorded]
  · split
    · simp [IsOther, reopenPassed, Draft.done]
    · cases verb with
      | check => exact applyCheck_isOther host draft
      | queue => exact applyQueue_isOther draft
      | dispatch =>
        rcases applyDispatch_effect draft with kept | dispatched
        · simp [IsOther, kept]
        · simp [IsOther, dispatched]
      | started => exact applyProgress_isOther draft .started
      | working => exact applyProgress_isOther draft .working
      | readyForAudit => exact absurd rfl other
      | pass => exact applyVerdictMarker_isOther host draft .pass
      | rework => exact applyVerdictMarker_isOther host draft .rework
      | nextRound => exact applyNextRound_isOther draft
      | done => exact applyDone_isOther draft
      | blocked => exact applyWait_isOther draft .blocked
      | needsInput => exact applyWait_isOther draft .needsInput
      | reassign => exact applyReassign_isOther draft
      | cancel => exact applyCancel_isOther draft
      | claim => simp [IsOther, Draft.keep, recorded]

end

section
variable (verb : TaskPairVerb) (marker : TaskPairMarker) (ctx : TaskPairApplyContext)

theorem createFromProgress_isOther : IsOther (createFromProgress verb marker ctx) := by
  unfold createFromProgress
  extract_lets blank fresh
  generalize fresh.setRolesFromAttrs marker.attrs = roles
  obtain ⟨pair, intents⟩ := roles
  dsimp only
  split
  · split
    · split <;> simp [IsOther, created]
    · simp [IsOther, created]
  · split
    · split <;> simp [IsOther, created]
    · simp [IsOther, created]
  · simp [IsOther, created]

theorem createPair_isOther : IsOther (createPair verb marker ctx) := by
  unfold createPair
  extract_lets queued
  cases verb with
  | dispatch =>
    dsimp only
    split
    · simp [IsOther, created]
    · split
      · simp [IsOther, created]
      · generalize (newPair marker.taskId ctx.writer ctx .working).setRolesFromAttrs
          marker.attrs = roles
        obtain ⟨pair, intents⟩ := roles
        dsimp only
        split <;> simp [IsOther, created]
  | started | working | readyForAudit | done => exact createFromProgress_isOther _ marker ctx
  | queue => simp [IsOther, created]
  | _ => simp [IsOther, recorded]

theorem applyTaskPairMarker_isOther (host : TaskPairHost) (existing : Option TaskPairState)
    (other : existing.isSome = true → marker.knownVerb ≠ some .readyForAudit) :
    IsOther (applyTaskPairMarker host existing marker ctx) := by
  unfold applyTaskPairMarker
  split
  · simp [IsOther]
  · rename_i verb known
    split
    · unfold applyUnnamed
      split
      · split
        · split <;> simp [IsOther, recorded]
        · simp [IsOther, recorded]
      · simp [IsOther]
    · cases existing with
      | none =>
        dsimp only
        split
        · simp [IsOther, recorded]
        · exact createPair_isOther verb marker ctx
      | some pair =>
        have notReady : verb ≠ .readyForAudit := by
          rintro rfl
          exact other rfl known
        dsimp only
        rw [applyToPair_eq]
        cases guarded : guardedMarker (draftOf pair marker ctx) verb with
        | some transition => exact (isNoted_guardedMarker guarded).effect
        | none => exact applyVerb_isOther host _ notReady

end

/-! ## Recorded events stay -/

def EventsKept (before after : TaskPairStore) : Prop :=
  ∀ id, before.hasEvent id = true → after.hasEvent id = true

section
variable {store before after : TaskPairStore} {host : TaskPairServiceHost}
  {input : ApplyMarkerInput}

theorem EventsKept.trans {middle : TaskPairStore} (first : EventsKept before middle)
    (second : EventsKept middle after) : EventsKept before after :=
  fun id found => second id (first id found)

theorem eventsKept_of_eq (same : after.events = before.events) : EventsKept before after := by
  intro id found
  rwa [TaskPairStore.hasEvent, same]

theorem eventsKept_recordEvent (event : TaskPairEventRecord) :
    EventsKept store (store.recordEvent event) := by
  intro id found
  obtain ⟨row, isRow⟩ := Option.isSome_iff_exists.mp found
  obtain ⟨member, rfl⟩ := Table.lookup_eq_some_iff.mp isRow
  have kept : row ∈ (store.recordEvent event).events := Table.mem_insertOrIgnore_of_mem member
  rw [TaskPairStore.hasEvent, Table.lookup_of_mem kept]
  rfl

theorem hasEvent_recordEvent (event : TaskPairEventRecord) :
    (store.recordEvent event).hasEvent event.id = true := by
  by_cases known : store.hasEvent event.id = true
  · exact eventsKept_recordEvent event event.id known
  · have absent : store.events.lookup event.id = none := by
      simpa [TaskPairStore.hasEvent] using known
    rw [TaskPairStore.hasEvent, TaskPairStore.recordEvent,
      Table.lookup_insertOrIgnore_fresh absent rfl]
    rfl

theorem autoTickBox_keepsEvents (project eventId : String) (now : Int) (pair : TaskPairState)
    (box : TaskPairChecklistBox) :
    EventsKept store (autoTickBox host project eventId now store pair box).1 := by
  rcases autoTickBox_cases host project eventId now store pair box with
    unchanged | ⟨brief, event, written⟩
  · rw [unchanged]
    exact fun _ => id
  · rw [written]
    exact (eventsKept_of_eq (TaskPairStore.savePair_events _ _ _)).trans
      (eventsKept_recordEvent event)

theorem saveTransition_keepsEvents (existing : Option TaskPairState)
    (transition : TaskPairTransition) (busy : List String) (pair : TaskPairState) :
    EventsKept store (saveTransition host store input existing transition busy pair).1 := by
  unfold saveTransition
  extract_lets scheduled placed saved noted written
  have writtenKept : EventsKept store written := eventsKept_of_eq rfl
  split
  · unfold autoTickChecklist
    extract_lets implemented
    have implementedKept : EventsKept store implemented.1 :=
      writtenKept.trans (autoTickBox_keepsEvents _ _ _ _ _)
    split
    · exact implementedKept.trans (autoTickBox_keepsEvents _ _ _ _ _)
    · exact implementedKept
  · exact writtenKept

theorem commitTransition_records (taskId : Option String) (existing : Option TaskPairState)
    (busy : List String) (transition : TaskPairTransition) :
    EventsKept store
        (commitTransition host store input taskId existing busy transition).1 ∧
      (commitTransition host store input taskId existing busy transition).1.hasEvent
        input.eventId = true := by
  unfold commitTransition
  extract_lets recorded
  have recordedKept : EventsKept store recorded := eventsKept_recordEvent _
  have isRecorded : recorded.hasEvent input.eventId = true := hasEvent_recordEvent _
  split
  · have saved := @saveTransition_keepsEvents recorded host input
      existing transition busy
    exact ⟨recordedKept.trans (saved _), saved _ _ isRecorded⟩
  · exact ⟨recordedKept, isRecorded⟩

theorem applyClaim_records (existing : StoredTaskPair) :
    EventsKept store (applyClaim host store input existing).1 ∧
      (applyClaim host store input existing).1.hasEvent input.eventId = true := by
  unfold applyClaim
  extract_lets state event
  split
  · exact ⟨(eventsKept_of_eq (TaskPairStore.savePair_events _ _ _)).trans
      (eventsKept_recordEvent event), hasEvent_recordEvent event⟩
  · exact ⟨eventsKept_recordEvent event, hasEvent_recordEvent event⟩

theorem putMarker_keepsEvents (taskId : Option String) (existing : Option StoredTaskPair) :
    EventsKept store (putMarker host store input taskId existing).1 := by
  unfold putMarker
  split
  · exact fun _ => id
  · extract_lets state busy transition role
    split
    · exact fun _ => id
    · split
      · exact fun _ => id
      · exact (commitTransition_records taskId state busy transition).1

theorem applyMarker_keepsEvents : EventsKept store (applyMarker host store input).1 := by
  unfold applyMarker
  extract_lets given taskId existing
  split
  · exact fun _ => id
  · split
    · exact (applyClaim_records _).1
    · exact putMarker_keepsEvents _ _

theorem applyMarker_records
    (other : ∀ verb, input.marker.knownVerb = some verb → verb ∉ unrecordedVerbs) :
    (applyMarker host store input).1.hasEvent input.eventId = true := by
  have verbOf : (input.configured host).marker.knownVerb = input.marker.knownVerb := rfl
  unfold applyMarker
  extract_lets given taskId existing
  split
  · assumption
  · split
    · exact (applyClaim_records _).2
    · unfold putMarker
      have single : isDuplicateVerdictMarker store existing given = false := by
        unfold isDuplicateVerdictMarker
        split
        · rename_i verb _ isVerb
          have unlisted : verb ∉ auditVerbs := by
            intro listed
            refine other verb isVerb ?_
            simp only [auditVerbs, unrecordedVerbs, List.mem_cons, List.not_mem_nil,
              or_false] at listed ⊢
            rcases listed with rfl | rfl | rfl <;> simp
          simp [unlisted]
        · rfl
      rw [if_neg (by simp [single])]
      extract_lets state busy transition role
      have active : ∀ pair, isIdempotentStarted given pair transition role = false := by
        intro pair
        have notStarted : given.marker.knownVerb ≠ some .started := by
          intro started
          exact other .started started (by decide)
        simp [isIdempotentStarted, notStarted]
      have effect : transition.effect ≠ .duplicateReady := by
        have notReady : given.marker.knownVerb ≠ some .readyForAudit := by
          intro ready
          exact other .readyForAudit ready (by decide)
        cases resolved : taskId with
        | none => simp [transition, resolved, markerTransition]
        | some task =>
          simp only [transition, resolved, markerTransition]
          exact applyTaskPairMarker_isOther _ _ _ _ fun _ => notReady
      rw [if_neg, if_neg (fun duplicate => effect duplicate.2)]
      · exact (commitTransition_records taskId state busy transition).2
      · cases state with
        | none => simp
        | some pair => simp [active]

end

end ImCodes.TaskPair
