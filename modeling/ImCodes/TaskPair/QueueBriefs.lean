import ImCodes.TaskPair.QueueRun

/-!
# Whom the queue briefs

A run checks before it waits that a pair is queued and its sessions are free, and dispatches
the pair after it. It counts the pair and briefs the sessions it found whatever the DISPATCH
came to, so all rests on the pair still being queued then, and its sessions still free.
-/

set_option autoImplicit false

namespace ImCodes.TaskPair

open Library TaskPairState

/-! ## What is claimed of a run -/

def QueuedDispatch.IsStart (own : QueuedDispatch) : Prop :=
  own.before.map (·.status) = some .queued ∧
    own.after = some ⟨.working, some own.executor, some own.auditor⟩

/-- What is counted was started by the run, and those who are told of it are in its roles. -/
def QueueEvent.IsOwn : QueueEvent → Prop
  | .counted own => own.IsStart
  | .briefed own session => own.IsStart ∧ session = own.executor
  | .assigned own session => own.IsStart ∧ session = own.auditor

def QueueEvent.IsCounted : QueueEvent → Prop
  | .counted _ => True
  | _ => False

def SameBookings (before after : TaskPairStore) : Prop :=
  ∀ project taskId, (after.pairAt project taskId).map (·.booking) =
    (before.pairAt project taskId).map (·.booking)

/-- A step of a run counts and tells of pairs it started, and changes no pair's roles where it
counts none. -/
def BriefsWhatItStarted (system : QueueSystem) (action : QueueAction) : Prop :=
  (∀ event ∈ system.events action, event.IsOwn) ∧
  ∀ host key answer, action = .resume host key answer →
    (∀ event ∈ system.events action, ¬event.IsCounted) →
      SameBookings system.store (system.step action).store

/-! ## When it holds -/

/-- The pair is still queued, its DISPATCH is new and none of its sessions is reserved. -/
structure IsFreeToStart (host : QueueHost) (store : TaskPairStore) (key : QueueKey)
    (taskId executor auditor : String) : Prop where
  named : taskId ≠ taskPairInferTaskId ∧ taskId ≠ ""
  queued : (store.pairAt key.project taskId).map (·.status) = some .queued
  fresh : store.hasEvent (queueDispatch host key taskId executor auditor).eventId = false
  free : ∀ session ∈ [executor, auditor], session ≠ taskPairNoAuditor →
    store.isParticipantOfOpenPair session (some taskId) = false

/-- What must hold where a run is about to dispatch a pair, and, where the pair has no brief,
where it is about to tell the pair's sessions of it. -/
def KeepsItsPair (system : QueueSystem) : QueueAction → Prop
  | .resume host key answer =>
    ∀ run, system.runs key = some run →
      match run.point with
      | .preparing own =>
        own.listed.state.brief = none →
          ∀ pair, system.store.pairAt key.project own.listed.state.taskId = some pair →
            (∀ executor, truthy pair.executor = some executor → executor = own.executor) ∧
            ∀ auditor, truthy pair.auditor = some auditor → auditor ≠ taskPairNoAuditor →
              auditor = own.auditor
      | _ =>
        ∀ store listed executor auditor,
          queueDecision host system.store run answer =
            .dispatches store listed executor auditor →
          IsFreeToStart host store key listed.state.taskId executor auditor
  | _ => True

/-! ## Flags change no booking -/

section
variable {store after : TaskPairStore} {host : QueueHost} {project taskId : String}

theorem SameBookings.refl (store : TaskPairStore) : SameBookings store store := fun _ _ => rfl

theorem SameBookings.trans {first second third : TaskPairStore}
    (start : SameBookings first second) (rest : SameBookings second third) :
    SameBookings first third :=
  fun project taskId => (rest project taskId).trans (start project taskId)

theorem sameBookings_savePair {pair : TaskPairState}
    (same : (store.pairAt project pair.taskId).map (·.booking) = some pair.booking) :
    SameBookings store (store.savePair project pair) := by
  intro other task
  by_cases own : (other, task) = (project, pair.taskId)
  · obtain ⟨rfl, rfl⟩ := Prod.mk.inj own
    obtain ⟨scheduling, found⟩ := @TaskPairStore.pairAt_savePair store other pair
    rw [found, same]
    rfl
  · rw [TaskPairStore.pairAt_savePair_other own]

theorem flagQuiet_sameBookings (flag : TaskPairFlag) (detail : Option String) :
    SameBookings store (flagQuiet store host project taskId flag detail) := by
  unfold flagQuiet
  split
  · exact SameBookings.refl store
  · rename_i stored found
    extract_lets pair reason
    split
    · exact SameBookings.refl store
    · have own := (TaskPairStore.getPair_key found).2
      apply sameBookings_savePair
      have flagged : (stored.state.addFlag flag).booking = stored.state.booking :=
        booking_addFlag _ _
      have named : (stored.state.addFlag flag).taskId = taskId :=
        (congrArg Prod.fst (identity_addFlag stored.state flag)).trans own
      have listed : (store.pairAt project (stored.state.addFlag flag).taskId).map (·.booking) =
          some (stored.state.addFlag flag).booking := by
        rw [named, flagged, TaskPairStore.pairAt, found]
        rfl
      exact listed

end

/-! ## What a run decides -/

/-- A run that goes on changed no booking, nor did one that dispatches, and it dispatches a pair
that is open as it was listed, to sessions it found. -/
def QueueDecision.IsSound (start : TaskPairStore) (key : QueueKey) : QueueDecision → Prop
  | .goesOn after point => SameBookings start after ∧ ∀ own, point ≠ .preparing own
  | .dispatches after listed executor auditor => SameBookings start after ∧
      scheduleStillCurrent after key.project listed.state = true ∧ executor ≠ "" ∧ auditor ≠ ""

section
variable {host : QueueHost} {start store : TaskPairStore} {key : QueueKey}
  {listed : StoredTaskPair}

theorem waitsFor_isSound (same : SameBookings start store) (detail : String) :
    (waitsFor host store key listed detail).IsSound start key :=
  ⟨same.trans (flagQuiet_sameBookings _ _), by simp⟩

theorem goesOn_isSound (same : SameBookings start store) {point : QueuePoint}
    (waiting : ∀ own, point ≠ .preparing own) :
    (QueueDecision.goesOn store point).IsSound start key :=
  ⟨same, waiting⟩

theorem withAuditor_isSound (same : SameBookings start store) (executor auditor : Option String) :
    (withAuditor host store key listed executor auditor).IsSound start key := by
  unfold withAuditor
  split
  · exact goesOn_isSound same (by simp)
  · rename_i current
    split
    · exact waitsFor_isSound same _
    · exact waitsFor_isSound same _
    · rename_i executor auditor isExecutor isAuditor
      split
      · exact waitsFor_isSound same _
      · split
        · exact waitsFor_isSound same _
        · refine ⟨same, by simpa using current, ?_, ?_⟩
          · have filled := (Option.filter_eq_some_iff.mp isExecutor).2
            simpa using filled
          · have filled := (Option.filter_eq_some_iff.mp isAuditor).2
            simpa using filled

theorem withExecutor_isSound (same : SameBookings start store) (executor : Option String) :
    (withExecutor host store key listed executor).IsSound start key := by
  unfold withExecutor
  split
  · exact goesOn_isSound same (by simp)
  · split
    · exact withAuditor_isSound same _ _
    · split
      · exact withAuditor_isSound same _ _
      · split
        · exact withAuditor_isSound same _ _
        · exact goesOn_isSound same (by simp)

theorem considerPair_isSound : (considerPair host store key listed).IsSound store key := by
  have same : SameBookings store store := SameBookings.refl store
  unfold considerPair
  extract_lets pair need flagged
  split
  · exact goesOn_isSound same (by simp)
  · split
    · exact goesOn_isSound same (by simp)
    · split
      · exact waitsFor_isSound same _
      · have flaggedSame : SameBookings store flagged := by
          simp only [flagged]
          split
          · exact flagQuiet_sameBookings _ _
          · exact same
        split
        · exact goesOn_isSound (flagQuiet_sameBookings _ _) (by simp)
        · split
          · exact withExecutor_isSound flaggedSame _
          · exact goesOn_isSound flaggedSame (by simp)

theorem queueDecision_isSound (run : QueueRun) (answer : Option String) :
    (queueDecision host store run answer).IsSound store run.key := by
  have same : SameBookings store store := SameBookings.refl store
  unfold queueDecision
  split
  · split
    · exact goesOn_isSound same (by simp)
    · split
      · exact waitsFor_isSound same _
      · exact considerPair_isSound
  · exact withExecutor_isSound same _
  · exact withAuditor_isSound same _ _
  · exact goesOn_isSound same (by simp)

end

/-! ## The DISPATCH of the queue -/

namespace TaskPairAttrs

theorem get?_set_other (attrs : TaskPairAttrs) {key other : String} (value : String)
    (different : other ≠ key) : (attrs.set key value).get? other = attrs.get? other := by
  unfold set get?
  split
  · rw [List.find?_map]
    have sameKeys : (fun attr : String × String => decide (attr.1 = other)) ∘
        (fun attr => if attr.1 = key then (key, value) else attr) =
        fun attr => decide (attr.1 = other) := by
      funext attr
      simp only [Function.comp_apply]
      split
      · rename_i isKey
        rw [isKey]
      · rfl
    rw [sameKeys]
    cases found : attrs.find? fun attr => decide (attr.1 = other) with
    | none => rfl
    | some attr =>
      have isOther : attr.1 = other := by simpa using List.find?_some found
      have notKey : attr.1 ≠ key := isOther.symm ▸ different
      simp [notKey]
  · simp [List.find?_append, different.symm]

end TaskPairAttrs

theorem withThinking_get? (host : TaskPairServiceHost) (attrs : TaskPairAttrs) {key : String}
    (executor : key ≠ "executorthinking") (auditor : key ≠ "auditorthinking") :
    (withThinking host attrs).get? key = attrs.get? key := by
  unfold withThinking
  extract_lets one
  have step : ∀ (attrs : TaskPairAttrs) (session thinking : String), key ≠ thinking →
      (one attrs session thinking).get? key = attrs.get? key := by
    intro attrs session thinking other
    simp only [one]
    split
    · split
      · rfl
      · exact TaskPairAttrs.get?_set_other attrs _ other
    · rfl
  exact (step _ "auditor" "auditorthinking" auditor).trans
    (step attrs "executor" "executorthinking" executor)

section
variable {host : TaskPairServiceHost} {store : TaskPairStore} {input : ApplyMarkerInput}
  {taskId : String}

theorem putMarker_dispatch_answer {existing : Option StoredTaskPair} {task : Option String}
    (known : input.marker.knownVerb = some .dispatch) :
    (putMarker host store input task existing).2.pair =
      (markerTransition host input task (existing.map (·.state))
        (busySessions store input.marker.attrs task)).pair.map
          (scheduledPair input (existing.map (·.state))) := by
  rw [putMarker_dispatch known]
  unfold commitTransition
  extract_lets recorded
  split
  · rename_i pair written
    rw [saveTransition_unticked _ _ _ _ _ _ _ (known ▸ unticked_other (by decide)), written]
    rfl
  · rename_i unwritten
    rw [unwritten]
    exact unwritten

theorem scheduledPair_taskId (existing : Option TaskPairState) (pair : TaskPairState) :
    (scheduledPair input existing pair).taskId = pair.taskId := by
  unfold scheduledPair
  split <;> rfl

theorem scheduledPair_booking (existing : Option TaskPairState) (pair : TaskPairState) :
    (scheduledPair input existing pair).booking = pair.booking := by
  unfold scheduledPair
  split <;> rfl

theorem applyMarker_dispatch (known : input.marker.knownVerb = some .dispatch)
    (fresh : store.hasEvent input.eventId = false) :
    applyMarker host store input =
      putMarker host store (input.configured host) (taskIdOf store (input.configured host))
        (existingPair store input.project (taskIdOf store (input.configured host))) := by
  have verb : (input.configured host).marker.knownVerb = some .dispatch := known
  have event : (input.configured host).eventId = input.eventId := rfl
  unfold applyMarker
  extract_lets given taskId existing
  rw [if_neg (by simp [given, event, fresh])]
  split
  · rename_i claims _
    rw [verb] at claims
    cases claims
  · rfl

theorem dispatch_unnamed (known : input.marker.knownVerb = some .dispatch)
    (fresh : store.hasEvent input.eventId = false)
    (unnamed : taskId = taskPairInferTaskId ∨ taskId = "") :
    (applyMarker host store input).1.pairAt input.project taskId =
        store.pairAt input.project taskId ∧
      ∀ pair, (applyMarker host store input).2.pair = some pair → pair.taskId ≠ taskId := by
  have verb : (input.configured host).marker.knownVerb = some .dispatch := known
  have project : (input.configured host).project = input.project := rfl
  rw [applyMarker_dispatch known fresh, ← project]
  generalize input.configured host = given at verb
  rw [putMarker_dispatch_answer verb]
  cases resolved : taskIdOf store given with
  | none =>
    have unwritten : (markerTransition host given none
        ((existingPair store given.project none).map (·.state))
        (busySessions store given.marker.attrs none)).pair = none := rfl
    constructor
    · rw [putMarker_dispatch verb]
      simp only [TaskPairStore.pairAt, TaskPairStore.getPair,
        commitTransition_unwritten unwritten]
    · rw [unwritten]
      simp
  | some task =>
    have filled : task ≠ "" := by
      have found := (Option.filter_eq_some_iff.mp resolved).2
      simpa using found
    have own : ∀ stored, existingPair store given.project (some task) = some stored →
        stored.state.taskId = task := fun stored found =>
      (TaskPairStore.getPair_key (existingPair_taskId found)).2
    cases written : (markerTransition host given (some task)
        ((existingPair store given.project (some task)).map (·.state))
        (busySessions store given.marker.attrs (some task))).pair with
    | none =>
      constructor
      · rw [putMarker_dispatch verb]
        simp only [TaskPairStore.pairAt, TaskPairStore.getPair,
          commitTransition_unwritten written]
      · simp
    | some pair =>
      have isNamed : task ≠ taskPairInferTaskId := by
        rintro rfl
        simp [markerTransition, applyTaskPairMarker, verb, applyUnnamed, recorded] at written
      have other : task ≠ taskId := by
        rcases unnamed with rfl | rfl
        · exact isNamed
        · exact filled
      obtain ⟨saved, wrote, ownSaved, -⟩ := dispatch_writes verb own written
      constructor
      · rw [TaskPairStore.pairAt, wrote.others _ _ (by simp [ownSaved, other.symm])]
        rfl
      · intro answered isAnswer
        simp only [Option.map_some, Option.some.injEq] at isAnswer
        rw [← isAnswer, scheduledPair_taskId, markerTransition_taskId own written]
        exact other

end

def AreFree (store : TaskPairStore) (taskId executor auditor : String) : Prop :=
  ∀ session ∈ [executor, auditor], session ≠ taskPairNoAuditor →
    store.isParticipantOfOpenPair session (some taskId) = false

section
variable {host : QueueHost} {store : TaskPairStore} {key : QueueKey}
  {taskId executor auditor : String} {current : StoredTaskPair}

theorem queueDispatch_named {role name : String}
    (isRole : (role = "executor" ∧ name = executor) ∨ (role = "auditor" ∧ name = auditor))
    (filled : name ≠ "") :
    ((queueDispatch host key taskId executor auditor).configured
      host.toTaskPairServiceHost).marker.attrs.named? role = some name := by
  have stated : ((queueDispatch host key taskId executor auditor).configured
      host.toTaskPairServiceHost).marker.attrs.get? role = some name := by
    rcases isRole with ⟨rfl, rfl⟩ | ⟨rfl, rfl⟩
    · exact (withThinking_get? _ _ (by decide) (by decide)).trans (by
        simp [queueDispatch, TaskPairAttrs.get?])
    · exact (withThinking_get? _ _ (by decide) (by decide)).trans (by
        simp [queueDispatch, TaskPairAttrs.get?])
  simp [TaskPairAttrs.named?, stated, truthy, Option.filter, filled]

theorem queueDispatch_untitled :
    isTitleOnlyDispatch ((queueDispatch host key taskId executor auditor).configured
      host.toTaskPairServiceHost).marker .dispatch = false := by
  have untitled : ((queueDispatch host key taskId executor auditor).configured
      host.toTaskPairServiceHost).marker.attrs.get? "title" = none :=
    (withThinking_get? _ _ (by decide) (by decide)).trans (by
      simp [queueDispatch, TaskPairAttrs.get?])
  simp [isTitleOnlyDispatch, untitled]

theorem namesBusySession_iff {input : ApplyMarkerInput} {host : TaskPairServiceHost}
    (isExecutor : input.marker.attrs.named? "executor" = some executor)
    (isAuditor : input.marker.attrs.named? "auditor" = some auditor) :
    namesBusySession input.marker
        (contextOf host input (busySessions store input.marker.attrs (some taskId))) = false ↔
      AreFree store taskId executor auditor := by
  constructor
  · intro free session member real
    simp only [List.mem_cons, List.not_mem_nil, or_false] at member
    rcases member with rfl | rfl
    · exact unreserved_of_free free (.inl rfl) isExecutor real
    · exact unreserved_of_free free (.inr rfl) isAuditor real
  · intro free
    have nobody : busySessions store input.marker.attrs (some taskId) = [] := by
      unfold busySessions
      rw [List.filter_eq_nil_iff]
      intro session member
      simp only [namedSession, isExecutor, isAuditor, List.mem_filterMap, List.mem_cons,
        List.not_mem_nil, or_false, id_eq, exists_eq_right] at member
      have real : session ∈ [executor, auditor] ∧ session ≠ taskPairNoAuditor := by
        rcases member with isSession | isSession
        · have stated := Option.filter_eq_some_iff.mp isSession.symm
          simp only [Option.some.injEq, ne_eq, decide_not, Bool.not_eq_true',
            decide_eq_false_iff_not] at stated
          simp [stated.1, stated.2]
        · have stated := Option.filter_eq_some_iff.mp isSession.symm
          simp only [Option.some.injEq, ne_eq, decide_not, Bool.not_eq_true',
            decide_eq_false_iff_not] at stated
          simp [stated.1, stated.2]
      simpa using free session real.1 real.2
    simp [namesBusySession, namedParticipantIsBusy, contextOf, nobody]

theorem queueDispatch_answer (named : taskId ≠ taskPairInferTaskId ∧ taskId ≠ "")
    (found : store.getPair key.project taskId = some current)
    (running : isTerminalTaskPairStatus current.state.status = false)
    (awake : isTaskPairSuspended current.state = false)
    (filled : executor ≠ "" ∧ auditor ≠ "")
    (fresh : store.hasEvent (queueDispatch host key taskId executor auditor).eventId = false) :
    ∃ pair, (applyMarker host.toTaskPairServiceHost store
        (queueDispatch host key taskId executor auditor)).2.pair = some pair ∧
      pair.taskId = taskId ∧
      (AreFree store taskId executor auditor → pair.booking =
        ⟨(startedBooking (some current.state)).status, some executor, some auditor⟩) ∧
      (¬AreFree store taskId executor auditor → pair.status = .queued) := by
  have isExecutor := @queueDispatch_named host key taskId executor auditor _ _
    (.inl ⟨rfl, rfl⟩) filled.1
  have isAuditor := @queueDispatch_named host key taskId executor auditor _ _
    (.inr ⟨rfl, rfl⟩) filled.2
  have untitled := @queueDispatch_untitled host key taskId executor auditor
  rw [applyMarker_dispatch rfl fresh]
  have known : ((queueDispatch host key taskId executor auditor).configured
      host.toTaskPairServiceHost).marker.knownVerb = some .dispatch := rfl
  have resolved : taskIdOf store ((queueDispatch host key taskId executor auditor).configured
      host.toTaskPairServiceHost) = some taskId := by
    simp [taskIdOf, resolveTaskId, ApplyMarkerInput.configured, queueDispatch, named.1, named.2,
      truthy, Option.filter]
  have existing : existingPair store (queueDispatch host key taskId executor auditor).project
      (some taskId) = some current := by
    simp [existingPair, Option.filter, named.1, queueDispatch, found]
  have source : ((queueDispatch host key taskId executor auditor).configured
      host.toTaskPairServiceHost).source = .queue := rfl
  have writer : ((queueDispatch host key taskId executor auditor).configured
      host.toTaskPairServiceHost).writer = "daemon" := rfl
  rw [resolved, existing, putMarker_dispatch_answer known]
  generalize (queueDispatch host key taskId executor auditor).configured
    host.toTaskPairServiceHost = input at *
  have own : ∀ stored, some current = some stored → stored.state.taskId = taskId := by
    intro stored same
    cases same
    exact (TaskPairStore.getPair_key found).2
  have fate := @dispatch_followsFate host.toTaskPairHost (some current.state)
    { input.marker with taskId := taskId }
    (contextOf host.toTaskPairServiceHost input
      (busySessions store input.marker.attrs (some taskId))) known
  have may : mayDispatch current.state { input.marker with taskId := taskId }
      (contextOf host.toTaskPairServiceHost input
        (busySessions store input.marker.attrs (some taskId))) = true := by
    have authority : hasAuthority current.state { input.marker with taskId := taskId }
        (contextOf host.toTaskPairServiceHost input
          (busySessions store input.marker.attrs (some taskId))) = true := by
      simp [hasAuthority, Draft.roleAuthority, draftOf, contextOf, writer, taskPairRoleOf]
    have titled : isTitleOnlyDispatch { input.marker with taskId := taskId } .dispatch = false :=
      untitled
    simp [mayDispatch, authority, running, titled, isSuspendedSource, awake]
  have busy := @namesBusySession_iff store taskId _ _ _ host.toTaskPairServiceHost
    isExecutor isAuditor
  have decided : dispatchFate { input.marker with taskId := taskId }
      (contextOf host.toTaskPairServiceHost input
        (busySessions store input.marker.attrs (some taskId))) (some current.state) =
      if namesBusySession input.marker (contextOf host.toTaskPairServiceHost input
        (busySessions store input.marker.attrs (some taskId))) then .queued else .started := by
    have fromQueue : (contextOf host.toTaskPairServiceHost input
        (busySessions store input.marker.attrs (some taskId))).source = .queue := source
    simp only [dispatchFate, if_neg named.1, may, Bool.not_true, Bool.false_eq_true, if_false,
      staysQueued, fromQueue, ne_eq, not_true_eq_false, decide_false, Bool.and_false,
      Bool.or_false]
    rfl
  rw [decided] at fate
  have identity : ∀ after, (markerTransition host.toTaskPairServiceHost input (some taskId)
      (some current.state) (busySessions store input.marker.attrs (some taskId))).pair =
        some after → after.taskId = taskId := fun after written =>
    @markerTransition_taskId _ _ _ (some current) _ _ own written
  by_cases free : AreFree store taskId executor auditor
  · rw [if_neg (by simp [busy.mpr free])] at fate
    obtain ⟨after, written, booked⟩ := fate
    change (markerTransition host.toTaskPairServiceHost input (some taskId) (some current.state)
      (busySessions store input.marker.attrs (some taskId))).pair = some after at written
    refine ⟨scheduledPair input (some current.state) after, ?_, ?_, ?_, fun held =>
      absurd free held⟩
    · rw [Option.map_some, written]
      rfl
    · rw [scheduledPair_taskId, identity after written]
    · intro _
      rw [scheduledPair_booking, booked]
      simp [TaskPairBooking.named, isExecutor, isAuditor]
  · have held : namesBusySession input.marker (contextOf host.toTaskPairServiceHost input
        (busySessions store input.marker.attrs (some taskId))) = true := by
      by_contra notBusy
      exact free (busy.mp (Bool.eq_false_iff.mpr notBusy))
    rw [if_pos held] at fate
    obtain ⟨after, written, queued⟩ := fate
    change (markerTransition host.toTaskPairServiceHost input (some taskId) (some current.state)
      (busySessions store input.marker.attrs (some taskId))).pair = some after at written
    refine ⟨scheduledPair input (some current.state) after, ?_, ?_, fun isFree =>
      absurd isFree free, ?_⟩
    · rw [Option.map_some, written]
      rfl
    · rw [scheduledPair_taskId, identity after written]
    · intro _
      have booking := @scheduledPair_booking input (some current.state) after
      exact (congrArg TaskPairBooking.status booking).trans queued

theorem savePair_withoutWaitFlags (project : String) (pair : TaskPairState) :
    ((store.savePair project (withoutWaitFlags pair)).pairAt project taskId).map (·.booking) =
      if pair.taskId = taskId then some pair.booking
      else (store.pairAt project taskId).map (·.booking) := by
  split
  · rename_i own
    subst own
    obtain ⟨scheduling, found⟩ :=
      @TaskPairStore.pairAt_savePair store project (withoutWaitFlags pair)
    have same : (withoutWaitFlags pair).taskId = pair.taskId := rfl
    rw [← same, found]
    rfl
  · rename_i other
    rw [TaskPairStore.pairAt_savePair_other]
    intro same
    exact other (congrArg Prod.snd same).symm

theorem dispatched_cases (found : store.getPair key.project taskId = some current)
    (running : isTerminalTaskPairStatus current.state.status = false)
    (awake : isTaskPairSuspended current.state = false)
    (filled : executor ≠ "" ∧ auditor ≠ "") :
    let applied := applyMarker host.toTaskPairServiceHost store
      (queueDispatch host key taskId executor auditor)
    ∃ dispatched, applied.2.pair.or (applied.1.pairAt key.project taskId) = some dispatched ∧
      let after := ((applied.1.savePair key.project (withoutWaitFlags dispatched)).pairAt
        key.project taskId).map (·.booking)
      (after = some current.state.booking ∧
        ¬((taskId ≠ taskPairInferTaskId ∧ taskId ≠ "") ∧
          store.hasEvent (queueDispatch host key taskId executor auditor).eventId = false)) ∨
      (∃ booking : TaskPairBooking, after = some booking ∧ booking.status = .queued ∧
        ¬AreFree store taskId executor auditor) ∨
      (after = some ⟨(startedBooking (some current.state)).status, some executor, some auditor⟩ ∧
        (taskId ≠ taskPairInferTaskId ∧ taskId ≠ "") ∧
        store.hasEvent (queueDispatch host key taskId executor auditor).eventId = false ∧
        AreFree store taskId executor auditor) := by
  intro applied
  have before : store.pairAt key.project taskId = some current.state := by
    rw [TaskPairStore.pairAt, found]
    rfl
  have ownId : current.state.taskId = taskId := (TaskPairStore.getPair_key found).2
  by_cases fresh : store.hasEvent (queueDispatch host key taskId executor auditor).eventId = false
  · by_cases named : taskId ≠ taskPairInferTaskId ∧ taskId ≠ ""
    · obtain ⟨pair, answered, isOwn, started, queued⟩ :=
        queueDispatch_answer named found running awake filled fresh
      refine ⟨pair, by simp [applied, answered], .inr ?_⟩
      rw [savePair_withoutWaitFlags, if_pos isOwn]
      by_cases free : AreFree store taskId executor auditor
      · exact .inr ⟨congrArg some (started free), named, fresh, free⟩
      · exact .inl ⟨pair.booking, rfl, queued free, free⟩
    · have unnamed : taskId = taskPairInferTaskId ∨ taskId = "" := by
        simpa only [ne_eq, not_and_or, not_not] using named
      obtain ⟨same, other⟩ := @dispatch_unnamed host.toTaskPairServiceHost store
        (queueDispatch host key taskId executor auditor) _ rfl fresh unnamed
      have same : applied.1.pairAt key.project taskId = some current.state := same.trans before
      cases answered : applied.2.pair with
      | none =>
        refine ⟨current.state, by simp [same], .inl ⟨?_, fun both => named both.1⟩⟩
        rw [savePair_withoutWaitFlags, if_pos ownId]
      | some pair =>
        refine ⟨pair, rfl, .inl ⟨?_, fun both => named both.1⟩⟩
        rw [savePair_withoutWaitFlags, if_neg (other pair answered), same]
        rfl
  · have known : store.hasEvent ((queueDispatch host key taskId executor auditor).configured
        host.toTaskPairServiceHost).eventId = true := Bool.not_eq_false _ ▸ fresh
    have replayed : applied = (store, .replayed) := by
      simp only [applied, applyMarker, known, if_true]
    refine ⟨current.state, by simp [replayed, MarkerAnswer.pair, before], .inl ⟨?_,
      fun both => fresh both.2⟩⟩
    rw [savePair_withoutWaitFlags, if_pos ownId]

theorem admitPair_spec {run : QueueRun} {listed : StoredTaskPair}
    (listedNow : scheduleStillCurrent store run.key.project listed.state = true)
    (filled : executor ≠ "" ∧ auditor ≠ "") :
    ∃ after run' own,
      admitPair host store run listed executor auditor = (after, run', [.counted own]) ∧
        run'.key = run.key ∧ run'.point = .preparing own ∧
        own.executor = executor ∧ own.auditor = auditor ∧
        (own.IsStart ↔
          IsFreeToStart host store run.key listed.state.taskId executor auditor) := by
  unfold scheduleStillCurrent at listedNow
  cases found : store.getPair run.key.project listed.state.taskId with
  | none => simp [found] at listedNow
  | some current =>
    simp only [found, Bool.and_eq_true, Bool.not_eq_true'] at listedNow
    obtain ⟨⟨running, awake⟩, -⟩ := listedNow
    have before : store.pairAt run.key.project listed.state.taskId = some current.state := by
      rw [TaskPairStore.pairAt, found]
      rfl
    obtain ⟨dispatched, answered, outcome⟩ := @dispatched_cases host _ _ _ _ _ _ found running
      awake filled
    unfold admitPair
    simp only [answered]
    refine ⟨_, _, _, rfl, rfl, rfl, rfl, rfl, ?_⟩
    simp only [QueuedDispatch.IsStart, before, Option.map_some, Option.some.injEq]
    constructor
    · rintro ⟨queued, started⟩
      have wasQueued : current.state.status = .queued := queued
      rcases outcome with ⟨kept, -⟩ | ⟨booking, kept, waiting, -⟩ | ⟨-, named, fresh, free⟩
      · rw [kept] at started
        have working := congrArg (Option.map (·.status)) started
        simp [booking, wasQueued] at working
      · rw [kept] at started
        have working := congrArg (Option.map (·.status)) started
        simp [waiting] at working
      · exact ⟨named, by simp [before, wasQueued], fresh, free⟩
    · rintro ⟨named, queued, fresh, free⟩
      have wasQueued : current.state.status = .queued := by simpa [before] using queued
      rcases outcome with ⟨-, stays⟩ | ⟨booking, -, -, held⟩ | ⟨started, -⟩
      · exact absurd ⟨named, fresh⟩ stays
      · exact absurd free held
      · refine ⟨wasQueued, started.trans ?_⟩
        simp [startedBooking, wasQueued]

end

/-! ## Steps of runs beside each other -/

def RunsOwnTheirPairs (system : QueueSystem) : Prop :=
  ∀ key run, system.runs key = some run →
    run.key = key ∧ ∀ own, run.point = .preparing own → own.IsStart

theorem advance_key (run : QueueRun) : run.advance.key = run.key := by
  unfold QueueRun.advance
  split <;> rfl

theorem briefEvents_areOwn {own : QueuedDispatch} (started : own.IsStart)
    (executor auditor : Option String) :
    (∀ event ∈ briefEvents own executor auditor, event.IsOwn) ↔
      (∀ session, executor = some session → session = own.executor) ∧
        ∀ session, auditor = some session → session ≠ taskPairNoAuditor →
          session = own.auditor := by
  simp only [briefEvents, List.mem_append, List.mem_map, Option.mem_toList,
    Option.filter_eq_some_iff]
  constructor
  · intro areOwn
    constructor
    · intro session isExecutor
      exact (areOwn (.briefed own session) (.inl ⟨session, isExecutor, rfl⟩)).2
    · intro session isAuditor real
      exact (areOwn (.assigned own session)
        (.inr ⟨session, ⟨isAuditor, by simpa using real⟩, rfl⟩)).2
  · rintro ⟨toExecutor, toAuditor⟩ event member
    rcases member with ⟨session, isExecutor, rfl⟩ | ⟨session, ⟨isAuditor, real⟩, rfl⟩
    · exact ⟨started, toExecutor session isExecutor⟩
    · exact ⟨started, toAuditor session isAuditor (by simpa using real)⟩

section
variable {system : QueueSystem} {host : QueueHost} {key : QueueKey} {answer : Option String}
  {run : QueueRun}

theorem step_resume (under : system.runs key = some run) :
    system.step (.resume host key answer) =
      system.withRun (resumeQueueRun host system.store run answer).1 key
        (resumeQueueRun host system.store run answer).2.1 := by
  simp only [QueueSystem.step, under]

theorem events_resume (under : system.runs key = some run) :
    system.events (.resume host key answer) =
      (resumeQueueRun host system.store run answer).2.2 := by
  simp only [QueueSystem.events, under]

theorem preparing_agrees {own : QueuedDispatch} (under : system.runs key = some run)
    (isKey : run.key = key) (preparing : run.point = .preparing own) (started : own.IsStart) :
    BriefsWhatItStarted system (.resume host key answer) ↔
      KeepsItsPair system (.resume host key answer) := by
  have resumed : resumeQueueRun host system.store run answer =
      (system.store, some { run with point := .announcing },
        briefParticipants system.store run own) := by
    simp only [resumeQueueRun, preparing]
  have quiet : ∀ host' key' answer',
      QueueAction.resume host key answer = .resume host' key' answer' →
      (∀ event ∈ system.events (.resume host key answer), ¬event.IsCounted) →
        SameBookings system.store (system.step (.resume host key answer)).store := by
    intro _ _ _ _ _
    rw [step_resume under, resumed]
    exact SameBookings.refl system.store
  have keeps : KeepsItsPair system (.resume host key answer) ↔
      (own.listed.state.brief = none →
        ∀ pair, system.store.pairAt key.project own.listed.state.taskId = some pair →
          (∀ executor, truthy pair.executor = some executor → executor = own.executor) ∧
          ∀ auditor, truthy pair.auditor = some auditor → auditor ≠ taskPairNoAuditor →
            auditor = own.auditor) := by
    simp only [KeepsItsPair, under, Option.some.injEq, forall_eq', preparing]
  rw [keeps]
  simp only [BriefsWhatItStarted, and_iff_left quiet]
  rw [events_resume under, resumed]
  simp only [briefParticipants, isKey]
  cases brief : own.listed.state.brief with
  | some text =>
    simp only [Option.isSome_some, if_true, briefEvents_areOwn started]
    simp
  | none =>
    simp only [Option.isSome_none, Bool.false_eq_true, if_false, forall_const]
    cases found : system.store.pairAt key.project own.listed.state.taskId with
    | none => simp
    | some pair => simp only [briefEvents_areOwn started, Option.some.injEq, forall_eq']

theorem deciding_agrees (under : system.runs key = some run) (isKey : run.key = key)
    (deciding : ∀ own, run.point ≠ .preparing own) :
    (BriefsWhatItStarted system (.resume host key answer) ↔
      KeepsItsPair system (.resume host key answer)) ∧
    ∀ next, (resumeQueueRun host system.store run answer).2.1 = some next →
      next.key = key ∧ ∀ own, next.point = .preparing own →
        (KeepsItsPair system (.resume host key answer) → own.IsStart) := by
  have sound := @queueDecision_isSound host system.store run answer
  have resumed : resumeQueueRun host system.store run answer =
      match queueDecision host system.store run answer with
      | .goesOn after point =>
        let going := { run.advance with point := point }
        (after, if point = .next ∧ going.waiting = [] then none else some going, [])
      | .dispatches before listed executor auditor =>
        let admitted := admitPair host before run.advance listed executor auditor
        (admitted.1, some admitted.2.1, admitted.2.2) := by
    unfold resumeQueueRun
    split
    · rename_i own preparing
      exact absurd preparing (deciding own)
    · rfl
  have keeps : KeepsItsPair system (.resume host key answer) ↔
      ∀ store listed executor auditor, queueDecision host system.store run answer =
          .dispatches store listed executor auditor →
        IsFreeToStart host store key listed.state.taskId executor auditor := by
    simp only [KeepsItsPair, under, Option.some.injEq, forall_eq']
  rw [keeps]
  unfold BriefsWhatItStarted
  rw [events_resume under, step_resume under, resumed]
  cases decided : queueDecision host system.store run answer with
  | goesOn after point =>
    rw [decided] at sound
    dsimp only
    constructor
    · constructor
      · intro _ _ _ _ _ impossible
        cases impossible
      · intro _
        exact ⟨by simp, fun _ _ _ _ _ => sound.1⟩
    · intro next isNext
      split at isNext
      · cases isNext
      · cases isNext
        refine ⟨(advance_key run).trans isKey, ?_⟩
        intro own preparing
        exact absurd preparing (sound.2 own)
  | dispatches before listed executor auditor =>
    rw [decided] at sound
    obtain ⟨-, listedNow, filled⟩ := sound
    rw [← advance_key] at listedNow
    obtain ⟨after, next, own, admitted, nextKey, preparing, -, -, started⟩ :=
      @admitPair_spec host _ _ _ _ _ listedNow filled
    rw [advance_key, isKey] at started
    dsimp only
    rw [admitted]
    constructor
    · constructor
      · intro briefs store' listed' executor' auditor' same
        cases same
        exact started.mp (briefs.1 (.counted own) (by simp))
      · intro free
        constructor
        · intro event member
          obtain rfl := List.mem_singleton.mp member
          exact started.mpr (free before listed executor auditor rfl)
        · intro _ _ _ _ uncounted
          exact absurd trivial (uncounted (.counted own) (by simp))
    · intro next' isNext
      cases isNext
      refine ⟨nextKey.trans ((advance_key run).trans isKey), ?_⟩
      intro own' preparing' free
      rw [preparing] at preparing'
      cases preparing'
      exact started.mpr (free before listed executor auditor rfl)

end

theorem step_agrees (system : QueueSystem) (action : QueueAction)
    (own : RunsOwnTheirPairs system) :
    BriefsWhatItStarted system action ↔ KeepsItsPair system action := by
  cases action with
  | marker host input => simp [BriefsWhatItStarted, QueueSystem.events, KeepsItsPair]
  | runQueue host key => simp [BriefsWhatItStarted, QueueSystem.events, KeepsItsPair]
  | resume host key answer =>
    cases under : system.runs key with
    | none =>
      have unchanged : system.step (.resume host key answer) = system := by
        simp only [QueueSystem.step, under]
      simp [BriefsWhatItStarted, QueueSystem.events, KeepsItsPair, under, unchanged,
        SameBookings.refl]
    | some run =>
      obtain ⟨isKey, started⟩ := own key run under
      cases point : run.point with
      | preparing dispatch => exact preparing_agrees under isKey point (started dispatch point)
      | next | notifying | executorAsked | auditorAsked | announcing =>
        exact (deciding_agrees under isKey (by simp [point])).1

theorem step_runsOwnTheirPairs (system : QueueSystem) (action : QueueAction)
    (own : RunsOwnTheirPairs system) (keeps : KeepsItsPair system action) :
    RunsOwnTheirPairs (system.step action) := by
  have withRun : ∀ store key (next : Option QueueRun),
      (∀ run, next = some run → run.key = key ∧ ∀ own, run.point = .preparing own →
        own.IsStart) → RunsOwnTheirPairs (system.withRun store key next) := by
    intro store key next owned other run found
    by_cases same : other = key
    · subst same
      simp only [QueueSystem.withRun, if_true] at found
      exact owned run found
    · simp only [QueueSystem.withRun, if_neg same] at found
      exact own other run found
  cases action with
  | marker host input => exact own
  | runQueue host key =>
    simp only [QueueSystem.step]
    split
    · exact own
    · apply withRun
      intro run isStart
      cases isStart
      exact ⟨rfl, fun own preparing => nomatch preparing⟩
  | resume host key answer =>
    cases under : system.runs key with
    | none =>
      simp only [QueueSystem.step, under]
      exact own
    | some run =>
      rw [step_resume under]
      obtain ⟨isKey, started⟩ := own key run under
      apply withRun
      intro next isNext
      cases point : run.point with
      | preparing dispatch =>
        simp only [resumeQueueRun, point, Option.some.injEq] at isNext
        subst isNext
        exact ⟨isKey, fun own preparing => nomatch preparing⟩
      | _ =>
        obtain ⟨nextKey, nextStarted⟩ :=
          (@deciding_agrees _ host _ answer _ under isKey (by simp [point])).2 next isNext
        exact ⟨nextKey, fun own preparing => nextStarted own preparing keeps⟩

/-- Runs of the queue beside each other and between markers brief only what they started,
exactly if each finds its pair still queued, its sessions free and its DISPATCH new, and those
told of a pair without a brief are the sessions the run gave it. -/
theorem queue_briefs_what_it_started_iff (store : TaskPairStore) (actions : List QueueAction) :
    Meets QueueSystem.step BriefsWhatItStarted ⟨store, fun _ => none⟩ actions ↔
      Meets QueueSystem.step KeepsItsPair ⟨store, fun _ => none⟩ actions :=
  meets_iff_meets step_agrees step_runsOwnTheirPairs (by
    intro key run found
    cases found) actions

/-- A host whose pools are empty, so that every open role is provisioned. -/
def plainQueueHost : QueueHost :=
  { plainServiceHost with
    maxConcurrency := fun _ => 2
    occupiesSlot := fun stored => stored.state.status ∈ taskPairParticipantStatuses
    isBusy := fun _ => false
    busyReasons := fun _ => ""
    needsUserPoolChoice := fun _ _ _ => false
    pick := fun _ => none
    inPlaceHolder := fun _ _ _ => none
    inPlaceRoot := fun _ => "" }

/-- While the queue waits for an executor of `T1`, its Brain names one and starts the pair. -/
def overtakenByBrain : List QueueAction :=
  [.marker plainServiceHost (plainInput "e1" "alpha" "alpha_brain" .mcp 1
      { plainMarker .queue [("auditor", "y")] with brief := some "build it" }),
    .runQueue plainQueueHost ⟨"alpha", "alpha_brain"⟩,
    .resume plainQueueHost ⟨"alpha", "alpha_brain"⟩ none,
    .marker plainServiceHost (plainInput "e2" "alpha" "alpha_brain" .marker 2
      (plainMarker .reassign [("executor", "z")])),
    .marker plainServiceHost (plainInput "e3" "alpha" "alpha_brain" .marker 3
      (plainMarker .started []))]

/-- The queue gives a pair that its Brain has started meanwhile to another executor, and
counts and briefs it. -/
theorem queue_takes_over_started_pair :
    ¬ ∀ (store : TaskPairStore) (actions : List QueueAction),
      Meets QueueSystem.step BriefsWhatItStarted ⟨store, fun _ => none⟩ actions := by
  intro briefs
  have ran := briefs .empty
    (overtakenByBrain ++ [.resume plainQueueHost ⟨"alpha", "alpha_brain"⟩ (some "x")])
  rw [meets_append] at ran
  have last := ran.2.1.1
  have seen : ((run QueueSystem.step ⟨.empty, fun _ => none⟩ overtakenByBrain).events
      (.resume plainQueueHost ⟨"alpha", "alpha_brain"⟩ (some "x"))).map (fun event =>
        match event with
        | .counted own => (own.before, own.after)
        | _ => (none, none)) =
      [(some ⟨.working, some "z", some "y"⟩, some ⟨.working, some "x", some "y"⟩)] := by
    decide +kernel
  obtain ⟨event, rest, isEvents, isSeen, -⟩ := List.map_eq_cons_iff.mp seen
  have owned := last event (by rw [isEvents]; simp)
  cases event with
  | counted own =>
    have before : own.before = some ⟨.working, some "z", some "y"⟩ :=
      congrArg Prod.fst isSeen
    have queued := owned.1
    rw [before] at queued
    cases queued
  | _ => cases isSeen

end ImCodes.TaskPair
