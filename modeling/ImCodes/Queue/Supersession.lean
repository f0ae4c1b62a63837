import ImCodes.Library.LikePattern
import ImCodes.Queue.Resend.Mirror

/-!
# Superseded fires

A cron schedule keeps only its newest pending fire. Which pending messages are fires of the
schedule is decided twice: in memory by a regular expression on the command, and in the store by a
`LIKE` pattern the schedule's name is pasted into.
-/

set_option autoImplicit false

namespace ImCodes.Queue

open Library

def firePrefix (schedule : String) : List Char := "cron:".toList ++ schedule.toList ++ [':']

/-- The pattern matches the command only if it begins with the prefix, and so does the expression,
which looks past leading blanks. -/
def MatchedExactly (schedule commandId : String) : Prop :=
  (like ("cron:" ++ schedule ++ ":%") commandId = true →
      firePrefix schedule <+: commandId.toList) ∧
    (firePrefix schedule <+: trimChars commandId.toList →
      firePrefix schedule <+: commandId.toList)

/-! ## The two matches -/

theorem cronScheduleId_schedule {commandId : Option String} {schedule : String}
    (named : cronScheduleId commandId = some schedule) :
    schedule.toList ≠ [] ∧ ':' ∉ schedule.toList := by
  unfold cronScheduleId at named
  split at named
  · next rest found =>
      dsimp only at named
      split at named
      · cases named
      · next some_ =>
          cases named
          rw [String.toList_ofList]
          refine ⟨fun empty => some_ (.inl empty), fun inside => ?_⟩
          simpa using List.mem_takeWhile_imp inside
  · cases named

theorem takeWhile_field {field more : List Char} (oneField : ':' ∉ field) :
    (field ++ ':' :: more).takeWhile (· ≠ ':') = field ∧
      (field ++ ':' :: more).dropWhile (· ≠ ':') = ':' :: more := by
  have plain : ∀ c ∈ field, decide (c ≠ ':') = true := fun c member =>
    decide_eq_true fun same => oneField (same ▸ member)
  rw [List.takeWhile_append_of_pos plain, List.dropWhile_append_of_pos plain]
  simp

theorem cronScheduleId_eq_some {commandId schedule : String} (nonempty : schedule.toList ≠ [])
    (oneField : ':' ∉ schedule.toList) :
    cronScheduleId (some commandId) = some schedule ↔
      firePrefix schedule <+: trimChars commandId.toList := by
  unfold cronScheduleId firePrefix
  rw [Option.map_some, trim, String.toList_ofList]
  constructor
  · intro named
    split at named
    · next rest found =>
        dsimp only at named
        split at named
        · cases named
        · next some_ =>
            have field := congrArg String.toList (Option.some.inj named)
            rw [String.toList_ofList] at field
            have behind : rest.dropWhile (· ≠ ':') ≠ [] := fun empty => some_ (.inr empty)
            have colon : (rest.dropWhile (· ≠ ':')).head behind = ':' := by
              simpa using List.head_dropWhile_not (· ≠ ':') behind
            obtain ⟨more, tail⟩ : ∃ more, rest.dropWhile (· ≠ ':') = ':' :: more :=
              ⟨_, (List.cons_head_tail behind).symm.trans (congrArg (· :: _) colon)⟩
            have whole := List.takeWhile_append_dropWhile (p := (· ≠ ':')) (l := rest)
            rw [field, tail] at whole
            refine ⟨more, ?_⟩
            rw [Option.some.inj found, ← whole]
            simp
    · cases named
  · rintro ⟨more, whole⟩
    have shape : trimChars commandId.toList =
        'c' :: 'r' :: 'o' :: 'n' :: ':' :: (schedule.toList ++ ':' :: more) := by
      rw [← whole]
      simp
    obtain ⟨taken, dropped⟩ := @takeWhile_field schedule.toList more oneField
    rw [shape]
    change (if (schedule.toList ++ ':' :: more).takeWhile (· ≠ ':') = [] ∨
        (schedule.toList ++ ':' :: more).dropWhile (· ≠ ':') = [] then none
      else some (String.ofList ((schedule.toList ++ ':' :: more).takeWhile (· ≠ ':')))) = _
    rw [taken, dropped, if_neg (by simp [nonempty]), String.ofList_toList]

theorem like_firePrefix (schedule commandId : String) :
    like ("cron:" ++ schedule ++ ":%") commandId =
      likeChars (firePrefix schedule ++ ['%']) commandId.toList := by
  simp [like, firePrefix]

theorem firePrefix_ends (schedule : String) :
    ∃ start, firePrefix schedule = 'c' :: start ++ [':'] :=
  ⟨'r' :: 'o' :: 'n' :: ':' :: schedule.toList, rfl⟩

theorem matches_agree_iff {commandId schedule : String} (nonempty : schedule.toList ≠ [])
    (oneField : ':' ∉ schedule.toList) :
    (like ("cron:" ++ schedule ++ ":%") commandId = true ↔
        cronScheduleId (some commandId) = some schedule) ↔
      MatchedExactly schedule commandId := by
  rw [cronScheduleId_eq_some nonempty oneField, like_firePrefix, MatchedExactly, like_firePrefix]
  obtain ⟨start, shape⟩ := firePrefix_ends schedule
  rw [shape]
  have trimmedIff := @prefix_trimChars_iff 'c' ':' start commandId.toList (by decide) (by decide)
  have literal : 'c' :: start ++ [':'] <+: commandId.toList →
      likeChars ('c' :: start ++ [':'] ++ ['%']) commandId.toList = true := by
    rintro ⟨rest, whole⟩
    rw [← whole]
    exact likeChars_prefix _ rest
  have visible : likeChars ('c' :: start ++ [':'] ++ ['%']) commandId.toList = true →
      commandId.toList.dropWhile isWhiteSpace = commandId.toList := by
    intro accepted
    cases text : commandId.toList with
    | nil => rfl
    | cons c rest =>
      rw [text] at accepted
      have same := likeChars_head (by decide) (by decide) accepted
      have plain : isWhiteSpace c = false := by
        cases white : isWhiteSpace c with
        | false => rfl
        | true =>
          rw [foldAsciiCase_whiteSpace white] at same
          have letter : foldAsciiCase 'c' = 'c' := by decide
          rw [← same, letter] at white
          exact absurd white (by decide)
      simp [plain]
  constructor
  · intro agree
    refine ⟨fun accepted => trimmedIff.mpr ⟨agree.mp accepted, visible accepted⟩, fun begins => ?_⟩
    exact trimmedIff.mpr ⟨begins, visible (agree.mpr begins)⟩
  · rintro ⟨exact_, unblanked⟩
    exact ⟨fun accepted => (trimmedIff.mp (exact_ accepted)).1,
      fun begins => literal (unblanked begins)⟩

/-! ## In the store -/

namespace TransportQueueStore

def firedBySchedule (session : String) (commandId : Option String) (row : QueueEntryRow) : Bool :=
  inSession session row && row.queued &&
    (cronScheduleId commandId).any fun schedule => cronScheduleId row.commandId = some schedule

def MatchesRow (session : String) (commandId : Option String) (row : QueueEntryRow) : Prop :=
  ∀ schedule, cronScheduleId commandId = some schedule → row.sessionName = session →
    row.queued = true → ∀ rowCommand, row.commandId = some rowCommand →
      MatchedExactly schedule rowCommand

theorem superseded_iff_fired {session : String} {commandId : Option String} {row : QueueEntryRow} :
    supersededBy session commandId row = firedBySchedule session commandId row ↔
      MatchesRow session commandId row := by
  unfold supersededBy supersededByCron firedBySchedule MatchesRow
  cases named : cronScheduleId commandId with
  | none => simp
  | some schedule =>
    obtain ⟨nonempty, oneField⟩ := cronScheduleId_schedule named
    by_cases queued : inSession session row = true ∧ row.queued = true
    · have inside : row.sessionName = session := by
        simpa [inSession, MessageRow.sessionName] using queued.1
      cases command : row.commandId with
      | none => simp [queued, cronScheduleId]
      | some rowCommand =>
        have agree := @matches_agree_iff rowCommand schedule nonempty oneField
        simp only [queued.1, queued.2, Bool.true_and, Option.any_some]
        rw [Bool.eq_iff_iff, decide_eq_true_eq, agree]
        refine ⟨fun exact_ other isSchedule _ _ otherCommand isCommand => ?_, fun exact_ => ?_⟩
        · cases isSchedule
          cases isCommand
          exact exact_
        · exact exact_ schedule rfl inside trivial rowCommand rfl
    · have outside : ∀ matched, (inSession session row && row.queued && matched) = false := by
        intro matched
        cases matched <;> simp_all
      simp only [Option.any_some, outside, true_iff]
      intro _ _ inside pending
      exact absurd ⟨by simp [inSession, MessageRow.sessionName, inside], pending⟩ queued

theorem supersede_ne {row : QueueEntryRow} (queued : row.queued = true) (now : Int) :
    row.supersede now ≠ row := by
  intro same
  have status := congrArg QueueEntryRow.status same
  simp only [QueueEntryRow.queued, decide_eq_true_eq] at queued
  rw [queued] at status
  cases status

theorem queued_of_superseded {session : String} {commandId : Option String} {row : QueueEntryRow}
    (superseded : supersededBy session commandId row = true) : row.queued = true := by
  unfold supersededBy supersededByCron at superseded
  obtain ⟨schedule, _, matched⟩ := (Option.any_eq_true _ _).mp superseded
  simp only [Bool.and_eq_true] at matched
  exact matched.1.2

theorem queued_of_fired {session : String} {commandId : Option String} {row : QueueEntryRow}
    (fired : firedBySchedule session commandId row = true) : row.queued = true := by
  simp only [firedBySchedule, Bool.and_eq_true] at fired
  exact fired.1.2

theorem superseded_of_member {session : String} {commandId : Option String} {now : Int}
    {expected : Bool} {old : QueueEntryRow} {after : TransportQueueStore}
    (outlasting : (if supersededBy session commandId old then old.supersede now else old) ∈
      after.queueEntries)
    (queued : supersededBy session commandId old = true ∨ expected = true → old.queued = true)
    (member : (if expected then old.supersede now else old) ∈ after.queueEntries) :
    supersededBy session commandId old = expected := by
  have sameRow := Table.eq_of_key outlasting member
    (by split <;> split <;> rfl)
  cases superseded : supersededBy session commandId old <;> cases expected
  · rfl
  · simp only [superseded, Bool.false_eq_true, ↓reduceIte] at sameRow
    exact absurd sameRow.symm (supersede_ne (queued (.inr rfl)) now)
  · simp only [superseded, Bool.false_eq_true, ↓reduceIte] at sameRow
    exact absurd sameRow (supersede_ne (queued (.inl superseded)) now)
  · rfl

variable [Host]

/-- Of the rows an enqueue does not delete, exactly the queued fires of the schedule are
superseded. -/
def SupersedesFires (store : TransportQueueStore) (clock : Int)
    (input : EnqueueTransportQueueEntryInput) (evicted : Option String) : Prop :=
  ∀ result, store.enqueueWithCapacityEviction clock input evicted = .ok result →
    result.2.cancelled = false → ∀ old, old ∈ store.queueEntries →
      Outlasts (trim input.sessionName) (store.isForeignQueue (trim input.sessionName)
        (normalizeQueueRecipient input.recipient)) (trimmed evicted) old →
      (if firedBySchedule (trim input.sessionName) input.commandId old then
        old.supersede (input.now.getD clock) else old) ∈ result.1.queueEntries

/-- An enqueue that adds no row, or finds no queued command the pattern only seems to match. -/
def MatchesFires (store : TransportQueueStore) (clock : Int)
    (input : EnqueueTransportQueueEntryInput) (evicted : Option String) : Prop :=
  store.Admits input (store.identifyMessage input.clientMessageId).2 (input.now.getD clock)
      (trimmed evicted) →
    ∀ old, old ∈ store.queueEntries →
      Outlasts (trim input.sessionName) (store.isForeignQueue (trim input.sessionName)
        (normalizeQueueRecipient input.recipient)) (trimmed evicted) old →
      MatchesRow (trim input.sessionName) input.commandId old

theorem supersedesFires_iff (store : TransportQueueStore) (clock : Int)
    (input : EnqueueTransportQueueEntryInput) (evicted : Option String) :
    store.SupersedesFires clock input evicted ↔ store.MatchesFires clock input evicted := by
  by_cases admits : store.Admits input (store.identifyMessage input.clientMessageId).2
    (input.now.getD clock) (trimmed evicted)
  · obtain ⟨result, done, added, fresh, _, entries⟩ :=
      enqueueWithCapacityEviction_admitted clock rfl admits
    constructor
    · intro supersedes _ old member outlasts
      rw [← superseded_iff_fired]
      refine superseded_of_member ((entries _).mpr (.inr ⟨old, member, outlasts, rfl⟩)) ?_
        (supersedes result done added old member outlasts)
      rintro (superseded | fired)
      · exact queued_of_superseded superseded
      · exact queued_of_fired fired
    · intro exactly other isResult _ old member outlasts
      rw [done] at isResult
      cases isResult
      rw [← superseded_iff_fired.mpr (exactly admits old member outlasts)]
      exact (entries _).mpr (.inr ⟨old, member, outlasts, rfl⟩)
  · refine ⟨fun _ admitted => absurd admitted admits, fun _ result done added => ?_⟩
    rcases enqueueWithCapacityEviction_refused clock rfl admits with
      ⟨error, failed⟩ | ⟨other, refused, cancelled, _⟩
    · rw [failed] at done
      cases done
    · rw [refused] at done
      cases done
      rw [cancelled] at added
      cases added

end TransportQueueStore

/-! ## In memory -/

theorem cronScheduleId_trimmed (commandId : Option String) :
    cronScheduleId (trimmed commandId) = cronScheduleId commandId := by
  cases commandId with
  | none => rfl
  | some text =>
    by_cases blank : trim text = ""
    · have none_ : trimmed (some text) = none := by simp [trimmed, blank, truthy]
      rw [none_]
      simp [cronScheduleId, blank]
    · rw [trimmed, Option.map_some, truthy_some blank]
      simp only [cronScheduleId, Option.map_some, trim_trim]

namespace ResendState

theorem mem_otherFires {commandId : String} {entries : List ResendEntry} {held : ResendEntry} :
    held ∈ otherFires commandId entries ↔ held ∈ entries ∧
      ∀ schedule, cronScheduleId (some commandId) = some schedule →
        cronScheduleId (some held.commandId) ≠ some schedule := by
  unfold otherFires
  split
  · next schedule named => simp [named]
  · next named => simp [named]

/-- The queued row of an entry held in memory. -/
structure IsQueuedRow (sessionName : String) (held : ResendEntry) (row : QueueEntryRow) : Prop where
  inside : row.sessionName = trim sessionName
  isMessage : held.clientMessageId = some row.clientMessageId
  queued : row.queued = true
  command : row.commandId = trimmed (some held.commandId)

theorem firedBySchedule_iff {sessionName : String} {entry held : ResendEntry}
    {entries : List ResendEntry} {row : QueueEntryRow} (listed : held ∈ entries)
    (isRow : IsQueuedRow sessionName held row) :
    TransportQueueStore.firedBySchedule (trim sessionName) (some entry.commandId) row = true ↔
      held ∉ otherFires entry.commandId entries := by
  rw [mem_otherFires, not_and]
  simp only [TransportQueueStore.firedBySchedule, isRow.queued, isRow.command,
    cronScheduleId_trimmed]
  cases cronScheduleId (some entry.commandId) with
  | none => simp [listed]
  | some schedule => simp [listed, inSession, MessageRow.sessionName, isRow.inside]

section Host

variable [Host]

theorem enqueueResend_admitted {state : ResendState} (clock : Int) {sessionName : String}
    {entry : ResendEntry} (admits : state.AdmitsResend sessionName entry) :
    ∃ fresh, ∀ row, row ∈ (state.enqueueResend clock sessionName entry).1.store.queueEntries ↔
      row = fresh ∨ ∃ old, old ∈ state.store.queueEntries ∧
        TransportQueueStore.Outlasts (trim sessionName)
          (state.store.isForeignQueue (trim sessionName) (normalizeQueueRecipient entry.recipient))
          (evictedId (state.queues sessionName)) old ∧
        (if TransportQueueStore.supersededBy (trim sessionName) (some entry.commandId) old then
          old.supersede entry.queuedAt else old) = row := by
  obtain ⟨queues, opened, named⟩ := identifyResend_spec state sessionName entry
  have clean := @TransportQueueStore.identifyMessage_clean _ state.store
    entry.clientMessageId
  unfold AdmitsResend at admits
  dsimp only at admits
  rw [← named] at clean admits
  unfold enqueueResend enqueueResendInternal
  generalize state.identifyResend entry = identified at queues opened clean admits
  obtain ⟨identifiedState, clientMessageId⟩ := identified
  dsimp only at queues opened clean admits ⊢
  rcases checkReplay_spec identifiedState sessionName
      { entry with clientMessageId := some clientMessageId } clean with
    ⟨seen, answer, _, _, _, row, member, isKey, live⟩ |
    ⟨seen, checked, seenQueues, same, _⟩ | ⟨_, blank⟩
  · rw [opened.messages.queueEntries] at member
    rw [admits.1 row member isKey] at live
    cases live
  · have entered := opened.trans same
    rw [checked]
    dsimp only
    have seenAdmits : seen.store.Admits (ResendEntry.enqueueInput
        { entry with clientMessageId := some clientMessageId } sessionName clientMessageId)
        clientMessageId entry.queuedAt (evictedId (seen.queues sessionName)) := by
      rw [seenQueues, queues]
      refine TransportQueueStore.SameQueue.admits ?_ admits.2
      exact entered
    obtain ⟨_, fresh, _, entries⟩ := writeResend_admitted clock clean seenAdmits
    refine ⟨fresh, fun row => ?_⟩
    rw [entries, entered.messages.queueEntries, entered.owner, seenQueues, queues]
  · exact absurd blank admits.2.1

/-- Of the messages held both in memory and in the store, an enqueue takes the same ones out of
both for being fires of its schedule. -/
def SupersedesAlike (state : ResendState) (clock : Int) (sessionName : String)
    (entry : ResendEntry) : Prop :=
  state.AdmitsResend sessionName entry → ∀ held ∈ state.queues sessionName,
    ∀ old, old ∈ state.store.queueEntries → IsQueuedRow sessionName held old →
      TransportQueueStore.Outlasts (trim sessionName)
        (state.store.isForeignQueue (trim sessionName) (normalizeQueueRecipient entry.recipient))
        (evictedId (state.queues sessionName)) old →
      (old.supersede entry.queuedAt ∈
          (state.enqueueResend clock sessionName entry).1.store.queueEntries ↔
        held ∉ otherFires entry.commandId (state.queues sessionName))

/-- No row of an entry held in memory has a command the pattern only seems to match. -/
def MatchesHeld (state : ResendState) (sessionName : String) (entry : ResendEntry) : Prop :=
  state.AdmitsResend sessionName entry → ∀ held ∈ state.queues sessionName,
    ∀ old, old ∈ state.store.queueEntries → IsQueuedRow sessionName held old →
      TransportQueueStore.Outlasts (trim sessionName)
        (state.store.isForeignQueue (trim sessionName) (normalizeQueueRecipient entry.recipient))
        (evictedId (state.queues sessionName)) old →
      TransportQueueStore.MatchesRow (trim sessionName) (some entry.commandId) old

theorem supersedesAlike_iff (state : ResendState) (clock : Int) (sessionName : String)
    (entry : ResendEntry) :
    state.SupersedesAlike clock sessionName entry ↔ state.MatchesHeld sessionName entry := by
  refine forall_congr' fun admits => forall_congr' fun held => forall_congr' fun listed =>
    forall_congr' fun old => forall_congr' fun member => forall_congr' fun isRow =>
      forall_congr' fun outlasts => ?_
  obtain ⟨fresh, entries⟩ := enqueueResend_admitted clock admits
  have stays := (entries _).mpr (.inr ⟨old, member, outlasts, rfl⟩)
  have superseded : old.supersede entry.queuedAt ∈
      (state.enqueueResend clock sessionName entry).1.store.queueEntries ↔
      TransportQueueStore.supersededBy (trim sessionName) (some entry.commandId) old = true := by
    constructor
    · intro moved
      exact @TransportQueueStore.superseded_of_member _ _ _ true _ _ stays
        (fun _ => isRow.queued) moved
    · intro isSuperseded
      rw [if_pos isSuperseded] at stays
      exact stays
  rw [superseded, ← firedBySchedule_iff listed isRow, ← Bool.eq_iff_iff,
    TransportQueueStore.superseded_iff_fired]

/-- Cron supersession takes exactly the fires of the schedule out of the store, and the same
ones out of memory, exactly where no queued command seems to match the pattern: where each one
it matches begins with the schedule's prefix. -/
theorem supersession_exact_iff :
    (∀ (store : TransportQueueStore) (clock : Int) (input : EnqueueTransportQueueEntryInput)
      (evicted : Option String),
      store.SupersedesFires clock input evicted ↔ store.MatchesFires clock input evicted) ∧
    ∀ (state : ResendState) (clock : Int) (sessionName : String) (entry : ResendEntry),
      state.SupersedesAlike clock sessionName entry ↔ state.MatchesHeld sessionName entry :=
  ⟨TransportQueueStore.supersedesFires_iff, supersedesAlike_iff⟩

end Host

section FixedRuns

open Library.FixedRuns TransportQueueStore

/-- A queued fire of the schedule `dayXjob`. -/
def otherSchedule : TransportQueueStore :=
  run next empty [.enqueue 1 ((plainResend none "m1" "cron:dayXjob:1" 1).enqueueInput "deck" "m1")]

/-- The fire of `day_job` expires a fire of `dayXjob`. -/
theorem wildcard_expires_other_schedule :
    ¬∀ (store : TransportQueueStore) (clock : Int) (input : EnqueueTransportQueueEntryInput)
      (evicted : Option String), store.SupersedesFires clock input evicted := by
  intro supersedes
  let input := (plainResend none "m2" "cron:day_job:2" 2).enqueueInput "deck" "m2"
  have queued : otherSchedule.queueEntries.holds (fun row =>
      row.queued && row.clientMessageId ≠ "m2" &&
        !firedBySchedule (trim input.sessionName) input.commandId row) = true := by
    decide +kernel
  have unbound : otherSchedule.isForeignQueue "deck" none = false := by decide +kernel
  have outcome : (otherSchedule.enqueueWithCapacityEviction 2 input none).toOption.any
      (fun result => !result.2.cancelled && !result.1.queueEntries.holds fun row =>
        row.queued && row.clientMessageId ≠ "m2") = true := by
    decide +kernel
  obtain ⟨old, member, facts⟩ := Table.holds_iff.mp queued
  simp only [Bool.and_eq_true, Bool.not_eq_true'] at facts
  cases done : otherSchedule.enqueueWithCapacityEviction 2 input none with
  | error error =>
    rw [done] at outcome
    cases outcome
  | ok result =>
    rw [done] at outcome
    simp only [Except.toOption, Option.any_some, Bool.and_eq_true, Bool.not_eq_true']
      at outcome
    have stays := supersedes otherSchedule 2 input none result done outcome.1 old member
      fun _ => ⟨unbound, fun evicted => by cases evicted⟩
    rw [if_neg (Bool.eq_false_iff.mp facts.2)] at stays
    have gone := Table.holds_eq_false_iff.mp outcome.2 old stays
    rw [facts.1.1, facts.1.2] at gone
    cases gone

end FixedRuns

end ResendState

end ImCodes.Queue
