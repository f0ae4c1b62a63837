import ImCodes.Remote.ConsentEffects

/-!
# Cancelled consents

A cancellation closes the rows it selects, and a closed row is never consumed. It selects one
batch of the rows nobody has locked, so a row that is locked meanwhile, or comes after the
batch, stays as open as it was.
-/

set_option autoImplicit false

namespace ImCodes.Remote

open Library

namespace ConsentServer

def HasCancelled (server : ConsentServer) (id : Nat) (input : CancelConsentsInput)
    (raising : Option ConsentError) : Prop :=
  ∃ commit ∈ server.history, commit.id = id ∧ commit.job = .cancel input raising

def HasConsumed (server : ConsentServer) (approvalId : String) : Prop :=
  ∃ commit ∈ server.history, ∃ input, commit.job = .consume input ∧ input.approvalId = approvalId

/-- The cancellation that makes its selection with this step. -/
def selection? (server : ConsentServer) : ConsentAction → Option CancelConsentsInput
  | .advance id =>
    match server.tasks.get? id with
    | some (.active (.cancel input _) (.begun _)) => some input
    | _ => none
  | _ => none

def SelectsAll (server : ConsentServer) (action : ConsentAction) : Prop :=
  ∀ input ∈ server.selection? action,
    (∀ row ∈ server.consents.rows, cancelWants input row = true → server.isLocked row = false) ∧
      (server.consents.select (cancelWants input)).length ≤ maxCancelBatch

instance (server : ConsentServer) (action : ConsentAction) :
    Decidable (server.SelectsAll action) :=
  inferInstanceAs (Decidable (∀ input ∈ server.selection? action, _ ∧ _))

/-- In the run, no consent that was there before a cancellation was called, matched it and was
not consumed when it returned is consumed later. -/
def CancelsForGood (clock : Int) (actions : List ConsentAction) : Prop :=
  ∀ before between after, actions = before ++ between ++ after →
    let created := run step (start clock) before
    let returned := run step created between
    let later := run step returned after
    ∀ id input raising, ∀ row ∈ created.consents, input.selector.selects row = true →
      (∀ stage, created.tasks.get? id ≠ some (.active (.cancel input raising) stage)) →
      returned.HasCancelled id input raising → ¬returned.HasConsumed row.approvalId →
      ¬later.HasConsumed row.approvalId

end ConsentServer

/-! ## Closed rows -/

namespace ConsentJob

variable {job : ConsentJob} {now : Int} {row : ConsentRow}

theorem leaves_isOpen (closed : row.isOpen = false) : (job.leaves now row).isOpen = false := by
  cases job with
  | request input approvalId accepted => exact closed
  | record input message =>
    simp only [leaves, ConsentRow.recordNodeMessage]
    split_ifs with unfit late
    · exact closed
    · rfl
    · have pending : row.state = .pending := by simpa using (not_or.mp unfit).1
      have consumed : row.consumedAt.isNone = false := by
        simpa [ConsentRow.isOpen, pending] using closed
      cases message with
      | result approvalId decision daemonGeneration =>
        dsimp only
        split
        · exact closed
        · simp [ConsentRow.isOpen, consumed]
      | cancel approvalId reason => rfl
  | cancel input raising => simp [leaves, closed]
  | sweep dispatches limit => simp [leaves, closed]
  | consume input =>
    simp only [leaves, ConsentRow.consume]
    split_ifs with unbound taken same unapproved late
    · exact closed
    · exact closed
    · exact closed
    · exact closed
    · rfl
    · simp [ConsentRow.isOpen]

theorem leaves_cancel_isOpen (input : CancelConsentsInput) (raising : Option ConsentError)
    (now : Int) (row : ConsentRow) :
    ((ConsentJob.cancel input raising).leaves now row).isOpen = false := by
  by_cases isOpen : row.isOpen = true
  · simp only [leaves, isOpen, if_true]
    rfl
  · simp [leaves, isOpen]

theorem selects_leaves (selector : CancelSelector) :
    selector.selects (job.leaves now row) = selector.selects row := by
  have same : ∀ other : ConsentRow, other.approvalId = row.approvalId →
      other.browserKeyHash = row.browserKeyHash → other.actorAuditId = row.actorAuditId →
      other.hostId = row.hostId → other.executionServerId = row.executionServerId →
      other.daemonGeneration = row.daemonGeneration →
      selector.selects other = selector.selects row := by
    intro other approvalId browserKeyHash actorAuditId hostId executionServerId daemonGeneration
    cases selector with
    | executionServer server generation =>
      cases generation <;>
        simp only [CancelSelector.selects, executionServerId, daemonGeneration]
    | _ => simp only [CancelSelector.selects, approvalId, browserKeyHash, actorAuditId, hostId]
  cases job with
  | request input approvalId accepted => rfl
  | record input message =>
    simp only [leaves, ConsentRow.recordNodeMessage]
    cases message <;> (dsimp only; split_ifs <;> exact same _ rfl rfl rfl rfl rfl rfl)
  | cancel input raising =>
    simp only [leaves]
    split <;> exact same _ rfl rfl rfl rfl rfl rfl
  | sweep dispatches limit =>
    simp only [leaves]
    split <;> exact same _ rfl rfl rfl rfl rfl rfl
  | consume input =>
    simp only [leaves, ConsentRow.consume]
    split_ifs <;> exact same _ rfl rfl rfl rfl rfl rfl

end ConsentJob

namespace ConsentRow

theorem consume_ok {row : ConsentRow} {input : ConsumeConsentInput} {now : Int}
    {answer : AttendedConsent × Bool} (given : (row.consume input now).1 = .ok answer) :
    row.isOpen = true ∨ row.consumedAt.isSome = true := by
  unfold consume at given
  split_ifs at given with unbound taken same unapproved late
  · exact .inr taken
  · have approved : row.state = .approved := by simpa using (not_or.mp unapproved).1
    exact .inl (by simpa [isOpen, approved] using taken)

end ConsentRow

namespace ConsentJob

theorem result_consume {input : ConsumeConsentInput} {now : Int} {rows : List ConsentRow}
    {outcome : ConsentOutcome} (given : (ConsentJob.consume input).result now rows = .ok outcome) :
    ∃ row rest answer, rows = row :: rest ∧ (row.consume input now).1 = .ok answer ∧
      outcome = .consumed answer.1 answer.2 := by
  cases rows with
  | nil => cases given
  | cons row rest =>
    simp only [result, List.head?_cons] at given
    cases consumed : (row.consume input now).1 with
    | error error =>
      rw [consumed] at given
      cases given
    | ok answer =>
      rw [consumed] at given
      cases given
      exact ⟨row, rest, answer, rfl, consumed, rfl⟩

theorem leaves_consumedAt {job : ConsentJob} {now : Int} {row : ConsentRow}
    (other : ∀ input, job ≠ .consume input) :
    (job.leaves now row).consumedAt = row.consumedAt := by
  cases job with
  | request input approvalId accepted => rfl
  | record input message =>
    simp only [leaves, ConsentRow.recordNodeMessage]
    cases message <;> (dsimp only; split_ifs <;> rfl)
  | cancel input raising =>
    simp only [leaves]
    split <;> rfl
  | sweep dispatches limit =>
    simp only [leaves]
    split <;> rfl
  | consume input => exact absurd rfl (other input)

end ConsentJob

namespace ConsentServer

/-! ## What the history tells -/

/-- The rows that are consumed are told of, and the cancellations told of have returned. -/
structure IsTold (server : ConsentServer) : Prop where
  fit : server.LocksFit
  consumed : ∀ row ∈ server.consents, row.consumedAt.isSome = true →
    server.HasConsumed row.approvalId
  ended : ∀ id input raising, server.HasCancelled id input raising →
    server.HasReturned id (.cancel input raising)

section
variable {server after : ConsentServer} {action : ConsentAction}

theorem Happens.history (happened : server.Happens action after) {commit : ConsentCommit}
    (told : commit ∈ server.history) : commit ∈ after.history := by
  cases happened with
  | quiet keeps locks holding => exact keeps.history ▸ told
  | drops ended keeps locks holding => exact keeps.history ▸ told
  | inserts id input approvalId accepted now begun valid inserted history locks others own =>
    rw [history]
    exact List.mem_append_left _ told
  | locks id job now begun free => exact told
  | commits id job now lockedAt rows outcome holding given =>
    rw [history_finish given]
    exact List.mem_append_left _ told

theorem HasConsumed.happens {approvalId : String} (consumed : server.HasConsumed approvalId)
    (happened : server.Happens action after) : after.HasConsumed approvalId := by
  obtain ⟨commit, told, isConsumption⟩ := consumed
  exact ⟨commit, happened.history told, isConsumption⟩

theorem LocksFit.consumes {id : Nat} {input : ConsumeConsentInput} {now lockedAt : Int}
    {rows : List ConsentRow} {outcome : ConsentOutcome} (fit : server.LocksFit)
    (holding : server.IsHolding id (.consume input) now lockedAt rows)
    (given : (ConsentJob.consume input).result now rows = .ok outcome) :
    ∃ row ∈ server.consents, rows = [row] ∧ row.approvalId = input.approvalId ∧
      ∃ answer, (row.consume input now).1 = .ok answer ∧
        outcome = .consumed answer.1 answer.2 := by
  obtain ⟨row, rest, answer, isRows, consumed, isOutcome⟩ := ConsentJob.result_consume given
  rcases fit.single _ _ _ _ _ input.approvalId holding rfl with none | ⟨only, isOnly, isTarget⟩
  · rw [none] at isRows
    cases isRows
  · rw [isOnly] at isRows
    cases isRows
    have isRow := fit.current _ _ _ _ _ holding row (by rw [isOnly]; simp)
    exact ⟨row, isRow, isOnly, isTarget, answer, consumed, isOutcome⟩

theorem HasConsumed.of_finish {id : Nat} {input : ConsumeConsentInput} {now lockedAt : Int}
    {rows : List ConsentRow} {outcome : ConsentOutcome}
    (given : (ConsentJob.consume input).result now rows = .ok outcome) :
    (server.finish id (.consume input) now lockedAt rows).HasConsumed input.approvalId := by
  refine ⟨⟨id, .consume input, now, lockedAt, outcome⟩, ?_, input, rfl, rfl⟩
  rw [history_finish given]
  exact List.mem_append_right _ (List.mem_singleton.mpr rfl)

theorem HasCancelled.of_happens {id : Nat} {input : CancelConsentsInput}
    {raising : Option ConsentError} (happened : server.Happens action after)
    (cancelled : after.HasCancelled id input raising) :
    server.HasCancelled id input raising ∨ after.HasReturned id (.cancel input raising) := by
  obtain ⟨commit, told, isId, isJob⟩ := cancelled
  cases happened with
  | quiet keeps locks holding => exact .inl ⟨commit, keeps.history ▸ told, isId, isJob⟩
  | drops ended keeps locks holding => exact .inl ⟨commit, keeps.history ▸ told, isId, isJob⟩
  | inserts other input approvalId accepted now begun valid inserted history locks others own =>
    rw [history] at told
    rcases List.mem_append.mp told with earlier | new
    · exact .inl ⟨commit, earlier, isId, isJob⟩
    · rw [List.mem_singleton.mp new] at isJob
      cases isJob
  | locks other job now begun free => exact .inl ⟨commit, told, isId, isJob⟩
  | commits other job now lockedAt rows outcome holding given =>
    rw [history_finish given] at told
    rcases List.mem_append.mp told with earlier | new
    · exact .inl ⟨commit, earlier, isId, isJob⟩
    · rw [List.mem_singleton.mp new] at isId isJob
      cases isId
      cases isJob
      exact .inr (hasReturned_finish given)

theorem IsTold.happens (told : server.IsTold) (happened : server.Happens action after) :
    after.IsTold where
  fit := told.fit.happens happened
  consumed := by
    intro row member isConsumed
    have earlier : ∀ old ∈ server.consents, old.approvalId = row.approvalId →
        old.consumedAt.isSome = true → after.HasConsumed row.approvalId := by
      intro old isOld same wasConsumed
      rw [← same]
      exact (told.consumed old isOld wasConsumed).happens happened
    cases happened with
    | quiet keeps locks holding => exact earlier row (keeps.consents ▸ member) rfl isConsumed
    | drops ended keeps locks holding =>
      exact earlier row (keeps.consents ▸ member) rfl isConsumed
    | inserts id input approvalId accepted now begun valid inserted history locks others own =>
      rcases (Table.mem_insert inserted).mp member with old | rfl
      · exact earlier row old rfl isConsumed
      · cases isConsumed
    | locks id job now begun free => exact earlier row member rfl isConsumed
    | commits id job now lockedAt rows outcome holding given =>
      obtain ⟨old, isOld, rfl⟩ := (told.fit.mem_finish holding given).mp member
      by_cases selected : old ∈ rows
      · rw [if_pos selected] at isConsumed earlier ⊢
        by_cases isConsumption : ∃ input, job = .consume input
        · obtain ⟨input, rfl⟩ := isConsumption
          obtain ⟨only, -, rfl, isTarget, -⟩ := told.fit.consumes holding given
          cases List.mem_singleton.mp selected
          rw [ConsentJob.leaves_approvalId, isTarget]
          exact .of_finish given
        · have unchanged : (job.leaves now old).consumedAt = old.consumedAt :=
            ConsentJob.leaves_consumedAt fun input isJob => isConsumption ⟨input, isJob⟩
          exact earlier old isOld (job.leaves_approvalId now old).symm (unchanged ▸ isConsumed)
      · rw [if_neg selected] at isConsumed earlier ⊢
        exact earlier old isOld rfl isConsumed
  ended := by
    intro id input raising cancelled
    rcases cancelled.of_happens happened with earlier | returned
    · exact happened.returned (told.ended id input raising earlier)
    · exact returned

theorem IsTold.start (clock : Int) : (ConsentServer.start clock).IsTold where
  fit := LocksFit.start clock
  consumed := by
    intro row member
    cases member
  ended := by
    rintro id input raising ⟨commit, told, -⟩
    cases told

/-! ## A cancellation under way -/

/-- The consent is there, and the cancellation with this call matches it. Once the call holds its
locks the consent is closed or among them, and once it has come through the consent is closed. -/
structure IsCovered (id : Nat) (input : CancelConsentsInput) (raising : Option ConsentError)
    (approvalId : String) (server : ConsentServer) : Prop where
  told : server.IsTold
  present : ∃ row ∈ server.consents, row.approvalId = approvalId
  selected : ∀ row ∈ server.consents, row.approvalId = approvalId →
    input.selector.selects row = true
  held : ∀ now lockedAt rows, server.IsHolding id (.cancel input raising) now lockedAt rows →
    ∀ row ∈ server.consents, row.approvalId = approvalId → row.isOpen = true → row ∈ rows
  closed : server.HasCancelled id input raising →
    ∀ row ∈ server.consents, row.approvalId = approvalId → row.isOpen = false

theorem mem_selects_cancel {id : Nat} {input : CancelConsentsInput}
    {raising : Option ConsentError} {now : Int}
    (begun : server.tasks.get? id = some (.active (.cancel input raising) (.begun now)))
    (all : server.SelectsAll (.advance id)) {row : ConsentRow} (member : row ∈ server.consents)
    (wanted : cancelWants input row = true) :
    row ∈ server.selects (.cancel input raising) now := by
  obtain ⟨free, fits⟩ := all input (by simp [selection?, begun])
  have chosen : row ∈ server.consents.select fun row =>
      cancelWants input row && !server.isLocked row :=
    Table.mem_select.mpr ⟨member, by simp [wanted, free row member wanted]⟩
  have fewer : (server.consents.select fun row =>
      cancelWants input row && !server.isLocked row).length ≤ maxCancelBatch := by
    refine le_trans ?_ fits
    apply List.Sublist.length_le
    apply List.monotone_filter_right
    intro row both
    exact (Bool.and_eq_true_iff.mp both).1
  change row ∈ List.take _ _
  rw [List.take_of_length_le (by rw [List.length_insertionSort]; exact fewer)]
  exact (List.mem_insertionSort _).mpr chosen

theorem Happens.rows (told : server.LocksFit) (happened : server.Happens action after)
    {approvalId : String} (present : ∃ row ∈ server.consents, row.approvalId = approvalId)
    {row : ConsentRow} (member : row ∈ after.consents) (isIt : row.approvalId = approvalId) :
    ∃ old ∈ server.consents, old.approvalId = approvalId ∧
      (row = old ∨ ∃ id job now lockedAt rows, server.IsHolding id job now lockedAt rows ∧
        old ∈ rows ∧ row = job.leaves now old) := by
  cases happened with
  | quiet keeps locks holding => exact ⟨row, keeps.consents ▸ member, isIt, .inl rfl⟩
  | drops ended keeps locks holding => exact ⟨row, keeps.consents ▸ member, isIt, .inl rfl⟩
  | inserts id input drawn accepted now begun valid inserted history locks others own =>
    rcases (Table.mem_insert inserted).mp member with old | rfl
    · exact ⟨row, old, isIt, .inl rfl⟩
    · obtain ⟨old, isOld, same⟩ := present
      exact absurd (same.trans isIt.symm) ((Table.insert_eq_some inserted).2 old isOld)
  | locks id job now begun free => exact ⟨row, member, isIt, .inl rfl⟩
  | commits id job now lockedAt rows outcome holding given =>
    obtain ⟨old, isOld, rfl⟩ := (told.mem_finish holding given).mp member
    split at isIt
    · next listed =>
        rw [if_pos listed]
        exact ⟨old, isOld, (job.leaves_approvalId now old) ▸ isIt,
          .inr ⟨id, job, now, lockedAt, rows, holding, listed, rfl⟩⟩
    · next listed =>
        rw [if_neg listed]
        exact ⟨old, isOld, isIt, .inl rfl⟩

theorem Happens.present (told : server.LocksFit) (happened : server.Happens action after)
    {approvalId : String} (present : ∃ row ∈ server.consents, row.approvalId = approvalId) :
    ∃ row ∈ after.consents, row.approvalId = approvalId := by
  obtain ⟨row, member, isIt⟩ := present
  cases happened with
  | quiet keeps locks holding => exact ⟨row, keeps.consents ▸ member, isIt⟩
  | drops ended keeps locks holding => exact ⟨row, keeps.consents ▸ member, isIt⟩
  | inserts id input drawn accepted now begun valid inserted history locks others own =>
    exact ⟨row, (Table.mem_insert inserted).mpr (.inl member), isIt⟩
  | locks id job now begun free => exact ⟨row, member, isIt⟩
  | commits id job now lockedAt rows outcome holding given =>
    refine ⟨_, (told.mem_finish holding given).mpr ⟨row, member, rfl⟩, ?_⟩
    split
    · exact (job.leaves_approvalId now row).trans isIt
    · exact isIt

section
variable {id : Nat} {input : CancelConsentsInput} {raising : Option ConsentError}
  {approvalId : String}

theorem Happens.closed (told : server.LocksFit) (happened : server.Happens action after)
    (present : ∃ row ∈ server.consents, row.approvalId = approvalId)
    (closed : ∀ row ∈ server.consents, row.approvalId = approvalId → row.isOpen = false) :
    ∀ row ∈ after.consents, row.approvalId = approvalId → row.isOpen = false := by
  intro row member isIt
  obtain ⟨old, isOld, wasIt, rfl | ⟨other, job, now, lockedAt, rows, -, -, rfl⟩⟩ :=
    happened.rows told present member isIt
  · exact closed row isOld wasIt
  · exact ConsentJob.leaves_isOpen (closed old isOld wasIt)

private theorem IsCovered.held_happens (covered : server.IsCovered id input raising approvalId)
    (happened : server.Happens action after) (all : server.SelectsAll action)
    {now lockedAt : Int} {rows : List ConsentRow}
    (holds : after.IsHolding id (.cancel input raising) now lockedAt rows) {row : ConsentRow}
    (member : row ∈ after.consents) (isIt : row.approvalId = approvalId)
    (isOpen : row.isOpen = true) : row ∈ rows := by
  have fit := covered.told.fit
  cases happened with
  | quiet keeps locks holding =>
    exact covered.held _ _ _ ((holding _ _ _ _ _).mp holds) row (keeps.consents ▸ member) isIt
      isOpen
  | drops ended keeps locks holding =>
    exact covered.held _ _ _ ((holding _ _ _ _ _).mp holds).1 row (keeps.consents ▸ member) isIt
      isOpen
  | inserts other wanted drawn accepted began begun valid inserted history locks others own =>
    have isOther : id ≠ other := by
      intro same
      subst same
      obtain ⟨job, stage, isTask, notHolding⟩ := own
      rw [IsHolding, isTask] at holds
      cases Option.some.inj holds
      exact notHolding _ _ _ rfl
    rw [IsHolding, others id isOther] at holds
    rcases (Table.mem_insert inserted).mp member with old | rfl
    · exact covered.held _ _ _ holds row old isIt isOpen
    · obtain ⟨old, isOld, same⟩ := covered.present
      exact absurd (same.trans isIt.symm) ((Table.insert_eq_some inserted).2 old isOld)
  | locks other job began begun free =>
    rw [IsHolding, lockRows, tasks_setTask] at holds
    split at holds
    · next same =>
        subst same
        cases Option.some.inj holds
        exact mem_selects_cancel begun all member
          (by simp [cancelWants, covered.selected row member isIt, isOpen])
    · exact covered.held _ _ _ holds row member isIt isOpen
  | commits other job began takenAt taken outcome holding given =>
    simp only [finish, given, IsHolding, tasks_setTask] at holds
    split at holds
    · cases Option.some.inj holds
    · next different =>
        obtain ⟨old, isOld, rfl⟩ := (fit.mem_finish holding given).mp member
        have free : ∀ row ∈ rows, row ∉ taken := by
          intro row listed alsoTaken
          exact different (fit.tracks.exclusive
            ⟨_, _, _, _, holding, List.mem_map_of_mem alsoTaken⟩
            ⟨_, _, _, _, holds, List.mem_map_of_mem listed⟩)
        by_cases listed : old ∈ taken
        · rw [if_pos listed] at isIt isOpen
          have wasOpen : old.isOpen = true := by
            by_contra wasClosed
            rw [ConsentJob.leaves_isOpen (by simpa using wasClosed)] at isOpen
            cases isOpen
          have selected := covered.held _ _ _ holds old isOld
            ((job.leaves_approvalId began old) ▸ isIt) wasOpen
          exact absurd listed (free old selected)
        · rw [if_neg listed] at isIt isOpen ⊢
          exact covered.held _ _ _ holds old isOld isIt isOpen

private theorem IsCovered.closed_happens (covered : server.IsCovered id input raising approvalId)
    (happened : server.Happens action after)
    (cancelled : after.HasCancelled id input raising) :
    ∀ row ∈ after.consents, row.approvalId = approvalId → row.isOpen = false := by
  have fit := covered.told.fit
  have stays : server.HasCancelled id input raising →
      ∀ row ∈ after.consents, row.approvalId = approvalId → row.isOpen = false :=
    fun earlier => happened.closed fit covered.present (covered.closed earlier)
  obtain ⟨commit, told, isId, isJob⟩ := cancelled
  cases happened with
  | quiet keeps locks holding => exact stays ⟨commit, keeps.history ▸ told, isId, isJob⟩
  | drops ended keeps locks holding => exact stays ⟨commit, keeps.history ▸ told, isId, isJob⟩
  | inserts other wanted drawn accepted now begun valid inserted history locks others own =>
    rw [history] at told
    rcases List.mem_append.mp told with earlier | new
    · exact stays ⟨commit, earlier, isId, isJob⟩
    · rw [List.mem_singleton.mp new] at isJob
      cases isJob
  | locks other job now begun free => exact stays ⟨commit, told, isId, isJob⟩
  | commits other job now lockedAt rows outcome holding given =>
    rw [history_finish given] at told
    rcases List.mem_append.mp told with earlier | new
    · exact stays ⟨commit, earlier, isId, isJob⟩
    · rw [List.mem_singleton.mp new] at isId isJob
      cases isId
      cases isJob
      intro row member isIt
      obtain ⟨old, isOld, rfl⟩ := (fit.mem_finish holding given).mp member
      by_cases listed : old ∈ rows
      · rw [if_pos listed]
        exact ConsentJob.leaves_cancel_isOpen input raising now old
      · rw [if_neg listed] at isIt ⊢
        by_contra isOpen
        exact listed (covered.held _ _ _ holding old isOld isIt (by simpa using isOpen))

theorem IsCovered.step (covered : server.IsCovered id input raising approvalId)
    (all : server.SelectsAll action) :
    (server.step action).IsCovered id input raising approvalId := by
  have happened := server.step_happens action
  have fit := covered.told.fit
  refine ⟨covered.told.happens happened, happened.present fit covered.present, ?_, ?_, ?_⟩
  · intro row member isIt
    obtain ⟨old, isOld, wasIt, rfl | ⟨other, job, now, lockedAt, rows, -, -, rfl⟩⟩ :=
      happened.rows fit covered.present member isIt
    · exact covered.selected row isOld wasIt
    · rw [ConsentJob.selects_leaves]
      exact covered.selected old isOld wasIt
  · intro now lockedAt rows holds row member isIt isOpen
    exact covered.held_happens happened all holds member isIt isOpen
  · exact covered.closed_happens happened

/-- The consent is closed and was never consumed. -/
structure IsShut (approvalId : String) (server : ConsentServer) : Prop where
  told : server.IsTold
  present : ∃ row ∈ server.consents, row.approvalId = approvalId
  closed : ∀ row ∈ server.consents, row.approvalId = approvalId → row.isOpen = false
  unconsumed : ¬server.HasConsumed approvalId

theorem IsShut.step (shut : server.IsShut approvalId) (action : ConsentAction) :
    (server.step action).IsShut approvalId := by
  have happened := server.step_happens action
  have fit := shut.told.fit
  refine ⟨shut.told.happens happened, happened.present fit shut.present,
    happened.closed fit shut.present shut.closed, ?_⟩
  rintro ⟨commit, told, wanted, isJob, isTarget⟩
  have earlier : commit ∉ server.history := by
    intro old
    exact shut.unconsumed ⟨commit, old, wanted, isJob, isTarget⟩
  generalize server.step action = after at happened told
  cases happened with
  | quiet keeps locks holding => exact earlier (keeps.history ▸ told)
  | drops ended keeps locks holding => exact earlier (keeps.history ▸ told)
  | inserts other asked drawn accepted now begun valid inserted history locks others own =>
    rw [history] at told
    rcases List.mem_append.mp told with old | new
    · exact earlier old
    · rw [List.mem_singleton.mp new] at isJob
      cases isJob
  | locks other job now begun free => exact earlier told
  | commits other job now lockedAt rows outcome holding given =>
    rw [history_finish given] at told
    rcases List.mem_append.mp told with old | new
    · exact earlier old
    · rw [List.mem_singleton.mp new] at isJob
      cases isJob
      obtain ⟨row, isRow, -, isIt, answer, consumed, -⟩ := fit.consumes holding given
      rcases ConsentRow.consume_ok consumed with isOpen | isConsumed
      · rw [shut.closed row isRow (isIt.trans isTarget)] at isOpen
        cases isOpen
      · exact shut.unconsumed ((isIt.trans isTarget) ▸ shut.told.consumed row isRow isConsumed)

end

end

end ConsentServer

/-- Where every cancellation finds what it wants unlocked and within its batch, a consent that was
cancelled before it was consumed opens no session any more. -/
theorem ConsentServer.cancelled_consents_stay_closed (clock : Int) (actions : List ConsentAction)
    (all : Meets step SelectsAll (start clock) actions) : CancelsForGood clock actions := by
  rintro before between after rfl created returned later id input raising row member selected
    uncalled cancelled unconsumed
  obtain ⟨allBetween, -⟩ := meets_append.mp all
  obtain ⟨-, allBetween⟩ := meets_append.mp allBetween
  have toldCreated : created.IsTold :=
    @run_invariant _ _ step (fun _ _ => True) IsTold
      (fun server action _ told => told.happens (server.step_happens action)) _ _
      (IsTold.start clock) (meets_of_forall (fun _ _ => trivial) _ _)
  have unreturned : ¬created.HasCancelled id input raising := by
    intro already
    obtain ⟨outcome, isReturned⟩ := toldCreated.ended id input raising already
    exact uncalled _ isReturned
  have coveredCreated : created.IsCovered id input raising row.approvalId := by
    refine ⟨toldCreated, ⟨row, member, rfl⟩, ?_, ?_, ?_⟩
    · intro other isOther same
      rw [Table.eq_of_key isOther member same]
      exact selected
    · intro now lockedAt rows holds
      exact absurd holds (uncalled _)
    · intro already
      exact absurd already unreturned
  have coveredReturned : returned.IsCovered id input raising row.approvalId :=
    @run_invariant _ _ step SelectsAll (IsCovered id input raising row.approvalId)
      (fun _ _ all covered => covered.step all) _ _ coveredCreated allBetween
  have shutReturned : returned.IsShut row.approvalId :=
    ⟨coveredReturned.told, coveredReturned.present, coveredReturned.closed cancelled, unconsumed⟩
  have shutLater : later.IsShut row.approvalId :=
    @run_invariant _ _ step (fun _ _ => True) (IsShut row.approvalId)
      (fun _ action _ shut => shut.step action) _ _ shutReturned
      (meets_of_forall (fun _ _ => trivial) _ _)
  exact shutLater.unconsumed

/-! ## Two runs -/

/-- An attended consent of a link, for a view that ends at `60001`. -/
def plainRequest : RequestConsentInput where
  hostId := "host-of-the-desk"
  actorAuditId := "audit-of-the-link"
  browserKeyHash := "0123456789abcdef0123456789abcdef0123456789abcdef0123456789abcdef"
  executionServerId := "server-of-the-desk"
  endpointGeneration := 3
  daemonGeneration := 3
  mode := .view
  requesterLabel := "Remote guest"
  deadlineAt := 60001

def plainApproval : NodeResultEnvelope where
  executionServerId := "server-of-the-desk"
  daemonGeneration := 3
  message := .obj [("type", .str "remote_desktop.consent.result"),
    ("approvalId", .str "approval-0000001"), ("decision", .str "approved"),
    ("daemonGeneration", .num 3)]

def plainConsumption : ConsumeConsentInput where
  approvalId := "approval-0000001"
  hostId := "host-of-the-desk"
  actorAuditId := "audit-of-the-link"
  browserKeyHash := "0123456789abcdef0123456789abcdef0123456789abcdef0123456789abcdef"
  executionServerId := "server-of-the-desk"
  endpointGeneration := 3
  daemonGeneration := 3
  mode := .view
  sessionId := "session-00000001"

def linkRevoked : CancelConsentsInput where
  selector := .actorAuditId "audit-of-the-link"
  reason := .linkRevoked
  trigger := .linkRevoke
  dispatches := true

def requestRun : List ConsentAction :=
  [.call 0 (.request plainRequest "approval-0000001" true), .advance 0, .advance 0, .advance 0]

def wholeCall (id : Nat) (call : ConsentCall) : List ConsentAction :=
  [.call id call, .advance id, .advance id, .advance id]

/-- The node approves, the link is revoked, and the guest comes too late. -/
theorem ConsentServer.revoked_link_stays_closed :
    CancelsForGood 1 (requestRun ++ (wholeCall 1 (.record plainApproval) ++
      wholeCall 2 (.cancel linkRevoked) ++ wholeCall 3 (.consume plainConsumption))) :=
  cancelled_consents_stay_closed 1 _ (by decide +kernel)

/-- The approval of the node is about to be committed when the link is revoked. The revocation
skips its row, and the session opens. -/
theorem ConsentServer.revoked_link_opens_session :
    ¬∀ clock actions, CancelsForGood clock actions := by
  intro holds
  let between := [.call 1 (.record plainApproval), .advance 1, .advance 1] ++
    wholeCall 2 (.cancel linkRevoked)
  let after := .advance 1 :: wholeCall 3 (.consume plainConsumption)
  let created := run step (start 1) requestRun
  have uncalled : created.tasks.get? 2 = none := by decide +kernel
  have cancelled : ∃ commit ∈ (run step created between).history,
      commit.id = 2 ∧ commit.job = .cancel linkRevoked none := by decide +kernel
  have unconsumed : ∀ commit ∈ (run step created between).history,
      (commit.job matches .consume _) = false := by decide +kernel
  have consumed : ∃ commit ∈ (run step (run step created between) after).history,
      commit.job = .consume plainConsumption := by decide +kernel
  obtain ⟨commit, told, isJob⟩ := consumed
  refine holds 1 _ requestRun between after rfl 2 linkRevoked none
    (ConsentRow.requested plainRequest "approval-0000001" 1) (by decide +kernel)
    (by decide +kernel) ?_ cancelled ?_ ⟨commit, told, plainConsumption, isJob, rfl⟩
  · intro stage atStage
    rw [uncalled] at atStage
    cases atStage
  · rintro ⟨earlier, isTold, input, isConsumption, -⟩
    have other := unconsumed earlier isTold
    rw [isConsumption] at other
    cases other

end ImCodes.Remote
