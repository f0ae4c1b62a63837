import ImCodes.Remote.ConsentServer

/-!
# What a step does to the consents

A step of the server leaves rows and locks alone, inserts a row, locks rows for a call, or ends
a transaction. The rows an open transaction has locked are as it selected them.
-/

set_option autoImplicit false

namespace ImCodes.Remote

open Library

namespace ConsentServer

def IsHolding (server : ConsentServer) (id : Nat) (job : ConsentJob) (now lockedAt : Int)
    (rows : List ConsentRow) : Prop :=
  server.tasks.get? id = some (.active job (.holding now lockedAt rows))

def HasReturned (server : ConsentServer) (id : Nat) (job : ConsentJob) : Prop :=
  ∃ outcome, server.tasks.get? id = some (.active job (.returned outcome))

/-- Nothing is written, and a call that has returned stays so. -/
structure Keeps (server after : ConsentServer) : Prop where
  consents : after.consents = server.consents
  history : after.history = server.history
  returned : ∀ id job, server.HasReturned id job → after.HasReturned id job

/-- What a step can do. -/
inductive Happens (server : ConsentServer) : ConsentAction → ConsentServer → Prop
  | quiet {action : ConsentAction} {after : ConsentServer} (keeps : server.Keeps after)
      (locks : after.locks = server.locks)
      (holding : ∀ id job now lockedAt rows, after.IsHolding id job now lockedAt rows ↔
        server.IsHolding id job now lockedAt rows) :
      Happens server action after
  | drops {action : ConsentAction} {after : ConsentServer} (ended : Nat)
      (keeps : server.Keeps after) (locks : after.locks = server.locks.release ended)
      (holding : ∀ id job now lockedAt rows, after.IsHolding id job now lockedAt rows ↔
        server.IsHolding id job now lockedAt rows ∧ id ≠ ended) :
      Happens server action after
  | inserts {after : ConsentServer} (id : Nat) (input : RequestConsentInput) (approvalId : String)
      (accepted : Bool) (now : Int)
      (begun : server.tasks.get? id =
        some (.active (.request input approvalId accepted) (.begun now)))
      (valid : input.isValid now = true)
      (inserted : server.consents.insert (ConsentRow.requested input approvalId now) =
        some after.consents)
      (history : after.history = server.history ++ [⟨id, .request input approvalId accepted, now,
        server.clock, .requested (ConsentRow.requested input approvalId now).toConsent⟩])
      (locks : after.locks = server.locks)
      (others : ∀ other, other ≠ id → after.tasks.get? other = server.tasks.get? other)
      (own : ∃ job stage, after.tasks.get? id = some (.active job stage) ∧
        ∀ now lockedAt rows, stage ≠ .holding now lockedAt rows) :
      Happens server (.advance id) after
  | locks (id : Nat) (job : ConsentJob) (now : Int)
      (begun : server.tasks.get? id = some (.active job (.begun now)))
      (free : server.waits job = false) :
      Happens server (.advance id) (server.lockRows id job now (server.selects job now))
  | commits (id : Nat) (job : ConsentJob) (now lockedAt : Int) (rows : List ConsentRow)
      (outcome : ConsentOutcome) (holding : server.IsHolding id job now lockedAt rows)
      (given : job.result now rows = .ok outcome) :
      Happens server (.advance id) (server.finish id job now lockedAt rows)

section
variable {server : ConsentServer} {id : Nat} {job : ConsentJob} {stage : ConsentStage}

@[simp] theorem tasks_setTask (server : ConsentServer) (id other : Nat) (job : ConsentJob)
    (stage : ConsentStage) :
    (server.setTask id job stage).tasks.get? other =
      if id = other then some (.active job stage) else server.tasks.get? other :=
  Dictionary.get?_put

@[simp] theorem consents_setTask (server : ConsentServer) (id : Nat) (job : ConsentJob)
    (stage : ConsentStage) : (server.setTask id job stage).consents = server.consents := rfl

@[simp] theorem history_setTask (server : ConsentServer) (id : Nat) (job : ConsentJob)
    (stage : ConsentStage) : (server.setTask id job stage).history = server.history := rfl

@[simp] theorem locks_setTask (server : ConsentServer) (id : Nat) (job : ConsentJob)
    (stage : ConsentStage) : (server.setTask id job stage).locks = server.locks := rfl

@[simp] theorem clock_setTask (server : ConsentServer) (id : Nat) (job : ConsentJob)
    (stage : ConsentStage) : (server.setTask id job stage).clock = server.clock := rfl

end

private theorem keeps_setTask {server : ConsentServer} {id : Nat} {job : ConsentJob}
    {stage : ConsentStage} {task : ConsentTask} (found : server.tasks.get? id = some task)
    (waiting : ∀ job outcome, task ≠ .active job (.returned outcome)) :
    server.Keeps (server.setTask id job stage) where
  consents := rfl
  history := rfl
  returned other otherJob returned := by
    obtain ⟨outcome, isReturned⟩ := returned
    have isOther : id ≠ other := by
      intro same
      subst same
      rw [found] at isReturned
      exact waiting _ _ (Option.some.inj isReturned)
    exact ⟨outcome, by rw [tasks_setTask, if_neg isOther, isReturned]⟩

private theorem quiet_setTask {server : ConsentServer} {action : ConsentAction} {id : Nat}
    {job : ConsentJob} {stage : ConsentStage} {task : ConsentTask}
    (found : server.tasks.get? id = some task)
    (waiting : ∀ job outcome, task ≠ .active job (.returned outcome))
    (unlocked : ∀ job now lockedAt rows, task ≠ .active job (.holding now lockedAt rows))
    (stays : ∀ now lockedAt rows, stage ≠ .holding now lockedAt rows) :
    Happens server action (server.setTask id job stage) := by
  refine .quiet (keeps_setTask found waiting) rfl ?_
  intro other otherJob now lockedAt rows
  unfold IsHolding
  rw [tasks_setTask]
  split
  · next same =>
      subst same
      rw [found]
      constructor
      · intro holds
        cases Option.some.inj holds
        exact False.elim (stays now lockedAt rows rfl)
      · intro holds
        exact False.elim (unlocked _ _ _ _ (Option.some.inj holds))
  · exact Iff.rfl

private theorem drops_setTask {server : ConsentServer} {action : ConsentAction} {id : Nat}
    {job : ConsentJob} {task : ConsentTask} {outcome : ConsentOutcome}
    (found : server.tasks.get? id = some task)
    (waiting : ∀ job outcome, task ≠ .active job (.returned outcome)) :
    Happens server action
      (setTask { server with locks := server.locks.release id } id job (.returned outcome)) := by
  have keeps := @keeps_setTask server id job (.returned outcome) task found waiting
  refine .drops id ⟨rfl, rfl, keeps.returned⟩ rfl ?_
  intro other otherJob now lockedAt rows
  unfold IsHolding
  rw [tasks_setTask]
  split
  · next same =>
      subst same
      simp
  · next different =>
      constructor
      · intro holds
        exact ⟨holds, fun same => different same.symm⟩
      · exact And.left

theorem call_happens (server : ConsentServer) (id : Nat) (call : ConsentCall) :
    Happens server (.call id call) (server.call id call) := by
  have same : Happens server (.call id call) server :=
    .quiet ⟨rfl, rfl, fun _ _ returned => returned⟩ rfl fun _ _ _ _ _ => Iff.rfl
  have fresh : ∀ task : ConsentTask, server.tasks.get? id = none →
      (∀ job now lockedAt rows, task ≠ .active job (.holding now lockedAt rows)) →
      Happens server (.call id call) { server with tasks := server.tasks.put id task } := by
    intro task absent unlocked
    refine .quiet ⟨rfl, rfl, ?_⟩ rfl ?_
    · intro other job ⟨outcome, isReturned⟩
      have isOther : id ≠ other := by
        intro same
        rw [← same, absent] at isReturned
        cases isReturned
      exact ⟨outcome, by rw [Dictionary.get?_put, if_neg isOther, isReturned]⟩
    · intro other job now lockedAt rows
      unfold IsHolding
      rw [Dictionary.get?_put]
      split
      · next same =>
          subst same
          rw [absent]
          constructor
          · intro holds
            exact False.elim (unlocked _ _ _ _ (Option.some.inj holds))
          · intro holds
            cases holds
      · exact Iff.rfl
  unfold ConsentServer.call
  cases found : server.tasks.get? id with
  | some task => exact same
  | none =>
    cases call.start with
    | error outcome => exact fresh _ found (by simp)
    | ok job => exact fresh _ found (by simp)

theorem insertConsent_happens {server : ConsentServer} {id : Nat} {input : RequestConsentInput}
    {approvalId : String} {accepted : Bool} {now : Int}
    (begun : server.tasks.get? id =
      some (.active (.request input approvalId accepted) (.begun now))) :
    Happens server (.advance id) (server.insertConsent id input approvalId accepted now) := by
  have refuses : ∀ error, Happens server (.advance id)
      (server.setTask id (.request input approvalId accepted) (.returned (.threw error))) :=
    fun error => quiet_setTask begun (by simp) (by simp) (by simp)
  unfold insertConsent
  by_cases invalid : input.isValid now = false ∨ isRemoteDesktopId approvalId = false
  · rw [if_pos invalid]
    exact refuses _
  · rw [if_neg invalid]
    have valid : input.isValid now = true := by
      simpa using (not_or.mp invalid).1
    dsimp only
    cases inserted : server.consents.insert (ConsentRow.requested input approvalId now) with
    | none => exact refuses _
    | some consents =>
      split_ifs with unsendable isAccepted
      all_goals
        refine .inserts id input approvalId accepted now begun valid inserted rfl rfl ?_
          ⟨_, _, by rw [tasks_setTask, if_pos rfl], by simp⟩
        intro other isOther
        rw [tasks_setTask, if_neg (Ne.symm isOther)]

theorem advance_happens (server : ConsentServer) (id : Nat) :
    Happens server (.advance id) (server.advance id) := by
  have same : Happens server (.advance id) server :=
    .quiet ⟨rfl, rfl, fun _ _ returned => returned⟩ rfl fun _ _ _ _ _ => Iff.rfl
  unfold ConsentServer.advance
  cases found : server.tasks.get? id with
  | none => exact same
  | some task =>
    cases task with
    | refused outcome => exact same
    | active job stage =>
      cases stage with
      | called =>
        simp only [begin]
        split
        · exact quiet_setTask found (by simp) (by simp) (by simp)
        · exact quiet_setTask found (by simp) (by simp) (by simp)
      | begun now =>
        have moves : Happens server (.advance id)
            (if server.waits job then server
              else server.lockRows id job now (server.selects job now)) := by
          split
          · exact same
          · next free => exact .locks id job now found (by simpa using free)
        cases job with
        | request input approvalId accepted => exact insertConsent_happens found
        | record input message => exact moves
        | cancel input raising => exact moves
        | sweep dispatches limit => exact moves
        | consume input => exact moves
      | dispatched =>
        simp only [report]
        split
        · split
          · exact quiet_setTask found (by simp) (by simp) (by simp)
          · exact quiet_setTask found (by simp) (by simp) (by simp)
        · exact same
      | holding now lockedAt rows =>
        cases given : job.result now rows with
        | error error =>
          have rolledBack : server.finish id job now lockedAt rows =
              { server with locks := server.locks.release id }.setTask id job
                (.returned (.threw error)) := by
            simp only [finish, given]
          simp only [rolledBack]
          exact drops_setTask found (by simp)
        | ok outcome => exact .commits id job now lockedAt rows outcome found given
      | returned outcome => exact same

theorem lose_happens (server : ConsentServer) (id : Nat) :
    Happens server (.lose id) (server.lose id) := by
  have same : Happens server (.lose id) server :=
    .quiet ⟨rfl, rfl, fun _ _ returned => returned⟩ rfl fun _ _ _ _ _ => Iff.rfl
  unfold ConsentServer.lose
  cases found : server.tasks.get? id with
  | none => exact same
  | some task =>
    cases task with
    | refused outcome => exact same
    | active job stage =>
      cases stage with
      | returned outcome => exact same
      | called => exact drops_setTask found (by simp)
      | begun now => exact drops_setTask found (by simp)
      | dispatched => exact drops_setTask found (by simp)
      | holding now lockedAt rows => exact drops_setTask found (by simp)

theorem step_happens (server : ConsentServer) (action : ConsentAction) :
    Happens server action (server.step action) := by
  cases action with
  | tick elapsed => exact .quiet ⟨rfl, rfl, fun _ _ returned => returned⟩ rfl fun _ _ _ _ _ => Iff.rfl
  | call id call => exact call_happens server id call
  | advance id => exact advance_happens server id
  | lose id => exact lose_happens server id

theorem Happens.returned {server after : ConsentServer} {action : ConsentAction}
    (happened : server.Happens action after) {id : Nat} {job : ConsentJob}
    (returned : server.HasReturned id job) : after.HasReturned id job := by
  obtain ⟨outcome, isReturned⟩ := returned
  have stays : ∀ other, (∃ task, server.tasks.get? other = some task ∧
      ∀ job outcome, task ≠ .active job (.returned outcome)) → id ≠ other := by
    intro other ⟨task, found, waiting⟩ same
    subst same
    exact waiting _ _ (Option.some.inj (found.symm.trans isReturned))
  cases happened with
  | quiet keeps locks holding => exact keeps.returned _ _ ⟨outcome, isReturned⟩
  | drops ended keeps locks holding => exact keeps.returned _ _ ⟨outcome, isReturned⟩
  | inserts other input approvalId accepted now begun valid inserted history locks others own =>
    have isOther := stays other ⟨_, begun, by simp⟩
    exact ⟨outcome, (others id isOther).trans isReturned⟩
  | locks other job now begun free =>
    have isOther := stays other ⟨_, begun, by simp⟩
    refine ⟨outcome, ?_⟩
    rw [lockRows, tasks_setTask, if_neg (Ne.symm isOther)]
    exact isReturned
  | commits other job now lockedAt rows outcome' holding given =>
    have isOther := stays other ⟨_, holding, by simp⟩
    refine ⟨outcome, ?_⟩
    simp only [finish, given, tasks_setTask, if_neg (Ne.symm isOther)]
    exact isReturned

theorem hasReturned_finish {server : ConsentServer} {id : Nat} {job : ConsentJob}
    {now lockedAt : Int} {rows : List ConsentRow} {outcome : ConsentOutcome}
    (given : job.result now rows = .ok outcome) :
    (server.finish id job now lockedAt rows).HasReturned id job :=
  ⟨job.answers outcome, by simp only [finish, given, tasks_setTask, if_pos]⟩

theorem history_finish {server : ConsentServer} {id : Nat} {job : ConsentJob}
    {now lockedAt : Int} {rows : List ConsentRow} {outcome : ConsentOutcome}
    (given : job.result now rows = .ok outcome) :
    (server.finish id job now lockedAt rows).history =
      server.history ++ [⟨id, job, now, lockedAt, outcome⟩] := by
  simp only [finish, given, history_setTask]

/-! ## Locked rows -/

/-- A row is locked by the call that selected it, which has it before it as it is. -/
structure LocksFit (server : ConsentServer) : Prop where
  tracks : server.locks.Tracks fun id approvalId => ∃ job now lockedAt rows,
    server.IsHolding id job now lockedAt rows ∧ approvalId ∈ rows.map ConsentRow.approvalId
  current : ∀ id job now lockedAt rows, server.IsHolding id job now lockedAt rows →
    ∀ row ∈ rows, row ∈ server.consents
  single : ∀ id job now lockedAt rows target, server.IsHolding id job now lockedAt rows →
    job.target = some target → rows = [] ∨ ∃ row, rows = [row] ∧ row.approvalId = target

section
variable {server : ConsentServer} {id : Nat} {job : ConsentJob} {now lockedAt : Int}
  {rows : List ConsentRow}

theorem IsHolding.same {otherJob : ConsentJob} {otherNow otherAt : Int}
    {otherRows : List ConsentRow} (holding : server.IsHolding id job now lockedAt rows)
    (also : server.IsHolding id otherJob otherNow otherAt otherRows) :
    otherJob = job ∧ otherNow = now ∧ otherAt = lockedAt ∧ otherRows = rows := by
  have same := Option.some.inj (also.symm.trans holding)
  simpa using same

theorem selects_target {target : String} (single : job.target = some target) :
    server.selects job now = (server.consents.lookup target).toList := by
  cases job <;> cases single <;> rfl

theorem mem_freeRows {wanted : ConsentRow → Bool} {order : ConsentRow → ConsentRow → Prop}
    [DecidableRel order] {limit : Nat} {row : ConsentRow}
    (member : row ∈ server.freeRows wanted order limit) :
    row ∈ server.consents ∧ wanted row = true ∧ server.locks row.approvalId = none := by
  have sorted := (List.mem_insertionSort _).mp (List.mem_of_mem_take member)
  obtain ⟨isRow, chosen⟩ := Table.mem_select.mp sorted
  simp only [isLocked, Bool.and_eq_true, Bool.not_eq_true', Option.isSome_eq_false_iff,
    Option.isNone_iff_eq_none] at chosen
  exact ⟨isRow, chosen⟩

theorem mem_selects (free : server.waits job = false) {row : ConsentRow}
    (member : row ∈ server.selects job now) :
    row ∈ server.consents ∧ server.locks row.approvalId = none := by
  have one : ∀ target, (server.locks target).isSome = false →
      row ∈ (server.consents.lookup target).toList →
      row ∈ server.consents ∧ server.locks row.approvalId = none := by
    intro target unlocked found
    obtain ⟨isRow, isTarget⟩ := Table.lookup_eq_some_iff.mp (Option.mem_toList.mp found)
    refine ⟨isRow, ?_⟩
    change row.approvalId = target at isTarget
    rw [isTarget]
    simpa using unlocked
  cases job with
  | request input approvalId accepted => cases member
  | record input message => exact one _ free member
  | cancel input raising => exact ⟨(mem_freeRows member).1, (mem_freeRows member).2.2⟩
  | sweep dispatches limit => exact ⟨(mem_freeRows member).1, (mem_freeRows member).2.2⟩
  | consume input => exact one _ free member

namespace LocksFit

theorem isHeldBy_iff (fit : server.LocksFit) (holding : server.IsHolding id job now lockedAt rows)
    {row : ConsentRow} (member : row ∈ server.consents) :
    server.isHeldBy id row = true ↔ row ∈ rows := by
  unfold isHeldBy
  rw [decide_eq_true_iff, fit.tracks id row.approvalId]
  constructor
  · rintro ⟨otherJob, otherNow, otherAt, otherRows, also, listed⟩
    obtain ⟨-, -, -, rfl⟩ := holding.same also
    obtain ⟨selected, isSelected, sameKey⟩ := List.mem_map.mp listed
    have isRow := fit.current id _ _ _ _ also selected isSelected
    rw [← Table.eq_of_key isRow member sameKey]
    exact isSelected
  · intro isSelected
    exact ⟨job, now, lockedAt, rows, holding, List.mem_map_of_mem isSelected⟩

theorem mem_finish (fit : server.LocksFit) (holding : server.IsHolding id job now lockedAt rows)
    {outcome : ConsentOutcome} (given : job.result now rows = .ok outcome) {row : ConsentRow} :
    row ∈ (server.finish id job now lockedAt rows).consents ↔
      ∃ old ∈ server.consents, (if old ∈ rows then job.leaves now old else old) = row := by
  simp only [finish, given, consents_setTask, Table.mem_updateWhere]
  constructor
  · rintro ⟨old, member, rfl⟩
    refine ⟨old, member, ?_⟩
    simp only [fit.isHeldBy_iff holding member]
  · rintro ⟨old, member, rfl⟩
    refine ⟨old, member, ?_⟩
    simp only [fit.isHeldBy_iff holding member]

theorem start (clock : Int) : (ConsentServer.start clock).LocksFit where
  tracks := by
    intro id approvalId
    simp [ConsentServer.start, RowLocks.none, IsHolding]
  current := by
    intro id job now lockedAt rows holding
    cases holding
  single := by
    intro id job now lockedAt rows target holding
    cases holding

theorem happens {action : ConsentAction} {after : ConsentServer} (fit : server.LocksFit)
    (happened : server.Happens action after) : after.LocksFit := by
  cases happened with
  | quiet keeps locks holding =>
    constructor
    · rw [locks]
      exact fit.tracks.congr fun id approvalId => by simp only [holding]
    · intro id job now lockedAt rows holds
      rw [keeps.consents]
      exact fit.current id job now lockedAt rows ((holding _ _ _ _ _).mp holds)
    · intro id job now lockedAt rows target holds
      exact fit.single id job now lockedAt rows target ((holding _ _ _ _ _).mp holds)
  | drops ended keeps locks holding =>
    constructor
    · rw [locks]
      refine fit.tracks.release.congr fun id approvalId => ?_
      simp only [holding]
      constructor
      · rintro ⟨job, now, lockedAt, rows, ⟨holds, isOther⟩, listed⟩
        exact ⟨⟨job, now, lockedAt, rows, holds, listed⟩, isOther⟩
      · rintro ⟨⟨job, now, lockedAt, rows, holds, listed⟩, isOther⟩
        exact ⟨job, now, lockedAt, rows, ⟨holds, isOther⟩, listed⟩
    · intro id job now lockedAt rows holds
      rw [keeps.consents]
      exact fit.current id job now lockedAt rows ((holding _ _ _ _ _).mp holds).1
    · intro id job now lockedAt rows target holds
      exact fit.single id job now lockedAt rows target ((holding _ _ _ _ _).mp holds).1
  | inserts id input approvalId accepted now begun valid inserted history locks others own =>
    have holding : ∀ other job now lockedAt rows,
        after.IsHolding other job now lockedAt rows ↔
          server.IsHolding other job now lockedAt rows := by
      intro other job now lockedAt rows
      by_cases isOwn : other = id
      · subst isOwn
        obtain ⟨ownJob, stage, isTask, notHolding⟩ := own
        unfold IsHolding
        rw [isTask, begun]
        constructor
        · intro holds
          cases Option.some.inj holds
          exact False.elim (notHolding now lockedAt rows rfl)
        · intro holds
          cases holds
      · unfold IsHolding
        rw [others other isOwn]
    constructor
    · rw [locks]
      exact fit.tracks.congr fun id approvalId => by simp only [holding]
    · intro other job now lockedAt rows holds row member
      exact (Table.mem_insert inserted).mpr
        (.inl (fit.current other job now lockedAt rows ((holding _ _ _ _ _).mp holds) row member))
    · intro other job now lockedAt rows target holds
      exact fit.single other job now lockedAt rows target ((holding _ _ _ _ _).mp holds)
  | locks id job now begun free =>
    have holding : ∀ other otherJob otherNow otherAt otherRows,
        (server.lockRows id job now (server.selects job now)).IsHolding other otherJob otherNow
          otherAt otherRows ↔
        server.IsHolding other otherJob otherNow otherAt otherRows ∨
          (other = id ∧ otherJob = job ∧ otherNow = now ∧ otherAt = server.clock ∧
            otherRows = server.selects job now) := by
      intro other otherJob otherNow otherAt otherRows
      unfold IsHolding lockRows
      rw [tasks_setTask]
      split
      · next same =>
          subst same
          simp [begun, eq_comm]
      · next different =>
          simp [Ne.symm different]
    constructor
    · refine (fit.tracks.acquire ?_).congr ?_
      · intro approvalId listed
        obtain ⟨row, member, rfl⟩ := List.mem_map.mp listed
        exact (mem_selects free member).2
      · intro other approvalId
        simp only [holding]
        constructor
        · rintro ⟨otherJob, otherNow, otherAt, otherRows, holds | ⟨rfl, rfl, rfl, rfl, rfl⟩, listed⟩
          · exact .inl ⟨otherJob, otherNow, otherAt, otherRows, holds, listed⟩
          · exact .inr ⟨rfl, listed⟩
        · rintro (⟨otherJob, otherNow, otherAt, otherRows, holds, listed⟩ | ⟨rfl, listed⟩)
          · exact ⟨otherJob, otherNow, otherAt, otherRows, .inl holds, listed⟩
          · exact ⟨job, now, server.clock, _, .inr ⟨rfl, rfl, rfl, rfl, rfl⟩, listed⟩
    · intro other otherJob otherNow otherAt otherRows holds row member
      rcases (holding _ _ _ _ _).mp holds with held | ⟨-, -, -, -, rfl⟩
      · exact fit.current _ _ _ _ _ held row member
      · exact (mem_selects free member).1
    · intro other otherJob otherNow otherAt otherRows target holds isTarget
      rcases (holding _ _ _ _ _).mp holds with held | ⟨-, rfl, rfl, -, rfl⟩
      · exact fit.single _ _ _ _ _ target held isTarget
      · rw [selects_target isTarget]
        cases found : server.consents.lookup target with
        | none => exact .inl rfl
        | some row => exact .inr ⟨row, rfl, (Table.lookup_eq_some_iff.mp found).2⟩
  | commits id job now lockedAt rows outcome holds given =>
    have holding : ∀ other otherJob otherNow otherAt otherRows,
        (server.finish id job now lockedAt rows).IsHolding other otherJob otherNow otherAt
          otherRows ↔
        server.IsHolding other otherJob otherNow otherAt otherRows ∧ other ≠ id := by
      intro other otherJob otherNow otherAt otherRows
      simp only [finish, given, IsHolding, tasks_setTask]
      split
      · next same =>
          subst same
          simp
      · next different => simp [Ne.symm different]
    constructor
    · have released : (server.finish id job now lockedAt rows).locks =
          server.locks.release id := by
        simp only [finish, given, locks_setTask]
      rw [released]
      refine fit.tracks.release.congr fun other approvalId => ?_
      simp only [holding]
      constructor
      · rintro ⟨otherJob, otherNow, otherAt, otherRows, ⟨held, isOther⟩, listed⟩
        exact ⟨⟨otherJob, otherNow, otherAt, otherRows, held, listed⟩, isOther⟩
      · rintro ⟨⟨otherJob, otherNow, otherAt, otherRows, held, listed⟩, isOther⟩
        exact ⟨otherJob, otherNow, otherAt, otherRows, ⟨held, isOther⟩, listed⟩
    · -- What another call has locked is not among the rows this one writes.
      intro other otherJob otherNow otherAt otherRows also row member
      obtain ⟨held, isOther⟩ := (holding _ _ _ _ _).mp also
      have isRow := fit.current _ _ _ _ _ held row member
      have untouched : row ∉ rows := by
        intro selected
        exact isOther (fit.tracks.exclusive
          ⟨otherJob, otherNow, otherAt, otherRows, held, List.mem_map_of_mem member⟩
          ⟨job, now, lockedAt, rows, holds, List.mem_map_of_mem selected⟩)
      exact (fit.mem_finish holds given).mpr ⟨row, isRow, if_neg untouched⟩
    · intro other otherJob otherNow otherAt otherRows target also
      exact fit.single _ _ _ _ _ target ((holding _ _ _ _ _).mp also).1

theorem step (fit : server.LocksFit) (action : ConsentAction) : (server.step action).LocksFit :=
  fit.happens (server.step_happens action)

end LocksFit

end

end ConsentServer

end ImCodes.Remote
