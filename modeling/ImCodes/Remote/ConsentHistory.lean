import ImCodes.Remote.CancelledConsents

/-!
# What a consent authorizes

A consumption is a session the node was asked for and said yes to once. The row keeps what was
asked, the answer is taken once, and the first consumption writes the session for good. The
deadline is held against the clock as it was before the wait for the row.
-/

set_option autoImplicit false

namespace ImCodes.Remote

open Library

def ConsentCommit.approves (approvalId : String) (commit : ConsentCommit) : Bool :=
  match commit.job, commit.outcome with
  | .record _ (.result answered .approved _), .recorded true => answered = approvalId
  | _, _ => false

/-- The consumption is of what was requested. -/
structure RequestConsentInput.IsFor (wanted : RequestConsentInput) (input : ConsumeConsentInput) :
    Prop where
  host : wanted.hostId = input.hostId
  actor : wanted.actorAuditId = input.actorAuditId
  browserKey : wanted.browserKeyHash = input.browserKeyHash
  server : wanted.executionServerId = input.executionServerId
  endpoint : wanted.endpointGeneration = input.endpointGeneration
  daemon : wanted.daemonGeneration = input.daemonGeneration
  mode : wanted.mode = input.mode

/-- A consumption other than a resumption comes after the request it is for and before the
deadline of it, with one approval of the node before it, from the daemon it was sent to. -/
def IsAuthorized (earlier : List ConsentCommit) (commit : ConsentCommit) : Prop :=
  ∀ input consent, commit.job = .consume input → commit.outcome = .consumed consent false →
    ∃ request ∈ earlier, ∃ wanted accepted,
      request.job = .request wanted input.approvalId accepted ∧ wanted.IsFor input ∧
      commit.lockedAt < wanted.deadlineAt ∧
      earlier.countP (ConsentCommit.approves input.approvalId) = 1 ∧
      ∀ approval ∈ earlier, approval.approves input.approvalId = true →
        ∃ envelope, approval.job =
            .record envelope (.result input.approvalId .approved wanted.daemonGeneration) ∧
          envelope.executionServerId = wanted.executionServerId ∧
          envelope.daemonGeneration = wanted.daemonGeneration

namespace ConsentServer

/-- What the run promises of its consents. -/
structure AuthorizesOneSession (clock : Int) (actions : List ConsentAction) : Prop where
  authorized : AtEach IsAuthorized (run step (start clock) actions).history
  oneSession : ∀ first ∈ (run step (start clock) actions).history,
    ∀ second ∈ (run step (start clock) actions).history, ∀ input other,
      first.job = .consume input → second.job = .consume other →
      input.approvalId = other.approvalId → input.sessionId = other.sessionId
  settled : ∀ before between after, actions = before ++ between ++ after →
    ∀ row ∈ (run step (start clock) before).consents,
      row.state ≠ .pending → row.state ≠ .approved →
      ∃ later ∈ (run step (start clock) (before ++ between)).consents,
        later.approvalId = row.approvalId ∧ later.state = row.state

/-- The consumption that is granted its row with this step, with the clock it has read. -/
def grant? (server : ConsentServer) : ConsentAction → Option (ConsumeConsentInput × Int)
  | .advance id =>
    match server.tasks.get? id with
    | some (.active (.consume input) (.begun now)) =>
      if server.waits (.consume input) then none else some (input, now)
    | _ => none
  | _ => none

/-- No consumption that began before the deadline of an approved consent waits for the row until
the deadline is over. -/
def GrantsInTime (server : ConsentServer) (action : ConsentAction) : Prop :=
  ∀ grant ∈ server.grant? action, ∀ row ∈ server.consents.rows,
    row.approvalId = grant.1.approvalId → row.hasExactBinding grant.1 = true →
    row.state = .approved → row.consumedAt = none → grant.2 < row.deadlineAt →
    server.clock < row.deadlineAt

instance (server : ConsentServer) (action : ConsentAction) :
    Decidable (server.GrantsInTime action) :=
  inferInstanceAs (Decidable (∀ grant ∈ server.grant? action, ∀ row ∈ server.consents.rows, _))

end ConsentServer

/-! ## What a row keeps -/

namespace ConsentRow

/-- What the row says of the request, which no transaction changes. -/
structure IsRequestOf (row : ConsentRow) (wanted : RequestConsentInput) : Prop where
  host : row.hostId = wanted.hostId
  actor : row.actorAuditId = wanted.actorAuditId
  browserKey : row.browserKeyHash = wanted.browserKeyHash
  server : row.executionServerId = wanted.executionServerId
  endpoint : row.endpointGeneration = wanted.endpointGeneration
  daemon : row.daemonGeneration = wanted.daemonGeneration
  mode : row.accessMode = wanted.mode
  deadline : row.deadlineAt = wanted.deadlineAt

/-- What one transaction leaves as it was. -/
structure Keeps (row after : ConsentRow) : Prop where
  requested : ∀ wanted, row.IsRequestOf wanted → after.IsRequestOf wanted
  settled : row.state ≠ .pending → row.state ≠ .approved → after.state = row.state
  consumed : row.consumedAt.isSome = true →
    after.consumedAt.isSome = true ∧ after.consumedSessionId = row.consumedSessionId

theorem Keeps.refl (row : ConsentRow) : row.Keeps row :=
  ⟨fun _ => id, fun _ _ => rfl, fun consumed => ⟨consumed, rfl⟩⟩

def answer (row : ConsentRow) : Option ConsentDecision × Option Int :=
  (row.nodeDecision, row.nodeResolvedAt)

end ConsentRow

namespace ConsentJob

variable {job : ConsentJob} {now : Int} {row : ConsentRow}

theorem keeps_leaves (job : ConsentJob) (now : Int) (row : ConsentRow) :
    row.Keeps (job.leaves now row) := by
  have closes : ∀ after : ConsentRow, (∀ wanted, row.IsRequestOf wanted → after.IsRequestOf wanted) →
      row.isOpen = true → row.Keeps after := by
    intro after requested isOpen
    simp only [ConsentRow.isOpen, Bool.and_eq_true, Bool.or_eq_true, decide_eq_true_eq,
      Option.isNone_iff_eq_none] at isOpen
    refine ⟨requested, ?_, ?_⟩
    · intro notPending notApproved
      rcases isOpen.1 with pending | approved
      · exact absurd pending notPending
      · exact absurd approved notApproved
    · intro consumed
      rw [isOpen.2] at consumed
      cases consumed
  cases job with
  | request input approvalId accepted => exact .refl row
  | record input message =>
    simp only [leaves, ConsentRow.recordNodeMessage]
    split_ifs with unfit late
    · exact .refl row
    · have pending : row.state = .pending := by simpa using (not_or.mp unfit).1
      exact ⟨fun wanted same => ⟨same.1, same.2, same.3, same.4, same.5, same.6, same.7, same.8⟩,
        fun notPending => absurd pending notPending, fun consumed => ⟨consumed, rfl⟩⟩
    · have pending : row.state = .pending := by simpa using (not_or.mp unfit).1
      cases message with
      | result approvalId decision daemonGeneration =>
        dsimp only
        split
        · exact .refl row
        · exact ⟨fun wanted same =>
              ⟨same.1, same.2, same.3, same.4, same.5, same.6, same.7, same.8⟩,
            fun notPending => absurd pending notPending, fun consumed => ⟨consumed, rfl⟩⟩
      | cancel approvalId reason =>
        exact ⟨fun wanted same =>
            ⟨same.1, same.2, same.3, same.4, same.5, same.6, same.7, same.8⟩,
          fun notPending => absurd pending notPending, fun consumed => ⟨consumed, rfl⟩⟩
  | cancel input raising =>
    simp only [leaves]
    split
    · next isOpen =>
        exact closes _ (fun wanted same =>
          ⟨same.1, same.2, same.3, same.4, same.5, same.6, same.7, same.8⟩) isOpen
    · exact .refl row
  | sweep dispatches limit =>
    simp only [leaves]
    split
    · next isOpen =>
        exact closes _ (fun wanted same =>
          ⟨same.1, same.2, same.3, same.4, same.5, same.6, same.7, same.8⟩) isOpen
    · exact .refl row
  | consume input =>
    simp only [leaves, ConsentRow.consume]
    split_ifs with unbound taken same unapproved late
    · exact .refl row
    · exact .refl row
    · exact .refl row
    · exact .refl row
    all_goals
      have approved : row.state = .approved := by simpa using (not_or.mp unapproved).1
      exact ⟨fun wanted same =>
          ⟨same.1, same.2, same.3, same.4, same.5, same.6, same.7, same.8⟩,
        fun _ notApproved => absurd approved notApproved, fun consumed => absurd consumed taken⟩

theorem leaves_answer (other : ∀ input message, job ≠ .record input message) :
    (job.leaves now row).answer = row.answer := by
  cases job with
  | request input approvalId accepted => rfl
  | record input message => exact absurd rfl (other input message)
  | cancel input raising =>
    simp only [leaves]
    split <;> rfl
  | sweep dispatches limit =>
    simp only [leaves]
    split <;> rfl
  | consume input =>
    simp only [leaves, ConsentRow.consume]
    split_ifs <;> rfl

end ConsentJob

namespace ConsentRow

variable {row : ConsentRow} {input : NodeResultEnvelope} {message : NodeConsentMessage} {now : Int}

theorem recordNodeMessage_rejected (rejected : (row.recordNodeMessage input message now).1 = false) :
    (row.recordNodeMessage input message now).2.answer = row.answer := by
  unfold recordNodeMessage at rejected ⊢
  cases message with
  | result approvalId decision daemonGeneration =>
    dsimp only at rejected ⊢
    split_ifs at rejected ⊢ <;> rfl
  | cancel approvalId reason =>
    dsimp only at rejected ⊢
    split_ifs at rejected ⊢ <;> rfl

/-- An accepted message is the first one, and comes from the daemon that was asked. -/
structure Takes (row : ConsentRow) (input : NodeResultEnvelope) (message : NodeConsentMessage)
    (after : ConsentRow) : Prop where
  unresolved : row.nodeResolvedAt = none
  server : input.executionServerId = row.executionServerId
  daemon : input.daemonGeneration = row.daemonGeneration
  resolved : after.nodeResolvedAt.isSome = true
  result : ∀ approvalId decision daemonGeneration,
    message = .result approvalId decision daemonGeneration →
      daemonGeneration = row.daemonGeneration ∧ after.nodeDecision = some decision
  cancel : ∀ approvalId reason, message = .cancel approvalId reason →
    after.nodeDecision = row.nodeDecision

theorem recordNodeMessage_accepted (accepted : (row.recordNodeMessage input message now).1 = true) :
    row.Takes input message (row.recordNodeMessage input message now).2 := by
  unfold recordNodeMessage at accepted ⊢
  split_ifs at accepted ⊢ with unfit late
  simp only [not_or, Decidable.not_not, Bool.not_eq_true, Option.isSome_eq_false_iff,
    Option.isNone_iff_eq_none] at unfit
  obtain ⟨-, unresolved, server, daemon⟩ := unfit
  cases message with
  | result approvalId decision daemonGeneration =>
    dsimp only at accepted ⊢
    split_ifs at accepted ⊢ with stale
    have current : daemonGeneration = input.daemonGeneration := by simpa using stale
    refine ⟨unresolved, server.symm, daemon.symm, rfl, ?_, ?_⟩
    · intro _ _ _ same
      cases same
      exact ⟨current.trans daemon.symm, rfl⟩
    · intro _ _ same
      cases same
  | cancel approvalId reason =>
    refine ⟨unresolved, server.symm, daemon.symm, rfl, ?_, ?_⟩
    · intro _ _ _ same
      cases same
    · intro _ _ same
      rfl

theorem consume_session {input : ConsumeConsentInput} {answer : AttendedConsent × Bool}
    (given : (row.consume input now).1 = .ok answer) :
    (row.consume input now).2.consumedAt.isSome = true ∧
      (row.consume input now).2.consumedSessionId = some input.sessionId := by
  unfold consume at given ⊢
  split_ifs at given ⊢ with unbound taken same unapproved late
  · exact ⟨taken, same.2⟩
  · exact ⟨rfl, rfl⟩

/-- What the first consumption finds. -/
structure IsReady (row : ConsentRow) (input : ConsumeConsentInput) (now : Int) : Prop where
  bound : row.hasExactBinding input = true
  approved : row.state = .approved
  decided : row.nodeDecision = some .approved
  unconsumed : row.consumedAt = none
  early : now < row.deadlineAt

theorem consume_fresh {input : ConsumeConsentInput} {consent : AttendedConsent}
    (given : (row.consume input now).1 = .ok (consent, false)) : row.IsReady input now := by
  unfold consume at given
  split_ifs at given with unbound taken same unapproved late
  · cases given
  · simp only [not_or, Decidable.not_not] at unapproved
    exact ⟨by simpa using unbound, unapproved.1, unapproved.2, by simpa using taken, by omega⟩

end ConsentRow

/-! ## What the history says of a row -/

/-- The row is what was asked for, with the answer and the session of the history. -/
structure ConsentRow.IsRecordedIn (row : ConsentRow) (history : List ConsentCommit) : Prop where
  requested : ∃ request ∈ history, ∃ wanted accepted,
    request.job = .request wanted row.approvalId accepted ∧ row.IsRequestOf wanted
  undecided : row.nodeResolvedAt = none → row.nodeDecision = none
  approvals : history.countP (ConsentCommit.approves row.approvalId) =
    if row.nodeDecision = some .approved then 1 else 0
  sources : ∀ approval ∈ history, approval.approves row.approvalId = true →
    ∃ envelope, approval.job =
        .record envelope (.result row.approvalId .approved row.daemonGeneration) ∧
      envelope.executionServerId = row.executionServerId ∧
      envelope.daemonGeneration = row.daemonGeneration
  sessions : ∀ commit ∈ history, ∀ input, commit.job = .consume input →
    input.approvalId = row.approvalId →
    row.consumedAt.isSome = true ∧ row.consumedSessionId = some input.sessionId

/-- How one more commit bears on a row. -/
structure ConsentRow.Follows (row after : ConsentRow) (commit : ConsentCommit) : Prop where
  key : after.approvalId = row.approvalId
  keeps : row.Keeps after
  silent : commit.approves row.approvalId = false →
    (after.nodeDecision = some .approved ↔ row.nodeDecision = some .approved) ∧
      (after.nodeResolvedAt = none → after.nodeDecision = none)
  approved : commit.approves row.approvalId = true →
    row.nodeDecision = none ∧ after.nodeDecision = some .approved ∧
      after.nodeResolvedAt.isSome = true ∧
      ∃ envelope, commit.job =
          .record envelope (.result row.approvalId .approved row.daemonGeneration) ∧
        envelope.executionServerId = row.executionServerId ∧
        envelope.daemonGeneration = row.daemonGeneration
  consumed : ∀ input, commit.job = .consume input → input.approvalId = row.approvalId →
    after.consumedAt.isSome = true ∧ after.consumedSessionId = some input.sessionId

theorem ConsentRow.IsRecordedIn.follow {row after : ConsentRow} {history : List ConsentCommit}
    {commit : ConsentCommit} (recorded : row.IsRecordedIn history)
    (follows : row.Follows after commit) : after.IsRecordedIn (history ++ [commit]) := by
  obtain ⟨request, isRequest, wanted, accepted, isJob, same⟩ := recorded.requested
  have still := follows.keeps.requested wanted same
  have sameServer : after.executionServerId = row.executionServerId :=
    still.server.trans same.server.symm
  have sameDaemon : after.daemonGeneration = row.daemonGeneration :=
    still.daemon.trans same.daemon.symm
  constructor
  · refine ⟨request, List.mem_append_left _ isRequest, wanted, accepted, ?_, still⟩
    rw [follows.key]
    exact isJob
  · cases approves : commit.approves row.approvalId with
    | false => exact (follows.silent approves).2
    | true =>
      intro unresolved
      have resolved := (follows.approved approves).2.2.1
      rw [unresolved] at resolved
      cases resolved
  · rw [follows.key, List.countP_append, recorded.approvals, List.countP_singleton]
    cases approves : commit.approves row.approvalId with
    | false =>
      rw [if_neg Bool.false_ne_true, Nat.add_zero]
      exact if_congr (follows.silent approves).1.symm rfl rfl
    | true =>
      obtain ⟨undecided, isApproved, -⟩ := follows.approved approves
      simp [undecided, isApproved]
  · intro approval member approves
    rw [follows.key] at approves ⊢
    rw [sameServer, sameDaemon]
    rcases List.mem_append.mp member with earlier | new
    · exact recorded.sources approval earlier approves
    · rw [List.mem_singleton.mp new] at approves ⊢
      exact (follows.approved approves).2.2.2
  · intro made member input isConsumption isTarget
    rw [follows.key] at isTarget
    rcases List.mem_append.mp member with earlier | new
    · obtain ⟨isConsumed, session⟩ := recorded.sessions made earlier input isConsumption isTarget
      obtain ⟨still, sameSession⟩ := follows.keeps.consumed isConsumed
      exact ⟨still, sameSession.trans session⟩
    · rw [List.mem_singleton.mp new] at isConsumption
      exact follows.consumed input isConsumption isTarget

theorem ConsentCommit.approves_eq_true {commit : ConsentCommit} {approvalId : String}
    (approves : commit.approves approvalId = true) :
    ∃ envelope daemonGeneration,
      commit.job = .record envelope (.result approvalId .approved daemonGeneration) ∧
        commit.outcome = .recorded true := by
  unfold ConsentCommit.approves at approves
  split at approves
  · next envelope answered daemonGeneration isJob isOutcome =>
      have same : answered = approvalId := by simpa using approves
      subst same
      exact ⟨envelope, daemonGeneration, isJob, isOutcome⟩
  · cases approves

private theorem silent_of_answer {row after : ConsentRow} (same : after.answer = row.answer)
    (undecided : row.nodeResolvedAt = none → row.nodeDecision = none) :
    (after.nodeDecision = some .approved ↔ row.nodeDecision = some .approved) ∧
      (after.nodeResolvedAt = none → after.nodeDecision = none) := by
  obtain ⟨decision, resolved⟩ := Prod.ext_iff.mp same
  change after.nodeDecision = row.nodeDecision at decision
  change after.nodeResolvedAt = row.nodeResolvedAt at resolved
  rw [decision, resolved]
  exact ⟨Iff.rfl, undecided⟩

namespace ConsentServer

section
variable {server after : ConsentServer} {action : ConsentAction} {id : Nat} {job : ConsentJob}
  {now lockedAt : Int} {rows : List ConsentRow} {outcome : ConsentOutcome} {old : ConsentRow}

theorem LocksFit.selected (fit : server.LocksFit)
    (holding : server.IsHolding id job now lockedAt rows) {row : ConsentRow}
    (isTarget : job.target = some old.approvalId) (member : old ∈ server.consents)
    (selected : row ∈ rows) : row = old := by
  have isRow := fit.current _ _ _ _ _ holding row selected
  rcases fit.single _ _ _ _ _ _ holding isTarget with none | ⟨only, rfl, sameKey⟩
  · rw [none] at selected
    cases selected
  · cases List.mem_singleton.mp selected
    exact Table.eq_of_key isRow member sameKey

private theorem follows_record {input : NodeResultEnvelope} {message : NodeConsentMessage}
    (fit : server.LocksFit) (holding : server.IsHolding id (.record input message) now lockedAt rows)
    (given : (ConsentJob.record input message).result now rows = .ok outcome)
    (member : old ∈ server.consents)
    (undecided : old.nodeResolvedAt = none → old.nodeDecision = none) :
    old.Follows (if old ∈ rows then (ConsentJob.record input message).leaves now old else old)
      ⟨id, .record input message, now, lockedAt, outcome⟩ := by
  have keeps := (ConsentJob.record input message).keeps_leaves now old
  have key := (ConsentJob.record input message).leaves_approvalId now old
  cases given
  by_cases selected : old ∈ rows
  · have isHead : rows = [old] := by
      rcases fit.single _ _ _ _ _ _ holding rfl with none | ⟨only, isOnly, -⟩
      · rw [none] at selected
        cases selected
      · rw [isOnly] at selected ⊢
        rw [List.mem_singleton.mp selected]
    have isTarget : old.approvalId = message.approvalId := by
      rcases fit.single _ _ _ _ _ _ holding rfl with none | ⟨only, isOnly, sameKey⟩
      · rw [none] at selected
        cases selected
      · rw [isOnly] at selected
        rw [List.mem_singleton.mp selected]
        exact sameKey
    rw [if_pos selected]
    have outcomeIs : rows.head?.any (fun row => (row.recordNodeMessage input message now).1) =
        (old.recordNodeMessage input message now).1 := by
      rw [isHead]
      rfl
    rw [outcomeIs]
    cases accepted : (old.recordNodeMessage input message now).1 with
    | false =>
      refine ⟨key, keeps, ?_, ?_, fun _ isJob => by cases isJob⟩
      · intro _
        exact silent_of_answer (ConsentRow.recordNodeMessage_rejected accepted) undecided
      · intro approves
        obtain ⟨_, _, -, isOutcome⟩ := ConsentCommit.approves_eq_true approves
        cases isOutcome
    | true =>
      have takes := ConsentRow.recordNodeMessage_accepted accepted
      refine ⟨key, keeps, ?_, ?_, fun _ isJob => by cases isJob⟩
      · intro silent
        refine ⟨?_, ?_⟩
        · rw [undecided takes.unresolved]
          cases message with
          | result approvalId decision daemonGeneration =>
            rw [show ((ConsentJob.record input _).leaves now old).nodeDecision = some decision
              from (takes.result _ _ _ rfl).2]
            cases decision with
            | denied => simp
            | approved =>
              have same : approvalId = old.approvalId := isTarget.symm
              simp [ConsentCommit.approves, same] at silent
          | cancel approvalId reason =>
            rw [show ((ConsentJob.record input _).leaves now old).nodeDecision =
              old.nodeDecision from takes.cancel _ _ rfl, undecided takes.unresolved]
        · intro unresolved
          have resolved := takes.resolved
          change ((ConsentJob.record input message).leaves now old).nodeResolvedAt.isSome = true
            at resolved
          rw [unresolved] at resolved
          cases resolved
      · intro approves
        obtain ⟨envelope, daemonGeneration, isJob, -⟩ := ConsentCommit.approves_eq_true approves
        cases isJob
        obtain ⟨isDaemon, decided⟩ := takes.result _ _ _ rfl
        refine ⟨undecided takes.unresolved, decided, takes.resolved, input, ?_, takes.server,
          takes.daemon⟩
        rw [isDaemon]
  · rw [if_neg selected]
    refine ⟨rfl, .refl old, fun _ => silent_of_answer rfl undecided, ?_,
      fun _ isJob => by cases isJob⟩
    intro approves
    obtain ⟨envelope, daemonGeneration, isJob, isOutcome⟩ :=
      ConsentCommit.approves_eq_true approves
    cases isJob
    cases rows with
    | nil => cases isOutcome
    | cons row rest =>
      have same : row = old := fit.selected holding rfl member (by simp)
      exact absurd (same ▸ List.mem_cons_self) selected

private theorem follows_consume {input : ConsumeConsentInput} (fit : server.LocksFit)
    (holding : server.IsHolding id (.consume input) now lockedAt rows)
    (given : (ConsentJob.consume input).result now rows = .ok outcome)
    (member : old ∈ server.consents)
    (undecided : old.nodeResolvedAt = none → old.nodeDecision = none) :
    old.Follows (if old ∈ rows then (ConsentJob.consume input).leaves now old else old)
      ⟨id, .consume input, now, lockedAt, outcome⟩ := by
  have noApproval : ∀ approvalId, ConsentCommit.approves approvalId
      ⟨id, .consume input, now, lockedAt, outcome⟩ = false := fun _ => rfl
  obtain ⟨only, isOnly, rfl, isTarget, answer, consumed, -⟩ := fit.consumes holding given
  by_cases selected : old ∈ [only]
  · rw [if_pos selected]
    cases List.mem_singleton.mp selected
    refine ⟨ConsentJob.leaves_approvalId _ now old, ConsentJob.keeps_leaves _ now old, ?_, ?_, ?_⟩
    · intro _
      exact silent_of_answer (ConsentJob.leaves_answer (by simp)) undecided
    · intro approves
      rw [noApproval] at approves
      cases approves
    · intro other isJob _
      cases isJob
      exact ConsentRow.consume_session consumed
  · rw [if_neg selected]
    refine ⟨rfl, .refl old, fun _ => silent_of_answer rfl undecided, ?_, ?_⟩
    · intro approves
      rw [noApproval] at approves
      cases approves
    · intro other isJob isOther
      cases isJob
      have same := Table.eq_of_key isOnly member (isTarget.trans isOther)
      exact absurd (List.mem_singleton.mpr same.symm) selected

theorem follows_finish (fit : server.LocksFit)
    (holding : server.IsHolding id job now lockedAt rows)
    (given : job.result now rows = .ok outcome) (member : old ∈ server.consents)
    (undecided : old.nodeResolvedAt = none → old.nodeDecision = none) :
    old.Follows (if old ∈ rows then job.leaves now old else old)
      ⟨id, job, now, lockedAt, outcome⟩ := by
  have others : (∀ input message, job ≠ .record input message) →
      (∀ input, job ≠ .consume input) →
      old.Follows (if old ∈ rows then job.leaves now old else old)
        ⟨id, job, now, lockedAt, outcome⟩ := by
    intro notRecord notConsume
    have sameAnswer : (if old ∈ rows then job.leaves now old else old).answer = old.answer := by
      split
      · exact ConsentJob.leaves_answer notRecord
      · rfl
    refine ⟨?_, ?_, fun _ => silent_of_answer sameAnswer undecided, ?_, ?_⟩
    · split
      · exact job.leaves_approvalId now old
      · rfl
    · split
      · exact job.keeps_leaves now old
      · exact .refl old
    · intro approves
      obtain ⟨envelope, daemonGeneration, isJob, -⟩ := ConsentCommit.approves_eq_true approves
      exact absurd isJob (notRecord _ _)
    · intro input isJob
      exact absurd isJob (notConsume input)
  cases job with
  | record input message => exact follows_record fit holding given member undecided
  | consume input => exact follows_consume fit holding given member undecided
  | request input approvalId accepted => exact others (by simp) (by simp)
  | cancel input raising => exact others (by simp) (by simp)
  | sweep dispatches limit => exact others (by simp) (by simp)

/-- The rows and the history of a server agree. -/
structure IsRecorded (server : ConsentServer) : Prop where
  fit : server.LocksFit
  recorded : ∀ row ∈ server.consents, row.IsRecordedIn server.history
  known : ∀ commit ∈ server.history, ∀ approvalId,
    (commit.approves approvalId = true ∨
      ∃ input, commit.job = .consume input ∧ input.approvalId = approvalId) →
    ∃ row ∈ server.consents, row.approvalId = approvalId
  inTime : ∀ id input now lockedAt rows, server.IsHolding id (.consume input) now lockedAt rows →
    ∀ row ∈ rows, row.IsReady input now → lockedAt < row.deadlineAt
  authorized : AtEach IsAuthorized server.history

theorem IsRecorded.start (clock : Int) : (ConsentServer.start clock).IsRecorded where
  fit := LocksFit.start clock
  recorded := by
    intro row member
    cases member
  known := by
    intro commit told
    cases told
  inTime := by
    intro id input now lockedAt rows holding
    cases holding
  authorized := atEach_nil

private theorem known_finish (fit : server.LocksFit)
    (holding : server.IsHolding id job now lockedAt rows)
    (given : job.result now rows = .ok outcome) {approvalId : String}
    (about : ConsentCommit.approves approvalId ⟨id, job, now, lockedAt, outcome⟩ = true ∨
      ∃ input, job = .consume input ∧ input.approvalId = approvalId) :
    ∃ row ∈ server.consents, row.approvalId = approvalId := by
  rcases about with approves | ⟨input, rfl, isTarget⟩
  · obtain ⟨envelope, daemonGeneration, isJob, isOutcome⟩ :=
      ConsentCommit.approves_eq_true approves
    cases isJob
    cases isOutcome
    rcases fit.single _ _ _ _ _ _ holding rfl with none | ⟨only, isOnly, isTarget⟩
    · rw [none] at given
      cases given
    · exact ⟨only, fit.current _ _ _ _ _ holding only (by simp [isOnly]), isTarget⟩
  · obtain ⟨only, isRow, -, isOnly, -⟩ := fit.consumes holding given
    exact ⟨only, isRow, isOnly.trans isTarget⟩

private theorem authorized_finish (recorded : server.IsRecorded)
    (holding : server.IsHolding id job now lockedAt rows)
    (given : job.result now rows = .ok outcome) :
    IsAuthorized server.history ⟨id, job, now, lockedAt, outcome⟩ := by
  intro input consent isJob isOutcome
  cases isJob
  cases isOutcome
  obtain ⟨row, isRow, isOnly, isTarget, ⟨answered, resumed⟩, consumed, sameOutcome⟩ :=
    recorded.fit.consumes holding given
  cases sameOutcome
  have ready := ConsentRow.consume_fresh consumed
  have told := recorded.recorded row isRow
  obtain ⟨request, isRequest, wanted, accepted, asks, same⟩ := told.requested
  have bound := ready.bound
  simp only [ConsentRow.hasExactBinding, Bool.and_eq_true, decide_eq_true_eq] at bound
  obtain ⟨⟨⟨⟨⟨⟨⟨host, -⟩, actor⟩, browserKey⟩, execution⟩, endpoint⟩, daemon⟩, mode⟩ := bound
  refine ⟨request, isRequest, wanted, accepted, by rw [← isTarget]; exact asks,
    ⟨same.host.symm.trans host, same.actor.symm.trans actor,
      same.browserKey.symm.trans browserKey, same.server.symm.trans execution,
      same.endpoint.symm.trans endpoint, same.daemon.symm.trans daemon,
      same.mode.symm.trans mode⟩, ?_, ?_, ?_⟩
  · have early := recorded.inTime id input now lockedAt rows holding row (by simp [isOnly]) ready
    rw [same.deadline] at early
    exact early
  · rw [← isTarget, told.approvals, if_pos ready.decided]
  · intro approval isApproval approves
    rw [← isTarget] at approves ⊢
    obtain ⟨envelope, isResult, isServer, isDaemon⟩ := told.sources approval isApproval approves
    rw [same.daemon] at isResult isDaemon
    rw [same.server] at isServer
    exact ⟨envelope, isResult, isServer, isDaemon⟩

theorem IsRecorded.happens (recorded : server.IsRecorded)
    (happened : server.Happens action after) (inTime : server.GrantsInTime action) :
    after.IsRecorded := by
  have fit := recorded.fit.happens happened
  cases happened with
  | quiet keeps locks holding =>
    refine ⟨fit, ?_, ?_, ?_, ?_⟩
    · rw [keeps.consents, keeps.history]
      exact recorded.recorded
    · rw [keeps.consents, keeps.history]
      exact recorded.known
    · intro id input now lockedAt rows holds
      exact recorded.inTime id input now lockedAt rows ((holding _ _ _ _ _).mp holds)
    · rw [keeps.history]
      exact recorded.authorized
  | drops ended keeps locks holding =>
    refine ⟨fit, ?_, ?_, ?_, ?_⟩
    · rw [keeps.consents, keeps.history]
      exact recorded.recorded
    · rw [keeps.consents, keeps.history]
      exact recorded.known
    · intro id input now lockedAt rows holds
      exact recorded.inTime id input now lockedAt rows ((holding _ _ _ _ _).mp holds).1
    · rw [keeps.history]
      exact recorded.authorized
  | inserts id input approvalId accepted now begun valid inserted history locks others own =>
    have stranger : ∀ commit ∈ server.history, ¬(commit.approves approvalId = true ∨
        ∃ input, commit.job = .consume input ∧ input.approvalId = approvalId) := by
      intro commit told about
      obtain ⟨old, isOld, same⟩ := recorded.known commit told approvalId about
      exact (Table.insert_eq_some inserted).2 old isOld same
    refine ⟨fit, ?_, ?_, ?_, ?_⟩
    · intro row member
      rw [history]
      rcases (Table.mem_insert inserted).mp member with isOld | rfl
      · refine (recorded.recorded row isOld).follow ⟨rfl, .refl row, ?_, ?_, ?_⟩
        · intro _
          exact silent_of_answer rfl (recorded.recorded row isOld).undecided
        · intro approves
          cases approves
        · intro other isJob
          cases isJob
      · refine ⟨⟨_, List.mem_append_right _ (List.mem_singleton.mpr rfl), input, accepted, rfl,
          ⟨rfl, rfl, rfl, rfl, rfl, rfl, rfl, rfl⟩⟩, fun _ => rfl, ?_, ?_, ?_⟩
        · rw [List.countP_append, List.countP_singleton]
          have none : server.history.countP (ConsentCommit.approves approvalId) = 0 := by
            apply List.countP_eq_zero.mpr
            intro commit told approves
            exact stranger commit told (.inl approves)
          change server.history.countP (ConsentCommit.approves approvalId) + _ = _
          rw [none]
          rfl
        · intro approval member approves
          rcases List.mem_append.mp member with earlier | new
          · exact absurd (.inl approves) (stranger approval earlier)
          · rw [List.mem_singleton.mp new] at approves
            cases approves
        · intro commit member other isJob isTarget
          rcases List.mem_append.mp member with earlier | new
          · exact absurd (.inr ⟨other, isJob, isTarget⟩) (stranger commit earlier)
          · rw [List.mem_singleton.mp new] at isJob
            cases isJob
    · intro commit member other about
      rw [history] at member
      rcases List.mem_append.mp member with earlier | new
      · obtain ⟨row, isRow, isTarget⟩ := recorded.known commit earlier other about
        exact ⟨row, (Table.mem_insert inserted).mpr (.inl isRow), isTarget⟩
      · rw [List.mem_singleton.mp new] at about
        rcases about with approves | ⟨other, isJob, -⟩
        · cases approves
        · cases isJob
    · intro other wanted otherNow lockedAt rows holds
      have isOther : other ≠ id := by
        intro same
        subst same
        obtain ⟨job, stage, isTask, notHolding⟩ := own
        rw [IsHolding, isTask] at holds
        cases Option.some.inj holds
        exact notHolding _ _ _ rfl
      rw [IsHolding, others other isOther] at holds
      exact recorded.inTime other wanted otherNow lockedAt rows holds
    · rw [history]
      refine atEach_concat.mpr ⟨recorded.authorized, ?_⟩
      intro other consent isJob
      cases isJob
  | locks id job now begun free =>
    refine ⟨fit, recorded.recorded, recorded.known, ?_, recorded.authorized⟩
    intro other input otherNow lockedAt rows holds row member ready
    rw [IsHolding, lockRows, tasks_setTask] at holds
    split at holds
    · cases Option.some.inj holds
      have selected : row ∈ (server.consents.lookup input.approvalId).toList := member
      obtain ⟨isRow, isTarget⟩ :=
        Table.lookup_eq_some_iff.mp (Option.mem_toList.mp selected)
      exact inTime (input, now) (by simp [grant?, begun, free]) row isRow isTarget ready.bound
        ready.approved ready.unconsumed ready.early
    · exact recorded.inTime other input otherNow lockedAt rows holds row member ready
  | commits id job now lockedAt rows outcome holding given =>
    refine ⟨fit, ?_, ?_, ?_, ?_⟩
    · intro row member
      obtain ⟨old, isOld, rfl⟩ := (recorded.fit.mem_finish holding given).mp member
      rw [history_finish given]
      exact (recorded.recorded old isOld).follow (follows_finish recorded.fit holding given isOld
        (recorded.recorded old isOld).undecided)
    · intro commit told approvalId about
      have present : ∃ row ∈ server.consents, row.approvalId = approvalId := by
        rw [history_finish given] at told
        rcases List.mem_append.mp told with earlier | new
        · exact recorded.known commit earlier approvalId about
        · rw [List.mem_singleton.mp new] at about
          exact known_finish recorded.fit holding given about
      exact Happens.present recorded.fit
        (.commits id job now lockedAt rows outcome holding given) present
    · intro other input otherNow otherAt otherRows holds row member ready
      simp only [finish, given, IsHolding, tasks_setTask] at holds
      split at holds
      · cases Option.some.inj holds
      · exact recorded.inTime other input otherNow otherAt otherRows holds row member ready
    · rw [history_finish given]
      exact atEach_concat.mpr
        ⟨recorded.authorized, authorized_finish recorded holding given⟩

theorem settled_run (fit : server.LocksFit) (actions : List ConsentAction) {row : ConsentRow}
    (member : row ∈ server.consents) (notPending : row.state ≠ .pending)
    (notApproved : row.state ≠ .approved) :
    ∃ later ∈ (run step server actions).consents,
      later.approvalId = row.approvalId ∧ later.state = row.state := by
  induction actions generalizing server row with
  | nil => exact ⟨row, member, rfl, rfl⟩
  | cons action rest ih =>
    have happened := server.step_happens action
    obtain ⟨next, isNext, isIt⟩ := happened.present fit ⟨row, member, rfl⟩
    have sameState : next.state = row.state := by
      obtain ⟨old, isOld, same, rfl | ⟨id, job, now, lockedAt, rows, -, -, rfl⟩⟩ :=
        happened.rows fit ⟨row, member, rfl⟩ isNext isIt
      · rw [Table.eq_of_key isOld member same]
      · cases Table.eq_of_key isOld member same
        exact (job.keeps_leaves now row).settled notPending notApproved
    obtain ⟨later, isLater, key, state⟩ := ih (fit.step action) isNext
      (sameState ▸ notPending) (sameState ▸ notApproved)
    exact ⟨later, isLater, key.trans isIt, state.trans sameState⟩

end

end ConsentServer

/-- Where no consumption waits for its row from before the deadline until after it, a consent
authorizes one session with what was approved, and what is settled stays so. -/
theorem ConsentServer.consents_authorize_one_session (clock : Int) (actions : List ConsentAction)
    (inTime : Meets step GrantsInTime (start clock) actions) :
    AuthorizesOneSession clock actions := by
  have recorded : (run step (start clock) actions).IsRecorded :=
    @run_invariant _ _ step GrantsInTime IsRecorded
      (fun server action inTime recorded =>
        recorded.happens (server.step_happens action) inTime) _ _ (IsRecorded.start clock) inTime
  refine ⟨recorded.authorized, ?_, ?_⟩
  · intro first isFirst second isSecond input other isInput isOther same
    obtain ⟨row, isRow, isTarget⟩ := recorded.known first isFirst input.approvalId
      (.inr ⟨input, isInput, rfl⟩)
    have told := recorded.recorded row isRow
    obtain ⟨-, firstSession⟩ := told.sessions first isFirst input isInput isTarget.symm
    obtain ⟨-, secondSession⟩ := told.sessions second isSecond other isOther
      (same.symm.trans isTarget.symm)
    exact Option.some.inj (firstSession.symm.trans secondSession)
  · rintro before between after rfl row member notPending notApproved
    have fit : (run step (start clock) before).LocksFit :=
      @run_invariant _ _ step (fun _ _ => True) LocksFit
        (fun _ action _ fit => fit.step action) _ _ (LocksFit.start clock)
        (meets_of_forall (fun _ _ => trivial) _ _)
    rw [run_append]
    exact settled_run fit between member notPending notApproved

/-- A consent is approved and consumed within a second, and resumed by its session. -/
theorem ConsentServer.prompt_guest_is_authorized :
    AuthorizesOneSession 1 (requestRun ++ (wholeCall 1 (.record plainApproval) ++
      (.tick 1000 :: wholeCall 2 (.consume plainConsumption)) ++
      wholeCall 3 (.consume plainConsumption))) :=
  consents_authorize_one_session 1 _ (by decide +kernel)

/-- A request asks for no later deadline. -/
def ConsentJob.asksBy (deadline : Int) : ConsentJob → Bool
  | .request wanted _ _ => decide (wanted.deadlineAt ≤ deadline)
  | _ => true

/-- The guest is in time, but the row is locked by a second answer of the node, and when that is
dropped the deadline is over. The session opens all the same. -/
theorem ConsentServer.late_grant_opens_session :
    ¬∀ clock actions, AuthorizesOneSession clock actions := by
  intro holds
  let actions := requestRun ++ (wholeCall 1 (.record plainApproval) ++
    [.call 2 (.record plainApproval), .advance 2, .advance 2,
      .call 3 (.consume plainConsumption), .advance 3, .advance 3, .tick 90000, .advance 2,
      .advance 3, .advance 3])
  let history := (run step (start 1) actions).history
  have length : (history.drop 3).length = 1 := by decide +kernel
  have facts : ∀ commit ∈ history.drop 3, commit.job = .consume plainConsumption ∧
      (commit.outcome matches .consumed _ false) = true ∧ commit.lockedAt = 90001 := by
    decide +kernel
  have deadlines : ∀ commit ∈ history, commit.job.asksBy 60001 = true := by decide +kernel
  obtain ⟨commit, last⟩ := List.length_eq_one_iff.mp length
  obtain ⟨isJob, isFresh, late⟩ := facts commit (by rw [last]; simp)
  have split : history = history.take 3 ++ commit :: [] := by
    rw [← last, List.take_append_drop]
  have authorized := (holds 1 actions).authorized _ commit [] split
  cases isOutcome : commit.outcome with
  | consumed consent resumed =>
    rw [isOutcome] at isFresh
    cases resumed with
    | true => cases isFresh
    | false =>
      obtain ⟨request, isRequest, wanted, accepted, asks, -, early, -⟩ :=
        authorized _ consent isJob isOutcome
      have deadline := deadlines request (List.mem_of_mem_take isRequest)
      rw [asks] at deadline
      have bounded : wanted.deadlineAt ≤ 60001 := of_decide_eq_true deadline
      omega
  | _ =>
    rw [isOutcome] at isFresh
    cases isFresh

end ImCodes.Remote
