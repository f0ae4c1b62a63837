import ImCodes.Delegation.ReplyEffects

/-!
# Audit deliveries

The pending deliveries of one audit attempt come to one record, to none, or to nothing at all. The
store changes only with an answer, and the answer is the same when it is asked for again.
-/

set_option autoImplicit false

namespace ImCodes.Delegation

open Library

namespace DelegationReplyStore

/-- A pending delivery of an audit attempt, as `pendingDeliveries` selects them. -/
def isPendingDelivery (taskId auditAttemptId auditRevision : String) (row : ReplyAuthority) :
    Bool :=
  row.purpose = some .supervisionAudit && row.taskId = some taskId &&
    row.auditAttemptId = some auditAttemptId && row.auditRevision = some auditRevision &&
    (truthy row.assignmentId).isSome && row.status = .pending

section
variable {store : DelegationReplyStore} {authority : AssignmentAuthority}
  {taskId auditAttemptId auditRevision : String} {records active : List ReplyRecord} {now : Int}

theorem pendingDeliveries_eq (store : DelegationReplyStore)
    (taskId auditAttemptId auditRevision : String) :
    store.pendingDeliveries taskId auditAttemptId auditRevision =
      (store.authorities.select (isPendingDelivery taskId auditAttemptId auditRevision)).map
        ReplyAuthority.record := rfl

def ArePending (store : DelegationReplyStore) (taskId auditAttemptId auditRevision : String)
    (records : List ReplyRecord) : Prop :=
  ∀ record ∈ records, ∃ row ∈ store.authorities,
    isPendingDelivery taskId auditAttemptId auditRevision row = true ∧ row.record = record

theorem arePending_pendingDeliveries (store : DelegationReplyStore)
    (taskId auditAttemptId auditRevision : String) :
    store.ArePending taskId auditAttemptId auditRevision
      (store.pendingDeliveries taskId auditAttemptId auditRevision) := by
  intro record member
  rw [pendingDeliveries_eq] at member
  obtain ⟨row, selected, same⟩ := List.mem_map.mp member
  obtain ⟨isRow, pending⟩ := Table.mem_select.mp selected
  exact ⟨row, isRow, pending, same⟩

/-! ## The current delivery -/

theorem latest?_mem {record : ReplyRecord} (found : latest? records = some record) :
    record ∈ records := by
  cases records with
  | nil => cases found
  | cons first rest =>
    have folded : ∀ (latest : ReplyRecord) (rest : List ReplyRecord),
        rest.foldl laterOf latest = latest ∨ rest.foldl laterOf latest ∈ rest := by
      intro latest rest
      induction rest generalizing latest with
      | nil => exact .inl rfl
      | cons candidate rest ih =>
        rw [List.foldl_cons]
        rcases ih (laterOf latest candidate) with same | later
        · rw [same]
          unfold laterOf
          split
          · exact .inr List.mem_cons_self
          · exact .inl rfl
        · exact .inr (List.mem_cons_of_mem _ later)
    have isLatest : rest.foldl laterOf first = record := Option.some.inj found
    rcases folded first rest with same | later
    · rw [← isLatest, same]
      exact List.mem_cons_self
    · rw [← isLatest]
      exact List.mem_cons_of_mem _ later

/-- What the delivery that is taken has been made into. -/
inductive IsCurrent (store : DelegationReplyStore) (authority : AssignmentAuthority)
    (active : List ReplyRecord) (now : Int) (advanced : DelegationReplyStore)
    (current : ReplyRecord) : Prop where
  | exact (member : current ∈ active)
      (isExact : AssignmentAuthority.isExact authority current = true)
      (same : advanced = store) : IsCurrent store authority active now advanced current
  | rebound (candidate : ReplyRecord) (member : candidate ∈ active) (origin : BoundIdentity)
      (isOrigin : origin ∈ authority.origins)
      (sameName : origin.sessionName = candidate.origin.sessionName)
      (messageId : candidate.messageId = authority.messageId)
      (target : candidate.target = authority.target)
      (moved : advanced = store.advanceOrigin candidate.delegationId origin now)
      (same : current = { candidate with origin := origin }) :
      IsCurrent store authority active now advanced current

theorem currentDelivery_some {advanced : DelegationReplyStore} {current : ReplyRecord}
    (found : store.currentDelivery authority active now = (advanced, some current)) :
    IsCurrent store authority active now advanced current := by
  unfold currentDelivery at found
  split at found
  · rename_i latest isLatest
    cases found
    obtain ⟨member, isExact⟩ := List.mem_filter.mp (latest?_mem isLatest)
    exact .exact member isExact rfl
  · split at found
    · rename_i candidate stale
      split at found
      · rename_i origin isOrigin
        cases found
        have member : candidate ∈ active.filter (AssignmentAuthority.isStaleOrigin authority) := by
          rw [stale]
          exact List.mem_singleton_self candidate
        obtain ⟨isActive, isStale⟩ := List.mem_filter.mp member
        simp only [AssignmentAuthority.isStaleOrigin, Bool.and_eq_true, decide_eq_true_eq]
          at isStale
        exact .rebound candidate isActive origin (List.mem_of_find?_eq_some isOrigin)
          (by simpa using List.find?_some isOrigin) isStale.1.1 isStale.1.2 rfl rfl
      · cases found
    · cases found

theorem currentDelivery_none {left : DelegationReplyStore}
    (found : store.currentDelivery authority active now = (left, none)) (later : Int) :
    (store.currentDelivery authority active later).2 = none := by
  unfold currentDelivery at found ⊢
  split at found
  · cases found
  · split at found
    · split at found
      · cases found
      · rfl
    · rfl

private theorem mem_advanceOrigin {row : ReplyAuthority} (isRow : row ∈ store.authorities)
    (status : row.status = .pending) (origin : BoundIdentity) :
    ({ row with
        origin := { row.origin with
          sessionInstanceId := origin.sessionInstanceId
          runtimeEpoch := origin.runtimeEpoch }
        updatedAt := now } : ReplyAuthority) ∈
      (store.advanceOrigin row.delegationId origin now).authorities := by
  rw [advanceOrigin, Table.mem_updateWhere]
  exact ⟨row, isRow, if_pos (by simp [status])⟩

theorem isCurrent_row {advanced : DelegationReplyStore} {current : ReplyRecord}
    (pending : store.ArePending taskId auditAttemptId auditRevision active)
    (isCurrent : IsCurrent store authority active now advanced current) :
    ∃ row ∈ advanced.authorities,
      isPendingDelivery taskId auditAttemptId auditRevision row = true ∧
        row.delegationId = current.delegationId ∧
        AssignmentAuthority.isExact authority row.record = true ∧
        ∃ before ∈ active, row.record.assignmentId = before.assignmentId ∧
          row.record.auditedSessionName = before.auditedSessionName ∧
          AssignmentAuthority.isSupersededTarget authority row.record =
            AssignmentAuthority.isSupersededTarget authority before := by
  cases isCurrent with
  | exact member isExact same =>
    obtain ⟨row, isRow, isPending, isRecord⟩ := pending current member
    subst same
    refine ⟨row, isRow, isPending, ?_, ?_, current, member, ?_⟩
    · rw [← isRecord]
      rfl
    · rw [isRecord]
      exact isExact
    · rw [isRecord]
      exact ⟨rfl, rfl, rfl⟩
  | rebound candidate member origin isOrigin sameName messageId target moved same =>
    obtain ⟨row, isRow, isPending, isRecord⟩ := pending candidate member
    subst moved same isRecord
    have status : row.status = .pending := by
      simp only [isPendingDelivery, Bool.and_eq_true, decide_eq_true_eq] at isPending
      exact isPending.2
    refine ⟨_, mem_advanceOrigin isRow status origin, isPending, rfl, ?_, row.record, member,
      rfl, rfl, rfl⟩
    have rebuilt : ({ row.origin with
        sessionInstanceId := origin.sessionInstanceId
        runtimeEpoch := origin.runtimeEpoch } : BoundIdentity) = origin := by
      obtain ⟨sessionName, sessionInstanceId, runtimeEpoch⟩ := origin
      have name : row.origin.sessionName = sessionName := sameName.symm
      change BoundIdentity.mk row.origin.sessionName _ _ = _
      rw [name]
    simp only [AssignmentAuthority.isExact, ReplyAuthority.record, rebuilt, Bool.and_eq_true,
      decide_eq_true_eq, List.any_eq_true]
    exact ⟨⟨messageId, target⟩, origin, isOrigin, rfl⟩

/-! ## Convergence -/

/-- The rows that are retired for the current delivery. -/
def isRetired (authority : AssignmentAuthority) (taskId auditAttemptId auditRevision : String)
    (delegationId : String) (row : ReplyAuthority) : Bool :=
  row.purpose = some .supervisionAudit && row.taskId = some taskId &&
    row.assignmentId = some authority.assignmentId &&
    row.auditAttemptId = some auditAttemptId &&
    row.auditRevision = some auditRevision && row.status = .pending &&
    row.delegationId ≠ delegationId

theorem mem_setStatus_pending {row : ReplyAuthority} {status : ReplyStatus}
    {chosen : ReplyAuthority → Bool} (other : status ≠ .pending)
    (member : row ∈ (store.setStatus status now chosen).authorities)
    (pending : row.status = .pending) : row ∈ store.authorities ∧ chosen row = false := by
  rw [setStatus, Table.mem_updateWhere] at member
  obtain ⟨old, isOld, same⟩ := member
  split at same
  · subst same
    exact absurd pending other
  · rename_i kept
    subst same
    exact ⟨isOld, by simpa using kept⟩

theorem setStatus_isRetired {row : ReplyAuthority} (isRow : row ∈ store.authorities) :
    (store.setStatus .expired now (isRetired authority taskId auditAttemptId auditRevision
      row.delegationId)).authorities.lookup row.delegationId = some row := by
  rw [setStatus, Table.lookup_updateWhere, Table.lookup_of_mem isRow]
  simp [isRetired]

theorem alone_setStatus_isRetired {row : ReplyAuthority} {delegationId : String}
    (member : row ∈ (store.setStatus .expired now (isRetired authority taskId auditAttemptId
      auditRevision delegationId)).authorities)
    (isPending : isPendingDelivery taskId auditAttemptId auditRevision row = true)
    (assigned : row.assignmentId = some authority.assignmentId) :
    row.delegationId = delegationId := by
  simp only [isPendingDelivery, Bool.and_eq_true, decide_eq_true_eq] at isPending
  have kept := (mem_setStatus_pending (by decide) member isPending.2).2
  by_contra different
  simp [isRetired, isPending, assigned, different] at kept

theorem mem_foldl_expirePending {row : ReplyAuthority}
    (member : row ∈ (records.foldl
      (fun store record => store.expirePending now record.delegationId) store).authorities)
    (pending : row.status = .pending) :
    row ∈ store.authorities ∧ ∀ record ∈ records, record.delegationId ≠ row.delegationId := by
  induction records generalizing store with
  | nil => exact ⟨member, by simp⟩
  | cons record rest ih =>
    obtain ⟨early, others⟩ := ih member
    obtain ⟨isOld, kept⟩ := mem_setStatus_pending (by decide) early pending
    refine ⟨isOld, fun other among => ?_⟩
    rcases List.mem_cons.mp among with rfl | later
    · intro sameId
      simp [sameId, pending] at kept
    · exact others other later

/-- The cases of `convergeDeliveries`. -/
inductive Converges (store : DelegationReplyStore) (authority : AssignmentAuthority)
    (taskId auditAttemptId auditRevision : String) (records : List ReplyRecord) (now : Int) :
    DelegationReplyStore × AuthorityMatch → Prop where
  | taken {advanced : DelegationReplyStore} {row : ReplyAuthority}
      (keeps : ∀ other ∈ advanced.authorities, isPendingDelivery taskId auditAttemptId
        auditRevision other = true → ∃ before ∈ store.authorities, isPendingDelivery taskId
          auditAttemptId auditRevision before = true ∧ before.assignmentId = other.assignmentId)
      (isRow : row ∈ advanced.authorities)
      (isPending : isPendingDelivery taskId auditAttemptId auditRevision row = true)
      (isExact : AssignmentAuthority.isExact authority row.record = true)
      (active : AssignmentAuthority.isSupersededTarget authority row.record = false)
      (known : ∃ before ∈ records, row.record.assignmentId = before.assignmentId ∧
        row.record.auditedSessionName = before.auditedSessionName) :
      Converges store authority taskId auditAttemptId auditRevision records now
        (advanced.setStatus .expired now (isRetired authority taskId auditAttemptId auditRevision
          row.delegationId), .matched row.record)
  | retired : Converges store authority taskId auditAttemptId auditRevision records now
      (records.foldl (fun store record => store.expirePending now record.delegationId) store, .none)
  | ambiguous (always : ∀ later, store.convergeDeliveries authority taskId auditAttemptId
        auditRevision records later = (store, .ambiguous)) :
      Converges store authority taskId auditAttemptId auditRevision records now
        (store, .ambiguous)

theorem isCurrent_keeps {advanced : DelegationReplyStore} {current : ReplyRecord}
    (isCurrent : IsCurrent store authority active now advanced current) {row : ReplyAuthority}
    (isRow : row ∈ advanced.authorities)
    (isPending : isPendingDelivery taskId auditAttemptId auditRevision row = true) :
    ∃ before ∈ store.authorities,
      isPendingDelivery taskId auditAttemptId auditRevision before = true ∧
        before.assignmentId = row.assignmentId := by
  cases isCurrent with
  | exact member isExact same =>
    subst same
    exact ⟨row, isRow, isPending, rfl⟩
  | rebound candidate member origin isOrigin sameName messageId target moved same =>
    subst moved
    rw [advanceOrigin, Table.mem_updateWhere] at isRow
    obtain ⟨before, isBefore, updated⟩ := isRow
    refine ⟨before, isBefore, ?_⟩
    split at updated
    · subst updated
      exact ⟨isPending, rfl⟩
    · subst updated
      exact ⟨isPending, rfl⟩

theorem convergeDeliveries_cases (authority : AssignmentAuthority) (now : Int)
    (pending : store.ArePending taskId auditAttemptId auditRevision records) :
    Converges store authority taskId auditAttemptId auditRevision records now
      (store.convergeDeliveries authority taskId auditAttemptId auditRevision records now) := by
  unfold convergeDeliveries
  dsimp only
  cases found : store.currentDelivery authority (records.filter fun record =>
      !AssignmentAuthority.isSupersededTarget authority record) now with
  | mk advanced answer =>
    cases answer with
    | none =>
      dsimp only
      split
      · exact .retired
      · next someActive =>
          apply Converges.ambiguous
          intro later
          have noneLater := currentDelivery_none found later
          unfold convergeDeliveries
          dsimp only
          split
          · next taken =>
              rw [taken] at noneLater
              cases noneLater
          · rw [if_neg someActive]
    | some current =>
      have isCurrent := currentDelivery_some found
      obtain ⟨row, isRow, isPending, sameId, isExact, before, isActive, assigned, audited,
        superseded⟩ := isCurrent_row
          (fun record member => pending record (List.mem_filter.mp member).1) isCurrent
      obtain ⟨among, active⟩ := List.mem_filter.mp isActive
      have stored : (advanced.setStatus .expired now (isRetired authority taskId
          auditAttemptId auditRevision current.delegationId)).get current.delegationId =
            some row.record := by
        rw [← sameId, get, setStatus_isRetired isRow]
        rfl
      have isActiveRow :
          AssignmentAuthority.isSupersededTarget authority row.record = false := by
        rw [superseded]
        simpa using active
      have taken : Converges store authority taskId auditAttemptId auditRevision records now
          (advanced.setStatus .expired now (isRetired authority taskId auditAttemptId
            auditRevision row.delegationId), .matched row.record) :=
        .taken (fun other isOther selected => isCurrent_keeps isCurrent isOther selected)
          isRow isPending isExact isActiveRow ⟨before, among, assigned, audited⟩
      rw [sameId] at taken
      dsimp only
      split
      · next record got =>
          have same : record = row.record := Option.some.inj (got.symm.trans stored)
          rw [same]
          exact taken
      · next missing => exact absurd (stored.symm.trans missing) (by simp)

theorem convergeDeliveries_single {row : ReplyAuthority}
    (stored : store.authorities.lookup row.delegationId = some row)
    (isExact : AssignmentAuthority.isExact authority row.record = true)
    (active : AssignmentAuthority.isSupersededTarget authority row.record = false)
    (alone : ∀ other, other ∈ store.authorities →
      isRetired authority taskId auditAttemptId auditRevision row.delegationId other = false) :
    store.convergeDeliveries authority taskId auditAttemptId auditRevision [row.record] now =
      (store, .matched row.record) := by
  have unchanged : store.setStatus .expired now (isRetired authority taskId auditAttemptId
      auditRevision row.delegationId) = store := by
    unfold setStatus
    rw [Table.updateWhere_eq_self alone]
  have current : store.currentDelivery authority [row.record] now = (store, some row.record) := by
    simp [currentDelivery, isExact, latest?]
  have got : (store.setStatus .expired now (isRetired authority taskId auditAttemptId
      auditRevision row.delegationId)).get row.delegationId = some row.record := by
    rw [unchanged, get, stored]
    rfl
  unfold convergeDeliveries
  simp only [List.filter_cons, active, Bool.not_false, if_true, List.filter_nil, current]
  split
  · next record found =>
      have same : record = row.record := Option.some.inj (found.symm.trans got)
      rw [same]
      exact Prod.ext unchanged rfl
  · next missing => exact absurd (got.symm.trans missing) (by simp)

/-! ## What an answer comes to -/

def CanBeFound (input : FindDeliveryInput) (authority : AssignmentAuthority) : Prop :=
  ¬(trim input.taskId = "" ∨ trim input.auditAttemptId = "" ∨ trim input.auditRevision = "" ∨
      trim input.auditedSessionName = "") ∧
    ¬(trim authority.assignmentId = "" ∨ trim authority.messageId = "" ∨ authority.origins = [])

theorem findPendingAuditDelivery_none (store : DelegationReplyStore) (now : Int)
    {input : FindDeliveryInput}
    (given : input.assignmentAuthority = some authority) (cannot : ¬CanBeFound input authority) :
    store.findPendingAuditDelivery input now = (store, .none) := by
  simp only [findPendingAuditDelivery, given]
  split
  · rfl
  · next named =>
      split
      · rfl
      · next usable => exact absurd ⟨named, usable⟩ cannot

theorem findPendingAuditDelivery_some (store : DelegationReplyStore) (now : Int)
    {input : FindDeliveryInput}
    (given : input.assignmentAuthority = some authority) (can : CanBeFound input authority) :
    store.findPendingAuditDelivery input now =
      if store.pendingDeliveries (trim input.taskId) (trim input.auditAttemptId)
          (trim input.auditRevision) = [] then (store, .none)
      else if (store.pendingDeliveries (trim input.taskId) (trim input.auditAttemptId)
          (trim input.auditRevision)).any
            (AssignmentAuthority.competes authority (trim input.auditedSessionName)) then
        (store, .ambiguous)
      else store.convergeDeliveries authority (trim input.taskId) (trim input.auditAttemptId)
        (trim input.auditRevision) (store.pendingDeliveries (trim input.taskId)
          (trim input.auditAttemptId) (trim input.auditRevision)) now := by
  simp only [findPendingAuditDelivery, given, if_neg can.1, if_neg can.2]

theorem not_competes {auditedSessionName : String} {record : ReplyRecord}
    (isRival : AssignmentAuthority.competes authority auditedSessionName record = false) :
    record.assignmentId = some authority.assignmentId ∧
      record.auditedSessionName = some auditedSessionName := by
  simp only [AssignmentAuthority.competes, Bool.or_eq_false_iff, decide_eq_false_iff_not,
    ne_eq, not_not] at isRival
  exact isRival.1.1

theorem competes_of_isExact {auditedSessionName : String} {record : ReplyRecord}
    (isExact : AssignmentAuthority.isExact authority record = true)
    (assigned : record.assignmentId = some authority.assignmentId)
    (audited : record.auditedSessionName = some auditedSessionName) :
    AssignmentAuthority.competes authority auditedSessionName record = false := by
  simp only [AssignmentAuthority.isExact, Bool.and_eq_true, decide_eq_true_eq,
    List.any_eq_true] at isExact
  obtain ⟨⟨_, target⟩, origin, isOrigin, sameOrigin⟩ := isExact
  have named : ∃ known ∈ authority.origins, known.sessionName = record.origin.sessionName :=
    ⟨origin, isOrigin, by rw [sameOrigin]⟩
  simpa [AssignmentAuthority.competes, assigned, audited, target] using named

section
variable (store : DelegationReplyStore) (input : FindDeliveryInput)
  (authority : AssignmentAuthority) (now : Int)

/-- The record a resolution takes, and that nothing competes with it afterwards. -/
structure IsTaken (after : DelegationReplyStore) (record : ReplyRecord) : Prop where
  stored : after.get record.delegationId = some record
  pending : record.status = .pending
  purpose : record.purpose = some .supervisionAudit
  taskId : record.taskId = some (trim input.taskId)
  auditAttemptId : record.auditAttemptId = some (trim input.auditAttemptId)
  auditRevision : record.auditRevision = some (trim input.auditRevision)
  assignmentId : record.assignmentId = some authority.assignmentId
  messageId : record.messageId = authority.messageId
  auditedSessionName : record.auditedSessionName = some (trim input.auditedSessionName)
  target : record.target = authority.target
  origin : record.origin ∈ authority.origins
  alone : ∀ row ∈ after.authorities, row.purpose = some .supervisionAudit →
    row.taskId = some (trim input.taskId) → row.assignmentId = some authority.assignmentId →
    row.auditAttemptId = some (trim input.auditAttemptId) →
    row.auditRevision = some (trim input.auditRevision) → row.status = .pending →
    row.delegationId = record.delegationId

/-- A resolution under the registry's authority happens as a whole or not at all. -/
structure Resolves : Prop where
  ambiguous : (store.findPendingAuditDelivery input now).2 = .ambiguous →
    (store.findPendingAuditDelivery input now).1 = store
  matched : ∀ record, (store.findPendingAuditDelivery input now).2 = .matched record →
    IsTaken input authority (store.findPendingAuditDelivery input now).1 record
  again : ∀ later, (store.findPendingAuditDelivery input now).1.findPendingAuditDelivery input
    later = store.findPendingAuditDelivery input now

end

section
variable {input : FindDeliveryInput}

private theorem resolves_of_unchanged {answer : AuthorityMatch}
    (found : ∀ later, store.findPendingAuditDelivery input later = (store, answer))
    (unmatched : ∀ record, answer ≠ .matched record) : Resolves store input authority now := by
  constructor
  · intro _
    rw [found now]
  · intro record matched
    rw [found now] at matched
    exact absurd matched (unmatched record)
  · intro later
    rw [found now]
    exact found later

private theorem resolves_retired (given : input.assignmentAuthority = some authority)
    (can : CanBeFound input authority)
    (found : store.findPendingAuditDelivery input now =
      ((store.pendingDeliveries (trim input.taskId) (trim input.auditAttemptId)
        (trim input.auditRevision)).foldl
          (fun store record => store.expirePending now record.delegationId) store, .none)) :
    Resolves store input authority now := by
  constructor
  · intro ambiguous
    rw [found] at ambiguous
    cases ambiguous
  · intro record matched
    rw [found] at matched
    cases matched
  · intro later
    rw [found, findPendingAuditDelivery_some _ _ given can, if_pos]
    rw [pendingDeliveries_eq, List.map_eq_nil_iff, List.eq_nil_iff_forall_not_mem]
    intro row selected
    obtain ⟨isRow, isPending⟩ := Table.mem_select.mp selected
    have pending : row.status = .pending := by
      simp only [isPendingDelivery, Bool.and_eq_true, decide_eq_true_eq] at isPending
      exact isPending.2
    obtain ⟨wasRow, kept⟩ := mem_foldl_expirePending isRow pending
    refine kept row.record ?_ rfl
    rw [pendingDeliveries_eq]
    exact List.mem_map_of_mem (Table.mem_select.mpr ⟨wasRow, isPending⟩)

private theorem resolves_taken (given : input.assignmentAuthority = some authority)
    (can : CanBeFound input authority) {advanced : DelegationReplyStore} {row : ReplyAuthority}
    (found : store.findPendingAuditDelivery input now =
      (advanced.setStatus .expired now (isRetired authority (trim input.taskId)
        (trim input.auditAttemptId) (trim input.auditRevision) row.delegationId),
        .matched row.record))
    (isRow : row ∈ advanced.authorities)
    (isPending : isPendingDelivery (trim input.taskId) (trim input.auditAttemptId)
      (trim input.auditRevision) row = true)
    (isExact : AssignmentAuthority.isExact authority row.record = true)
    (active : AssignmentAuthority.isSupersededTarget authority row.record = false)
    (assigned : row.record.assignmentId = some authority.assignmentId)
    (audited : row.record.auditedSessionName = some (trim input.auditedSessionName))
    (onlyIts : ∀ other ∈ advanced.authorities, isPendingDelivery (trim input.taskId)
      (trim input.auditAttemptId) (trim input.auditRevision) other = true →
        other.assignmentId = some authority.assignmentId) :
    Resolves store input authority now := by
  obtain ⟨isAssignment, named⟩ := truthy_eq_some_iff.mp assigned
  have stored : ∀ now, (advanced.setStatus .expired now (isRetired authority (trim input.taskId)
      (trim input.auditAttemptId) (trim input.auditRevision)
        row.delegationId)).authorities.lookup row.delegationId = some row :=
    fun _ => setStatus_isRetired isRow
  have isIts := isPending
  simp only [isPendingDelivery, Bool.and_eq_true, decide_eq_true_eq] at isIts
  obtain ⟨⟨⟨⟨⟨purpose, task⟩, attempt⟩, revision⟩, _⟩, pending⟩ := isIts
  constructor
  · intro ambiguous
    rw [found] at ambiguous
    cases ambiguous
  · intro record matched
    rw [found] at matched ⊢
    cases matched
    have exact := isExact
    simp only [AssignmentAuthority.isExact, Bool.and_eq_true, decide_eq_true_eq,
      List.any_eq_true] at exact
    obtain ⟨⟨messageId, target⟩, origin, isOrigin, sameOrigin⟩ := exact
    constructor
    case stored =>
      rw [get]
      exact congrArg _ (stored now)
    case pending => exact pending
    case purpose => exact purpose
    case taskId => exact truthy_eq_some_iff.mpr ⟨task, fun blank => can.1 (.inl blank)⟩
    case auditAttemptId =>
      exact truthy_eq_some_iff.mpr ⟨attempt, fun blank => can.1 (.inr (.inl blank))⟩
    case auditRevision =>
      exact truthy_eq_some_iff.mpr ⟨revision, fun blank => can.1 (.inr (.inr (.inl blank)))⟩
    case assignmentId => exact assigned
    case messageId => exact messageId
    case auditedSessionName => exact audited
    case target => exact target
    case origin =>
      rw [sameOrigin]
      exact isOrigin
    case alone =>
      intro other isOther otherPurpose otherTask otherAssignment otherAttempt otherRevision
        otherPending
      refine alone_setStatus_isRetired isOther ?_ otherAssignment
      simp [isPendingDelivery, otherPurpose, otherTask, otherAssignment, otherAttempt,
        otherRevision, otherPending, truthy_some named]
  · intro later
    have isStored := (Table.lookup_eq_some_iff.mp (stored now)).1
    have onlyIt : ∀ other, other ∈ (advanced.setStatus .expired now (isRetired authority
        (trim input.taskId) (trim input.auditAttemptId) (trim input.auditRevision)
          row.delegationId)).authorities →
        isPendingDelivery (trim input.taskId) (trim input.auditAttemptId)
          (trim input.auditRevision) other = true →
        other.delegationId = row.delegationId := by
      intro other isOther selected
      have otherPending : other.status = .pending := by
        simp only [isPendingDelivery, Bool.and_eq_true, decide_eq_true_eq] at selected
        exact selected.2
      have wasOther := (mem_setStatus_pending (by decide) isOther otherPending).1
      exact alone_setStatus_isRetired isOther selected (onlyIts other wasOther selected)
    have records : (advanced.setStatus .expired now (isRetired authority (trim input.taskId)
        (trim input.auditAttemptId) (trim input.auditRevision)
          row.delegationId)).pendingDeliveries (trim input.taskId) (trim input.auditAttemptId)
            (trim input.auditRevision) = [row.record] := by
      rw [pendingDeliveries_eq, Table.select_eq_singleton isStored isPending onlyIt]
      rfl
    have noRival := competes_of_isExact isExact assigned audited
    rw [found, findPendingAuditDelivery_some _ _ given can, records,
      if_neg (List.cons_ne_nil _ _), if_neg (by simp [noRival])]
    apply convergeDeliveries_single (stored now) isExact active
    intro other isOther
    by_contra isOld
    simp only [isRetired, Bool.not_eq_false, Bool.and_eq_true, decide_eq_true_eq] at isOld
    obtain ⟨⟨⟨⟨⟨⟨otherPurpose, otherTask⟩, otherAssignment⟩, otherAttempt⟩, otherRevision⟩,
      otherPending⟩, different⟩ := isOld
    refine different (onlyIt other isOther ?_)
    simp [isPendingDelivery, otherPurpose, otherTask, otherAssignment, otherAttempt,
      otherRevision, otherPending, truthy_some named]

end

/-- Every resolution under an assignment authority is all or nothing. -/
theorem audit_delivery_resolves (store : DelegationReplyStore) (input : FindDeliveryInput)
    (authority : AssignmentAuthority) (now : Int) :
    Resolves store { input with assignmentAuthority := some authority } authority now := by
  generalize asked : ({ input with assignmentAuthority := some authority } :
    FindDeliveryInput) = question
  have given : question.assignmentAuthority = some authority := by
    rw [← asked]
  by_cases can : CanBeFound question authority
  · have found := fun later => findPendingAuditDelivery_some store later given can
    have pending := arePending_pendingDeliveries store (trim question.taskId)
      (trim question.auditAttemptId) (trim question.auditRevision)
    generalize isList : store.pendingDeliveries (trim question.taskId)
      (trim question.auditAttemptId) (trim question.auditRevision) = records at found pending
    by_cases nothing : records = []
    · exact resolves_of_unchanged (fun later => (found later).trans (if_pos nothing)) (by simp)
    · by_cases rivals : records.any
          (AssignmentAuthority.competes authority (trim question.auditedSessionName)) = true
      · have ambiguous : ∀ later,
            store.findPendingAuditDelivery question later = (store, .ambiguous) := by
          intro later
          rw [found later, if_neg nothing, if_pos rivals]
        exact resolves_of_unchanged ambiguous (by simp)
      · have noRival : ∀ record ∈ records, record.assignmentId = some authority.assignmentId ∧
            record.auditedSessionName = some (trim question.auditedSessionName) := by
          intro record member
          apply not_competes
          simpa using fun isRival => rivals (List.any_eq_true.mpr ⟨record, member, isRival⟩)
        have converges := convergeDeliveries_cases authority now pending
        have result := found now
        rw [if_neg nothing, if_neg rivals] at result
        rw [← result] at converges
        generalize outcome : store.findPendingAuditDelivery question now = answer at converges
        cases converges with
        | @taken advanced row keeps isRow isPending isExact active known =>
          obtain ⟨before, among, assigned, audited⟩ := known
          refine resolves_taken given can outcome isRow isPending isExact active
            (assigned.trans (noRival before among).1) (audited.trans (noRival before among).2) ?_
          intro other isOther selected
          obtain ⟨earlier, wasRow, wasSelected, same⟩ := keeps other isOther selected
          have member : earlier.record ∈ records := by
            rw [← isList, pendingDeliveries_eq]
            exact List.mem_map_of_mem (Table.mem_select.mpr ⟨wasRow, wasSelected⟩)
          rw [← same]
          exact (truthy_eq_some_iff.mp (noRival _ member).1).1
        | retired =>
          apply resolves_retired given can
          rw [isList]
          exact outcome
        | ambiguous always =>
          have ambiguous : ∀ later,
              store.findPendingAuditDelivery question later = (store, .ambiguous) := by
            intro later
            rw [found later, if_neg nothing, if_neg rivals]
            exact always later
          exact resolves_of_unchanged ambiguous (by simp)
  · exact resolves_of_unchanged
      (fun later => findPendingAuditDelivery_none store later given can) (by simp)

section FixedRuns

private def brain : BoundIdentity := ⟨"brain", "b1", "e1"⟩

private def auditor : BoundIdentity := ⟨"auditor", "a1", "e1"⟩

private def briefed (purpose : Option DelegationPurpose) : CreateReplyInput where
  origin := brain
  target := auditor
  dispatchId := "dispatch"
  messageId := "message"
  purpose := purpose
  auditAttemptId := some "attempt"
  auditRevision := some "revision"
  auditedSessionName := some "worker"
  taskId := some "task"
  assignmentId := some "assignment"
  coordinatorAssignmentId := none

private def asked : FindDeliveryInput where
  taskId := "task"
  auditAttemptId := "attempt"
  auditRevision := "revision"
  auditedSessionName := "worker"
  assignmentAuthority := some {
    assignmentId := "assignment"
    messageId := "message"
    supersededMessageIds := []
    supersededDeliveries := []
    origins := [brain]
    target := auditor }

/-- An audit's delivery, beside a delivery of no purpose that names the same attempt. -/
private def besideUnpurposed : DelegationReplyStore :=
  let empty : DelegationReplyStore := ⟨Table.empty, Table.empty⟩
  let audited := (empty.create (briefed (some .supervisionAudit)) "audit" "n1" 1).1
  (audited.create (briefed none) "plain" "n2" 2).1

/-- The delivery that is matched need not be the only pending one of its attempt: a delivery of no
purpose is neither looked at nor retired. -/
theorem audit_delivery_beside_unpurposed :
    ∃ record, (besideUnpurposed.findPendingAuditDelivery asked 3).2 = .matched record ∧
      ∃ row ∈ (besideUnpurposed.findPendingAuditDelivery asked 3).1.authorities.rows,
        row.taskId = some asked.taskId ∧ row.assignmentId = record.assignmentId ∧
          row.auditAttemptId = some asked.auditAttemptId ∧
          row.auditRevision = some asked.auditRevision ∧ row.status = .pending ∧
          row.delegationId ≠ record.delegationId := by
  have matched : ∃ record, (besideUnpurposed.findPendingAuditDelivery asked 3).2 =
      .matched record ∧ record.delegationId = "audit" ∧
        record.assignmentId = some "assignment" := by
    refine ⟨_, rfl, ?_, ?_⟩ <;> decide +kernel
  obtain ⟨record, isMatched, isAudit, assigned⟩ := matched
  refine ⟨record, isMatched, ?_⟩
  rw [isAudit, assigned]
  decide +kernel

end FixedRuns

end

end DelegationReplyStore

end ImCodes.Delegation
