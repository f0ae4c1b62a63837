import ImCodes.Queue.Store.Adoption
import ImCodes.Queue.Store.Invariants

/-!
# Where repeated adoption ends

A bounded adoption is called again while it answers `pending`. The calls end, with a queue
that belongs to the caller, and the bounds leave no trace but in the version, which every
call that purges counts up.
-/

set_option autoImplicit false

namespace ImCodes.Queue

open Library

namespace TransportQueueStore

/-- The answer after so many calls more than one; no call follows an answer other than
`pending`. -/
def adoptRepeatedly (store : TransportQueueStore) (sessionName : String)
    (recipient : QueueRecipientIdentity) (sessionCreatedAt : JsNumber)
    (limits : Nat → Option Int) :
    Nat → Except QueueStoreError (TransportQueueStore × AdoptLegacyRecipientResult)
  | 0 => store.adoptLegacyRecipientIdentity sessionName recipient sessionCreatedAt (limits 0)
  | calls + 1 => do
    let last ← store.adoptRepeatedly sessionName recipient sessionCreatedAt limits calls
    if last.2.status = .pending then
      last.1.adoptLegacyRecipientIdentity sessionName recipient sessionCreatedAt
        (limits (calls + 1))
    else pure last

/-- The calls came to an answer other than `pending`. -/
def AdoptionEnds (store : TransportQueueStore) (sessionName : String)
    (recipient : QueueRecipientIdentity) (sessionCreatedAt : JsNumber)
    (limits : Nat → Option Int) (last : TransportQueueStore × AdoptLegacyRecipientResult) : Prop :=
  last.2.status ≠ .pending ∧ ∃ calls,
    store.adoptRepeatedly sessionName recipient sessionCreatedAt limits calls = .ok last

def holdsEntry (store : TransportQueueStore) (session clientMessageId : String) : Bool :=
  store.queueEntries.holds (isMessage session clientMessageId)

def holdsMaterial (store : TransportQueueStore) (session clientMessageId : String) : Bool :=
  store.queuePrivateMaterial.holds (isMessage session clientMessageId)

def KeptWhole (before after : TransportQueueStore) (session clientMessageId : String) : Prop :=
  before.holdsEntry session clientMessageId = true →
  before.holdsMaterial session clientMessageId = true →
  after.holdsEntry session clientMessageId = after.holdsMaterial session clientMessageId

/-- What repeated adoption promises: of the messages in `whole` no part is lost alone, and
any two ways to bound the calls end in stores that are `alike`. -/
structure AdoptionConverges (store : TransportQueueStore) (sessionName session : String)
    (recipient : QueueRecipientIdentity) (sessionCreatedAt : JsNumber) (whole : String → Prop)
    (alike : TransportQueueStore → TransportQueueStore → Prop) : Prop where
  ends : ∀ limits, ∃ last, store.AdoptionEnds sessionName recipient sessionCreatedAt limits last
  conflict : ∀ limit first, store.adoptLegacyRecipientIdentity sessionName recipient
    sessionCreatedAt limit = .ok first → first.2.status = .identityConflict → first.1 = store
  owned : ∀ limits first last, store.adoptLegacyRecipientIdentity sessionName recipient
    sessionCreatedAt (limits 0) = .ok first → first.2.status ≠ .identityConflict →
    store.AdoptionEnds sessionName recipient sessionCreatedAt limits last →
    (last.2.status = .adopted ∨ last.2.status = .alreadyBound) ∧
      last.1.queueBelongsTo sessionName (some recipient) = .ok true
  together : ∀ limits last clientMessageId, whole clientMessageId →
    store.AdoptionEnds sessionName recipient sessionCreatedAt limits last →
    store.KeptWhole last.1 session clientMessageId
  independent : ∀ limits otherLimits last other,
    store.AdoptionEnds sessionName recipient sessionCreatedAt limits last →
    store.AdoptionEnds sessionName recipient sessionCreatedAt otherLimits other →
    alike last.1 other.1

def SameHands (store : TransportQueueStore) (session clientMessageId : String) : Prop :=
  ∀ row, row ∈ store.queueEntries → isMessage session clientMessageId row = true →
  ∀ held, held ∈ store.queuePrivateMaterial → isMessage session clientMessageId held = true →
    (row.recipient = .legacy ↔ held.recipient = .legacy)

def forgetPendingVersion (store : TransportQueueStore) (session : String) : TransportQueueStore :=
  { store with
    queueMeta := store.queueMeta.updateWhere (fun row => row.sessionName = session)
      (fun row => { row with pendingMessageVersion := 0 }) fun _ => rfl }

def AlikeButForVersion (session : String) (left right : TransportQueueStore) : Prop :=
  left.forgetPendingVersion session = right.forgetPendingVersion session

/-! ## One call -/

def claimedMeta (store : TransportQueueStore) (session : String)
    (recipient : QueueRecipientIdentity) : Table QueueMetaRow String QueueMetaRow.sessionName :=
  ((store.setMetaRecipient session recipient.columns).forgetPendingVersion session).queueMeta

/-- The preflight lets the adoption start. -/
structure AdmitsAdoption (store : TransportQueueStore) (session : String)
    (recipient : QueueRecipientIdentity) (createdAt : Int) (held : QueueMetaRow) : Prop where
  found : store.queueMeta.lookup session = some held
  adoptable : isAdoptableMeta recipient held.recipient = true
  clear : ∀ row ∈ store.messageRows, conflictsWithAdoption session recipient createdAt row = false

/-- The adoption of `store` has come as far as `next` and goes on. -/
structure Converging (session : String) (recipient : QueueRecipientIdentity) (createdAt : Int)
    (store next : TransportQueueStore) : Prop where
  admits : ∃ held, next.AdmitsAdoption session recipient createdAt held
  completes : ∀ last, Follows (next.wholePlan session recipient createdAt) next last →
    Follows (store.wholePlan session recipient createdAt) store last
  claimed : next.claimedMeta session recipient = store.claimedMeta session recipient
  uuids : next.uuidsIssued = store.uuidsIssued

/-- The adoption of `store` is over. -/
structure Converged (session : String) (recipient : QueueRecipientIdentity) (createdAt : Int)
    (store : TransportQueueStore) (last : TransportQueueStore × AdoptLegacyRecipientResult) :
    Prop where
  status : last.2.status = .adopted ∨ last.2.status = .alreadyBound
  follows : Follows (store.wholePlan session recipient createdAt) store last.1
  claimed : (last.1.forgetPendingVersion session).queueMeta = store.claimedMeta session recipient
  uuids : last.1.uuidsIssued = store.uuidsIssued
  owner : ∃ held, last.1.queueMeta.lookup session = some held ∧
    held.recipient = recipient.columns
  own : ∀ row ∈ last.1.messageRows, row.sessionName = session → row.recipient = recipient.columns

section Calls

variable {session : String} {recipient : QueueRecipientIdentity} {createdAt : Int}
  {store next : TransportQueueStore}

theorem Converging.trans (one : Converging session recipient createdAt store next)
    {last : TransportQueueStore} (two : Converging session recipient createdAt next last) :
    Converging session recipient createdAt store last where
  admits := two.admits
  completes := fun final follows => one.completes final (two.completes final follows)
  claimed := two.claimed.trans one.claimed
  uuids := two.uuids.trans one.uuids

theorem Converging.converged (one : Converging session recipient createdAt store next)
    {last : TransportQueueStore × AdoptLegacyRecipientResult}
    (two : Converged session recipient createdAt next last) :
    Converged session recipient createdAt store last where
  status := two.status
  follows := one.completes _ two.follows
  claimed := two.claimed.trans one.claimed
  uuids := two.uuids.trans one.uuids
  owner := two.owner
  own := two.own

theorem Follows.clear {chosen stale : String → Bool}
    (follows : Follows (adoptionPlan session recipient chosen stale) store next)
    (clear : ∀ row ∈ store.messageRows,
      conflictsWithAdoption session recipient createdAt row = false) :
    ∀ row ∈ next.messageRows, conflictsWithAdoption session recipient createdAt row = false := by
  intro row member
  rw [follows.messageRows] at member
  obtain ⟨old, stored, became⟩ := List.mem_filterMap.mp member
  unfold RowPlan.applySeen adoptionPlan at became
  split at became
  · split at became
    · cases became
    · cases became
      simp [conflictsWithAdoption, QueueRecipientIdentity.columns, RecipientColumns.legacy]
  · cases became
    exact clear old stored

theorem adoptMessages_sameMeta (store : TransportQueueStore)
    (messages : List (String × Option Int)) :
    (store.adoptMessages session recipient createdAt messages).1.queueMeta = store.queueMeta ∧
      (store.adoptMessages session recipient createdAt messages).1.uuidsIssued =
        store.uuidsIssued := by
  unfold adoptMessages
  generalize (⟨0, 0⟩ : AdoptionProgress) = progress
  induction messages generalizing store progress with
  | nil => exact ⟨rfl, rfl⟩
  | cons message rest ih =>
    have one : (store.adoptMessage progress session recipient createdAt message).1.queueMeta =
        store.queueMeta ∧
        (store.adoptMessage progress session recipient createdAt message).1.uuidsIssued =
          store.uuidsIssued := by
      unfold adoptMessage
      dsimp only
      split
      · exact ⟨rfl, rfl⟩
      · exact ⟨rfl, rfl⟩
    have later := ih (store.adoptMessage progress session recipient createdAt message).1
      (store.adoptMessage progress session recipient createdAt message).2
    exact ⟨later.1.trans one.1, later.2.trans one.2⟩

theorem claimedMeta_incrementVersion :
    (store.incrementVersion session).claimedMeta session recipient =
      store.claimedMeta session recipient := by
  apply Table.ext_rows
  simp only [claimedMeta, setMetaRecipient, forgetPendingVersion, incrementVersion,
    Table.updateWhere, List.map_map]
  apply List.map_congr_left
  intro row _
  by_cases named : row.sessionName = session
  · simp [named]
  · simp [named]

theorem claimedMeta_of_own {held : QueueMetaRow} (found : store.queueMeta.lookup session = some held)
    (own : held.recipient = recipient.columns) :
    store.claimedMeta session recipient = (store.forgetPendingVersion session).queueMeta := by
  apply Table.ext_rows
  simp only [claimedMeta, setMetaRecipient, forgetPendingVersion, Table.updateWhere, List.map_map]
  apply List.map_congr_left
  intro row member
  by_cases named : row.sessionName = session
  · have same : row = held :=
      Table.eq_of_key member (Table.lookup_eq_some_iff.mp found).1
        (named.trans (Table.lookup_eq_some_iff.mp found).2.symm)
    subst same
    simp [named, ← own]
  · simp [named]

theorem own_of_clear {row : QueueMessageRow} (inside : row.sessionName = session)
    (clear : conflictsWithAdoption session recipient createdAt row = false)
    (settled : isRecoverable session recipient row = false) :
    row.recipient = recipient.columns := by
  obtain ⟨named, clientMessageId, ⟨instanceId, epoch⟩, timestamp⟩ := row
  simp only [conflictsWithAdoption, isRecoverable, RecipientColumns.recoverable,
    RecipientColumns.rotated, QueueRecipientIdentity.columns, RecipientColumns.legacy] at *
  cases instanceId with
  | none => cases epoch with
    | none => simp_all
    | some epoch => simp_all
  | some instanceId => cases epoch with
    | none => simp_all
    | some epoch => simp_all

theorem finishAdoption_spec {held : QueueMetaRow} {progress : AdoptionProgress}
    (found : store.queueMeta.lookup session = some held) :
    ∃ result, store.finishAdoption session recipient held progress = result ∧
      SameMessages store result.1 ∧ result.1.uuidsIssued = store.uuidsIssued ∧
      ((result.2.status = .pending ∧ store.remaining session recipient ≠ [] ∧
          result.1.claimedMeta session recipient = store.claimedMeta session recipient ∧
          ∃ later, result.1.queueMeta.lookup session = some later ∧
            later.recipient = held.recipient) ∨
        ((result.2.status = .adopted ∨ result.2.status = .alreadyBound) ∧
          store.remaining session recipient = [] ∧
          (result.1.forgetPendingVersion session).queueMeta =
            store.claimedMeta session recipient ∧
          ∃ later, result.1.queueMeta.lookup session = some later ∧
            later.recipient = recipient.columns)) := by
  refine ⟨_, rfl, ?_⟩
  generalize versionedIs : (if progress.purged > 0 then store.incrementVersion session
    else store) = versioned
  have messages : SameMessages store versioned := by
    rw [← versionedIs]
    split
    · exact ⟨rfl, rfl, rfl, rfl⟩
    · exact ⟨rfl, rfl, rfl, rfl⟩
  have uuids : versioned.uuidsIssued = store.uuidsIssued := by
    rw [← versionedIs]
    split
    · rfl
    · rfl
  have claimed : versioned.claimedMeta session recipient = store.claimedMeta session recipient := by
    rw [← versionedIs]
    split
    · exact claimedMeta_incrementVersion
    · rfl
  obtain ⟨later, laterFound, sameRecipient⟩ : ∃ later,
      versioned.queueMeta.lookup session = some later ∧ later.recipient = held.recipient := by
    rw [← versionedIs]
    split
    · exact ⟨_, incrementVersion_stored found, rfl⟩
    · exact ⟨held, found, rfl⟩
  have left : (store.messageRows.any fun row =>
      decide (row.sessionName = session) && row.recipient.recoverable recipient) = true ↔
      store.remaining session recipient ≠ [] := by
    rw [Ne, remaining, List.filter_eq_nil_iff]
    simp [isRecoverable]
  unfold finishAdoption
  dsimp only
  rw [versionedIs]
  split
  · next more =>
      exact ⟨messages, uuids, .inl ⟨rfl, left.mp more, claimed, later, laterFound, sameRecipient⟩⟩
  · next none =>
      have past : store.remaining session recipient = [] := by
        by_contra more
        exact none (left.mpr more)
      split
      · next own =>
          refine ⟨messages, uuids, .inr ⟨?_, past, ?_, later, laterFound,
            sameRecipient.trans own⟩⟩
          · dsimp only
            split
            · exact .inl rfl
            · exact .inr rfl
          · rw [← claimed, claimedMeta_of_own laterFound (sameRecipient.trans own)]
      · refine ⟨messages.trans ⟨rfl, rfl, rfl, rfl⟩, uuids,
          .inr ⟨.inl rfl, past, claimed, ?_⟩⟩
        have named := (Table.lookup_eq_some_iff.mp laterFound).2
        refine ⟨{ later with recipient := recipient.columns }, ?_, rfl⟩
        simp [setMetaRecipient, Table.lookup_updateWhere, laterFound, named]

theorem adopt_eq_of_admits {sessionName : String} {recipientInput : QueueRecipientIdentity}
    {held : QueueMetaRow} {limit : Option Int}
    (named : normalizeSessionName sessionName = .ok session)
    (usable : normalizeQueueRecipient (some recipientInput) = some recipient)
    (nonnegative : 0 ≤ createdAt)
    (admits : store.AdmitsAdoption session recipient createdAt held) :
    ∃ size, 0 < size ∧ store.adoptLegacyRecipientIdentity sessionName recipientInput
      (.finite createdAt) limit = .ok ((store.adoptMessages session recipient createdAt
        (store.recoverableMessages session recipient size)).1.finishAdoption session recipient held
          (store.adoptMessages session recipient createdAt
            (store.recoverableMessages session recipient size)).2) := by
  have clear : store.messageRows.any (conflictsWithAdoption session recipient createdAt) =
      false := List.any_eq_false.mpr fun row member => by simp [admits.clear row member]
  refine ⟨(max 1 (min 100 (limit.getD 64))).toNat, by omega, ?_⟩
  unfold adoptLegacyRecipientIdentity
  simp only [named, bind, Except.bind, usable, not_lt.mpr nonnegative, if_false, admits.found,
    admits.adoptable, clear, Bool.not_true, Bool.or_self, Bool.false_eq_true]
  rfl

theorem adopt_of_admits {sessionName : String} {recipientInput : QueueRecipientIdentity}
    {held : QueueMetaRow} {limit : Option Int}
    (named : normalizeSessionName sessionName = .ok session)
    (usable : normalizeQueueRecipient (some recipientInput) = some recipient)
    (nonnegative : 0 ≤ createdAt)
    (admits : store.AdmitsAdoption session recipient createdAt held) :
    ∃ result, store.adoptLegacyRecipientIdentity sessionName recipientInput (.finite createdAt)
        limit = .ok result ∧
      ((result.2.status = .pending ∧ Converging session recipient createdAt store result.1 ∧
          (result.1.remaining session recipient).length <
            (store.remaining session recipient).length) ∨
        Converged session recipient createdAt store result) := by
  obtain ⟨size, positive, call⟩ := @adopt_eq_of_admits session recipient createdAt store sessionName
    recipientInput held limit named usable nonnegative admits
  generalize listed : store.recoverableMessages session recipient size = messages at call
  have follows := @adoptMessages_follows session recipient createdAt _ store messages
    (listed ▸ recoverableMessages_read)
  obtain ⟨sameMeta, sameUuids⟩ := @adoptMessages_sameMeta session recipient createdAt store
    messages
  generalize adopted : store.adoptMessages session recipient createdAt messages = batch at *
  obtain ⟨result, finished, sameMessages, uuids, outcome⟩ :=
    @finishAdoption_spec session recipient batch.1 held batch.2 (sameMeta ▸ admits.found)
  refine ⟨result, call.trans (congrArg Except.ok finished), ?_⟩
  have reached := follows.of_tables sameMessages
  have sameRemaining : result.1.remaining session recipient =
      batch.1.remaining session recipient := by
    rw [reached.remaining, follows.remaining]
  have sameClaimed : batch.1.claimedMeta session recipient =
      store.claimedMeta session recipient := by
    simp only [claimedMeta, setMetaRecipient, forgetPendingVersion, sameMeta]
  rcases outcome with ⟨pending, more, claimed, later, laterFound, same⟩ |
    ⟨status, past, claimed, owner⟩
  · refine .inl ⟨pending, ⟨⟨later, laterFound, same ▸ admits.adoptable,
      reached.clear admits.clear⟩, fun last rest => reached.batch_then_whole rest,
      claimed.trans sameClaimed, uuids.trans sameUuids⟩, ?_⟩
    have some : store.remaining session recipient ≠ [] := by
      intro none
      rw [follows.remaining, none] at more
      exact more rfl
    obtain ⟨row, member, chosen⟩ := recoverableMessages_nonempty positive some
    rw [listed] at chosen
    rw [reached.remaining, List.length_filter_lt_length_iff_exists]
    exact ⟨row, member, by simpa using chosen⟩
  · refine .inr ⟨status, ?_, claimed.trans sameClaimed, uuids.trans sameUuids, owner, ?_⟩
    · exact reached.batch_then_whole
        (follows_wholePlan_of_none_left (sameRemaining.trans past))
    · intro row member inside
      refine own_of_clear inside (reached.clear admits.clear row member) ?_
      exact Bool.not_eq_true _ ▸
        List.filter_eq_nil_iff.mp (sameRemaining.trans past) row member

theorem adopt_cases (store : TransportQueueStore) {sessionName : String}
    (recipientInput : QueueRecipientIdentity) (sessionCreatedAt : JsNumber)
    (named : normalizeSessionName sessionName = .ok session) :
    (∀ limit, store.adoptLegacyRecipientIdentity sessionName recipientInput sessionCreatedAt
        limit = .ok (store, ⟨.identityConflict, 0, 0⟩)) ∨
      (store.queueMeta.lookup session = none ∧
        (∃ recipient, normalizeQueueRecipient (some recipientInput) = some recipient) ∧
        ∀ limit, store.adoptLegacyRecipientIdentity sessionName recipientInput sessionCreatedAt
          limit = .ok (store, ⟨.alreadyBound, 0, 0⟩)) ∨
      ∃ recipient createdAt held,
        normalizeQueueRecipient (some recipientInput) = some recipient ∧
        sessionCreatedAt = .finite createdAt ∧ 0 ≤ createdAt ∧
        store.AdmitsAdoption session recipient createdAt held := by
  cases usable : normalizeQueueRecipient (some recipientInput) with
  | none =>
    refine .inl fun limit => ?_
    unfold adoptLegacyRecipientIdentity
    simp only [named, bind, Except.bind, usable]
    rfl
  | some recipient =>
    by_cases finite : ∃ createdAt, sessionCreatedAt = .finite createdAt ∧ 0 ≤ createdAt
    · obtain ⟨createdAt, rfl, nonnegative⟩ := finite
      cases found : store.queueMeta.lookup session with
      | none =>
        refine .inr (.inl ⟨rfl, ⟨recipient, rfl⟩, fun limit => ?_⟩)
        unfold adoptLegacyRecipientIdentity
        simp only [named, bind, Except.bind, usable, not_lt.mpr nonnegative, if_false, found]
        rfl
      | some held =>
        cases refused : (!isAdoptableMeta recipient held.recipient ||
            store.messageRows.any (conflictsWithAdoption session recipient createdAt)) with
        | true =>
          refine .inl fun limit => ?_
          unfold adoptLegacyRecipientIdentity
          simp only [named, bind, Except.bind, usable, not_lt.mpr nonnegative, if_false,
            found, refused, if_true]
          rfl
        | false =>
          rw [Bool.or_eq_false_iff, Bool.not_eq_false'] at refused
          refine .inr (.inr ⟨recipient, createdAt, held, rfl, rfl, nonnegative, found,
            refused.1, fun row member => ?_⟩)
          exact Bool.not_eq_true _ ▸ List.any_eq_false.mp refused.2 row member
    · refine .inl fun limit => ?_
      unfold adoptLegacyRecipientIdentity
      simp only [named, bind, Except.bind, usable]
      cases sessionCreatedAt with
      | finite createdAt =>
        have negative : createdAt < 0 := by
          by_contra nonnegative
          exact finite ⟨createdAt, rfl, not_lt.mp nonnegative⟩
        simp only [if_pos negative]
        rfl
      | _ => rfl

/-! ## The calls one after another -/

theorem adoptRepeatedly_of_settled {sessionName : String} {recipientInput : QueueRecipientIdentity}
    {sessionCreatedAt : JsNumber} {limits : Nat → Option Int}
    {first : TransportQueueStore × AdoptLegacyRecipientResult}
    (call : store.adoptLegacyRecipientIdentity sessionName recipientInput sessionCreatedAt
      (limits 0) = .ok first) (settled : first.2.status ≠ .pending) (calls : Nat) :
    store.adoptRepeatedly sessionName recipientInput sessionCreatedAt limits calls = .ok first := by
  induction calls with
  | zero => exact call
  | succ calls ih =>
    unfold adoptRepeatedly
    rw [ih]
    change (if first.2.status = .pending then _ else _) = _
    rw [if_neg settled]
    rfl

theorem adoptRepeatedly_of_admits {sessionName : String} {recipientInput : QueueRecipientIdentity}
    {held : QueueMetaRow} {limits : Nat → Option Int}
    (named : normalizeSessionName sessionName = .ok session)
    (usable : normalizeQueueRecipient (some recipientInput) = some recipient)
    (nonnegative : 0 ≤ createdAt)
    (admits : store.AdmitsAdoption session recipient createdAt held) (calls : Nat) :
    ∃ last, store.adoptRepeatedly sessionName recipientInput (.finite createdAt) limits calls =
        .ok last ∧
      ((last.2.status = .pending ∧ Converging session recipient createdAt store last.1 ∧
          (last.1.remaining session recipient).length + calls <
            (store.remaining session recipient).length) ∨
        Converged session recipient createdAt store last) := by
  induction calls with
  | zero => exact adopt_of_admits named usable nonnegative admits
  | succ calls ih =>
    obtain ⟨last, ran, outcome⟩ := ih
    unfold adoptRepeatedly
    rw [ran]
    rcases outcome with ⟨pending, converging, fewer⟩ | converged
    · obtain ⟨later, laterAdmits⟩ := converging.admits
      obtain ⟨result, call, next⟩ := @adopt_of_admits session recipient createdAt last.1
        sessionName recipientInput later (limits (calls + 1)) named usable nonnegative laterAdmits
      refine ⟨result, ?_, ?_⟩
      · change (if last.2.status = .pending then _ else _) = _
        rw [if_pos pending, call]
      · rcases next with ⟨stillPending, further, evenFewer⟩ | past
        · exact .inl ⟨stillPending, converging.trans further, by omega⟩
        · exact .inr (converging.converged past)
    · refine ⟨last, ?_, .inr converged⟩
      have settled : last.2.status ≠ .pending := by
        rcases converged.status with adopted | bound
        · simp [adopted]
        · simp [bound]
      change (if last.2.status = .pending then _ else _) = _
      rw [if_neg settled]
      rfl

theorem Converged.of_ends {sessionName : String} {recipientInput : QueueRecipientIdentity}
    {held : QueueMetaRow} {limits : Nat → Option Int}
    {last : TransportQueueStore × AdoptLegacyRecipientResult}
    (named : normalizeSessionName sessionName = .ok session)
    (usable : normalizeQueueRecipient (some recipientInput) = some recipient)
    (nonnegative : 0 ≤ createdAt)
    (admits : store.AdmitsAdoption session recipient createdAt held)
    (ends : store.AdoptionEnds sessionName recipientInput (.finite createdAt) limits last) :
    Converged session recipient createdAt store last := by
  obtain ⟨settled, calls, ran⟩ := ends
  obtain ⟨other, otherRan, outcome⟩ := @adoptRepeatedly_of_admits session recipient createdAt store
    sessionName recipientInput held limits named usable nonnegative admits calls
  cases ran.symm.trans otherRan
  rcases outcome with ⟨pending, _⟩ | converged
  · exact absurd pending settled
  · exact converged

/-! ## What the calls end in -/

theorem Converged.belongs {sessionName : String} {recipientInput : QueueRecipientIdentity}
    {last : TransportQueueStore × AdoptLegacyRecipientResult}
    (named : normalizeSessionName sessionName = .ok session)
    (usable : normalizeQueueRecipient (some recipientInput) = some recipient)
    (converged : Converged session recipient createdAt store last) :
    last.1.queueBelongsTo sessionName (some recipientInput) = .ok true := by
  obtain ⟨held, found, own⟩ := converged.owner
  have identity : held.recipient.identity? = some recipient := by
    rw [own]
    exact (normalizeQueueRecipient_eq_some usable).2.2
  have rows : (last.1.messageRows.any fun row =>
      decide (row.sessionName = session) && decide (row.recipient ≠ recipient.columns)) = false := by
    apply List.any_eq_false.mpr
    intro row member
    simp only [Bool.and_eq_true, decide_eq_true_eq, not_and, not_not]
    exact converged.own row member
  unfold queueBelongsTo
  simp only [named, bind, Except.bind, usable, found, identity, rows]
  rfl

theorem Converged.alike {last other : TransportQueueStore × AdoptLegacyRecipientResult}
    (left : Converged session recipient createdAt store last)
    (right : Converged session recipient createdAt store other) :
    AlikeButForVersion session last.1 other.1 := by
  have entries : last.1.queueEntries = other.1.queueEntries :=
    Table.ext_rows (left.follows.entries.trans right.follows.entries.symm)
  have material : last.1.queuePrivateMaterial = other.1.queuePrivateMaterial :=
    Table.ext_rows (left.follows.material.trans right.follows.material.symm)
  have deliveries : last.1.queueDeliveryTombstones = other.1.queueDeliveryTombstones :=
    Table.ext_rows (left.follows.deliveries.trans right.follows.deliveries.symm)
  have cancellations : last.1.queueCancellationTombstones = other.1.queueCancellationTombstones :=
    Table.ext_rows (left.follows.cancellations.trans right.follows.cancellations.symm)
  have metas := left.claimed.trans right.claimed.symm
  have uuids := left.uuids.trans right.uuids.symm
  unfold AlikeButForVersion
  unfold forgetPendingVersion at metas ⊢
  dsimp only at metas
  rw [metas, entries, material, deliveries, cancellations, uuids]

section Rows

variable {Row Key : Type} [MessageRow Row] [LawfulMessageRow Row] {key : Row → Key}

theorem isMessage_with {row : Row} {columns : RecipientColumns} {clientMessageId : String} :
    isMessage session clientMessageId (MessageRow.withRecipient row columns) =
      isMessage session clientMessageId row := by
  have same := LawfulMessageRow.asMessageRow_with row columns
  have named := congrArg QueueMessageRow.sessionName same
  have message := congrArg QueueMessageRow.clientMessageId same
  simp only [asMessageRow] at named message
  unfold isMessage
  rw [named, message]

theorem holds_iff_planned {plan : RowPlan} {before after : Table Row Key key} {row : Row}
    {clientMessageId : String} (rows : after.rows = before.rows.filterMap plan.apply)
    (member : row ∈ before) (message : isMessage session clientMessageId row = true)
    (alone : ∀ other, other ∈ before → isMessage session clientMessageId other = true →
      other = row) :
    after.holds (isMessage session clientMessageId) = (plan (asMessageRow row)).isSome := by
  rw [Bool.eq_iff_iff, Table.holds_iff, Option.isSome_iff_exists]
  constructor
  · rintro ⟨later, laterMember, laterMessage⟩
    obtain ⟨old, oldMember, became⟩ := List.mem_filterMap.mp
      (show later ∈ before.rows.filterMap plan.apply from rows ▸ laterMember)
    obtain ⟨columns, planned, rfl⟩ := Option.map_eq_some_iff.mp became
    rw [isMessage_with] at laterMessage
    cases alone old oldMember laterMessage
    exact ⟨columns, planned⟩
  · rintro ⟨columns, planned⟩
    refine ⟨MessageRow.withRecipient row columns, ?_, isMessage_with.trans message⟩
    change _ ∈ after.rows
    rw [rows]
    exact List.mem_filterMap.mpr ⟨row, member, congrArg (Option.map _) planned⟩

end Rows

theorem Converged.keptWhole {last : TransportQueueStore × AdoptLegacyRecipientResult}
    {clientMessageId : String} (converged : Converged session recipient createdAt store last)
    (hands : store.SameHands session clientMessageId) :
    store.KeptWhole last.1 session clientMessageId := by
  intro holdsEntry holdsMaterial
  obtain ⟨row, rowMember, rowMessage⟩ := Table.holds_iff.mp holdsEntry
  obtain ⟨held, heldMember, heldMessage⟩ := Table.holds_iff.mp holdsMaterial
  have entryKept := holds_iff_planned converged.follows.entries rowMember rowMessage
    fun other member message => Table.eq_of_key member rowMember
      ((isMessage_iff_entryKey.mp message).trans (isMessage_iff_entryKey.mp rowMessage).symm)
  have materialKept := holds_iff_planned converged.follows.material heldMember heldMessage
    fun other member message => Table.eq_of_key member heldMember
      ((isMessage_iff_materialKey.mp message).trans
        (isMessage_iff_materialKey.mp heldMessage).symm)
  unfold TransportQueueStore.holdsEntry TransportQueueStore.holdsMaterial
  rw [entryKept, materialKept]
  have both := hands row rowMember rowMessage held heldMember heldMessage
  simp only [isMessage, MessageRow.sessionName, MessageRow.clientMessageId, Bool.and_eq_true,
    decide_eq_true_eq] at rowMessage heldMessage
  unfold wholePlan adoptionPlan
  simp only [asMessageRow, MessageRow.sessionName, MessageRow.clientMessageId,
    MessageRow.recipient, rowMessage.1, rowMessage.2, heldMessage.1, heldMessage.2]
  by_cases legacy : row.recipient = .legacy
  · have other := both.mp legacy
    simp [isRecoverable, legacy, other]
  · have other : held.recipient ≠ .legacy := fun isLegacy => legacy (both.mpr isLegacy)
    simp only [legacy, other, decide_false, Bool.false_and, Bool.false_eq_true, if_false]
    split
    · split
      · rfl
      · rfl
    · split
      · rfl
      · rfl

end Calls

/-- No operation leaves a message's row and material in different hands. -/
theorem reachable_sameHands [Host] {store : TransportQueueStore} (reachable : Reachable store)
    (session clientMessageId : String) : store.SameHands session clientMessageId := by
  intro row member message held heldMember heldMessage
  obtain ⟨paired, pairedMember, sameKey, sameRecipient⟩ :=
    reachable_paired reachable held heldMember
  have isMessageKey := (isMessage_iff_materialKey.mp heldMessage).trans
    (isMessage_iff_entryKey.mp message).symm
  rw [← Table.eq_of_key pairedMember member (sameKey.trans isMessageKey), sameRecipient]

/-- Repeated adoption ends; unless it is refused, with a queue of the caller's, no message
of one generation in two pieces, and the bounds seen in the version alone. -/
theorem adoption_converges (store : TransportQueueStore) {sessionName session : String}
    (recipient : QueueRecipientIdentity) (sessionCreatedAt : JsNumber)
    (named : normalizeSessionName sessionName = .ok session) :
    store.AdoptionConverges sessionName session recipient sessionCreatedAt
      (store.SameHands session) (AlikeButForVersion session) := by
  rcases store.adopt_cases recipient sessionCreatedAt named with
    refused | ⟨unheld, ⟨caller, usable⟩, bound⟩ |
    ⟨caller, createdAt, held, usable, rfl, nonnegative, admits⟩
  · have settled : ∀ {limits : Nat → Option Int} {last}, store.AdoptionEnds sessionName recipient
        sessionCreatedAt limits last → last.1 = store := by
      rintro limits last ⟨_, calls, ran⟩
      rw [adoptRepeatedly_of_settled (refused (limits 0)) (by simp) calls] at ran
      cases ran
      rfl
    constructor
    · intro limits
      exact ⟨_, by simp, 0, refused (limits 0)⟩
    · intro limit first call _
      cases (refused limit).symm.trans call
      rfl
    · intro limits first last call accepted _
      cases (refused (limits 0)).symm.trans call
      exact absurd rfl accepted
    · intro limits last clientMessageId _ ends entry material
      rw [settled ends, entry, material]
    · intro limits otherLimits last other ends otherEnds
      rw [AlikeButForVersion, settled ends, settled otherEnds]
  · have settled : ∀ {limits : Nat → Option Int} {last}, store.AdoptionEnds sessionName recipient
        sessionCreatedAt limits last → last = (store, ⟨.alreadyBound, 0, 0⟩) := by
      rintro limits last ⟨_, calls, ran⟩
      rw [adoptRepeatedly_of_settled (bound (limits 0)) (by simp) calls] at ran
      cases ran
      rfl
    constructor
    · intro limits
      exact ⟨_, by simp, 0, bound (limits 0)⟩
    · intro limit first call _
      cases (bound limit).symm.trans call
      rfl
    · intro limits first last call accepted ends
      cases settled ends
      refine ⟨.inr rfl, ?_⟩
      unfold queueBelongsTo
      simp only [named, bind, Except.bind, usable, unheld]
      rfl
    · intro limits last clientMessageId _ ends entry material
      rw [settled ends, entry, material]
    · intro limits otherLimits last other ends otherEnds
      rw [AlikeButForVersion, settled ends, settled otherEnds]
  · constructor
    · intro limits
      obtain ⟨last, ran, outcome⟩ := @adoptRepeatedly_of_admits session caller createdAt store
        sessionName recipient held limits named usable nonnegative admits
        (store.remaining session caller).length
      rcases outcome with ⟨_, _, fewer⟩ | converged
      · omega
      · refine ⟨last, ?_, _, ran⟩
        rcases converged.status with adopted | bound
        · simp [adopted]
        · simp [bound]
    · intro limit first call conflict
      obtain ⟨result, ran, outcome⟩ := @adopt_of_admits session caller createdAt store
        sessionName recipient held limit named usable nonnegative admits
      cases ran.symm.trans call
      rcases outcome with ⟨pending, _⟩ | converged
      · cases pending.symm.trans conflict
      · rcases converged.status with adopted | bound
        · cases adopted.symm.trans conflict
        · cases bound.symm.trans conflict
    · intro limits first last _ _ ends
      have converged := Converged.of_ends named usable nonnegative admits ends
      exact ⟨converged.status, converged.belongs named usable⟩
    · intro limits last clientMessageId hands ends
      exact (Converged.of_ends named usable nonnegative admits ends).keptWhole hands
    · intro limits otherLimits last other ends otherEnds
      exact (Converged.of_ends named usable nonnegative admits ends).alike
        (Converged.of_ends named usable nonnegative admits otherEnds)

section FixedRuns

private def caller : QueueRecipientIdentity := ⟨"instance", "epoch"⟩

private def legacyMeta : QueueMetaRow := ⟨"s", "e", "a", 0, 2, .legacy⟩

private def entryAt (clientMessageId : String) (ordinal : Nat) (createdAt : Int)
    (recipient : RecipientColumns) : QueueEntryRow :=
  ⟨"s", clientMessageId, none, "text", .queued, .normal, ordinal, createdAt, createdAt, none, none,
    none, none, none, none, none, none, none, none, recipient⟩

/-- Two messages older than the session, with their private material. -/
private def staleMessages : TransportQueueStore where
  queueMeta := ⟨[legacyMeta], by decide⟩
  queueEntries := ⟨[entryAt "m1" 0 5 .legacy, entryAt "m2" 1 5 .legacy], by decide⟩
  queuePrivateMaterial := ⟨[⟨"s", "m1", .encoded .null, 5, .legacy⟩,
    ⟨"s", "m2", .encoded .null, 5, .legacy⟩], by decide⟩
  queueDeliveryTombstones := .empty
  queueCancellationTombstones := .empty
  uuidsIssued := 0

/-- An old row whose private material an earlier runtime of the caller's instance wrote. -/
private def mixedMessage : TransportQueueStore where
  queueMeta := ⟨[legacyMeta], by decide⟩
  queueEntries := ⟨[entryAt "m1" 0 5 .legacy], by decide⟩
  queuePrivateMaterial := ⟨[⟨"s", "m1", .encoded .null, 20, ⟨some "instance", some "before"⟩⟩], by decide⟩
  queueDeliveryTombstones := .empty
  queueCancellationTombstones := .empty
  uuidsIssued := 0

private def adoptsWith (store : TransportQueueStore) (limit : Int) (calls : Nat)
    (p : TransportQueueStore → Bool) : Bool :=
  match store.adoptRepeatedly "s" caller (.finite 10) (fun _ => some limit) calls with
  | .ok last => last.2.status ≠ .pending && p last.1
  | .error _ => false

private theorem adoptsWith_ends {store : TransportQueueStore} {limit : Int} {calls : Nat}
    {p : TransportQueueStore → Bool} (ran : adoptsWith store limit calls p = true) :
    ∃ last, store.AdoptionEnds "s" caller (.finite 10) (fun _ => some limit) last ∧
      p last.1 = true := by
  unfold adoptsWith at ran
  split at ran
  · next last answered =>
      simp only [Bool.and_eq_true, decide_eq_true_eq] at ran
      exact ⟨last, ⟨ran.1, calls, answered⟩, ran.2⟩
  · cases ran

private def versions (store : TransportQueueStore) : List Nat :=
  store.queueMeta.rows.map (·.pendingMessageVersion)

/-- Two purging calls count the version up twice, one call once; and a stale public row goes
without the material that another recipient owns. -/
theorem adoption_shows_limits_and_splits :
    ¬ staleMessages.AdoptionConverges "s" "s" caller (.finite 10) (fun _ => True) Eq ∧
      ¬ mixedMessage.AdoptionConverges "s" "s" caller (.finite 10) (fun _ => True)
        (AlikeButForVersion "s") := by
  constructor
  · intro converges
    obtain ⟨slow, slowEnds, slowVersion⟩ := @adoptsWith_ends staleMessages 1 1
      (fun store => versions store = [2]) (by decide +kernel)
    obtain ⟨fast, fastEnds, fastVersion⟩ := @adoptsWith_ends staleMessages 64 0
      (fun store => versions store = [1]) (by decide +kernel)
    rw [converges.independent _ _ _ _ slowEnds fastEnds, of_decide_eq_true fastVersion]
      at slowVersion
    cases slowVersion
  · intro converges
    obtain ⟨last, ends, split⟩ := @adoptsWith_ends mixedMessage 64 0
      (fun store => !store.holdsEntry "s" "m1" && store.holdsMaterial "s" "m1") (by decide +kernel)
    rw [Bool.and_eq_true, Bool.not_eq_true'] at split
    have kept := converges.together _ _ "m1" trivial ends (by decide) (by decide)
    rw [split.1, split.2] at kept
    cases kept

theorem adoption_converges_stale :
    normalizeSessionName " s " = .ok "s" ∧
      staleMessages.AdoptionConverges " s " "s" caller (.finite 10)
        (staleMessages.SameHands "s") (AlikeButForVersion "s") :=
  ⟨by decide +kernel, adoption_converges staleMessages caller (.finite 10) (by decide +kernel)⟩

end FixedRuns

end TransportQueueStore

end ImCodes.Queue
