import ImCodes.Queue.Resend.Mirror

/-!
# Removed resends

Entries are removed by a predicate on what the process holds in memory. Their durable rows are
dropped by a caller that proves no identity, so only rows that carry none go.
-/

set_option autoImplicit false

namespace ImCodes.Queue

open Library

/-- The durable row of an entry held for a session. -/
structure QueueEntryRow.IsRowOf (row : QueueEntryRow) (sessionName : String)
    (entry : ResendEntry) : Prop where
  named : trim sessionName ≠ ""
  inside : row.sessionName = trim sessionName
  isMessage : trimmed entry.clientMessageId = some row.clientMessageId

theorem QueueEntryRow.isRowOf_iff {row : QueueEntryRow} {sessionName : String} {entry : ResendEntry} :
    row.IsRowOf sessionName entry ↔ trim sessionName ≠ "" ∧ row.sessionName = trim sessionName ∧
      trimmed entry.clientMessageId = some row.clientMessageId :=
  ⟨fun ⟨named, inside, isMessage⟩ => ⟨named, inside, isMessage⟩,
    fun ⟨named, inside, isMessage⟩ => ⟨named, inside, isMessage⟩⟩

namespace ResendState

section Host

variable [Host]

/-- The durable part of a removal; an entry without an id is skipped. -/
def dropEntry (sessionName : String) (state : ResendState) (entry : ResendEntry) : ResendState :=
  match truthy entry.clientMessageId with
  | none => state
  | some clientMessageId =>
    (state.tryStore fun store => store.drop sessionName clientMessageId .userCleared none).1

def removeResendEntries (state : ResendState) (sessionName : String)
    (predicate : ResendEntry → Bool) : ResendState × Except QueueStoreError Nat :=
  let list := state.queues sessionName
  let kept := list.filter fun entry => !predicate entry
  let removed := list.length - kept.length
  if 0 < removed then
    let bumped := (state.setQueue sessionName kept).bumpTransportQueueRevision sessionName
    match bumped.2 with
    | .error error => (bumped.1, .error error)
    | .ok _ => ((list.filter predicate).foldl (dropEntry sessionName) bumped.1, .ok removed)
  else (state, .ok 0)

/-- A removed entry is neither held in memory nor pending in the store. -/
def RemovesWork (state : ResendState) (sessionName : String) (predicate : ResendEntry → Bool) :
    Prop :=
  let after := (state.removeResendEntries sessionName predicate).1
  ∀ entry ∈ state.queues sessionName, predicate entry = true →
    entry ∉ after.queues sessionName ∧
      ∀ row, row ∈ after.store.queueEntries → row.IsRowOf sessionName entry → row.pending = false

/-- No pending row of an entry to remove names a recipient. -/
def RemovesUnaddressed (state : ResendState) (sessionName : String)
    (predicate : ResendEntry → Bool) : Prop :=
  ∀ entry ∈ state.queues sessionName, predicate entry = true →
    ∀ row, row ∈ state.store.queueEntries → row.IsRowOf sessionName entry → row.pending = true →
      row.recipient = .legacy

theorem mem_drop_legacy {store : TransportQueueStore} {sessionName clientMessageId : String}
    {dropReason : QueueDropReason} {result : TransportQueueStore × QueueSnapshot}
    (done : store.drop sessionName clientMessageId dropReason none = .ok result)
    {row : QueueEntryRow} :
    row ∈ result.1.queueEntries ↔
      row ∈ store.queueEntries ∧
        ¬(row.key = (trim sessionName, trim clientMessageId) ∧ row.recipient = .legacy) := by
  have done := message_ok (session_ok done)
  cases done
  have opened := (TransportQueueStore.ensureMeta_sameMessages store (trim sessionName)
    none).queueEntries
  have bumped := (TransportQueueStore.bumpVersion_sameMessages
    ((store.ensureMeta (trim sessionName) none).1.deleteMessage (trim sessionName)
      (trim clientMessageId) (recipientPredicate (normalizeQueueRecipient none)))
    (trim sessionName)).queueEntries
  rw [(TransportQueueStore.snapshotAfter_sameMessages _ _ _ _).queueEntries, bumped]
  change row ∈ Table.deleteWhere _ _ ↔ _
  rw [Table.mem_deleteWhere, opened, ← Bool.not_eq_true, Bool.and_eq_true, isMessage_iff_entryKey,
    recipientPredicate_iff]
  rfl

theorem drop_answers {store : TransportQueueStore} {sessionName clientMessageId : String}
    (dropReason : QueueDropReason) (recipient : Option QueueRecipientIdentity)
    (named : trim sessionName ≠ "") (identified : trim clientMessageId ≠ "") :
    ∃ result, store.drop sessionName clientMessageId dropReason recipient = .ok result := by
  simp [TransportQueueStore.drop, normalizeSessionName, requireNonEmpty, named, identified, bind,
    Except.bind, pure, Except.pure]

theorem mem_dropEntry (sessionName : String) (state : ResendState) (entry : ResendEntry)
    (row : QueueEntryRow) :
    row ∈ (state.dropEntry sessionName entry).store.queueEntries ↔
      row ∈ state.store.queueEntries ∧
        ¬(row.IsRowOf sessionName entry ∧ row.recipient = .legacy) := by
  unfold dropEntry
  split
  · next skipped =>
      have noRow : ¬row.IsRowOf sessionName entry := by
        intro isRow
        have identified := isRow.isMessage
        simp only [trimmed, truthy_eq_some_iff, Option.map_eq_some_iff] at identified
        obtain ⟨⟨given, present, trimmedId⟩, nonempty⟩ := identified
        rw [present] at skipped
        have blank : given = "" := by simpa [truthy] using skipped
        rw [blank] at trimmedId
        exact nonempty trimmedId.symm
      simp [noRow]
  · next clientMessageId given =>
      have present := (truthy_eq_some_iff.mp given).1
      unfold tryStore
      split
      · next result done =>
          have named : trim sessionName ≠ "" := by
            obtain ⟨session, named, _⟩ := bind_eq_ok.mp done
            obtain ⟨rfl, nonempty, _⟩ := normalizeSessionName_eq_ok named
            exact nonempty
          have identified : trim clientMessageId ≠ "" := by
            obtain ⟨_, _, rest⟩ := bind_eq_ok.mp done
            obtain ⟨messageId, identified, _⟩ := bind_eq_ok.mp rest
            exact (requireNonEmpty_eq_ok identified).1 ▸ (requireNonEmpty_eq_ok identified).2
          have isRow : row.IsRowOf sessionName entry ↔
              row.key = (trim sessionName, trim clientMessageId) := by
            rw [QueueEntryRow.isRowOf_iff, QueueEntryRow.key, Prod.mk.injEq]
            simp [trimmed, present, truthy_some identified, named, eq_comm]
          rw [isRow]
          exact mem_drop_legacy done
      · next failed =>
          have noRow : ¬row.IsRowOf sessionName entry := by
            intro isRow
            have identified := isRow.isMessage
            simp only [trimmed, present, Option.map_some, truthy_eq_some_iff] at identified
            obtain ⟨result, done⟩ := @drop_answers _ state.store sessionName clientMessageId
              .userCleared none isRow.named (Option.some.inj identified.1 ▸ identified.2)
            dsimp only at failed
            rw [done] at failed
            cases failed
          simp [noRow]

theorem mem_dropEntries (sessionName : String) (entries : List ResendEntry) (state : ResendState)
    (row : QueueEntryRow) :
    row ∈ (entries.foldl (dropEntry sessionName) state).store.queueEntries ↔
      row ∈ state.store.queueEntries ∧
        ¬∃ entry ∈ entries, row.IsRowOf sessionName entry ∧ row.recipient = .legacy := by
  induction entries generalizing state with
  | nil => simp
  | cons entry rest ih =>
    rw [List.foldl_cons, ih, mem_dropEntry, and_assoc, ← not_or]
    simp

theorem dropEntries_queues (sessionName : String) (entries : List ResendEntry)
    (state : ResendState) :
    (entries.foldl (dropEntry sessionName) state).queues = state.queues := by
  refine foldl_unchanged ResendState.queues ?_ entries state
  intro before entry
  unfold dropEntry tryStore
  split
  · rfl
  · split <;> rfl

theorem removeResendEntries_spec (state : ResendState) (sessionName : String)
    (predicate : ResendEntry → Bool) :
    (state.removeResendEntries sessionName predicate).1.queues sessionName =
        ((state.queues sessionName).filter fun entry => !predicate entry) ∧
      ∀ row, row ∈ (state.removeResendEntries sessionName predicate).1.store.queueEntries ↔
        row ∈ state.store.queueEntries ∧
          ¬∃ entry ∈ state.queues sessionName, predicate entry = true ∧
            row.IsRowOf sessionName entry ∧ row.recipient = .legacy := by
  unfold removeResendEntries
  dsimp only
  split
  · obtain ⟨queues, entries⟩ := bumpTransportQueueRevision_spec
      (state.setQueue sessionName ((state.queues sessionName).filter fun entry =>
        !predicate entry)) sessionName
    split
    · next error failed =>
        refine ⟨by rw [queues]; simp [setQueue], fun row => ?_⟩
        have blank : trim sessionName = "" := by
          by_contra named
          simp [bumpTransportQueueRevision, TransportQueueStore.readSnapshot,
            normalizeSessionName, named, bind, Except.bind, pure, Except.pure] at failed
        have noRow : ∀ entry, ¬row.IsRowOf sessionName entry := fun entry isRow =>
          isRow.named blank
        rw [entries]
        simp [noRow, setQueue]
    · refine ⟨by rw [dropEntries_queues, queues]; simp [setQueue], fun row => ?_⟩
      rw [mem_dropEntries, entries]
      simp [setQueue, and_assoc]
  · next none_ =>
      have all : ∀ entry ∈ state.queues sessionName, predicate entry = false := by
        intro entry member
        have full : ((state.queues sessionName).filter fun entry => !predicate entry).length =
            (state.queues sessionName).length := by
          have shorter := List.length_filter_le (fun entry => !predicate entry)
            (state.queues sessionName)
          omega
        simpa using List.length_filter_eq_length_iff.mp full entry member
      refine ⟨(List.filter_eq_self.mpr fun entry member => by simp [all entry member]).symm,
        fun row => ?_⟩
      refine ⟨fun member => ⟨member, ?_⟩, And.left⟩
      rintro ⟨entry, listed, removed, _⟩
      rw [all entry listed] at removed
      cases removed

/-- Removing entries removes the work exactly when none of its pending rows names a
recipient. -/
theorem removeResendEntries_removes_iff (state : ResendState) (sessionName : String)
    (predicate : ResendEntry → Bool) :
    state.RemovesWork sessionName predicate ↔ state.RemovesUnaddressed sessionName predicate := by
  obtain ⟨queues, entries⟩ := removeResendEntries_spec state sessionName predicate
  unfold RemovesWork
  simp only [queues, entries]
  constructor
  · intro removes entry listed removed row member isRow pending
    by_contra addressed
    have gone := (removes entry listed removed).2 row
      ⟨member, fun ⟨_, _, _, _, legacy⟩ => addressed legacy⟩ isRow
    rw [pending] at gone
    cases gone
  · intro unaddressed entry listed removed
    refine ⟨by simp [removed], fun row ⟨member, kept⟩ isRow => ?_⟩
    rw [← Bool.not_eq_true]
    intro pending
    exact kept ⟨entry, listed, removed, isRow,
      unaddressed entry listed removed row member isRow pending⟩

end Host

section FixedRuns

open Library.FixedRuns TransportQueueStore

def addressedResend : ResendState :=
  (ResendState.enqueueResend ⟨fun _ => [], empty⟩ 1 "deck"
    (plainResend (some ⟨"instance", "epoch"⟩) "m1" "c1" 1)).1

/-- The removed message is still queued in the store. -/
theorem removed_message_stays :
    ¬∀ (state : ResendState) (sessionName : String) (predicate : ResendEntry → Bool),
      state.RemovesWork sessionName predicate := by
  intro removes
  have stays : (addressedResend.removeResendEntries "deck" fun entry =>
      entry.commandId = "c1").1.store.queueEntries.holds (fun row =>
        row.sessionName = "deck" && row.clientMessageId = "m1" && row.pending) = true := by
    decide +kernel
  obtain ⟨row, member, isRow⟩ := Table.holds_iff.mp stays
  simp only [Bool.and_eq_true, decide_eq_true_eq] at isRow
  obtain ⟨⟨inside, isMessage⟩, pending⟩ := isRow
  have listed : plainResend (some ⟨"instance", "epoch"⟩) "m1" "c1" 1 ∈
      addressedResend.queues "deck" := by decide +kernel
  have gone := (removes addressedResend "deck" (fun entry => entry.commandId = "c1") _ listed
    rfl).2 row member ⟨by decide, inside, by rw [isMessage]; decide⟩
  rw [pending] at gone
  cases gone

end FixedRuns

end ResendState

end ImCodes.Queue
