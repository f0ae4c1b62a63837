import ImCodes.Queue.Store.EnqueueEffects

/-!
# Admitted messages

When an enqueue adds its row, and which rows are in the queue afterwards.
-/

set_option autoImplicit false

namespace ImCodes.Queue

open Library

namespace TransportQueueStore

theorem mem_deleteMessage_ungated {store : TransportQueueStore} {session clientMessageId : String}
    {row : QueueEntryRow} :
    row ∈ (store.deleteMessage session clientMessageId ungated).queueEntries ↔
      row ∈ store.queueEntries ∧ row.key ≠ (session, clientMessageId) := by
  change row ∈ store.queueEntries.deleteWhere _ ↔ _
  rw [Table.mem_deleteWhere, ungated, Bool.and_true, ← Bool.not_eq_true,
    isMessage_iff_entryKey]

def Outlasts (session : String) (replaced : Bool) (evicted : Option String) (row : QueueEntryRow) :
    Prop :=
  row.sessionName = session → replaced = false ∧ evicted ≠ some row.clientMessageId

theorem mem_evictMessage {store : TransportQueueStore} {session : String}
    {evicted : Option String} {row : QueueEntryRow} :
    row ∈ (store.evictMessage session evicted).queueEntries ↔
      row ∈ store.queueEntries ∧ (row.sessionName = session → evicted ≠ some row.clientMessageId) := by
  unfold evictMessage
  cases evicted with
  | none => simp
  | some clientMessageId =>
    dsimp only
    rw [mem_deleteMessage_ungated]
    refine and_congr_right fun _ => ?_
    rw [QueueEntryRow.key, ne_eq, Prod.mk.injEq, not_and]
    simp only [ne_eq, Option.some.injEq, eq_comm]

def supersededBy (session : String) (commandId : Option String) (row : QueueEntryRow) : Bool :=
  (cronScheduleId commandId).any fun schedule => supersededByCron session schedule row

theorem mem_supersedeCron {store : TransportQueueStore} {session : String}
    {commandId : Option String} {now : Int} {row : QueueEntryRow} :
    row ∈ (store.supersedeCron session commandId now).queueEntries ↔
      ∃ old, old ∈ store.queueEntries ∧
        (if supersededBy session commandId old then old.supersede now else old) = row := by
  unfold supersedeCron supersededBy
  cases cronScheduleId commandId with
  | none => simp
  | some schedule => exact mem_updateEntries

theorem supersede_key {session : String} {commandId : Option String} {now : Int}
    (old : QueueEntryRow) :
    (if supersededBy session commandId old then old.supersede now else old).key = old.key := by
  split <;> rfl

theorem insertMessage_queueEntries {store : TransportQueueStore}
    {input : EnqueueTransportQueueEntryInput}
    {session clientMessageId : String} {recipient : Option QueueRecipientIdentity} {now : Int}
    {ordinal : Nat} {inserted : TransportQueueStore}
    (done : store.insertMessage input session clientMessageId recipient now ordinal =
      .ok inserted) :
    store.queueEntries.insert (newEntryRow input session clientMessageId recipient now ordinal) =
      some inserted.queueEntries := by
  unfold insertMessage at done
  split at done
  · cases done
  · next entries accepted =>
      cases done
      exact accepted

theorem insertMessage_error {store : TransportQueueStore} {input : EnqueueTransportQueueEntryInput}
    {session clientMessageId : String} {recipient : Option QueueRecipientIdentity} {now : Int}
    {ordinal : Nat} {error : QueueStoreError}
    (failed : store.insertMessage input session clientMessageId recipient now ordinal =
      .error error) :
    ∃ old, old ∈ store.queueEntries ∧ old.key = (session, clientMessageId) := by
  unfold insertMessage at failed
  split at failed
  · next conflict => exact Table.insert_eq_none_iff.mp conflict
  · cases failed

section Host

variable [Host] {store : TransportQueueStore}

theorem mem_replaceForeignQueue {session : String} {caller : Option QueueRecipientIdentity}
    {row : QueueEntryRow} :
    row ∈ (store.replaceForeignQueue session caller).queueEntries ↔
      row ∈ store.queueEntries ∧
        (row.sessionName = session → store.isForeignQueue session caller = false) := by
  unfold replaceForeignQueue
  split
  · next isForeign =>
      rw [(ensureMeta_sameMessages _ _ _).queueEntries]
      change row ∈ store.queueEntries.deleteWhere (inSession session) ↔ _
      rw [Table.mem_deleteWhere, isForeign]
      simp [inSession, MessageRow.sessionName]
  · next own =>
      simp [Bool.not_eq_true _ ▸ own]

theorem openForEnqueue_queueEntries {input : EnqueueTransportQueueEntryInput} {session : String}
    {now : Int} : (store.openForEnqueue session input now).queueEntries = store.queueEntries :=
  ((identifyMessage_tables input.clientMessageId).2.trans
    (ensureMeta_sameMessages _ session _)).queueEntries

theorem mem_makeRoom {input : EnqueueTransportQueueEntryInput} {session : String} {now : Int}
    {evicted : Option String} {row : QueueEntryRow} :
    row ∈ ((((store.openForEnqueue session input now).replaceForeignQueue session
        (normalizeQueueRecipient input.recipient)).supersedeCron session input.commandId
          now).evictMessage session evicted).queueEntries ↔
      ∃ old, old ∈ store.queueEntries ∧
        Outlasts session (store.isForeignQueue session (normalizeQueueRecipient input.recipient))
          evicted old ∧
        (if supersededBy session input.commandId old then old.supersede now else old) = row := by
  simp only [mem_evictMessage, mem_supersedeCron, mem_replaceForeignQueue,
    openForEnqueue_isForeignQueue, openForEnqueue_queueEntries, Outlasts]
  constructor
  · rintro ⟨⟨old, ⟨member, owned⟩, isRow⟩, kept⟩
    refine ⟨old, member, fun inside => ⟨owned inside, ?_⟩, isRow⟩
    subst isRow
    split at kept
    · exact kept inside
    · exact kept inside
  · rintro ⟨old, member, outlasts, isRow⟩
    refine ⟨⟨old, ⟨member, fun inside => (outlasts inside).1⟩, isRow⟩, ?_⟩
    subst isRow
    split
    · exact fun inside => (outlasts inside).2
    · exact fun inside => (outlasts inside).2

/-- An enqueue adds its row unless the session is unnamed, the message cancelled, or
another row of the message in the way. -/
def Admits (store : TransportQueueStore) (input : EnqueueTransportQueueEntryInput)
    (clientMessageId : String) (now : Int) (evicted : Option String) : Prop :=
  trim input.sessionName ≠ "" ∧
    (store.pruneCancellations now).isCancelled (trim input.sessionName) clientMessageId
      (normalizeQueueRecipient input.recipient) = false ∧
    ∀ row, row ∈ store.queueEntries → row.key = (trim input.sessionName, clientMessageId) →
      ¬ Outlasts (trim input.sessionName) (store.isForeignQueue (trim input.sessionName)
        (normalizeQueueRecipient input.recipient)) evicted row

def IsEnqueued (input : EnqueueTransportQueueEntryInput) (clientMessageId : String) (now : Int)
    (row : QueueEntryRow) : Prop :=
  ∃ ordinal, row = newEntryRow input (trim input.sessionName) clientMessageId
    (normalizeQueueRecipient input.recipient) now ordinal

theorem enqueueWithCapacityEviction_admitted (clock : Int)
    {input : EnqueueTransportQueueEntryInput} {clientMessageId : String}
    {evicted : Option String}
    (identified : (store.identifyMessage input.clientMessageId).2 = clientMessageId)
    (admits : store.Admits input clientMessageId (input.now.getD clock) (trimmed evicted)) :
    ∃ result, store.enqueueWithCapacityEviction clock input evicted = .ok result ∧
      result.2.cancelled = false ∧
      ∃ fresh, IsEnqueued input clientMessageId (input.now.getD clock) fresh ∧
        ∀ row, row ∈ result.1.queueEntries ↔ row = fresh ∨
          ∃ old, old ∈ store.queueEntries ∧
            Outlasts (trim input.sessionName) (store.isForeignQueue (trim input.sessionName)
              (normalizeQueueRecipient input.recipient)) (trimmed evicted) old ∧
            (if supersededBy (trim input.sessionName) input.commandId old then
              old.supersede (input.now.getD clock) else old) = row := by
  obtain ⟨named, notCancelled, noConflict⟩ := admits
  subst identified
  have normalized : normalizeSessionName input.sessionName = .ok (trim input.sessionName) := by
    simp [normalizeSessionName, named]
  have entered : store.enqueueWithCapacityEviction clock input evicted =
      (store.openForEnqueue (trim input.sessionName) input (input.now.getD clock)).admitMessage
        input (trim input.sessionName) (store.identifyMessage input.clientMessageId).2
        (normalizeQueueRecipient input.recipient) (input.now.getD clock) (trimmed evicted) := by
    simp [enqueueWithCapacityEviction, normalized, openForEnqueue_isCancelled, notCancelled, bind,
      Except.bind]
  rw [entered]
  unfold admitMessage
  dsimp only [bind, Except.bind]
  split
  · next error failed =>
      obtain ⟨row, member, sameKey⟩ := insertMessage_error failed
      obtain ⟨old, oldMember, outlasts, rfl⟩ := mem_makeRoom.mp member
      rw [supersede_key] at sameKey
      exact absurd outlasts (noConflict old oldMember sameKey)
  · next inserted insertion =>
      obtain ⟨entries, fresh, isFresh, stored, rfl⟩ : ∃ entries fresh,
          IsEnqueued input (store.identifyMessage input.clientMessageId).2 (input.now.getD clock)
            fresh ∧ Table.insert entries fresh = some inserted.queueEntries ∧
          entries = _ :=
        ⟨_, _, ⟨_, rfl⟩, insertMessage_queueEntries insertion, rfl⟩
      refine ⟨_, rfl, rfl, fresh, isFresh, fun row => ?_⟩
      have same := ((bumpVersion_sameMessages inserted (trim input.sessionName)).trans
        (snapshotAfter_sameMessages _ (trim input.sessionName) "enqueue"
          (some (inserted.bumpVersion (trim input.sessionName)).2.version))).queueEntries
      dsimp only
      rw [same, Table.mem_insert stored, mem_makeRoom, or_comm]

theorem enqueueWithCapacityEviction_refused (clock : Int)
    {input : EnqueueTransportQueueEntryInput} {clientMessageId : String}
    {evicted : Option String}
    (identified : (store.identifyMessage input.clientMessageId).2 = clientMessageId)
    (refused : ¬ store.Admits input clientMessageId (input.now.getD clock) (trimmed evicted)) :
    (∃ error, store.enqueueWithCapacityEviction clock input evicted = .error error) ∨
      ∃ result, store.enqueueWithCapacityEviction clock input evicted = .ok result ∧
        result.2.cancelled = true ∧ result.1.queueEntries = store.queueEntries := by
  subst identified
  cases done : store.enqueueWithCapacityEviction clock input evicted with
  | error error => exact .inl ⟨error, rfl⟩
  | ok result =>
    refine .inr ⟨result, rfl, ?_⟩
    obtain ⟨session, named, done⟩ := bind_eq_ok.mp done
    obtain ⟨rfl, nonempty, _⟩ := normalizeSessionName_eq_ok named
    dsimp only at done
    split at done
    · cases done
      refine ⟨rfl, ?_⟩
      dsimp only
      rw [(snapshotAfter_sameMessages _ _ _ _).queueEntries]
      exact openForEnqueue_queueEntries
    · next admitted =>
        refine absurd ⟨nonempty, ?_, ?_⟩ refused
        · rw [← openForEnqueue_isCancelled, Bool.eq_false_iff]
          exact admitted
        · intro old member sameKey outlasts
          obtain ⟨inserted, insertion, _⟩ := bind_eq_ok.mp done
          have unique := (Table.insert_eq_some (insertMessage_queueEntries insertion)).2
          refine unique _ (mem_makeRoom.mpr ⟨old, member, outlasts, rfl⟩) ?_
          rw [supersede_key]
          exact sameKey

end Host

end TransportQueueStore

end ImCodes.Queue
