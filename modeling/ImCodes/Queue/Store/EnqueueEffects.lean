import ImCodes.Queue.Store.QueueEffects

/-!
# Enqueueing as changes

An enqueue opens the metadata, prunes the cancellations and, unless one of them
stops it, may replace the queue of another session instance before it adds its row.
-/

set_option autoImplicit false

namespace ImCodes.Queue

open Library

namespace TransportQueueStore

theorem isForeignQueue_iff {store : TransportQueueStore} {session : String}
    {identity : QueueRecipientIdentity} :
    store.isForeignQueue session (some identity) = true ↔
      ∃ held, store.queueMeta.lookup session = some held ∧
        ∃ bound, truthy held.recipient.sessionInstanceId = some bound ∧
          bound ≠ identity.sessionInstanceId := by
  unfold isForeignQueue
  cases found : store.queueMeta.lookup session with
  | none => simp
  | some held =>
    cases bound : truthy held.recipient.sessionInstanceId <;>
      simp [bound, -truthy_eq_some_iff]

theorem isForeignQueue_of_own {store : TransportQueueStore} {session : String}
    {identity : QueueRecipientIdentity} {held : QueueMetaRow} (found : store.queueMeta.lookup session = some held)
    (own : held.recipient = identity.columns) :
    store.isForeignQueue session (some identity) = false := by
  rw [Bool.eq_false_iff, ne_eq, isForeignQueue_iff]
  rintro ⟨other, otherFound, bound, named, different⟩
  cases found.symm.trans otherFound
  rw [own] at named
  exact different (Option.some.inj (truthy_eq_some_iff.mp named).1).symm

theorem evictMessage_queueMeta {store : TransportQueueStore} {session : String}
    {evicted : Option String} :
    (store.evictMessage session evicted).queueMeta = store.queueMeta := by
  unfold evictMessage
  split <;> rfl

theorem supersedeCron_queueMeta {store : TransportQueueStore} {session : String}
    {commandId : Option String} {now : Int} :
    (store.supersedeCron session commandId now).queueMeta = store.queueMeta := by
  unfold supersedeCron
  split <;> rfl

variable [Host] {allowed : Footprint} {store : TransportQueueStore} {sessionName : String}

/-- The enqueue enters a queue bound to another session instance, which it replaces. -/
def replacesQueue (store : TransportQueueStore) (clock : Int)
    (input : EnqueueTransportQueueEntryInput) : Bool :=
  store.isForeignQueue (trim input.sessionName) (normalizeQueueRecipient input.recipient) &&
    !(store.pruneCancellations (input.now.getD clock)).isCancelled (trim input.sessionName)
      (store.identifyMessage input.clientMessageId).2 (normalizeQueueRecipient input.recipient)

theorem identifyMessage_tables (clientMessageId : Option String) :
    (store.identifyMessage clientMessageId).1.queueMeta = store.queueMeta ∧
      SameMessages store (store.identifyMessage clientMessageId).1 := by
  unfold identifyMessage
  split
  · exact ⟨rfl, rfl, rfl, rfl, rfl⟩
  · exact ⟨rfl, rfl, rfl, rfl, rfl⟩

theorem Changes.identifyMessage {start : TransportQueueStore}
    (changes : Changes allowed start store) (clientMessageId : Option String) :
    Changes allowed start (store.identifyMessage clientMessageId).1 := by
  unfold TransportQueueStore.identifyMessage
  split
  · exact changes
  · exact changes.change .issue

theorem isForeignQueue_ensureMeta (store : TransportQueueStore) (session : String)
    {recipient : Option QueueRecipientIdentity}
    (usable : normalizeQueueRecipient recipient = recipient) :
    (store.ensureMeta session recipient).1.isForeignQueue session recipient =
      store.isForeignQueue session recipient := by
  cases recipient with
  | none => rfl
  | some identity =>
    cases found : store.queueMeta.lookup session with
    | none =>
      have ours : store.isForeignQueue session (some identity) = false := by
        simp [isForeignQueue, found]
      rw [ours, ensureMeta_of_none found, usable]
      exact isForeignQueue_of_own (Table.lookup_insertOrIgnore_fresh found rfl) rfl
    | some existing =>
      rcases ensureMeta_of_some found (some identity) with
        same | ⟨unset, bound, normalized, adopted⟩
      · rw [same]
      · simp only [RecipientColumns.unset, Bool.and_eq_true, decide_eq_true_eq] at unset
        have ours : store.isForeignQueue session (some identity) = false := by
          simp [isForeignQueue, found, unset.1]
        cases usable.symm.trans normalized
        rw [ours, adopted]
        have named : existing.sessionName = session := (Table.lookup_eq_some_iff.mp found).2
        have stored : (store.setMetaRecipient session identity.columns).queueMeta.lookup
            session = some { existing with recipient := identity.columns } := by
          simp [setMetaRecipient, Table.lookup_updateWhere, found, named]
        exact isForeignQueue_of_own stored rfl

theorem Changes.supersedeCron {start : TransportQueueStore} (changes : Changes allowed start store)
    {session : String} (commandId : Option String) (now : Int) :
    Changes allowed start (store.supersedeCron session commandId now) := by
  unfold TransportQueueStore.supersedeCron
  split
  · apply changes.updateEntries
    exact fun row _ => ⟨rfl, rfl, rfl, rfl, rfl, fun revived => (by cases revived),
      fun _ leased => (by cases leased), fun given => by cases given⟩
  · exact changes

theorem Changes.evictMessage {start : TransportQueueStore} (changes : Changes allowed start store)
    {session : String} (evicted : Option String) :
    Changes allowed start (store.evictMessage session evicted) := by
  unfold TransportQueueStore.evictMessage
  split
  · exact changes.deleteMessage _ ungated
  · exact changes

theorem Changes.insertMessage {start inserted : TransportQueueStore}
    (changes : Changes allowed start store) {input : EnqueueTransportQueueEntryInput}
    {session clientMessageId : String} {recipient : Option QueueRecipientIdentity} {now : Int}
    {held : QueueMetaRow} (found : store.queueMeta.lookup session = some held)
    (mayInsert : allowed.inserts
      (newEntryRow input session clientMessageId recipient now held.nextOrdinal))
    (done : store.insertMessage input session clientMessageId recipient now held.nextOrdinal =
      .ok inserted) : Changes allowed start inserted := by
  unfold TransportQueueStore.insertMessage at done
  split at done
  · cases done
  · next entries accepted =>
      cases done
      refine changes.change (.insert _ held entries
        (newMaterialRow input session clientMessageId recipient now) mayInsert found rfl ?_ rfl rfl ?_
        accepted)
      · simp only [newEntryRow, newMaterialRow, Option.isSome_map]
      · intro given isGiven
        obtain ⟨materialJson, _, rfl⟩ := Option.map_eq_some_iff.mp isGiven
        exact ⟨rfl, rfl⟩

theorem replaceForeignQueue_stored {session : String} (recipient : Option QueueRecipientIdentity)
    {held : QueueMetaRow} (found : store.queueMeta.lookup session = some held) :
    ∃ owned, (store.replaceForeignQueue session recipient).queueMeta.lookup session =
      some owned := by
  unfold replaceForeignQueue
  split
  · obtain ⟨stored, storedFound, _⟩ :=
      ensureMeta_stored (store.deleteSessionQueueStateRows session) session recipient
    exact ⟨stored, storedFound⟩
  · exact ⟨held, found⟩

theorem ensureMeta_returned {session : String} {recipient : Option QueueRecipientIdentity}
    {held : QueueMetaRow} (found : store.queueMeta.lookup session = some held) :
    (store.ensureMeta session recipient).2 = held := by
  rcases ensureMeta_of_some found recipient with same | ⟨_, identity, _, adopted⟩
  · rw [same]
  · rw [adopted]

theorem Changes.enterQueue {start : TransportQueueStore} {input : EnqueueTransportQueueEntryInput}
    {session clientMessageId : String} {recipient : Option QueueRecipientIdentity} {now : Int}
    {evicted : Option String} {held : QueueMetaRow}
    (changes : Changes allowed start (store.replaceForeignQueue session recipient))
    (found : store.queueMeta.lookup session = some held)
    (mayInsert : ∀ ordinal, allowed.inserts
      (newEntryRow input session clientMessageId recipient now ordinal))
    {result : TransportQueueStore × EnqueueTransportQueueEntryResult}
    (done : store.admitMessage input session clientMessageId recipient now evicted = .ok result) :
    Changes allowed start result.1 := by
  obtain ⟨inserted, insertion, done⟩ := bind_eq_ok.mp done
  obtain ⟨owned, ownedFound⟩ := replaceForeignQueue_stored recipient found
  rw [ensureMeta_returned ownedFound] at insertion
  cases done
  dsimp only
  refine Changes.snapshotAfter (Changes.bumpVersion ?_) _ _
  refine Changes.insertMessage ((changes.supersedeCron _ _).evictMessage _) ?_ (mayInsert _)
    insertion
  rw [evictMessage_queueMeta, supersedeCron_queueMeta]
  exact ownedFound

theorem Changes.replaceForeignQueue {start : TransportQueueStore}
    (changes : Changes allowed start store) {session : String}
    {recipient : Option QueueRecipientIdentity}
    (mayWipe : store.isForeignQueue session recipient = true → allowed.wipes session) :
    Changes allowed start (store.replaceForeignQueue session recipient) := by
  unfold TransportQueueStore.replaceForeignQueue
  split
  · next isForeign => exact (changes.change (.wipe session (mayWipe isForeign))).ensureMeta _
  · exact changes

theorem openForEnqueue_isForeignQueue {input : EnqueueTransportQueueEntryInput} {session : String}
    {now : Int} :
    (store.openForEnqueue session input now).isForeignQueue session
        (normalizeQueueRecipient input.recipient) =
      store.isForeignQueue session (normalizeQueueRecipient input.recipient) := by
  refine (isForeignQueue_ensureMeta (store.identifyMessage input.clientMessageId).1 session
    (normalizeQueueRecipient_idem input.recipient)).trans ?_
  unfold isForeignQueue
  rw [(identifyMessage_tables input.clientMessageId).1]

theorem openForEnqueue_isCancelled {input : EnqueueTransportQueueEntryInput}
    {session clientMessageId : String} {now : Int} {recipient : Option QueueRecipientIdentity} :
    (store.openForEnqueue session input now).isCancelled session clientMessageId recipient =
      (store.pruneCancellations now).isCancelled session clientMessageId recipient := by
  have same := (@identifyMessage_tables _ store input.clientMessageId).2.trans
    (ensureMeta_sameMessages (store.identifyMessage input.clientMessageId).1 session
      (normalizeQueueRecipient input.recipient))
  unfold openForEnqueue isCancelled pruneCancellations
  dsimp only
  rw [same.queueCancellationTombstones]

theorem replacesQueue_of_admitted {clock : Int} {input : EnqueueTransportQueueEntryInput}
    (admitted : ¬ (store.openForEnqueue (trim input.sessionName) input
      (input.now.getD clock)).isCancelled (trim input.sessionName)
        (store.identifyMessage input.clientMessageId).2
        (normalizeQueueRecipient input.recipient) = true)
    (isForeign : (store.openForEnqueue (trim input.sessionName) input
      (input.now.getD clock)).isForeignQueue (trim input.sessionName)
        (normalizeQueueRecipient input.recipient) = true) :
    store.replacesQueue clock input = true := by
  rw [openForEnqueue_isForeignQueue] at isForeign
  rw [openForEnqueue_isCancelled, Bool.not_eq_true] at admitted
  rw [replacesQueue, isForeign, admitted]
  rfl

theorem openForEnqueue_stored {input : EnqueueTransportQueueEntryInput} {session : String}
    {now : Int} : ∃ stored,
    (store.openForEnqueue session input now).queueMeta.lookup session = some stored := by
  obtain ⟨stored, storedFound, _⟩ := ensureMeta_stored
    (store.identifyMessage input.clientMessageId).1 session
    (normalizeQueueRecipient input.recipient)
  exact ⟨stored, storedFound⟩

theorem Changes.openForEnqueue {start : TransportQueueStore} (changes : Changes allowed start store)
    {input : EnqueueTransportQueueEntryInput} {session : String} {now : Int}
    (mayPrune : allowed.prunes now) :
    Changes allowed start (store.openForEnqueue session input now) :=
  ((changes.identifyMessage _).ensureMeta _).change (.prune _ mayPrune)

theorem enqueueWithCapacityEviction_changes {clock : Int} {input : EnqueueTransportQueueEntryInput}
    {evicted : Option String} {result : TransportQueueStore × EnqueueTransportQueueEntryResult}
    (mayPrune : allowed.prunes (input.now.getD clock))
    (mayWipe : ∀ session, normalizeSessionName input.sessionName = .ok session →
      store.replacesQueue clock input = true → allowed.wipes session)
    (mayInsert : ∀ ordinal, allowed.inserts (newEntryRow input (trim input.sessionName)
      (store.identifyMessage input.clientMessageId).2 (normalizeQueueRecipient input.recipient)
      (input.now.getD clock) ordinal))
    (done : store.enqueueWithCapacityEviction clock input evicted = .ok result) :
    Changes allowed store result.1 := by
  obtain ⟨session, named, done⟩ := bind_eq_ok.mp done
  obtain ⟨rfl, _, _⟩ := normalizeSessionName_eq_ok named
  have opened : Changes allowed store
      (store.openForEnqueue (trim input.sessionName) input (input.now.getD clock)) :=
    Changes.refl.openForEnqueue mayPrune
  dsimp only at done
  split at done
  · cases done
    dsimp only
    exact opened.snapshotAfter _ _
  · next admitted =>
      obtain ⟨stored, storedFound⟩ := @openForEnqueue_stored _ store _ _ _
      refine (opened.replaceForeignQueue ?_).enterQueue storedFound mayInsert done
      exact fun isForeign => mayWipe _ named (replacesQueue_of_admitted admitted isForeign)

end TransportQueueStore

end ImCodes.Queue
