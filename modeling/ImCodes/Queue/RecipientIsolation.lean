import ImCodes.Queue.Store.IsolationEffects
import ImCodes.Queue.Store.Snapshots

/-!
# Recipient isolation

A call that takes a recipient acts on the rows addressed to exactly that recipient, and
shows it no other. What it changes beyond them is listed: the whole-session replacement,
supersession and eviction of an enqueue, expired cancellations, the record of a message
delivered again, and the rows a direct delivery contradicts.
-/

set_option autoImplicit false

namespace ImCodes.Queue

open Library

namespace Operation

/-- The recipient a call takes; the session-wide calls take none. -/
def recipient? : Operation → Option (Option QueueRecipientIdentity)
  | .enqueue _ input | .enqueueWithCapacityEviction _ input _ | .retry _ _ _ input =>
    some input.recipient
  | .markHandoffInFlight _ _ _ _ recipient | .markAppendFallback _ _ _ recipient
  | .finalizeSentBatch _ _ _ _ recipient _ | .recordDeliveryTombstone _ _ _ _ recipient _
  | .recordDirectDelivery _ _ _ _ recipient _ | .drop _ _ _ recipient
  | .cancelQueuedMessage _ _ recipient _ | .readSnapshotForRecipient _ recipient _ =>
    some recipient
  | .finalizeSent .. => some none
  | .adoptLegacyRecipientIdentity _ recipient _ _ | .bindFreshLaunchRecipient _ recipient _
  | .rebindRecipientRuntimeEpoch _ _ recipient => some (some recipient)
  | _ => none

/-- The call hands rows of the recipient's instance, or of nobody, over to the recipient. -/
def handsOver : Operation → Bool
  | .adoptLegacyRecipientIdentity .. | .bindFreshLaunchRecipient ..
  | .rebindRecipientRuntimeEpoch .. => true
  | _ => false

/-- Whose rows a call leaves alone: those of other instances where it hands rows over,
everybody's but the recipient's elsewhere. -/
def spared (operation : Operation) (recipient : Option QueueRecipientIdentity) :
    RecipientColumns → Prop :=
  if operation.handsOver then IsForeign (normalizeQueueRecipient recipient)
  else IsOther (normalizeQueueRecipient recipient)

/-- What a call that takes a recipient may change of other recipients' rows. -/
def excuses [Host] (store : TransportQueueStore) : Operation → Excuses
  | .enqueue clock input => enqueueExcuses store clock input none
  | .enqueueWithCapacityEviction clock input evicted => enqueueExcuses store clock input evicted
  | .retry clock sessionName failedClientMessageId input =>
    enqueueExcuses store clock (retryInput sessionName failedClientMessageId input) none
  | .markHandoffInFlight _ _ _ now _ | .cancelQueuedMessage _ _ _ now => .expired now
  | .finalizeSentBatch sessionName clientMessageIds _ _ recipient _ =>
    finalizeExcuses store sessionName clientMessageIds recipient
  | .finalizeSent sessionName clientMessageId _ _ _ =>
    finalizeExcuses store sessionName [clientMessageId] none
  | .recordDirectDelivery sessionName clientMessageId deliveryFrameId now recipient
      conversationKey =>
      ghostExcuses (store.next (.recordDeliveryTombstone sessionName clientMessageId
        deliveryFrameId now recipient conversationKey)) sessionName
  | _ => .none

end Operation

namespace TransportQueueStore

/-- The entry shows a row of the session that is addressed to the caller, and the delivery
policy of that row's own material. -/
def ShowsOwn (store : TransportQueueStore) (session : String)
    (caller : Option QueueRecipientIdentity) (entry : QueueProjectionEntry) : Prop :=
  ∃ row, row ∈ store.queueEntries ∧ row.sessionName = session ∧
    row.recipient = callerColumns caller ∧
    entry = buildQueueProjectionEntry (parseStoredEntry row
      ((store.queuePrivateMaterial.lookup row.key).filter fun held =>
        held.recipient = callerColumns caller))

theorem showsOwn_of_read {store : TransportQueueStore} {session : String}
    {recipientFilter : Option (Option QueueRecipientIdentity)}
    {caller : Option QueueRecipientIdentity} {entry : QueueStoredEntry}
    (read : entry ∈ store.readRows session recipientFilter)
    (own : entry.row.recipient = callerColumns caller) :
    store.ShowsOwn session caller (buildQueueProjectionEntry entry) := by
  obtain ⟨member, ofSession, _, parsed⟩ := mem_readRows read
  rw [own] at parsed
  exact ⟨entry.row, member, ofSession, own, congrArg buildQueueProjectionEntry parsed⟩

theorem readPrivateDispatchMaterial_own {store : TransportQueueStore}
    {sessionName clientMessageId : String} {recipient : Option QueueRecipientIdentity}
    {material : JsonText}
    (done : store.readPrivateDispatchMaterial sessionName clientMessageId recipient =
      .ok (some material)) :
    ∃ held, held ∈ store.queuePrivateMaterial ∧
      held.key = (trim sessionName, trim clientMessageId) ∧
      held.recipient = callerColumns (normalizeQueueRecipient recipient) ∧
      held.materialJson = material := by
  have done := message_ok (session_ok done)
  obtain ⟨held, gated, shown⟩ := Option.bind_eq_some_iff.mp (Except.ok.inj done)
  obtain ⟨found, own⟩ := Option.filter_eq_some_iff.mp gated
  obtain ⟨member, isTarget⟩ := Table.lookup_eq_some_iff.mp found
  exact ⟨held, member, isTarget, recipientPredicate_iff.mp own, JsonText.nonEmpty?_eq_some shown⟩

section Host

variable [Host]

/-- What a call that takes a recipient leases, finalizes, shows and leaves alone. -/
structure IsolatesRecipients (store : TransportQueueStore) : Prop where
  others : ∀ (operation : Operation) (recipient : Option QueueRecipientIdentity),
    operation.recipient? = some recipient →
    Spares (operation.spared recipient) (operation.excuses store) store (store.next operation)
  leased : ∀ (sessionName : String) (clientMessageIds : List String) (leaseMs now : Int)
    (recipient : Option QueueRecipientIdentity)
    (result : TransportQueueStore × List HandoffTransportQueueEntry),
    store.markHandoffInFlight sessionName clientMessageIds leaseMs now recipient = .ok result →
    ∀ handed ∈ result.2,
      result.1.ShowsOwn (trim sessionName) (normalizeQueueRecipient recipient) handed.entry ∧
      ∀ material, handed.privateMaterialJson = some material →
        ∃ held, held ∈ result.1.queuePrivateMaterial ∧
          held.key = (trim sessionName, handed.entry.clientMessageId) ∧
          held.recipient = callerColumns (normalizeQueueRecipient recipient) ∧
          held.materialJson = material
  finalized : ∀ (sessionName : String) (clientMessageIds : List String)
    (deliveryFrameId : String) (now : Int) (recipient : Option QueueRecipientIdentity)
    (conversationKey : Option String)
    (result : TransportQueueStore × FinalizeTransportQueueSentResult),
    store.finalizeSentBatch sessionName clientMessageIds deliveryFrameId now recipient
      conversationKey = .ok result →
    ∀ fact ∈ result.2.deliveryFacts, ∃ row, row ∈ store.queueEntries ∧
      row.key = (trim sessionName, fact.clientMessageId) ∧
      row.recipient = callerColumns (normalizeQueueRecipient recipient)
  shown : ∀ (sessionName : String) (recipient : Option QueueRecipientIdentity) (source : String)
    (result : TransportQueueStore × QueueSnapshot),
    store.readSnapshotForRecipient sessionName recipient source = .ok result →
    ∀ entry ∈ result.2.pendingMessageEntries ++ result.2.failedMessageEntries,
      store.ShowsOwn (trim sessionName) (normalizeQueueRecipient recipient) entry
  dispatched : ∀ (sessionName clientMessageId : String)
    (recipient : Option QueueRecipientIdentity) (material : JsonText),
    store.readPrivateDispatchMaterial sessionName clientMessageId recipient =
      .ok (some material) →
    ∃ held, held ∈ store.queuePrivateMaterial ∧
      held.key = (trim sessionName, trim clientMessageId) ∧
      held.recipient = callerColumns (normalizeQueueRecipient recipient) ∧
      held.materialJson = material

theorem spares_next {store : TransportQueueStore} {operation : Operation}
    {owners : RecipientColumns → Prop} {excused : Excuses}
    (answered : ∀ result, store.step operation = .ok result →
      Spares owners excused store result.1) :
    Spares owners excused store (store.next operation) := by
  unfold next
  split
  · next result done => exact answered result done
  · exact .refl

theorem enqueue_spares {store : TransportQueueStore} {owners : RecipientColumns → Prop}
    (paired : Paired store) {clock : Int} {input : EnqueueTransportQueueEntryInput}
    {result : TransportQueueStore × QueueSnapshot}
    (done : store.enqueue clock input = .ok result) :
    Spares owners (enqueueExcuses store clock input none) store result.1 := by
  obtain ⟨enqueued, evicting, rfl⟩ := answer_ok done
  exact enqueueWithCapacityEviction_spares paired evicting

theorem next_spares {store : TransportQueueStore} (paired : Paired store) (operation : Operation)
    {recipient : Option QueueRecipientIdentity} (takes : operation.recipient? = some recipient) :
    Spares (operation.spared recipient) (operation.excuses store) store
      (store.next operation) := by
  cases operation with
  | enqueue clock input =>
    cases takes
    refine spares_next fun result done => ?_
    obtain ⟨_, call, rfl⟩ := answer_ok done
    exact enqueue_spares paired call
  | enqueueWithCapacityEviction clock input evicted =>
    cases takes
    refine spares_next fun result done => ?_
    obtain ⟨_, call, rfl⟩ := answer_ok done
    exact enqueueWithCapacityEviction_spares paired call
  | retry clock sessionName failed input =>
    cases takes
    refine spares_next fun result done => ?_
    obtain ⟨_, call, rfl⟩ := answer_ok done
    exact enqueue_spares paired (retry_eq_ok call)
  | markHandoffInFlight sessionName clientMessageIds leaseMs now given =>
    cases takes
    refine spares_next fun result done => ?_
    obtain ⟨_, call, rfl⟩ := answer_ok done
    exact markHandoffInFlight_spares call
  | markAppendFallback sessionName clientMessageId reason given =>
    cases takes
    refine spares_next fun result done => ?_
    obtain ⟨_, call, rfl⟩ := answer_ok done
    exact markAppendFallback_spares call
  | finalizeSent sessionName clientMessageId deliveryFrameId now conversationKey =>
    cases takes
    refine spares_next fun result done => ?_
    obtain ⟨answer, call, done⟩ := bind_eq_ok.mp done
    obtain ⟨finalized, batch, rfl⟩ := answer_ok call
    cases done
    exact (finalizeSentBatch_finalizing batch).spares
  | finalizeSentBatch sessionName clientMessageIds deliveryFrameId now given conversationKey =>
    cases takes
    refine spares_next fun result done => ?_
    obtain ⟨_, call, rfl⟩ := answer_ok done
    exact (finalizeSentBatch_finalizing call).spares
  | recordDeliveryTombstone sessionName clientMessageId deliveryFrameId now given
      conversationKey =>
      cases takes
      refine spares_next fun result done => ?_
      obtain ⟨_, call, rfl⟩ := answer_ok done
      exact recordDeliveryTombstone_spares call
  | recordDirectDelivery sessionName clientMessageId deliveryFrameId now given conversationKey =>
    cases takes
    refine spares_next fun result done => ?_
    obtain ⟨_, call, rfl⟩ := answer_ok done
    obtain ⟨recorded, record, spares⟩ := recordDirectDelivery_spares call
    have isNext : store.next (.recordDeliveryTombstone sessionName clientMessageId
        deliveryFrameId now recipient conversationKey) = recorded.1 :=
      @next_of_ok _ _ _ (recorded.1, []) (bind_eq_ok.mpr ⟨recorded, record, rfl⟩)
    rw [← isNext] at spares
    exact spares
  | drop sessionName clientMessageId dropReason given =>
    cases takes
    refine spares_next fun result done => ?_
    obtain ⟨_, call, rfl⟩ := answer_ok done
    exact drop_spares call
  | cancelQueuedMessage sessionName clientMessageId given now =>
    cases takes
    refine spares_next fun result done => ?_
    obtain ⟨_, call, rfl⟩ := answer_ok done
    exact cancelQueuedMessage_spares call
  | adoptLegacyRecipientIdentity sessionName identity sessionCreatedAt limit =>
    cases takes
    refine spares_next fun result done => ?_
    obtain ⟨_, call, rfl⟩ := answer_ok done
    exact adoptLegacyRecipientIdentity_spares call
  | bindFreshLaunchRecipient sessionName identity expected =>
    cases takes
    refine spares_next fun result done => ?_
    obtain ⟨_, call, rfl⟩ := answer_ok done
    exact bindFreshLaunchRecipient_spares call
  | rebindRecipientRuntimeEpoch sessionName previous identity =>
    cases takes
    refine spares_next fun result done => ?_
    obtain ⟨_, call, rfl⟩ := answer_ok done
    exact rebindRecipientRuntimeEpoch_spares call
  | readSnapshotForRecipient sessionName given source =>
    cases takes
    refine spares_next fun result done => ?_
    obtain ⟨answer, call, done⟩ := bind_eq_ok.mp done
    obtain ⟨session, _, rfl⟩ := answer_ok call
    cases done
    dsimp only
    exact Spares.refl.sameMessages (buildSnapshot_sameMessages _ _ _ _ _)
  | expireStaleDelegationEntries | attachSupervisionReference | edit | releaseHandoff
  | restoreExpiredHandoffs | scrubPeerAuditOrphans | markMissingPrivateMaterialFailed
  | markDeleted | markFailed | dismissFailed | cleanup | reconcileDeliveredQueueRows
  | clearDeliveryTombstone | dropAll | reset | discardSessionQueueState | readSnapshot =>
    cases takes

theorem markHandoffInFlight_own {store : TransportQueueStore} (leased : Leased store)
    (paired : Paired store) {sessionName : String} {clientMessageIds : List String}
    {leaseMs now : Int} {recipient : Option QueueRecipientIdentity}
    {result : TransportQueueStore × List HandoffTransportQueueEntry}
    (done : store.markHandoffInFlight sessionName clientMessageIds leaseMs now recipient =
      .ok result) :
    ∀ handed ∈ result.2,
      result.1.ShowsOwn (trim sessionName) (normalizeQueueRecipient recipient) handed.entry ∧
      ∀ material, handed.privateMaterialJson = some material →
        ∃ held, held ∈ result.1.queuePrivateMaterial ∧
          held.key = (trim sessionName, handed.entry.clientMessageId) ∧
          held.recipient = callerColumns (normalizeQueueRecipient recipient) ∧
          held.materialJson = material := by
  have changes : Changes { Footprint.common with prunes := fun _ => True } store result.1 :=
    markHandoffInFlight_changes trivial done
  have pairedAfter : Paired result.1 := changes.preserves (fun _ _ => Change.paired) paired
  have done := session_ok done
  dsimp only at done
  split at done
  · cases done
    simp
  · cases done
    dsimp only at pairedAfter ⊢
    intro handed listed
    obtain ⟨entry, listedEntry, rfl⟩ := List.mem_map.mp listed
    obtain ⟨read, selected⟩ := List.mem_filter.mp listedEntry
    simp only [Bool.and_eq_true, decide_eq_true_eq] at selected
    have member := (mem_readRows read).1
    have own : entry.row.recipient = callerColumns (normalizeQueueRecipient recipient) := by
      have leasedMember : entry.row ∈ (((store.freshUUID.1.ensureMeta (trim sessionName)
          (normalizeQueueRecipient recipient)).1.pruneCancellations now).leaseMessages
            (trim sessionName) store.freshUUID.2 leaseMs now (normalizeQueueRecipient recipient)
            clientMessageIds).1.queueEntries := by
        split at member
        · rw [(bumpVersion_sameMessages _ _).queueEntries] at member
          exact member
        · exact member
      rcases mem_leaseMessages leasedMember selected.2.2 with own | old
      · exact own
      · change entry.row ∈ (store.freshUUID.1.ensureMeta (trim sessionName)
          (normalizeQueueRecipient recipient)).1.queueEntries at old
        rw [(ensureMeta_sameMessages _ _ _).queueEntries] at old
        exact False.elim (not_issued_freshUUID (leased entry.row old _ selected.2.2))
    refine ⟨showsOwn_of_read read own, ?_⟩
    intro material given
    obtain ⟨held, found, shown⟩ := Option.bind_eq_some_iff.mp given
    obtain ⟨heldMember, isTarget⟩ := Table.lookup_eq_some_iff.mp found
    obtain ⟨row, rowMember, rowKey, rowRecipient⟩ := pairedAfter held heldMember
    have sameRow : row = entry.row := by
      refine Table.eq_of_key rowMember member (rowKey.trans (isTarget.trans ?_))
      rw [← (mem_readRows read).2.1]
      rfl
    refine ⟨held, heldMember, isTarget, ?_, ?_⟩
    · rw [← rowRecipient, sameRow, own]
    · exact JsonText.nonEmpty?_eq_some shown

theorem readSnapshotForRecipient_own {store : TransportQueueStore} {sessionName source : String}
    {recipient : Option QueueRecipientIdentity} {result : TransportQueueStore × QueueSnapshot}
    (done : store.readSnapshotForRecipient sessionName recipient source = .ok result) :
    ∀ entry ∈ result.2.pendingMessageEntries ++ result.2.failedMessageEntries,
      store.ShowsOwn (trim sessionName) (normalizeQueueRecipient recipient) entry := by
  have done := session_ok done
  cases done
  intro entry listed
  have read : ∃ stored ∈ (store.ensureMeta (trim sessionName) none).1.readRows (trim sessionName)
      (some (normalizeQueueRecipient recipient)), buildQueueProjectionEntry stored = entry := by
    rcases List.mem_append.mp listed with pending | failed
    · obtain ⟨stored, sorted, built⟩ := List.mem_map.mp pending
      exact ⟨stored, (List.mem_filter.mp (mem_sortByPosition.mp sorted)).1, built⟩
    · obtain ⟨stored, sorted, built⟩ := List.mem_map.mp failed
      exact ⟨stored, (List.mem_filter.mp (mem_sortByPosition.mp sorted)).1, built⟩
  obtain ⟨stored, storedRead, rfl⟩ := read
  have own := (mem_readRows storedRead).2.2.1
  simp only [Option.all_some, recipientPredicate_iff] at own
  have shows := showsOwn_of_read storedRead own
  have same := ensureMeta_sameMessages store (trim sessionName) none
  unfold ShowsOwn at shows ⊢
  rw [same.queueEntries, same.queuePrivateMaterial] at shows
  exact shows

/-- In every reachable store, a call that takes a recipient leases, finalizes, drops,
cancels and shows rows of that recipient only, and leaves the others as they are but for
the excused ones. -/
theorem reachable_isolatesRecipients {store : TransportQueueStore} (reachable : Reachable store) :
    store.IsolatesRecipients where
  others operation _ takes := next_spares (reachable_paired reachable) operation takes
  leased _ _ _ _ _ _ done :=
    markHandoffInFlight_own (reachable_leased reachable) (reachable_paired reachable) done
  finalized sessionName clientMessageIds deliveryFrameId now recipient conversationKey result
      done := by
    intro fact listed
    have own := (finalizeSentBatch_finalizing done).own fact.clientMessageId
      (List.mem_map.mpr ⟨fact, listed, rfl⟩)
    obtain ⟨row, member, selected⟩ := Table.holds_iff.mp own
    simp only [isFinalizable, Bool.and_eq_true, isMessage_iff_entryKey,
      recipientPredicate_iff] at selected
    exact ⟨row, member, selected.1, selected.2⟩
  shown _ _ _ _ done := readSnapshotForRecipient_own done
  dispatched _ _ _ _ done := readPrivateDispatchMaterial_own done

end Host

section FixedRuns

open Library.FixedRuns

/-- A command of the schedule `daily`. -/
def cronMessage (recipient : Option QueueRecipientIdentity) (clientMessageId : String)
    (now : Int) : EnqueueTransportQueueEntryInput :=
  { plainMessage recipient clientMessageId now with commandId := some "cron:daily:1" }

/-- A queue of the instance `B` that holds one fire of a schedule. -/
def foreignQueue : TransportQueueStore :=
  run next empty [.enqueue 0 (cronMessage (some ⟨"B", "e"⟩) "m1" 1)]

/-- The instance `B` has received `m1`, and a caller that proves nothing queues it again. -/
def requeuedDelivery : TransportQueueStore :=
  run next empty [.enqueue 0 (plainMessage (some ⟨"B", "e"⟩) "m1" 1),
    .finalizeSentBatch "deck" ["m1"] "frame1" 2 (some ⟨"B", "e"⟩) none,
    .enqueue 0 (plainMessage none "m1" 3)]

/-- Rows of the instance `B` change in calls of others: a newer fire supersedes one, a direct
delivery removes one, a delivery recorded again rewrites one, and a day prunes one. -/
theorem foreign_rows_changed :
    (foreignQueue.replacesQueue 0 (cronMessage none "m2" 2) = false ∧
      ∃ row ∈ foreignQueue.queueEntries.rows, row.recipient = ⟨some "B", some "e"⟩ ∧
        ¬ row ∈ (foreignQueue.next (.enqueue 0 (cronMessage none "m2" 2))).queueEntries.rows) ∧
    (∃ row ∈ foreignQueue.queueEntries.rows, row.recipient = ⟨some "B", some "e"⟩ ∧
      ¬ row ∈ (foreignQueue.next (.recordDirectDelivery "deck" "m1" "frame" 2
        (some ⟨"A", "e"⟩) none)).queueEntries.rows) ∧
    (∃ row ∈ requeuedDelivery.queueDeliveryTombstones.rows, row.recipient = ⟨some "B", some "e"⟩ ∧
      ¬ row ∈ (requeuedDelivery.next (.finalizeSent "deck" "m1" "frame2" 4
        none)).queueDeliveryTombstones.rows) ∧
    ∃ row ∈ (empty.next (.cancelQueuedMessage "deck" "m1" (some ⟨"B", "e"⟩)
        0)).queueCancellationTombstones.rows, row.recipient = ⟨some "B", some "e"⟩ ∧
      ¬ row ∈ ((empty.next (.cancelQueuedMessage "deck" "m1" (some ⟨"B", "e"⟩) 0)).next
        (.markHandoffInFlight "desk" ["m2"] 1000 (queueCancellationTombstoneTtlMs + 1)
          (some ⟨"A", "e"⟩))).queueCancellationTombstones.rows := by
  decide

theorem reachable_isolatesRecipients_run : foreignQueue.IsolatesRecipients :=
  reachable_isolatesRecipients ⟨[.enqueue 0 (cronMessage (some ⟨"B", "e"⟩) "m1" 1)], rfl⟩

end FixedRuns

end TransportQueueStore

end ImCodes.Queue
