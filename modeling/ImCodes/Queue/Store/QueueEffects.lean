import ImCodes.Queue.Store.RowEffects

/-!
# Delivery, removal and cancellation as changes
-/

set_option autoImplicit false

namespace ImCodes.Queue

open Library

namespace TransportQueueStore

theorem lookup_deleteSessionQueueStateRows {store : TransportQueueStore} (session : String) :
    (store.deleteSessionQueueStateRows session).queueMeta.lookup session = none := by
  apply Table.lookup_eq_none_iff.mpr
  intro row member named
  have kept := (Table.mem_deleteWhere.mp member).2
  exact of_decide_eq_false kept named

variable [Host] {allowed : Footprint} {store : TransportQueueStore} {sessionName : String}

/-! ## Delivery -/

theorem Changes.finalizeMessages {start : TransportQueueStore}
    (changes : Changes allowed start store) {session queueEpoch deliveryFrameId : String}
    {now : Int} {caller : Option QueueRecipientIdentity} {conversationKey : Option String}
    {clientMessageIds : List String} (mayDeliver : allowed.delivers) :
    Changes allowed start (store.finalizeMessages session queueEpoch deliveryFrameId now caller
      conversationKey clientMessageIds).1 := by
  refine Changes.foldl Prod.fst ?_ changes
  intro state clientMessageId changes
  split
  · exact changes
  · exact (changes.deleteMessage clientMessageId (recipientPredicate caller)).change
      (.deliver _ mayDeliver)

theorem finalizeSentBatch_changes {clientMessageIds : List String} {deliveryFrameId : String}
    {now : Int} {recipient : Option QueueRecipientIdentity} {conversationKey : Option String}
    {result : TransportQueueStore × FinalizeTransportQueueSentResult}
    (mayDeliver : allowed.delivers)
    (done : store.finalizeSentBatch sessionName clientMessageIds deliveryFrameId now recipient
      conversationKey = .ok result) : Changes allowed store result.1 := by
  obtain ⟨session, _, done⟩ := bind_eq_ok.mp done
  dsimp only at done
  split at done
  · cases done
    dsimp only
    exact Changes.refl.snapshotAfter _ _
  · cases done
    dsimp only
    exact ((Changes.refl.ensureMeta none).finalizeMessages mayDeliver).bumpVersion.snapshotAfter _ _

theorem finalizeSent_changes {clientMessageId deliveryFrameId : String} {now : Int}
    {conversationKey : Option String} {result : TransportQueueStore × QueueSnapshot}
    (mayDeliver : allowed.delivers)
    (done : store.finalizeSent sessionName clientMessageId deliveryFrameId now conversationKey =
      .ok result) : Changes allowed store result.1 := by
  obtain ⟨finalized, batch, rfl⟩ := answer_ok done
  exact finalizeSentBatch_changes mayDeliver batch

theorem recordDeliveryTombstone_changes {clientMessageId deliveryFrameId : String} {now : Int}
    {recipient : Option QueueRecipientIdentity} {conversationKey : Option String}
    {result : TransportQueueStore × Bool} (mayDeliver : allowed.delivers)
    (done : store.recordDeliveryTombstone sessionName clientMessageId deliveryFrameId now recipient
      conversationKey = .ok result) : Changes allowed store result.1 := by
  obtain ⟨session, _, done⟩ := bind_eq_ok.mp done
  dsimp only at done
  split at done
  · cases done
    exact .refl
  · cases done
    exact (Changes.refl.ensureMeta recipient).change (.deliver _ mayDeliver)

theorem Changes.removeDeliveredMessages {start : TransportQueueStore}
    (changes : Changes allowed start store) {session : String} {clientMessageIds : List String} :
    Changes allowed start (store.removeDeliveredMessages session clientMessageIds).1 := by
  refine Changes.foldl Prod.fst ?_ changes
  intro state clientMessageId changes
  split
  · exact changes
  · next pendingRow =>
      rw [Table.changes_eq_zero_iff] at pendingRow
      push Not at pendingRow
      obtain ⟨pending, pendingMember, isPending⟩ := pendingRow
      simp only [Bool.not_eq_false, Bool.and_eq_true] at isPending
      apply changes.change
      apply Change.remove
      intro row member held _ sameKey _
      rw [Bool.eq_iff_iff, Bool.and_eq_true, isMessage_iff_materialKey, isMessage_iff_entryKey,
        sameKey]
      constructor
      · intro isTarget
        have isRow : row = pending := Table.eq_of_key member pendingMember
          (isTarget.trans (isMessage_iff_entryKey.mp isPending.1).symm)
        exact ⟨isTarget, isRow ▸ isPending.2⟩
      · exact And.left

theorem reconcileDeliveredQueueRows_changes {result : TransportQueueStore × List String}
    (done : store.reconcileDeliveredQueueRows sessionName = .ok result) :
    Changes allowed store result.1 := by
  obtain ⟨session, _, done⟩ := bind_eq_ok.mp done
  dsimp only at done
  split at done
  · cases done
    exact .refl
  · cases done
    unfold removeDeliveredQueueRows
    dsimp only
    split
    · exact Changes.refl.removeDeliveredMessages
    · exact Changes.refl.removeDeliveredMessages.bumpVersion

theorem recordDirectDelivery_changes {clientMessageId deliveryFrameId : String} {now : Int}
    {recipient : Option QueueRecipientIdentity} {conversationKey : Option String}
    {result : TransportQueueStore × Bool} (mayDeliver : allowed.delivers)
    (done : store.recordDirectDelivery sessionName clientMessageId deliveryFrameId now recipient
      conversationKey = .ok result) : Changes allowed store result.1 := by
  obtain ⟨recorded, record, done⟩ := bind_eq_ok.mp done
  obtain ⟨reconciled, reconcile, rfl⟩ := answer_ok done
  exact (recordDeliveryTombstone_changes mayDeliver record).trans
    (reconcileDeliveredQueueRows_changes reconcile)

theorem clearDeliveryTombstone_changes {clientMessageId : String}
    {result : TransportQueueStore × Bool} (mayDeliver : allowed.delivers)
    (done : store.clearDeliveryTombstone sessionName clientMessageId = .ok result) :
    Changes allowed store result.1 := by
  have done := message_ok (session_ok done)
  dsimp only at done
  split at done
  · cases done
    exact .refl
  · cases done
    exact Changes.refl.change (.deliver _ mayDeliver)

/-! ## Removal and reset -/

theorem drop_changes {clientMessageId : String} {dropReason : QueueDropReason}
    {recipient : Option QueueRecipientIdentity} {result : TransportQueueStore × QueueSnapshot}
    (done : store.drop sessionName clientMessageId dropReason recipient = .ok result) :
    Changes allowed store result.1 := by
  obtain ⟨session, _, done⟩ := bind_eq_ok.mp done
  obtain ⟨messageId, _, rfl⟩ := answer_ok done
  exact ((Changes.refl.ensureMeta none).deleteMessage messageId _).bumpVersion.snapshotAfter _ _

theorem dropAll_changes {dropReason : QueueDropReason}
    {result : TransportQueueStore × QueueSnapshot}
    (done : store.dropAll sessionName dropReason = .ok result) :
    Changes allowed store result.1 := by
  obtain ⟨session, _, rfl⟩ := answer_ok done
  exact (Changes.refl.ensureMeta none).deleteSessionMessages.bumpVersion.snapshotAfter _ _

theorem reset_changes {resetReason : QueueResetReason} {activityGeneration : Option String}
    {result : TransportQueueStore × QueueSnapshot}
    (mayRenew : ∀ session, normalizeSessionName sessionName = .ok session → allowed.renews session)
    (done : store.reset sessionName resetReason activityGeneration = .ok result) :
    Changes allowed store result.1 := by
  obtain ⟨session, named, rfl⟩ := answer_ok done
  exact ((Changes.refl.change (.renew _ (mayRenew session named))).ensureMeta none).snapshotAfter
    _ _

theorem discardSessionQueueState_changes {recipient : Option QueueRecipientIdentity}
    {result : TransportQueueStore × DiscardTransportQueueStateResult}
    (mayWipe : ∀ session, normalizeSessionName sessionName = .ok session → allowed.wipes session)
    (done : store.discardSessionQueueState sessionName recipient = .ok result) :
    Changes allowed store result.1 := by
  obtain ⟨session, named, done⟩ := bind_eq_ok.mp done
  have wiped : Changes allowed store (store.deleteSessionQueueStateRows session) :=
    Changes.refl.change (.wipe _ (mayWipe session named))
  cases done
  dsimp only
  split
  · exact wiped
  · exact wiped.change (.mint _ (lookup_deleteSessionQueueStateRows _) rfl rfl)

/-! ## Cancelling -/

theorem cancelQueuedMessage_changes {clientMessageId : String}
    {recipient : Option QueueRecipientIdentity} {now : Int}
    {result : TransportQueueStore × CancelQueuedMessageStatus × QueueSnapshot}
    (mayPrune : allowed.prunes now)
    (mayCancel : allowed.cancels ⟨trim sessionName, trim clientMessageId, now,
      callerColumns (normalizeQueueRecipient recipient)⟩)
    (done : store.cancelQueuedMessage sessionName clientMessageId recipient now = .ok result) :
    Changes allowed store result.1 := by
  have done := message_ok (session_ok done)
  have pruned : Changes allowed store (store.pruneCancellations now) :=
    Changes.refl.change (.prune now mayPrune)
  dsimp only at done
  split at done
  · split at done
    · cases done
      dsimp only
      exact (pruned.ensureMeta _).snapshotAfter _ _
    · next ownMessage =>
        cases done
        dsimp only
        refine Changes.snapshotAfter (Changes.bumpVersion ?_) _ _
        refine ((pruned.ensureMeta _).deleteMessage _ _).change (.cancel _ mayCancel ?_)
        intro old member sameKey
        simp only [holdsForeignMessage, Bool.not_eq_true, Bool.or_eq_false_iff] at ownMessage
        have own := Table.holds_eq_false_iff.mp ownMessage.2 old member
        rw [isMessage_iff_cancellationKey.mpr sameKey, Bool.true_and, Bool.not_eq_false',
          recipientPredicate_iff] at own
        exact own
  · cases done
    dsimp only
    exact pruned.snapshotAfter _ _

end TransportQueueStore

end ImCodes.Queue
