import ImCodes.Queue.Store.EnqueueEffects
import ImCodes.Queue.Store.OwnershipEffects

/-!
# The footprint of every operation

Beyond the common changes only a few operations go, each in its own session.
`step_changes` bounds every call by its footprint.
-/

set_option autoImplicit false

namespace ImCodes.Queue

open Library

/-- What the calls of an enqueue may do beyond the common changes. -/
def enqueueFootprint [Host] (store : TransportQueueStore) (clock : Int)
    (input : EnqueueTransportQueueEntryInput) : Footprint where
  inserts row := ∃ ordinal, row = TransportQueueStore.newEntryRow input (trim input.sessionName)
    (store.identifyMessage input.clientMessageId).2 (normalizeQueueRecipient input.recipient)
    (input.now.getD clock) ordinal
  strips _ := False
  prunes now := now = input.now.getD clock
  cancels _ := False
  wipes session := normalizeSessionName input.sessionName = .ok session ∧
    store.replacesQueue clock input = true
  renews _ := False
  delivers := False
  purges := False

/-- The common changes alone. -/
def Footprint.common : Footprint where
  inserts _ := False
  strips _ := False
  prunes _ := False
  cancels _ := False
  wipes _ := False
  renews _ := False
  delivers := False
  purges := False

/-- What `retry` enqueues. -/
def retryInput (sessionName failedClientMessageId : String)
    (input : EnqueueTransportQueueEntryInput) : EnqueueTransportQueueEntryInput :=
  { input with
    sessionName := trim sessionName
    replacesClientMessageId := some (trim failedClientMessageId) }

/-- What an enqueue of any kind is given, as `enqueueWithCapacityEviction` gets it. -/
def Operation.enqueued? : Operation →
    Option (Int × EnqueueTransportQueueEntryInput × Option String)
  | .enqueue clock input => some (clock, input, none)
  | .enqueueWithCapacityEviction clock input evicted => some (clock, input, evicted)
  | .retry clock sessionName failedClientMessageId input =>
    some (clock, retryInput sessionName failedClientMessageId input, none)
  | _ => none

/-- What a call in a store may do beyond the common changes. -/
def Operation.footprint [Host] (store : TransportQueueStore) : Operation → Footprint
  | .enqueue clock input | .enqueueWithCapacityEviction clock input _ =>
    enqueueFootprint store clock input
  | .retry clock sessionName failedClientMessageId input =>
    enqueueFootprint store clock (retryInput sessionName failedClientMessageId input)
  | .edit sessionName clientMessageId _ _ _ =>
    { Footprint.common with
      strips := fun key => key = (trim sessionName, trim clientMessageId) ∧
        store.holdsCorruptMaterial (trim sessionName) (trim clientMessageId) = true }
  | .dismissFailed sessionName clientMessageId _ =>
    { Footprint.common with
      strips := fun key => key = (trim sessionName, trim clientMessageId) ∧
        ∃ row, row ∈ store.queueEntries ∧ row.key = key ∧ row.status.isLive = true }
  | .markHandoffInFlight _ _ _ now _ =>
    { Footprint.common with prunes := fun clock => clock = now }
  | .cancelQueuedMessage sessionName clientMessageId recipient now =>
    { Footprint.common with
      prunes := fun clock => clock = now
      cancels := fun row => row = ⟨trim sessionName, trim clientMessageId, now,
        callerColumns (normalizeQueueRecipient recipient)⟩ }
  | .reset sessionName _ _ =>
    { Footprint.common with
      renews := fun session => normalizeSessionName sessionName = .ok session }
  | .discardSessionQueueState sessionName _ =>
    { Footprint.common with
      wipes := fun session => normalizeSessionName sessionName = .ok session }
  | .finalizeSent .. | .finalizeSentBatch .. | .recordDeliveryTombstone ..
  | .recordDirectDelivery .. | .clearDeliveryTombstone .. =>
    { Footprint.common with delivers := True }
  | .adoptLegacyRecipientIdentity .. => { Footprint.common with purges := True }
  | _ => Footprint.common

namespace TransportQueueStore

variable [Host] {store : TransportQueueStore}

theorem enqueue_changes {clock : Int} {input : EnqueueTransportQueueEntryInput}
    {result : TransportQueueStore × QueueSnapshot}
    (done : store.enqueue clock input = .ok result) :
    Changes (enqueueFootprint store clock input) store result.1 := by
  obtain ⟨enqueued, evicting, rfl⟩ := answer_ok done
  exact enqueueWithCapacityEviction_changes rfl (fun _ named replaced => ⟨named, replaced⟩)
    (fun ordinal => ⟨ordinal, rfl⟩) evicting

theorem retry_eq_ok {clock : Int} {sessionName failedClientMessageId : String}
    {input : EnqueueTransportQueueEntryInput} {result : TransportQueueStore × QueueSnapshot}
    (done : store.retry clock sessionName failedClientMessageId input = .ok result) :
    store.enqueue clock (retryInput sessionName failedClientMessageId input) = .ok result := by
  obtain ⟨session, named, done⟩ := bind_eq_ok.mp done
  obtain ⟨failed, identified, done⟩ := bind_eq_ok.mp done
  obtain ⟨rfl, _, _⟩ := normalizeSessionName_eq_ok named
  obtain ⟨rfl, _⟩ := requireNonEmpty_eq_ok identified
  exact done

theorem step_enqueued {operation : Operation} {clock : Int}
    {input : EnqueueTransportQueueEntryInput} {evicted : Option String}
    {result : TransportQueueStore × List QueueSnapshot}
    (enqueued : operation.enqueued? = some (clock, input, evicted))
    (done : store.step operation = .ok result) :
    ∃ answer, store.enqueueWithCapacityEviction clock input evicted = .ok (result.1, answer) ∧
      answer.queueSnapshot ∈ result.2 := by
  have plain : ∀ {clock : Int} {input : EnqueueTransportQueueEntryInput}
      {answered : TransportQueueStore × QueueSnapshot}, store.enqueue clock input = .ok answered →
      ∃ answer, store.enqueueWithCapacityEviction clock input none = .ok (answered.1, answer) ∧
        answer.queueSnapshot ∈ [answered.2] := by
    intro clock input answered call
    obtain ⟨evicting, evictingCall, same⟩ := bind_eq_ok.mp call
    cases same
    exact ⟨evicting.2, evictingCall, List.mem_singleton.mpr rfl⟩
  cases operation with
  | enqueue otherClock otherInput =>
    obtain ⟨answered, call, rfl⟩ := answer_ok done
    cases enqueued
    exact plain call
  | enqueueWithCapacityEviction otherClock otherInput otherEvicted =>
    obtain ⟨answered, call, rfl⟩ := answer_ok done
    cases enqueued
    exact ⟨answered.2, call, List.mem_cons_self⟩
  | retry otherClock sessionName failedClientMessageId otherInput =>
    obtain ⟨answered, call, rfl⟩ := answer_ok done
    cases enqueued
    exact plain (retry_eq_ok call)
  | _ => cases enqueued

theorem step_changes {operation : Operation} {result : TransportQueueStore × List QueueSnapshot}
    (done : store.step operation = .ok result) :
    Changes (operation.footprint store) store result.1 := by
  cases operation with
  | enqueue clock input =>
    obtain ⟨_, call, rfl⟩ := answer_ok done
    exact enqueue_changes call
  | enqueueWithCapacityEviction clock input evicted =>
    obtain ⟨_, call, rfl⟩ := answer_ok done
    exact enqueueWithCapacityEviction_changes rfl (fun _ named replaced => ⟨named, replaced⟩)
      (fun ordinal => ⟨ordinal, rfl⟩) call
  | retry clock sessionName failedClientMessageId input =>
    obtain ⟨_, call, rfl⟩ := answer_ok done
    exact enqueue_changes (retry_eq_ok call)
  | expireStaleDelegationEntries now thresholdMs =>
    cases done
    exact expireStaleDelegationEntries_changes
  | edit sessionName clientMessageId text now replacement =>
    obtain ⟨_, call, rfl⟩ := answer_ok done
    exact edit_changes (fun corrupt => ⟨rfl, corrupt⟩) call
  | markHandoffInFlight sessionName clientMessageIds leaseMs now recipient =>
    obtain ⟨_, call, rfl⟩ := answer_ok done
    exact markHandoffInFlight_changes rfl call
  | markAppendFallback sessionName clientMessageId reason recipient =>
    obtain ⟨_, call, rfl⟩ := answer_ok done
    exact markAppendFallback_changes call
  | dismissFailed sessionName clientMessageId now =>
    obtain ⟨_, call, rfl⟩ := answer_ok done
    exact dismissFailed_changes
      (fun row member isTarget live => ⟨rfl, row, member, isTarget, live⟩) call
  | reset sessionName resetReason activityGeneration =>
    obtain ⟨_, call, rfl⟩ := answer_ok done
    exact reset_changes (fun _ named => named) call
  | discardSessionQueueState sessionName recipient =>
    obtain ⟨_, call, rfl⟩ := answer_ok done
    exact discardSessionQueueState_changes (fun _ named => named) call
  | cancelQueuedMessage sessionName clientMessageId recipient now =>
    obtain ⟨_, call, rfl⟩ := answer_ok done
    exact cancelQueuedMessage_changes rfl rfl call
  | attachSupervisionReference sessionName clientMessageId reference now =>
    obtain ⟨_, call, rfl⟩ := answer_ok done
    exact attachSupervisionReference_changes call
  | releaseHandoff sessionName handoffId clientMessageIds now =>
    obtain ⟨_, call, rfl⟩ := answer_ok done
    exact releaseHandoff_changes call
  | restoreExpiredHandoffs sessionName now includeUnexpired =>
    obtain ⟨_, call, rfl⟩ := answer_ok done
    exact restoreExpiredHandoffs_changes call
  | scrubPeerAuditOrphans sessionName =>
    obtain ⟨_, call, rfl⟩ := answer_ok done
    exact scrubPeerAuditOrphans_changes call
  | markMissingPrivateMaterialFailed sessionName clientMessageId now =>
    obtain ⟨_, call, rfl⟩ := answer_ok done
    exact markMissingPrivateMaterialFailed_changes call
  | markDeleted sessionName clientMessageId now =>
    obtain ⟨_, call, rfl⟩ := answer_ok done
    exact markDeleted_changes call
  | markFailed sessionName clientMessageId failureReason now =>
    obtain ⟨_, call, rfl⟩ := answer_ok done
    exact markFailed_changes call
  | cleanup sessionName =>
    obtain ⟨_, call, rfl⟩ := answer_ok done
    exact cleanup_changes call
  | finalizeSent sessionName clientMessageId deliveryFrameId now conversationKey =>
    obtain ⟨_, call, rfl⟩ := answer_ok done
    exact finalizeSent_changes trivial call
  | finalizeSentBatch sessionName clientMessageIds deliveryFrameId now recipient conversationKey =>
    obtain ⟨_, call, rfl⟩ := answer_ok done
    exact finalizeSentBatch_changes trivial call
  | recordDeliveryTombstone sessionName clientMessageId deliveryFrameId now recipient
      conversationKey =>
      obtain ⟨_, call, rfl⟩ := answer_ok done
      exact recordDeliveryTombstone_changes trivial call
  | recordDirectDelivery sessionName clientMessageId deliveryFrameId now recipient
      conversationKey =>
      obtain ⟨_, call, rfl⟩ := answer_ok done
      exact recordDirectDelivery_changes trivial call
  | reconcileDeliveredQueueRows sessionName =>
    obtain ⟨_, call, rfl⟩ := answer_ok done
    exact reconcileDeliveredQueueRows_changes call
  | clearDeliveryTombstone sessionName clientMessageId =>
    obtain ⟨_, call, rfl⟩ := answer_ok done
    exact clearDeliveryTombstone_changes trivial call
  | drop sessionName clientMessageId dropReason recipient =>
    obtain ⟨_, call, rfl⟩ := answer_ok done
    exact drop_changes call
  | dropAll sessionName dropReason =>
    obtain ⟨_, call, rfl⟩ := answer_ok done
    exact dropAll_changes call
  | adoptLegacyRecipientIdentity sessionName recipient sessionCreatedAt limit =>
    obtain ⟨_, call, rfl⟩ := answer_ok done
    exact adoptLegacyRecipientIdentity_changes trivial call
  | bindFreshLaunchRecipient sessionName recipient expectedClientMessageIds =>
    obtain ⟨_, call, rfl⟩ := answer_ok done
    exact bindFreshLaunchRecipient_changes call
  | rebindRecipientRuntimeEpoch sessionName previous next =>
    obtain ⟨_, call, rfl⟩ := answer_ok done
    exact rebindRecipientRuntimeEpoch_changes call
  | readSnapshot sessionName source =>
    obtain ⟨_, call, rfl⟩ := answer_ok done
    exact readSnapshot_changes call
  | readSnapshotForRecipient sessionName recipient source =>
    obtain ⟨_, call, rfl⟩ := answer_ok done
    exact readSnapshotForRecipient_changes call

theorem next_changes (store : TransportQueueStore) (operation : Operation) :
    Changes (operation.footprint store) store (store.next operation) := by
  unfold next
  cases done : store.step operation with
  | ok result => exact step_changes done
  | error thrown => exact .refl

end TransportQueueStore

end ImCodes.Queue
