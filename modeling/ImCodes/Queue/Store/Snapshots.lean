import ImCodes.Queue.Store.Epochs

/-!
# The snapshots an operation returns

A snapshot carries the epoch, authority and version its session has in the store it
leaves behind, and announces a reset only when a reset returned it.
-/

set_option autoImplicit false

namespace ImCodes.Queue

open Library

def Operation.announcedReset : Operation → Option QueueResetReason
  | .reset _ resetReason _ => some resetReason
  | _ => none

namespace TransportQueueStore

/-- The snapshot shows the metadata the store holds for the session. -/
structure Describes (store : TransportQueueStore) (session : String)
    (resetReason : Option QueueResetReason) (snapshot : QueueSnapshot) (held : QueueMetaRow) :
    Prop where
  sessionName : snapshot.sessionName = session
  found : store.queueMeta.lookup session = some held
  queueEpoch : snapshot.queueEpoch = held.queueEpoch
  queueAuthorityId : snapshot.queueAuthorityId = held.queueAuthorityId
  version : snapshot.pendingMessageVersion = .finite held.pendingMessageVersion
  resetReason : snapshot.resetReason = resetReason

section Host

variable [Host] {store : TransportQueueStore} {session : String}

theorem buildSnapshot_describes (source : String)
    (recipientFilter : Option (Option QueueRecipientIdentity)) :
    ∃ held, Describes (store.buildSnapshot session source none recipientFilter).1 session none
      (store.buildSnapshot session source none recipientFilter).2 held :=
  ⟨_, rfl, ensureMeta_none_stored store session, rfl, rfl, rfl, rfl⟩

theorem snapshotAfter_describes (source : String) :
    ∃ held, Describes (store.snapshotAfter session source none).1 session none
      (store.snapshotAfter session source none).2 held :=
  buildSnapshot_describes source none

theorem override_describes {held : QueueMetaRow}
    (found : store.queueMeta.lookup session = some held) (source : String)
    (given : QueueSnapshotOverride)
    (same : { given with dropReason := none, activityGeneration := none, resetReason := none } =
      held.version) :
    Describes (store.snapshotAfter session source (some given)).1 session given.resetReason
      (store.snapshotAfter session source (some given)).2 held := by
  have epoch := congrArg QueueSnapshotOverride.queueEpoch same
  have authority := congrArg QueueSnapshotOverride.queueAuthorityId same
  have version := congrArg QueueSnapshotOverride.pendingMessageVersion same
  exact ⟨rfl, found, epoch, authority, congrArg (fun n : Nat => JsNumber.finite n) version, rfl⟩

theorem bumped_describes (source : String) (dropReason : Option QueueDropReason) :
    ∃ held, Describes
      ((store.bumpVersion session).1.snapshotAfter session source
        (some { (store.bumpVersion session).2.version with dropReason })).1 session none
      ((store.bumpVersion session).1.snapshotAfter session source
        (some { (store.bumpVersion session).2.version with dropReason })).2 held :=
  ⟨_, override_describes (bumpVersion_stored store session) source _ rfl⟩

theorem readSnapshot_describes {sessionName : String} {source : String}
    {result : TransportQueueStore × QueueSnapshot}
    (done : store.readSnapshot sessionName source = .ok result) :
    ∃ held, Describes result.1 (trim sessionName) none result.2 held := by
  have done := session_ok done
  cases done
  exact snapshotAfter_describes source

theorem readSnapshotForRecipient_describes {sessionName : String} {recipient : Option QueueRecipientIdentity}
    {source : String}
    {result : TransportQueueStore × QueueSnapshot}
    (done : store.readSnapshotForRecipient sessionName recipient source = .ok result) :
    ∃ held, Describes result.1 (trim sessionName) none result.2 held := by
  have done := session_ok done
  cases done
  exact buildSnapshot_describes source _

theorem edit_describes {sessionName : String} {clientMessageId text : String} {now : Int}
    {replacement : Option EditReplacement}
    {result : TransportQueueStore × QueueSnapshot}
    (done : store.edit sessionName clientMessageId text now replacement = .ok result) :
    ∃ held, Describes result.1 (trim sessionName) none result.2 held := by
  obtain ⟨session, named, done⟩ := bind_eq_ok.mp done
  obtain ⟨messageId, _, done⟩ := bind_eq_ok.mp done
  obtain ⟨rewritten, _, done⟩ := bind_eq_ok.mp done
  obtain ⟨rfl, _, _⟩ := normalizeSessionName_eq_ok named
  cases done
  exact bumped_describes _ none

theorem releaseHandoff_describes {sessionName : String} {handoffId : String} {clientMessageIds : List String}
    {now : Int}
    {result : TransportQueueStore × QueueSnapshot}
    (done : store.releaseHandoff sessionName handoffId clientMessageIds now = .ok result) :
    ∃ held, Describes result.1 (trim sessionName) none result.2 held := by
  have done := message_ok (session_ok done)
  dsimp only at done
  split at done
  · cases done
    exact snapshotAfter_describes _
  · split at done
    · cases done
      exact bumped_describes _ none
    · cases done
      exact snapshotAfter_describes _

theorem restoreExpiredHandoffs_describes {sessionName : String} {now : Int} {includeUnexpired : Bool}
    {result : TransportQueueStore × QueueSnapshot}
    (done : store.restoreExpiredHandoffs sessionName now includeUnexpired = .ok result) :
    ∃ held, Describes result.1 (trim sessionName) none result.2 held := by
  have done := session_ok done
  dsimp only at done
  split at done
  · cases done
    exact bumped_describes _ none
  · cases done
    exact snapshotAfter_describes _

theorem markMissingPrivateMaterialFailed_describes {sessionName : String} {clientMessageId : String} {now : Int}
    {result : TransportQueueStore × QueueSnapshot}
    (done : store.markMissingPrivateMaterialFailed sessionName clientMessageId now = .ok result) :
    ∃ held, Describes result.1 (trim sessionName) none result.2 held := by
  have done := message_ok (session_ok done)
  cases done
  exact bumped_describes _ (some .privateMaterialMissing)

theorem markDeleted_describes {sessionName : String} {clientMessageId : String} {now : Int}
    {result : TransportQueueStore × QueueSnapshot}
    (done : store.markDeleted sessionName clientMessageId now = .ok result) :
    ∃ held, Describes result.1 (trim sessionName) none result.2 held := by
  have done := message_ok (session_ok done)
  cases done
  exact bumped_describes _ none

theorem markFailed_describes {sessionName : String} {clientMessageId : String}
    {reason : QueueFailureReason} {now : Int}
    {result : TransportQueueStore × QueueSnapshot}
    (done : store.markFailed sessionName clientMessageId reason now = .ok result) :
    ∃ held, Describes result.1 (trim sessionName) none result.2 held := by
  have done := message_ok (session_ok done)
  cases done
  exact bumped_describes _ none

theorem dismissFailed_describes {sessionName : String} {clientMessageId : String} {now : Int}
    {result : TransportQueueStore × QueueSnapshot}
    (done : store.dismissFailed sessionName clientMessageId now = .ok result) :
    ∃ held, Describes result.1 (trim sessionName) none result.2 held := by
  have done := message_ok (session_ok done)
  cases done
  exact bumped_describes _ none

theorem drop_describes {sessionName : String} {clientMessageId : String} {dropReason : QueueDropReason}
    {recipient : Option QueueRecipientIdentity}
    {result : TransportQueueStore × QueueSnapshot}
    (done : store.drop sessionName clientMessageId dropReason recipient = .ok result) :
    ∃ held, Describes result.1 (trim sessionName) none result.2 held := by
  have done := message_ok (session_ok done)
  cases done
  exact bumped_describes _ (some dropReason)

theorem cleanup_describes {sessionName : String}
    {result : TransportQueueStore × QueueSnapshot}
    (done : store.cleanup sessionName = .ok result) :
    ∃ held, Describes result.1 (trim sessionName) none result.2 held := by
  have done := session_ok done
  cases done
  exact bumped_describes _ none

theorem dropAll_describes {sessionName : String} {dropReason : QueueDropReason}
    {result : TransportQueueStore × QueueSnapshot}
    (done : store.dropAll sessionName dropReason = .ok result) :
    ∃ held, Describes result.1 (trim sessionName) none result.2 held := by
  have done := session_ok done
  cases done
  exact bumped_describes _ (some dropReason)

theorem finalizeSentBatch_describes {sessionName : String} {clientMessageIds : List String}
    {deliveryFrameId : String} {now : Int} {recipient : Option QueueRecipientIdentity}
    {conversationKey : Option String}
    {result : TransportQueueStore × FinalizeTransportQueueSentResult}
    (done : store.finalizeSentBatch sessionName clientMessageIds deliveryFrameId now recipient
      conversationKey = .ok result) :
    ∃ held, Describes result.1 (trim sessionName) none result.2.snapshot held := by
  have done := session_ok done
  dsimp only at done
  split at done
  · cases done
    exact snapshotAfter_describes _
  · cases done
    exact bumped_describes _ none

theorem finalizeSent_describes {sessionName clientMessageId deliveryFrameId : String} {now : Int}
    {conversationKey : Option String} {result : TransportQueueStore × QueueSnapshot}
    (done : store.finalizeSent sessionName clientMessageId deliveryFrameId now conversationKey =
      .ok result) : ∃ held, Describes result.1 (trim sessionName) none result.2 held := by
  obtain ⟨finalized, batch, rfl⟩ := answer_ok done
  exact finalizeSentBatch_describes batch

theorem cancelQueuedMessage_describes {sessionName clientMessageId : String}
    {recipient : Option QueueRecipientIdentity} {now : Int}
    {result : TransportQueueStore × CancelQueuedMessageStatus × QueueSnapshot}
    (done : store.cancelQueuedMessage sessionName clientMessageId recipient now = .ok result) :
    ∃ held, Describes result.1 (trim sessionName) none result.2.2 held := by
  have done := message_ok (session_ok done)
  dsimp only at done
  split at done
  · split at done
    · cases done
      exact snapshotAfter_describes _
    · cases done
      exact bumped_describes _ (some .userCleared)
  · cases done
    exact snapshotAfter_describes _

theorem reset_describes {sessionName : String} {resetReason : QueueResetReason}
    {activityGeneration : Option String} {result : TransportQueueStore × QueueSnapshot}
    (done : store.reset sessionName resetReason activityGeneration = .ok result) :
    ∃ held, Describes result.1 (trim sessionName) (some resetReason) result.2 held := by
  have done := session_ok done
  cases done
  exact ⟨_, override_describes (ensureMeta_none_stored _ _) _ _ rfl⟩

theorem enqueueWithCapacityEviction_describes {clock : Int}
    {input : EnqueueTransportQueueEntryInput} {evicted : Option String}
    {result : TransportQueueStore × EnqueueTransportQueueEntryResult}
    (done : store.enqueueWithCapacityEviction clock input evicted = .ok result) :
    ∃ held, ∀ snapshot ∈ result.2.queueSnapshot :: result.2.dropSnapshot.toList,
      Describes result.1 (trim input.sessionName) none snapshot held := by
  have done := session_ok done
  dsimp only at done
  split at done
  · cases done
    obtain ⟨held, describes⟩ : ∃ held, Describes _ _ _ _ held := snapshotAfter_describes _
    refine ⟨held, fun snapshot listed => ?_⟩
    cases List.mem_singleton.mp listed
    exact describes
  · obtain ⟨inserted, _, rfl⟩ := answer_ok done
    refine ⟨(inserted.bumpVersion (trim input.sessionName)).2, fun snapshot listed => ?_⟩
    rcases List.mem_cons.mp listed with rfl | dropped
    · exact override_describes (bumpVersion_stored inserted (trim input.sessionName)) "enqueue"
        (inserted.bumpVersion (trim input.sessionName)).2.version rfl
    · obtain ⟨_, _, rfl⟩ := Option.map_eq_some_iff.mp (Option.mem_toList.mp dropped)
      exact override_describes (bumpVersion_stored inserted (trim input.sessionName)) "drop"
        ((inserted.bumpVersion (trim input.sessionName)).2.dropVersion .capacityEvicted) rfl

theorem enqueue_describes {clock : Int} {input : EnqueueTransportQueueEntryInput}
    {result : TransportQueueStore × QueueSnapshot}
    (done : store.enqueue clock input = .ok result) :
    ∃ held, Describes result.1 (trim input.sessionName) none result.2 held := by
  obtain ⟨enqueued, evicting, rfl⟩ := answer_ok done
  obtain ⟨held, describes⟩ := enqueueWithCapacityEviction_describes evicting
  exact ⟨held, describes _ List.mem_cons_self⟩

theorem step_describes {operation : Operation}
    {result : TransportQueueStore × List QueueSnapshot}
    (done : store.step operation = .ok result) :
    ∃ session, ∀ snapshot ∈ result.2, ∃ held,
      Describes result.1 session operation.announcedReset snapshot held := by
  have silent : ∀ answered : TransportQueueStore,
      ∃ session, ∀ snapshot ∈ ([] : List QueueSnapshot), ∃ held,
        Describes answered session operation.announcedReset snapshot held :=
    fun _ => ⟨"", fun _ impossible => by cases impossible⟩
  have only : ∀ {answered : TransportQueueStore} {session : String}
      {resetReason : Option QueueResetReason} {snapshot : QueueSnapshot},
      (∃ held, Describes answered session resetReason snapshot held) →
      ∃ session, ∀ other ∈ [snapshot], ∃ held,
        Describes answered session resetReason other held := by
    intro answered session resetReason snapshot describes
    exact ⟨session, fun other listed => List.mem_singleton.mp listed ▸ describes⟩
  cases operation with
  | enqueue clock input =>
    obtain ⟨_, call, rfl⟩ := answer_ok done
    exact only (enqueue_describes call)
  | retry clock sessionName failedClientMessageId input =>
    obtain ⟨_, call, rfl⟩ := answer_ok done
    exact only (enqueue_describes (retry_eq_ok call))
  | enqueueWithCapacityEviction clock input evicted =>
    obtain ⟨_, call, rfl⟩ := answer_ok done
    obtain ⟨held, describes⟩ := enqueueWithCapacityEviction_describes call
    exact ⟨_, fun snapshot listed => ⟨held, describes snapshot listed⟩⟩
  | expireStaleDelegationEntries now thresholdMs =>
    cases done
    exact silent _
  | edit sessionName clientMessageId text now replacement =>
    obtain ⟨_, call, rfl⟩ := answer_ok done
    exact only (edit_describes call)
  | releaseHandoff sessionName handoffId clientMessageIds now =>
    obtain ⟨_, call, rfl⟩ := answer_ok done
    exact only (releaseHandoff_describes call)
  | restoreExpiredHandoffs sessionName now includeUnexpired =>
    obtain ⟨_, call, rfl⟩ := answer_ok done
    exact only (restoreExpiredHandoffs_describes call)
  | markMissingPrivateMaterialFailed sessionName clientMessageId now =>
    obtain ⟨_, call, rfl⟩ := answer_ok done
    exact only (markMissingPrivateMaterialFailed_describes call)
  | markDeleted sessionName clientMessageId now =>
    obtain ⟨_, call, rfl⟩ := answer_ok done
    exact only (markDeleted_describes call)
  | markFailed sessionName clientMessageId failureReason now =>
    obtain ⟨_, call, rfl⟩ := answer_ok done
    exact only (markFailed_describes call)
  | dismissFailed sessionName clientMessageId now =>
    obtain ⟨_, call, rfl⟩ := answer_ok done
    exact only (dismissFailed_describes call)
  | cleanup sessionName =>
    obtain ⟨_, call, rfl⟩ := answer_ok done
    exact only (cleanup_describes call)
  | finalizeSent sessionName clientMessageId deliveryFrameId now conversationKey =>
    obtain ⟨_, call, rfl⟩ := answer_ok done
    exact only (finalizeSent_describes call)
  | finalizeSentBatch sessionName clientMessageIds deliveryFrameId now recipient
      conversationKey =>
      obtain ⟨_, call, rfl⟩ := answer_ok done
      exact only (finalizeSentBatch_describes call)
  | drop sessionName clientMessageId dropReason recipient =>
    obtain ⟨_, call, rfl⟩ := answer_ok done
    exact only (drop_describes call)
  | dropAll sessionName dropReason =>
    obtain ⟨_, call, rfl⟩ := answer_ok done
    exact only (dropAll_describes call)
  | reset sessionName resetReason activityGeneration =>
    obtain ⟨_, call, rfl⟩ := answer_ok done
    exact only (reset_describes call)
  | cancelQueuedMessage sessionName clientMessageId recipient now =>
    obtain ⟨_, call, rfl⟩ := answer_ok done
    exact only (cancelQueuedMessage_describes call)
  | readSnapshot sessionName source =>
    obtain ⟨_, call, rfl⟩ := answer_ok done
    exact only (readSnapshot_describes call)
  | readSnapshotForRecipient sessionName recipient source =>
    obtain ⟨_, call, rfl⟩ := answer_ok done
    exact only (readSnapshotForRecipient_describes call)
  | attachSupervisionReference | markHandoffInFlight | markAppendFallback
  | scrubPeerAuditOrphans | recordDeliveryTombstone | recordDirectDelivery
  | reconcileDeliveredQueueRows | clearDeliveryTombstone | discardSessionQueueState
  | adoptLegacyRecipientIdentity | bindFreshLaunchRecipient | rebindRecipientRuntimeEpoch =>
    obtain ⟨_, call, rfl⟩ := answer_ok done
    exact silent _

theorem returned_describes {operation : Operation} {snapshot : QueueSnapshot}
    (listed : snapshot ∈ store.returned operation) :
    ∃ held, Describes (store.next operation) snapshot.sessionName operation.announcedReset
      snapshot held := by
  unfold returned at listed
  unfold next
  cases done : store.step operation with
  | error thrown =>
    rw [done] at listed
    cases listed
  | ok result =>
    rw [done] at listed
    obtain ⟨session, describes⟩ := step_describes done
    obtain ⟨held, shown⟩ := describes snapshot listed
    exact ⟨held, shown.sessionName.symm ▸ shown⟩

end Host

end TransportQueueStore

end ImCodes.Queue
