import ImCodes.Queue.EpochAgreement
import ImCodes.Queue.LiveWork
import ImCodes.Queue.Store.Handover

/-!
# Equal versions

Two reads of a session under one epoch and one version list the same messages, as long
as no call in between hands listed rows over to or from the caller: those calls leave
the version as it is.
-/

set_option autoImplicit false

namespace ImCodes.Queue

open Library

/-- The session a read asks about, and whose messages it shows: everybody's, or only
the caller's. -/
def Operation.reads? : Operation → Option (String × Option (Option QueueRecipientIdentity))
  | .readSnapshot sessionName _ => some (trim sessionName, none)
  | .readSnapshotForRecipient sessionName recipient _ =>
    some (trim sessionName, some (normalizeQueueRecipient recipient))
  | _ => none

namespace TransportQueueStore

/-! ## Enqueueing -/

theorem Stirs.supersedeCron {start store : TransportQueueStore} {session : String}
    (stirs : Stirs session start store) (commandId : Option String) (now : Int) :
    Stirs session start (store.supersedeCron session commandId now) := by
  unfold TransportQueueStore.supersedeCron
  split
  · refine stirs.updateEntries fun row superseded => ?_
    simp only [supersededByCron, inSession, Bool.and_eq_true, decide_eq_true_eq] at superseded
    exact superseded.1.1
  · exact stirs

theorem Stirs.evictMessage {start store : TransportQueueStore} {session : String}
    (stirs : Stirs session start store) (evicted : Option String) :
    Stirs session start (store.evictMessage session evicted) := by
  unfold TransportQueueStore.evictMessage
  split
  · exact stirs.deleteMessage _ ungated
  · exact stirs

theorem Stirs.insertMessage {start store inserted : TransportQueueStore} {session : String}
    (stirs : Stirs session start store) {input : EnqueueTransportQueueEntryInput}
    {clientMessageId : String} {recipient : Option QueueRecipientIdentity} {now : Int}
    {ordinal : Nat}
    (done : store.insertMessage input session clientMessageId recipient now ordinal =
      .ok inserted) : Stirs session start inserted := by
  have entries := insertMessage_queueEntries done
  refine stirs.trans ⟨fun row outside => ?_, fun held found => ?_⟩
  · rw [Table.mem_insert entries]
    refine or_iff_left ?_
    rintro rfl
    exact outside rfl
  · unfold TransportQueueStore.insertMessage at done
    split at done
    · cases done
    · cases done
      refine ⟨{ held with nextOrdinal := held.nextOrdinal + 1 }, ?_, Nat.le_refl _⟩
      have named := (Table.lookup_eq_some_iff.mp found).2
      refine lookup_takeOrdinal.trans ?_
      simp [found, named]

/-! ## What a snapshot says -/

def listing (entries : List QueueProjectionEntry) : List (String × String × QueueEntryStatus) :=
  entries.map fun entry => (entry.clientMessageId, entry.text, entry.status)

theorem listing_eq (entries : List QueueStoredEntry) :
    listing (entries.map buildQueueProjectionEntry) =
      (entries.map fun entry => entry.row.listed).map fun item =>
        (item.clientMessageId, item.text, item.status) := by
  simp only [listing, List.map_map]
  rfl

section Host

variable [Host] {store : TransportQueueStore}

theorem Stirs.openForEnqueue (session : String) (input : EnqueueTransportQueueEntryInput)
    (now : Int) : Stirs session store (store.openForEnqueue session input now) := by
  obtain ⟨sameMeta, same⟩ := @identifyMessage_tables _ store input.clientMessageId
  have identified : Stirs session store (store.identifyMessage input.clientMessageId).1 :=
    Stirs.refl.rows sameMeta fun row _ => by rw [same.queueEntries]
  exact (identified.ensureMeta _).rows rfl fun _ _ => Iff.rfl

theorem enqueueWithCapacityEviction_elsewhere {clock : Int}
    {input : EnqueueTransportQueueEntryInput} {evicted : Option String}
    {result : TransportQueueStore × EnqueueTransportQueueEntryResult}
    (done : store.enqueueWithCapacityEviction clock input evicted = .ok result)
    (row : QueueEntryRow) (outside : row.sessionName ≠ trim input.sessionName) :
    row ∈ result.1.queueEntries ↔ row ∈ store.queueEntries := by
  by_cases admits : store.Admits input (store.identifyMessage input.clientMessageId).2
    (input.now.getD clock) (trimmed evicted)
  · obtain ⟨answer, admitted, _, fresh, ⟨ordinal, rfl⟩, members⟩ :=
      enqueueWithCapacityEviction_admitted clock rfl admits
    cases done.symm.trans admitted
    have spared : ∀ old : QueueEntryRow, old.sessionName ≠ trim input.sessionName →
        supersededBy (trim input.sessionName) input.commandId old = false := by
      intro old different
      simp [supersededBy, supersededByCron, inSession, MessageRow.sessionName, different]
    rw [members]
    constructor
    · rintro (rfl | ⟨old, member, _, rfl⟩)
      · exact absurd rfl outside
      · have oldOutside : old.sessionName ≠ trim input.sessionName := by
          split at outside
          · exact outside
          · exact outside
        rwa [spared old oldOutside]
    · intro member
      refine .inr ⟨row, member, fun inside => absurd inside outside, ?_⟩
      rw [spared row outside]
      rfl
  · rcases enqueueWithCapacityEviction_refused clock rfl admits with
      ⟨error, failed⟩ | ⟨answer, refused, _, same⟩
    · cases done.symm.trans failed
    · cases done.symm.trans refused
      rw [same]

theorem Faithful.of_new {session : String} {before after : TransportQueueStore}
    (minted : Minted before) (isNew : EpochIsNew session before after) :
    Faithful session before after := by
  intro view held later found laterFound sameEpoch
  obtain ⟨index, used, mintedAt⟩ := minted held (Table.lookup_eq_some_iff.mp found).1
  obtain ⟨freshIndex, fresh, freshMintedAt⟩ := isNew later laterFound
  have same : freshIndex = index := Host.randomUUID_injective
    (freshMintedAt.queueEpoch.symm.trans (sameEpoch.trans mintedAt.queueEpoch))
  omega

theorem enqueueWithCapacityEviction_faithful {clock : Int}
    {input : EnqueueTransportQueueEntryInput} {evicted : Option String}
    {result : TransportQueueStore × EnqueueTransportQueueEntryResult} (minted : Minted store)
    (done : store.enqueueWithCapacityEviction clock input evicted = .ok result)
    (other : String) : Faithful other store result.1 := by
  by_cases same : other = trim input.sessionName
  · subst same
    by_cases replaced : store.replacesQueue clock input = true
    · exact .of_new minted (enqueueWithCapacityEviction_isNew replaced done)
    · have done := session_ok done
      have opened := @Stirs.openForEnqueue _ store (trim input.sessionName) input
        (input.now.getD clock)
      dsimp only at done
      split at done
      · cases done
        dsimp only
        refine .of_entries ((snapshotAfter_sameMessages _ _ _ _).queueEntries.trans ?_)
        exact openForEnqueue_queueEntries
      · next admitted =>
          rw [openForEnqueue_isCancelled, Bool.not_eq_true] at admitted
          have own : store.isForeignQueue (trim input.sessionName)
              (normalizeQueueRecipient input.recipient) = false := by
            simpa [replacesQueue, admitted] using replaced
          obtain ⟨inserted, insertion, rfl⟩ := answer_ok done
          have unreplaced : (store.openForEnqueue (trim input.sessionName) input
              (input.now.getD clock)).replaceForeignQueue (trim input.sessionName)
                (normalizeQueueRecipient input.recipient) =
              store.openForEnqueue (trim input.sessionName) input (input.now.getD clock) := by
            unfold replaceForeignQueue
            rw [openForEnqueue_isForeignQueue, own]
            rfl
          rw [unreplaced] at insertion
          have entered := ((opened.supersedeCron input.commandId (input.now.getD clock)).evictMessage
            (trimmed evicted)).insertMessage insertion
          exact entered.bumpVersion (trim input.sessionName)
  · exact .of_rows fun row inside =>
      enqueueWithCapacityEviction_elsewhere done row (inside ▸ same)

theorem reset_faithful {sessionName : String} {resetReason : QueueResetReason}
    {activityGeneration : Option String} {result : TransportQueueStore × QueueSnapshot}
    (minted : Minted store)
    (done : store.reset sessionName resetReason activityGeneration = .ok result)
    (other : String) : Faithful other store result.1 := by
  by_cases same : other = trim sessionName
  · subst same
    exact .of_new minted (reset_isNew done)
  · have done := session_ok done
    cases done
    refine .of_rows fun row inside => ?_
    have ensured := (ensureMeta_sameMessages ((store.deleteSessionRows (trim sessionName)).renewMeta
      (trim sessionName)) (trim sessionName) none).queueEntries
    refine (iff_of_eq (congrArg (row ∈ ·) ensured)).trans ?_
    refine Table.mem_deleteWhere.trans (and_iff_left ?_)
    exact decide_eq_false fun here => same (inside.symm.trans here)

theorem discardSessionQueueState_faithful {sessionName : String}
    {recipient : Option QueueRecipientIdentity}
    {result : TransportQueueStore × DiscardTransportQueueStateResult} (minted : Minted store)
    (done : store.discardSessionQueueState sessionName recipient = .ok result) (other : String) :
    Faithful other store result.1 := by
  by_cases same : other = trim sessionName
  · subst same
    exact .of_new minted (discardSessionQueueState_isNew done)
  · have done := session_ok done
    have cleared : ∀ row : QueueEntryRow, row.sessionName = other →
        (row ∈ (store.deleteSessionQueueStateRows (trim sessionName)).queueEntries ↔
          row ∈ store.queueEntries) := by
      intro row inside
      refine Table.mem_deleteWhere.trans (and_iff_left ?_)
      exact decide_eq_false fun here => same (inside.symm.trans here)
    cases done
    dsimp only
    split
    · exact .of_rows cleared
    · exact .of_rows cleared

/-! ## Steps and runs -/

theorem step_faithful {operation : Operation} {session : String}
    {view : Option (Option QueueRecipientIdentity)} {result : TransportQueueStore × List QueueSnapshot}
    (minted : Minted store) (keeps : ¬ operation.HandsOver store session view)
    (done : store.step operation = .ok result) : FaithfulTo view session store result.1 := by
  cases operation with
  | enqueue clock input =>
    obtain ⟨answer, call, done⟩ := bind_eq_ok.mp done
    obtain ⟨enqueued, evicting, rfl⟩ := answer_ok call
    cases done
    exact enqueueWithCapacityEviction_faithful minted evicting session view
  | enqueueWithCapacityEviction clock input evicted =>
    obtain ⟨_, call, rfl⟩ := answer_ok done
    exact enqueueWithCapacityEviction_faithful minted call session view
  | retry clock sessionName failedClientMessageId input =>
    obtain ⟨answer, call, done⟩ := bind_eq_ok.mp done
    obtain ⟨enqueued, evicting, call⟩ := bind_eq_ok.mp (retry_eq_ok call)
    cases call
    cases done
    exact enqueueWithCapacityEviction_faithful minted evicting session view
  | expireStaleDelegationEntries now thresholdMs =>
    cases done
    exact expireStaleDelegationEntries_faithful now thresholdMs session view
  | attachSupervisionReference sessionName clientMessageId reference now =>
    obtain ⟨_, call, rfl⟩ := answer_ok done
    exact attachSupervisionReference_faithful call session view
  | edit sessionName clientMessageId text now replacement =>
    obtain ⟨_, call, rfl⟩ := answer_ok done
    exact edit_faithful call session view
  | markHandoffInFlight sessionName clientMessageIds leaseMs now recipient =>
    obtain ⟨_, call, rfl⟩ := answer_ok done
    exact markHandoffInFlight_faithful call session view
  | releaseHandoff sessionName handoffId clientMessageIds now =>
    obtain ⟨_, call, rfl⟩ := answer_ok done
    exact releaseHandoff_faithful call session view
  | restoreExpiredHandoffs sessionName now includeUnexpired =>
    obtain ⟨_, call, rfl⟩ := answer_ok done
    exact restoreExpiredHandoffs_faithful call session view
  | markAppendFallback sessionName clientMessageId reason recipient =>
    obtain ⟨_, call, rfl⟩ := answer_ok done
    exact markAppendFallback_faithful call session view
  | scrubPeerAuditOrphans sessionName =>
    obtain ⟨_, call, rfl⟩ := answer_ok done
    exact scrubPeerAuditOrphans_faithful call session view
  | markMissingPrivateMaterialFailed sessionName clientMessageId now =>
    obtain ⟨_, call, rfl⟩ := answer_ok done
    exact markMissingPrivateMaterialFailed_faithful call session view
  | markDeleted sessionName clientMessageId now =>
    obtain ⟨_, call, rfl⟩ := answer_ok done
    exact markDeleted_faithful call session view
  | markFailed sessionName clientMessageId failureReason now =>
    obtain ⟨_, call, rfl⟩ := answer_ok done
    exact markFailed_faithful call session view
  | dismissFailed sessionName clientMessageId now =>
    obtain ⟨_, call, rfl⟩ := answer_ok done
    exact dismissFailed_faithful call session view
  | cleanup sessionName =>
    obtain ⟨_, call, rfl⟩ := answer_ok done
    exact cleanup_faithful call session view
  | finalizeSent sessionName clientMessageId deliveryFrameId now conversationKey =>
    obtain ⟨answer, call, done⟩ := bind_eq_ok.mp done
    obtain ⟨finalized, batch, rfl⟩ := answer_ok call
    cases done
    exact finalizeSentBatch_faithful batch session view
  | finalizeSentBatch sessionName clientMessageIds deliveryFrameId now recipient conversationKey =>
    obtain ⟨_, call, rfl⟩ := answer_ok done
    exact finalizeSentBatch_faithful call session view
  | recordDeliveryTombstone sessionName clientMessageId deliveryFrameId now recipient
      conversationKey =>
      obtain ⟨_, call, rfl⟩ := answer_ok done
      exact Faithful.of_entries (recordDeliveryTombstone_entries call).1 view
  | recordDirectDelivery sessionName clientMessageId deliveryFrameId now recipient
      conversationKey =>
      obtain ⟨_, call, rfl⟩ := answer_ok done
      exact recordDirectDelivery_faithful call session view
  | reconcileDeliveredQueueRows sessionName =>
    obtain ⟨_, call, rfl⟩ := answer_ok done
    exact reconcileDeliveredQueueRows_faithful .refl rfl call session view
  | clearDeliveryTombstone sessionName clientMessageId =>
    obtain ⟨_, call, rfl⟩ := answer_ok done
    exact clearDeliveryTombstone_faithful call session view
  | drop sessionName clientMessageId dropReason recipient =>
    obtain ⟨_, call, rfl⟩ := answer_ok done
    exact drop_faithful call session view
  | dropAll sessionName dropReason =>
    obtain ⟨_, call, rfl⟩ := answer_ok done
    exact dropAll_faithful call session view
  | reset sessionName resetReason activityGeneration =>
    obtain ⟨_, call, rfl⟩ := answer_ok done
    exact reset_faithful minted call session view
  | discardSessionQueueState sessionName recipient =>
    obtain ⟨_, call, rfl⟩ := answer_ok done
    exact discardSessionQueueState_faithful minted call session view
  | cancelQueuedMessage sessionName clientMessageId recipient now =>
    obtain ⟨_, call, rfl⟩ := answer_ok done
    exact cancelQueuedMessage_faithful call session view
  | adoptLegacyRecipientIdentity sessionName recipient sessionCreatedAt limit =>
    obtain ⟨_, call, rfl⟩ := answer_ok done
    exact adoptLegacyRecipientIdentity_faithful keeps call
  | bindFreshLaunchRecipient sessionName recipient expectedClientMessageIds =>
    obtain ⟨_, call, rfl⟩ := answer_ok done
    exact bindFreshLaunchRecipient_faithful keeps call
  | rebindRecipientRuntimeEpoch sessionName previous next =>
    obtain ⟨_, call, rfl⟩ := answer_ok done
    exact rebindRecipientRuntimeEpoch_faithful keeps call
  | readSnapshot sessionName source =>
    obtain ⟨answer, call, done⟩ := bind_eq_ok.mp done
    obtain ⟨named, _, rfl⟩ := answer_ok call
    cases done
    exact readSnapshot_faithful store named session source view
  | readSnapshotForRecipient sessionName recipient source =>
    obtain ⟨answer, call, done⟩ := bind_eq_ok.mp done
    obtain ⟨named, _, rfl⟩ := answer_ok call
    cases done
    refine Faithful.of_entries ?_ view
    exact (ensureMeta_sameMessages store named none).queueEntries

theorem next_faithful {operation : Operation} {session : String}
    {view : Option (Option QueueRecipientIdentity)} (minted : Minted store)
    (keeps : ¬ operation.HandsOver store session view) :
    FaithfulTo view session store (store.next operation) := by
  cases done : store.step operation with
  | error thrown =>
    rw [next, done]
    exact Faithful.of_entries rfl view
  | ok result =>
    rw [next_of_ok done]
    exact step_faithful minted keeps done

theorem FaithfulTo.trans {view : Option (Option QueueRecipientIdentity)} {session : String}
    {first second third : TransportQueueStore} (firstMinted : Minted first)
    (secondMinted : Minted second) (reached : Advances session first second)
    (further : Advances session second third) (left : FaithfulTo view session first second)
    (right : FaithfulTo view session second third) : FaithfulTo view session first third := by
  intro held later found laterFound sameEpoch sameVersion item
  have stale : ∀ {before : TransportQueueStore}, Minted before → EpochIsNew session before third →
      ∀ old, before.queueMeta.lookup session = some old → old.queueEpoch = held.queueEpoch →
        False := by
    intro before minted isNew old oldFound oldEpoch
    obtain ⟨index, used, mintedAt⟩ := minted old (Table.lookup_eq_some_iff.mp oldFound).1
    obtain ⟨freshIndex, fresh, freshMintedAt⟩ := isNew later laterFound
    have same : freshIndex = index := Host.randomUUID_injective
      (freshMintedAt.queueEpoch.symm.trans (sameEpoch.trans (oldEpoch.symm.trans
        mintedAt.queueEpoch)))
    omega
  rcases reached.epoch with ⟨known, middle, goesOn⟩ | isNew
  · cases goesOn.found.symm.trans found
    rcases further.epoch with ⟨other, last, goesFurther⟩ | isNew
    · cases goesFurther.found.symm.trans goesOn.laterFound
      cases goesFurther.laterFound.symm.trans laterFound
      have low := goesOn.version
      have high := goesFurther.version
      refine (right middle later goesOn.laterFound laterFound goesFurther.queueEpoch ?_ item).trans
        (left held middle found goesOn.laterFound goesOn.queueEpoch ?_ item)
      · omega
      · omega
    · exact (stale secondMinted isNew middle goesOn.laterFound goesOn.queueEpoch).elim
  · exact (stale firstMinted (isNew.advances reached.issued further) held found rfl).elim

theorem next_minted {operation : Operation} (minted : Minted store) :
    Minted (store.next operation) :=
  (next_changes store operation).preserves (fun _ _ => Change.minted) minted

theorem run_faithful {operations : List Operation} {session : String}
    {view : Option (Option QueueRecipientIdentity)} (minted : Minted store)
    (keeps : Meets next (fun store operation => ¬ operation.HandsOver store session view) store
      operations) : FaithfulTo view session store (run next store operations) := by
  induction operations generalizing store with
  | nil => exact Faithful.of_entries rfl view
  | cons operation rest ih =>
    have laterMinted : Minted (store.next operation) := next_minted minted
    exact FaithfulTo.trans minted laterMinted (next_advances store operation session)
      (run_advances _ rest session) (next_faithful minted keeps.1) (ih laterMinted keeps.2)

/-! ## Listings -/

/-- The entries of one kind that a snapshot lists. -/
def listedEntries (store : TransportQueueStore) (session : String)
    (view : Option (Option QueueRecipientIdentity)) (kind : QueueEntryStatus → Bool) :
    List QueueStoredEntry :=
  sortByPosition QueueStoredEntry.position
    ((store.readRows session view).filter fun entry => kind entry.row.status)

theorem listedEntries_ranked (numbered : Numbered store) (session : String)
    (view : Option (Option QueueRecipientIdentity)) (kind : QueueEntryStatus → Bool) :
    ((store.listedEntries session view kind).map fun entry => entry.row.listed).Pairwise
      fun left right => positionRank left.position < positionRank right.position := by
  have apart := (readRows_apart numbered session view).sublist
    (List.filter_sublist (p := fun entry => kind entry.row.status))
  exact List.pairwise_map.mpr (@sortByPosition_ranked _ _ QueueStoredEntry.position _ apart)

theorem mem_listedEntries {session : String} {view : Option (Option QueueRecipientIdentity)}
    {kind : QueueEntryStatus → Bool} (opened : (store.queueMeta.lookup session).isSome = true)
    (shown : ∀ row : QueueEntryRow, kind row.status = true → row.isListed = true)
    {item : ListedRow} :
    item ∈ (store.listedEntries session view kind).map (fun entry => entry.row.listed) ↔
      kind item.status = true ∧ store.Lists session view item := by
  simp only [listedEntries, List.mem_map, mem_sortByPosition, List.mem_filter]
  constructor
  · rintro ⟨entry, ⟨read, ofKind⟩, rfl⟩
    obtain ⟨member, inside, addressed, _⟩ := mem_readRows read
    exact ⟨ofKind, entry.row, member, inside, shown entry.row ofKind, addressed, rfl⟩
  · rintro ⟨ofKind, row, member, inside, _, addressed, rfl⟩
    exact ⟨_, ⟨mem_readRows_of_mem member inside opened addressed, ofKind⟩, rfl⟩

theorem listing_alike {before after : TransportQueueStore} {session : String}
    {view : Option (Option QueueRecipientIdentity)} {kind : QueueEntryStatus → Bool}
    (beforeNumbered : Numbered before) (afterNumbered : Numbered after)
    (beforeOpened : (before.queueMeta.lookup session).isSome = true)
    (afterOpened : (after.queueMeta.lookup session).isSome = true)
    (shown : ∀ row : QueueEntryRow, kind row.status = true → row.isListed = true)
    (same : ∀ item, after.Lists session view item ↔ before.Lists session view item) :
    listing ((after.listedEntries session view kind).map buildQueueProjectionEntry) =
      listing ((before.listedEntries session view kind).map buildQueueProjectionEntry) := by
  rw [listing_eq, listing_eq]
  refine congrArg (List.map _) ?_
  have irreflexive : Std.Irrefl fun left right : ListedRow =>
      positionRank left.position < positionRank right.position :=
    ⟨fun item => lt_irrefl _⟩
  have antisymmetric : Std.Antisymm fun left right : ListedRow =>
      positionRank left.position < positionRank right.position :=
    ⟨fun left right less greater => absurd less greater.asymm⟩
  refine List.Pairwise.eq_of_mem_iff (listedEntries_ranked afterNumbered session view kind)
    (listedEntries_ranked beforeNumbered session view kind) ?_
  intro item
  rw [mem_listedEntries afterOpened shown, mem_listedEntries beforeOpened shown, same]

theorem read_shows {read : Operation} {session : String}
    {view : Option (Option QueueRecipientIdentity)} {snapshot : QueueSnapshot}
    (reads : read.reads? = some (session, view)) (listed : snapshot ∈ store.returned read) :
    ∃ source, store.next read = (store.buildSnapshot session source none view).1 ∧
      snapshot = (store.buildSnapshot session source none view).2 := by
  unfold returned at listed
  cases done : store.step read with
  | error thrown =>
    rw [done] at listed
    cases listed
  | ok result =>
    rw [done] at listed
    rw [next_of_ok done]
    cases read with
    | readSnapshot sessionName source =>
      obtain ⟨answer, call, done⟩ := bind_eq_ok.mp done
      have call := session_ok call
      cases call
      cases done
      cases reads
      exact ⟨source, rfl, List.mem_singleton.mp listed⟩
    | readSnapshotForRecipient sessionName recipient source =>
      obtain ⟨answer, call, done⟩ := bind_eq_ok.mp done
      have call := session_ok call
      cases call
      cases done
      cases reads
      exact ⟨source, rfl, List.mem_singleton.mp listed⟩
    | _ => cases reads

theorem read_lists {read : Operation} {session : String}
    {view : Option (Option QueueRecipientIdentity)} {snapshot : QueueSnapshot}
    (reads : read.reads? = some (session, view)) (listed : snapshot ∈ store.returned read) :
    ∃ held, Describes (store.next read) session none snapshot held ∧
      snapshot.pendingMessageEntries = ((store.next read).listedEntries session view
        QueueEntryStatus.isLive).map buildQueueProjectionEntry ∧
      snapshot.failedMessageEntries = ((store.next read).listedEntries session view
        QueueEntryStatus.isFailed).map buildQueueProjectionEntry := by
  obtain ⟨source, left, rfl⟩ := read_shows reads listed
  rw [left]
  obtain ⟨held, describes⟩ := @buildSnapshot_describes _ store session source view
  exact ⟨held, describes, rfl, rfl⟩

/-- As long as no call in between hands listed rows over to or from the caller without
counting the version up, two reads under one epoch have versions that do not go back, and
under one version they list the same messages as pending and the same as failed. -/
theorem equal_versions_list_alike (session : String)
    (view : Option (Option QueueRecipientIdentity)) (earlier between : List Operation)
    (first last : Operation) (before after : QueueSnapshot)
    (firstReads : first.reads? = some (session, view))
    (lastReads : last.reads? = some (session, view))
    (isBefore : before ∈ (run next empty earlier).returned first)
    (keeps : Meets next (fun store operation => ¬ operation.HandsOver store session view)
      (run next empty (earlier ++ [first])) between)
    (isAfter : after ∈ (run next empty (earlier ++ [first] ++ between)).returned last)
    (sameEpoch : after.queueEpoch = before.queueEpoch) :
    ∃ low high : Nat, before.pendingMessageVersion = .finite low ∧
      after.pendingMessageVersion = .finite high ∧ low ≤ high ∧
      (high = low →
        listing after.pendingMessageEntries = listing before.pendingMessageEntries ∧
        listing after.failedMessageEntries = listing before.failedMessageEntries) := by
  obtain ⟨held, describes, pending, failed⟩ := read_lists firstReads isBefore
  obtain ⟨later, describesAfter, pendingAfter, failedAfter⟩ := read_lists lastReads isAfter
  have atFirst : run next empty (earlier ++ [first]) = (run next empty earlier).next first :=
    run_append next empty earlier [first]
  have minted := run_minted (earlier ++ [first])
  have numbered : Numbered (run next empty (earlier ++ [first])) := reachable_numbered ⟨_, rfl⟩
  have numberedAfter : Numbered (run next empty (earlier ++ [first] ++ between ++ [last])) :=
    reachable_numbered ⟨_, rfl⟩
  have atLast : run next empty (earlier ++ [first] ++ between ++ [last]) =
      (run next empty (earlier ++ [first] ++ between)).next last :=
    run_append next empty (earlier ++ [first] ++ between) [last]
  have ends : run next empty (earlier ++ [first] ++ between ++ [last]) =
      run next (run next empty (earlier ++ [first])) (between ++ [last]) := by
    rw [List.append_assoc (earlier ++ [first]), run_append]
  have readKeeps : ∀ store : TransportQueueStore, ¬ last.HandsOver store session view := by
    intro store handsOver
    cases last with
    | bindFreshLaunchRecipient => cases lastReads
    | rebindRecipientRuntimeEpoch => cases lastReads
    | adoptLegacyRecipientIdentity => cases lastReads
    | _ => exact handsOver
  have keepsAll : Meets next (fun store operation => ¬ operation.HandsOver store session view)
      (run next empty (earlier ++ [first])) (between ++ [last]) :=
    meets_append.mpr ⟨keeps, readKeeps _, trivial⟩
  have faithful := run_faithful minted keepsAll
  have advances := run_advances (run next empty (earlier ++ [first])) (between ++ [last]) session
  rw [← ends] at faithful advances
  rw [← atFirst] at describes pending failed
  rw [← atLast] at describesAfter pendingAfter failedAfter
  have epoch : later.queueEpoch = held.queueEpoch :=
    describesAfter.queueEpoch.symm.trans (sameEpoch.trans describes.queueEpoch)
  rcases advances.epoch with ⟨known, reached, goesOn⟩ | isNew
  · cases goesOn.found.symm.trans describes.found
    cases goesOn.laterFound.symm.trans describesAfter.found
    refine ⟨_, _, describes.version, describesAfter.version, goesOn.version, fun sameVersion => ?_⟩
    have same := faithful held later goesOn.found goesOn.laterFound goesOn.queueEpoch sameVersion
    have opened := Option.isSome_of_eq_some goesOn.found
    have openedAfter := Option.isSome_of_eq_some goesOn.laterFound
    rw [pending, failed, pendingAfter, failedAfter]
    constructor
    · exact listing_alike numbered numberedAfter opened openedAfter
        (fun row live => Bool.or_eq_true_iff.mpr (.inl live)) same
    · exact listing_alike numbered numberedAfter opened openedAfter
        (fun row failed => Bool.or_eq_true_iff.mpr (.inr failed)) same
  · obtain ⟨index, used, mintedAt⟩ := minted held (Table.lookup_eq_some_iff.mp describes.found).1
    obtain ⟨freshIndex, fresh, freshMintedAt⟩ := isNew later describesAfter.found
    have same : freshIndex = index := Host.randomUUID_injective
      (freshMintedAt.queueEpoch.symm.trans (epoch.trans mintedAt.queueEpoch))
    omega

end Host

section FixedRuns

open Library.FixedRuns

def enqueueLegacy : Operation := .enqueue 0 (plainMessage none "m1" 1)

def readAsFirst : Operation := .readSnapshotForRecipient "deck" (some ⟨"A", "e"⟩) "read"

def bindFirst : Operation := .bindFreshLaunchRecipient "deck" ⟨"A", "e"⟩ ["m1"]

/-- Binding the launch gap shows the message to its recipient under the old version. -/
theorem handover_hidden_by_version :
    ∃ before ∈ (run next empty [enqueueLegacy]).returned readAsFirst,
    ∃ after ∈ (run next empty ([enqueueLegacy] ++ [readAsFirst] ++ [bindFirst])).returned
        readAsFirst,
      after.queueEpoch = before.queueEpoch ∧
      after.pendingMessageVersion = before.pendingMessageVersion ∧
      listing before.pendingMessageEntries = [] ∧
      listing after.pendingMessageEntries = [("m1", "hello", .queued)] := by
  decide

def firstRead : QueueSnapshot := snapshotOf "u" "uu" 1 none ["m1"]

def readAfterEdit : QueueSnapshot :=
  { firstRead with
    pendingMessageVersion := .finite 2
    pendingMessageEntries := [{ queuedEntry "m1" with text := "bye", updatedAt := 2 }] }

theorem equal_versions_list_alike_run :
    ∃ low high : Nat, firstRead.pendingMessageVersion = .finite low ∧
      readAfterEdit.pendingMessageVersion = .finite high ∧ low ≤ high ∧
      (high = low →
        listing readAfterEdit.pendingMessageEntries = listing firstRead.pendingMessageEntries ∧
        listing readAfterEdit.failedMessageEntries = listing firstRead.failedMessageEntries) :=
  equal_versions_list_alike "deck" (some (some ⟨"A", "e"⟩)) [enqueueFirst]
    [.edit "deck" "m1" "bye" 2 none] readAsFirst readAsFirst firstRead readAfterEdit
    (by decide) (by decide) (by decide) ⟨id, trivial⟩ (by decide) rfl

end FixedRuns

end TransportQueueStore

end ImCodes.Queue
