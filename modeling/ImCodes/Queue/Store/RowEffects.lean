import ImCodes.Queue.Store.Change

/-!
# Operations on rows as changes

One lemma for each method that leases, rewrites or settles the rows of a queue,
saying what its calls need of a footprint.
-/

set_option autoImplicit false

namespace ImCodes.Queue

open Library

namespace TransportQueueStore

variable [Host] {allowed : Footprint} {store : TransportQueueStore} {sessionName : String}

/-! ## Reads -/

theorem readSnapshot_changes {source : String} {result : TransportQueueStore × QueueSnapshot}
    (done : store.readSnapshot sessionName source = .ok result) :
    Changes allowed store result.1 := by
  obtain ⟨session, _, rfl⟩ := answer_ok done
  exact Changes.refl.snapshotAfter source none

theorem readSnapshotForRecipient_changes {recipient : Option QueueRecipientIdentity}
    {source : String} {result : TransportQueueStore × QueueSnapshot}
    (done : store.readSnapshotForRecipient sessionName recipient source = .ok result) :
    Changes allowed store result.1 := by
  obtain ⟨session, _, rfl⟩ := answer_ok done
  exact Changes.refl.ensureMeta none

/-! ## Handoff leases -/

theorem Changes.leaseMessages {start : TransportQueueStore}
    (changes : Changes allowed start store) {session handoffId : String} {leaseMs now : Int}
    {caller : Option QueueRecipientIdentity} (issued : store.Issued handoffId)
    {clientMessageIds : List String} :
    Changes allowed start
      (store.leaseMessages session handoffId leaseMs now caller clientMessageIds).1 := by
  suffices general : ∀ state : TransportQueueStore × Nat, Changes allowed start state.1 →
      state.1.Issued handoffId → Changes allowed start (clientMessageIds.foldl
        (fun state clientMessageId =>
          (state.1.leaseMessage session handoffId leaseMs now caller clientMessageId,
            state.2 + state.1.queueEntries.changes (isLeasable session clientMessageId caller)))
        state).1 from general (store, 0) changes issued
  induction clientMessageIds with
  | nil => exact fun _ changes _ => changes
  | cons clientMessageId rest ih =>
    intro state changes issued
    refine ih _ (changes.updateEntries ?_) issued
    intro row leasable
    simp only [isLeasable, QueueEntryRow.queued, Bool.and_eq_true, decide_eq_true_eq] at leasable
    refine ⟨rfl, rfl, rfl, rfl, rfl, fun _ => ?_, ?_, fun given => by cases given⟩
    · rw [leasable.1.2]
      rfl
    · rintro given isGiven
      cases isGiven
      exact .inr issued

theorem markHandoffInFlight_changes {clientMessageIds : List String} {leaseMs now : Int}
    {recipient : Option QueueRecipientIdentity}
    {result : TransportQueueStore × List HandoffTransportQueueEntry}
    (mayPrune : allowed.prunes now)
    (done : store.markHandoffInFlight sessionName clientMessageIds leaseMs now recipient =
      .ok result) : Changes allowed store result.1 := by
  obtain ⟨session, _, done⟩ := bind_eq_ok.mp done
  dsimp only at done
  split at done
  · cases done
    exact .refl
  · have opened : Changes allowed store ((store.freshUUID.1.ensureMeta session
        (normalizeQueueRecipient recipient)).1.pruneCancellations now) :=
      ((Changes.refl.change .issue).ensureMeta _).change (.prune now mayPrune)
    have issued : ((store.freshUUID.1.ensureMeta session
        (normalizeQueueRecipient recipient)).1.pruneCancellations now).Issued
          store.freshUUID.2 := by
      refine ⟨store.uuidsIssued, ?_, rfl⟩
      exact Nat.lt_of_lt_of_le (Nat.lt_succ_self _)
        (ensureMeta_uuidsIssued store.freshUUID.1 session _)
    cases done
    dsimp only
    split
    · exact (opened.leaseMessages issued).bumpVersion
    · exact opened.leaseMessages issued

theorem Changes.releaseMessages {start : TransportQueueStore}
    (changes : Changes allowed start store) {session handoffId : String} {now : Int}
    {clientMessageIds : List String} :
    Changes allowed start (store.releaseMessages session handoffId now clientMessageIds).1 := by
  unfold TransportQueueStore.releaseMessages
  refine Changes.foldl Prod.fst ?_ changes
  intro state clientMessageId changes
  apply changes.updateEntries
  intro row releasable
  simp only [isReleasable, Bool.and_eq_true, decide_eq_true_eq] at releasable
  refine ⟨rfl, rfl, rfl, rfl, rfl, fun _ => ?_, fun _ leased => (by cases leased),
      fun given => by cases given⟩
  rw [releasable.1.2]
  rfl

theorem releaseHandoff_changes {handoffId : String} {clientMessageIds : List String} {now : Int}
    {result : TransportQueueStore × QueueSnapshot}
    (done : store.releaseHandoff sessionName handoffId clientMessageIds now = .ok result) :
    Changes allowed store result.1 := by
  obtain ⟨session, _, done⟩ := bind_eq_ok.mp done
  obtain ⟨handoff, _, done⟩ := bind_eq_ok.mp done
  dsimp only at done
  split at done
  · cases done
    exact Changes.refl.snapshotAfter _ _
  · split at done
    · cases done
      exact (Changes.refl.ensureMeta none).releaseMessages.bumpVersion.snapshotAfter _ _
    · cases done
      exact (Changes.refl.ensureMeta none).releaseMessages.snapshotAfter _ _

theorem restoreExpiredHandoffs_changes {now : Int} {includeUnexpired : Bool}
    {result : TransportQueueStore × QueueSnapshot}
    (done : store.restoreExpiredHandoffs sessionName now includeUnexpired = .ok result) :
    Changes allowed store result.1 := by
  obtain ⟨session, _, done⟩ := bind_eq_ok.mp done
  have restoredLive : ∀ row : QueueEntryRow,
      (isExpiredHandoff session now includeUnexpired row && !row.exhausted) = true →
      KeepsEntry (store.ensureMeta session none).1.Issued row (row.release now) := by
    intro row restorable
    simp only [isExpiredHandoff, Bool.and_eq_true, decide_eq_true_eq] at restorable
    refine ⟨rfl, rfl, rfl, rfl, rfl, fun _ => ?_, fun _ leased => (by cases leased),
      fun given => by cases given⟩
    rw [restorable.1.1.2]
    rfl
  dsimp only at done
  split at done
  all_goals
    cases done
    apply Changes.snapshotAfter
    try apply Changes.bumpVersion
    refine Changes.updateEntries (Changes.updateEntries (Changes.refl.ensureMeta none) ?_)
      restoredLive
    exact fun row _ => ⟨rfl, rfl, rfl, rfl, rfl, fun revived => (by cases revived),
      fun _ leased => (by cases leased), fun given => by cases given⟩

/-! ## Rows in place -/

theorem attachSupervisionReference_changes {clientMessageId : String}
    {reference : QueueSupervisionReference} {now : Int} {result : TransportQueueStore × Bool}
    (done : store.attachSupervisionReference sessionName clientMessageId reference now =
      .ok result) : Changes allowed store result.1 := by
  have done := message_ok (session_ok done)
  dsimp only at done
  split at done
  · cases done
    exact .refl
  · split at done
    · split at done
      · cases done
        exact .refl
      · cases done
    · cases done
      apply Changes.bumpVersion
      apply Changes.refl.updateEntries
      exact fun row _ => ⟨rfl, rfl, rfl, rfl, rfl, id, fun _ => .inl, id⟩

theorem Changes.stripSettled {start : TransportQueueStore} (rows : List QueueEntryRow)
    (settled : ∀ row, row ∈ store.queueEntries → row.status.isLive = true →
      ∀ target ∈ rows, target.key ≠ row.key) (changes : Changes allowed start store) :
    Changes allowed start (rows.foldl
      (fun store row => store.deleteMaterial row.sessionName row.clientMessageId) store) := by
  induction rows generalizing store with
  | nil => exact changes
  | cons target rest ih =>
    apply ih
    · intro row member live other listed
      exact settled row member live other (List.mem_cons_of_mem _ listed)
    · apply changes.change
      apply Change.strip
      intro row member live held _ sameKey selected
      have isTarget : target.key = row.key :=
        (isMessage_iff_materialKey.mp selected).symm.trans sameKey
      exact False.elim (settled row member live target List.mem_cons_self isTarget)

theorem expireStaleDelegationEntries_changes {now thresholdMs : Int} :
    Changes allowed store (store.expireStaleDelegationEntries now thresholdMs).1 := by
  refine Changes.foldl id (fun state session changes => Changes.bumpVersion changes) ?_
  apply Changes.stripSettled
  · intro row member live target listed sameKey
    simp only [List.mem_insertionSort, Table.mem_select] at listed
    obtain ⟨old, oldMember, rfl⟩ := mem_updateEntries.mp member
    split at live
    · cases live
    · next fresh =>
        split at sameKey
        · next stale => exact fresh stale
        · rw [Table.eq_of_key listed.1 oldMember sameKey] at listed
          exact fresh listed.2
  · apply Changes.refl.updateEntries
    exact fun row _ => ⟨rfl, rfl, rfl, rfl, rfl, fun revived => (by cases revived),
      fun _ leased => (by cases leased),
      fun given => by cases given⟩

/-- The material of the message does not parse. -/
def holdsCorruptMaterial (store : TransportQueueStore) (session clientMessageId : String) :
    Bool :=
  match (store.queuePrivateMaterial.lookup (session, clientMessageId)).bind fun row =>
      row.materialJson.nonEmpty? with
  | some (.malformed _) => true
  | _ => false

theorem Changes.rewritePrivateMaterialTextStrippingSecrets {start rewritten : TransportQueueStore}
    (changes : Changes allowed start store) {session clientMessageId text : String} {now : Int}
    {replacement : Option EditReplacement}
    (mayStrip : store.holdsCorruptMaterial session clientMessageId = true →
      allowed.strips (session, clientMessageId))
    (done : store.rewritePrivateMaterialTextStrippingSecrets session clientMessageId text now
      replacement = .ok rewritten) : Changes allowed start rewritten := by
  unfold TransportQueueStore.rewritePrivateMaterialTextStrippingSecrets at done
  unfold holdsCorruptMaterial at mayStrip
  split at done
  · cases done
    exact changes
  · next corrupt =>
      rw [corrupt] at mayStrip
      cases done
      apply changes.change
      apply Change.strip
      intro row _ _ held _ sameKey selected
      have isTarget : row.key = (session, clientMessageId) :=
        sameKey.symm.trans (isMessage_iff_materialKey.mp selected)
      exact isTarget ▸ mayStrip rfl
  · cases done
    exact changes.change (.rewrite _ _ _ fun _ => rfl)
  · cases done
    exact changes.change (.rewrite _ _ _ fun _ => rfl)
  · cases done

theorem edit_changes {clientMessageId text : String} {now : Int}
    {replacement : Option EditReplacement} {result : TransportQueueStore × QueueSnapshot}
    (mayStrip : store.holdsCorruptMaterial (trim sessionName) (trim clientMessageId) = true →
      allowed.strips (trim sessionName, trim clientMessageId))
    (done : store.edit sessionName clientMessageId text now replacement = .ok result) :
    Changes allowed store result.1 := by
  obtain ⟨session, named, done⟩ := bind_eq_ok.mp done
  obtain ⟨messageId, identified, done⟩ := bind_eq_ok.mp done
  obtain ⟨rewritten, rewrote, rfl⟩ := answer_ok done
  obtain ⟨rfl, _, _⟩ := normalizeSessionName_eq_ok named
  obtain ⟨rfl, _⟩ := requireNonEmpty_eq_ok identified
  refine Changes.snapshotAfter (Changes.bumpVersion ?_) _ _
  refine Changes.rewritePrivateMaterialTextStrippingSecrets ?_ ?_ rewrote
  · apply (Changes.refl.ensureMeta none).updateEntries
    exact fun row _ => ⟨rfl, rfl, rfl, rfl, rfl, id, fun _ => .inl, id⟩
  · unfold holdsCorruptMaterial at mayStrip ⊢
    simp only [TransportQueueStore.updateEntries,
      (ensureMeta_sameMessages store (trim sessionName) none).queuePrivateMaterial]
    exact mayStrip

/-! ## Material policy -/

theorem markAppendFallback_changes {clientMessageId : String}
    {reason : TransportAppendFallbackReason} {recipient : Option QueueRecipientIdentity}
    {result : TransportQueueStore}
    (done : store.markAppendFallback sessionName clientMessageId reason recipient = .ok result) :
    Changes allowed store result := by
  obtain ⟨session, _, done⟩ := bind_eq_ok.mp done
  obtain ⟨material, _, done⟩ := bind_eq_ok.mp done
  dsimp only at done
  split at done
  · cases done
    exact .refl
  · cases done
  · split at done
    · cases done
      exact .refl
    · obtain ⟨rewritten, _, rfl⟩ := answer_ok done
      refine Changes.incrementVersion (Changes.ensureMeta ?_ none)
      exact Changes.refl.change (.rewrite _ _ _ fun _ => rfl)

theorem scrubPeerAuditOrphans_changes {result : TransportQueueStore × List String}
    (done : store.scrubPeerAuditOrphans sessionName = .ok result) :
    Changes allowed store result.1 := by
  obtain ⟨session, _, done⟩ := bind_eq_ok.mp done
  dsimp only at done
  split at done
  · cases done
    exact .refl
  · cases done
    apply Changes.bumpVersion
    exact Changes.foldl id
      (fun state clientMessageId changes => changes.deleteMessage clientMessageId ungated)
      (Changes.refl.ensureMeta none)

/-! ## Settling messages -/

theorem Changes.settleStrippingMaterial {start : TransportQueueStore}
    (changes : Changes allowed start store) {session clientMessageId : String}
    {settles : QueueEntryRow → Bool} {update : QueueEntryRow → QueueEntryRow}
    {keeps : ∀ row, (update row).key = row.key}
    (kept : ∀ issued row, settles row = true → KeepsEntry issued row (update row))
    (mayStrip : ∀ row, row ∈ store.queueEntries → row.key = (session, clientMessageId) →
      (if settles row then update row else row).status.isLive = true →
      allowed.strips (session, clientMessageId)) :
    Changes allowed start
      (store.settleStrippingMaterial session clientMessageId settles update keeps) := by
  refine Changes.change (Changes.updateEntries (changes.ensureMeta none) ?_) (.strip _ ?_)
  · intro row selected
    exact kept _ row (Bool.and_eq_true_iff.mp selected).2
  · intro row member live held _ sameKey selected
    obtain ⟨old, oldMember, rfl⟩ := mem_updateEntries.mp member
    rw [(ensureMeta_sameMessages store session none).queueEntries] at oldMember
    have newKey := sameKey.symm.trans (isMessage_iff_materialKey.mp selected)
    have oldKey : old.key = (session, clientMessageId) := by
      split at newKey
      · exact (keeps old).symm.trans newKey
      · exact newKey
    rw [isMessage_iff_entryKey.mpr oldKey, Bool.true_and] at live
    rw [newKey]
    exact mayStrip old oldMember oldKey live

theorem markMissingPrivateMaterialFailed_changes {clientMessageId : String} {now : Int}
    {result : TransportQueueStore × QueueSnapshot}
    (done : store.markMissingPrivateMaterialFailed sessionName clientMessageId now = .ok result) :
    Changes allowed store result.1 := by
  have done := message_ok (session_ok done)
  cases done
  refine Changes.snapshotAfter (Changes.bumpVersion ?_) _ _
  apply Changes.refl.settleStrippingMaterial
  · exact fun _ row _ =>
      ⟨rfl, rfl, rfl, rfl, rfl, fun revived => (by cases revived), fun _ => .inl,
        fun given => by cases given⟩
  · exact fun row _ _ live => by cases live

theorem markDeleted_changes {clientMessageId : String} {now : Int}
    {result : TransportQueueStore × QueueSnapshot}
    (done : store.markDeleted sessionName clientMessageId now = .ok result) :
    Changes allowed store result.1 := by
  have done := message_ok (session_ok done)
  cases done
  refine Changes.snapshotAfter (Changes.bumpVersion ?_) _ _
  apply Changes.refl.settleStrippingMaterial
  · exact fun _ row _ =>
      ⟨rfl, rfl, rfl, rfl, rfl, fun revived => (by cases revived), fun _ => .inl,
        fun given => by cases given⟩
  · exact fun row _ _ live => by cases live

theorem dismissFailed_changes {clientMessageId : String} {now : Int}
    {result : TransportQueueStore × QueueSnapshot}
    (mayStrip : ∀ row, row ∈ store.queueEntries →
      row.key = (trim sessionName, trim clientMessageId) → row.status.isLive = true →
      allowed.strips (trim sessionName, trim clientMessageId))
    (done : store.dismissFailed sessionName clientMessageId now = .ok result) :
    Changes allowed store result.1 := by
  obtain ⟨session, named, done⟩ := bind_eq_ok.mp done
  obtain ⟨messageId, identified, rfl⟩ := answer_ok done
  obtain ⟨rfl, _, _⟩ := normalizeSessionName_eq_ok named
  obtain ⟨rfl, _⟩ := requireNonEmpty_eq_ok identified
  refine Changes.snapshotAfter (Changes.bumpVersion ?_) _ _
  apply Changes.refl.settleStrippingMaterial
  · exact fun _ row _ =>
      ⟨rfl, rfl, rfl, rfl, rfl, fun revived => (by cases revived), fun _ => .inl,
        fun given => by cases given⟩
  · intro row member isTarget live
    split at live
    · cases live
    · exact mayStrip row member isTarget live

theorem markFailed_changes {clientMessageId : String} {reason : QueueFailureReason} {now : Int}
    {result : TransportQueueStore × QueueSnapshot}
    (done : store.markFailed sessionName clientMessageId reason now = .ok result) :
    Changes allowed store result.1 := by
  have done := message_ok (session_ok done)
  cases done
  refine Changes.snapshotAfter (Changes.bumpVersion ?_) _ _
  apply (Changes.refl.ensureMeta none).updateEntries
  exact fun row _ =>
    ⟨rfl, rfl, rfl, rfl, rfl, fun revived => (by cases revived), fun _ => .inl,
        fun given => by cases given⟩

theorem cleanup_changes {result : TransportQueueStore × QueueSnapshot}
    (done : store.cleanup sessionName = .ok result) : Changes allowed store result.1 := by
  obtain ⟨session, _, rfl⟩ := answer_ok done
  refine Changes.snapshotAfter (Changes.bumpVersion ?_) _ _
  apply (Changes.refl.ensureMeta none).change
  apply Change.remove
  intro row member held _ sameKey _
  have keys := Prod.mk.inj sameKey
  have sameSession : inSession session held = inSession session row := by
    change decide (held.sessionName = session) = decide (row.sessionName = session)
    rw [keys.1]
  rw [sameSession]
  cases inside : inSession session row with
  | false => rfl
  | true =>
    have rowSession : row.sessionName = session := of_decide_eq_true inside
    have isRow : isMessage session held.clientMessageId =
        fun other : QueueEntryRow => decide (other.key = row.key) := by
      funext other
      rw [Bool.eq_iff_iff, isMessage_iff_entryKey, decide_eq_true_eq, ← rowSession, keys.2]
      rfl
    rw [isRow, Table.holds_key_deleteWhere member, inside, Bool.not_not]
    rfl

end TransportQueueStore

end ImCodes.Queue
