import ImCodes.Queue.Store.Invariants
import ImCodes.Queue.Store.Reconcile

/-!
# What a call leaves alone

The frame of the calls that take a recipient: which rows of other recipients are the
same after the call, and which are excused.
-/

set_option autoImplicit false

namespace ImCodes.Queue

open Library

/-- The rows a call may change although they are addressed to somebody else. -/
structure Excuses where
  entries : QueueEntryRow → Prop
  material : QueuePrivateMaterialRow → Prop
  deliveries : QueueDeliveryTombstoneRow → Prop
  cancellations : QueueCancellationTombstoneRow → Prop

def Excuses.none : Excuses :=
  ⟨fun _ => False, fun _ => False, fun _ => False, fun _ => False⟩

def Excuses.expired (now : Int) : Excuses :=
  { Excuses.none with
    cancellations := fun row => row.createdAt < now - queueCancellationTombstoneTtlMs }

def IsForeign (caller : Option QueueRecipientIdentity) (columns : RecipientColumns) : Prop :=
  ∃ instanceId, columns.sessionInstanceId = some instanceId ∧
    ∀ identity, caller = some identity → instanceId ≠ identity.sessionInstanceId

def IsOther (caller : Option QueueRecipientIdentity) (columns : RecipientColumns) : Prop :=
  columns ≠ callerColumns caller

theorem recipientPredicate_of_isOther {caller : Option QueueRecipientIdentity}
    {columns : RecipientColumns} (other : IsOther caller columns) :
    recipientPredicate caller columns = false := by
  rw [Bool.eq_false_iff, ne_eq, recipientPredicate_iff]
  exact other

theorem IsForeign.not_legacy {caller : Option QueueRecipientIdentity} {columns : RecipientColumns}
    (foreign : IsForeign caller columns) : columns ≠ .legacy := by
  obtain ⟨instanceId, named, _⟩ := foreign
  rintro rfl
  cases named

namespace TransportQueueStore

/-- Rows of the named owners are the same after as before, the excused ones apart. -/
structure Spares (owners : RecipientColumns → Prop) (excused : Excuses)
    (before after : TransportQueueStore) : Prop where
  entries : ∀ row, row ∈ before.queueEntries → owners row.recipient →
    row ∈ after.queueEntries ∨ excused.entries row
  material : ∀ row, row ∈ before.queuePrivateMaterial → owners row.recipient →
    row ∈ after.queuePrivateMaterial ∨ excused.material row
  deliveries : ∀ row, row ∈ before.queueDeliveryTombstones → owners row.recipient →
    row ∈ after.queueDeliveryTombstones ∨ excused.deliveries row
  cancellations : ∀ row, row ∈ before.queueCancellationTombstones → owners row.recipient →
    row ∈ after.queueCancellationTombstones ∨ excused.cancellations row

section Spares

variable {owners : RecipientColumns → Prop} {excused : Excuses}
  {first second third before store : TransportQueueStore}

theorem Spares.refl : Spares owners excused store store :=
  ⟨fun _ member _ => .inl member, fun _ member _ => .inl member, fun _ member _ => .inl member,
    fun _ member _ => .inl member⟩

theorem Spares.trans (left : Spares owners excused first second)
    (right : Spares owners excused second third) : Spares owners excused first third where
  entries row member owner := (left.entries row member owner).elim
    (fun kept => right.entries row kept owner) .inr
  material row member owner := (left.material row member owner).elim
    (fun kept => right.material row kept owner) .inr
  deliveries row member owner := (left.deliveries row member owner).elim
    (fun kept => right.deliveries row kept owner) .inr
  cancellations row member owner := (left.cancellations row member owner).elim
    (fun kept => right.cancellations row kept owner) .inr

theorem Spares.sameMessages (spares : Spares owners excused before first)
    (same : SameMessages first second) : Spares owners excused before second := by
  obtain ⟨entries, material, deliveries, cancellations⟩ := same
  exact ⟨entries ▸ spares.entries, material ▸ spares.material, deliveries ▸ spares.deliveries,
    cancellations ▸ spares.cancellations⟩

theorem Spares.updateEntries (spares : Spares owners excused before store)
    {p : QueueEntryRow → Bool} {update : QueueEntryRow → QueueEntryRow}
    {keeps : ∀ row, (update row).key = row.key}
    (spared : ∀ row, owners row.recipient → p row = true → excused.entries row) :
    Spares owners excused before (store.updateEntries p update keeps) := by
  refine spares.trans ⟨?_, fun _ member _ => .inl member, fun _ member _ => .inl member,
    fun _ member _ => .inl member⟩
  intro row member owner
  cases selected : p row with
  | true => exact .inr (spared row owner selected)
  | false =>
    refine .inl (mem_updateEntries.mpr ⟨row, member, ?_⟩)
    rw [if_neg (Bool.eq_false_iff.mp selected)]

theorem Spares.deleteMessage (spares : Spares owners excused before store)
    {session clientMessageId : String} {gate : RecipientColumns → Bool}
    (sparedEntries : ∀ row : QueueEntryRow, owners row.recipient →
      row.key = (session, clientMessageId) → gate row.recipient = true → excused.entries row)
    (sparedMaterial : ∀ row : QueuePrivateMaterialRow, owners row.recipient →
      row.key = (session, clientMessageId) → gate row.recipient = true → excused.material row) :
    Spares owners excused before (store.deleteMessage session clientMessageId gate) := by
  refine spares.trans ⟨?_, ?_, fun _ member _ => .inl member, fun _ member _ => .inl member⟩
  · intro row member owner
    cases selected : isMessage session clientMessageId row && gate row.recipient with
    | false => exact .inl (Table.mem_deleteWhere.mpr ⟨member, selected⟩)
    | true =>
      rw [Bool.and_eq_true, isMessage_iff_entryKey] at selected
      exact .inr (sparedEntries row owner selected.1 selected.2)
  · intro row member owner
    cases selected : isMessage session clientMessageId row && gate row.recipient with
    | false => exact .inl (Table.mem_deleteWhere.mpr ⟨member, selected⟩)
    | true =>
      rw [Bool.and_eq_true, isMessage_iff_materialKey] at selected
      exact .inr (sparedMaterial row owner selected.1 selected.2)

theorem Spares.deleteOwn {caller : Option QueueRecipientIdentity}
    (spares : Spares (IsOther caller) excused before store) (session clientMessageId : String) :
    Spares (IsOther caller) excused before
      (store.deleteMessage session clientMessageId (recipientPredicate caller)) := by
  apply spares.deleteMessage
  · intro row other _ own
    exact False.elim (other (recipientPredicate_iff.mp own))
  · intro row other _ own
    exact False.elim (other (recipientPredicate_iff.mp own))

theorem Spares.prune (spares : Spares owners excused before store) {now : Int}
    (expires : ∀ row : QueueCancellationTombstoneRow,
      row.createdAt < now - queueCancellationTombstoneTtlMs → excused.cancellations row) :
    Spares owners excused before (store.pruneCancellations now) := by
  refine spares.trans ⟨fun _ member _ => .inl member, fun _ member _ => .inl member,
    fun _ member _ => .inl member, ?_⟩
  intro row member _
  by_cases expired : row.createdAt < now - queueCancellationTombstoneTtlMs
  · exact .inr (expires row expired)
  · exact .inl (Table.mem_deleteWhere.mpr ⟨member, decide_eq_false expired⟩)

theorem Spares.restamp (spares : Spares owners excused before store)
    {p : QueueMessageRow → Bool} {recipient : RecipientColumns}
    (spared : ∀ row : QueueMessageRow, owners row.recipient → p row = false) :
    Spares owners excused before (store.restampMessageRows p recipient) := by
  have unselected : ∀ {Row : Type} [MessageRow Row] (row : Row), owners (MessageRow.recipient row) →
      ¬ p (asMessageRow row) = true :=
    fun row owner => Bool.eq_false_iff.mp (spared (asMessageRow row) owner)
  refine spares.trans ⟨?_, ?_, ?_, ?_⟩
  all_goals
    intro row member owner
    exact .inl (List.mem_map.mpr ⟨row, member, if_neg (unselected row owner)⟩)

theorem Spares.purge (spares : Spares owners excused before store) {p : QueueMessageRow → Bool}
    (spared : ∀ row : QueueMessageRow, owners row.recipient → p row = false) :
    Spares owners excused before (store.deleteMessageRows p) := by
  refine spares.trans ⟨?_, ?_, ?_, ?_⟩
  all_goals
    intro row member owner
    exact .inl (Table.mem_deleteWhere.mpr ⟨member, spared (asMessageRow row) owner⟩)

theorem Spares.foldl {State Item : Type} (storeOf : State → TransportQueueStore)
    {round : State → Item → State}
    (spared : ∀ state item, Spares owners excused before (storeOf state) →
      Spares owners excused before (storeOf (round state item)))
    {items : List Item} {state : State} (spares : Spares owners excused before (storeOf state)) :
    Spares owners excused before (storeOf (items.foldl round state)) := by
  induction items generalizing state with
  | nil => exact spares
  | cons item rest ih => exact ih (spared state item spares)

end Spares

end TransportQueueStore

/-! ## What each call leaves alone

One lemma for each call that takes a recipient. The rows of others that it may still
change are the excuses it is given.
-/

/-- Rows of the session that an enqueue may take from others. -/
def enqueueExcuses [Host] (store : TransportQueueStore) (clock : Int)
    (input : EnqueueTransportQueueEntryInput) (evicted : Option String) : Excuses where
  entries row := row.sessionName = trim input.sessionName ∧
    (store.replacesQueue clock input = true ∨
      (∃ schedule, cronScheduleId input.commandId = some schedule ∧
        supersededByCron (trim input.sessionName) schedule row = true) ∨
      trimmed evicted = some row.clientMessageId)
  material held := held.sessionName = trim input.sessionName ∧
    (store.replacesQueue clock input = true ∨ trimmed evicted = some held.clientMessageId)
  deliveries record := record.sessionName = trim input.sessionName ∧
    store.replacesQueue clock input = true
  cancellations row :=
    (row.sessionName = trim input.sessionName ∧ store.replacesQueue clock input = true) ∨
      row.createdAt < input.now.getD clock - queueCancellationTombstoneTtlMs

/-- Records of messages whose rows the call finalizes. -/
def finalizeExcuses (store : TransportQueueStore) (sessionName : String)
    (clientMessageIds : List String) (recipient : Option QueueRecipientIdentity) : Excuses :=
  { Excuses.none with
    deliveries := fun record => record.sessionName = trim sessionName ∧
      record.clientMessageId ∈ normalizeMessageIds clientMessageIds ∧
      store.queueEntries.holds (TransportQueueStore.isFinalizable (trim sessionName)
        record.clientMessageId (normalizeQueueRecipient recipient)) = true }

/-- Pending rows that the delivery records contradict, and their material. -/
def ghostExcuses (recorded : TransportQueueStore) (sessionName : String) : Excuses :=
  { Excuses.none with
    entries := fun row => recorded.isDeliveredGhost (trim sessionName) row = true
    material := fun held => ∃ row, row ∈ recorded.queueEntries ∧ row.key = held.key ∧
      recorded.isDeliveredGhost (trim sessionName) row = true }

theorem IsForeign.not_rotated {identity : QueueRecipientIdentity} {columns : RecipientColumns}
    (foreign : IsForeign (some identity) columns) : columns.rotated identity = false := by
  obtain ⟨instanceId, named, different⟩ := foreign
  have other : columns.sessionInstanceId ≠ some identity.sessionInstanceId := by
    rw [named]
    exact fun same => different identity rfl (Option.some.inj same)
  rw [RecipientColumns.rotated, decide_eq_false other]
  rfl

namespace TransportQueueStore

/-! ## Leases, finalization, removal -/

theorem Spares.leaseMessages {caller : Option QueueRecipientIdentity} {excused : Excuses}
    {before : TransportQueueStore} {store : TransportQueueStore}
    (spares : Spares (IsOther caller) excused before store)
    {session handoffId : String} {leaseMs now : Int} {clientMessageIds : List String} :
    Spares (IsOther caller) excused before
      (store.leaseMessages session handoffId leaseMs now caller clientMessageIds).1 := by
  refine Spares.foldl Prod.fst ?_ spares
  intro state clientMessageId spares
  apply spares.updateEntries
  intro row other selected
  simp only [isLeasable, Bool.and_eq_true] at selected
  exact False.elim (other (recipientPredicate_iff.mp selected.2))

theorem mem_leaseMessages {store : TransportQueueStore} {session handoffId : String}
    {leaseMs now : Int} {caller : Option QueueRecipientIdentity} {clientMessageIds : List String}
    {row : QueueEntryRow}
    (member : row ∈ (store.leaseMessages session handoffId leaseMs now caller
      clientMessageIds).1.queueEntries) (holds : row.handoffId = some handoffId) :
    row.recipient = callerColumns caller ∨ row ∈ store.queueEntries := by
  suffices general : ∀ state : TransportQueueStore × Nat,
      row ∈ (clientMessageIds.foldl (fun state clientMessageId =>
        (state.1.leaseMessage session handoffId leaseMs now caller clientMessageId,
          state.2 + state.1.queueEntries.changes (isLeasable session clientMessageId caller)))
        state).1.queueEntries →
      row.recipient = callerColumns caller ∨ row ∈ state.1.queueEntries from
    general (store, 0) member
  clear member
  induction clientMessageIds with
  | nil => exact fun _ member => .inr member
  | cons clientMessageId rest ih =>
    intro state member
    rcases ih _ member with own | earlier
    · exact .inl own
    · obtain ⟨old, oldMember, rfl⟩ := mem_updateEntries.mp earlier
      split at holds
      · next leasable =>
          simp only [isLeasable, Bool.and_eq_true, recipientPredicate_iff] at leasable
          rw [if_pos (by simp [isLeasable, leasable])]
          exact .inl leasable.2
      · next spared => exact .inr (by rw [if_neg spared]; exact oldMember)

/-- What holds while a batch is finalized. -/
structure Finalizing (before : TransportQueueStore) (session : String)
    (caller : Option QueueRecipientIdentity) (excused : Excuses)
    (state : TransportQueueStore × List String) : Prop where
  spares : Spares (IsOther caller) excused before state.1
  subset : ∀ row, row ∈ state.1.queueEntries → row ∈ before.queueEntries
  own : ∀ clientMessageId, clientMessageId ∈ state.2 →
    before.queueEntries.holds (isFinalizable session clientMessageId caller) = true

theorem Finalizing.round {before : TransportQueueStore} {session : String}
    {caller : Option QueueRecipientIdentity} {excused : Excuses}
    {state : TransportQueueStore × List String}
    (finalizing : Finalizing before session caller excused state)
    {queueEpoch deliveryFrameId clientMessageId : String} {now : Int}
    {conversationKey : Option String}
    (rerecords : ∀ record : QueueDeliveryTombstoneRow, record.sessionName = session →
      record.clientMessageId = clientMessageId →
      before.queueEntries.holds (isFinalizable session clientMessageId caller) = true →
      excused.deliveries record)
    (finalizable : ¬ state.1.queueEntries.changes (isFinalizable session clientMessageId caller) = 0) :
    Finalizing before session caller excused
      (state.1.finalizeMessage session queueEpoch deliveryFrameId now caller conversationKey
        clientMessageId, state.2 ++ [clientMessageId]) := by
  have own : before.queueEntries.holds (isFinalizable session clientMessageId caller) = true := by
    rw [Table.changes_eq_zero_iff] at finalizable
    push Not at finalizable
    obtain ⟨row, member, selected⟩ := finalizable
    exact Table.holds_iff.mpr
      ⟨row, finalizing.subset row member, Bool.not_eq_false _ ▸ selected⟩
  refine ⟨?_, ?_, ?_⟩
  · refine (finalizing.spares.deleteOwn session clientMessageId).trans
      ⟨fun _ member _ => .inl member, fun _ member _ => .inl member, ?_,
        fun _ member _ => .inl member⟩
    intro record member _
    by_cases rerecorded : record.key = (session, queueEpoch, clientMessageId)
    · simp only [QueueDeliveryTombstoneRow.key, Prod.mk.injEq] at rerecorded
      exact .inr (rerecords record rerecorded.1 rerecorded.2.2 own)
    · exact .inl (Table.mem_insertOrReplace.mpr (.inl ⟨member, rerecorded⟩))
  · intro row member
    exact finalizing.subset row (Table.mem_deleteWhere.mp member).1
  · intro other listed
    rcases List.mem_append.mp listed with earlier | last
    · exact finalizing.own other earlier
    · rw [List.mem_singleton.mp last]
      exact own

theorem Finalizing.sameMessages {before after : TransportQueueStore} {session : String}
    {caller : Option QueueRecipientIdentity} {excused : Excuses}
    {state : TransportQueueStore × List String}
    (finalizing : Finalizing before session caller excused state)
    (same : SameMessages state.1 after) :
    Finalizing before session caller excused (after, state.2) where
  spares := finalizing.spares.sameMessages same
  subset row member := finalizing.subset row (same.queueEntries ▸ member)
  own := finalizing.own

theorem Finalizing.finalizeMessages {before : TransportQueueStore} {session : String}
    {caller : Option QueueRecipientIdentity} {excused : Excuses}
    {queueEpoch deliveryFrameId : String} {now : Int} {conversationKey : Option String}
    (clientMessageIds : List String)
    (rerecords : ∀ record : QueueDeliveryTombstoneRow, record.sessionName = session →
      record.clientMessageId ∈ clientMessageIds →
      before.queueEntries.holds (isFinalizable session record.clientMessageId caller) = true →
      excused.deliveries record) :
    ∀ state, Finalizing before session caller excused state →
      Finalizing before session caller excused (clientMessageIds.foldl
        (fun state clientMessageId =>
          if state.1.queueEntries.changes (isFinalizable session clientMessageId caller) = 0 then
            state
          else (state.1.finalizeMessage session queueEpoch deliveryFrameId now caller
            conversationKey clientMessageId, state.2 ++ [clientMessageId])) state) := by
  induction clientMessageIds with
  | nil => exact fun _ finalizing => finalizing
  | cons clientMessageId rest ih =>
    intro state finalizing
    refine ih (fun record inside listed =>
      rerecords record inside (List.mem_cons_of_mem _ listed)) _ ?_
    dsimp only
    split
    · exact finalizing
    · next finalizable =>
        refine finalizing.round ?_ finalizable
        rintro record inside rfl own
        exact rerecords record inside List.mem_cons_self own

theorem Spares.insertMessage {owners : RecipientColumns → Prop} {excused : Excuses}
    {before store inserted : TransportQueueStore} (spares : Spares owners excused before store)
    (paired : Paired store) {input : EnqueueTransportQueueEntryInput}
    {session clientMessageId : String} {caller : Option QueueRecipientIdentity} {now : Int}
    {ordinal : Nat}
    (done : store.insertMessage input session clientMessageId caller now ordinal = .ok inserted) :
    Spares owners excused before inserted := by
  unfold TransportQueueStore.insertMessage at done
  split at done
  · cases done
  · next entries accepted =>
      cases done
      refine spares.trans ⟨?_, ?_, fun _ member _ => .inl member, fun _ member _ => .inl member⟩
      · exact fun row member _ => .inl ((Table.mem_insert accepted).mpr (.inl member))
      · intro held member _
        left
        unfold newMaterialRow
        cases input.privateMaterialJson with
        | none => exact member
        | some materialJson =>
          refine Table.mem_insertOrReplace.mpr (.inl ⟨member, fun sameKey => ?_⟩)
          obtain ⟨row, rowMember, rowKey, _⟩ := paired held member
          exact (Table.insert_eq_some accepted).2 row rowMember (rowKey.trans sameKey)

section Host

variable [Host] {store : TransportQueueStore} {sessionName : String}
  {recipient : Option QueueRecipientIdentity}

theorem markHandoffInFlight_spares {clientMessageIds : List String} {leaseMs now : Int}
    {result : TransportQueueStore × List HandoffTransportQueueEntry}
    (done : store.markHandoffInFlight sessionName clientMessageIds leaseMs now recipient =
      .ok result) :
    Spares (IsOther (normalizeQueueRecipient recipient)) (.expired now) store result.1 := by
  obtain ⟨session, _, done⟩ := bind_eq_ok.mp done
  dsimp only at done
  split at done
  · cases done
    exact .refl
  · cases done
    dsimp only
    have opened : Spares (IsOther (normalizeQueueRecipient recipient)) (.expired now) store
        ((store.freshUUID.1.ensureMeta session
          (normalizeQueueRecipient recipient)).1.pruneCancellations now) := by
      have named : SameMessages store store.freshUUID.1 := ⟨rfl, rfl, rfl, rfl⟩
      refine Spares.prune ?_ fun _ expired => expired
      exact Spares.refl.sameMessages (named.trans (ensureMeta_sameMessages _ session _))
    split
    · exact opened.leaseMessages.sameMessages (bumpVersion_sameMessages _ _)
    · exact opened.leaseMessages

theorem finalizeSentBatch_finalizing {clientMessageIds : List String} {deliveryFrameId : String}
    {now : Int} {conversationKey : Option String}
    {result : TransportQueueStore × FinalizeTransportQueueSentResult}
    (done : store.finalizeSentBatch sessionName clientMessageIds deliveryFrameId now recipient
      conversationKey = .ok result) :
    Finalizing store (trim sessionName) (normalizeQueueRecipient recipient)
      (finalizeExcuses store sessionName clientMessageIds recipient)
      (result.1, result.2.deliveryFacts.map (·.clientMessageId)) := by
  have done := session_ok done
  dsimp only at done
  split at done
  · cases done
    have unchanged : Finalizing store (trim sessionName) (normalizeQueueRecipient recipient)
        (finalizeExcuses store sessionName clientMessageIds recipient) (store, []) :=
      ⟨.refl, fun _ member => member, by simp⟩
    exact unchanged.sameMessages (snapshotAfter_sameMessages store _ "finalize_sent_noop" none)
  · cases done
    have opened := ensureMeta_sameMessages store (trim sessionName) none
    rw [List.map_map, Function.comp_def, List.map_id']
    dsimp only
    refine @Finalizing.sameMessages _ _ _ _ _
      ((store.ensureMeta (trim sessionName) none).1.finalizeMessages _ _ _ _ _ _ _) ?_
      ((bumpVersion_sameMessages _ _).trans (snapshotAfter_sameMessages _ _ _ _))
    apply Finalizing.finalizeMessages
    · exact fun record inside listed own => ⟨inside, listed, own⟩
    · exact ⟨Spares.refl.sameMessages opened, fun row member => opened.queueEntries ▸ member,
        by simp⟩

theorem drop_spares {clientMessageId : String} {dropReason : QueueDropReason}
    {result : TransportQueueStore × QueueSnapshot}
    (done : store.drop sessionName clientMessageId dropReason recipient = .ok result) :
    Spares (IsOther (normalizeQueueRecipient recipient)) .none store result.1 := by
  obtain ⟨session, _, done⟩ := bind_eq_ok.mp done
  obtain ⟨messageId, _, rfl⟩ := answer_ok done
  refine Spares.sameMessages ?_ (bumpVersion_sameMessages _ _)
  exact (Spares.refl.sameMessages (ensureMeta_sameMessages _ _ _)).deleteOwn session messageId

theorem markAppendFallback_spares {clientMessageId : String}
    {reason : TransportAppendFallbackReason} {result : TransportQueueStore}
    (done : store.markAppendFallback sessionName clientMessageId reason recipient = .ok result) :
    Spares (IsOther (normalizeQueueRecipient recipient)) .none store result := by
  obtain ⟨session, _, done⟩ := bind_eq_ok.mp done
  obtain ⟨material, _, done⟩ := bind_eq_ok.mp done
  split at done
  · cases done
    exact .refl
  · cases done
  · split at done
    · cases done
      exact .refl
    · obtain ⟨rewritten, _, rfl⟩ := answer_ok done
      refine Spares.sameMessages (Spares.sameMessages ?_ (ensureMeta_sameMessages _ session none))
        ⟨rfl, rfl, rfl, rfl⟩
      refine ⟨fun _ member _ => .inl member, ?_, fun _ member _ => .inl member,
        fun _ member _ => .inl member⟩
      intro held member other
      refine .inl (List.mem_map.mpr ⟨held, member, if_neg ?_⟩)
      dsimp only
      rw [recipientPredicate_of_isOther other, Bool.and_false]
      exact Bool.false_ne_true

theorem cancelQueuedMessage_spares {clientMessageId : String} {now : Int}
    {result : TransportQueueStore × CancelQueuedMessageStatus × QueueSnapshot}
    (done : store.cancelQueuedMessage sessionName clientMessageId recipient now = .ok result) :
    Spares (IsOther (normalizeQueueRecipient recipient)) (.expired now) store result.1 := by
  obtain ⟨session, named, done⟩ := bind_eq_ok.mp done
  obtain ⟨messageId, identified, done⟩ := bind_eq_ok.mp done
  have pruned : Spares (IsOther (normalizeQueueRecipient recipient)) (.expired now) store
      (store.pruneCancellations now) := Spares.refl.prune fun _ expired => expired
  dsimp only at done
  split at done
  · have opened := pruned.sameMessages (ensureMeta_sameMessages _ session
      (normalizeQueueRecipient recipient))
    split at done
    · cases done
      dsimp only
      exact opened.sameMessages (snapshotAfter_sameMessages _ _ _ _)
    · next ownMessage =>
        cases done
        refine Spares.sameMessages ?_ (bumpVersion_sameMessages _ _)
        refine (opened.deleteOwn session messageId).trans ⟨fun _ member _ => .inl member,
          fun _ member _ => .inl member, fun _ member _ => .inl member, ?_⟩
        intro row member other
        refine .inl (Table.mem_upsert.mpr (.inl ⟨member, ?_⟩))
        intro isTarget
        simp only [holdsForeignMessage, Bool.not_eq_true, Bool.or_eq_false_iff] at ownMessage
        have own := Table.holds_eq_false_iff.mp ownMessage.2 row member
        rw [isMessage_iff_cancellationKey.mpr isTarget, recipientPredicate_of_isOther other] at own
        cases own
  · cases done
    dsimp only
    exact pruned.sameMessages (snapshotAfter_sameMessages _ _ _ _)

/-! ## Delivery records -/

theorem recordDeliveryTombstone_spares {owners : RecipientColumns → Prop} {excused : Excuses}
    {clientMessageId deliveryFrameId : String} {now : Int} {conversationKey : Option String}
    {result : TransportQueueStore × Bool}
    (done : store.recordDeliveryTombstone sessionName clientMessageId deliveryFrameId now recipient
      conversationKey = .ok result) : Spares owners excused store result.1 := by
  obtain ⟨session, _, done⟩ := bind_eq_ok.mp done
  dsimp only at done
  split at done
  · cases done
    exact .refl
  · cases done
    refine (Spares.refl.sameMessages (ensureMeta_sameMessages _ session recipient)).trans
      ⟨fun _ member _ => .inl member, fun _ member _ => .inl member, ?_,
        fun _ member _ => .inl member⟩
    exact fun record member _ => .inl (Table.mem_insertOrIgnore_of_mem member)

theorem reconcileDeliveredQueueRows_spares {owners : RecipientColumns → Prop}
    {result : TransportQueueStore × List String}
    (done : store.reconcileDeliveredQueueRows sessionName = .ok result) :
    Spares owners (ghostExcuses store sessionName) store result.1 := by
  obtain ⟨sameDeliveries, sameCancellations⟩ := reconcileDeliveredQueueRows_tombstones done
  refine ⟨?_, ?_, ?_, ?_⟩
  · intro row member _
    cases ghost : store.isDeliveredGhost (trim sessionName) row with
    | true => exact .inr ghost
    | false => exact .inl ((mem_reconcileDeliveredQueueRows done).mpr ⟨member, ghost⟩)
  · exact fun held member _ => material_of_reconcileDeliveredQueueRows done member
  · exact fun record member _ => .inl (sameDeliveries ▸ member)
  · exact fun row member _ => .inl (sameCancellations ▸ member)

theorem recordDirectDelivery_spares {owners : RecipientColumns → Prop}
    {clientMessageId deliveryFrameId : String} {now : Int} {conversationKey : Option String}
    {result : TransportQueueStore × Bool}
    (done : store.recordDirectDelivery sessionName clientMessageId deliveryFrameId now recipient
      conversationKey = .ok result) :
    ∃ recorded, store.recordDeliveryTombstone sessionName clientMessageId deliveryFrameId now
        recipient conversationKey = .ok recorded ∧
      Spares owners (ghostExcuses recorded.1 sessionName) store result.1 := by
  obtain ⟨recorded, record, done⟩ := bind_eq_ok.mp done
  obtain ⟨reconciled, reconcile, rfl⟩ := answer_ok done
  exact ⟨recorded, record, (recordDeliveryTombstone_spares record).trans
    (reconcileDeliveredQueueRows_spares reconcile)⟩

/-! ## Enqueueing -/

theorem Spares.replaceForeignQueue {owners : RecipientColumns → Prop} {excused : Excuses}
    {before : TransportQueueStore} (spares : Spares owners excused before store) {session : String}
    {caller : Option QueueRecipientIdentity}
    (replaces : store.isForeignQueue session caller = true →
      (∀ row : QueueEntryRow, row.sessionName = session → excused.entries row) ∧
      (∀ row : QueuePrivateMaterialRow, row.sessionName = session → excused.material row) ∧
      (∀ row : QueueDeliveryTombstoneRow, row.sessionName = session → excused.deliveries row) ∧
      ∀ row : QueueCancellationTombstoneRow, row.sessionName = session →
        excused.cancellations row) :
    Spares owners excused before (store.replaceForeignQueue session caller) := by
  unfold TransportQueueStore.replaceForeignQueue
  split
  · next isForeign =>
      obtain ⟨entries, material, deliveries, cancellations⟩ := replaces isForeign
      refine Spares.sameMessages (spares.trans ⟨?_, ?_, ?_, ?_⟩) (ensureMeta_sameMessages _ _ _)
      · intro row member _
        by_cases inside : row.sessionName = session
        · exact .inr (entries row inside)
        · exact .inl (Table.mem_deleteWhere.mpr ⟨member, decide_eq_false inside⟩)
      · intro row member _
        by_cases inside : row.sessionName = session
        · exact .inr (material row inside)
        · exact .inl (Table.mem_deleteWhere.mpr ⟨member, decide_eq_false inside⟩)
      · intro row member _
        by_cases inside : row.sessionName = session
        · exact .inr (deliveries row inside)
        · exact .inl (Table.mem_deleteWhere.mpr ⟨member, decide_eq_false inside⟩)
      · intro row member _
        by_cases inside : row.sessionName = session
        · exact .inr (cancellations row inside)
        · exact .inl (Table.mem_deleteWhere.mpr ⟨member, decide_eq_false inside⟩)
  · exact spares

theorem openForEnqueue_spares {owners : RecipientColumns → Prop} {excused : Excuses}
    {input : EnqueueTransportQueueEntryInput} {session : String} {now : Int}
    (expires : ∀ row : QueueCancellationTombstoneRow,
      row.createdAt < now - queueCancellationTombstoneTtlMs → excused.cancellations row) :
    Spares owners excused store (store.openForEnqueue session input now) := by
  refine Spares.prune ?_ expires
  exact Spares.refl.sameMessages ((identifyMessage_tables input.clientMessageId).2.trans
    (ensureMeta_sameMessages _ session _))

theorem Paired.makeRoom (paired : Paired store) {input : EnqueueTransportQueueEntryInput}
    {session : String} {now : Int} {evicted : Option String} :
    Paired ((((store.openForEnqueue session input now).replaceForeignQueue session
      (normalizeQueueRecipient input.recipient)).supersedeCron session input.commandId
        now).evictMessage session evicted) := by
  let allowed : Footprint :=
    { Footprint.common with prunes := fun _ => True, wipes := fun _ => True }
  have changes : Changes allowed store (store.openForEnqueue session input now) :=
    Changes.refl.openForEnqueue trivial
  exact (((changes.replaceForeignQueue fun _ => trivial).supersedeCron _ _).evictMessage
    _).preserves (fun _ _ => Change.paired) paired

theorem enqueueWithCapacityEviction_spares {owners : RecipientColumns → Prop}
    (paired : Paired store) {clock : Int} {input : EnqueueTransportQueueEntryInput}
    {evicted : Option String} {result : TransportQueueStore × EnqueueTransportQueueEntryResult}
    (done : store.enqueueWithCapacityEviction clock input evicted = .ok result) :
    Spares owners (enqueueExcuses store clock input evicted) store result.1 := by
  obtain ⟨session, named, done⟩ := bind_eq_ok.mp done
  obtain ⟨rfl, _, _⟩ := normalizeSessionName_eq_ok named
  have opened : Spares owners (enqueueExcuses store clock input evicted) store
      (store.openForEnqueue (trim input.sessionName) input (input.now.getD clock)) :=
    openForEnqueue_spares fun _ expired => .inr expired
  dsimp only at done
  split at done
  · cases done
    dsimp only
    exact opened.sameMessages (snapshotAfter_sameMessages _ _ _ _)
  · next admitted =>
      obtain ⟨inserted, insertion, rfl⟩ := answer_ok done
      dsimp only
      refine Spares.sameMessages ?_
        ((bumpVersion_sameMessages _ _).trans (snapshotAfter_sameMessages _ _ _ _))
      refine Spares.insertMessage ?_ paired.makeRoom insertion
      have owned : Spares owners (enqueueExcuses store clock input evicted) store
          ((store.openForEnqueue (trim input.sessionName) input
            (input.now.getD clock)).replaceForeignQueue (trim input.sessionName)
              (normalizeQueueRecipient input.recipient)) := by
        apply opened.replaceForeignQueue
        intro isForeign
        have replaced := replacesQueue_of_admitted admitted isForeign
        exact ⟨fun _ inside => ⟨inside, .inl replaced⟩, fun _ inside => ⟨inside, .inl replaced⟩,
          fun _ inside => ⟨inside, replaced⟩, fun _ inside => .inl ⟨inside, replaced⟩⟩
      have superseded : Spares owners (enqueueExcuses store clock input evicted) store
          (((store.openForEnqueue (trim input.sessionName) input
            (input.now.getD clock)).replaceForeignQueue (trim input.sessionName)
              (normalizeQueueRecipient input.recipient)).supersedeCron (trim input.sessionName)
                input.commandId (input.now.getD clock)) := by
        unfold supersedeCron
        split
        · next schedule fired =>
            apply owned.updateEntries
            intro row _ selected
            have inside := selected
            simp only [supersededByCron, inSession, Bool.and_eq_true, decide_eq_true_eq] at inside
            exact ⟨inside.1.1, .inr (.inl ⟨schedule, fired, selected⟩)⟩
        · exact owned
      unfold evictMessage
      split
      · next clientMessageId named =>
          apply superseded.deleteMessage
          · intro row _ isTarget _
            simp only [QueueEntryRow.key, Prod.mk.injEq] at isTarget
            exact ⟨isTarget.1, .inr (.inr (isTarget.2 ▸ named))⟩
          · intro held _ isTarget _
            simp only [QueuePrivateMaterialRow.key, Prod.mk.injEq] at isTarget
            exact ⟨isTarget.1, .inr (isTarget.2 ▸ named)⟩
      · exact superseded

end Host

/-! ## Changing hands -/

section HandOver

variable {store : TransportQueueStore} {sessionName : String} {identity : QueueRecipientIdentity}

theorem Spares.adoptMessage {excused : Excuses} {before : TransportQueueStore}
    (spares : Spares (IsForeign (some identity)) excused before store)
    {progress : AdoptionProgress} {session : String} {sessionCreatedAt : Int}
    {message : String × Option Int} :
    Spares (IsForeign (some identity)) excused before
      (store.adoptMessage progress session identity sessionCreatedAt message).1 := by
  have notLegacy : ∀ row : QueueMessageRow, IsForeign (some identity) row.recipient →
      isLegacyMessageRow session message.1 row = false := by
    intro row foreign
    rw [isLegacyMessageRow, decide_eq_false foreign.not_legacy, Bool.and_false]
  have notRotated : ∀ row : QueueMessageRow, IsForeign (some identity) row.recipient →
      isRotatedMessageRow session message.1 identity row = false := by
    intro row foreign
    rw [isRotatedMessageRow, foreign.not_rotated, Bool.and_false]
  unfold TransportQueueStore.adoptMessage
  dsimp only
  split
  · exact (spares.purge notLegacy).restamp notRotated
  · exact (spares.restamp notLegacy).restamp notRotated

theorem finishAdoption_sameMessages {session : String} {held : QueueMetaRow}
    {progress : AdoptionProgress} :
    SameMessages store (store.finishAdoption session identity held progress).1 := by
  unfold finishAdoption
  dsimp only
  split <;> split
  · exact ⟨rfl, rfl, rfl, rfl⟩
  · exact ⟨rfl, rfl, rfl, rfl⟩
  · split
    · exact ⟨rfl, rfl, rfl, rfl⟩
    · exact ⟨rfl, rfl, rfl, rfl⟩
  · split
    · exact ⟨rfl, rfl, rfl, rfl⟩
    · exact ⟨rfl, rfl, rfl, rfl⟩

theorem adoptLegacyRecipientIdentity_spares {sessionCreatedAt : JsNumber} {limit : Option Int}
    {excused : Excuses} {result : TransportQueueStore × AdoptLegacyRecipientResult}
    (done : store.adoptLegacyRecipientIdentity sessionName identity sessionCreatedAt limit =
      .ok result) :
    Spares (IsForeign (normalizeQueueRecipient (some identity))) excused store result.1 := by
  obtain ⟨session, _, done⟩ := bind_eq_ok.mp done
  split at done
  · next recipient createdAt usable _ =>
      split at done
      · cases done
        exact .refl
      · split at done
        · cases done
          exact .refl
        · split at done
          · cases done
            exact .refl
          · cases done
            rw [usable]
            refine Spares.sameMessages ?_ finishAdoption_sameMessages
            exact Spares.foldl Prod.fst (fun _ _ spares => spares.adoptMessage) .refl
  · cases done
    exact .refl

theorem bindFreshLaunchRecipient_spares {expectedClientMessageIds : List String}
    {excused : Excuses} {result : TransportQueueStore × Bool}
    (done : store.bindFreshLaunchRecipient sessionName identity expectedClientMessageIds =
      .ok result) :
    Spares (IsForeign (normalizeQueueRecipient (some identity))) excused store result.1 := by
  obtain ⟨session, _, done⟩ := bind_eq_ok.mp done
  dsimp only at done
  split at done
  · split at done
    · cases done
      exact .refl
    · cases done
      have notLegacy : ∀ row : QueueMessageRow,
          IsForeign (normalizeQueueRecipient (some identity)) row.recipient →
          ¬ isLegacySessionRow session row = true := by
        intro row foreign
        rw [isLegacySessionRow, decide_eq_false foreign.not_legacy, Bool.and_false]
        exact Bool.false_ne_true
      refine ⟨?_, ?_, fun _ member _ => .inl member, fun _ member _ => .inl member⟩
      · exact fun row member foreign => .inl (List.mem_map.mpr
          ⟨row, member, if_neg (notLegacy (asMessageRow row) foreign)⟩)
      · exact fun row member foreign => .inl (List.mem_map.mpr
          ⟨row, member, if_neg (notLegacy (asMessageRow row) foreign)⟩)
  · cases done
    exact .refl

theorem rebindRows_spares {session : String} {former next : QueueRecipientIdentity}
    {excused : Excuses} (sameInstance : former.sessionInstanceId = next.sessionInstanceId) :
    Spares (IsForeign (some next)) excused store (store.rebindRows session former next) := by
  refine @Spares.sameMessages _ _ (store.restampMessageRows
    (fun row => row.sessionName = session && row.recipient = former.columns) next.columns) _ _
    (Spares.refl.restamp ?_) ⟨rfl, rfl, rfl, rfl⟩
  intro row foreign
  obtain ⟨instanceId, named, different⟩ := foreign
  rw [Bool.and_eq_false_iff]
  right
  rw [decide_eq_false_iff_not]
  intro own
  rw [own] at named
  exact different next rfl (Option.some.inj named ▸ sameInstance)

theorem rebindRecipientRuntimeEpoch_spares {previous : QueueRecipientIdentity} {excused : Excuses}
    {result : TransportQueueStore × Bool}
    (done : store.rebindRecipientRuntimeEpoch sessionName previous identity = .ok result) :
    Spares (IsForeign (normalizeQueueRecipient (some identity))) excused store result.1 := by
  obtain ⟨session, _, done⟩ := bind_eq_ok.mp done
  split at done
  · next former next _ usable =>
      split at done
      · cases done
        exact .refl
      · next sameInstance =>
          split at done
          · obtain ⟨belongs, _, rfl⟩ := answer_ok done
            exact .refl
          · split at done
            · cases done
              exact .refl
            · split at done
              · cases done
                exact .refl
              · split at done
                · cases done
                  exact .refl
                · cases done
                  rw [usable]
                  exact rebindRows_spares (not_not.mp sameInstance)
  · cases done
    exact .refl

end HandOver

end TransportQueueStore

end ImCodes.Queue
