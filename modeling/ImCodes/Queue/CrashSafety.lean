import ImCodes.Queue.EpochAgreement
import ImCodes.Queue.Store.Material
import ImCodes.Queue.Store.Reconcile

/-!
# Accepted messages after a crash

The daemon records the acceptance of a message before it finalizes the row; after a
crash between the two, reconciliation finds the record and removes the row. A record
of an earlier delivery in the same epoch is kept in place of the new one, and then
the row is taken for one that was queued again.
-/

set_option autoImplicit false

namespace ImCodes.Queue

open Library

/-- The call neither writes nor deletes delivery records on its own account. -/
def Operation.SparesRecords : Operation → Prop
  | .finalizeSent .. | .finalizeSentBatch .. | .recordDeliveryTombstone ..
  | .recordDirectDelivery .. | .clearDeliveryTombstone ..
  | .adoptLegacyRecipientIdentity .. => False
  | _ => True

namespace TransportQueueStore

def HasOlderRecord (store : TransportQueueStore) (row : QueueEntryRow) : Prop :=
  ∃ record, record ∈ store.queueDeliveryTombstones ∧ record.sessionName = row.sessionName ∧
    record.clientMessageId = row.clientMessageId ∧
    store.epoch? row.sessionName = some record.queueEpoch ∧ record.createdAt < row.createdAt

def RecordsKept (session : String) (before after : TransportQueueStore) : Prop :=
  ∀ record, record ∈ before.queueDeliveryTombstones → record.sessionName = session →
    ∃ kept, kept ∈ after.queueDeliveryTombstones ∧ kept.key = record.key ∧
      kept.createdAt = record.createdAt

theorem RecordsKept.of_subset {session : String} {before after : TransportQueueStore}
    (subset : ∀ record, record ∈ before.queueDeliveryTombstones → record.sessionName = session →
      record ∈ after.queueDeliveryTombstones) : RecordsKept session before after :=
  fun record member ofSession => ⟨record, subset record member ofSession, rfl, rfl⟩

theorem RecordsKept.refl (session : String) (store : TransportQueueStore) :
    RecordsKept session store store :=
  .of_subset fun _ member _ => member

theorem RecordsKept.trans {session : String} {first second third : TransportQueueStore}
    (left : RecordsKept session first second) (right : RecordsKept session second third) :
    RecordsKept session first third := by
  intro record member ofSession
  obtain ⟨middle, middleMember, middleKey, middleCreated⟩ := left record member ofSession
  have middleSession : middle.sessionName = session := (congrArg Prod.fst middleKey).trans ofSession
  obtain ⟨kept, keptMember, keptKey, keptCreated⟩ := right middle middleMember middleSession
  exact ⟨kept, keptMember, keptKey.trans middleKey, keptCreated.trans middleCreated⟩

/-! ## Records -/

theorem isDeliveredGhost_iff {store : TransportQueueStore} {row : QueueEntryRow}
    {held : QueueMetaRow} (found : store.queueMeta.lookup row.sessionName = some held)
    (pending : row.pending = true) {record : QueueDeliveryTombstoneRow}
    (member : record ∈ store.queueDeliveryTombstones)
    (isRecord : record.key = (row.sessionName, held.queueEpoch, row.clientMessageId)) :
    store.isDeliveredGhost row.sessionName row = true ↔ row.createdAt ≤ record.createdAt := by
  have keys := isRecord
  simp only [QueueDeliveryTombstoneRow.key, Prod.mk.injEq] at keys
  obtain ⟨sameSession, sameEpoch, sameMessage⟩ := keys
  simp only [isDeliveredGhost, inSession, found, pending, Option.any_some, Bool.and_eq_true,
    Table.holds_iff, isMessage, decide_eq_true_eq]
  constructor
  · rintro ⟨_, other, otherMember, ⟨⟨otherSession, otherMessage⟩, otherEpoch⟩, notOlder⟩
    have same : other = record := by
      apply Table.eq_of_key otherMember member
      rw [isRecord]
      exact Prod.ext otherSession (Prod.ext otherEpoch otherMessage)
    exact same ▸ notOlder
  · intro notOlder
    exact ⟨⟨rfl, trivial⟩, record, member, ⟨⟨sameSession, sameMessage⟩, sameEpoch⟩, notOlder⟩

/-! ## Between the acceptance and the reconciliation -/

section Host

variable [Host]

theorem Change.recordsKept {allowed : Footprint} {session : String}
    {before after : TransportQueueStore} (change : Change allowed before after)
    (noWipe : ¬ allowed.wipes session) (noRenew : ¬ allowed.renews session)
    (noDelivery : ¬ allowed.delivers) (noPurge : ¬ allowed.purges) :
    RecordsKept session before after := by
  have outside : ∀ {other : String}, other ≠ session → ∀ record : QueueDeliveryTombstoneRow,
      record.sessionName = session → inSession other record = false := by
    intro other different record ofSession
    exact decide_eq_false fun same => different (same.symm.trans ofSession)
  cases change with
  | renew other permitted =>
    have different : other ≠ session := fun same => noRenew (same ▸ permitted)
    exact .of_subset fun record member ofSession =>
      Table.mem_deleteWhere.mpr ⟨member, outside different record ofSession⟩
  | wipe other permitted =>
    have different : other ≠ session := fun same => noWipe (same ▸ permitted)
    exact .of_subset fun record member ofSession =>
      Table.mem_deleteWhere.mpr ⟨member, outside different record ofSession⟩
  | deliver records permitted => exact False.elim (noDelivery permitted)
  | purge p timeless legacy permitted => exact False.elim (noPurge permitted)
  | restamp p recipient timeless own =>
    intro record member ofSession
    refine ⟨_, List.mem_map.mpr ⟨record, member, rfl⟩, ?_⟩
    split
    · exact ⟨rfl, rfl⟩
    · exact ⟨rfl, rfl⟩
  | issue | mint | touchMeta | insert | update | remove | strip | rewrite | prune | cancel =>
    exact .refl session before

theorem Changes.recordsKept {allowed : Footprint} {session : String}
    {before after : TransportQueueStore} (changes : Changes allowed before after)
    (noWipe : ¬ allowed.wipes session) (noRenew : ¬ allowed.renews session)
    (noDelivery : ¬ allowed.delivers) (noPurge : ¬ allowed.purges) :
    RecordsKept session before after := by
  induction changes with
  | refl => exact .refl session before
  | tail _ change ih => exact ih.trans (change.recordsKept noWipe noRenew noDelivery noPurge)

theorem next_recordsKept {store : TransportQueueStore} {session : String} {operation : Operation}
    (spares : operation.SparesRecords) (same : ¬ operation.StartsEpoch store session) :
    RecordsKept session store (store.next operation) := by
  have noDelivery : ¬ (operation.footprint store).delivers := by
    cases operation <;> first | exact spares.elim | exact id
  have noPurge : ¬ (operation.footprint store).purges := by
    cases operation <;> first | exact spares.elim | exact id
  exact (next_changes store operation).recordsKept
    (fun wipes => same (startsEpoch_of_footprint (.inl wipes)))
    (fun renews => same (startsEpoch_of_footprint (.inr renews))) noDelivery noPurge

def QuietAfterCrash (session : String) (store : TransportQueueStore) (operation : Operation) :
    Prop :=
  operation.SparesRecords ∧ ¬ operation.StartsEpoch store session

theorem run_recordsKept {store : TransportQueueStore} {session : String}
    {operations : List Operation} (quiet : Meets next (QuietAfterCrash session) store operations) :
    RecordsKept session store (run next store operations) ∧
      Carries session store (run next store operations) := by
  induction operations generalizing store with
  | nil => exact ⟨.refl session store, .refl session store⟩
  | cons operation rest ih =>
    obtain ⟨⟨spares, same⟩, quietRest⟩ := quiet
    obtain ⟨kept, carries⟩ := ih quietRest
    exact ⟨(next_recordsKept spares same).trans kept, (next_carries same).trans carries⟩

theorem recordDeliveryTombstone_records {store : TransportQueueStore} {row : QueueEntryRow}
    {held : QueueMetaRow} (found : store.queueMeta.lookup row.sessionName = some held)
    {sessionName clientMessageId deliveryFrameId : String} {now : Int}
    {recipient : Option QueueRecipientIdentity} {conversationKey : Option String}
    (named : trim sessionName = row.sessionName)
    (identified : trim clientMessageId = row.clientMessageId) (late : row.createdAt ≤ now)
    {recorded : TransportQueueStore}
    (done : store.recordDeliveryTombstone sessionName clientMessageId deliveryFrameId now recipient
      conversationKey = .ok (recorded, true)) :
    ∃ record, record ∈ recorded.queueDeliveryTombstones ∧
      record.key = (row.sessionName, held.queueEpoch, row.clientMessageId) ∧
      (record.createdAt < row.createdAt ↔ store.HasOlderRecord row) := by
  obtain ⟨session, normalized, done⟩ := bind_eq_ok.mp done
  have isSession := (normalizeSessionName_eq_ok normalized).1.trans named
  subst isSession
  have sameRecords := (ensureMeta_sameMessages store row.sessionName
    recipient).queueDeliveryTombstones
  have epoch : store.epoch? row.sessionName = some held.queueEpoch := by
    rw [epoch?, found]
    rfl
  dsimp only at done
  rw [identified, ensureMeta_returned found, sameRecords] at done
  split at done
  · cases done
  · cases done
    dsimp only
    by_cases known : ∃ old, old ∈ store.queueDeliveryTombstones ∧
        old.key = (row.sessionName, held.queueEpoch, row.clientMessageId)
    · obtain ⟨old, member, isRecord⟩ := known
      refine ⟨old, Table.mem_insertOrIgnore_of_mem member, isRecord, ?_⟩
      constructor
      · intro older
        simp only [QueueDeliveryTombstoneRow.key, Prod.mk.injEq] at isRecord
        exact ⟨old, member, isRecord.1, isRecord.2.2, by rw [epoch, isRecord.2.1], older⟩
      · rintro ⟨other, otherMember, otherSession, otherMessage, otherEpoch, older⟩
        have same : other = old := by
          apply Table.eq_of_key otherMember member
          rw [isRecord]
          exact Prod.ext otherSession
            (Prod.ext (Option.some.inj (otherEpoch.symm.trans epoch)) otherMessage)
        exact same ▸ older
    · refine ⟨_, Table.mem_insertOrIgnore.mpr (.inr ⟨rfl, ?_⟩), rfl, ?_⟩
      · intro old member isRecord
        exact known ⟨old, member, isRecord⟩
      · refine iff_of_false (not_lt.mpr late) ?_
        rintro ⟨other, otherMember, otherSession, otherMessage, otherEpoch, _⟩
        exact known ⟨other, otherMember, Prod.ext otherSession
          (Prod.ext (Option.some.inj (otherEpoch.symm.trans epoch)) otherMessage)⟩

/-- Once the acceptance of a pending row is recorded, a later reconciliation removes the
row exactly when the epoch held no older record of the message. -/
theorem accepted_row_reconciled_iff (earlier gap : List Operation) (row : QueueEntryRow)
    (member : row ∈ (run next empty earlier).queueEntries)
    (sessionName clientMessageId deliveryFrameId : String) (now : Int)
    (recipient : Option QueueRecipientIdentity) (conversationKey : Option String)
    (named : trim sessionName = row.sessionName)
    (identified : trim clientMessageId = row.clientMessageId) (late : row.createdAt ≤ now)
    (recorded : TransportQueueStore)
    (done : (run next empty earlier).recordDeliveryTombstone sessionName clientMessageId
      deliveryFrameId now recipient conversationKey = .ok (recorded, true))
    (quiet : Meets next (QuietAfterCrash row.sessionName) recorded gap)
    (survivor : QueueEntryRow) (survives : survivor ∈ (run next recorded gap).queueEntries)
    (sameKey : survivor.key = row.key) (sameOrdinal : survivor.ordinal = row.ordinal)
    (stillPending : survivor.pending = true)
    (reconciled : TransportQueueStore × List String)
    (reconcile : (run next recorded gap).reconcileDeliveredQueueRows sessionName =
      .ok reconciled) :
    (¬ ∃ other, other ∈ reconciled.1.queueEntries ∧ other.key = row.key) ↔
      ¬ (run next empty earlier).HasOlderRecord row := by
  obtain ⟨held, found, below⟩ := (reachable_numbered ⟨earlier, rfl⟩).home row member
  obtain ⟨record, recordMember, isRecord, older⟩ :=
    recordDeliveryTombstone_records found named identified late done
  obtain ⟨kept, carriesGap⟩ := run_recordsKept quiet
  have recording : Changes { Footprint.common with delivers := True } (run next empty earlier)
      recorded := recordDeliveryTombstone_changes trivial done
  have carries := (show Carries row.sessionName _ _ from recording.carries id id).trans carriesGap
  obtain ⟨later, goesOn⟩ := carries.goesOn held found
  have survivorSession : survivor.sessionName = row.sessionName := congrArg Prod.fst sameKey
  have survivorMessage : survivor.clientMessageId = row.clientMessageId := congrArg Prod.snd sameKey
  have sameCreation : row.createdAt = survivor.createdAt := by
    obtain ⟨old, oldMember, oldKey, _, _, oldCreation⟩ :=
      goesOn.rows survivor survives survivorSession (sameOrdinal ▸ below)
    cases Table.eq_of_key oldMember member (oldKey.trans sameKey)
    exact oldCreation
  obtain ⟨keptRecord, keptMember, keptKey, keptCreation⟩ :=
    kept record recordMember (congrArg Prod.fst isRecord)
  have isGhost : (run next recorded gap).isDeliveredGhost row.sessionName survivor = true ↔
      row.createdAt ≤ record.createdAt := by
    rw [← survivorSession, sameCreation, ← keptCreation]
    apply isDeliveredGhost_iff (survivorSession ▸ goesOn.laterFound) stillPending keptMember
    rw [keptKey, isRecord, goesOn.queueEpoch, survivorSession, survivorMessage]
  have remains : (∃ other, other ∈ reconciled.1.queueEntries ∧ other.key = row.key) ↔
      ¬ (run next recorded gap).isDeliveredGhost row.sessionName survivor = true := by
    constructor
    · rintro ⟨other, otherMember, otherKey⟩
      obtain ⟨otherBefore, notGhost⟩ := (mem_reconcileDeliveredQueueRows reconcile).mp otherMember
      cases Table.eq_of_key otherBefore survives (otherKey.trans sameKey.symm)
      rw [named] at notGhost
      exact Bool.not_eq_true _ ▸ notGhost
    · intro notGhost
      refine ⟨survivor, (mem_reconcileDeliveredQueueRows reconcile).mpr ⟨survives, ?_⟩, sameKey⟩
      rw [named]
      exact Bool.not_eq_true _ ▸ notGhost
  rw [remains, isGhost, ← older]
  omega

end Host

section FixedRuns

open Library.FixedRuns

/-- A message is delivered, queued again later and leased for its second delivery. -/
def redelivery : List Operation :=
  [.enqueue 0 (plainMessage (some ⟨"A", "e"⟩) "m1" 1),
    .finalizeSentBatch "deck" ["m1"] "frame1" 2 (some ⟨"A", "e"⟩) none,
    .enqueue 0 (plainMessage (some ⟨"A", "e"⟩) "m1" 3),
    .markHandoffInFlight "deck" ["m1"] 1000 3 (some ⟨"A", "e"⟩)]

def acceptThenReconcile : List Operation :=
  [.recordDeliveryTombstone "deck" "m1" "frame2" 4 (some ⟨"A", "e"⟩) none,
    .restoreExpiredHandoffs "deck" 5 true, .reconcileDeliveredQueueRows "deck"]

/-- The second acceptance leaves no trace: the row outlives the reconciliation and is
leased for a third delivery. -/
theorem second_acceptance_lost :
    (∃ row ∈ (run next empty redelivery).queueEntries.rows, row.pending = true ∧
      row.createdAt ≤ 4 ∧
      ((run next empty redelivery).recordDeliveryTombstone "deck" "m1" "frame2" 4
        (some ⟨"A", "e"⟩) none).toOption.map Prod.snd = some true ∧
      ∃ other ∈ (run next empty (redelivery ++ acceptThenReconcile)).queueEntries.rows,
        other.key = row.key) ∧
    ((run next empty (redelivery ++ acceptThenReconcile)).markHandoffInFlight "deck" ["m1"] 1000 6
      (some ⟨"A", "e"⟩)).toOption.map (fun leased => leased.2.map (·.entry.clientMessageId)) =
        some ["m1"] := by
  decide

def queuedOnce : TransportQueueStore :=
  run next empty [.enqueue 0 (plainMessage (some ⟨"A", "e"⟩) "m1" 1)]

def acceptedOnce : TransportQueueStore :=
  queuedOnce.next (.recordDeliveryTombstone "deck" "m1" "frame" 2 (some ⟨"A", "e"⟩) none)

def queuedOnceRow : QueueEntryRow :=
  newEntryRow (plainMessage (some ⟨"A", "e"⟩) "m1" 1) "deck" "m1" (some ⟨"A", "e"⟩) 1 0

theorem accepted_row_reconciled_iff_run :
    (¬ ∃ other, other ∈ (acceptedOnce.next (.reconcileDeliveredQueueRows "deck")).queueEntries ∧
      other.key = queuedOnceRow.key) ↔ ¬ queuedOnce.HasOlderRecord queuedOnceRow :=
  accepted_row_reconciled_iff [.enqueue 0 (plainMessage (some ⟨"A", "e"⟩) "m1" 1)] []
    queuedOnceRow (by decide) "deck" "m1" "frame" 2 (some ⟨"A", "e"⟩) none (by decide) (by decide)
    (by decide) acceptedOnce rfl trivial queuedOnceRow (by decide) rfl rfl (by decide)
    (acceptedOnce.next (.reconcileDeliveredQueueRows "deck"), ["m1"]) rfl

end FixedRuns

end TransportQueueStore

end ImCodes.Queue
