import ImCodes.Queue.Store.Step
import ImCodes.Queue.Store.Metadata
import Mathlib.Logic.Relation

/-!
# What an operation can do to the store

Every operation is a sequence of a few kinds of change. A footprint names the
changes that only some operations make; the rest are open to all. An invariant is
then proved once for each kind of change.
-/

set_option autoImplicit false

namespace ImCodes.Queue

open Library

/-- The changes an operation is allowed beyond the common ones. -/
structure Footprint where
  /-- rows it may add -/
  inserts : QueueEntryRow → Prop
  /-- live messages whose private material it may delete -/
  strips : String × String → Prop
  /-- clocks it may prune the cancellations by -/
  prunes : Int → Prop
  /-- cancellations it may record -/
  cancels : QueueCancellationTombstoneRow → Prop
  /-- sessions whose queue it may drop together with the metadata -/
  wipes : String → Prop
  /-- sessions it may give a new epoch -/
  renews : String → Prop
  /-- it may write delivery records -/
  delivers : Prop
  /-- it may delete legacy rows of the message tables -/
  purges : Prop

def OwnerKept (before after : RecipientColumns) : Prop :=
  after = before ∨ before.unset = true ∨
    (after.sessionInstanceId = before.sessionInstanceId ∧ (truthy after.runtimeEpoch).isSome)

/-- An update of the metadata of a session, within its epoch. -/
structure KeepsMeta (before after : QueueMetaRow) : Prop where
  queueEpoch : after.queueEpoch = before.queueEpoch
  queueAuthorityId : after.queueAuthorityId = before.queueAuthorityId
  nextOrdinal : after.nextOrdinal = before.nextOrdinal
  version : before.pendingMessageVersion ≤ after.pendingMessageVersion
  owner : OwnerKept before.recipient after.recipient

/-- An update of a row that keeps its place, its owner and its claim to private
material, and that revives nothing. A lease it gives is one of those issued. -/
structure KeepsEntry (issued : String → Prop) (before after : QueueEntryRow) : Prop where
  ordinal : after.ordinal = before.ordinal
  placement : after.placement = before.placement
  createdAt : after.createdAt = before.createdAt
  recipient : after.recipient = before.recipient
  privateMaterialRef : after.privateMaterialRef = before.privateMaterialRef
  live : after.status.isLive = true → before.status.isLive = true
  handoff : ∀ handoffId, after.handoffId = some handoffId →
    before.handoffId = some handoffId ∨ issued handoffId
  undispatched : after.status = .dispatching → before.status = .dispatching

def Timeless (p : QueueMessageRow → Bool) : Prop :=
  ∀ left right : QueueMessageRow, left.sessionName = right.sessionName →
    left.clientMessageId = right.clientMessageId → left.recipient = right.recipient →
    p left = p right

namespace TransportQueueStore

theorem mem_updateEntries {store : TransportQueueStore} {p : QueueEntryRow → Bool}
    {update : QueueEntryRow → QueueEntryRow} {keeps : ∀ row, (update row).key = row.key}
    {row : QueueEntryRow} :
    row ∈ (store.updateEntries p update keeps).queueEntries ↔
      ∃ old, old ∈ store.queueEntries ∧ (if p old then update old else old) = row :=
  List.mem_map

theorem mem_takeOrdinal {store : TransportQueueStore} {session : String} {row : QueueMetaRow} :
    row ∈ (store.takeOrdinal session).queueMeta ↔ ∃ old, old ∈ store.queueMeta ∧
      (if decide (old.sessionName = session) then
        { old with nextOrdinal := old.nextOrdinal + 1 } else old) = row :=
  List.mem_map

theorem mem_restampedEntries {store : TransportQueueStore} {p : QueueMessageRow → Bool}
    {recipient : RecipientColumns} {row : QueueEntryRow} :
    row ∈ (store.restampMessageRows p recipient).queueEntries ↔ ∃ old, old ∈ store.queueEntries ∧
      (if p (asMessageRow old) then { old with recipient } else old) = row :=
  List.mem_map

theorem mem_restampedMaterial {store : TransportQueueStore} {p : QueueMessageRow → Bool}
    {recipient : RecipientColumns} {row : QueuePrivateMaterialRow} :
    row ∈ (store.restampMessageRows p recipient).queuePrivateMaterial ↔
      ∃ old, old ∈ store.queuePrivateMaterial ∧
        (if p (asMessageRow old) then { old with recipient } else old) = row :=
  List.mem_map

theorem mem_restampedCancellations {store : TransportQueueStore} {p : QueueMessageRow → Bool}
    {recipient : RecipientColumns} {row : QueueCancellationTombstoneRow} :
    row ∈ (store.restampMessageRows p recipient).queueCancellationTombstones ↔
      ∃ old, old ∈ store.queueCancellationTombstones ∧
        (if p (asMessageRow old) then { old with recipient } else old) = row :=
  List.mem_map

variable [Host]

def Issued (store : TransportQueueStore) (uuid : String) : Prop :=
  ∃ index, index < store.uuidsIssued ∧ uuid = Host.randomUUID index

inductive Change (allowed : Footprint) (store : TransportQueueStore) :
    TransportQueueStore → Prop
  | issue : Change allowed store { store with uuidsIssued := store.uuidsIssued + 1 }
  | mint (minted : QueueMetaRow)
      (absent : store.queueMeta.lookup minted.sessionName = none)
      (queueEpoch : minted.queueEpoch = Host.randomUUID store.uuidsIssued)
      (queueAuthorityId : minted.queueAuthorityId = Host.randomUUID (store.uuidsIssued + 1)) :
      Change allowed store (store.mintMeta minted)
  | touchMeta (p : QueueMetaRow → Bool) (update : QueueMetaRow → QueueMetaRow)
      (keeps : ∀ row, (update row).sessionName = row.sessionName)
      (kept : ∀ row, row ∈ store.queueMeta → p row = true → KeepsMeta row (update row)) :
      Change allowed store { store with queueMeta := store.queueMeta.updateWhere p update keeps }
  | renew (session : String) (permitted : allowed.renews session) :
      Change allowed store ((store.deleteSessionRows session).renewMeta session)
  | wipe (session : String) (permitted : allowed.wipes session) :
      Change allowed store (store.deleteSessionQueueStateRows session)
  | insert (row : QueueEntryRow) (held : QueueMetaRow)
      (inserted : Table QueueEntryRow (String × String) QueueEntryRow.key)
      (material : Option QueuePrivateMaterialRow) (permitted : allowed.inserts row)
      (home : store.queueMeta.lookup row.sessionName = some held)
      (ordinal : row.ordinal = held.nextOrdinal)
      (reference : row.privateMaterialRef.isSome = material.isSome)
      (unleased : row.handoffId = none) (queued : row.status = .queued)
      (owned : ∀ given, material = some given →
        given.key = row.key ∧ given.recipient = row.recipient)
      (accepted : store.queueEntries.insert row = some inserted) :
      Change allowed store { store.takeOrdinal row.sessionName with
        queueEntries := inserted
        queuePrivateMaterial :=
          material.elim store.queuePrivateMaterial store.queuePrivateMaterial.insertOrReplace }
  | update (p : QueueEntryRow → Bool) (update : QueueEntryRow → QueueEntryRow)
      (keeps : ∀ row, (update row).key = row.key)
      (kept : ∀ row, p row = true → KeepsEntry store.Issued row (update row)) :
      Change allowed store (store.updateEntries p update keeps)
  | remove (p : QueueEntryRow → Bool) (q : QueuePrivateMaterialRow → Bool)
      (whole : ∀ row, row ∈ store.queueEntries → ∀ held, held ∈ store.queuePrivateMaterial →
        held.key = row.key → held.recipient = row.recipient →
        q held = p row) :
      Change allowed store { store with
        queueEntries := store.queueEntries.deleteWhere p
        queuePrivateMaterial := store.queuePrivateMaterial.deleteWhere q }
  | strip (q : QueuePrivateMaterialRow → Bool)
      (spared : ∀ row, row ∈ store.queueEntries → row.status.isLive = true →
        ∀ held, held ∈ store.queuePrivateMaterial → held.key = row.key → q held = true →
          allowed.strips row.key) :
      Change allowed store { store with
        queuePrivateMaterial := store.queuePrivateMaterial.deleteWhere q }
  | rewrite (p : QueuePrivateMaterialRow → Bool)
      (update : QueuePrivateMaterialRow → QueuePrivateMaterialRow)
      (keeps : ∀ row, (update row).key = row.key)
      (kept : ∀ row, (update row).recipient = row.recipient) :
      Change allowed store { store with
        queuePrivateMaterial := store.queuePrivateMaterial.updateWhere p update keeps }
  | deliver (records : Table QueueDeliveryTombstoneRow (String × String × String)
      QueueDeliveryTombstoneRow.key) (permitted : allowed.delivers) :
      Change allowed store { store with queueDeliveryTombstones := records }
  | prune (now : Int) (permitted : allowed.prunes now) :
      Change allowed store (store.pruneCancellations now)
  | cancel (row : QueueCancellationTombstoneRow) (permitted : allowed.cancels row)
      (own : ∀ old, old ∈ store.queueCancellationTombstones → old.key = row.key →
        old.recipient = row.recipient) :
      Change allowed store { store with
        queueCancellationTombstones := store.queueCancellationTombstones.upsert row }
  | purge (p : QueueMessageRow → Bool) (timeless : Timeless p)
      (legacy : ∀ row, p row = true → row.recipient = .legacy) (permitted : allowed.purges) :
      Change allowed store (store.deleteMessageRows p)
  | restamp (p : QueueMessageRow → Bool) (recipient : QueueRecipientIdentity)
      (timeless : Timeless p)
      (own : ∀ row, p row = true → row.recipient = .legacy ∨
        row.recipient.sessionInstanceId = some recipient.sessionInstanceId) :
      Change allowed store (store.restampMessageRows p recipient.columns)

def Changes (allowed : Footprint) : TransportQueueStore → TransportQueueStore → Prop :=
  Relation.ReflTransGen (Change allowed)

theorem Changes.refl {allowed : Footprint} {store : TransportQueueStore} :
    Changes allowed store store :=
  Relation.ReflTransGen.refl

theorem Changes.change {allowed : Footprint} {start before after : TransportQueueStore}
    (changes : Changes allowed start before) (change : Change allowed before after) :
    Changes allowed start after :=
  changes.tail change

theorem Changes.trans {allowed : Footprint} {first second third : TransportQueueStore}
    (left : Changes allowed first second) (right : Changes allowed second third) :
    Changes allowed first third :=
  Relation.ReflTransGen.trans left right

theorem Changes.preserves {allowed : Footprint} {invariant : TransportQueueStore → Prop}
    (step : ∀ before after, Change allowed before after → invariant before → invariant after)
    {before after : TransportQueueStore} (changes : Changes allowed before after)
    (holds : invariant before) : invariant after := by
  induction changes with
  | refl => exact holds
  | tail _ change ih => exact step _ _ change ih

theorem Changes.foldl {allowed : Footprint} {start : TransportQueueStore} {State Item : Type}
    (storeOf : State → TransportQueueStore) {round : State → Item → State}
    (each : ∀ state item, Changes allowed start (storeOf state) →
      Changes allowed start (storeOf (round state item)))
    {items : List Item} {state : State} (changes : Changes allowed start (storeOf state)) :
    Changes allowed start (storeOf (items.foldl round state)) := by
  induction items generalizing state with
  | nil => exact changes
  | cons item rest ih => exact ih (each state item changes)

/-! ## Changes open to every operation -/

section Common

variable {allowed : Footprint} {start store : TransportQueueStore} {session : String}

theorem Changes.ensureMeta (changes : Changes allowed start store)
    (recipient : Option QueueRecipientIdentity) :
    Changes allowed start (store.ensureMeta session recipient).1 := by
  cases found : store.queueMeta.lookup session with
  | none =>
    rw [ensureMeta_of_none found]
    exact changes.change (.mint _ found rfl rfl)
  | some existing =>
    rcases ensureMeta_of_some found recipient with same | ⟨unset, identity, _, adopted⟩
    · rw [same]
      exact changes
    · rw [adopted]
      apply changes.change
      apply Change.touchMeta
      intro row member selected
      have isExisting : row = existing := by
        obtain ⟨existingMember, named⟩ := Table.lookup_eq_some_iff.mp found
        exact Table.eq_of_key member existingMember
          ((of_decide_eq_true selected).trans named.symm)
      exact ⟨rfl, rfl, rfl, Nat.le_refl _, .inr (.inl (isExisting ▸ unset))⟩

theorem Changes.incrementVersion (changes : Changes allowed start store) :
    Changes allowed start (store.incrementVersion session) := by
  apply changes.change
  apply Change.touchMeta
  intro row _ _
  exact ⟨rfl, rfl, rfl, Nat.le_succ _, .inl rfl⟩

theorem Changes.bumpVersion (changes : Changes allowed start store) :
    Changes allowed start (store.bumpVersion session).1 := by
  rw [bumpVersion_eq]
  exact (changes.ensureMeta none).incrementVersion

theorem Changes.snapshotAfter (changes : Changes allowed start store) (source : String)
    (override : Option QueueSnapshotOverride) :
    Changes allowed start (store.snapshotAfter session source override).1 := by
  cases override with
  | none => exact changes.ensureMeta none
  | some given => exact changes

theorem Changes.updateEntries (changes : Changes allowed start store)
    {p : QueueEntryRow → Bool} {update : QueueEntryRow → QueueEntryRow}
    {keeps : ∀ row, (update row).key = row.key}
    (kept : ∀ row, p row = true → KeepsEntry store.Issued row (update row)) :
    Changes allowed start (store.updateEntries p update keeps) :=
  changes.change (.update p update keeps kept)

theorem Changes.deleteMessage (changes : Changes allowed start store) (clientMessageId : String)
    (gate : RecipientColumns → Bool) :
    Changes allowed start (store.deleteMessage session clientMessageId gate) := by
  apply changes.change
  apply Change.remove
  intro row _ held _ sameKey sameRecipient
  have keys := Prod.mk.inj sameKey
  change (decide (held.sessionName = session) && decide (held.clientMessageId = clientMessageId) &&
    gate held.recipient) = _
  rw [keys.1, keys.2, sameRecipient]
  rfl

theorem Changes.deleteSessionMessages (changes : Changes allowed start store) :
    Changes allowed start (store.deleteSessionMessages session) := by
  apply changes.change
  apply Change.remove
  intro row _ held _ sameKey _
  have keys := Prod.mk.inj sameKey
  change decide (held.sessionName = session) = _
  rw [keys.1]
  rfl

end Common

end TransportQueueStore

end ImCodes.Queue
