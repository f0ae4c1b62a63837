import ImCodes.Queue.Store.Invariants

/-!
# Where a row comes from

A row of the store after a call was there before it, or the call inserted it. In
either case it has its private material, unless the call may strip the message.
-/

set_option autoImplicit false

namespace ImCodes.Queue

open Library

namespace TransportQueueStore

def epoch? (store : TransportQueueStore) (session : String) : Option String :=
  (store.queueMeta.lookup session).map (·.queueEpoch)

def HasMaterial (store : TransportQueueStore) (row : QueueEntryRow) : Prop :=
  ∃ held, held ∈ store.queuePrivateMaterial ∧ held.key = row.key ∧ held.recipient = row.recipient

def Held (earlier later : TransportQueueStore) (row : QueueEntryRow) : Prop :=
  ∃ old, old ∈ earlier.queueEntries ∧ old.key = row.key ∧ old.ordinal = row.ordinal ∧
    earlier.epoch? row.sessionName = later.epoch? row.sessionName

/-- The row is an old one, its material kept unless the changes may strip it. -/
structure ComesFrom (allowed : Footprint) (before after : TransportQueueStore)
    (old row : QueueEntryRow) : Prop where
  member : old ∈ before.queueEntries
  key : old.key = row.key
  ordinal : old.ordinal = row.ordinal
  epoch : before.epoch? row.sessionName = after.epoch? row.sessionName
  reference : old.privateMaterialRef = row.privateMaterialRef
  live : row.status.isLive = true → old.status.isLive = true
  material : row.status.isLive = true → before.HasMaterial old →
    after.HasMaterial row ∨ allowed.strips row.key

/-- The row was inserted by the changes, together with its material. -/
structure IsFresh (allowed : Footprint) (after : TransportQueueStore) (row : QueueEntryRow) :
    Prop where
  inserted : ∃ fresh, allowed.inserts fresh ∧ fresh.key = row.key
  material : row.status.isLive = true → row.privateMaterialRef.isSome = true →
    after.HasMaterial row ∨ allowed.strips row.key

theorem ComesFrom.sessionName {allowed : Footprint} {before after : TransportQueueStore}
    {old row : QueueEntryRow} (comes : ComesFrom allowed before after old row) :
    old.sessionName = row.sessionName :=
  congrArg Prod.fst comes.key

theorem ComesFrom.refl {allowed : Footprint} {store : TransportQueueStore} {row : QueueEntryRow}
    (member : row ∈ store.queueEntries) : ComesFrom allowed store store row row :=
  ⟨member, rfl, rfl, rfl, rfl, id, fun _ => .inl⟩

theorem ComesFrom.trans {allowed : Footprint} {first second third : TransportQueueStore}
    {oldest old row : QueueEntryRow} (left : ComesFrom allowed first second oldest old)
    (right : ComesFrom allowed second third old row) :
    ComesFrom allowed first third oldest row where
  member := left.member
  key := left.key.trans right.key
  ordinal := left.ordinal.trans right.ordinal
  epoch := (right.sessionName ▸ left.epoch).trans right.epoch
  reference := left.reference.trans right.reference
  live live := left.live (right.live live)
  material live hasMaterial := by
    rcases left.material (right.live live) hasMaterial with kept | strips
    · exact right.material live kept
    · exact .inr (right.key ▸ strips)

theorem IsFresh.comes {allowed : Footprint} {before after : TransportQueueStore}
    {old row : QueueEntryRow} (fresh : IsFresh allowed before old)
    (comes : ComesFrom allowed before after old row) : IsFresh allowed after row where
  inserted := comes.key ▸ fresh.inserted
  material live reference := by
    rcases fresh.material (comes.live live) (comes.reference ▸ reference) with kept | strips
    · exact comes.material live kept
    · exact .inr (comes.key ▸ strips)

theorem ComesFrom.of_same {allowed : Footprint} {before after : TransportQueueStore}
    {row : QueueEntryRow} (member : row ∈ before.queueEntries)
    (epoch : before.epoch? row.sessionName = after.epoch? row.sessionName)
    (material : before.HasMaterial row → after.HasMaterial row) :
    ComesFrom allowed before after row row :=
  ⟨member, rfl, rfl, epoch, rfl, id, fun _ held => .inl (material held)⟩

theorem HasMaterial.deleteWhere {before after : TransportQueueStore} {row : QueueEntryRow}
    (hasMaterial : before.HasMaterial row) {q : QueuePrivateMaterialRow → Bool}
    (spared : ∀ held, held ∈ before.queuePrivateMaterial → held.key = row.key →
      held.recipient = row.recipient → q held = false)
    (material : after.queuePrivateMaterial = before.queuePrivateMaterial.deleteWhere q) :
    after.HasMaterial row := by
  obtain ⟨held, member, sameKey, sameRecipient⟩ := hasMaterial
  refine ⟨held, ?_, sameKey, sameRecipient⟩
  rw [material]
  exact Table.mem_deleteWhere.mpr ⟨member, spared held member sameKey sameRecipient⟩

theorem HasMaterial.inSession_deleted {before after : TransportQueueStore} {row : QueueEntryRow}
    (hasMaterial : before.HasMaterial row) {session : String}
    (spared : inSession session row = false)
    (material : after.queuePrivateMaterial =
      before.queuePrivateMaterial.deleteWhere (inSession session)) : after.HasMaterial row := by
  refine hasMaterial.deleteWhere ?_ material
  intro held _ sameKey _
  change decide (held.sessionName = session) = false
  rw [show held.sessionName = row.sessionName from congrArg Prod.fst sameKey]
  exact spared

section Host

variable [Host] {allowed : Footprint} {before after : TransportQueueStore}

theorem Change.origin (change : Change allowed before after) (numbered : Numbered before)
    {row : QueueEntryRow} (member : row ∈ after.queueEntries) :
    (∃ old, ComesFrom allowed before after old row) ∨ IsFresh allowed after row := by
  cases change with
  | issue => exact .inl ⟨row, .of_same member rfl id⟩
  | mint minted absent queueEpoch queueAuthorityId =>
    obtain ⟨held, found, _⟩ := numbered.home row member
    have different : minted.sessionName ≠ row.sessionName := by
      intro same
      rw [same] at absent
      cases absent.symm.trans found
    refine .inl ⟨row, .of_same member ?_ id⟩
    exact congrArg _ (Table.lookup_insertOrIgnore_other different).symm
  | touchMeta p update keeps kept =>
    refine .inl ⟨row, .of_same member ?_ id⟩
    unfold epoch?
    rw [@Table.lookup_updateWhere _ _ _ _ _ _ _ keeps _]
    cases found : before.queueMeta.lookup row.sessionName with
    | none => rfl
    | some held =>
      simp only [Option.map_some]
      split
      · next selected =>
          rw [(kept held (Table.lookup_eq_some_iff.mp found).1 selected).queueEpoch]
      · rfl
  | renew session permitted =>
    obtain ⟨oldMember, spared⟩ := Table.mem_deleteWhere.mp member
    have different : session ≠ row.sessionName :=
      fun same => (decide_eq_false_iff_not.mp spared) same.symm
    refine .inl ⟨row, .of_same oldMember ?_ ?_⟩
    · exact congrArg _ (lookup_renewMeta_other different).symm
    · exact fun held => held.inSession_deleted spared rfl
  | wipe session permitted =>
    obtain ⟨oldMember, spared⟩ := Table.mem_deleteWhere.mp member
    have different : session ≠ row.sessionName :=
      fun same => (decide_eq_false_iff_not.mp spared) same.symm
    refine .inl ⟨row, .of_same oldMember ?_ ?_⟩
    · exact congrArg _ (lookup_deleteSessionQueueStateRows_other different).symm
    · exact fun held => held.inSession_deleted spared rfl
  | insert inserted held entries material permitted home ordinal reference unleased queued owned accepted =>
    rcases (Table.mem_insert accepted).mp member with oldMember | isNew
    · have otherKey : row.key ≠ inserted.key := (Table.insert_eq_some accepted).2 row oldMember
      refine .inl ⟨row, .of_same oldMember ?_ ?_⟩
      · unfold epoch?
        rw [lookup_takeOrdinal]
        cases before.queueMeta.lookup row.sessionName with
        | none => rfl
        | some known =>
          simp only [Option.map_some]
          split
          · rfl
          · rfl
      · rintro ⟨other, otherMember, sameKey, sameRecipient⟩
        refine ⟨other, ?_, sameKey, sameRecipient⟩
        cases material with
        | none => exact otherMember
        | some given =>
          refine Table.mem_insertOrReplace.mpr (.inl ⟨otherMember, ?_⟩)
          rw [sameKey, (owned given rfl).1]
          exact otherKey
    · subst isNew
      refine .inr ⟨⟨row, permitted, rfl⟩, ?_⟩
      intro _ referenced
      rw [reference] at referenced
      obtain ⟨given, rfl⟩ := Option.isSome_iff_exists.mp referenced
      obtain ⟨sameKey, sameRecipient⟩ := owned given rfl
      exact .inl ⟨given, Table.mem_insertOrReplace.mpr (.inr rfl), sameKey, sameRecipient⟩
  | update p update keeps kept =>
    obtain ⟨old, oldMember, rfl⟩ := mem_updateEntries.mp member
    left
    refine ⟨old, ?_⟩
    split
    · next selected =>
        have keptOld := kept old selected
        refine ⟨oldMember, (keeps old).symm, keptOld.ordinal.symm, rfl,
          keptOld.privateMaterialRef.symm, keptOld.live, ?_⟩
        rintro _ ⟨held, heldMember, sameKey, sameRecipient⟩
        exact .inl ⟨held, heldMember, sameKey.trans (keeps old).symm,
          sameRecipient.trans keptOld.recipient.symm⟩
    · exact .of_same oldMember rfl id
  | remove p q whole =>
    obtain ⟨oldMember, spared⟩ := Table.mem_deleteWhere.mp member
    refine .inl ⟨row, .of_same oldMember rfl fun hasMaterial => ?_⟩
    refine hasMaterial.deleteWhere (q := q) ?_ rfl
    intro held heldMember sameKey sameRecipient
    rw [whole row oldMember held heldMember sameKey sameRecipient]
    exact spared
  | strip q spared =>
    refine .inl ⟨row, member, rfl, rfl, rfl, rfl, id, ?_⟩
    rintro live ⟨held, heldMember, sameKey, sameRecipient⟩
    cases selected : q held with
    | false =>
      exact .inl ⟨held, Table.mem_deleteWhere.mpr ⟨heldMember, selected⟩, sameKey,
        sameRecipient⟩
    | true => exact .inr (spared row member live held heldMember sameKey selected)
  | rewrite p update keeps kept =>
    refine .inl ⟨row, .of_same member rfl ?_⟩
    rintro ⟨held, heldMember, sameKey, sameRecipient⟩
    refine ⟨_, List.mem_map.mpr ⟨held, heldMember, rfl⟩, ?_⟩
    split
    · exact ⟨(keeps held).trans sameKey, (kept held).trans sameRecipient⟩
    · exact ⟨sameKey, sameRecipient⟩
  | purge p timeless legacy permitted =>
    obtain ⟨oldMember, spared⟩ := Table.mem_deleteWhere.mp member
    refine .inl ⟨row, .of_same oldMember rfl fun hasMaterial => ?_⟩
    refine hasMaterial.deleteWhere (q := fun held => p (asMessageRow held)) ?_ rfl
    intro held _ sameKey sameRecipient
    exact (timeless _ _ (congrArg Prod.fst sameKey) (congrArg Prod.snd sameKey)
      sameRecipient).trans spared
  | restamp p recipient timeless own =>
    obtain ⟨old, oldMember, rfl⟩ := mem_restampedEntries.mp member
    left
    have material : before.HasMaterial old →
        ∃ held, held ∈ (before.restampMessageRows p recipient.columns).queuePrivateMaterial ∧
          held.key = old.key ∧
          held.recipient = if p (asMessageRow old) then recipient.columns else old.recipient := by
      rintro ⟨held, heldMember, sameKey, sameRecipient⟩
      have alike : p (asMessageRow held) = p (asMessageRow old) :=
        timeless _ _ (congrArg Prod.fst sameKey) (congrArg Prod.snd sameKey) sameRecipient
      refine ⟨_, mem_restampedMaterial.mpr ⟨held, heldMember, rfl⟩, ?_⟩
      rw [alike]
      split
      · exact ⟨sameKey, rfl⟩
      · exact ⟨sameKey, sameRecipient⟩
    cases selected : p (asMessageRow old) with
    | false =>
      simp only [selected, Bool.false_eq_true, ↓reduceIte] at material ⊢
      exact ⟨old, .of_same oldMember rfl material⟩
    | true =>
      simp only [selected, ↓reduceIte] at material ⊢
      exact ⟨old, oldMember, rfl, rfl, rfl, rfl, id, fun _ held => .inl (material held)⟩
  | deliver | prune | cancel => exact .inl ⟨row, .of_same member rfl id⟩

theorem Changes.origin (changes : Changes allowed before after) (numbered : Numbered before)
    {row : QueueEntryRow} (member : row ∈ after.queueEntries) :
    (∃ old, ComesFrom allowed before after old row) ∨ IsFresh allowed after row := by
  induction changes generalizing row with
  | refl => exact .inl ⟨row, .refl member⟩
  | tail earlier change ih =>
    have midNumbered := Changes.preserves (fun _ _ => Change.numbered) earlier numbered
    rcases change.origin midNumbered member with ⟨old, comes⟩ | fresh
    · rcases ih comes.member with ⟨oldest, comesOld⟩ | fresh
      · exact .inl ⟨oldest, comesOld.trans comes⟩
      · exact .inr (fresh.comes comes)
    · exact .inr fresh

end Host

end TransportQueueStore

end ImCodes.Queue
