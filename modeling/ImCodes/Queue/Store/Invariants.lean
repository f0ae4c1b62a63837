import ImCodes.Queue.Store.Epochs

/-!
# Invariants of the tables

Every row has metadata and an ordinal of its own below the next one, private material
never outlives the row it belongs to, and leases are UUIDs of the host.
-/

set_option autoImplicit false

namespace ImCodes.Queue

open Library

namespace TransportQueueStore

/-- Rows are numbered apart, below the next ordinal of their session. -/
structure Numbered (store : TransportQueueStore) : Prop where
  home : ∀ row, row ∈ store.queueEntries → ∃ held,
    store.queueMeta.lookup row.sessionName = some held ∧ row.ordinal < held.nextOrdinal
  distinct : ∀ left, left ∈ store.queueEntries → ∀ right, right ∈ store.queueEntries →
    left.sessionName = right.sessionName → left.ordinal = right.ordinal → left = right

def Paired (store : TransportQueueStore) : Prop :=
  ∀ held, held ∈ store.queuePrivateMaterial → ∃ row, row ∈ store.queueEntries ∧
    row.key = held.key ∧ row.recipient = held.recipient

theorem Numbered.of_old {before after : TransportQueueStore} (numbered : Numbered before)
    (old : ∀ row, row ∈ after.queueEntries → ∃ earlier, earlier ∈ before.queueEntries ∧
      earlier.key = row.key ∧ earlier.ordinal = row.ordinal)
    (home : ∀ row, row ∈ after.queueEntries → ∀ held,
      before.queueMeta.lookup row.sessionName = some held →
      ∃ later, after.queueMeta.lookup row.sessionName = some later ∧
        held.nextOrdinal ≤ later.nextOrdinal) : Numbered after where
  home := by
    intro row member
    obtain ⟨earlier, earlierMember, sameKey, sameOrdinal⟩ := old row member
    obtain ⟨held, found, below⟩ := numbered.home earlier earlierMember
    rw [show earlier.sessionName = row.sessionName from congrArg Prod.fst sameKey] at found
    obtain ⟨later, laterFound, grown⟩ := home row member held found
    exact ⟨later, laterFound, by omega⟩
  distinct := by
    intro left leftMember right rightMember sameSession sameOrdinal
    obtain ⟨oldLeft, oldLeftMember, leftKey, leftOrdinal⟩ := old left leftMember
    obtain ⟨oldRight, oldRightMember, rightKey, rightOrdinal⟩ := old right rightMember
    have same : oldLeft = oldRight := by
      apply numbered.distinct oldLeft oldLeftMember oldRight oldRightMember
      · exact (congrArg Prod.fst leftKey).trans
          (sameSession.trans (congrArg Prod.fst rightKey).symm)
      · exact leftOrdinal.trans (sameOrdinal.trans rightOrdinal.symm)
    subst same
    exact Table.eq_of_key leftMember rightMember (leftKey.symm.trans rightKey)

theorem Numbered.of_rows {before after : TransportQueueStore} (numbered : Numbered before)
    (old : ∀ row, row ∈ after.queueEntries → ∃ earlier, earlier ∈ before.queueEntries ∧
      earlier.key = row.key ∧ earlier.ordinal = row.ordinal)
    (sameMeta : after.queueMeta = before.queueMeta) : Numbered after :=
  numbered.of_old old fun _ _ held found => ⟨held, sameMeta ▸ found, Nat.le_refl _⟩

theorem Numbered.empty : Numbered .empty :=
  ⟨fun _ member => False.elim (Table.not_mem_empty member),
    fun _ member => False.elim (Table.not_mem_empty member)⟩

theorem Paired.empty : Paired .empty :=
  fun _ member => False.elim (Table.not_mem_empty member)

theorem Paired.deleteWhere {before : TransportQueueStore} (paired : Paired before)
    {p : QueueEntryRow → Bool} {q : QueuePrivateMaterialRow → Bool}
    (whole : ∀ row, row ∈ before.queueEntries → ∀ held, held ∈ before.queuePrivateMaterial →
      held.key = row.key → held.recipient = row.recipient → q held = p row)
    {after : TransportQueueStore} (entries : after.queueEntries = before.queueEntries.deleteWhere p)
    (material : after.queuePrivateMaterial = before.queuePrivateMaterial.deleteWhere q) :
    Paired after := by
  intro held member
  rw [material] at member
  obtain ⟨heldMember, spared⟩ := Table.mem_deleteWhere.mp member
  obtain ⟨row, rowMember, sameKey, sameRecipient⟩ := paired held heldMember
  refine ⟨row, ?_, sameKey, sameRecipient⟩
  rw [entries]
  refine Table.mem_deleteWhere.mpr ⟨rowMember, ?_⟩
  rw [← whole row rowMember held heldMember sameKey.symm sameRecipient.symm]
  exact spared

theorem Paired.inSession_deleted {before after : TransportQueueStore} (paired : Paired before)
    {session : String}
    (entries : after.queueEntries = before.queueEntries.deleteWhere (inSession session))
    (material : after.queuePrivateMaterial =
      before.queuePrivateMaterial.deleteWhere (inSession session)) : Paired after := by
  refine paired.deleteWhere ?_ entries material
  intro row _ held _ sameKey _
  change decide (held.sessionName = session) = decide (row.sessionName = session)
  rw [show held.sessionName = row.sessionName from congrArg Prod.fst sameKey]

section Host

variable [Host] {allowed : Footprint} {before after : TransportQueueStore}

theorem Change.numbered (change : Change allowed before after) (numbered : Numbered before) :
    Numbered after := by
  have kept : ∀ row, row ∈ before.queueEntries → ∃ earlier, earlier ∈ before.queueEntries ∧
      earlier.key = row.key ∧ earlier.ordinal = row.ordinal :=
    fun row member => ⟨row, member, rfl, rfl⟩
  cases change with
  | issue => exact numbered.of_rows kept rfl
  | mint minted absent queueEpoch queueAuthorityId =>
    refine numbered.of_old kept fun row member held found => ?_
    refine ⟨held, ?_, Nat.le_refl _⟩
    have different : minted.sessionName ≠ row.sessionName := by
      intro same
      rw [same] at absent
      cases absent.symm.trans found
    exact (Table.lookup_insertOrIgnore_other different).trans found
  | touchMeta p update keeps keptMeta =>
    refine numbered.of_old kept fun row member held found => ?_
    refine ⟨if p held then update held else held, ?_, ?_⟩
    · rw [@Table.lookup_updateWhere _ _ _ _ _ _ _ keeps _, found]
      rfl
    · split
      · next selected =>
          exact (keptMeta held (Table.lookup_eq_some_iff.mp found).1 selected).nextOrdinal.ge
      · exact Nat.le_refl _
  | renew session permitted | wipe session permitted =>
    refine numbered.of_old (fun row member => kept row (Table.mem_deleteWhere.mp member).1) ?_
    intro row member held found
    have different : session ≠ row.sessionName := by
      have spared := (Table.mem_deleteWhere.mp member).2
      exact fun same => (decide_eq_false_iff_not.mp spared) same.symm
    refine ⟨held, Eq.trans ?_ found, Nat.le_refl _⟩
    first
    | exact lookup_renewMeta_other different
    | exact lookup_deleteSessionQueueStateRows_other different
  | insert row held inserted material permitted home ordinal reference unleased queued owned accepted =>
    have taken : ∀ session, (before.takeOrdinal row.sessionName).queueMeta.lookup session =
        (before.queueMeta.lookup session).map fun held =>
          if decide (held.sessionName = row.sessionName) then
            { held with nextOrdinal := held.nextOrdinal + 1 } else held :=
      fun session => lookup_takeOrdinal
    have named : held.sessionName = row.sessionName := (Table.lookup_eq_some_iff.mp home).2
    have low : ∀ other, other ∈ before.queueEntries → other.sessionName = row.sessionName →
        other.ordinal < row.ordinal := by
      intro other member sameSession
      obtain ⟨otherHeld, found, below⟩ := numbered.home other member
      rw [sameSession] at found
      cases found.symm.trans home
      omega
    refine ⟨?_, ?_⟩
    · intro other member
      rcases (Table.mem_insert accepted).mp member with oldMember | rfl
      · obtain ⟨otherHeld, found, below⟩ := numbered.home other oldMember
        refine ⟨_, (taken other.sessionName).trans (congrArg _ found), ?_⟩
        dsimp only
        split
        · exact Nat.lt_succ_of_lt below
        · exact below
      · refine ⟨_, (taken other.sessionName).trans (congrArg _ home), ?_⟩
        dsimp only
        rw [if_pos (decide_eq_true named), ordinal]
        exact Nat.lt_succ_self _
    · intro left leftMember right rightMember sameSession sameOrdinal
      rcases (Table.mem_insert accepted).mp leftMember with leftOld | rfl
      · rcases (Table.mem_insert accepted).mp rightMember with rightOld | rfl
        · exact numbered.distinct left leftOld right rightOld sameSession sameOrdinal
        · exact absurd sameOrdinal (low left leftOld sameSession).ne
      · rcases (Table.mem_insert accepted).mp rightMember with rightOld | rfl
        · exact absurd sameOrdinal.symm (low right rightOld sameSession.symm).ne
        · rfl
  | update p update keeps keptEntry =>
    refine numbered.of_rows ?_ rfl
    intro row member
    obtain ⟨old, oldMember, rfl⟩ := mem_updateEntries.mp member
    refine ⟨old, oldMember, ?_⟩
    split
    · next selected => exact ⟨(keeps old).symm, (keptEntry old selected).ordinal.symm⟩
    · exact ⟨rfl, rfl⟩
  | remove p q whole =>
    exact numbered.of_rows (fun row member => kept row (Table.mem_deleteWhere.mp member).1) rfl
  | purge p timeless legacy permitted =>
    exact numbered.of_rows (fun row member => kept row (Table.mem_deleteWhere.mp member).1) rfl
  | restamp p recipient timeless own =>
    refine numbered.of_rows ?_ rfl
    intro row member
    obtain ⟨old, oldMember, rfl⟩ := mem_restampedEntries.mp member
    refine ⟨old, oldMember, ?_⟩
    split
    · exact ⟨rfl, rfl⟩
    · exact ⟨rfl, rfl⟩
  | strip | rewrite | deliver | prune | cancel => exact numbered.of_rows kept rfl

theorem Change.paired (change : Change allowed before after) (paired : Paired before) :
    Paired after := by
  cases change with
  | renew session permitted => exact @Paired.inSession_deleted _ _ paired session rfl rfl
  | wipe session permitted => exact @Paired.inSession_deleted _ _ paired session rfl rfl
  | insert row held inserted material permitted home ordinal reference unleased queued owned accepted =>
    have kept : ∀ other, other ∈ before.queueEntries → other ∈ inserted :=
      fun other member => (Table.mem_insert accepted).mpr (.inl member)
    have old : ∀ other, other ∈ before.queuePrivateMaterial → ∃ row, row ∈ inserted ∧
        row.key = other.key ∧ row.recipient = other.recipient := by
      intro other member
      obtain ⟨owner, ownerMember, same⟩ := paired other member
      exact ⟨owner, kept owner ownerMember, same⟩
    intro other member
    cases material with
    | none => exact old other member
    | some given =>
      rcases Table.mem_insertOrReplace.mp member with ⟨oldMember, _⟩ | isNew
      · exact old other oldMember
      · subst isNew
        obtain ⟨sameKey, sameRecipient⟩ := owned other rfl
        exact ⟨row, (Table.mem_insert accepted).mpr (.inr rfl), sameKey.symm,
          sameRecipient.symm⟩
  | update p update keeps keptEntry =>
    intro held member
    obtain ⟨row, rowMember, sameKey, sameRecipient⟩ := paired held member
    refine ⟨_, mem_updateEntries.mpr ⟨row, rowMember, rfl⟩, ?_⟩
    split
    · next selected =>
        exact ⟨(keeps row).trans sameKey, (keptEntry row selected).recipient.trans sameRecipient⟩
    · exact ⟨sameKey, sameRecipient⟩
  | remove p q whole => exact paired.deleteWhere whole rfl rfl
  | strip q spared => exact fun held member => paired held (Table.mem_deleteWhere.mp member).1
  | rewrite p update keeps keptRecipient =>
    intro held member
    obtain ⟨old, oldMember, rfl⟩ := List.mem_map.mp member
    obtain ⟨row, rowMember, sameKey, sameRecipient⟩ := paired old oldMember
    refine ⟨row, rowMember, ?_⟩
    split
    · exact ⟨sameKey.trans (keeps old).symm, sameRecipient.trans (keptRecipient old).symm⟩
    · exact ⟨sameKey, sameRecipient⟩
  | purge p timeless legacy permitted =>
    refine paired.deleteWhere ?_ rfl rfl
    intro row _ held _ sameKey sameRecipient
    exact timeless _ _ (congrArg Prod.fst sameKey) (congrArg Prod.snd sameKey) sameRecipient
  | restamp p recipient timeless own =>
    intro held member
    obtain ⟨old, oldMember, rfl⟩ := mem_restampedMaterial.mp member
    obtain ⟨row, rowMember, sameKey, sameRecipient⟩ := paired old oldMember
    refine ⟨_, mem_restampedEntries.mpr ⟨row, rowMember, rfl⟩, ?_⟩
    have alike : p (asMessageRow row) = p (asMessageRow old) :=
      timeless _ _ (congrArg Prod.fst sameKey) (congrArg Prod.snd sameKey) sameRecipient
    rw [alike]
    split
    · exact ⟨sameKey, rfl⟩
    · exact ⟨sameKey, sameRecipient⟩
  | issue | mint | touchMeta | deliver | prune | cancel => exact paired

def Leased (store : TransportQueueStore) : Prop :=
  ∀ row, row ∈ store.queueEntries → ∀ handoffId, row.handoffId = some handoffId →
    store.Issued handoffId

theorem Issued.mono {uuid : String} (issued : before.Issued uuid)
    (grown : before.uuidsIssued ≤ after.uuidsIssued) : after.Issued uuid := by
  obtain ⟨index, below, isUUID⟩ := issued
  exact ⟨index, Nat.lt_of_lt_of_le below grown, isUUID⟩

theorem not_issued_freshUUID {store : TransportQueueStore} : ¬ store.Issued store.freshUUID.2 := by
  rintro ⟨index, below, isUUID⟩
  exact absurd (Host.randomUUID_injective isUUID) (Nat.ne_of_gt below)

theorem Change.leased (change : Change allowed before after) (leased : Leased before) :
    Leased after := by
  have kept : ∀ row, row ∈ before.queueEntries → ∀ handoffId, row.handoffId = some handoffId →
      before.uuidsIssued ≤ after.uuidsIssued → after.Issued handoffId :=
    fun row member handoffId found grown => (leased row member handoffId found).mono grown
  intro row member handoffId found
  cases change with
  | issue => exact kept row member handoffId found (Nat.le_succ _)
  | mint => exact kept row member handoffId found (Nat.le_add_right _ 2)
  | renew =>
    exact kept row (Table.mem_deleteWhere.mp member).1 handoffId found (Nat.le_add_right _ 2)
  | insert other held inserted material permitted home ordinal reference unleased queued owned accepted =>
    rcases (Table.mem_insert accepted).mp member with old | rfl
    · exact kept row old handoffId found (Nat.le_refl _)
    · cases unleased.symm.trans found
  | update p update keeps keptEntry =>
    obtain ⟨old, oldMember, rfl⟩ := mem_updateEntries.mp member
    split at found
    · next selected =>
        rcases (keptEntry old selected).handoff handoffId found with same | issued
        · exact kept old oldMember handoffId same (Nat.le_refl _)
        · exact issued
    · exact kept old oldMember handoffId found (Nat.le_refl _)
  | wipe | remove | purge =>
    exact kept row (Table.mem_deleteWhere.mp member).1 handoffId found (Nat.le_refl _)
  | restamp p recipient timeless own =>
    obtain ⟨old, oldMember, rfl⟩ := mem_restampedEntries.mp member
    split at found
    · exact kept old oldMember handoffId found (Nat.le_refl _)
    · exact kept old oldMember handoffId found (Nat.le_refl _)
  | touchMeta | strip | rewrite | deliver | prune | cancel =>
    exact kept row member handoffId found (Nat.le_refl _)

def Undispatched (store : TransportQueueStore) : Prop :=
  ∀ row, row ∈ store.queueEntries → row.status ≠ .dispatching

theorem Change.undispatched (change : Change allowed before after)
    (undispatched : Undispatched before) : Undispatched after := by
  intro row member
  cases change with
  | renew | wipe | remove | purge => exact undispatched row (Table.mem_deleteWhere.mp member).1
  | insert other held inserted material permitted home ordinal reference unleased queued owned
      accepted =>
      rcases (Table.mem_insert accepted).mp member with old | rfl
      · exact undispatched row old
      · rw [queued]
        exact fun impossible => by cases impossible
  | update p update keeps keptEntry =>
    obtain ⟨old, oldMember, rfl⟩ := mem_updateEntries.mp member
    split
    · next selected =>
        exact fun given => undispatched old oldMember ((keptEntry old selected).undispatched given)
    · exact undispatched old oldMember
  | restamp p recipient timeless own =>
    obtain ⟨old, oldMember, rfl⟩ := mem_restampedEntries.mp member
    split
    · exact undispatched old oldMember
    · exact undispatched old oldMember
  | issue | mint | touchMeta | strip | rewrite | deliver | prune | cancel =>
    exact undispatched row member

theorem reachable_undispatched {store : TransportQueueStore} (reachable : Reachable store) :
    Undispatched store :=
  Library.Reachable.invariant (fun _ member => False.elim (Table.not_mem_empty member))
    (fun store operation => (next_changes store operation).preserves fun _ _ => Change.undispatched)
    reachable

theorem reachable_leased {store : TransportQueueStore} (reachable : Reachable store) :
    Leased store :=
  Library.Reachable.invariant (fun _ member => False.elim (Table.not_mem_empty member))
    (fun store operation => (next_changes store operation).preserves fun _ _ => Change.leased)
    reachable

theorem reachable_numbered {store : TransportQueueStore} (reachable : Reachable store) :
    Numbered store :=
  Library.Reachable.invariant Numbered.empty
    (fun store operation => (next_changes store operation).preserves fun _ _ => Change.numbered)
    reachable

theorem reachable_paired {store : TransportQueueStore} (reachable : Reachable store) :
    Paired store :=
  Library.Reachable.invariant Paired.empty
    (fun store operation => (next_changes store operation).preserves fun _ _ => Change.paired)
    reachable

end Host

end TransportQueueStore

end ImCodes.Queue
