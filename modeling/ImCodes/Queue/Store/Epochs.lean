import ImCodes.Queue.Store.Footprint

/-!
# Queue epochs

An epoch and its authority are minted together and never come back. Every change
either carries the epoch of a session on, its version and ordinals only growing, or
leaves the session without metadata or with an epoch minted by that change.
-/

set_option autoImplicit false

namespace ImCodes.Queue

open Library

/-- The epoch and authority minted together at one point of the UUID stream. -/
structure QueueMetaRow.MintedAt [Host] (row : QueueMetaRow) (index : Nat) : Prop where
  queueEpoch : row.queueEpoch = Host.randomUUID index
  queueAuthorityId : row.queueAuthorityId = Host.randomUUID (index + 1)

namespace TransportQueueStore

/-- The same epoch, further on: no row enters below the ordinals already taken. -/
structure EpochGoesOn (session : String) (before after : TransportQueueStore)
    (held later : QueueMetaRow) : Prop where
  found : before.queueMeta.lookup session = some held
  laterFound : after.queueMeta.lookup session = some later
  queueEpoch : later.queueEpoch = held.queueEpoch
  queueAuthorityId : later.queueAuthorityId = held.queueAuthorityId
  version : held.pendingMessageVersion ≤ later.pendingMessageVersion
  nextOrdinal : held.nextOrdinal ≤ later.nextOrdinal
  rows : ∀ row, row ∈ after.queueEntries → row.sessionName = session →
    row.ordinal < held.nextOrdinal → ∃ old, old ∈ before.queueEntries ∧ old.key = row.key ∧
      old.ordinal = row.ordinal ∧ old.placement = row.placement ∧ old.createdAt = row.createdAt

theorem EpochGoesOn.refl {session : String} {store : TransportQueueStore} {held : QueueMetaRow}
    (found : store.queueMeta.lookup session = some held) :
    EpochGoesOn session store store held held :=
  ⟨found, found, rfl, rfl, Nat.le_refl _, Nat.le_refl _,
    fun row member _ _ => ⟨row, member, rfl, rfl, rfl, rfl⟩⟩

theorem EpochGoesOn.trans {session : String} {first second third : TransportQueueStore}
    {held middle other later : QueueMetaRow} (left : EpochGoesOn session first second held middle)
    (right : EpochGoesOn session second third other later) :
    EpochGoesOn session first third held later := by
  cases left.laterFound.symm.trans right.found
  refine ⟨left.found, right.laterFound, right.queueEpoch.trans left.queueEpoch,
    right.queueAuthorityId.trans left.queueAuthorityId, left.version.trans right.version,
    left.nextOrdinal.trans right.nextOrdinal, ?_⟩
  intro row member inside low
  obtain ⟨old, oldMember, sameKey, sameOrdinal, samePlacement, sameCreation⟩ :=
    right.rows row member inside (Nat.lt_of_lt_of_le low left.nextOrdinal)
  have oldInside : old.sessionName = session := (congrArg Prod.fst sameKey).trans inside
  obtain ⟨oldest, oldestMember, oldestKey, oldestOrdinal, oldestPlacement, oldestCreation⟩ :=
    left.rows old oldMember oldInside (sameOrdinal ▸ low)
  exact ⟨oldest, oldestMember, oldestKey.trans sameKey, oldestOrdinal.trans sameOrdinal,
    oldestPlacement.trans samePlacement, oldestCreation.trans sameCreation⟩

theorem lookup_deleteSessionQueueStateRows_other {store : TransportQueueStore}
    {session other : String} (different : session ≠ other) :
    (store.deleteSessionQueueStateRows session).queueMeta.lookup other =
      store.queueMeta.lookup other := by
  apply Table.lookup_eq_of_mem_iff
  intro row named
  change row ∈ store.queueMeta.deleteWhere _ ↔ row ∈ store.queueMeta
  rw [Table.mem_deleteWhere, decide_eq_false_iff_not]
  exact ⟨And.left, fun member => ⟨member, fun same => different (same.symm.trans named)⟩⟩

theorem lookup_takeOrdinal {store : TransportQueueStore} {session other : String} :
    (store.takeOrdinal session).queueMeta.lookup other =
      (store.queueMeta.lookup other).map fun row =>
        if decide (row.sessionName = session) then
          { row with nextOrdinal := row.nextOrdinal + 1 } else row := by
  simp only [takeOrdinal, Table.lookup_updateWhere]

section Host

variable [Host]

def Minted (store : TransportQueueStore) : Prop :=
  ∀ row, row ∈ store.queueMeta → ∃ index, index + 1 < store.uuidsIssued ∧ row.MintedAt index

def EpochIsNew (session : String) (before after : TransportQueueStore) : Prop :=
  ∀ later, after.queueMeta.lookup session = some later →
    ∃ index, before.uuidsIssued ≤ index ∧ later.MintedAt index

structure Advances (session : String) (before after : TransportQueueStore) : Prop where
  issued : before.uuidsIssued ≤ after.uuidsIssued
  epoch : (∃ held later, EpochGoesOn session before after held later) ∨
    EpochIsNew session before after

theorem EpochIsNew.mono {session : String} {first second third : TransportQueueStore}
    (issued : first.uuidsIssued ≤ second.uuidsIssued)
    (isNew : EpochIsNew session second third) : EpochIsNew session first third := by
  intro later found
  obtain ⟨index, fresh, minted⟩ := isNew later found
  exact ⟨index, issued.trans fresh, minted⟩

theorem EpochIsNew.advances {session : String} {first second third : TransportQueueStore}
    (isNew : EpochIsNew session first second) (issued : first.uuidsIssued ≤ second.uuidsIssued)
    (advances : Advances session second third) : EpochIsNew session first third := by
  rcases advances.epoch with ⟨held, middle, goesOn⟩ | newer
  · intro later found
    cases goesOn.laterFound.symm.trans found
    obtain ⟨index, fresh, minted⟩ := isNew held goesOn.found
    exact ⟨index, fresh, goesOn.queueEpoch.trans minted.queueEpoch,
      goesOn.queueAuthorityId.trans minted.queueAuthorityId⟩
  · exact newer.mono issued

theorem Advances.refl (session : String) (store : TransportQueueStore) :
    Advances session store store := by
  refine ⟨Nat.le_refl _, ?_⟩
  cases found : store.queueMeta.lookup session with
  | none =>
    right
    intro later impossible
    cases found.symm.trans impossible
  | some held => exact .inl ⟨held, held, .refl found⟩

theorem Advances.trans {session : String} {first second third : TransportQueueStore}
    (left : Advances session first second) (right : Advances session second third) :
    Advances session first third := by
  refine ⟨left.issued.trans right.issued, ?_⟩
  rcases left.epoch with ⟨held, middle, goesOn⟩ | isNew
  · rcases right.epoch with ⟨other, later, goesOnAgain⟩ | newer
    · exact .inl ⟨held, later, goesOn.trans goesOnAgain⟩
    · exact .inr (newer.mono left.issued)
  · exact .inr (isNew.advances left.issued right)

theorem Advances.isNew_of_none {session : String} {before after : TransportQueueStore}
    (advances : Advances session before after)
    (absent : before.queueMeta.lookup session = none) : EpochIsNew session before after := by
  rcases advances.epoch with ⟨held, later, goesOn⟩ | isNew
  · cases absent.symm.trans goesOn.found
  · exact isNew

/-- The epoch of a session is carried on, if it had one. -/
structure Carries (session : String) (before after : TransportQueueStore) : Prop where
  issued : before.uuidsIssued ≤ after.uuidsIssued
  goesOn : ∀ held, before.queueMeta.lookup session = some held →
    ∃ later, EpochGoesOn session before after held later
  isNew : before.queueMeta.lookup session = none → EpochIsNew session before after

theorem Carries.advances {session : String} {before after : TransportQueueStore}
    (carries : Carries session before after) : Advances session before after := by
  refine ⟨carries.issued, ?_⟩
  cases found : before.queueMeta.lookup session with
  | none => exact .inr (carries.isNew found)
  | some held =>
    obtain ⟨later, goesOn⟩ := carries.goesOn held found
    exact .inl ⟨held, later, goesOn⟩

theorem Carries.refl (session : String) (store : TransportQueueStore) :
    Carries session store store := by
  refine ⟨Nat.le_refl _, fun held found => ⟨held, .refl found⟩, ?_⟩
  intro absent later found
  cases absent.symm.trans found

theorem Carries.trans {session : String} {first second third : TransportQueueStore}
    (left : Carries session first second) (right : Carries session second third) :
    Carries session first third := by
  refine ⟨left.issued.trans right.issued, ?_, ?_⟩
  · intro held found
    obtain ⟨middle, goesOn⟩ := left.goesOn held found
    obtain ⟨later, goesOnAgain⟩ := right.goesOn middle goesOn.laterFound
    exact ⟨later, goesOn.trans goesOnAgain⟩
  · intro absent
    exact (left.isNew absent).advances left.issued right.advances

/-! ## One change -/

theorem carries_of_kept {session : String} {before after : TransportQueueStore}
    (issued : before.uuidsIssued ≤ after.uuidsIssued) (update : QueueMetaRow → QueueMetaRow)
    (lookup : after.queueMeta.lookup session = (before.queueMeta.lookup session).map update)
    (kept : ∀ held, before.queueMeta.lookup session = some held →
      (update held).queueEpoch = held.queueEpoch ∧
      (update held).queueAuthorityId = held.queueAuthorityId ∧
      held.pendingMessageVersion ≤ (update held).pendingMessageVersion ∧
      held.nextOrdinal ≤ (update held).nextOrdinal)
    (rows : ∀ held, before.queueMeta.lookup session = some held →
      ∀ row, row ∈ after.queueEntries → row.sessionName = session →
      row.ordinal < held.nextOrdinal → ∃ old, old ∈ before.queueEntries ∧ old.key = row.key ∧
        old.ordinal = row.ordinal ∧ old.placement = row.placement ∧ old.createdAt = row.createdAt) :
    Carries session before after := by
  refine ⟨issued, ?_, ?_⟩
  · intro held found
    obtain ⟨epoch, authority, version, ordinal⟩ := kept held found
    exact ⟨update held, found, by rw [lookup, found]; rfl, epoch, authority, version, ordinal,
      rows held found⟩
  · intro absent later found
    rw [lookup, absent] at found
    cases found

theorem carries_of_rows {session : String} {before after : TransportQueueStore}
    (issued : before.uuidsIssued = after.uuidsIssued)
    (sameMeta : after.queueMeta = before.queueMeta)
    (rows : ∀ row, row ∈ after.queueEntries → ∃ old, old ∈ before.queueEntries ∧
      old.key = row.key ∧ old.ordinal = row.ordinal ∧ old.placement = row.placement ∧
      old.createdAt = row.createdAt) :
    Carries session before after :=
  carries_of_kept issued.le id (by rw [sameMeta, Option.map_id]; rfl)
    (fun _ _ => ⟨rfl, rfl, Nat.le_refl _, Nat.le_refl _⟩)
    fun _ _ row member _ _ => rows row member

theorem lookup_renewMeta {store : TransportQueueStore} (session : String) :
    ∃ later, (store.renewMeta session).queueMeta.lookup session = some later ∧
      later.MintedAt store.uuidsIssued := by
  unfold renewMeta
  cases found : store.queueMeta.lookup session with
  | none => exact ⟨_, Table.lookup_insertOrIgnore_fresh found rfl, rfl, rfl⟩
  | some held =>
    have named : held.sessionName = session := (Table.lookup_eq_some_iff.mp found).2
    dsimp only
    rw [Table.lookup_updateWhere, found, Option.map_some, named, if_pos (decide_eq_true rfl)]
    exact ⟨_, rfl, rfl, rfl⟩

theorem lookup_renewMeta_other {store : TransportQueueStore} {session other : String}
    (different : session ≠ other) :
    (store.renewMeta session).queueMeta.lookup other = store.queueMeta.lookup other := by
  unfold renewMeta
  cases found : store.queueMeta.lookup session with
  | none => exact Table.lookup_insertOrIgnore_other different
  | some held =>
    dsimp only
    rw [Table.lookup_updateWhere]
    cases otherFound : store.queueMeta.lookup other with
    | none => rfl
    | some row =>
      have named : row.sessionName = other := (Table.lookup_eq_some_iff.mp otherFound).2
      simp [named, Ne.symm different]

theorem Change.carries_or_new {allowed : Footprint} {before after : TransportQueueStore}
    (change : Change allowed before after) (session : String) :
    Carries session before after ∨
      ((allowed.wipes session ∨ allowed.renews session) ∧
        before.uuidsIssued ≤ after.uuidsIssued ∧ EpochIsNew session before after) := by
  have keepsRow : ∀ row : QueueEntryRow, row ∈ before.queueEntries → ∃ old,
      old ∈ before.queueEntries ∧ old.key = row.key ∧ old.ordinal = row.ordinal ∧
        old.placement = row.placement ∧ old.createdAt = row.createdAt :=
    fun row member => ⟨row, member, rfl, rfl, rfl, rfl⟩
  cases change with
  | issue =>
    left
    exact carries_of_kept (Nat.le_succ _) id (by rw [Option.map_id]; rfl)
      (fun _ _ => ⟨rfl, rfl, Nat.le_refl _, Nat.le_refl _⟩)
      fun _ _ row member _ _ => keepsRow row member
  | mint minted absent queueEpoch queueAuthorityId =>
    left
    by_cases same : minted.sessionName = session
    · subst same
      refine ⟨Nat.le_add_right _ 2, ?_, ?_⟩
      · intro held found
        cases absent.symm.trans found
      · intro _ later found
        cases (Table.lookup_insertOrIgnore_fresh absent rfl).symm.trans found
        exact ⟨before.uuidsIssued, Nat.le_refl _, queueEpoch, queueAuthorityId⟩
    · exact carries_of_kept (Nat.le_add_right _ 2) id
        (by rw [Option.map_id]; exact Table.lookup_insertOrIgnore_other same)
        (fun _ _ => ⟨rfl, rfl, Nat.le_refl _, Nat.le_refl _⟩)
        fun _ _ row member _ _ => keepsRow row member
  | touchMeta p update keeps kept =>
    left
    refine carries_of_kept (Nat.le_refl _) (fun row => if p row then update row else row)
      (@Table.lookup_updateWhere _ _ _ _ _ _ _ keeps _) ?_
      fun _ _ row member _ _ => keepsRow row member
    intro held found
    split
    · next selected =>
        have keeps := kept held (Table.lookup_eq_some_iff.mp found).1 selected
        exact ⟨keeps.queueEpoch, keeps.queueAuthorityId, keeps.version, keeps.nextOrdinal.ge⟩
    · exact ⟨rfl, rfl, Nat.le_refl _, Nat.le_refl _⟩
  | renew other permitted =>
    by_cases same : other = session
    · subst same
      right
      refine ⟨.inr permitted, Nat.le_add_right _ 2, ?_⟩
      intro later found
      obtain ⟨renewed, renewedFound, minted⟩ :=
        @lookup_renewMeta _ (before.deleteSessionRows other) other
      cases renewedFound.symm.trans found
      exact ⟨before.uuidsIssued, Nat.le_refl _, minted⟩
    · left
      refine carries_of_kept (Nat.le_add_right _ 2) id
        (by rw [Option.map_id]; exact lookup_renewMeta_other same)
        (fun _ _ => ⟨rfl, rfl, Nat.le_refl _, Nat.le_refl _⟩) ?_
      intro _ _ row member _ _
      exact keepsRow row (Table.mem_deleteWhere.mp member).1
  | wipe other permitted =>
    by_cases same : other = session
    · subst same
      right
      refine ⟨.inl permitted, Nat.le_refl _, ?_⟩
      intro later found
      cases (lookup_deleteSessionQueueStateRows other).symm.trans found
    · left
      refine carries_of_kept (Nat.le_refl _) id
        (by rw [Option.map_id]; exact lookup_deleteSessionQueueStateRows_other same)
        (fun _ _ => ⟨rfl, rfl, Nat.le_refl _, Nat.le_refl _⟩) ?_
      intro _ _ row member _ _
      exact keepsRow row (Table.mem_deleteWhere.mp member).1
  | insert row held inserted material permitted home ordinal reference unleased queued owned accepted =>
    left
    refine carries_of_kept (Nat.le_refl _) _ lookup_takeOrdinal ?_ ?_
    · intro known _
      split
      · exact ⟨rfl, rfl, Nat.le_refl _, Nat.le_succ _⟩
      · exact ⟨rfl, rfl, Nat.le_refl _, Nat.le_refl _⟩
    · intro known found other member inside low
      rcases (Table.mem_insert accepted).mp member with oldMember | isNew
      · exact keepsRow other oldMember
      · subst isNew
        rw [inside] at home
        cases home.symm.trans found
        omega
  | update p update keeps kept =>
    left
    refine carries_of_rows (by rfl) (by rfl) ?_
    intro row member
    obtain ⟨old, oldMember, rfl⟩ := mem_updateEntries.mp member
    split
    · next selected =>
        have keepsOld := kept old selected
        exact ⟨old, oldMember, (keeps old).symm, keepsOld.ordinal.symm,
          keepsOld.placement.symm, keepsOld.createdAt.symm⟩
    · exact keepsRow old oldMember
  | remove p q whole =>
    left
    exact carries_of_rows rfl rfl fun row member =>
      keepsRow row (Table.mem_deleteWhere.mp member).1
  | strip q spared => exact .inl (carries_of_rows rfl rfl keepsRow)
  | rewrite p update keeps kept => exact .inl (carries_of_rows rfl rfl keepsRow)
  | deliver records permitted => exact .inl (carries_of_rows rfl rfl keepsRow)
  | prune now permitted => exact .inl (carries_of_rows rfl rfl keepsRow)
  | cancel row permitted own => exact .inl (carries_of_rows rfl rfl keepsRow)
  | purge p timeless legacy permitted =>
    left
    exact carries_of_rows rfl rfl fun row member =>
      keepsRow row (Table.mem_deleteWhere.mp member).1
  | restamp p recipient timeless own =>
    left
    refine carries_of_rows (by rfl) (by rfl) ?_
    intro row member
    obtain ⟨old, oldMember, rfl⟩ := mem_restampedEntries.mp member
    refine ⟨old, oldMember, ?_⟩
    split
    · exact ⟨rfl, rfl, rfl, rfl⟩
    · exact ⟨rfl, rfl, rfl, rfl⟩

/-! ## One call and whole runs -/

theorem Changes.carries {allowed : Footprint} {session : String}
    {before after : TransportQueueStore} (changes : Changes allowed before after)
    (noWipe : ¬ allowed.wipes session) (noRenew : ¬ allowed.renews session) :
    Carries session before after := by
  induction changes with
  | refl => exact .refl session before
  | tail _ change ih =>
    rcases change.carries_or_new session with carries | ⟨permitted, _⟩
    · exact ih.trans carries
    · rcases permitted with wipes | renews
      · exact False.elim (noWipe wipes)
      · exact False.elim (noRenew renews)

theorem Changes.advances {allowed : Footprint} {before after : TransportQueueStore}
    (changes : Changes allowed before after) (session : String) :
    Advances session before after := by
  induction changes with
  | refl => exact .refl session before
  | tail _ change ih =>
    rcases change.carries_or_new session with carries | ⟨_, issued, isNew⟩
    · exact ih.trans carries.advances
    · exact ih.trans ⟨issued, .inr isNew⟩

theorem next_advances (store : TransportQueueStore) (operation : Operation) (session : String) :
    Advances session store (store.next operation) :=
  (next_changes store operation).advances session

theorem run_advances (store : TransportQueueStore) (operations : List Operation)
    (session : String) : Advances session store (run next store operations) :=
  run_related (Advances.refl session) (fun _ _ _ => Advances.trans)
    (fun store operation => next_advances store operation session) store operations

theorem Change.minted {allowed : Footprint} {before after : TransportQueueStore}
    (change : Change allowed before after) (minted : Minted before) : Minted after := by
  have grown : ∀ (row : QueueMetaRow) (issued : Nat), row ∈ before.queueMeta →
      before.uuidsIssued ≤ issued → ∃ index, index + 1 < issued ∧ row.MintedAt index := by
    intro row issued member bound
    obtain ⟨index, used, isMinted⟩ := minted row member
    exact ⟨index, by omega, isMinted⟩
  cases change with
  | issue => exact fun row member => grown row _ member (Nat.le_succ _)
  | mint fresh absent queueEpoch queueAuthorityId =>
    intro row member
    rcases Table.mem_insertOrIgnore.mp member with kept | ⟨rfl, _⟩
    · exact grown row _ kept (Nat.le_add_right _ 2)
    · exact ⟨before.uuidsIssued, Nat.lt_succ_self _, queueEpoch, queueAuthorityId⟩
  | touchMeta p update keeps kept =>
    intro row member
    obtain ⟨old, oldMember, rfl⟩ := List.mem_map.mp member
    obtain ⟨index, used, isMinted⟩ := minted old oldMember
    refine ⟨index, used, ?_⟩
    split
    · next selected =>
        have keepsOld := kept old oldMember selected
        exact ⟨keepsOld.queueEpoch.trans isMinted.queueEpoch,
          keepsOld.queueAuthorityId.trans isMinted.queueAuthorityId⟩
    · exact isMinted
  | renew session permitted =>
    intro row member
    unfold renewMeta at member
    split at member
    · rcases Table.mem_insertOrIgnore.mp member with kept | ⟨rfl, _⟩
      · exact grown row _ kept (Nat.le_add_right _ 2)
      · exact ⟨before.uuidsIssued, Nat.lt_succ_self _, rfl, rfl⟩
    · dsimp only at member
      obtain ⟨old, oldMember, rfl⟩ := Table.mem_updateWhere.mp member
      split
      · exact ⟨before.uuidsIssued, Nat.lt_succ_self _, rfl, rfl⟩
      · exact grown old _ oldMember (Nat.le_add_right _ 2)
  | wipe session permitted =>
    exact fun row member => minted row (Table.mem_deleteWhere.mp member).1
  | insert row held inserted material permitted home ordinal reference unleased queued owned accepted =>
    intro known member
    obtain ⟨old, oldMember, rfl⟩ := mem_takeOrdinal.mp member
    obtain ⟨index, used, isMinted⟩ := minted old oldMember
    refine ⟨index, used, ?_⟩
    split
    · exact ⟨isMinted.queueEpoch, isMinted.queueAuthorityId⟩
    · exact isMinted
  | update | remove | strip | rewrite | deliver | prune | cancel | purge | restamp => exact minted

theorem run_minted (operations : List Operation) : Minted (run next empty operations) :=
  Reachable.invariant (fun _ member => False.elim (Table.not_mem_empty member))
    (fun store operation => (next_changes store operation).preserves fun _ _ => Change.minted)
    ⟨operations, rfl⟩

end Host

end TransportQueueStore

end ImCodes.Queue
