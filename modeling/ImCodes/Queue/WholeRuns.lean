import ImCodes.Queue.Store.Invariants

/-!
# The store over whole runs

An epoch belongs to one session, and one that a session has left never comes back. Whatever is
called, the tables stay consistent with one another.
-/

set_option autoImplicit false

namespace ImCodes.Queue

open Library

namespace TransportQueueStore

section Host

variable [Host]

theorem QueueMetaRow.MintedAt.sameIndex {left right : QueueMetaRow} {index other : Nat}
    (leftMinted : left.MintedAt index) (rightMinted : right.MintedAt other)
    (same : left.queueEpoch = right.queueEpoch) : index = other :=
  Host.randomUUID_injective
    (leftMinted.queueEpoch.symm.trans (same.trans rightMinted.queueEpoch))

/-- Metadata rows that share an epoch or an authority are one row. -/
structure EpochsApart (store : TransportQueueStore) : Prop where
  minted : Minted store
  apart : ∀ left, left ∈ store.queueMeta → ∀ right, right ∈ store.queueMeta →
    left.queueEpoch = right.queueEpoch ∨ left.queueAuthorityId = right.queueAuthorityId →
    left = right

/-- A change leaves the epochs of the sessions alone or mints one for a single session. -/
theorem Change.queueMeta_cases {allowed : Footprint} {before after : TransportQueueStore}
    (change : Change allowed before after) :
    ∃ renewed, ∀ row, row ∈ after.queueMeta →
      (∃ old, old ∈ before.queueMeta ∧ old.sessionName = row.sessionName ∧
        old.queueEpoch = row.queueEpoch ∧ old.queueAuthorityId = row.queueAuthorityId) ∨
      row.sessionName = renewed ∧ row.MintedAt before.uuidsIssued := by
  have kept : ∀ row, row ∈ before.queueMeta → ∃ old, old ∈ before.queueMeta ∧
      old.sessionName = row.sessionName ∧ old.queueEpoch = row.queueEpoch ∧
      old.queueAuthorityId = row.queueAuthorityId :=
    fun row member => ⟨row, member, rfl, rfl, rfl⟩
  cases change with
  | mint minted absent queueEpoch queueAuthorityId =>
    refine ⟨minted.sessionName, fun row member => ?_⟩
    rcases Table.mem_insertOrIgnore.mp member with old | ⟨rfl, _⟩
    · exact .inl (kept row old)
    · exact .inr ⟨rfl, queueEpoch, queueAuthorityId⟩
  | touchMeta p update keeps keptMeta =>
    refine ⟨"", fun row member => .inl ?_⟩
    dsimp only at member
    obtain ⟨old, oldMember, rfl⟩ := Table.mem_updateWhere.mp member
    split
    · next selected =>
        have keepsOld := keptMeta old oldMember selected
        exact ⟨old, oldMember, (keeps old).symm, keepsOld.queueEpoch.symm,
          keepsOld.queueAuthorityId.symm⟩
    · exact kept old oldMember
  | renew session permitted =>
    refine ⟨session, fun row member => ?_⟩
    unfold renewMeta at member
    split at member
    · rcases Table.mem_insertOrIgnore.mp member with old | ⟨rfl, _⟩
      · exact .inl (kept row old)
      · exact .inr ⟨rfl, rfl, rfl⟩
    · dsimp only at member
      obtain ⟨old, oldMember, rfl⟩ := Table.mem_updateWhere.mp member
      split
      · next selected => exact .inr ⟨of_decide_eq_true selected, rfl, rfl⟩
      · exact .inl (kept old oldMember)
  | wipe session permitted =>
    exact ⟨"", fun row member => .inl (kept row (Table.mem_deleteWhere.mp member).1)⟩
  | insert entry held inserted material permitted home ordinal reference unleased queued owned
      accepted =>
      refine ⟨"", fun row member => .inl ?_⟩
      obtain ⟨old, oldMember, rfl⟩ := mem_takeOrdinal.mp member
      split
      · exact kept old oldMember
      · exact kept old oldMember
  | issue | update | remove | strip | rewrite | deliver | prune | cancel | purge | restamp =>
    exact ⟨"", fun row member => .inl (kept row member)⟩

theorem Minted.below {store : TransportQueueStore} (minted : Minted store) {row : QueueMetaRow}
    (member : row ∈ store.queueMeta) {other : QueueMetaRow}
    (otherMinted : other.MintedAt store.uuidsIssued) :
    row.queueEpoch ≠ other.queueEpoch ∧ row.queueAuthorityId ≠ other.queueAuthorityId := by
  obtain ⟨index, used, rowMinted⟩ := minted row member
  constructor
  · intro same
    have sameIndex := QueueMetaRow.MintedAt.sameIndex rowMinted otherMinted same
    omega
  · intro same
    have sameIndex := Host.randomUUID_injective
      (rowMinted.queueAuthorityId.symm.trans (same.trans otherMinted.queueAuthorityId))
    omega

theorem Change.epochsApart {allowed : Footprint} {before after : TransportQueueStore}
    (change : Change allowed before after) (held : EpochsApart before) : EpochsApart after := by
  obtain ⟨renewed, cases_⟩ := change.queueMeta_cases
  refine ⟨change.minted held.minted, fun left leftMember right rightMember same => ?_⟩
  apply Table.eq_of_key leftMember rightMember
  rcases cases_ left leftMember with
    ⟨oldLeft, oldLeftMember, leftNamed, leftEpoch, leftAuthority⟩ | ⟨leftNamed, leftNew⟩
  · rw [← leftNamed]
    rcases cases_ right rightMember with
      ⟨oldRight, oldRightMember, rightNamed, rightEpoch, rightAuthority⟩ | ⟨rightNamed, rightNew⟩
    · rw [← leftEpoch, ← leftAuthority, ← rightEpoch, ← rightAuthority] at same
      rw [← rightNamed, held.apart oldLeft oldLeftMember oldRight oldRightMember same]
    · obtain ⟨otherEpoch, otherAuthority⟩ := held.minted.below oldLeftMember rightNew
      rw [← leftEpoch, ← leftAuthority] at same
      exact False.elim (same.elim otherEpoch otherAuthority)
  · rcases cases_ right rightMember with
      ⟨oldRight, oldRightMember, rightNamed, rightEpoch, rightAuthority⟩ | ⟨rightNamed, rightNew⟩
    · obtain ⟨otherEpoch, otherAuthority⟩ := held.minted.below oldRightMember leftNew
      rw [← rightEpoch, ← rightAuthority] at same
      exact False.elim (same.elim (fun epoch => otherEpoch epoch.symm)
        fun authority => otherAuthority authority.symm)
    · exact leftNamed.trans rightNamed.symm

theorem reachable_epochsApart {store : TransportQueueStore} (reachable : Reachable store) :
    EpochsApart store :=
  Library.Reachable.invariant
    ⟨fun _ member => False.elim (Table.not_mem_empty member),
      fun _ member => False.elim (Table.not_mem_empty member)⟩
    (fun store operation =>
      (next_changes store operation).preserves fun _ _ => Change.epochsApart)
    reachable

/-- An epoch or an authority seen at two points of a run is that of one session at both, and the
session has gone on in it in between. -/
theorem epochs_never_shared {store : TransportQueueStore} (reachable : Reachable store)
    (operations : List Operation) {session other : String} {held later : QueueMetaRow}
    (found : store.queueMeta.lookup session = some held)
    (laterFound : (run next store operations).queueMeta.lookup other = some later)
    (same : later.queueEpoch = held.queueEpoch ∨ later.queueAuthorityId = held.queueAuthorityId) :
    other = session ∧ later.queueEpoch = held.queueEpoch ∧
      later.queueAuthorityId = held.queueAuthorityId ∧
      held.pendingMessageVersion ≤ later.pendingMessageVersion ∧
      held.nextOrdinal ≤ later.nextOrdinal := by
  obtain ⟨member, named⟩ := Table.lookup_eq_some_iff.mp found
  rcases (run_advances store operations other).epoch with ⟨middle, last, goesOn⟩ | isNew
  · cases goesOn.laterFound.symm.trans laterFound
    obtain ⟨middleMember, middleNamed⟩ := Table.lookup_eq_some_iff.mp goesOn.found
    rw [goesOn.queueEpoch, goesOn.queueAuthorityId] at same
    have one := (reachable_epochsApart reachable).apart middle middleMember held member same
    subst one
    exact ⟨middleNamed.symm.trans named, goesOn.queueEpoch, goesOn.queueAuthorityId,
      goesOn.version, goesOn.nextOrdinal⟩
  · obtain ⟨index, fresh, minted⟩ := isNew later laterFound
    obtain ⟨earlier, rfl⟩ := reachable
    obtain ⟨before, used, heldMinted⟩ := run_minted earlier held member
    exfalso
    rcases same with sameEpoch | sameAuthority
    · have sameIndex := QueueMetaRow.MintedAt.sameIndex minted heldMinted sameEpoch
      omega
    · have sameIndex := Host.randomUUID_injective
        (minted.queueAuthorityId.symm.trans (sameAuthority.trans heldMinted.queueAuthorityId))
      omega

/-! ## Whole runs -/

/-- Each queued message has a number of its own that its session has given out, is never stored as
being dispatched, and is leased under an id the store has issued; private material is that of a
queued message for the same recipient; and epochs are apart. -/
structure Consistent (store : TransportQueueStore) : Prop where
  numbered : Numbered store
  undispatched : Undispatched store
  leased : Leased store
  paired : Paired store
  epochsApart : EpochsApart store

theorem queue_stays_consistent (operations : List Operation) :
    Consistent (run next empty operations) := by
  have reachable : Reachable (run next empty operations) := ⟨operations, rfl⟩
  constructor
  · exact reachable_numbered reachable
  · exact reachable_undispatched reachable
  · exact reachable_leased reachable
  · exact reachable_paired reachable
  · exact reachable_epochsApart reachable

end Host

section FixedRuns

open Library.FixedRuns

private def otherSession : Operation :=
  .enqueue 0 { plainMessage none "m1" 2 with sessionName := "other" }

theorem epochs_never_shared_enqueued :
    "deck" = "deck" ∧ "u" = "u" ∧ "uu" = "uu" ∧ 1 ≤ 2 ∧ 1 ≤ 2 :=
  @epochs_never_shared _ (run next empty [.enqueue 0 (plainMessage none "m1" 1)]) ⟨_, rfl⟩
    [otherSession, .enqueue 0 (plainMessage none "m2" 3)] "deck" "deck"
    ⟨"deck", "u", "uu", 1, 1, none, none⟩ ⟨"deck", "u", "uu", 2, 2, none, none⟩ (by decide)
    (by decide) (by decide)

end FixedRuns

end TransportQueueStore

end ImCodes.Queue
