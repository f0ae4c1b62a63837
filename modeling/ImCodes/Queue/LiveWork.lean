import ImCodes.Library.Sorting
import ImCodes.Queue.Store.Material
import Mathlib.Data.Prod.Lex

/-!
# Live work

A live row keeps the private material it was enqueued with, and the rows of a session
are listed in the order in which they were enqueued. One call breaks the first: the
dismissal of a failed message deletes the material of a live one as well.
-/

set_option autoImplicit false

namespace ImCodes.Queue

open Library

namespace Operation

/-- The call is an edit that finds the material of the message corrupt. -/
def FindsCorrupt (store : TransportQueueStore) (key : String × String) : Operation → Prop
  | .edit sessionName clientMessageId _ _ _ => key = (trim sessionName, trim clientMessageId) ∧
      store.holdsCorruptMaterial (trim sessionName) (trim clientMessageId) = true
  | _ => False

/-- The call dismisses, as failed, a message whose row is live. -/
def DismissesLive (store : TransportQueueStore) : Operation → Prop
  | .dismissFailed sessionName clientMessageId _ => ∃ row, row ∈ store.queueEntries ∧
      row.key = (trim sessionName, trim clientMessageId) ∧ row.status.isLive = true
  | _ => False

theorem strips_of_footprint [Host] {store : TransportQueueStore} {operation : Operation}
    {key : String × String} (strips : (operation.footprint store).strips key) :
    (operation.FindsCorrupt store key ∨ operation.DismissesLive store) ∧
      ∀ row, ¬ (operation.footprint store).inserts row := by
  cases operation with
  | edit sessionName clientMessageId text now replacement => exact ⟨.inl strips, fun _ => id⟩
  | dismissFailed sessionName clientMessageId now =>
    obtain ⟨rfl, row, member, isTarget, live⟩ := strips
    exact ⟨.inr ⟨row, member, isTarget, live⟩, fun _ => id⟩
  | _ => exact False.elim strips

end Operation

namespace TransportQueueStore

theorem readRows_apart {store : TransportQueueStore} (numbered : Numbered store) (session : String)
    (recipientFilter : Option (Option QueueRecipientIdentity)) :
    (store.readRows session recipientFilter).Pairwise fun left right =>
      left.position.ordinal ≠ right.position.ordinal := by
  refine (readRows_pairwise store session recipientFilter).imp_of_mem ?_
  intro left right leftListed rightListed different same
  obtain ⟨leftMember, leftSession, _⟩ := mem_readRows leftListed
  obtain ⟨rightMember, rightSession, _⟩ := mem_readRows rightListed
  exact different (congrArg QueueEntryRow.key (numbered.distinct left.row leftMember right.row
    rightMember (leftSession.trans rightSession.symm) (Int.ofNat.inj same)))

section Host

variable [Host]

def FoundCorrupt (operations : List Operation) (row : QueueEntryRow) : Prop :=
  ∃ earlier operation later, operations = earlier ++ operation :: later ∧
    operation.FindsCorrupt (run next empty earlier) row.key ∧
    Held (run next empty earlier) (run next empty operations) row

def EnqueuedBefore (operations : List Operation) (first second : QueueEntryRow) : Prop :=
  ∃ earlier later, operations = earlier ++ later ∧
    Held (run next empty earlier) (run next empty operations) first ∧
    ¬ Held (run next empty earlier) (run next empty operations) second

/-! ## Material -/

theorem FoundCorrupt.later {operations : List Operation} {operation : Operation}
    {old row : QueueEntryRow} {allowed : Footprint} (found : FoundCorrupt operations old)
    (comes : ComesFrom allowed (run next empty operations)
      (run next empty (operations ++ [operation])) old row) :
    FoundCorrupt (operations ++ [operation]) row := by
  obtain ⟨earlier, edit, later, rfl, corrupt, oldest, member, sameKey, sameOrdinal, epoch⟩ := found
  refine ⟨earlier, edit, later ++ [operation], List.append_assoc _ _ _, comes.key ▸ corrupt,
    oldest, member, sameKey.trans comes.key, sameOrdinal.trans comes.ordinal, ?_⟩
  exact (comes.sessionName ▸ epoch).trans comes.epoch

theorem run_keeps_material (operations : List Operation)
    (spares : Meets next (fun store operation => ¬ operation.DismissesLive store) empty
      operations) :
    ∀ row, row ∈ (run next empty operations).queueEntries → row.status.isLive = true →
      row.privateMaterialRef.isSome = true →
      (run next empty operations).HasMaterial row ∨ FoundCorrupt operations row := by
  induction operations using List.reverseRecOn with
  | nil => exact fun row member => False.elim (Table.not_mem_empty member)
  | append_singleton operations operation ih =>
    intro row member live referenced
    obtain ⟨spares, sparesLast, _⟩ := meets_append.mp spares
    have last : run next empty (operations ++ [operation]) =
        (run next empty operations).next operation := run_append next empty operations [operation]
    have numbered := reachable_numbered ⟨operations, rfl⟩
    have changes := last ▸ next_changes (run next empty operations) operation
    rcases changes.origin numbered member with ⟨old, comes⟩ | fresh
    · rcases ih spares old comes.member (comes.live live) (comes.reference ▸ referenced) with
        hasMaterial | found
      · rcases comes.material live hasMaterial with kept | strips
        · exact .inl kept
        · rcases (Operation.strips_of_footprint strips).1 with corrupt | dismisses
          · exact .inr ⟨operations, operation, [], rfl, corrupt, old, comes.member, comes.key,
              comes.ordinal, comes.epoch⟩
          · exact False.elim (sparesLast dismisses)
      · exact .inr (found.later comes)
    · rcases fresh.material live referenced with kept | strips
      · exact .inl kept
      · obtain ⟨inserted, inserts, _⟩ := fresh.inserted
        exact False.elim ((Operation.strips_of_footprint strips).2 inserted inserts)

/-! ## Order -/

theorem EnqueuedBefore.ordinal_lt {operations : List Operation} {first second : QueueEntryRow}
    (before : EnqueuedBefore operations first second)
    (secondMember : second ∈ (run next empty operations).queueEntries)
    (sameSession : first.sessionName = second.sessionName) : first.ordinal < second.ordinal := by
  obtain ⟨earlier, later, rfl, ⟨old, member, sameKey, sameOrdinal, epoch⟩, notHeld⟩ := before
  have oldSession : old.sessionName = first.sessionName := congrArg Prod.fst sameKey
  obtain ⟨held, found, below⟩ := (reachable_numbered ⟨earlier, rfl⟩).home old member
  rw [oldSession] at found
  have advances := run_advances (run next empty earlier) later first.sessionName
  rw [← run_append] at advances
  have epochGoesOn : ∀ reached : QueueMetaRow,
      (run next empty (earlier ++ later)).queueMeta.lookup first.sessionName = some reached →
      reached.queueEpoch = held.queueEpoch := by
    intro reached reachedFound
    unfold epoch? at epoch
    rw [found, reachedFound] at epoch
    exact (Option.some.inj epoch).symm
  rcases advances.epoch with ⟨known, reached, goesOn⟩ | isNew
  · cases goesOn.found.symm.trans found
    by_contra less
    apply notHeld
    have low : second.ordinal < held.nextOrdinal := by omega
    obtain ⟨oldSecond, oldMember, oldKey, oldOrdinal, _⟩ :=
      goesOn.rows second secondMember sameSession.symm low
    exact ⟨oldSecond, oldMember, oldKey, oldOrdinal, sameSession ▸ epoch⟩
  · have entered : ∃ reached, (run next empty (earlier ++ later)).queueMeta.lookup
        first.sessionName = some reached := by
      obtain ⟨reached, reachedFound, _⟩ :=
        (reachable_numbered ⟨earlier ++ later, rfl⟩).home second secondMember
      exact ⟨reached, sameSession ▸ reachedFound⟩
    obtain ⟨reached, reachedFound⟩ := entered
    obtain ⟨index, used, mintedAt⟩ := run_minted earlier held (Table.lookup_eq_some_iff.mp found).1
    obtain ⟨freshIndex, fresh, freshMintedAt⟩ := isNew reached reachedFound
    have same : index = freshIndex := Host.randomUUID_injective
      (mintedAt.queueEpoch.symm.trans
        ((epochGoesOn reached reachedFound).symm.trans freshMintedAt.queueEpoch))
    omega

theorem inserts_one_key {store : TransportQueueStore} {operation : Operation}
    {left right : QueueEntryRow} (insertsLeft : (operation.footprint store).inserts left)
    (insertsRight : (operation.footprint store).inserts right) : left.key = right.key := by
  cases operation with
  | enqueue | enqueueWithCapacityEviction | retry =>
    obtain ⟨leftOrdinal, rfl⟩ := insertsLeft
    obtain ⟨rightOrdinal, rfl⟩ := insertsRight
    rfl
  | _ => exact False.elim insertsLeft

theorem EnqueuedBefore.later {operations : List Operation} {operation : Operation}
    {oldFirst oldSecond first second : QueueEntryRow}
    (before : EnqueuedBefore operations oldFirst oldSecond)
    (firstKey : oldFirst.key = first.key) (firstOrdinal : oldFirst.ordinal = first.ordinal)
    (secondKey : oldSecond.key = second.key) (secondOrdinal : oldSecond.ordinal = second.ordinal)
    (firstEpoch : (run next empty operations).epoch? first.sessionName =
      (run next empty (operations ++ [operation])).epoch? first.sessionName)
    (secondEpoch : (run next empty operations).epoch? second.sessionName =
      (run next empty (operations ++ [operation])).epoch? second.sessionName) :
    EnqueuedBefore (operations ++ [operation]) first second := by
  obtain ⟨earlier, later, rfl, ⟨old, member, sameKey, sameOrdinal, epoch⟩, notHeld⟩ := before
  refine ⟨earlier, later ++ [operation], List.append_assoc _ _ _, ?_, ?_⟩
  · refine ⟨old, member, sameKey.trans firstKey, sameOrdinal.trans firstOrdinal, ?_⟩
    rw [show oldFirst.sessionName = first.sessionName from congrArg Prod.fst firstKey] at epoch
    exact epoch.trans firstEpoch
  · rintro ⟨other, otherMember, otherKey, otherOrdinal, otherEpoch⟩
    apply notHeld
    refine ⟨other, otherMember, otherKey.trans secondKey.symm,
      otherOrdinal.trans secondOrdinal.symm, ?_⟩
    rw [show oldSecond.sessionName = second.sessionName from congrArg Prod.fst secondKey]
    exact otherEpoch.trans secondEpoch.symm

theorem enqueuedBefore_total (operations : List Operation) :
    ∀ first, first ∈ (run next empty operations).queueEntries →
    ∀ second, second ∈ (run next empty operations).queueEntries → first ≠ second →
      EnqueuedBefore operations first second ∨ EnqueuedBefore operations second first := by
  induction operations using List.reverseRecOn with
  | nil => exact fun first member => False.elim (Table.not_mem_empty member)
  | append_singleton operations operation ih =>
    intro first firstMember second secondMember different
    have last : run next empty (operations ++ [operation]) =
        (run next empty operations).next operation := run_append next empty operations [operation]
    have changes := last ▸ next_changes (run next empty operations) operation
    have numbered := reachable_numbered ⟨operations, rfl⟩
    have fresh : ∀ row, row ∈ (run next empty (operations ++ [operation])).queueEntries →
        ¬ Held (run next empty operations) (run next empty (operations ++ [operation])) row →
        ∃ inserted, (operation.footprint (run next empty operations)).inserts inserted ∧
          inserted.key = row.key := by
      intro row member notHeld
      rcases changes.origin numbered member with ⟨old, comes⟩ | fresh
      · exact False.elim (notHeld ⟨old, comes.member, comes.key, comes.ordinal, comes.epoch⟩)
      · exact fresh.inserted
    by_cases firstHeld : Held (run next empty operations)
        (run next empty (operations ++ [operation])) first
    · by_cases secondHeld : Held (run next empty operations)
          (run next empty (operations ++ [operation])) second
      · obtain ⟨oldFirst, oldFirstMember, firstKey, firstOrdinal, firstEpoch⟩ := firstHeld
        obtain ⟨oldSecond, oldSecondMember, secondKey, secondOrdinal, secondEpoch⟩ := secondHeld
        have oldDifferent : oldFirst ≠ oldSecond := by
          rintro rfl
          exact different (Table.eq_of_key firstMember secondMember
            (firstKey.symm.trans secondKey))
        rcases ih oldFirst oldFirstMember oldSecond oldSecondMember oldDifferent with
          before | after
        · exact .inl (before.later firstKey firstOrdinal secondKey secondOrdinal firstEpoch
            secondEpoch)
        · exact .inr (after.later secondKey secondOrdinal firstKey firstOrdinal secondEpoch
            firstEpoch)
      · exact .inl ⟨operations, [operation], rfl, firstHeld, secondHeld⟩
    · by_cases secondHeld : Held (run next empty operations)
          (run next empty (operations ++ [operation])) second
      · exact .inr ⟨operations, [operation], rfl, secondHeld, firstHeld⟩
      · obtain ⟨insertedFirst, insertsFirst, firstKey⟩ := fresh first firstMember firstHeld
        obtain ⟨insertedSecond, insertsSecond, secondKey⟩ := fresh second secondMember secondHeld
        have sameKey := inserts_one_key insertsFirst insertsSecond
        exact False.elim (different (Table.eq_of_key firstMember secondMember
          (firstKey.symm.trans (sameKey.trans secondKey))))

/-! ## Listing -/

def positionRank (position : QueuePosition) : Lex (Nat × Int) :=
  toLex (placementRank position.placement, position.ordinal)

theorem compareQueuePositions_iff {left right : QueuePosition}
    (apart : left.ordinal ≠ right.ordinal) :
    compareQueuePositions left right ≤ 0 ↔ positionRank left ≤ positionRank right := by
  unfold compareQueuePositions positionRank
  rw [Prod.Lex.toLex_le_toLex]
  have ordinals : left.ordinal - right.ordinal ≠ 0 := by omega
  have nonpos : left.ordinal - right.ordinal ≤ 0 ↔ left.ordinal ≤ right.ordinal := by omega
  rcases left with ⟨leftPlacement, leftOrdinal, _, _⟩
  rcases right with ⟨rightPlacement, rightOrdinal, _, _⟩
  cases leftPlacement <;> cases rightPlacement <;> simp_all [placementRank]

theorem sortByPosition_ranked {Entry : Type} {position : Entry → QueuePosition}
    {entries : List Entry}
    (apart : entries.Pairwise fun left right => (position left).ordinal ≠ (position right).ordinal) :
    (sortByPosition position entries).Pairwise fun left right =>
      positionRank (position left) < positionRank (position right) := by
  have ranked := pairwise_insertionSort_of_rank (fun entry => positionRank (position entry))
    (apart.imp fun distinct => compareQueuePositions_iff distinct)
  have apartSorted : (sortByPosition position entries).Pairwise fun left right =>
      (position left).ordinal ≠ (position right).ordinal :=
    (List.perm_insertionSort _ entries).symm.pairwise apart fun distinct => distinct.symm
  refine ranked.imp₂ ?_ apartSorted
  intro left right le distinct
  refine lt_of_le_of_ne le fun same => distinct ?_
  exact congrArg Prod.snd (toLex_inj.mp same)

theorem sortByPosition_pairwise {Entry : Type} {position : Entry → QueuePosition}
    {entries : List Entry}
    (apart : entries.Pairwise fun left right => (position left).ordinal ≠ (position right).ordinal) :
    (sortByPosition position entries).Pairwise fun left right =>
      (position left).placement = (position right).placement →
        (position left).ordinal < (position right).ordinal := by
  refine (sortByPosition_ranked apart).imp ?_
  intro left right less samePlacement
  rw [positionRank, positionRank, Prod.Lex.toLex_lt_toLex, samePlacement] at less
  rcases less with impossible | ⟨_, less⟩
  · exact absurd impossible (lt_irrefl _)
  · exact less

def IsShown (store : TransportQueueStore) (session : String)
    (recipientFilter : Option (Option QueueRecipientIdentity)) (row : QueueEntryRow) : Prop :=
  row ∈ store.queueEntries ∧ row.sessionName = session ∧ row.status.isLive = true ∧
    recipientFilter.all (fun caller => recipientPredicate caller row.recipient) = true

/-- The entries a snapshot lists as live. -/
def shownEntries (store : TransportQueueStore) (session : String)
    (recipientFilter : Option (Option QueueRecipientIdentity)) : List QueueStoredEntry :=
  sortByPosition QueueStoredEntry.position
    ((store.readRows session recipientFilter).filter fun entry => entry.row.status.isLive)

theorem shownEntries_pairwise {store : TransportQueueStore} (numbered : Numbered store)
    (session : String) (recipientFilter : Option (Option QueueRecipientIdentity)) :
    (store.shownEntries session recipientFilter).Pairwise fun left right =>
      left.row.placement = right.row.placement → left.row.ordinal < right.row.ordinal := by
  have apart := (readRows_apart numbered session recipientFilter).sublist
    (List.filter_sublist (p := fun entry => entry.row.status.isLive))
  refine (sortByPosition_pairwise apart).imp ?_
  intro left right ordered samePlacement
  exact Int.ofNat_lt.mp (ordered samePlacement)

theorem mem_shownEntries {store : TransportQueueStore} (numbered : Numbered store)
    (session : String) (recipientFilter : Option (Option QueueRecipientIdentity))
    (row : QueueEntryRow) :
    (∃ entry ∈ store.shownEntries session recipientFilter, entry.row = row) ↔
      store.IsShown session recipientFilter row := by
  constructor
  · rintro ⟨entry, listed, rfl⟩
    obtain ⟨read, live⟩ := List.mem_filter.mp (mem_sortByPosition.mp listed)
    obtain ⟨member, ofSession, shown, _⟩ := mem_readRows read
    exact ⟨member, ofSession, live, shown⟩
  · rintro ⟨member, ofSession, live, shown⟩
    obtain ⟨held, found, _⟩ := numbered.home row member
    refine ⟨parseStoredEntry row <| (store.queuePrivateMaterial.lookup row.key).filter
      fun held => held.recipient = row.recipient, ?_, rfl⟩
    apply mem_sortByPosition.mpr
    refine List.mem_filter.mpr ⟨List.mem_map.mpr ⟨row, ?_, rfl⟩, live⟩
    refine (List.mem_insertionSort _).mpr (Table.mem_select.mpr ⟨member, ?_⟩)
    rw [ofSession] at found
    simp only [inSession, Bool.and_eq_true, decide_eq_true_eq]
    exact ⟨⟨ofSession, found ▸ rfl⟩, shown⟩

/-- As long as no live message is dismissed as failed, every live row keeps its material
unless an edit found it corrupt; rows are always numbered apart, and a snapshot lists
the live ones of each placement in the order in which they were enqueued. -/
theorem live_work_kept (operations : List Operation)
    (spares : Meets next (fun store operation => ¬ operation.DismissesLive store) empty
      operations) :
    (∀ row, row ∈ (run next empty operations).queueEntries → row.status.isLive = true →
      row.privateMaterialRef.isSome = true →
      (run next empty operations).HasMaterial row ∨ FoundCorrupt operations row) ∧
    Numbered (run next empty operations) ∧
    ∀ (session source : String) (override : Option QueueSnapshotOverride)
      (recipientFilter : Option (Option QueueRecipientIdentity)),
      ∃ listed : List QueueStoredEntry,
        ((run next empty operations).buildSnapshot session source override
          recipientFilter).2.pendingMessageEntries = listed.map buildQueueProjectionEntry ∧
        (∀ row, (∃ entry ∈ listed, entry.row = row) ↔
          (run next empty operations).IsShown session recipientFilter row) ∧
        listed.Pairwise fun left right => left.row.placement = right.row.placement →
          EnqueuedBefore operations left.row right.row := by
  have numbered : Numbered (run next empty operations) := reachable_numbered ⟨operations, rfl⟩
  refine ⟨run_keeps_material operations spares, numbered, ?_⟩
  intro session source override recipientFilter
  obtain ⟨shown, entries, shownNumbered, built⟩ : ∃ shown : TransportQueueStore,
      shown.queueEntries = (run next empty operations).queueEntries ∧ Numbered shown ∧
      ((run next empty operations).buildSnapshot session source override
        recipientFilter).2.pendingMessageEntries =
          (shown.shownEntries session recipientFilter).map buildQueueProjectionEntry := by
    cases override with
    | some given => exact ⟨_, rfl, numbered, rfl⟩
    | none =>
      refine ⟨((run next empty operations).ensureMeta session none).1,
        (ensureMeta_sameMessages _ session none).queueEntries, ?_, rfl⟩
      have ensured : Changes Footprint.common (run next empty operations)
          ((run next empty operations).ensureMeta session none).1 :=
        Changes.refl.ensureMeta none
      exact ensured.preserves (fun _ _ => Change.numbered) numbered
  have listed : ∀ row, (∃ entry ∈ shown.shownEntries session recipientFilter, entry.row = row) ↔
      (run next empty operations).IsShown session recipientFilter row := by
    intro row
    rw [mem_shownEntries shownNumbered]
    simp only [IsShown, entries]
  refine ⟨shown.shownEntries session recipientFilter, built, listed, ?_⟩
  refine (shownEntries_pairwise shownNumbered session recipientFilter).imp_of_mem ?_
  intro left right leftListed rightListed ordered samePlacement
  have leftShown := (listed left.row).mp ⟨left, leftListed, rfl⟩
  have rightShown := (listed right.row).mp ⟨right, rightListed, rfl⟩
  have less := ordered samePlacement
  have different : left.row ≠ right.row := fun same => less.ne (congrArg QueueEntryRow.ordinal same)
  rcases enqueuedBefore_total operations left.row leftShown.1 right.row rightShown.1 different with
    before | after
  · exact before
  · have sameSession := rightShown.2.1.trans leftShown.2.1.symm
    exact absurd less (after.ordinal_lt leftShown.1 sameSession).asymm

end Host

section FixedRuns

open Library.FixedRuns

def enqueueWithMaterial : Operation :=
  .enqueue 0 { plainMessage (some ⟨"A", "e"⟩) "m1" 1 with
    privateMaterialJson := some (.encoded (.obj [])) }

/-- The dismissal leaves the queued row and takes its material. -/
theorem dismissed_live_message_stripped :
    ¬ ∀ row, row ∈ (run next empty [enqueueWithMaterial,
        .dismissFailed "deck" "m1" 2]).queueEntries → row.status.isLive = true →
      row.privateMaterialRef.isSome = true →
      (run next empty [enqueueWithMaterial, .dismissFailed "deck" "m1" 2]).HasMaterial row ∨
        FoundCorrupt [enqueueWithMaterial, .dismissFailed "deck" "m1" 2] row := by
  intro kept
  have stripped : (run next empty [enqueueWithMaterial,
      .dismissFailed "deck" "m1" 2]).queuePrivateMaterial.rows = [] := by decide
  have queued : ∃ row ∈ (run next empty [enqueueWithMaterial,
      .dismissFailed "deck" "m1" 2]).queueEntries.rows, row.status.isLive = true ∧
        row.privateMaterialRef.isSome = true := by decide
  obtain ⟨row, member, live, referenced⟩ := queued
  rcases kept row member live referenced with ⟨held, heldMember, _⟩ | found
  · change held ∈ (run next empty _).queuePrivateMaterial.rows at heldMember
    rw [stripped] at heldMember
    cases heldMember
  · obtain ⟨earlier, operation, later, split, corrupt, _⟩ := found
    have performed : operation ∈ [enqueueWithMaterial, .dismissFailed "deck" "m1" 2] :=
      split ▸ List.mem_append_right _ List.mem_cons_self
    simp only [List.mem_cons, List.not_mem_nil, or_false] at performed
    rcases performed with rfl | rfl
    · exact corrupt
    · exact corrupt

theorem live_work_kept_run :
    (∀ row, row ∈ (run next empty [enqueueWithMaterial]).queueEntries →
      row.status.isLive = true → row.privateMaterialRef.isSome = true →
      (run next empty [enqueueWithMaterial]).HasMaterial row ∨
        FoundCorrupt [enqueueWithMaterial] row) ∧
    Numbered (run next empty [enqueueWithMaterial]) ∧
    ∀ (session source : String) (override : Option QueueSnapshotOverride)
      (recipientFilter : Option (Option QueueRecipientIdentity)),
      ∃ listed : List QueueStoredEntry,
        ((run next empty [enqueueWithMaterial]).buildSnapshot session source override
          recipientFilter).2.pendingMessageEntries = listed.map buildQueueProjectionEntry ∧
        (∀ row, (∃ entry ∈ listed, entry.row = row) ↔
          (run next empty [enqueueWithMaterial]).IsShown session recipientFilter row) ∧
        listed.Pairwise fun left right => left.row.placement = right.row.placement →
          EnqueuedBefore [enqueueWithMaterial] left.row right.row :=
  live_work_kept [enqueueWithMaterial] ⟨id, trivial⟩

end FixedRuns

end TransportQueueStore

end ImCodes.Queue
