import Mathlib.Data.List.Sort

/-!
# Sorting by a comparator that need not be an order

`insertionSort` compares each pair of places at most once, so on a list whose items a
comparator tells apart as a rank does, it sorts by that rank.
-/

set_option autoImplicit false

namespace ImCodes.Library

variable {Item : Type}

/-- In a list whose pairs satisfy a relation, two members come in the order it allows. -/
theorem pair_sublist_of_pairwise {related : Item → Item → Prop} {items : List Item}
    (pairwise : items.Pairwise related) {first second : Item} (firstListed : first ∈ items)
    (secondListed : second ∈ items) (different : first ≠ second)
    (unrelated : ¬ related second first) : [first, second].Sublist items := by
  obtain ⟨before, after, rfl⟩ := List.append_of_mem firstListed
  rcases List.mem_append.mp secondListed with earlier | listed
  · have both : [second, first].Sublist (before ++ first :: after) :=
      (List.singleton_sublist.mpr earlier).append
        (List.singleton_sublist.mpr List.mem_cons_self)
    exact False.elim (unrelated (List.pairwise_iff_forall_sublist.mp pairwise both))
  · rcases List.mem_cons.mp listed with same | later
    · exact False.elim (different same.symm)
    · exact (List.nil_sublist before).append ((List.singleton_sublist.mpr later).cons_cons first)

theorem orderedInsert_congr {left right : Item → Item → Prop} [DecidableRel left]
    [DecidableRel right] {item : Item} {items : List Item}
    (agree : ∀ other ∈ items, (left item other ↔ right item other)) :
    items.orderedInsert left item = items.orderedInsert right item := by
  induction items with
  | nil => rfl
  | cons first rest ih =>
    have agreeRest := ih fun other listed => agree other (List.mem_cons_of_mem _ listed)
    simp only [List.orderedInsert_cons, agree first List.mem_cons_self, agreeRest]

theorem insertionSort_congr {left right : Item → Item → Prop} [DecidableRel left]
    [DecidableRel right] {items : List Item}
    (agree : items.Pairwise fun first second => left first second ↔ right first second) :
    items.insertionSort left = items.insertionSort right := by
  induction items with
  | nil => rfl
  | cons first rest ih =>
    obtain ⟨agreeFirst, agreeRest⟩ := List.pairwise_cons.mp agree
    rw [List.insertionSort_cons, List.insertionSort_cons, ih agreeRest]
    apply orderedInsert_congr
    intro other listed
    exact agreeFirst other ((List.mem_insertionSort right).mp listed)

theorem pairwise_insertionSort_of_rank {Rank : Type} [LinearOrder Rank] (rank : Item → Rank)
    {compares : Item → Item → Prop} [DecidableRel compares] {items : List Item}
    (agree : items.Pairwise fun first second =>
      compares first second ↔ rank first ≤ rank second) :
    (items.insertionSort compares).Pairwise fun first second => rank first ≤ rank second := by
  have total : Std.Total fun first second => rank first ≤ rank second :=
    ⟨fun first second => le_total (rank first) (rank second)⟩
  have transitive : IsTrans Item fun first second => rank first ≤ rank second :=
    ⟨fun _ _ _ => le_trans⟩
  rw [insertionSort_congr agree]
  exact List.pairwise_insertionSort _ items

/-! ## The same items in another order -/

/-- Sorting forgets the order of items that the comparator tells apart. -/
theorem insertionSort_eq_of_perm {compares : Item → Item → Prop} [DecidableRel compares]
    (total : ∀ first second, compares first second ∨ compares second first)
    (transitive : ∀ first second third, compares first second → compares second third →
      compares first third) {left right : List Item}
    (apart : ∀ first ∈ left, ∀ second ∈ left, compares first second → compares second first →
      first = second) (same : left.Perm right) :
    left.insertionSort compares = right.insertionSort compares := by
  have isTotal : Std.Total compares := ⟨total⟩
  have isTransitive : IsTrans Item compares := ⟨transitive⟩
  have perm := (List.perm_insertionSort compares left).trans
    (same.trans (List.perm_insertionSort compares right).symm)
  apply List.Perm.eq_of_pairwise _ (List.pairwise_insertionSort compares left)
    (List.pairwise_insertionSort compares right) perm
  intro first second isFirst isSecond before after
  exact apart first ((List.perm_insertionSort compares left).mem_iff.mp isFirst) second
    (same.mem_iff.mpr ((List.perm_insertionSort compares right).mem_iff.mp isSecond)) before after

section Alike

variable {Other : Type} {alike : Item → Other → Prop} {compares : Item → Item → Prop}
  {comparesOther : Other → Other → Prop} [DecidableRel compares] [DecidableRel comparesOther]

private theorem forall₂_orderedInsert {item : Item} {other : Other} {left : List Item}
    {right : List Other}
    (agree : ∀ first first' second second', alike first first' → alike second second' →
      (compares first second ↔ comparesOther first' second'))
    (isAlike : alike item other) (areAlike : List.Forall₂ alike left right) :
    List.Forall₂ alike (left.orderedInsert compares item)
      (right.orderedInsert comparesOther other) := by
  induction areAlike with
  | nil => exact .cons isAlike .nil
  | @cons first first' rest rest' headAlike restAlike ih =>
    rw [List.orderedInsert_cons, List.orderedInsert_cons]
    by_cases before : compares item first
    · rw [if_pos before, if_pos ((agree _ _ _ _ isAlike headAlike).mp before)]
      exact .cons isAlike (.cons headAlike restAlike)
    · rw [if_neg before, if_neg fun after => before ((agree _ _ _ _ isAlike headAlike).mpr after)]
      exact .cons headAlike ih

theorem forall₂_insertionSort {left : List Item} {right : List Other}
    (agree : ∀ first first' second second', alike first first' → alike second second' →
      (compares first second ↔ comparesOther first' second'))
    (areAlike : List.Forall₂ alike left right) :
    List.Forall₂ alike (left.insertionSort compares) (right.insertionSort comparesOther) := by
  induction areAlike with
  | nil => exact .nil
  | cons headAlike _ ih =>
    rw [List.insertionSort_cons, List.insertionSort_cons]
    exact forall₂_orderedInsert agree headAlike ih

end Alike

end ImCodes.Library
