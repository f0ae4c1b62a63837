import Mathlib.Data.List.Chain
import Mathlib.Logic.Relation
import Mathlib.Order.Basic
import Mathlib.Order.Lattice

/-!
# Walks along listed edges

Edges are items with a source and a target. A closed walk cannot rise at every edge, and sweeping
over the edges until nothing is new finds what walks from a root reach.
-/

set_option autoImplicit false

namespace ImCodes.Library

open Relation

variable {Edge Node : Type} (source target : Edge → Node)

/-- A walk that ends where it starts. -/
structure ClosedWalk (walk : List Edge) : Prop where
  joined : walk.IsChain fun edge next => target edge = source next
  closed : ∃ first last, walk.head? = some first ∧ walk.getLast? = some last ∧
    target last = source first

def Joins (edges : List Edge) (node other : Node) : Prop :=
  ∃ edge ∈ edges, source edge = node ∧ target edge = other

section Descent

variable {source target} {Rank : Type} [LinearOrder Rank] (rank : Node → Rank)

private theorem rises_along {first : Edge} {rest : List Edge}
    (joined : (first :: rest).IsChain fun edge next => target edge = source next)
    (rising : ∀ edge ∈ first :: rest, rank (source edge) < rank (target edge)) {last : Edge}
    (isLast : (first :: rest).getLast? = some last) :
    rank (source first) < rank (target last) := by
  induction rest generalizing first with
  | nil =>
    cases isLast
    exact rising first List.mem_cons_self
  | cons next rest ih =>
    rw [List.isChain_cons_cons] at joined
    rw [List.getLast?_cons_cons] at isLast
    have later := ih joined.2 (fun edge listed => rising edge (List.mem_cons_of_mem _ listed))
      isLast
    rw [← joined.1] at later
    exact (rising first List.mem_cons_self).trans later

/-- Somewhere on a closed walk the ranks do not rise. -/
theorem ClosedWalk.exists_descent {walk : List Edge} (isClosed : ClosedWalk source target walk) :
    ∃ edge ∈ walk, rank (target edge) ≤ rank (source edge) := by
  obtain ⟨joined, first, last, isFirst, isLast, back⟩ := isClosed
  by_contra rising
  push Not at rising
  cases walk with
  | nil => cases isFirst
  | cons head rest =>
    cases isFirst
    have above := rises_along rank joined rising isLast
    rw [back] at above
    exact lt_irrefl _ above

end Descent

section Reaching

variable [DecidableEq Node]

def follow (known : List Node) (edge : Edge) : List Node :=
  if source edge ∈ known ∧ target edge ∉ known then known ++ [target edge] else known

def sweep (edges : List Edge) (known : List Node) : List Node :=
  edges.foldl (follow source target) known

/-- Sweeps until one finds nothing new. -/
def saturate (edges : List Edge) : Nat → List Node → List Node
  | 0, known => known
  | fuel + 1, known =>
    let next := sweep source target edges known
    if next = known then known else saturate edges fuel next

variable {source target} {edges : List Edge} {known : List Node} {node : Node}

theorem mem_follow {edge : Edge} :
    node ∈ follow source target known edge ↔
      node ∈ known ∨ source edge ∈ known ∧ node = target edge := by
  unfold follow
  split
  · next new => simp [new.1]
  · next old =>
      constructor
      · exact .inl
      · rintro (isKnown | ⟨isSource, rfl⟩)
        · exact isKnown
        · by_contra isNew
          exact old ⟨isSource, isNew⟩

theorem subset_sweep (edges : List Edge) (isKnown : node ∈ known) :
    node ∈ sweep source target edges known := by
  unfold sweep
  induction edges generalizing known with
  | nil => exact isKnown
  | cons edge rest ih => exact ih (mem_follow.mpr (.inl isKnown))

theorem closed_of_sweep_eq (nothingNew : ∀ node, node ∈ sweep source target edges known →
    node ∈ known) {edge : Edge} (listed : edge ∈ edges) (isSource : source edge ∈ known) :
    target edge ∈ known := by
  apply nothingNew
  clear nothingNew
  induction edges generalizing known with
  | nil => cases listed
  | cons first rest ih =>
    rcases List.mem_cons.mp listed with rfl | later
    · exact subset_sweep rest (mem_follow.mpr (.inr ⟨isSource, rfl⟩))
    · exact ih later (mem_follow.mpr (.inl isSource))

/-- A sweep that changes anything finds the target of an edge. -/
theorem exists_new_of_sweep_ne (changed : sweep source target edges known ≠ known) :
    ∃ edge ∈ edges, target edge ∉ known ∧ target edge ∈ sweep source target edges known := by
  induction edges generalizing known with
  | nil => exact absurd rfl changed
  | cons first rest ih =>
    change sweep source target rest (follow source target known first) ≠ known at changed
    by_cases new : source first ∈ known ∧ target first ∉ known
    · exact ⟨first, List.mem_cons_self, new.2,
        subset_sweep rest (mem_follow.mpr (.inr ⟨new.1, rfl⟩))⟩
    · have same : follow source target known first = known := if_neg new
      rw [same] at changed
      obtain ⟨edge, listed, isNew, found⟩ := ih changed
      refine ⟨edge, List.mem_cons_of_mem _ listed, isNew, ?_⟩
      change _ ∈ sweep source target rest (follow source target known first)
      rwa [same]

/-- Sweeps stay within what is closed under the edges. -/
theorem sweep_subset (within : Node → Prop)
    (closed : ∀ edge ∈ edges, within (source edge) → within (target edge))
    (start : ∀ node ∈ known, within node) :
    ∀ node ∈ sweep source target edges known, within node := by
  unfold sweep
  induction edges generalizing known with
  | nil => exact start
  | cons edge rest ih =>
    apply ih fun other listed => closed other (List.mem_cons_of_mem _ listed)
    intro node found
    rcases mem_follow.mp found with isKnown | ⟨isSource, rfl⟩
    · exact start node isKnown
    · exact closed edge List.mem_cons_self (start _ isSource)

theorem saturate_subset (within : Node → Prop)
    (closed : ∀ edge ∈ edges, within (source edge) → within (target edge)) {fuel : Nat}
    (start : ∀ node ∈ known, within node) :
    ∀ node ∈ saturate source target edges fuel known, within node := by
  induction fuel generalizing known with
  | zero => exact start
  | succ fuel ih =>
    unfold saturate
    dsimp only
    split
    · exact start
    · exact ih (sweep_subset within closed start)

private def unknownTargets (target : Edge → Node) (edges : List Edge) (known : List Node) : Nat :=
  edges.countP fun edge => decide (target edge ∉ known)

private theorem unknownTargets_sweep (changed : sweep source target edges known ≠ known) :
    unknownTargets target edges (sweep source target edges known) <
      unknownTargets target edges known := by
  obtain ⟨edge, listed, isNew, found⟩ := exists_new_of_sweep_ne changed
  obtain ⟨before, after, split⟩ := List.append_of_mem listed
  have fewer : ∀ some : List Edge,
      unknownTargets target some (sweep source target edges known) ≤
        unknownTargets target some known := by
    intro some
    apply List.countP_mono_left
    intro other _ unknown
    rw [decide_eq_true_iff] at unknown ⊢
    exact fun isKnown => unknown (subset_sweep edges isKnown)
  have atBefore := fewer before
  have atAfter := fewer after
  have whole : ∀ known : List Node, unknownTargets target edges known =
      unknownTargets target before known + (unknownTargets target after known +
        if target edge ∉ known then 1 else 0) := by
    intro known
    unfold unknownTargets
    rw [split, List.countP_append, List.countP_cons]
    simp
  rw [whole, whole known, if_pos isNew, if_neg (not_not.mpr found)]
  omega

/-- With fuel for every edge, the result is closed under the edges. -/
private theorem saturate_closed (source : Edge → Node) {fuel : Nat}
    (enough : unknownTargets target edges known < fuel) :
    (∀ node ∈ known, node ∈ saturate source target edges fuel known) ∧
      ∀ edge ∈ edges, source edge ∈ saturate source target edges fuel known →
        target edge ∈ saturate source target edges fuel known := by
  induction fuel generalizing known with
  | zero => exact absurd enough (Nat.not_lt_zero _)
  | succ fuel ih =>
    unfold saturate
    dsimp only
    split
    · next unchanged =>
        exact ⟨fun _ isKnown => isKnown, fun edge listed isSource =>
          closed_of_sweep_eq (fun _ found => unchanged ▸ found) listed isSource⟩
    · next changed =>
        have below := unknownTargets_sweep changed
        have enoughLeft :
            unknownTargets target edges (sweep source target edges known) < fuel := by omega
        obtain ⟨kept, closed⟩ := ih enoughLeft
        exact ⟨fun node isKnown => kept node (subset_sweep edges isKnown), closed⟩

/-- Saturating finds exactly what walks from the root reach. -/
theorem mem_saturate_iff {root : Node} :
    node ∈ saturate source target edges (edges.length + 1) [root] ↔
      ReflTransGen (Joins source target edges) root node := by
  constructor
  · apply saturate_subset (ReflTransGen (Joins source target edges) root)
    · intro edge listed reached
      exact reached.tail ⟨edge, listed, rfl, rfl⟩
    · intro node isRoot
      rw [List.mem_singleton.mp isRoot]
  · intro reached
    have enough : unknownTargets target edges [root] < edges.length + 1 :=
      Nat.lt_succ_of_le List.countP_le_length
    obtain ⟨kept, closed⟩ := saturate_closed source enough
    induction reached with
    | refl => exact kept root (List.mem_singleton.mpr rfl)
    | tail _ joins ih =>
      obtain ⟨edge, listed, rfl, rfl⟩ := joins
      exact closed edge listed ih

end Reaching

end ImCodes.Library
