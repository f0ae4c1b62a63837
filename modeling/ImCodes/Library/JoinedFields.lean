import Mathlib.Logic.Relation

/-!
# Fields joined by a separator

A text made of fields with a separator between them does not say where a field ends when fields may
have the separator in them. Two lists of fields of one length are joined to the same text exactly if
pieces have been moved across separators, from the start of a field to the end of the one before it
or back.
-/

set_option autoImplicit false

namespace ImCodes.Library

variable {α : Type}

/-- The fields with the separator between them. -/
def joinFields (separator : α) : List (List α) → List α
  | [] => []
  | [field] => field
  | field :: next :: rest => field ++ separator :: joinFields separator (next :: rest)

/-- A piece of a field that ends at a separator is moved to the end of the field before it. -/
inductive MovesPiece (separator : α) : List (List α) → List (List α) → Prop
  | across (front : List (List α)) (field moved next : List α) (rest : List (List α)) :
      MovesPiece separator (front ++ field :: (moved ++ separator :: next) :: rest)
        (front ++ (field ++ separator :: moved) :: next :: rest)

def Recut (separator : α) : List (List α) → List (List α) → Prop :=
  Relation.EqvGen (MovesPiece separator)

variable {separator : α} {left right : List (List α)}

theorem joinFields_cons (field next : List α) (rest : List (List α)) :
    joinFields separator (field :: next :: rest) =
      field ++ separator :: joinFields separator (next :: rest) := rfl

theorem joinFields_within (piece field : List α) (rest : List (List α)) :
    joinFields separator ((piece ++ separator :: field) :: rest) =
      piece ++ separator :: joinFields separator (field :: rest) := by
  cases rest with
  | nil => rfl
  | cons next rest =>
    rw [joinFields_cons, joinFields_cons, List.append_assoc, List.cons_append]

theorem joinFields_cons_congr (field : List α) (sizes : left.length = right.length)
    (same : joinFields separator left = joinFields separator right) :
    joinFields separator (field :: left) = joinFields separator (field :: right) := by
  cases left with
  | nil =>
    cases right with
    | nil => rfl
    | cons next rest => cases sizes
  | cons first leftRest =>
    cases right with
    | nil => cases sizes
    | cons next rest => rw [joinFields_cons, joinFields_cons, same]

theorem MovesPiece.joinFields_eq (moves : MovesPiece separator left right) :
    joinFields separator left = joinFields separator right := by
  obtain ⟨front, field, moved, next, rest⟩ := moves
  induction front with
  | nil =>
    rw [List.nil_append, List.nil_append, joinFields_cons, joinFields_cons, joinFields_within,
      List.append_assoc, List.cons_append]
  | cons head front ih =>
    rw [List.cons_append, List.cons_append]
    exact joinFields_cons_congr head (by simp) ih

theorem MovesPiece.cons (moves : MovesPiece separator left right) (field : List α) :
    MovesPiece separator (field :: left) (field :: right) := by
  obtain ⟨front, first, moved, next, rest⟩ := moves
  exact .across (field :: front) first moved next rest

theorem Recut.cons (recut : Recut separator left right) (field : List α) :
    Recut separator (field :: left) (field :: right) := by
  induction recut with
  | rel left right moves => exact .rel _ _ (moves.cons field)
  | refl fields => exact .refl _
  | symm left right _ ih => exact .symm _ _ ih
  | trans left middle right _ _ first second => exact .trans _ _ _ first second

theorem Recut.joinFields_eq (recut : Recut separator left right) :
    joinFields separator left = joinFields separator right := by
  induction recut with
  | rel left right moves => exact moves.joinFields_eq
  | refl fields => rfl
  | symm left right _ ih => exact ih.symm
  | trans left middle right _ _ first second => exact first.trans second

private theorem recut_of_longer {first second other piece : List α} {left right : List (List α)}
    (recut : joinFields separator (second :: left) =
        joinFields separator ((piece ++ separator :: other) :: right) →
      Recut separator (second :: left) ((piece ++ separator :: other) :: right))
    (same : joinFields separator (second :: left) =
      piece ++ separator :: joinFields separator (other :: right)) :
    Recut separator (first :: second :: left) ((first ++ separator :: piece) :: other :: right) := by
  rw [← joinFields_within] at same
  exact .trans _ _ _ ((recut same).cons first) (.rel _ _ (.across [] first piece other right))

private theorem recut_of_joinFields_eq (size : Nat) :
    ∀ left right : List (List α), left.length = size → right.length = size →
      joinFields separator left = joinFields separator right → Recut separator left right := by
  induction size with
  | zero =>
    intro left right leftSize rightSize _
    rw [List.length_eq_zero_iff.mp leftSize, List.length_eq_zero_iff.mp rightSize]
    exact .refl _
  | succ size ih =>
    intro left right leftSize rightSize same
    obtain ⟨first, left, rfl⟩ := List.exists_cons_of_length_eq_add_one leftSize
    obtain ⟨other, right, rfl⟩ := List.exists_cons_of_length_eq_add_one rightSize
    rw [List.length_cons, Nat.add_right_cancel_iff] at leftSize rightSize
    cases size with
    | zero =>
      rw [List.length_eq_zero_iff.mp leftSize, List.length_eq_zero_iff.mp rightSize] at same ⊢
      rw [show first = other from same]
      exact .refl _
    | succ size =>
      obtain ⟨second, left, rfl⟩ := List.exists_cons_of_length_eq_add_one leftSize
      obtain ⟨next, right, rfl⟩ := List.exists_cons_of_length_eq_add_one rightSize
      rw [joinFields_cons, joinFields_cons] at same
      rcases List.append_eq_append_iff.mp same with
        ⟨piece, longer, behind⟩ | ⟨piece, longer, behind⟩
      · cases piece with
        | nil =>
          rw [longer, List.append_nil]
          exact (ih _ _ leftSize rightSize (List.cons.inj behind).2).cons first
        | cons head piece =>
          obtain ⟨rfl, inner⟩ := List.cons.inj behind
          rw [longer]
          exact recut_of_longer (ih _ _ leftSize rightSize) inner
      · cases piece with
        | nil =>
          rw [longer, List.append_nil]
          exact (ih _ _ leftSize rightSize (List.cons.inj behind).2.symm).cons other
        | cons head piece =>
          obtain ⟨rfl, inner⟩ := List.cons.inj behind
          rw [longer]
          exact .symm _ _ (recut_of_longer (ih _ _ rightSize leftSize) inner)

theorem joinFields_eq_iff_recut (sizes : left.length = right.length) :
    joinFields separator left = joinFields separator right ↔ Recut separator left right :=
  ⟨recut_of_joinFields_eq left.length left right rfl sizes.symm, Recut.joinFields_eq⟩

end ImCodes.Library
