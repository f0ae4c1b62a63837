import Mathlib.Data.List.Nodup

/-!
# Row locks

A transaction locks rows when it selects them for update and keeps them until it ends. Another
transaction either waits for such a row or skips it.
-/

set_option autoImplicit false

namespace ImCodes.Library

abbrev RowLocks (Key Owner : Type) := Key → Option Owner

namespace RowLocks

variable {Key Owner : Type}

def none : RowLocks Key Owner := fun _ => Option.none

def acquire [DecidableEq Key] (locks : RowLocks Key Owner) (owner : Owner) (keys : List Key) :
    RowLocks Key Owner :=
  fun key => if key ∈ keys then some owner else locks key

def release [DecidableEq Owner] (locks : RowLocks Key Owner) (owner : Owner) :
    RowLocks Key Owner :=
  fun key => if locks key = some owner then Option.none else locks key

def Tracks (locks : RowLocks Key Owner) (held : Owner → Key → Prop) : Prop :=
  ∀ owner key, locks key = some owner ↔ held owner key

section
variable {locks : RowLocks Key Owner} {held : Owner → Key → Prop}

theorem Tracks.exclusive (tracks : locks.Tracks held) {first second : Owner} {key : Key}
    (holds : held first key) (alsoHolds : held second key) : first = second :=
  Option.some.inj (((tracks first key).mpr holds).symm.trans ((tracks second key).mpr alsoHolds))

theorem Tracks.congr {other : Owner → Key → Prop} (tracks : locks.Tracks held)
    (same : ∀ owner key, other owner key ↔ held owner key) : locks.Tracks other :=
  fun owner key => (tracks owner key).trans (same owner key).symm

/-- Free rows may be given to one more owner. -/
theorem Tracks.acquire [DecidableEq Key] {owner : Owner} {keys : List Key}
    (tracks : locks.Tracks held) (free : ∀ key ∈ keys, locks key = Option.none) :
    (locks.acquire owner keys).Tracks fun other key =>
      held other key ∨ (other = owner ∧ key ∈ keys) := by
  intro other key
  unfold RowLocks.acquire
  by_cases member : key ∈ keys
  · have unheld : ¬held other key := by
      intro holds
      have locked := (tracks other key).mpr holds
      rw [free key member] at locked
      cases locked
    simp [member, unheld, eq_comm]
  · simp [member, tracks other key]

/-- An owner that ends leaves the others what they hold. -/
theorem Tracks.release [DecidableEq Owner] {owner : Owner} (tracks : locks.Tracks held) :
    (locks.release owner).Tracks fun other key => held other key ∧ other ≠ owner := by
  intro other key
  change _ ↔ held other key ∧ other ≠ owner
  unfold RowLocks.release
  rw [← tracks other key]
  by_cases isOwner : locks key = some owner
  · rw [if_pos isOwner, isOwner]
    simp [eq_comm]
  · rw [if_neg isOwner]
    constructor
    · intro locked
      exact ⟨locked, fun same => isOwner (same ▸ locked)⟩
    · exact And.left

end

end RowLocks

end ImCodes.Library
