import Mathlib.Data.Finset.Basic
import Mathlib.Logic.Function.Basic
import Mathlib.Logic.Relation

/-!
# Switches held by several owners

A switch is down while some owner holds it. Owners come and go one at a time, and a signal
goes to the device only for the first owner of a switch and after its last one. A keeper may
also click a switch that nobody holds, or let go of everything. Along all of these the device
has down exactly the switches that are held.
-/

set_option autoImplicit false

namespace ImCodes.Library

/-- What a device is told. -/
inductive Signal (Switch : Type)
  | press (switch : Switch)
  | release (switch : Switch)
  | releaseAll

/-- The owners of each switch, and the signals sent, newest first. -/
@[ext] structure SharedHold (Owner Switch : Type) where
  owners : Switch → Finset Owner
  signals : List (Signal Switch)

namespace SharedHold

variable {Owner Switch : Type} [DecidableEq Owner] [DecidableEq Switch]

/-- A device has down what it was told to press last. -/
def isDown (switch : Switch) : List (Signal Switch) → Bool
  | [] => false
  | .press pressed :: earlier => if pressed = switch then true else isDown switch earlier
  | .release released :: earlier => if released = switch then false else isDown switch earlier
  | .releaseAll :: _ => false

def gain (hold : SharedHold Owner Switch) (switch : Switch) (owner : Owner) :
    SharedHold Owner Switch where
  owners := Function.update hold.owners switch (insert owner (hold.owners switch))
  signals := if hold.owners switch = ∅ then .press switch :: hold.signals else hold.signals

def lose (hold : SharedHold Owner Switch) (switch : Switch) (owner : Owner) :
    SharedHold Owner Switch where
  owners := Function.update hold.owners switch ((hold.owners switch).erase owner)
  signals :=
    if (hold.owners switch).erase owner = ∅ then .release switch :: hold.signals
    else hold.signals

def click (hold : SharedHold Owner Switch) (switch : Switch) : SharedHold Owner Switch where
  owners := hold.owners
  signals := .release switch :: .press switch :: hold.signals

def letGoAll (hold : SharedHold Owner Switch) : SharedHold Owner Switch where
  owners := fun _ => ∅
  signals := .releaseAll :: hold.signals

/-- One owner more or less. -/
inductive Move (hold : SharedHold Owner Switch) : SharedHold Owner Switch → Prop
  | gain (switch : Switch) (owner : Owner) (new : owner ∉ hold.owners switch) :
      Move hold (hold.gain switch owner)
  | lose (switch : Switch) (owner : Owner) (holds : owner ∈ hold.owners switch) :
      Move hold (hold.lose switch owner)

abbrev Moves : SharedHold Owner Switch → SharedHold Owner Switch → Prop :=
  Relation.ReflTransGen Move

/-- After some moves, a press and release of this switch, of which it has no owner then, or
nothing more. -/
def Clicks (switch : Switch) (hold next : SharedHold Owner Switch) : Prop :=
  ∃ steady, Moves hold steady ∧
    (next = steady ∨ steady.owners switch = ∅ ∧ next = steady.click switch)

def IsFaithful (hold : SharedHold Owner Switch) : Prop :=
  ∀ switch, isDown switch hold.signals = true ↔ (hold.owners switch).Nonempty

theorem Move.isFaithful {hold next : SharedHold Owner Switch} (move : Move hold next)
    (faithful : hold.IsFaithful) : next.IsFaithful := by
  intro other
  have before := faithful other
  cases move with
  | gain switch owner new =>
    by_cases same : switch = other
    · subst same
      by_cases free : hold.owners switch = ∅
      · simp [SharedHold.gain, free, isDown]
      · simp [SharedHold.gain, free, before, Finset.nonempty_iff_ne_empty]
    · by_cases free : hold.owners switch = ∅
      · simp [SharedHold.gain, free, isDown, same, before, Ne.symm same]
      · simp [SharedHold.gain, free, before, Ne.symm same]
  | lose switch owner holds =>
    by_cases same : switch = other
    · subst same
      by_cases last : (hold.owners switch).erase owner = ∅
      · simp [SharedHold.lose, last, isDown]
      · have held : (hold.owners switch).Nonempty := ⟨owner, holds⟩
        simp [SharedHold.lose, last, before, held, Finset.nonempty_iff_ne_empty.mpr last]
    · by_cases last : (hold.owners switch).erase owner = ∅
      · simp [SharedHold.lose, last, isDown, same, before, Ne.symm same]
      · simp [SharedHold.lose, last, before, Ne.symm same]

theorem Moves.isFaithful {hold next : SharedHold Owner Switch} (moves : Moves hold next)
    (faithful : hold.IsFaithful) : next.IsFaithful := by
  induction moves with
  | refl => exact faithful
  | tail earlier move before => exact move.isFaithful before

theorem Clicks.isFaithful {switch : Switch} {hold next : SharedHold Owner Switch}
    (clicks : Clicks switch hold next) (faithful : hold.IsFaithful) : next.IsFaithful := by
  obtain ⟨steady, moves, rfl | ⟨free, rfl⟩⟩ := clicks
  · exact moves.isFaithful faithful
  · intro other
    have before := moves.isFaithful faithful other
    by_cases same : switch = other
    · subst same
      simp [click, isDown, free]
    · simp [click, isDown, same, before]

omit [DecidableEq Owner] in
theorem letGoAll_isFaithful (hold : SharedHold Owner Switch) : hold.letGoAll.IsFaithful := by
  intro switch
  simp [letGoAll, isDown]

end SharedHold

end ImCodes.Library
