/-!
# Computations with a known outcome

A fallible computation that yields a known value where a condition holds and fails where it does
not. The rules follow the steps of the computation, so that its condition and its value are put
together as the computation is.
-/

set_option autoImplicit false

namespace ImCodes.Library

variable {Failure Value Result : Type}

structure Yields (condition : Prop) (value : Value) (outcome : Except Failure Value) : Prop where
  ok : condition → outcome = .ok value
  error : ¬condition → ∃ failure, outcome = .error failure

namespace Yields

theorem pure {value : Value} : Yields True value (.ok value : Except Failure Value) :=
  ⟨fun _ => rfl, fun impossible => absurd trivial impossible⟩

/-- A step that is taken under a condition only. -/
theorem guarded {condition other : Prop} [Decidable condition] {value : Value} {failure : Failure}
    {outcome : Except Failure Value} (next : Yields other value outcome) :
    Yields (condition ∧ other) value (if condition then outcome else .error failure) := by
  constructor
  · intro holds
    rw [if_pos holds.1, next.ok holds.2]
  · intro fails
    by_cases holds : condition
    · rw [if_pos holds]
      exact next.error fun otherHolds => fails ⟨holds, otherHolds⟩
    · rw [if_neg holds]
      exact ⟨failure, rfl⟩

theorem bind {first second : Prop} {value : Value} {result : Result}
    {outcome : Except Failure Value} {next : Value → Except Failure Result}
    (yields : Yields first value outcome) (yieldsNext : Yields second result (next value)) :
    Yields (first ∧ second) result (outcome >>= next) := by
  constructor
  · intro holds
    rw [yields.ok holds.1]
    exact yieldsNext.ok holds.2
  · intro fails
    by_cases holds : first
    · rw [yields.ok holds]
      exact yieldsNext.error fun nextHolds => fails ⟨holds, nextHolds⟩
    · obtain ⟨failure, failed⟩ := yields.error holds
      rw [failed]
      exact ⟨failure, rfl⟩

/-- A last step that cannot fail. -/
theorem last {condition : Prop} {value : Value} {result : Result}
    {outcome : Except Failure Value} {next : Value → Except Failure Result}
    (yields : Yields condition value outcome) (final : next value = .ok result) :
    Yields condition result (outcome >>= next) := by
  constructor
  · intro holds
    rw [yields.ok holds]
    exact final
  · intro fails
    obtain ⟨failure, failed⟩ := yields.error fails
    rw [failed]
    exact ⟨failure, rfl⟩

theorem congr {condition other : Prop} {value : Value} {outcome : Except Failure Value}
    (yields : Yields condition value outcome) (same : condition ↔ other) :
    Yields other value outcome := by
  constructor
  · intro holds
    exact yields.ok (same.mpr holds)
  · intro fails
    exact yields.error fun holds => fails (same.mp holds)

theorem error_iff {condition : Prop} {value : Value} {outcome : Except Failure Value}
    (yields : Yields condition value outcome) :
    (∃ failure, outcome = .error failure) ↔ ¬condition := by
  constructor
  · intro ⟨failure, failed⟩ holds
    rw [yields.ok holds] at failed
    cases failed
  · exact yields.error

theorem eq_of_ok {condition : Prop} {value other : Value} {outcome : Except Failure Value}
    (yields : Yields condition value outcome) (succeeded : outcome = .ok other) :
    condition ∧ other = value := by
  by_cases holds : condition
  · rw [yields.ok holds] at succeeded
    exact ⟨holds, (Except.ok.inj succeeded).symm⟩
  · obtain ⟨failure, failed⟩ := yields.error holds
    rw [failed] at succeeded
    cases succeeded

end Yields

/-! ## Computations that succeed -/

theorem ok_of_bind {first : Except Failure Value} {next : Value → Except Failure Result}
    {result : Result} (succeeded : first >>= next = .ok result) :
    ∃ value, first = .ok value ∧ next value = .ok result := by
  cases first with
  | error failure => cases succeeded
  | ok value => exact ⟨value, rfl, succeeded⟩

end ImCodes.Library
