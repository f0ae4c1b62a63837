import Mathlib.Data.List.Nodup

/-!
# Runs of a deterministic machine

A machine is a step function from a state and an action to the next state. A run
performs a finite list of actions in order. The rules below carry a property from
one step to a whole run; `Meets` restricts a run to the actions a condition allows
in the state each one finds.
-/

set_option autoImplicit false

namespace ImCodes.Library

variable {State Action : Type}

def run (step : State → Action → State) (state : State) (actions : List Action) : State :=
  actions.foldl step state

theorem foldl_unchanged {Item Value : Type} {round : State → Item → State}
    (view : State → Value) (unchanged : ∀ state item, view (round state item) = view state)
    (items : List Item) (state : State) : view (items.foldl round state) = view state := by
  induction items generalizing state with
  | nil => rfl
  | cons item rest ih => exact (ih _).trans (unchanged state item)

/-- The states a machine can be in after a run from `start`. -/
def Reachable (step : State → Action → State) (start state : State) : Prop :=
  ∃ actions, run step start actions = state

/-- Every action of a run is allowed in the state it is performed in. -/
def Meets (step : State → Action → State) (allowed : State → Action → Prop) :
    State → List Action → Prop
  | _, [] => True
  | state, action :: rest => allowed state action ∧ Meets step allowed (step state action) rest

instance decidableMeets {step : State → Action → State} {allowed : State → Action → Prop}
    [∀ state action, Decidable (allowed state action)] :
    ∀ state actions, Decidable (Meets step allowed state actions)
  | _, [] => isTrue trivial
  | state, action :: rest =>
    have := @decidableMeets step allowed _ (step state action) rest
    inferInstanceAs (Decidable (_ ∧ _))

@[simp] theorem run_nil (step : State → Action → State) (state : State) :
    run step state [] = state := rfl

@[simp] theorem run_cons (step : State → Action → State) (state : State) (action : Action)
    (rest : List Action) : run step state (action :: rest) = run step (step state action) rest := rfl

theorem run_append (step : State → Action → State) (state : State) (first second : List Action) :
    run step state (first ++ second) = run step (run step state first) second :=
  List.foldl_append

theorem meets_append {step : State → Action → State} {allowed : State → Action → Prop}
    {state : State} {first second : List Action} :
    Meets step allowed state (first ++ second) ↔
      Meets step allowed state first ∧ Meets step allowed (run step state first) second := by
  induction first generalizing state with
  | nil => simp [Meets]
  | cons action rest ih => simp [Meets, ih, and_assoc]

theorem Meets.mono {step : State → Action → State} {allowed weaker : State → Action → Prop}
    (imp : ∀ state action, allowed state action → weaker state action)
    {state : State} {actions : List Action} (meets : Meets step allowed state actions) :
    Meets step weaker state actions := by
  induction actions generalizing state with
  | nil => trivial
  | cons action rest ih => exact ⟨imp _ _ meets.1, ih meets.2⟩

theorem meets_of_forall {step : State → Action → State} {allowed : State → Action → Prop}
    (all : ∀ state action, allowed state action) (state : State) (actions : List Action) :
    Meets step allowed state actions := by
  induction actions generalizing state with
  | nil => trivial
  | cons action rest ih => exact ⟨all _ _, ih _⟩

/-- What each action of a run promises by itself may be taken along. -/
theorem meets_and_iff {step : State → Action → State} {allowed : State → Action → Prop}
    {promised : Action → Prop} {state : State} {actions : List Action}
    (keeps : ∀ action ∈ actions, promised action) :
    Meets step (fun state action => promised action ∧ allowed state action) state actions ↔
      Meets step allowed state actions := by
  induction actions generalizing state with
  | nil => exact Iff.rfl
  | cons action rest ih =>
    have first : promised action := keeps action (by simp)
    have later : ∀ action ∈ rest, promised action := by
      intro action isLater
      exact keeps action (by simp [isLater])
    simp only [Meets, first, true_and, ih later]

theorem meets_of_each {step : State → Action → State} {promised : Action → Prop}
    {actions : List Action} (keeps : ∀ action ∈ actions, promised action) (state : State) :
    Meets step (fun _ action => promised action) state actions := by
  induction actions generalizing state with
  | nil => trivial
  | cons action rest ih =>
    exact ⟨keeps action (by simp), ih (fun later isLater => keeps later (by simp [isLater])) _⟩

/-- What the actions of a run amount to, each counted in the state it is performed in. -/
def tally (step : State → Action → State) (value : State → Action → Nat) :
    State → List Action → Nat
  | _, [] => 0
  | state, action :: rest => value state action + tally step value (step state action) rest

def AtEach {Item : Type} (condition : List Item → Item → Prop) (items : List Item) : Prop :=
  ∀ earlier item later, items = earlier ++ item :: later → condition earlier item

theorem atEach_nil {Item : Type} {condition : List Item → Item → Prop} :
    AtEach condition [] := by
  intro earlier item later impossible
  cases List.append_eq_nil_iff.mp impossible.symm |>.2

theorem atEach_concat {Item : Type} {condition : List Item → Item → Prop} {items : List Item}
    {last : Item} :
    AtEach condition (items ++ [last]) ↔ AtEach condition items ∧ condition items last := by
  constructor
  · intro holds
    refine ⟨?_, holds items last [] rfl⟩
    rintro earlier item later rfl
    exact holds earlier item (later ++ [last]) (List.append_assoc _ _ _)
  · rintro ⟨holds, atLast⟩ earlier item later split
    rcases List.eq_nil_or_concat later with rfl | ⟨rest, final, rfl⟩
    · obtain ⟨rfl, same⟩ := List.append_inj' split rfl
      cases same
      exact atLast
    · rw [List.concat_eq_append, ← List.cons_append, ← List.append_assoc] at split
      exact holds earlier item rest (List.append_inj' split rfl).1

theorem run_invariant {step : State → Action → State} {allowed : State → Action → Prop}
    {invariant : State → Prop}
    (preserved : ∀ state action, allowed state action → invariant state →
      invariant (step state action))
    {state : State} {actions : List Action} (holds : invariant state)
    (meets : Meets step allowed state actions) : invariant (run step state actions) := by
  induction actions generalizing state with
  | nil => exact holds
  | cons action rest ih => exact ih (preserved _ _ meets.1 holds) meets.2

/-- Where two conditions on a step agree under an invariant, a run meets one if it meets the
other. -/
theorem meets_iff_meets {step : State → Action → State} {allowed other : State → Action → Prop}
    {invariant : State → Prop}
    (agrees : ∀ state action, invariant state → (other state action ↔ allowed state action))
    (preserved : ∀ state action, invariant state → allowed state action →
      invariant (step state action))
    {start : State} (initial : invariant start) (actions : List Action) :
    Meets step other start actions ↔ Meets step allowed start actions := by
  induction actions generalizing start with
  | nil => exact Iff.rfl
  | cons action rest ih =>
    simp only [Meets]
    rw [agrees start action initial]
    constructor
    · intro ⟨first, later⟩
      exact ⟨first, (ih (preserved start action initial first)).mp later⟩
    · intro ⟨first, later⟩
      exact ⟨first, (ih (preserved start action initial first)).mpr later⟩

def Always (step : State → Action → State) (holds : State → Prop) (start : State)
    (actions : List Action) : Prop :=
  ∀ earlier later, actions = earlier ++ later → holds (run step start earlier)

theorem always_cons {step : State → Action → State} {holds : State → Prop} {start : State}
    {action : Action} {rest : List Action} :
    Always step holds start (action :: rest) ↔
      holds start ∧ Always step holds (step start action) rest := by
  constructor
  · intro always
    constructor
    · exact always [] (action :: rest) rfl
    · intro earlier later split
      exact always (action :: earlier) later (by rw [split]; rfl)
  · intro ⟨atStart, always⟩ earlier later split
    cases earlier with
    | nil => exact atStart
    | cons first earlier =>
      cases split
      exact always earlier later rfl

/-- Where each step keeps a condition exactly if it is allowed, a run keeps it throughout
exactly if all its steps are. -/
theorem always_iff_meets {step : State → Action → State} {allowed : State → Action → Prop}
    {invariant holds : State → Prop}
    (preserved : ∀ state action, invariant state → holds state → invariant (step state action))
    (agrees : ∀ state action, invariant state → holds state →
      (holds (step state action) ↔ allowed state action))
    {start : State} (initial : invariant start) (startHolds : holds start)
    (actions : List Action) :
    Always step holds start actions ↔ Meets step allowed start actions := by
  induction actions generalizing start with
  | nil =>
    constructor
    · intro _
      trivial
    · intro _ earlier later split
      cases (List.append_eq_nil_iff.mp split.symm).1
      exact startHolds
  | cons action rest ih =>
    rw [always_cons]
    constructor
    · intro ⟨_, always⟩
      have after : holds (step start action) := always [] rest rfl
      exact ⟨(agrees start action initial startHolds).mp after,
        (ih (preserved start action initial startHolds) after).mp always⟩
    · intro ⟨first, later⟩
      have after := (agrees start action initial startHolds).mpr first
      exact ⟨startHolds, (ih (preserved start action initial startHolds) after).mpr later⟩

theorem Reachable.run {step : State → Action → State} {start state : State}
    (reachable : Reachable step start state) (actions : List Action) :
    Reachable step start (run step state actions) := by
  obtain ⟨earlier, rfl⟩ := reachable
  exact ⟨earlier ++ actions, run_append step start earlier actions⟩

theorem Reachable.invariant {step : State → Action → State} {start : State}
    {invariant : State → Prop} (initial : invariant start)
    (preserved : ∀ state action, invariant state → invariant (step state action))
    {state : State} (reachable : Reachable step start state) : invariant state := by
  obtain ⟨actions, rfl⟩ := reachable
  exact @run_invariant _ _ _ (fun _ _ => True) _ (fun state action _ => preserved state action)
    _ _ initial (meets_of_forall (fun _ _ => trivial) start actions)

theorem run_related {step : State → Action → State} {related : State → State → Prop}
    (reflexive : ∀ state, related state state)
    (transitive : ∀ first second third, related first second → related second third →
      related first third)
    (advances : ∀ state action, related state (step state action))
    (state : State) (actions : List Action) : related state (run step state actions) := by
  induction actions generalizing state with
  | nil => exact reflexive state
  | cons action rest ih => exact transitive _ _ _ (advances state action) (ih _)

end ImCodes.Library
