import ImCodes.Remote.HeldInput
import ImCodes.Remote.SessionCore

/-!
# Replayed and overtaken input

A stamp is taken only if it is newer than what the ledger remembers of its controller. The
memory is part of the record of what the controller holds, so a release erases both, and what
was applied before the release can be applied again.
-/

set_option autoImplicit false

namespace ImCodes.Remote

open Library

def Precedes (first second : Nat × Nat) : Prop :=
  first.1 < second.1 ∨ (first.1 = second.1 ∧ first.2 < second.2)

instance (first second : Nat × Nat) : Decidable (Precedes first second) :=
  inferInstanceAs (Decidable (_ ∨ _))

theorem Precedes.trans {first second third : Nat × Nat} (before : Precedes first second)
    (after : Precedes second third) : Precedes first third := by
  unfold Precedes at *
  omega

def InputStamp.position (stamp : InputStamp) : Nat × Nat := (stamp.epoch, stamp.sequence)

namespace InputLedger

variable {platform : List Emission → Emission → Bool} {ledger next : InputLedger}

def memory (ledger : InputLedger) (controllerId : Bytes) : Option (Nat × Nat) :=
  (ledger.controllers.get? controllerId).map fun state => (state.epoch, state.lastSequence)

theorem memory_of_controllers (same : next.controllers = ledger.controllers) :
    next.memory = ledger.memory := by
  unfold memory
  rw [same]

@[simp] theorem memory_withController (controllerId other : Bytes) (state : ControllerState) :
    (ledger.withController controllerId state).memory other =
      if controllerId = other then some (state.epoch, state.lastSequence)
      else ledger.memory other := by
  simp only [memory, withController, Dictionary.get?_put]
  split <;> rfl

theorem memory_of_get {controllerId : Bytes} {state : ControllerState}
    (found : ledger.controllers.get? controllerId = some state) :
    ledger.memory controllerId = some (state.epoch, state.lastSequence) := by
  simp [memory, found]

theorem memory_withController_same {controllerId : Bytes} {state changed : ControllerState}
    (found : ledger.controllers.get? controllerId = some state)
    (epoch : changed.epoch = state.epoch) (sequence : changed.lastSequence = state.lastSequence) :
    (ledger.withController controllerId changed).memory = ledger.memory := by
  funext other
  rw [memory_withController]
  split
  · next same =>
      subst same
      rw [memory_of_get found, epoch, sequence]
  · rfl

theorem dropOwners_controllers (kind : TokenKind) (controllerId : Bytes) (tokens : List Bytes)
    (ledger : InputLedger) (released : Bool) :
    (dropOwners platform kind controllerId tokens ledger released).1.controllers =
      ledger.controllers := by
  induction tokens generalizing ledger released with
  | nil => rfl
  | cons token rest ih => exact (ih _ _).trans (dropOwner_controllers kind controllerId token)

theorem memory_releaseControllerState {controllerId : Bytes} {state : ControllerState}
    (found : ledger.controllers.get? controllerId = some state) :
    (ledger.releaseControllerState platform controllerId state).1.memory = ledger.memory := by
  have sameFirst := @dropOwners_controllers platform .key controllerId state.keys.keys ledger true
  unfold releaseControllerState
  generalize dropOwners platform .key controllerId state.keys.keys ledger true = first
    at sameFirst
  obtain ⟨middle, accepted⟩ := first
  have same := (@dropOwners_controllers platform .button controllerId state.buttons.keys middle
    accepted).trans sameFirst
  generalize isLast : dropOwners platform .button controllerId state.buttons.keys middle
    accepted = last at same
  obtain ⟨last, lastAccepted⟩ := last
  simp only [isLast]
  have kept : last.controllers.get? controllerId = some state := by
    rw [same]
    exact found
  rw [← memory_of_controllers same]
  exact memory_withController_same kept rfl rfl

/-- What the ledger makes of a stamp: a stamp that is taken is newer than what is remembered of
its controller and is what is remembered next; one that is refused leaves no trace. -/
structure Takes (ledger : InputLedger) (stamp : InputStamp) (revision : Nat)
    (outcome : InputLedger × InputResult) : Prop where
  taken : outcome.2 = .applied → stamp.topologyRevision = revision ∧
    (∀ position, ledger.memory stamp.controllerId = some position →
      Precedes position stamp.position) ∧
    ∀ other, outcome.1.memory other =
      if stamp.controllerId = other then some stamp.position else ledger.memory other
  refused : outcome.2 ≠ .applied → outcome.2 ≠ .adapterFailure →
    outcome.1.memory = ledger.memory

theorem takes_unchanged {stamp : InputStamp} {revision : Nat} {result : InputResult}
    (refused : result ≠ .applied) : Takes ledger stamp revision (ledger, result) where
  taken := fun applied => absurd applied refused
  refused := fun _ _ => rfl

theorem admitSequence_takes {stamp : InputStamp} {revision : Nat} {middle : InputLedger}
    {state : ControllerState} (current : stamp.topologyRevision = revision)
    (sameMemory : middle.memory = ledger.memory) (epoch : state.epoch = stamp.epoch)
    (known : ∀ position, ledger.memory stamp.controllerId = some position →
      Precedes position stamp.position ∨ position = (state.epoch, state.lastSequence))
    (stale : stamp.sequence ≤ state.lastSequence →
      ledger.memory stamp.controllerId = some (state.epoch, state.lastSequence)) :
    Takes ledger stamp revision (middle.admitSequence stamp state) := by
  unfold admitSequence
  split
  · next old =>
      refine ⟨fun applied => (by cases applied), fun _ _ => ?_⟩
      funext other
      rw [memory_withController, sameMemory]
      split
      · next same => rw [← same, stale old]
      · rfl
  · next new =>
      rw [not_le] at new
      refine ⟨fun _ => ⟨current, ?_, fun other => ?_⟩, fun notApplied => absurd rfl notApplied⟩
      · intro position remembered
        rcases known position remembered with before | isState
        · exact before
        · subst isState
          exact .inr ⟨epoch, new⟩
      · rw [memory_withController, sameMemory, epoch]
        rfl

theorem validateStamp_takes (stamp : InputStamp) (revision : Nat) :
    Takes ledger stamp revision (ledger.validateStamp platform stamp revision) := by
  unfold validateStamp
  split
  · exact takes_unchanged (by simp)
  next current =>
    rw [not_or, not_not] at current
    split
    · exact takes_unchanged (by simp)
    next wellFormed =>
      simp only [not_or] at wellFormed
      have positive : ¬ stamp.sequence ≤ 0 := fun none => wellFormed.2.2.2 (Nat.le_zero.mp none)
      cases found : ledger.controllers.get? stamp.controllerId with
      | none =>
        refine admitSequence_takes current.2 rfl rfl ?_ fun old => absurd old positive
        intro position remembered
        simp [memory, found] at remembered
      | some state =>
        have remembers := memory_of_get found
        dsimp only
        split
        · exact takes_unchanged (by simp)
        next notBefore =>
          split
          · next after =>
              have sameMemory := @memory_releaseControllerState platform ledger _ _ found
              generalize ledger.releaseControllerState platform stamp.controllerId state =
                released at sameMemory
              obtain ⟨middle, accepted⟩ := released
              dsimp only
              split
              · refine admitSequence_takes current.2 sameMemory rfl ?_
                  fun old => absurd old positive
                intro position remembered
                rw [remembers] at remembered
                cases remembered
                exact .inl (.inl after)
              · exact ⟨fun applied => (by cases applied), fun _ noFailure => absurd rfl noFailure⟩
          · next notAfter =>
              refine admitSequence_takes current.2 rfl ?_ ?_ fun _ => remembers
              · omega
              · intro position remembered
                rw [remembers] at remembered
                cases remembered
                exact .inr rfl

theorem Takes.followed {stamp : InputStamp} {revision : Nat} {middle : InputLedger}
    {result : InputResult} (takes : Takes ledger stamp revision (middle, .applied))
    (same : next.memory = middle.memory)
    (ends : result = .applied ∨ result = .adapterFailure) :
    Takes ledger stamp revision (next, result) where
  taken := by
    intro applied
    obtain ⟨current, newer, remembered⟩ := takes.taken rfl
    refine ⟨current, newer, fun other => ?_⟩
    rw [← remembered other]
    exact congrFun same other
  refused := by
    intro notApplied noFailure
    rcases ends with applied | failed
    · exact absurd applied notApplied
    · exact absurd failed noFailure

theorem applyEmission_takes (stamp : InputStamp) (revision : Nat) (emission : Emission) :
    Takes ledger stamp revision (ledger.applyEmission platform stamp revision emission) := by
  have validated := @validateStamp_takes platform ledger stamp revision
  unfold applyEmission
  split
  · next taken =>
      rw [taken] at validated
      refine validated.followed rfl ?_
      split <;> simp
  · exact validated

theorem memory_press {kind : TokenKind} {stamp : InputStamp} {token : Bytes} {heal : Bool}
    {state : ControllerState} (found : ledger.controllers.get? stamp.controllerId = some state) :
    (ledger.press platform kind stamp token heal state).1.memory = ledger.memory := by
  have kept : (ledger.withController stamp.controllerId
      (state.withHeld kind ((state.held kind).put token stamp.sequence))).memory =
        ledger.memory := memory_withController_same found (by simp) (by simp)
  have owned := (memory_of_controllers (controllers_withOwners kind
    ((ledger.ownersOf kind).put token
      (insert stamp.controllerId (ledger.owners kind token))))).trans kept
  unfold press
  dsimp only
  split
  · rfl
  split
  · cases heal with
    | true => exact owned
    | false => exact owned
  · exact owned

theorem press_result {kind : TokenKind} {stamp : InputStamp} {token : Bytes} {heal : Bool}
    {state : ControllerState} :
    (ledger.press platform kind stamp token heal state).2 = .applied ∨
      (ledger.press platform kind stamp token heal state).2 = .adapterFailure := by
  unfold press
  dsimp only
  split
  · exact .inl rfl
  split
  · split <;> simp
  · exact .inl rfl

theorem memory_letGo {kind : TokenKind} {controllerId token : Bytes} {state : ControllerState}
    (found : ledger.controllers.get? controllerId = some state) :
    (ledger.letGo platform kind controllerId token state).1.memory = ledger.memory := by
  unfold letGo
  split
  · refine (memory_of_controllers (dropOwner_controllers kind controllerId token)).trans ?_
    exact memory_withController_same found (by simp) (by simp)
  · rfl

theorem letGo_result {kind : TokenKind} {controllerId token : Bytes} {state : ControllerState} :
    (ledger.letGo platform kind controllerId token state).2 = .applied ∨
      (ledger.letGo platform kind controllerId token state).2 = .adapterFailure := by
  unfold letGo
  dsimp only
  split
  · split <;> simp
  · exact .inl rfl

theorem applyOwnedTransition_takes (kind : TokenKind) (stamp : InputStamp) (revision : Nat)
    (token : Bytes) (pressed heal : Bool) :
    Takes ledger stamp revision
      (ledger.applyOwnedTransition platform kind stamp revision token pressed heal) := by
  have validated := @validateStamp_takes platform ledger stamp revision
  unfold applyOwnedTransition
  split
  · split
    · next taken =>
        rw [taken] at validated
        split
        · exact validated
        · next state found =>
            cases pressed with
            | true => exact validated.followed (memory_press found) press_result
            | false => exact validated.followed (memory_letGo found) letGo_result
    · exact validated
  · exact takes_unchanged (by simp)

theorem clickButton_takes (stamp : InputStamp) (revision : Nat) (button : Bytes) :
    Takes ledger stamp revision (ledger.clickButton platform stamp revision button) := by
  have validated := @validateStamp_takes platform ledger stamp revision
  unfold clickButton
  split
  · exact takes_unchanged (by simp)
  split
  · exact takes_unchanged (by simp)
  split
  · next taken =>
      rw [taken] at validated
      dsimp only
      split
      · refine validated.followed rfl ?_
        split <;> simp
      · exact validated.followed rfl (.inr rfl)
  · exact validated

/-! ## Releases -/

theorem memory_releaseController (controllerId other : Bytes) :
    (ledger.releaseController platform controllerId).1.memory other = ledger.memory other ∨
      (ledger.releaseController platform controllerId).1.memory other = none := by
  cases found : ledger.controllers.get? controllerId with
  | none => exact .inl (by simp only [releaseController, found])
  | some state =>
    have kept := congrFun (@memory_releaseControllerState platform ledger _ _ found) other
    simp only [releaseController, found]
    generalize ledger.releaseControllerState platform controllerId state = released at kept
    obtain ⟨middle, accepted⟩ := released
    simp only [memory, Dictionary.get?_erase] at kept ⊢
    by_cases same : other = controllerId
    · exact .inr (by simp [same])
    · exact .inl (by rw [if_neg same]; exact kept)

theorem releaseUndeclared_controllers {kind : TokenKind} {controllerId : Bytes}
    {declared : Finset Bytes} {before : Nat} (entries : List (Bytes × Nat))
    (progress : HeldMap × InputLedger × Bool × Nat) :
    (entries.foldl (releaseUndeclaredEntry platform kind controllerId declared before)
      progress).2.1.controllers = progress.2.1.controllers := by
  refine foldl_unchanged
    (fun progress : HeldMap × InputLedger × Bool × Nat => progress.2.1.controllers) ?_ entries
    progress
  intro progress entry
  unfold releaseUndeclaredEntry
  dsimp only
  split
  · rfl
  · exact dropOwner_controllers kind controllerId entry.1

theorem memory_reconcileController {declaredKeys declaredButtons : Finset Bytes} {before : Nat}
    {ok : Bool} {released : Nat} {entry : Bytes × ControllerState}
    (known : ledger.memory entry.1 = some (entry.2.epoch, entry.2.lastSequence)) :
    (reconcileController platform declaredKeys declaredButtons before (ledger, ok, released)
      entry).1.memory = ledger.memory := by
  funext other
  unfold reconcileController releaseUndeclared
  dsimp only
  rw [memory_withController]
  split
  · next same => rw [← same, known]
  · rw [memory_of_controllers (releaseUndeclared_controllers _ _),
      memory_of_controllers (releaseUndeclared_controllers _ _)]

theorem memory_reconcileHeld (declaredKeys declaredButtons : Finset Bytes) (before : Nat) :
    (ledger.reconcileHeld platform declaredKeys declaredButtons before).1.memory =
      ledger.memory := by
  have loop : ∀ (entries : List (Bytes × ControllerState)) (current : InputLedger) (ok : Bool)
      (released : Nat), (∀ entry, entry ∈ entries →
        current.memory entry.1 = some (entry.2.epoch, entry.2.lastSequence)) →
      (entries.foldl (reconcileController platform declaredKeys declaredButtons before)
        (current, ok, released)).1.memory = current.memory := by
    intro entries
    induction entries with
    | nil => exact fun _ _ _ _ => rfl
    | cons entry rest ih =>
      intro current ok released known
      have kept := @memory_reconcileController platform current declaredKeys declaredButtons
        before ok released entry (known entry List.mem_cons_self)
      rw [List.foldl_cons]
      generalize reconcileController platform declaredKeys declaredButtons before
        (current, ok, released) entry = progress at kept
      obtain ⟨middle, middleOk, middleReleased⟩ := progress
      refine (ih middle middleOk middleReleased fun other member => ?_).trans kept
      rw [kept]
      exact known other (List.mem_cons_of_mem _ member)
  refine loop ledger.controllers.rows ledger true 0 fun entry member => ?_
  exact memory_of_get (Dictionary.get?_eq_some_iff.mpr member)

/-! ## A controller the ledger does not know -/

def IsPresentable (stamp : InputStamp) (revision : Nat) : Prop :=
  ¬ (revision = 0 ∨ stamp.topologyRevision ≠ revision) ∧
    ¬ (stamp.controllerId = [] ∨ stamp.controllerId.length > maximumControllerIdBytes ∨
      stamp.epoch = 0 ∨ stamp.sequence = 0)

def welcome (ledger : InputLedger) (stamp : InputStamp) : InputLedger :=
  ledger.withController stamp.controllerId
    { ControllerState.fresh stamp.epoch with lastSequence := stamp.sequence }

section
variable {stamp : InputStamp} {revision : Nat}

theorem get_of_forgotten (forgotten : ledger.memory stamp.controllerId = none) :
    ledger.controllers.get? stamp.controllerId = none := by
  simpa [memory] using forgotten

theorem validateStamp_newcomer (forgotten : ledger.memory stamp.controllerId = none)
    (presentable : IsPresentable stamp revision) :
    ledger.validateStamp platform stamp revision = (ledger.welcome stamp, .applied) := by
  have positive : ¬ stamp.sequence ≤ 0 := by
    obtain ⟨-, wellFormed⟩ := presentable
    simp only [not_or] at wellFormed
    omega
  rw [validateStamp, if_neg presentable.1, if_neg presentable.2, get_of_forgotten forgotten]
  exact if_neg positive

theorem validateStamp_unpresentable (unpresentable : ¬ IsPresentable stamp revision) :
    ∃ result, ledger.validateStamp platform stamp revision = (ledger, result) ∧
      result ≠ .applied := by
  unfold validateStamp
  split
  · exact ⟨_, rfl, by simp⟩
  next current =>
    split
    · exact ⟨_, rfl, by simp⟩
    next wellFormed => exact absurd ⟨current, wellFormed⟩ unpresentable

theorem applyEmission_newcomer (forgotten : ledger.memory stamp.controllerId = none)
    (emission : Emission) :
    (ledger.applyEmission platform stamp revision emission).2 = .applied ↔
      IsPresentable stamp revision ∧ platform ledger.emitted emission = true := by
  by_cases presentable : IsPresentable stamp revision
  · rw [applyEmission, validateStamp_newcomer forgotten presentable]
    by_cases accepted : platform ledger.emitted emission = true
    · simp [presentable, emit, welcome, withController, accepted]
    · simp [emit, welcome, withController, accepted]
  · obtain ⟨result, refused, notApplied⟩ :=
      @validateStamp_unpresentable platform ledger _ _ presentable
    rw [applyEmission, refused]
    cases result <;> simp_all

/-- The platform accepts a press of a controller that holds nothing, where it is asked. -/
def IsPressAccepted (platform : List Emission → Emission → Bool) (ledger : InputLedger)
    (kind : TokenKind) (token : Bytes) (heal : Bool) : Prop :=
  ledger.owners kind token = ∅ →
    platform (if heal then .releaseLatchedModifiers :: ledger.emitted else ledger.emitted)
      (.transition kind token true) = true

theorem press_newcomer (kind : TokenKind) (token : Bytes) (heal : Bool)
    {state : ControllerState} (holdsNothing : (state.held kind).get? token = none) :
    (ledger.press platform kind stamp token heal state).2 = .applied ↔
      IsPressAccepted platform ledger kind token heal := by
  unfold press IsPressAccepted
  simp only [holdsNothing, Option.isSome_none, Bool.false_eq_true, if_false]
  by_cases free : ledger.owners kind token = ∅
  · simp only [free, forall_const, if_true]
    cases heal with
    | true => simp [emit, withController]
    | false => simp [emit, withController]
  · simp [free]

theorem isPressAccepted_welcome {kind : TokenKind} {token : Bytes} {heal : Bool} :
    IsPressAccepted platform (ledger.welcome stamp) kind token heal ↔
      IsPressAccepted platform ledger kind token heal := by
  simp [IsPressAccepted, welcome]

theorem applyOwnedTransition_newcomer (forgotten : ledger.memory stamp.controllerId = none)
    (kind : TokenKind) (token : Bytes) (pressed heal : Bool) :
    (ledger.applyOwnedTransition platform kind stamp revision token pressed heal).2 = .applied ↔
      isBoundedToken token = true ∧ IsPresentable stamp revision ∧
        (pressed = true → IsPressAccepted platform ledger kind token heal) := by
  unfold applyOwnedTransition
  by_cases bounded : isBoundedToken token = true
  · by_cases presentable : IsPresentable stamp revision
    · rw [if_pos bounded, validateStamp_newcomer forgotten presentable]
      have found : (ledger.welcome stamp).controllers.get? stamp.controllerId =
          some { ControllerState.fresh stamp.epoch with lastSequence := stamp.sequence } := by
        simp [welcome, withController]
      have holdsNothing : (ControllerState.held { ControllerState.fresh stamp.epoch with
          lastSequence := stamp.sequence } kind).get? token = none := by
        cases kind <;> rfl
      simp only [found, bounded, presentable, true_and]
      cases pressed with
      | true =>
        simp only [if_true, forall_const]
        rw [press_newcomer kind token heal holdsNothing, isPressAccepted_welcome]
      | false => simp [letGo, holdsNothing]
    · obtain ⟨result, refused, notApplied⟩ :=
        @validateStamp_unpresentable platform ledger _ _ presentable
      rw [if_pos bounded, refused]
      cases result <;> simp_all
  · simp [bounded]

theorem clickButton_newcomer (forgotten : ledger.memory stamp.controllerId = none)
    (button : Bytes) :
    (ledger.clickButton platform stamp revision button).2 = .applied ↔
      ¬ (button = [] ∨ button.length > maximumInputTokenBytes) ∧
        ledger.owners .button button = ∅ ∧ IsPresentable stamp revision ∧
        platform (.releaseLatchedModifiers :: ledger.emitted)
          (.transition .button button true) = true ∧
        platform (.transition .button button true :: .releaseLatchedModifiers :: ledger.emitted)
          (.transition .button button false) = true := by
  unfold clickButton
  by_cases malformed : button = [] ∨ button.length > maximumInputTokenBytes
  · simp [malformed]
  by_cases free : ledger.owners .button button = ∅
  · by_cases presentable : IsPresentable stamp revision
    · rw [if_neg malformed, if_neg (not_not.mpr free), validateStamp_newcomer forgotten presentable]
      simp only [malformed, free, presentable, not_false_eq_true, true_and]
      by_cases down : platform (.releaseLatchedModifiers :: ledger.emitted)
          (.transition .button button true) = true
      · simp [emit, welcome, withController, down]
      · simp [emit, welcome, withController, down]
    · obtain ⟨result, refused, notApplied⟩ :=
        @validateStamp_unpresentable platform ledger _ _ presentable
      rw [if_neg malformed, if_neg (not_not.mpr free), refused]
      cases result <;> simp_all
  · simp [malformed, free]

end

end InputLedger

namespace SessionCore

variable {host : SessionHost} {core next : SessionCore}

/-- What a call without an applied input does to the memory: it keeps or loses it. -/
structure Forgets (core next : SessionCore) : Prop where
  memory : ∀ controllerId, next.ledger.memory controllerId = core.ledger.memory controllerId ∨
    next.ledger.memory controllerId = none
  topology : next.topology = core.topology ∨ ∀ controllerId, next.ledger.memory controllerId = none
  idle : next.state = .idle → core.state = .idle

theorem Forgets.refl (core : SessionCore) : Forgets core core :=
  ⟨fun _ => .inl rfl, .inl rfl, id⟩

theorem Forgets.trans {last : SessionCore} (first : Forgets core next)
    (second : Forgets next last) : Forgets core last where
  memory := by
    intro controllerId
    rcases second.memory controllerId with same | lost
    · rw [same]
      exact first.memory controllerId
    · exact .inr lost
  topology := by
    rcases second.topology with same | lost
    · rcases first.topology with sameBefore | lostBefore
      · exact .inl (same.trans sameBefore)
      · refine .inr fun controllerId => ?_
        rcases second.memory controllerId with kept | lost
        · rw [kept, lostBefore]
        · exact lost
    · exact .inr lost
  idle := fun isIdle => first.idle (second.idle isIdle)

theorem memory_releaseAllControllers (controllerId : Bytes) :
    (core.releaseAllControllers host).ledger.memory controllerId = none := by
  simp [releaseAllControllers, InputLedger.releaseAll, InputLedger.memory]

theorem stop_forgets (core : SessionCore) (error : TerminalError) :
    Forgets core (core.stop host error) := by
  unfold stop
  split
  · exact .refl core
  · exact ⟨fun _ => .inr (memory_releaseAllControllers _),
      .inr fun _ => memory_releaseAllControllers _, fun isIdle => by cases isIdle⟩

theorem reportAdapterFailure_forgets (core : SessionCore) (error : TerminalError) :
    Forgets core (core.reportAdapterFailure host error) :=
  stop_forgets core _

theorem handleLedgerResult_forgets {outcome : InputLedger × InputResult} (operation : String)
    (kept : outcome.2 ≠ .adapterFailure → outcome.1.memory = core.ledger.memory)
    (failed : outcome.2 = .adapterFailure → core.state ≠ .terminal ∨
      ∀ controllerId, outcome.1.memory controllerId = core.ledger.memory controllerId ∨
        outcome.1.memory controllerId = none) :
    Forgets core (core.handleLedgerResult host outcome operation).1 := by
  unfold handleLedgerResult
  dsimp only
  split
  · next failure =>
      rcases failed failure with running | forgets
      · unfold reportAdapterFailure stop
        rw [if_neg running]
        exact ⟨fun _ => .inr (memory_releaseAllControllers _),
          .inr fun _ => memory_releaseAllControllers _, fun isIdle => by cases isIdle⟩
      · have kept : Forgets core { core with ledger := outcome.1 } := ⟨forgets, .inl rfl, id⟩
        exact kept.trans (reportAdapterFailure_forgets _ _)
  · next success =>
      exact ⟨fun controllerId => .inl (congrFun (kept success) controllerId), .inl rfl, id⟩

theorem handleLedgerResult_result (outcome : InputLedger × InputResult) (operation : String) :
    (core.handleLedgerResult host outcome operation).2 = outcome.2 := by
  unfold handleLedgerResult
  dsimp only
  split
  · next failure => exact failure.symm
  · rfl

theorem handleLedgerResult_applied {outcome : InputLedger × InputResult} (operation : String)
    (applied : outcome.2 = .applied) :
    (core.handleLedgerResult host outcome operation).1 = { core with ledger := outcome.1 } := by
  simp [handleLedgerResult, applied]

/-- What an input operation does: it is applied as the ledger takes its stamp, or it is not and
nothing new is remembered. -/
structure Answers (core : SessionCore) (stamp : InputStamp)
    (outcome : SessionCore × InputResult) : Prop where
  applied : outcome.2 = .applied → ∃ topology, core.topology = some topology ∧
    outcome.1.topology = core.topology ∧ outcome.1.state = core.state ∧
    core.state = .controlling ∧
    stamp.topologyRevision = topology.revision ∧
    (∀ position, core.ledger.memory stamp.controllerId = some position →
      Precedes position stamp.position) ∧
    ∀ other, outcome.1.ledger.memory other =
      if stamp.controllerId = other then some stamp.position else core.ledger.memory other
  otherwise : outcome.2 ≠ .applied → Forgets core outcome.1

theorem answers_unchanged {stamp : InputStamp} {result : InputResult}
    (refused : result ≠ .applied) : Answers core stamp (core, result) :=
  ⟨fun applied => absurd applied refused, fun _ => .refl core⟩

theorem controlling_of_available (available : core.ensureControlAvailable = .applied) :
    core.state = .controlling := by
  unfold ensureControlAvailable at available
  split at available
  · cases available
  split at available
  · cases available
  next controls =>
    simp only [Bool.or_eq_true, decide_eq_true_eq, not_or, not_not] at controls
    exact controls.1

theorem answers_of_takes {stamp : InputStamp} {topology : DesktopTopology}
    {outcome : InputLedger × InputResult} {operation : String}
    (available : core.ensureControlAvailable = .applied)
    (current : core.topology = some topology)
    (takes : InputLedger.Takes core.ledger stamp topology.revision outcome) :
    Answers core stamp (core.handleLedgerResult host outcome operation) where
  applied := by
    intro applied
    rw [handleLedgerResult_result] at applied
    rw [handleLedgerResult_applied operation applied]
    obtain ⟨revision, newer, remembered⟩ := takes.taken applied
    exact ⟨topology, current, rfl, rfl, controlling_of_available available, revision, newer,
      remembered⟩
  otherwise := by
    intro notApplied
    rw [handleLedgerResult_result] at notApplied
    refine handleLedgerResult_forgets operation (takes.refused notApplied) fun _ => .inl ?_
    simp [controlling_of_available available]

theorem applyInput_answers {stamp : InputStamp} {operation : String}
    {apply : DesktopTopology → InputLedger × InputResult}
    (takes : ∀ topology : DesktopTopology,
      InputLedger.Takes core.ledger stamp topology.revision (apply topology)) :
    Answers core stamp (core.applyInput host operation apply) := by
  unfold applyInput
  cases available : core.ensureControlAvailable with
  | applied =>
    cases current : core.topology with
    | none => exact answers_unchanged (by simp)
    | some topology => exact answers_of_takes available current (takes topology)
  | _ => exact answers_unchanged (by simp)

theorem apply_answers (core : SessionCore) (stamp : InputStamp) (operation : InputOperation) :
    Answers core stamp (core.apply host stamp operation) := by
  cases operation with
  | pointerMove displayId normalizedX normalizedY =>
    simp only [apply, applyPointerMove]
    cases available : core.ensureControlAvailable with
    | applied =>
      dsimp only
      split
      · exact answers_unchanged (by simp)
      cases current : core.topology with
      | none => exact answers_unchanged (by simp)
      | some topology =>
        dsimp only
        split
        · exact answers_unchanged (by simp)
        · refine answers_of_takes available current ?_
          unfold InputLedger.applyPointer
          split
          · exact InputLedger.applyEmission_takes _ _ _
          · exact InputLedger.takes_unchanged (by simp)
    | _ => exact answers_unchanged (by simp)
  | key key pressed =>
    exact applyInput_answers fun _ => InputLedger.applyOwnedTransition_takes _ _ _ _ _ _
  | button button pressed =>
    exact applyInput_answers fun _ => InputLedger.applyOwnedTransition_takes _ _ _ _ _ _
  | click button => exact applyInput_answers fun _ => InputLedger.clickButton_takes _ _ _
  | wheel deltaX deltaY =>
    refine applyInput_answers fun _ => ?_
    unfold InputLedger.applyWheel
    split
    · exact InputLedger.applyEmission_takes _ _ _
    · exact InputLedger.takes_unchanged (by simp)
  | text text =>
    refine applyInput_answers fun _ => ?_
    unfold InputLedger.applyText
    split
    · exact InputLedger.applyEmission_takes _ _ _
    · exact InputLedger.takes_unchanged (by simp)

/-- The checks of an input other than those of the ledger's memory: control is available, the
payload and the stamp are well formed under the current topology, and the platform accepts
what the operation asks of it for a controller that holds nothing. -/
def IsAcceptable (host : SessionHost) (core : SessionCore) (stamp : InputStamp)
    (operation : InputOperation) : Prop :=
  core.ensureControlAvailable = .applied ∧ ∃ topology, core.topology = some topology ∧
    InputLedger.IsPresentable stamp topology.revision ∧
    match operation with
    | .pointerMove displayId normalizedX normalizedY =>
      normalizedX.within 0 1 = true ∧ normalizedY.within 0 1 = true ∧
      ∃ display, topology.findDisplay displayId = some display ∧
        let point := host.mapNormalized display.logicalInputBounds normalizedX normalizedY
        point.x.isFinite = true ∧ point.y.isFinite = true ∧
          host.platform core.ledger.emitted (.movePointer point) = true
    | .key key pressed => InputLedger.isBoundedToken key = true ∧
        (pressed = true → InputLedger.IsPressAccepted host.platform core.ledger .key key
          !InputLedger.isLatchableModifierKey key)
    | .button button pressed => InputLedger.isBoundedToken button = true ∧
        (pressed = true →
          InputLedger.IsPressAccepted host.platform core.ledger .button button true)
    | .click button => ¬ (button = [] ∨ button.length > maximumInputTokenBytes) ∧
        core.ledger.owners .button button = ∅ ∧
        host.platform (.releaseLatchedModifiers :: core.ledger.emitted)
          (.transition .button button true) = true ∧
        host.platform
          (.transition .button button true :: .releaseLatchedModifiers :: core.ledger.emitted)
          (.transition .button button false) = true
    | .wheel deltaX deltaY => deltaX.within (-maximumWheelDelta) maximumWheelDelta = true ∧
        deltaY.within (-maximumWheelDelta) maximumWheelDelta = true ∧
        host.platform core.ledger.emitted (.wheel deltaX deltaY) = true
    | .text text => InputLedger.isBoundedUtf8 text = true ∧
        host.platform core.ledger.emitted (.text text) = true

theorem applyInput_result (operation : String)
    (apply : DesktopTopology → InputLedger × InputResult) :
    (core.applyInput host operation apply).2 = .applied ↔
      core.ensureControlAvailable = .applied ∧ ∃ topology, core.topology = some topology ∧
        (apply topology).2 = .applied := by
  unfold applyInput
  cases core.ensureControlAvailable with
  | applied =>
    cases core.topology with
    | none => simp
    | some topology => simp [handleLedgerResult_result]
  | _ => simp

theorem applyPointerMove_result {stamp : InputStamp} {displayId : Bytes}
    {normalizedX normalizedY : Double} :
    (core.applyPointerMove host stamp displayId normalizedX normalizedY).2 = .applied ↔
      core.ensureControlAvailable = .applied ∧ ∃ topology, core.topology = some topology ∧
        normalizedX.within 0 1 = true ∧ normalizedY.within 0 1 = true ∧
        ∃ display, topology.findDisplay displayId = some display ∧
          (core.ledger.applyPointer host.platform stamp topology.revision
            (host.mapNormalized display.logicalInputBounds normalizedX normalizedY)).2 =
              .applied := by
  unfold applyPointerMove
  cases core.ensureControlAvailable with
  | applied =>
    cases core.topology with
    | none => by_cases bad : (!normalizedX.within 0 1 || !normalizedY.within 0 1) = true <;>
        simp [bad]
    | some topology =>
      cases inX : normalizedX.within 0 1 with
      | false => simp
      | true =>
        cases inY : normalizedY.within 0 1 with
        | false => simp
        | true =>
          cases known : topology.findDisplay displayId with
          | none => simp [known]
          | some display => simp [known, handleLedgerResult_result]
  | _ => simp

theorem applyPointer_newcomer {platform : List Emission → Emission → Bool} {ledger : InputLedger}
    {stamp : InputStamp} {revision : Nat} {point : LogicalPoint}
    (forgotten : ledger.memory stamp.controllerId = none) :
    (ledger.applyPointer platform stamp revision point).2 = .applied ↔
      point.x.isFinite = true ∧ point.y.isFinite = true ∧
        InputLedger.IsPresentable stamp revision ∧
          platform ledger.emitted (.movePointer point) = true := by
  unfold InputLedger.applyPointer
  by_cases finite : (point.x.isFinite && point.y.isFinite) = true
  · rw [if_pos finite, InputLedger.applyEmission_newcomer forgotten]
    rw [Bool.and_eq_true] at finite
    simp [finite]
  · rw [if_neg finite]
    rw [Bool.and_eq_true] at finite
    constructor
    · intro applied
      cases applied
    · intro ⟨finiteX, finiteY, _⟩
      exact absurd ⟨finiteX, finiteY⟩ finite

theorem apply_newcomer {stamp : InputStamp} (operation : InputOperation)
    (forgotten : core.ledger.memory stamp.controllerId = none) :
    (core.apply host stamp operation).2 = .applied ↔
      IsAcceptable host core stamp operation := by
  unfold IsAcceptable
  cases operation with
  | pointerMove displayId normalizedX normalizedY =>
    simp only [apply, applyPointerMove_result, applyPointer_newcomer forgotten]
    refine and_congr_right fun _ => exists_congr fun topology => and_congr_right fun _ => ?_
    constructor
    · rintro ⟨inX, inY, display, known, finiteX, finiteY, presentable, accepted⟩
      exact ⟨presentable, inX, inY, display, known, finiteX, finiteY, accepted⟩
    · rintro ⟨presentable, inX, inY, display, known, finiteX, finiteY, accepted⟩
      exact ⟨inX, inY, display, known, finiteX, finiteY, presentable, accepted⟩
  | key key pressed =>
    simp only [apply, applyKey, applyInput_result, InputLedger.applyKey,
      InputLedger.applyOwnedTransition_newcomer forgotten]
    exact and_congr_right fun _ => exists_congr fun _ => and_congr_right fun _ => and_left_comm
  | button button pressed =>
    simp only [apply, applyButton, applyInput_result, InputLedger.applyButton,
      InputLedger.applyOwnedTransition_newcomer forgotten]
    exact and_congr_right fun _ => exists_congr fun _ => and_congr_right fun _ => and_left_comm
  | click button =>
    simp only [apply, clickButton, applyInput_result,
      InputLedger.clickButton_newcomer forgotten]
    refine and_congr_right fun _ => exists_congr fun _ => and_congr_right fun _ => ?_
    tauto
  | wheel deltaX deltaY =>
    simp only [apply, applyWheel, applyInput_result, InputLedger.applyWheel]
    refine and_congr_right fun _ => exists_congr fun topology => and_congr_right fun _ => ?_
    by_cases bounded : (deltaX.within (-maximumWheelDelta) maximumWheelDelta &&
        deltaY.within (-maximumWheelDelta) maximumWheelDelta) = true
    · rw [if_pos bounded, InputLedger.applyEmission_newcomer forgotten]
      rw [Bool.and_eq_true] at bounded
      simp [bounded]
    · rw [if_neg bounded]
      rw [Bool.and_eq_true] at bounded
      constructor
      · intro applied
        cases applied
      · rintro ⟨_, inX, inY, _⟩
        exact absurd ⟨inX, inY⟩ bounded
  | text text =>
    simp only [apply, applyText, applyInput_result, InputLedger.applyText]
    refine and_congr_right fun _ => exists_congr fun topology => and_congr_right fun _ => ?_
    by_cases bounded : InputLedger.isBoundedUtf8 text = true
    · rw [if_pos bounded, InputLedger.applyEmission_newcomer forgotten]
      simp [bounded]
    · simp [bounded]

theorem releaseController_forgets (core : SessionCore) (controllerId : Bytes) :
    Forgets core (core.releaseController host controllerId) := by
  have lost := @InputLedger.memory_releaseController host.platform core.ledger controllerId
  unfold releaseController
  generalize core.ledger.releaseController host.platform controllerId = outcome at lost
  have kept : Forgets core { core with ledger := outcome.1 } := ⟨lost, .inl rfl, id⟩
  dsimp only
  split
  · exact kept.trans (reportAdapterFailure_forgets _ _)
  · exact kept

theorem reconcileHeldInput_forgets (core : SessionCore) (keys buttons : List Bytes)
    (declarationSequence : Nat) :
    Forgets core (core.reconcileHeldInput host keys buttons declarationSequence).1 := by
  have kept := @InputLedger.memory_reconcileHeld host.platform core.ledger keys.toFinset
    buttons.toFinset declarationSequence
  unfold reconcileHeldInput
  dsimp only
  exact handleLedgerResult_forgets _ (fun _ => kept)
    fun _ => .inr fun controllerId => .inl (congrFun kept controllerId)

theorem step_forgets {call : SessionCall}
    (unstarted : core.state = .idle → ∀ controllerId, core.ledger.memory controllerId = none)
    (noInput : ∀ stamp operation, call ≠ .input stamp operation) :
    Forgets core (core.step host call) := by
  cases call with
  | start readiness topology =>
    simp only [step, start]
    split
    · exact .refl core
    · next started =>
        simp only [Bool.or_eq_true, decide_eq_true_eq, not_or, not_not] at started
        exact ⟨fun _ => .inl rfl, .inr (unstarted started.1.1), fun isIdle => by cases isIdle⟩
  | updateReadiness readiness =>
    simp only [step, updateReadiness]
    split
    · exact .refl core
    split
    · exact reportAdapterFailure_forgets _ _
    split
    · exact ⟨fun _ => .inr (memory_releaseAllControllers _), .inl rfl, fun isIdle => by cases isIdle⟩
    · exact ⟨fun _ => .inl rfl, .inl rfl, id⟩
  | updateTopology topology =>
    simp only [step, updateTopology]
    split
    · exact .refl core
    split
    · exact .refl core
    · exact ⟨fun _ => .inr (memory_releaseAllControllers _),
        .inr fun _ => memory_releaseAllControllers _, id⟩
  | setControlActive active =>
    simp only [step, setControlActive]
    split
    · exact .refl core
    split
    · split
      · exact ⟨fun _ => .inl rfl, .inl rfl, fun isIdle => by cases isIdle⟩
      · exact .refl core
    · exact ⟨fun _ => .inr (memory_releaseAllControllers _), .inl rfl,
        fun isIdle => by cases isIdle⟩
  | releaseController controllerId => exact releaseController_forgets core controllerId
  | reconcileHeldInput keys buttons declarationSequence =>
    exact reconcileHeldInput_forgets core keys buttons declarationSequence
  | stop error => exact stop_forgets core error
  | input stamp operation => exact absurd rfl (noInput stamp operation)

end SessionCore

/-! ## Runs -/

/-- A session with the stamps it applied. -/
structure RecordedSession where
  core : SessionCore
  applied : List InputStamp

namespace RecordedSession

variable {host : SessionHost} {recorded : RecordedSession}

def initial : RecordedSession := ⟨.initial, []⟩

def step (host : SessionHost) (recorded : RecordedSession) (call : SessionCall) :
    RecordedSession where
  core := recorded.core.step host call
  applied :=
    match call with
    | .input stamp operation =>
      if (recorded.core.apply host stamp operation).2 = .applied then stamp :: recorded.applied
      else recorded.applied
    | _ => recorded.applied

def IsNewest (applied : List InputStamp) (stamp : InputStamp) : Prop :=
  ∀ earlier, earlier ∈ applied → earlier.controllerId = stamp.controllerId →
    earlier.topologyRevision = stamp.topologyRevision → Precedes earlier.position stamp.position

def AppliesNewest (host : SessionHost) (recorded : RecordedSession) (call : SessionCall) : Prop :=
  ∀ stamp operation, call = .input stamp operation →
    (recorded.core.apply host stamp operation).2 = .applied → IsNewest recorded.applied stamp

/-- Acceptable input of a controller that the ledger has no record of is newer than what was
applied of it before. -/
def RevivesNothing (host : SessionHost) (recorded : RecordedSession) (call : SessionCall) :
    Prop :=
  ∀ stamp operation, call = .input stamp operation →
    recorded.core.ledger.memory stamp.controllerId = none →
    recorded.core.IsAcceptable host stamp operation → IsNewest recorded.applied stamp

/-- What the ledger remembers of a controller is the newest stamp applied of it under the
current topology. -/
structure Remembered (recorded : RecordedSession) : Prop where
  unstarted : recorded.core.state = .idle →
    ∀ controllerId, recorded.core.ledger.memory controllerId = none
  newest : ∀ topology, recorded.core.topology = some topology → ∀ controllerId position,
    recorded.core.ledger.memory controllerId = some position →
    ∀ earlier, earlier ∈ recorded.applied → earlier.controllerId = controllerId →
      earlier.topologyRevision = topology.revision →
      earlier.position = position ∨ Precedes earlier.position position

theorem appliesNewest_iff (remembered : recorded.Remembered) (call : SessionCall) :
    AppliesNewest host recorded call ↔ RevivesNothing host recorded call := by
  constructor
  · intro newest stamp operation isInput forgotten acceptable
    exact newest stamp operation isInput
      ((SessionCore.apply_newcomer operation forgotten).mpr acceptable)
  · intro revives stamp operation isInput applied
    cases known : recorded.core.ledger.memory stamp.controllerId with
    | none =>
      exact revives stamp operation isInput known
        ((SessionCore.apply_newcomer operation known).mp applied)
    | some position =>
      obtain ⟨topology, current, -, -, -, revision, newer, -⟩ :=
        (SessionCore.apply_answers recorded.core stamp operation).applied applied
      intro earlier member same sameRevision
      have before := newer position known
      rcases remembered.newest topology current _ position known earlier member same
        (sameRevision.trans revision) with isLast | precedes
      · rw [isLast]
        exact before
      · exact precedes.trans before

theorem Remembered.forget (remembered : recorded.Remembered) {next : SessionCore}
    (forgets : SessionCore.Forgets recorded.core next) :
    Remembered ⟨next, recorded.applied⟩ where
  unstarted := by
    intro isIdle controllerId
    rcases forgets.memory controllerId with kept | lost
    · rw [kept]
      exact remembered.unstarted (forgets.idle isIdle) controllerId
    · exact lost
  newest := by
    intro topology current controllerId position known
    rcases forgets.topology with same | lost
    · rcases forgets.memory controllerId with kept | lost
      · rw [kept] at known
        exact remembered.newest topology (same.symm.trans current) controllerId position known
      · rw [lost] at known
        cases known
    · rw [lost] at known
      cases known

theorem Remembered.next (remembered : recorded.Remembered) (call : SessionCall)
    (newest : AppliesNewest host recorded call) : (recorded.step host call).Remembered := by
  by_cases isInput : ∃ stamp operation, call = .input stamp operation
  · obtain ⟨stamp, operation, rfl⟩ := isInput
    have answers := @SessionCore.apply_answers host recorded.core stamp operation
    by_cases applied : (recorded.core.apply host stamp operation).2 = .applied
    · obtain ⟨topology, current, sameTopology, sameState, controls, revision, newer, memory⟩ :=
        answers.applied applied
      have isNewest := newest stamp operation rfl applied
      have isNext : recorded.step host (.input stamp operation) =
          ⟨(recorded.core.apply host stamp operation).1, stamp :: recorded.applied⟩ := by
        simp [step, SessionCore.step, applied]
      rw [isNext]
      refine ⟨?_, ?_⟩
      · intro isIdle
        rw [sameState, controls] at isIdle
        cases isIdle
      · intro other otherCurrent controllerId position known earlier member same sameRevision
        have sameOther : other = topology :=
          Option.some.inj (otherCurrent.symm.trans (sameTopology.trans current))
        subst sameOther
        have rule := memory controllerId
        rw [known] at rule
        rcases List.mem_cons.mp member with isLast | before
        · subst isLast
          rw [if_pos same] at rule
          exact .inl (Option.some.inj rule).symm
        · by_cases own : stamp.controllerId = controllerId
          · rw [if_pos own] at rule
            cases rule
            exact .inr (isNewest earlier before (same.trans own.symm)
              (sameRevision.trans revision.symm))
          · rw [if_neg own] at rule
            exact remembered.newest other current controllerId position rule.symm earlier before
              same sameRevision
    · have isNext : recorded.step host (.input stamp operation) =
          ⟨(recorded.core.apply host stamp operation).1, recorded.applied⟩ := by
        simp [step, SessionCore.step, applied]
      rw [isNext]
      exact remembered.forget (answers.otherwise applied)
  · have noInput : ∀ stamp operation, call ≠ .input stamp operation :=
      fun stamp operation same => isInput ⟨stamp, operation, same⟩
    have isNext : recorded.step host call =
        ⟨recorded.core.step host call, recorded.applied⟩ := by
      cases call with
      | input stamp operation => exact absurd rfl (noInput stamp operation)
      | _ => rfl
    rw [isNext]
    exact remembered.forget (SessionCore.step_forgets remembered.unstarted noInput)

theorem remembered_initial : initial.Remembered where
  unstarted := fun _ _ => rfl
  newest := fun _ _ _ _ _ _ member => absurd member List.not_mem_nil

/-- A session never applies replayed or overtaken input, exactly if none of a controller it has
released is offered. -/
theorem applies_newest_iff (host : SessionHost) (calls : List SessionCall) :
    Meets (step host) (AppliesNewest host) initial calls ↔
      Meets (step host) (RevivesNothing host) initial calls :=
  @meets_iff_meets _ _ (step host) (RevivesNothing host) (AppliesNewest host) Remembered
    (fun _ call remembered => appliesNewest_iff remembered call)
    (fun _ call remembered revives =>
      remembered.next call ((appliesNewest_iff remembered call).mpr revives))
    _ remembered_initial calls

end RecordedSession

def plainSessionHost : SessionHost where
  platform := InputLedger.accepting
  mapNormalized := fun _ _ _ => ⟨.finite 0, .finite 0⟩

namespace RecordedSession

def plainReadiness : CapabilityReadiness :=
  ⟨.ready, .ready, .ready, .ready, .ready, .ready, .ready⟩

def plainTopology : DesktopTopology :=
  ⟨1, 1, [⟨[0x64], 1, ⟨1920, 1080⟩, ⟨.finite 0, .finite 0, .finite 1920, .finite 1080⟩,
    .finite 1, .k0⟩]⟩

/-- A key-down is applied, its controller is released, and the same key-down is applied again. -/
theorem released_key_pressed_again :
    let stamp : InputStamp := ⟨[0x63], 1, 1, 1⟩
    let pressed := run (step plainSessionHost) initial [.start plainReadiness plainTopology,
      .setControlActive true, .input stamp (.key [0x61] true), .releaseController [0x63]]
    (pressed.core.apply plainSessionHost stamp (.key [0x61] true)).2 = .applied ∧
      stamp ∈ pressed.applied ∧
      ¬ AppliesNewest plainSessionHost pressed (.input stamp (.key [0x61] true)) := by
  have replayed : ((run (step plainSessionHost) initial [.start plainReadiness plainTopology,
      .setControlActive true, .input ⟨[0x63], 1, 1, 1⟩ (.key [0x61] true),
      .releaseController [0x63]]).core.apply plainSessionHost ⟨[0x63], 1, 1, 1⟩
        (.key [0x61] true)).2 = .applied := by
    decide +kernel
  have known : (⟨[0x63], 1, 1, 1⟩ : InputStamp) ∈ (run (step plainSessionHost) initial
      [.start plainReadiness plainTopology, .setControlActive true,
        .input ⟨[0x63], 1, 1, 1⟩ (.key [0x61] true), .releaseController [0x63]]).applied := by
    decide +kernel
  refine ⟨replayed, known, fun newest => ?_⟩
  exact absurd (newest _ _ rfl replayed _ known rfl rfl) (by decide)

end RecordedSession

end ImCodes.Remote
