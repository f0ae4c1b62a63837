import ImCodes.Library.Run
import ImCodes.Library.SharedHold
import ImCodes.Remote.InputLedger

/-!
# Held remote input

The owners of a key or button are exactly the controllers whose held map has it, and what the
ledger asks of the platform are the moves of a keeper of shared switches. So a key or button
is down at the platform as long as some controller holds it.
-/

set_option autoImplicit false

namespace ImCodes.Remote

open Library

/-- What a request changes of the keys and buttons the platform has down. -/
def Emission.signal? : Emission → Option (Signal (TokenKind × Bytes))
  | .transition kind token true => some (.press (kind, token))
  | .transition kind token false => some (.release (kind, token))
  | .releaseAllEmittedState => some .releaseAll
  -- It leaves alone what the adapter emitted itself.
  | .releaseLatchedModifiers => none
  | .movePointer _ => none
  | .wheel _ _ => none
  | .text _ => none

namespace InputLedger

def hold (ledger : InputLedger) : SharedHold Bytes (TokenKind × Bytes) where
  owners := fun switch => ledger.owners switch.1 switch.2
  signals := ledger.emitted.filterMap Emission.signal?

def Filled (ledger : InputLedger) : Prop :=
  ∀ kind token, (ledger.ownersOf kind).get? token ≠ some ∅

structure Consistent (ledger : InputLedger) : Prop where
  owned : ∀ kind token controllerId, controllerId ∈ ledger.owners kind token ↔
    ∃ sequence, ledger.heldSequence kind controllerId token = some sequence
  filled : ledger.Filled

section
variable {platform : List Emission → Emission → Bool} {ledger next last : InputLedger}

@[simp] theorem ownersOf_withOwners (kind other : TokenKind) (owners : OwnerMap) :
    (ledger.withOwners kind owners).ownersOf other =
      if kind = other then owners else ledger.ownersOf other := by
  cases kind <;> cases other <;> rfl

@[simp] theorem controllers_withOwners (kind : TokenKind) (owners : OwnerMap) :
    (ledger.withOwners kind owners).controllers = ledger.controllers := by
  cases kind <;> rfl

@[simp] theorem emitted_withOwners (kind : TokenKind) (owners : OwnerMap) :
    (ledger.withOwners kind owners).emitted = ledger.emitted := by
  cases kind <;> rfl

@[simp] theorem ownersOf_withController (kind : TokenKind) (controllerId : Bytes)
    (state : ControllerState) :
    (ledger.withController controllerId state).ownersOf kind = ledger.ownersOf kind := by
  cases kind <;> rfl

@[simp] theorem emitted_withController (controllerId : Bytes) (state : ControllerState) :
    (ledger.withController controllerId state).emitted = ledger.emitted := rfl

@[simp] theorem ownersOf_emit (kind : TokenKind) (emission : Emission) :
    (ledger.emit platform emission).1.ownersOf kind = ledger.ownersOf kind := by
  cases kind <;> rfl

@[simp] theorem controllers_emit (emission : Emission) :
    (ledger.emit platform emission).1.controllers = ledger.controllers := rfl

@[simp] theorem emitted_emit (emission : Emission) :
    (ledger.emit platform emission).1.emitted = emission :: ledger.emitted := rfl

@[simp] theorem owners_withOwners (kind other : TokenKind) (owners : OwnerMap) (token : Bytes) :
    (ledger.withOwners kind owners).owners other token =
      if kind = other then (owners.get? token).getD ∅ else ledger.owners other token := by
  unfold InputLedger.owners
  rw [ownersOf_withOwners]
  split <;> rfl

@[simp] theorem owners_withController (kind : TokenKind) (controllerId token : Bytes)
    (state : ControllerState) :
    (ledger.withController controllerId state).owners kind token = ledger.owners kind token := by
  simp [owners]

@[simp] theorem owners_emit (kind : TokenKind) (token : Bytes) (emission : Emission) :
    (ledger.emit platform emission).1.owners kind token = ledger.owners kind token := by
  simp [owners]

@[simp] theorem heldSequence_withController (kind : TokenKind) (controllerId other token : Bytes)
    (state : ControllerState) :
    (ledger.withController controllerId state).heldSequence kind other token =
      if controllerId = other then (state.held kind).get? token
      else ledger.heldSequence kind other token := by
  simp only [heldSequence, withController, Dictionary.get?_put]
  split <;> rfl

theorem heldSequence_of_controllers (same : next.controllers = ledger.controllers) :
    next.heldSequence = ledger.heldSequence := by
  unfold heldSequence
  rw [same]

theorem heldSequence_of_get {controllerId : Bytes} {state : ControllerState} (kind : TokenKind)
    (found : ledger.controllers.get? controllerId = some state) (token : Bytes) :
    ledger.heldSequence kind controllerId token = (state.held kind).get? token := by
  simp [heldSequence, found]

/-! ## Letting go -/

/-- A controller was taken off the owners of some keys or buttons of one kind. -/
structure Disowns (ledger next : InputLedger) (kind : TokenKind) (controllerId : Bytes)
    (gone : Bytes → Prop) : Prop where
  controllers : next.controllers = ledger.controllers
  owners : ∀ other token owner, owner ∈ next.owners other token ↔
    owner ∈ ledger.owners other token ∧ ¬ (other = kind ∧ owner = controllerId ∧ gone token)
  filled : next.Filled
  moves : SharedHold.Moves ledger.hold next.hold

theorem mem_owners {kind : TokenKind} {controllerId token : Bytes} :
    controllerId ∈ ledger.owners kind token ↔
      ∃ owners, (ledger.ownersOf kind).get? token = some owners ∧ controllerId ∈ owners := by
  unfold owners
  cases (ledger.ownersOf kind).get? token with
  | none => simp
  | some owners => simp

theorem dropOwner_hold {kind : TokenKind} {controllerId token : Bytes}
    (holds : controllerId ∈ ledger.owners kind token) :
    (ledger.dropOwner platform kind controllerId token).1.hold =
      ledger.hold.lose (kind, token) controllerId := by
  obtain ⟨owners, found, member⟩ := mem_owners.mp holds
  have current : ledger.owners kind token = owners := by simp [InputLedger.owners, found]
  unfold dropOwner
  simp only [found]
  by_cases last : owners.erase controllerId = ∅
  · simp only [last, if_true]
    apply SharedHold.ext
    · funext place
      obtain ⟨other, name⟩ := place
      simp only [hold, SharedHold.lose, Function.update_apply, owners_withOwners, owners_emit,
        Dictionary.get?_erase, current, last, Prod.mk.injEq]
      by_cases sameKind : kind = other
      · subst sameKind
        by_cases sameName : name = token
        · simp [sameName]
        · simp [sameName, InputLedger.owners]
      · simp [sameKind, Ne.symm sameKind]
    · simp [hold, SharedHold.lose, current, last, Emission.signal?]
  · simp only [last, if_false]
    apply SharedHold.ext
    · funext place
      obtain ⟨other, name⟩ := place
      simp only [hold, SharedHold.lose, Function.update_apply, owners_withOwners,
        Dictionary.get?_put, current, Prod.mk.injEq]
      by_cases sameKind : kind = other
      · subst sameKind
        by_cases sameName : token = name
        · simp [sameName]
        · simp [sameName, Ne.symm sameName, InputLedger.owners]
      · simp [sameKind, Ne.symm sameKind]
    · simp [hold, SharedHold.lose, current, last]

theorem dropOwner_filled (filled : ledger.Filled) (kind : TokenKind)
    (controllerId token : Bytes) :
    (ledger.dropOwner platform kind controllerId token).1.Filled := by
  intro other name
  have before := filled other name
  unfold dropOwner
  cases found : (ledger.ownersOf kind).get? token with
  | none => exact before
  | some owners =>
    by_cases last : owners.erase controllerId = ∅
    · simp only [last, if_true, ownersOf_withOwners]
      split
      · next same =>
          subst same
          rw [Dictionary.get?_erase]
          split
          · simp
          · exact before
      · simpa using before
    · simp only [last, if_false, ownersOf_withOwners]
      split
      · next same =>
          subst same
          rw [Dictionary.get?_put]
          split
          · simpa using last
          · exact before
      · exact before

theorem dropOwner_controllers (kind : TokenKind) (controllerId token : Bytes) :
    (ledger.dropOwner platform kind controllerId token).1.controllers = ledger.controllers := by
  unfold dropOwner
  cases (ledger.ownersOf kind).get? token with
  | none => rfl
  | some owners =>
    by_cases last : owners.erase controllerId = ∅
    · simp [last]
    · simp [last]

theorem dropOwner_disowns {kind : TokenKind} {controllerId token : Bytes}
    (filled : ledger.Filled) (holds : controllerId ∈ ledger.owners kind token) :
    Disowns ledger (ledger.dropOwner platform kind controllerId token).1 kind controllerId
      (· = token) where
  controllers := dropOwner_controllers kind controllerId token
  owners := by
    intro other name owner
    have dropped := congrArg (fun hold => hold.owners (other, name))
      (@dropOwner_hold platform ledger kind controllerId token holds)
    simp only [hold, SharedHold.lose, Function.update_apply, Prod.mk.injEq] at dropped
    rw [dropped]
    split
    · next same =>
        obtain ⟨rfl, rfl⟩ := same
        simp [and_comm]
    · next different =>
        simp only [iff_self_and, not_and]
        intro _ sameKind _ sameName
        exact different ⟨sameKind, sameName⟩
  filled := dropOwner_filled filled kind controllerId token
  moves := by
    rw [dropOwner_hold holds]
    exact .single (.lose _ _ holds)

theorem Disowns.refl (filled : ledger.Filled) (kind : TokenKind) (controllerId : Bytes) :
    Disowns ledger ledger kind controllerId fun _ => False where
  controllers := rfl
  owners := by simp
  filled := filled
  moves := .refl

theorem Disowns.trans {kind : TokenKind} {controllerId : Bytes} {gone alsoGone both : Bytes → Prop}
    (first : Disowns ledger next kind controllerId gone)
    (second : Disowns next last kind controllerId alsoGone)
    (isBoth : ∀ token, both token ↔ gone token ∨ alsoGone token) :
    Disowns ledger last kind controllerId both where
  controllers := second.controllers.trans first.controllers
  owners := by
    intro other token owner
    rw [second.owners, first.owners, isBoth]
    tauto
  filled := second.filled
  moves := first.moves.trans second.moves

theorem dropOwners_disowns {kind : TokenKind} {controllerId : Bytes} {tokens : List Bytes}
    {released : Bool} (filled : ledger.Filled) (distinct : tokens.Nodup)
    (holds : ∀ token, token ∈ tokens → controllerId ∈ ledger.owners kind token) :
    Disowns ledger (dropOwners platform kind controllerId tokens ledger released).1 kind
      controllerId (· ∈ tokens) := by
  induction tokens generalizing ledger released with
  | nil => simpa [dropOwners] using Disowns.refl filled kind controllerId
  | cons token rest ih =>
    obtain ⟨fresh, restDistinct⟩ := List.nodup_cons.mp distinct
    have first := @dropOwner_disowns platform ledger kind controllerId token filled
      (holds token List.mem_cons_self)
    refine first.trans (ih first.filled restDistinct ?_) ?_
    · intro other member
      rw [first.owners]
      refine ⟨holds other (List.mem_cons_of_mem _ member), ?_⟩
      rintro ⟨-, -, rfl⟩
      exact fresh member
    · intro other
      exact List.mem_cons

/-- Controllers let go of some of what they held, and nothing else changed hands. -/
structure LetsGo (ledger next : InputLedger) (gone : TokenKind → Bytes → Bytes → Prop) :
    Prop where
  owners : ∀ kind token owner, owner ∈ next.owners kind token ↔
    owner ∈ ledger.owners kind token ∧ ¬ gone kind owner token
  held : ∀ kind owner token sequence, next.heldSequence kind owner token = some sequence ↔
    ledger.heldSequence kind owner token = some sequence ∧ ¬ gone kind owner token
  filled : next.Filled
  moves : SharedHold.Moves ledger.hold next.hold

theorem LetsGo.consistent {gone : TokenKind → Bytes → Bytes → Prop}
    (letsGo : LetsGo ledger next gone) (consistent : ledger.Consistent) : next.Consistent where
  owned := by
    intro kind token owner
    simp only [letsGo.owners, letsGo.held, consistent.owned, exists_and_right]
  filled := letsGo.filled

theorem LetsGo.refl (filled : ledger.Filled) : LetsGo ledger ledger fun _ _ _ => False where
  owners := by simp
  held := by simp
  filled := filled
  moves := .refl

theorem LetsGo.trans {gone alsoGone both : TokenKind → Bytes → Bytes → Prop}
    (first : LetsGo ledger next gone) (second : LetsGo next last alsoGone)
    (isBoth : ∀ kind owner token, both kind owner token ↔
      gone kind owner token ∨ alsoGone kind owner token) : LetsGo ledger last both where
  owners := by
    intro kind token owner
    rw [second.owners, first.owners, isBoth]
    tauto
  held := by
    intro kind owner token sequence
    rw [second.held, first.held, isBoth]
    tauto
  filled := second.filled
  moves := first.moves.trans second.moves

theorem LetsGo.congr {gone sameGone : TokenKind → Bytes → Bytes → Prop}
    (letsGo : LetsGo ledger next gone)
    (same : ∀ kind owner token, sameGone kind owner token ↔ gone kind owner token) :
    LetsGo ledger next sameGone where
  owners := by simpa only [same] using letsGo.owners
  held := by simpa only [same] using letsGo.held
  filled := letsGo.filled
  moves := letsGo.moves

theorem hold_withController (controllerId : Bytes) (state : ControllerState) :
    (ledger.withController controllerId state).hold = ledger.hold := by
  apply SharedHold.ext
  · funext switch
    simp [hold]
  · simp [hold]

theorem letsGo_withController (filled : ledger.Filled) {controllerId : Bytes}
    {state : ControllerState}
    (same : ∀ kind token, (state.held kind).get? token =
      ledger.heldSequence kind controllerId token) :
    LetsGo ledger (ledger.withController controllerId state) fun _ _ _ => False where
  owners := by simp
  held := by
    intro kind owner token sequence
    rw [heldSequence_withController]
    split
    · next isOwner => simp [same, isOwner]
    · simp
  filled := by
    intro kind token
    rw [ownersOf_withController]
    exact filled kind token
  moves := by
    rw [hold_withController]

theorem letsGo_of_disowns {controllerId : Bytes} {state : ControllerState}
    {keyGone buttonGone : Bytes → Prop} {middle : InputLedger}
    (keys : Disowns ledger middle .key controllerId keyGone)
    (buttons : Disowns middle next .button controllerId buttonGone)
    (keysLeft : ∀ token sequence, state.keys.get? token = some sequence ↔
      ledger.heldSequence .key controllerId token = some sequence ∧ ¬ keyGone token)
    (buttonsLeft : ∀ token sequence, state.buttons.get? token = some sequence ↔
      ledger.heldSequence .button controllerId token = some sequence ∧ ¬ buttonGone token) :
    LetsGo ledger (next.withController controllerId state) fun kind owner token =>
      owner = controllerId ∧
        match kind with
        | .key => keyGone token
        | .button => buttonGone token where
  owners := by
    intro kind token owner
    rw [owners_withController, buttons.owners, keys.owners]
    cases kind <;> simp
  held := by
    intro kind owner token sequence
    have sameHeld := heldSequence_of_controllers (buttons.controllers.trans keys.controllers)
    rw [heldSequence_withController, sameHeld]
    split
    · next isOwner =>
        subst isOwner
        cases kind with
        | key => simpa [ControllerState.held] using keysLeft token sequence
        | button => simpa [ControllerState.held] using buttonsLeft token sequence
    · next other => simp [Ne.symm other]
  filled := by
    intro kind token
    rw [ownersOf_withController]
    exact buttons.filled kind token
  moves := by
    rw [hold_withController]
    exact keys.moves.trans buttons.moves

theorem owns_of_held (consistent : ledger.Consistent) {controllerId : Bytes}
    {state : ControllerState} (found : ledger.controllers.get? controllerId = some state)
    {kind : TokenKind} {token : Bytes} {sequence : Nat}
    (held : (state.held kind).get? token = some sequence) :
    controllerId ∈ ledger.owners kind token :=
  (consistent.owned kind token controllerId).mpr
    ⟨sequence, (heldSequence_of_get kind found token).trans held⟩

theorem releaseControllerState_letsGo (consistent : ledger.Consistent) {controllerId : Bytes}
    {state : ControllerState} (found : ledger.controllers.get? controllerId = some state) :
    LetsGo ledger (ledger.releaseControllerState platform controllerId state).1
      fun _ owner _ => owner = controllerId := by
  have keys : Disowns ledger
      (dropOwners platform .key controllerId state.keys.keys ledger true).1 .key controllerId
      (· ∈ state.keys.keys) := by
    refine dropOwners_disowns consistent.filled state.keys.keys_nodup ?_
    intro token member
    obtain ⟨sequence, held⟩ := Dictionary.mem_keys_iff.mp member
    exact @owns_of_held ledger consistent _ _ found .key _ _ held
  have buttons : Disowns (dropOwners platform .key controllerId state.keys.keys ledger true).1
      (dropOwners platform .button controllerId state.buttons.keys
        (dropOwners platform .key controllerId state.keys.keys ledger true).1
        (dropOwners platform .key controllerId state.keys.keys ledger true).2).1
      .button controllerId (· ∈ state.buttons.keys) := by
    refine dropOwners_disowns keys.filled state.buttons.keys_nodup ?_
    intro token member
    obtain ⟨sequence, held⟩ := Dictionary.mem_keys_iff.mp member
    have owns := @owns_of_held ledger consistent _ _ found .button _ _ held
    exact (keys.owners .button token controllerId).mpr ⟨owns, by simp⟩
  have cleared := @letsGo_of_disowns ledger _ controllerId
    { state with keys := Table.empty, buttons := Table.empty } _ _ _ keys buttons
    (by
      intro token sequence
      rw [heldSequence_of_get .key found, Dictionary.mem_keys_iff]
      simp only [Dictionary.get?_empty, reduceCtorEq, false_iff, not_and, not_not]
      exact fun held => ⟨sequence, held⟩)
    (by
      intro token sequence
      rw [heldSequence_of_get .button found, Dictionary.mem_keys_iff]
      simp only [Dictionary.get?_empty, reduceCtorEq, false_iff, not_and, not_not]
      exact fun held => ⟨sequence, held⟩)
  refine ⟨?_, ?_, cleared.filled, cleared.moves⟩
  · intro kind token owner
    refine (cleared.owners kind token owner).trans (and_congr_right fun owns => not_congr ?_)
    obtain ⟨sequence, held⟩ := (consistent.owned kind token owner).mp owns
    refine ⟨And.left, fun same => ⟨same, ?_⟩⟩
    subst same
    rw [heldSequence_of_get kind found] at held
    cases kind <;> exact Dictionary.mem_keys_iff.mpr ⟨sequence, held⟩
  · intro kind owner token sequence
    refine (cleared.held kind owner token sequence).trans
      (and_congr_right fun held => not_congr ?_)
    refine ⟨And.left, fun same => ⟨same, ?_⟩⟩
    subst same
    rw [heldSequence_of_get kind found] at held
    cases kind <;> exact Dictionary.mem_keys_iff.mpr ⟨sequence, held⟩

/-! ## Stamps -/

theorem admitSequence_letsGo (filled : ledger.Filled) (stamp : InputStamp)
    {state : ControllerState}
    (same : ∀ kind token, (state.held kind).get? token =
      ledger.heldSequence kind stamp.controllerId token) :
    LetsGo ledger (ledger.admitSequence stamp state).1 fun _ _ _ => False := by
  unfold admitSequence
  split
  · exact letsGo_withController filled same
  · refine letsGo_withController filled fun kind token => ?_
    rw [← same]
    cases kind <;> rfl

theorem validateStamp_letsGo (consistent : ledger.Consistent) (stamp : InputStamp)
    (revision : Nat) :
    ∃ gone, LetsGo ledger (ledger.validateStamp platform stamp revision).1 gone := by
  have unchanged : ∃ gone, LetsGo ledger ledger gone := ⟨_, LetsGo.refl consistent.filled⟩
  unfold validateStamp
  split
  · exact unchanged
  split
  · exact unchanged
  cases found : ledger.controllers.get? stamp.controllerId with
  | none =>
    refine ⟨_, admitSequence_letsGo consistent.filled stamp ?_⟩
    intro kind token
    simp [heldSequence, found]
  | some state =>
    dsimp only
    split
    · exact unchanged
    split
    · have released := @releaseControllerState_letsGo platform ledger consistent _ _ found
      split
      · refine ⟨_, released.trans (admitSequence_letsGo released.filled stamp ?_)
          fun kind owner token => (or_iff_left id).symm⟩
        intro kind token
        have nothing : ∀ sequence, (ledger.releaseControllerState platform stamp.controllerId
            state).1.heldSequence kind stamp.controllerId token ≠ some sequence := by
          intro sequence held
          exact ((released.held _ _ _ _).mp held).2 rfl
        rw [Option.eq_none_iff_forall_ne_some.mpr nothing]
        simp
      · exact ⟨_, released⟩
    · refine ⟨_, admitSequence_letsGo consistent.filled stamp fun kind token => ?_⟩
      exact (heldSequence_of_get kind found token).symm

abbrev Changes :=
  SharedHold Bytes (TokenKind × Bytes) → SharedHold Bytes (TokenKind × Bytes) → Prop

/-- A call leaves the ledger consistent, changes owners and signals only so, and what is held
after it was held before or is what the call pressed. -/
structure Advances (ledger next : InputLedger) (changes : Changes)
    (pressed : TokenKind → Bytes → Bytes → Nat → Prop) : Prop where
  consistent : next.Consistent
  changes : changes ledger.hold next.hold
  held : ∀ kind owner token sequence, next.heldSequence kind owner token = some sequence →
    ledger.heldSequence kind owner token = some sequence ∨ pressed kind owner token sequence

variable {pressed : TokenKind → Bytes → Bytes → Nat → Prop}

theorem LetsGo.advances {gone : TokenKind → Bytes → Bytes → Prop}
    (letsGo : LetsGo ledger next gone) (consistent : ledger.Consistent) :
    Advances ledger next SharedHold.Moves pressed where
  consistent := letsGo.consistent consistent
  changes := letsGo.moves
  held := fun kind owner token sequence held =>
    .inl ((letsGo.held kind owner token sequence).mp held).1

theorem Advances.after {gone : TokenKind → Bytes → Bytes → Prop}
    (advances : Advances next last SharedHold.Moves pressed) (letsGo : LetsGo ledger next gone) :
    Advances ledger last SharedHold.Moves pressed where
  consistent := advances.consistent
  changes := letsGo.moves.trans advances.changes
  held := by
    intro kind owner token sequence held
    rcases advances.held kind owner token sequence held with before | new
    · exact .inl ((letsGo.held kind owner token sequence).mp before).1
    · exact .inr new

theorem Advances.refl (consistent : ledger.Consistent) :
    Advances ledger ledger SharedHold.Moves pressed :=
  (LetsGo.refl consistent.filled).advances consistent

theorem advances_emit (consistent : ledger.Consistent) {emission : Emission}
    (silent : emission.signal? = none) :
    Advances ledger (ledger.emit platform emission).1 SharedHold.Moves pressed where
  consistent := by
    constructor
    · simpa [heldSequence] using consistent.owned
    · intro kind token
      rw [ownersOf_emit]
      exact consistent.filled kind token
  changes := by
    have same : (ledger.emit platform emission).1.hold = ledger.hold := by
      apply SharedHold.ext
      · funext switch
        simp [hold]
      · simp [hold, silent]
    rw [same]
  held := fun kind owner token sequence held => .inl held

theorem applyEmission_advances (consistent : ledger.Consistent) (stamp : InputStamp)
    (revision : Nat) {emission : Emission} (silent : emission.signal? = none) :
    Advances ledger (ledger.applyEmission platform stamp revision emission).1 SharedHold.Moves
      pressed := by
  obtain ⟨gone, validated⟩ := @validateStamp_letsGo platform ledger consistent stamp revision
  unfold applyEmission
  split
  · next taken =>
      rw [taken] at validated
      have passed := @advances_emit platform _ pressed (validated.consistent consistent) _ silent
      exact passed.after validated
  · exact validated.advances consistent

/-! ## Pressing -/

/-- The ledger after a controller was added to the owners of a key or button. -/
def own (ledger : InputLedger) (kind : TokenKind) (controllerId token : Bytes) (sequence : Nat)
    (state : ControllerState) : InputLedger :=
  (ledger.withController controllerId
    (state.withHeld kind ((state.held kind).put token sequence))).withOwners kind
      ((ledger.ownersOf kind).put token (insert controllerId (ledger.owners kind token)))

section
variable {kind : TokenKind} {controllerId token : Bytes} {sequence : Nat} {state : ControllerState}

theorem owners_own (other : TokenKind) (name : Bytes) :
    (ledger.own kind controllerId token sequence state).owners other name =
      if kind = other ∧ token = name then insert controllerId (ledger.owners kind token)
      else ledger.owners other name := by
  simp only [own, owners_withOwners, Dictionary.get?_put, owners_withController]
  by_cases sameKind : kind = other
  · subst sameKind
    by_cases sameName : token = name
    · simp [sameName]
    · simp [sameName, owners]
  · simp [sameKind]

theorem heldSequence_own (found : ledger.controllers.get? controllerId = some state)
    (other : TokenKind) (owner name : Bytes) :
    (ledger.own kind controllerId token sequence state).heldSequence other owner name =
      if kind = other ∧ controllerId = owner ∧ token = name then some sequence
      else ledger.heldSequence other owner name := by
  have same := @heldSequence_of_controllers
    (ledger.withController controllerId
      (state.withHeld kind ((state.held kind).put token sequence)))
    (ledger.own kind controllerId token sequence state) (controllers_withOwners _ _)
  rw [same, heldSequence_withController]
  by_cases isOwner : controllerId = owner
  · subst isOwner
    rw [heldSequence_of_get other found]
    by_cases sameKind : kind = other
    · subst sameKind
      simp
    · simp [sameKind]
  · simp [isOwner]

theorem own_consistent (consistent : ledger.Consistent)
    (found : ledger.controllers.get? controllerId = some state) :
    (ledger.own kind controllerId token sequence state).Consistent where
  owned := by
    intro other name owner
    rw [owners_own, heldSequence_own found]
    by_cases pressed : kind = other ∧ token = name
    · obtain ⟨rfl, rfl⟩ := pressed
      rw [if_pos ⟨rfl, rfl⟩, Finset.mem_insert, consistent.owned]
      by_cases isOwner : controllerId = owner
      · simp [isOwner]
      · simp [isOwner, Ne.symm isOwner]
    · rw [if_neg pressed, if_neg fun both => pressed ⟨both.1, both.2.2⟩]
      exact consistent.owned other name owner
  filled := by
    intro other name
    have before := consistent.filled other name
    simp only [own, ownersOf_withOwners, ownersOf_withController]
    split
    · next same =>
        subst same
        rw [Dictionary.get?_put]
        split
        · simp
        · exact before
    · exact before

theorem gain_of_own {pressed : InputLedger} (new : controllerId ∉ ledger.owners kind token)
    (sameOwners : pressed.owners =
      (ledger.own kind controllerId token sequence state).owners)
    (signals : pressed.emitted.filterMap Emission.signal? =
      if ledger.owners kind token = ∅ then .press (kind, token) :: ledger.hold.signals
      else ledger.hold.signals) :
    SharedHold.Moves ledger.hold pressed.hold := by
  have isGain : pressed.hold = ledger.hold.gain (kind, token) controllerId := by
    apply SharedHold.ext
    · funext place
      obtain ⟨other, name⟩ := place
      simp only [hold, SharedHold.gain, Function.update_apply, Prod.mk.injEq, sameOwners,
        owners_own]
      by_cases same : kind = other ∧ token = name
      · obtain ⟨rfl, rfl⟩ := same
        simp
      · rw [if_neg same, if_neg fun both => same ⟨both.1.symm, both.2.symm⟩]
    · exact signals
  rw [isGain]
  exact .single (.gain _ _ new)

end

theorem press_advances (consistent : ledger.Consistent) (kind : TokenKind) (stamp : InputStamp)
    (token : Bytes) (heal : Bool) {state : ControllerState}
    (found : ledger.controllers.get? stamp.controllerId = some state) :
    Advances ledger (ledger.press platform kind stamp token heal state).1 SharedHold.Moves
      fun other owner name sequence => other = kind ∧ owner = stamp.controllerId ∧
        name = token ∧ sequence = stamp.sequence := by
  by_cases already : ((state.held kind).get? token).isSome
  · simp only [press, already, if_true]
    exact .refl consistent
  have new : stamp.controllerId ∉ ledger.owners kind token := by
    rw [consistent.owned]
    rintro ⟨sequence, held⟩
    rw [heldSequence_of_get kind found] at held
    exact already (by simp [held])
  have result : ∃ pressed, (ledger.press platform kind stamp token heal state).1 = pressed ∧
      pressed.controllers =
        (ledger.own kind stamp.controllerId token stamp.sequence state).controllers ∧
      (∀ other, pressed.ownersOf other =
        (ledger.own kind stamp.controllerId token stamp.sequence state).ownersOf other) ∧
      pressed.emitted.filterMap Emission.signal? =
        if ledger.owners kind token = ∅ then .press (kind, token) :: ledger.hold.signals
        else ledger.hold.signals := by
    refine ⟨_, rfl, ?_⟩
    unfold press
    rw [if_neg already]
    by_cases free : ledger.owners kind token = ∅
    · cases heal
      · simp [free, own, hold, Emission.signal?]
      · simp [free, own, hold, List.filterMap_cons, Emission.signal?]
    · simp [free, own, hold]
  obtain ⟨pressed, isPressed, controllers, owners, signals⟩ := result
  rw [isPressed]
  have held := heldSequence_of_controllers controllers
  have sameOwners : pressed.owners =
      (ledger.own kind stamp.controllerId token stamp.sequence state).owners := by
    funext other name
    simp only [InputLedger.owners, owners]
  have owned := @own_consistent ledger kind stamp.controllerId token stamp.sequence state
    consistent found
  refine ⟨⟨?_, ?_⟩, gain_of_own new sameOwners signals, ?_⟩
  · rw [sameOwners, held]
    exact owned.owned
  · intro other name
    rw [owners]
    exact owned.filled other name
  · intro other owner name sequence isHeld
    rw [held, heldSequence_own found] at isHeld
    split at isHeld
    · next pressedNow =>
        obtain ⟨rfl, rfl, rfl⟩ := pressedNow
        cases isHeld
        exact .inr ⟨rfl, rfl, rfl, rfl⟩
    · exact .inl isHeld

theorem letGo_letsGo (consistent : ledger.Consistent) (kind : TokenKind)
    (controllerId token : Bytes) {state : ControllerState}
    (found : ledger.controllers.get? controllerId = some state) :
    ∃ gone, LetsGo ledger (ledger.letGo platform kind controllerId token state).1 gone := by
  by_cases holds : ((state.held kind).get? token).isSome
  · refine ⟨fun other owner name => other = kind ∧ owner = controllerId ∧ name = token, ?_⟩
    simp only [letGo, holds, if_true]
    obtain ⟨sequence, held⟩ := Option.isSome_iff_exists.mp holds
    generalize isForgotten : ledger.withController controllerId
      (state.withHeld kind ((state.held kind).erase token)) = forgotten
    have owners : forgotten.owners = ledger.owners := by
      funext other name
      rw [← isForgotten, owners_withController]
    have filled : forgotten.Filled := by
      intro other name
      rw [← isForgotten, ownersOf_withController]
      exact consistent.filled other name
    have sameHold : forgotten.hold = ledger.hold := by
      rw [← isForgotten, hold_withController]
    have drops := @dropOwner_disowns platform forgotten kind controllerId token filled
      (by rw [owners]; exact owns_of_held consistent found held)
    refine ⟨?_, ?_, drops.filled, sameHold ▸ drops.moves⟩
    · intro other name owner
      rw [drops.owners, owners]
    · intro other owner name pressedAt
      rw [heldSequence_of_controllers drops.controllers, ← isForgotten,
        heldSequence_withController]
      by_cases isOwner : controllerId = owner
      · subst isOwner
        rw [if_pos rfl, heldSequence_of_get other found, ControllerState.held_withHeld]
        by_cases sameKind : kind = other
        · subst sameKind
          rw [if_pos rfl, Dictionary.get?_erase]
          split
          · next same => simp [same]
          · next different => simp [different]
        · rw [if_neg sameKind]
          simp [Ne.symm sameKind]
      · rw [if_neg isOwner]
        simp [Ne.symm isOwner]
  · refine ⟨fun _ _ _ => False, ?_⟩
    simp only [letGo, holds]
    exact .refl consistent.filled

def PressesAs (kind : TokenKind) (stamp : InputStamp) (token : Bytes) (other : TokenKind)
    (owner name : Bytes) (sequence : Nat) : Prop :=
  other = kind ∧ owner = stamp.controllerId ∧ name = token ∧ sequence = stamp.sequence

theorem applyOwnedTransition_advances (consistent : ledger.Consistent) (kind : TokenKind)
    (stamp : InputStamp) (revision : Nat) (token : Bytes) (isPress heal : Bool) :
    Advances ledger
      (ledger.applyOwnedTransition platform kind stamp revision token isPress heal).1
      SharedHold.Moves fun other owner name sequence =>
        isPress = true ∧ PressesAs kind stamp token other owner name sequence := by
  obtain ⟨gone, validated⟩ := @validateStamp_letsGo platform ledger consistent stamp revision
  unfold applyOwnedTransition
  split
  · split
    · next taken =>
        rw [taken] at validated
        have steady := validated.consistent consistent
        split
        · exact validated.advances consistent
        · next state found =>
            cases isPress with
            | true =>
              have presses := @press_advances platform _ steady kind stamp token heal _ found
              simpa [PressesAs] using presses.after validated
            | false =>
              obtain ⟨released, letsGo⟩ := @letGo_letsGo platform _ steady kind
                stamp.controllerId token _ found
              simpa using (letsGo.advances steady).after validated
    · exact validated.advances consistent
  · exact .refl consistent

theorem clickButton_advances (accepts : ∀ emitted emission, platform emitted emission = true)
    (consistent : ledger.Consistent) (stamp : InputStamp) (revision : Nat) (button : Bytes) :
    Advances ledger (ledger.clickButton platform stamp revision button).1
      (SharedHold.Clicks (.button, button)) pressed := by
  have noClick : ∀ {other gone}, LetsGo ledger other gone →
      Advances ledger other (SharedHold.Clicks (.button, button)) pressed := by
    intro other gone letsGo
    have advances := @LetsGo.advances ledger other pressed gone letsGo consistent
    exact ⟨advances.consistent, ⟨_, advances.changes, .inl rfl⟩, advances.held⟩
  obtain ⟨gone, validated⟩ := @validateStamp_letsGo platform ledger consistent stamp revision
  unfold clickButton
  split
  · exact noClick (.refl consistent.filled)
  split
  · exact noClick (.refl consistent.filled)
  next free =>
    split
    · next middle taken =>
        rw [taken] at validated
        have steady := validated.consistent consistent
        have stillFree : middle.owners .button button = ∅ := by
          apply Finset.eq_empty_of_forall_notMem
          intro owner owns
          have before := ((validated.owners .button button owner).mp owns).1
          simp [not_not.mp free] at before
        have isClick : (((middle.emit platform .releaseLatchedModifiers).1.emit platform
            (.transition .button button true)).1.emit platform
            (.transition .button button false)).1.hold =
            middle.hold.click (.button, button) := by
          apply SharedHold.ext
          · funext switch
            simp [hold, SharedHold.click]
          · simp [hold, SharedHold.click, List.filterMap_cons, Emission.signal?]
        have down : (emit platform (emit platform middle .releaseLatchedModifiers).1
            (.transition .button button true)).2 = true := accepts _ _
        dsimp only
        rw [if_pos down]
        refine ⟨⟨?_, ?_⟩, ⟨middle.hold, validated.moves, .inr ⟨stillFree, isClick⟩⟩, ?_⟩
        · simpa [heldSequence] using steady.owned
        · intro kind token
          simpa using steady.filled kind token
        · intro kind owner token sequence held
          exact .inl ((validated.held kind owner token sequence).mp held).1
    · exact noClick validated

theorem releaseController_letsGo (consistent : ledger.Consistent) (controllerId : Bytes) :
    ∃ gone, LetsGo ledger (ledger.releaseController platform controllerId).1 gone := by
  cases found : ledger.controllers.get? controllerId with
  | none =>
    refine ⟨fun _ _ _ => False, ?_⟩
    simpa only [releaseController, found] using LetsGo.refl consistent.filled
  | some state =>
    have released := @releaseControllerState_letsGo platform ledger consistent _ _ found
    refine ⟨fun _ owner _ => owner = controllerId, ?_⟩
    have isResult : (ledger.releaseController platform controllerId).1 =
        { (ledger.releaseControllerState platform controllerId state).1 with
          controllers := (ledger.releaseControllerState platform controllerId
            state).1.controllers.erase controllerId } := by
      simp only [releaseController, found]
    rw [isResult]
    generalize (ledger.releaseControllerState platform controllerId state).1 = middle
      at released
    refine ⟨released.owners, ?_, released.filled, released.moves⟩
    intro kind owner token sequence
    rw [← released.held]
    simp only [heldSequence, Dictionary.get?_erase]
    by_cases same : owner = controllerId
    · have gone := (released.held kind owner token sequence).not.mpr (by simp [same])
      simp only [heldSequence, same] at gone
      simp [gone, same]
    · rw [if_neg same]

theorem releaseAll_advances (ledger : InputLedger) :
    Advances ledger (ledger.releaseAll platform) (fun before after => after = before.letGoAll)
      pressed where
  consistent := by
    constructor
    · intro kind token owner
      cases kind <;> simp [releaseAll, owners, ownersOf, heldSequence]
    · intro kind token
      cases kind <;> simp [releaseAll, ownersOf]
  changes := by
    apply SharedHold.ext
    · funext place
      obtain ⟨kind, token⟩ := place
      cases kind <;> simp [hold, SharedHold.letGoAll, releaseAll, owners, ownersOf]
    · simp [hold, SharedHold.letGoAll, releaseAll, emit, Emission.signal?]
  held := by
    intro kind owner token sequence held
    simp [releaseAll, heldSequence] at held

/-! ## Reconciling -/

def isUndeclared (declared : Finset Bytes) (before : Nat) (entry : Bytes × Nat) : Bool :=
  decide (entry.1 ∉ declared ∧ entry.2 < before)

theorem releaseUndeclared_spec {kind : TokenKind} {controllerId : Bytes}
    {declared : Finset Bytes} {before : Nat} {entries : List (Bytes × Nat)} {held : HeldMap}
    {ok : Bool} {released : Nat} (filled : ledger.Filled)
    (distinct : (entries.map Prod.fst).Nodup)
    (owns : ∀ entry, entry ∈ entries → controllerId ∈ ledger.owners kind entry.1) :
    Disowns ledger (entries.foldl
        (releaseUndeclaredEntry platform kind controllerId declared before)
        (held, ledger, ok, released)).2.1 kind controllerId
        (· ∈ (entries.filter (isUndeclared declared before)).map Prod.fst) ∧
      ∀ token, (entries.foldl
          (releaseUndeclaredEntry platform kind controllerId declared before)
          (held, ledger, ok, released)).1.get? token =
        if token ∈ (entries.filter (isUndeclared declared before)).map Prod.fst then none
        else held.get? token := by
  induction entries generalizing ledger held ok released with
  | nil => exact ⟨by simpa using Disowns.refl filled kind controllerId, by simp⟩
  | cons entry rest ih =>
    obtain ⟨fresh, restDistinct⟩ := List.nodup_cons.mp distinct
    have restOwns : ∀ other, other ∈ rest → controllerId ∈ ledger.owners kind other.1 :=
      fun other member => owns other (List.mem_cons_of_mem _ member)
    cases gone : isUndeclared declared before entry with
    | false =>
      have covered : entry.1 ∈ declared ∨ before ≤ entry.2 := by
        simp only [isUndeclared, decide_eq_false_iff_not] at gone
        grind
      rw [List.foldl_cons, releaseUndeclaredEntry, if_pos covered,
        List.filter_cons_of_neg (by simp [gone])]
      exact ih filled restDistinct restOwns
    | true =>
      have uncovered : ¬ (entry.1 ∈ declared ∨ before ≤ entry.2) := by
        simp only [isUndeclared, decide_eq_true_eq] at gone
        grind
      have drops := @dropOwner_disowns platform ledger kind controllerId entry.1 filled
        (owns entry List.mem_cons_self)
      rw [List.foldl_cons, releaseUndeclaredEntry, if_neg uncovered,
        List.filter_cons_of_pos gone]
      obtain ⟨later, left⟩ := @ih _ (held.erase entry.1)
        ((ledger.dropOwner platform kind controllerId entry.1).2 && ok) (released + 1)
        drops.filled restDistinct (by
          intro other member
          rw [drops.owners]
          refine ⟨restOwns other member, ?_⟩
          rintro ⟨-, -, same⟩
          exact fresh (same ▸ List.mem_map_of_mem member))
      refine ⟨drops.trans later fun token => by simp, fun token => ?_⟩
      refine (left token).trans ?_
      rw [Dictionary.get?_erase, List.map_cons]
      by_cases same : token = entry.1
      · simp [same]
      · simp only [same, if_false, List.mem_cons, false_or]

def declaredOf (declaredKeys declaredButtons : Finset Bytes) : TokenKind → Finset Bytes
  | .key => declaredKeys
  | .button => declaredButtons

def Undeclared (ledger : InputLedger) (declared : TokenKind → Finset Bytes) (before : Nat)
    (kind : TokenKind) (owner token : Bytes) : Prop :=
  token ∉ declared kind ∧
    ∃ sequence, ledger.heldSequence kind owner token = some sequence ∧ sequence < before

theorem mem_undeclared {held : HeldMap} {declared : Finset Bytes} {before : Nat} {token : Bytes} :
    token ∈ (held.rows.filter (isUndeclared declared before)).map Prod.fst ↔
      token ∉ declared ∧ ∃ sequence, held.get? token = some sequence ∧ sequence < before := by
  simp only [List.mem_map, List.mem_filter, isUndeclared, decide_eq_true_eq, Prod.exists,
    Dictionary.get?_eq_some_iff]
  constructor
  · rintro ⟨name, sequence, ⟨member, uncovered, earlier⟩, rfl⟩
    exact ⟨uncovered, sequence, member, earlier⟩
  · rintro ⟨uncovered, sequence, member, earlier⟩
    exact ⟨token, sequence, ⟨member, uncovered, earlier⟩, rfl⟩

theorem left_of_undeclared {held left : HeldMap} {declared : Finset Bytes} {before : Nat}
    (isLeft : ∀ token, left.get? token =
      if token ∈ (held.rows.filter (isUndeclared declared before)).map Prod.fst then none
      else held.get? token) (token : Bytes) (sequence : Nat) :
    left.get? token = some sequence ↔ held.get? token = some sequence ∧
      token ∉ (held.rows.filter (isUndeclared declared before)).map Prod.fst := by
  rw [isLeft]
  split
  · next gone => simp [gone]
  · next stays => simp [stays]

theorem reconcileController_letsGo (consistent : ledger.Consistent) {controllerId : Bytes}
    {state : ControllerState} (found : ledger.controllers.get? controllerId = some state)
    (declaredKeys declaredButtons : Finset Bytes) (before : Nat) (ok : Bool) (released : Nat) :
    LetsGo ledger (reconcileController platform declaredKeys declaredButtons before
        (ledger, ok, released) (controllerId, state)).1
      (fun kind owner token => owner = controllerId ∧
        ledger.Undeclared (declaredOf declaredKeys declaredButtons) before kind owner token) ∧
      ∀ other, other ≠ controllerId →
        (reconcileController platform declaredKeys declaredButtons before
          (ledger, ok, released) (controllerId, state)).1.controllers.get? other =
            ledger.controllers.get? other := by
  have ownsOf : ∀ (kind : TokenKind) (entry : Bytes × Nat), entry ∈ (state.held kind).rows →
      controllerId ∈ ledger.owners kind entry.1 := by
    intro kind entry member
    exact owns_of_held consistent found (Dictionary.get?_eq_some_iff.mpr member)
  obtain ⟨keys, keysLeft⟩ := @releaseUndeclared_spec platform ledger .key controllerId
    declaredKeys before state.keys.rows state.keys true 0 consistent.filled state.keys.unique
    (ownsOf .key)
  obtain ⟨buttons, buttonsLeft⟩ := @releaseUndeclared_spec platform _ .button controllerId
    declaredButtons before state.buttons.rows state.buttons true 0 keys.filled
    state.buttons.unique
    (fun entry member => (keys.owners _ _ _).mpr ⟨ownsOf .button entry member, by simp⟩)
  have letsGo := @letsGo_of_disowns ledger _ controllerId { state with
      keys := (releaseUndeclared platform .key controllerId declaredKeys before state.keys
        ledger).1
      buttons := (releaseUndeclared platform .button controllerId declaredButtons before
        state.buttons (releaseUndeclared platform .key controllerId declaredKeys before
          state.keys ledger).2.1).1 } _ _ _ keys buttons
    (by
      intro token sequence
      rw [heldSequence_of_get .key found]
      exact left_of_undeclared keysLeft token sequence)
    (by
      intro token sequence
      rw [heldSequence_of_get .button found]
      exact left_of_undeclared buttonsLeft token sequence)
  have sameGone : ∀ kind owner token, (owner = controllerId ∧
      ledger.Undeclared (declaredOf declaredKeys declaredButtons) before kind owner token) ↔
      owner = controllerId ∧ match kind with
        | .key => token ∈
            (state.keys.rows.filter (isUndeclared declaredKeys before)).map Prod.fst
        | .button => token ∈
            (state.buttons.rows.filter (isUndeclared declaredButtons before)).map Prod.fst := by
    intro kind owner token
    refine and_congr_right fun same => ?_
    subst same
    rw [Undeclared, heldSequence_of_get kind found]
    cases kind <;> exact mem_undeclared.symm
  refine ⟨letsGo.congr sameGone, ?_⟩
  intro other different
  have same := buttons.controllers.trans keys.controllers
  change (Dictionary.put _ controllerId _).get? other = _
  rw [Dictionary.get?_put, if_neg (Ne.symm different)]
  exact congrArg (fun controllers => controllers.get? other) same

theorem reconcileControllers_letsGo (consistent : ledger.Consistent)
    (declaredKeys declaredButtons : Finset Bytes) (before : Nat)
    {entries : List (Bytes × ControllerState)} (ok : Bool) (released : Nat)
    (distinct : (entries.map Prod.fst).Nodup)
    (found : ∀ entry, entry ∈ entries → ledger.controllers.get? entry.1 = some entry.2) :
    LetsGo ledger (entries.foldl
        (reconcileController platform declaredKeys declaredButtons before)
        (ledger, ok, released)).1
      fun kind owner token => owner ∈ entries.map Prod.fst ∧
        ledger.Undeclared (declaredOf declaredKeys declaredButtons) before kind owner token := by
  induction entries generalizing ledger ok released with
  | nil => simpa using LetsGo.refl consistent.filled
  | cons entry rest ih =>
    obtain ⟨fresh, restDistinct⟩ := List.nodup_cons.mp distinct
    obtain ⟨controllerId, state⟩ := entry
    obtain ⟨first, others⟩ := @reconcileController_letsGo platform ledger consistent
      controllerId state (found _ List.mem_cons_self) declaredKeys declaredButtons before ok
      released
    rw [List.foldl_cons]
    generalize reconcileController platform declaredKeys declaredButtons before
      (ledger, ok, released) (controllerId, state) = progress at first others
    obtain ⟨middle, middleOk, middleReleased⟩ := progress
    have later := @ih middle (first.consistent consistent) middleOk middleReleased
      restDistinct (by
        intro other member
        have differs : other.1 ≠ controllerId := fun same =>
          fresh (List.mem_map.mpr ⟨other, member, same⟩)
        rw [others other.1 differs]
        exact found other (List.mem_cons_of_mem _ member))
    refine first.trans later fun kind owner token => ?_
    rw [List.map_cons, List.mem_cons]
    by_cases isFirst : owner = controllerId
    · subst isFirst
      simp [fresh]
    · have sameHeld : middle.heldSequence kind owner token =
          ledger.heldSequence kind owner token := by
        ext sequence
        rw [first.held]
        simp [isFirst]
      simp [isFirst, Undeclared, sameHeld]

theorem reconcileHeld_letsGo (consistent : ledger.Consistent)
    (declaredKeys declaredButtons : Finset Bytes) (before : Nat) :
    LetsGo ledger (ledger.reconcileHeld platform declaredKeys declaredButtons before).1
      (ledger.Undeclared (declaredOf declaredKeys declaredButtons) before) := by
  have passed := @reconcileControllers_letsGo platform ledger consistent declaredKeys
    declaredButtons before ledger.controllers.rows true 0 ledger.controllers.unique
    fun entry member => Dictionary.get?_eq_some_iff.mpr member
  refine passed.congr fun kind owner token => (and_iff_right_of_imp ?_).symm
  intro uncovered
  obtain ⟨-, sequence, held, -⟩ := uncovered
  cases found : ledger.controllers.get? owner with
  | none => simp [heldSequence, found] at held
  | some state => exact List.mem_map_of_mem (Dictionary.get?_eq_some_iff.mp found)

/-- What a call may press. -/
def Presses : LedgerCall → TokenKind → Bytes → Bytes → Nat → Prop
  | .applyKey stamp _ key pressed => fun kind owner token sequence =>
    pressed = true ∧ PressesAs .key stamp key kind owner token sequence
  | .applyButton stamp _ button pressed => fun kind owner token sequence =>
    pressed = true ∧ PressesAs .button stamp button kind owner token sequence
  | .applyPointer .. | .clickButton .. | .applyWheel .. | .applyText .. | .releaseController ..
  | .reconcileHeld .. | .releaseAll => fun _ _ _ _ => False

/-- How a call may change owners and signals: one owner more or less at a time, except that
a click presses and releases its button while it has no owner, and that one call lets go of
everything. -/
def May : LedgerCall → Changes
  | .clickButton _ _ button => SharedHold.Clicks (.button, button)
  | .releaseAll => fun before after => after = before.letGoAll
  | .applyPointer .. | .applyKey .. | .applyButton .. | .applyWheel .. | .applyText ..
  | .releaseController .. | .reconcileHeld .. => SharedHold.Moves

theorem may_isFaithful {call : LedgerCall}
    {before after : SharedHold Bytes (TokenKind × Bytes)} (may : May call before after)
    (faithful : before.IsFaithful) : after.IsFaithful := by
  cases call with
  | clickButton => exact SharedHold.Clicks.isFaithful may faithful
  | releaseAll => exact may ▸ before.letGoAll_isFaithful
  | applyPointer | applyKey | applyButton | applyWheel | applyText | releaseController
  | reconcileHeld => exact SharedHold.Moves.isFaithful may faithful

theorem step_advances (accepts : ∀ emitted emission, platform emitted emission = true)
    (consistent : ledger.Consistent) (call : LedgerCall) :
    Advances ledger (ledger.step platform call) (May call) (Presses call) := by
  cases call with
  | applyPointer stamp revision point =>
    simp only [step, applyPointer]
    split
    · exact applyEmission_advances consistent stamp revision rfl
    · exact .refl consistent
  | applyKey stamp revision key pressed =>
    exact applyOwnedTransition_advances consistent .key stamp revision key pressed _
  | applyButton stamp revision button pressed =>
    exact applyOwnedTransition_advances consistent .button stamp revision button pressed true
  | clickButton stamp revision button =>
    exact clickButton_advances accepts consistent stamp revision button
  | applyWheel stamp revision deltaX deltaY =>
    simp only [step, applyWheel]
    split
    · exact applyEmission_advances consistent stamp revision rfl
    · exact .refl consistent
  | applyText stamp revision text =>
    simp only [step, applyText]
    split
    · exact applyEmission_advances consistent stamp revision rfl
    · exact .refl consistent
  | releaseController controllerId =>
    obtain ⟨gone, letsGo⟩ := @releaseController_letsGo platform ledger consistent controllerId
    exact letsGo.advances consistent
  | reconcileHeld declaredKeys declaredButtons before =>
    exact (reconcileHeld_letsGo consistent declaredKeys declaredButtons before).advances
      consistent
  | releaseAll => exact releaseAll_advances ledger

end

/-- A key or button is down at the platform, and owned, exactly as long as some controller's
held map has it. -/
structure HeldExactly (ledger : InputLedger) : Prop where
  down : ∀ kind token, SharedHold.isDown (kind, token) ledger.hold.signals = true ↔
    ∃ controllerId sequence, ledger.heldSequence kind controllerId token = some sequence
  owned : ∀ kind token controllerId, controllerId ∈ ledger.owners kind token ↔
    ∃ sequence, ledger.heldSequence kind controllerId token = some sequence
  filled : ∀ kind token, (ledger.ownersOf kind).get? token ≠ some ∅

def HeldAsPressed (calls : List LedgerCall) (ledger : InputLedger) : Prop :=
  ∀ kind controllerId token sequence,
    ledger.heldSequence kind controllerId token = some sequence →
      ∃ call, call ∈ calls ∧ Presses call kind controllerId token sequence

def accepting : List Emission → Emission → Bool := fun _ _ => true

theorem consistent_initial : initial.Consistent where
  owned := by
    intro kind token owner
    cases kind <;> simp [owners, ownersOf, initial, heldSequence]
  filled := by
    intro kind token
    cases kind <;> simp [ownersOf, initial]

theorem faithful_initial : initial.hold.IsFaithful := by
  intro switch
  obtain ⟨kind, token⟩ := switch
  cases kind <;> simp [hold, initial, SharedHold.isDown, owners, ownersOf]

theorem run_keeps (calls : List LedgerCall) :
    (run (step accepting) initial calls).Consistent ∧
      (run (step accepting) initial calls).hold.IsFaithful ∧
      HeldAsPressed calls (run (step accepting) initial calls) := by
  induction calls using List.reverseRecOn with
  | nil =>
    refine ⟨consistent_initial, faithful_initial, ?_⟩
    intro kind owner token sequence held
    simp [heldSequence, initial] at held
  | append_singleton earlier call ih =>
    obtain ⟨consistent, faithful, asPressed⟩ := ih
    rw [run_append, run_cons, run_nil]
    have advances := @step_advances accepting _ (fun _ _ => rfl) consistent call
    refine ⟨advances.consistent, may_isFaithful advances.changes faithful, ?_⟩
    intro kind owner token sequence held
    rcases advances.held kind owner token sequence held with before | new
    · obtain ⟨press, member, presses⟩ := asPressed kind owner token sequence before
      exact ⟨press, List.mem_append_left _ member, presses⟩
    · exact ⟨call, by simp, new⟩

theorem heldExactly_of_consistent {ledger : InputLedger} (consistent : ledger.Consistent)
    (faithful : ledger.hold.IsFaithful) : ledger.HeldExactly where
  down := by
    intro kind token
    rw [faithful (kind, token)]
    exact exists_congr (consistent.owned kind token)
  owned := consistent.owned
  filled := consistent.filled

end InputLedger

end ImCodes.Remote
