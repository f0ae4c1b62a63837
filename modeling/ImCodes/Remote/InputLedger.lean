import ImCodes.Library.Dictionary
import Mathlib.Data.Finset.Basic
import Mathlib.Data.Rat.Defs

/-!
# The input ledger

A remote-desktop worker lets several controllers hold keys and buttons of one machine. The
ledger keeps for each controller its epoch, its last sequence and what it holds, and for each
key and button the controllers that hold it. What it asks of the platform is logged, newest
first; `platform` answers a request from the requests before it.
-/

set_option autoImplicit false

namespace ImCodes.Remote

open Library

/-- A `std::string`. -/
abbrev Bytes := List UInt8

/-- A double, of which only finite values have a place on the number line. -/
inductive Double
  | finite (value : ℚ)
  | infinite (negative : Bool)
  | nan
deriving DecidableEq

namespace Double

def isFinite : Double → Bool
  | .finite _ => true
  | .infinite _ => false
  | .nan => false

/-- `lower <= value && value <= upper`, of a number. -/
def within (lower upper : ℚ) : Double → Bool
  | .finite value => decide (lower ≤ value ∧ value ≤ upper)
  | .infinite _ => false
  | .nan => false

end Double

structure LogicalPoint where
  x : Double
  y : Double
deriving DecidableEq

def maximumControllerIdBytes : Nat := 128

def maximumInputTokenBytes : Nat := 64

def maximumInputTextBytes : Nat := 4096

def maximumWheelDelta : ℚ := 10000

inductive InputResult
  | applied
  | capabilityUnavailable
  | terminal
  | staleEpoch
  | staleSequence
  | staleTopology
  | unknownDisplay
  | invalidInput
  | adapterFailure
deriving DecidableEq

structure InputStamp where
  controllerId : Bytes
  epoch : Nat
  sequence : Nat
  topologyRevision : Nat
deriving DecidableEq

/-- What can be held down: `EmitKey` and `EmitButton`, the keys and the buttons of a controller
and their owners come in the same two kinds. -/
inductive TokenKind
  | key
  | button
deriving DecidableEq

/-- A request to the platform's `InputAdapter`. -/
inductive Emission
  | movePointer (point : LogicalPoint)
  | transition (kind : TokenKind) (token : Bytes) (pressed : Bool)
  | wheel (deltaX deltaY : Double)
  | text (text : Bytes)
  | releaseAllEmittedState
  | releaseLatchedModifiers
deriving DecidableEq

abbrev HeldMap := Dictionary Bytes Nat

abbrev OwnerMap := Dictionary Bytes (Finset Bytes)

structure ControllerState where
  epoch : Nat
  lastSequence : Nat
  keys : HeldMap
  buttons : HeldMap

namespace ControllerState

def held (controller : ControllerState) : TokenKind → HeldMap
  | .key => controller.keys
  | .button => controller.buttons

def withHeld (controller : ControllerState) (kind : TokenKind) (held : HeldMap) :
    ControllerState :=
  match kind with
  | .key => { controller with keys := held }
  | .button => { controller with buttons := held }

def fresh (epoch : Nat) : ControllerState := ⟨epoch, 0, Table.empty, Table.empty⟩

@[simp] theorem held_withHeld (controller : ControllerState) (kind other : TokenKind)
    (held : HeldMap) :
    (controller.withHeld kind held).held other =
      if kind = other then held else controller.held other := by
  cases kind <;> cases other <;> rfl

@[simp] theorem held_fresh (epoch : Nat) (kind : TokenKind) :
    (fresh epoch).held kind = Table.empty := by
  cases kind <;> rfl

@[simp] theorem epoch_withHeld (controller : ControllerState) (kind : TokenKind)
    (held : HeldMap) : (controller.withHeld kind held).epoch = controller.epoch := by
  cases kind <;> rfl

@[simp] theorem lastSequence_withHeld (controller : ControllerState) (kind : TokenKind)
    (held : HeldMap) :
    (controller.withHeld kind held).lastSequence = controller.lastSequence := by
  cases kind <;> rfl

end ControllerState

structure InputLedger where
  controllers : Dictionary Bytes ControllerState
  keyOwners : OwnerMap
  buttonOwners : OwnerMap
  emitted : List Emission

namespace InputLedger

def initial : InputLedger := ⟨Table.empty, Table.empty, Table.empty, []⟩

def ownersOf (ledger : InputLedger) : TokenKind → OwnerMap
  | .key => ledger.keyOwners
  | .button => ledger.buttonOwners

def withOwners (ledger : InputLedger) (kind : TokenKind) (owners : OwnerMap) : InputLedger :=
  match kind with
  | .key => { ledger with keyOwners := owners }
  | .button => { ledger with buttonOwners := owners }

def withController (ledger : InputLedger) (controllerId : Bytes) (state : ControllerState) :
    InputLedger :=
  { ledger with controllers := ledger.controllers.put controllerId state }

def owners (ledger : InputLedger) (kind : TokenKind) (token : Bytes) : Finset Bytes :=
  ((ledger.ownersOf kind).get? token).getD ∅

def heldSequence (ledger : InputLedger) (kind : TokenKind) (controllerId token : Bytes) :
    Option Nat :=
  (ledger.controllers.get? controllerId).bind fun state => (state.held kind).get? token

section
variable (platform : List Emission → Emission → Bool)

def emit (ledger : InputLedger) (emission : Emission) : InputLedger × Bool :=
  ({ ledger with emitted := emission :: ledger.emitted }, platform ledger.emitted emission)

/-- Take a controller off the owners of a key or button, and let it go when it was the last. -/
def dropOwner (ledger : InputLedger) (kind : TokenKind) (controllerId token : Bytes) :
    InputLedger × Bool :=
  match (ledger.ownersOf kind).get? token with
  | none => (ledger, true)
  | some owners =>
    let left := owners.erase controllerId
    if left = ∅ then
      let (released, accepted) := ledger.emit platform (.transition kind token false)
      (released.withOwners kind ((ledger.ownersOf kind).erase token), accepted)
    else (ledger.withOwners kind ((ledger.ownersOf kind).put token left), true)

/-- The loop of `ReleaseControllerState` over one of the two held maps. -/
def dropOwners (kind : TokenKind) (controllerId : Bytes) (tokens : List Bytes)
    (ledger : InputLedger) (released : Bool) : InputLedger × Bool :=
  tokens.foldl (fun (ledger, released) token =>
    let (ledger, accepted) := ledger.dropOwner platform kind controllerId token
    (ledger, accepted && released)) (ledger, released)

def releaseControllerState (ledger : InputLedger) (controllerId : Bytes)
    (state : ControllerState) : InputLedger × Bool :=
  let (ledger, released) := dropOwners platform .key controllerId state.keys.keys ledger true
  let (ledger, released) :=
    dropOwners platform .button controllerId state.buttons.keys ledger released
  (ledger.withController controllerId
    { state with keys := Table.empty, buttons := Table.empty }, released)

/-- The end of `ValidateStamp`: a record takes a sequence it has not seen. -/
def admitSequence (ledger : InputLedger) (stamp : InputStamp) (state : ControllerState) :
    InputLedger × InputResult :=
  if stamp.sequence ≤ state.lastSequence then
    (ledger.withController stamp.controllerId state, .staleSequence)
  else
    (ledger.withController stamp.controllerId { state with lastSequence := stamp.sequence },
      .applied)

def validateStamp (ledger : InputLedger) (stamp : InputStamp) (currentTopologyRevision : Nat) :
    InputLedger × InputResult :=
  if currentTopologyRevision = 0 ∨ stamp.topologyRevision ≠ currentTopologyRevision then
    (ledger, .staleTopology)
  else if stamp.controllerId = [] ∨ stamp.controllerId.length > maximumControllerIdBytes ∨
      stamp.epoch = 0 ∨ stamp.sequence = 0 then
    (ledger, .invalidInput)
  else
    match ledger.controllers.get? stamp.controllerId with
    | none => ledger.admitSequence stamp (.fresh stamp.epoch)
    | some state =>
      if stamp.epoch < state.epoch then (ledger, .staleEpoch)
      else if stamp.epoch > state.epoch then
        let (ledger, released) :=
          ledger.releaseControllerState platform stamp.controllerId state
        if released then ledger.admitSequence stamp (.fresh stamp.epoch)
        else (ledger, .adapterFailure)
      else ledger.admitSequence stamp state

/-- An operation that only passes a request on once its stamp is taken. -/
def applyEmission (ledger : InputLedger) (stamp : InputStamp) (currentTopologyRevision : Nat)
    (emission : Emission) : InputLedger × InputResult :=
  match ledger.validateStamp platform stamp currentTopologyRevision with
  | (ledger, .applied) =>
    let (ledger, accepted) := ledger.emit platform emission
    (ledger, if accepted then .applied else .adapterFailure)
  | refused => refused

def applyPointer (ledger : InputLedger) (stamp : InputStamp) (currentTopologyRevision : Nat)
    (point : LogicalPoint) : InputLedger × InputResult :=
  if point.x.isFinite && point.y.isFinite then
    ledger.applyEmission platform stamp currentTopologyRevision (.movePointer point)
  else (ledger, .invalidInput)

def isTokenByte (character : UInt8) : Bool :=
  (0x61 ≤ character && character ≤ 0x7a) || (0x41 ≤ character && character ≤ 0x5a) ||
    (0x30 ≤ character && character ≤ 0x39) ||
    character == 0x5f || character == 0x2d || character == 0x2e

def isBoundedToken (value : Bytes) : Bool :=
  value ≠ [] && value.length ≤ maximumInputTokenBytes && value.all isTokenByte

/-- The modifiers `ReleaseLatchedModifiers` may let go: control, shift, alt and meta, each left
and right. -/
def latchableModifiers : List Bytes :=
  ["ControlLeft", "ControlRight", "ShiftLeft", "ShiftRight", "AltLeft", "AltRight", "MetaLeft",
    "MetaRight"].map fun name => name.toUTF8.toList

def isLatchableModifierKey (key : Bytes) : Bool := latchableModifiers.contains key

/-- A press by a controller that may not hold the key or button yet. -/
def press (ledger : InputLedger) (kind : TokenKind) (stamp : InputStamp) (token : Bytes)
    (healLatchedBeforePress : Bool) (state : ControllerState) : InputLedger × InputResult :=
  if ((state.held kind).get? token).isSome then (ledger, .applied)
  else
    let wasFree := ledger.owners kind token = ∅
    let owned := (ledger.withController stamp.controllerId
      (state.withHeld kind ((state.held kind).put token stamp.sequence))).withOwners kind
        ((ledger.ownersOf kind).put token
          (insert stamp.controllerId (ledger.owners kind token)))
    if wasFree then
      let healed := if healLatchedBeforePress then
        (owned.emit platform .releaseLatchedModifiers).1 else owned
      let (pressed, accepted) := healed.emit platform (.transition kind token true)
      (pressed, if accepted then .applied else .adapterFailure)
    else (owned, .applied)

/-- A release by a controller that may hold the key or button. -/
def letGo (ledger : InputLedger) (kind : TokenKind) (controllerId token : Bytes)
    (state : ControllerState) : InputLedger × InputResult :=
  if ((state.held kind).get? token).isSome then
    let forgotten := ledger.withController controllerId
      (state.withHeld kind ((state.held kind).erase token))
    let (released, accepted) := forgotten.dropOwner platform kind controllerId token
    (released, if accepted then .applied else .adapterFailure)
  else (ledger, .applied)

def applyOwnedTransition (ledger : InputLedger) (kind : TokenKind) (stamp : InputStamp)
    (currentTopologyRevision : Nat) (value : Bytes) (pressed healLatchedBeforePress : Bool) :
    InputLedger × InputResult :=
  if isBoundedToken value then
    match ledger.validateStamp platform stamp currentTopologyRevision with
    | (ledger, .applied) =>
      match ledger.controllers.get? stamp.controllerId with
      -- A stamp that was taken leaves a record of its controller.
      | none => (ledger, .applied)
      | some state =>
        if pressed then
          ledger.press platform kind stamp value healLatchedBeforePress state
        else ledger.letGo platform kind stamp.controllerId value state
    | refused => refused
  else (ledger, .invalidInput)

def applyKey (ledger : InputLedger) (stamp : InputStamp) (currentTopologyRevision : Nat)
    (key : Bytes) (pressed : Bool) : InputLedger × InputResult :=
  ledger.applyOwnedTransition platform .key stamp currentTopologyRevision key pressed
    (!isLatchableModifierKey key)

def applyButton (ledger : InputLedger) (stamp : InputStamp) (currentTopologyRevision : Nat)
    (button : Bytes) (pressed : Bool) : InputLedger × InputResult :=
  ledger.applyOwnedTransition platform .button stamp currentTopologyRevision button pressed true

def clickButton (ledger : InputLedger) (stamp : InputStamp) (currentTopologyRevision : Nat)
    (button : Bytes) : InputLedger × InputResult :=
  if button = [] ∨ button.length > maximumInputTokenBytes then (ledger, .invalidInput)
  else if ledger.owners .button button ≠ ∅ then (ledger, .invalidInput)
  else
    match ledger.validateStamp platform stamp currentTopologyRevision with
    | (ledger, .applied) =>
      let healed := (ledger.emit platform .releaseLatchedModifiers).1
      let (pressed, down) := healed.emit platform (.transition .button button true)
      if down then
        let (released, up) := pressed.emit platform (.transition .button button false)
        (released, if up then .applied else .adapterFailure)
      else (pressed, .adapterFailure)
    | refused => refused

def applyWheel (ledger : InputLedger) (stamp : InputStamp) (currentTopologyRevision : Nat)
    (deltaX deltaY : Double) : InputLedger × InputResult :=
  if deltaX.within (-maximumWheelDelta) maximumWheelDelta &&
      deltaY.within (-maximumWheelDelta) maximumWheelDelta then
    ledger.applyEmission platform stamp currentTopologyRevision (.wheel deltaX deltaY)
  else (ledger, .invalidInput)

/-- How many continuation bytes a lead byte announces, and its share of the code point. -/
def utf8Lead (first : UInt8) : Option (Nat × Nat) :=
  if 0xc2 ≤ first && first ≤ 0xdf then some (1, first.toNat % 0x20)
  else if 0xe0 ≤ first && first ≤ 0xef then some (2, first.toNat % 0x10)
  else if 0xf0 ≤ first && first ≤ 0xf4 then some (3, first.toNat % 0x08)
  else none

def isScalarValue (continuationCount codePoint : Nat) : Bool :=
  !((continuationCount == 2 && codePoint < 0x800) ||
    (continuationCount == 3 && codePoint < 0x10000) ||
    (0xd800 ≤ codePoint && codePoint ≤ 0xdfff) || codePoint > 0x10ffff)

/-- The loop of `IsBoundedUtf8`. -/
def isUtf8 : Bytes → Bool
  | [] => true
  | first :: rest =>
    if first = 0 then false
    else if first ≤ 0x7f then isUtf8 rest
    else
      match utf8Lead first with
      | none => false
      | some (continuationCount, lead) =>
        let continuation := rest.take continuationCount
        if rest.length < continuationCount then false
        else if continuation.all fun next => 0x80 ≤ next && next ≤ 0xbf then
          let codePoint := continuation.foldl
            (fun codePoint next => codePoint * 0x40 + next.toNat % 0x40) lead
          isScalarValue continuationCount codePoint && isUtf8 (rest.drop continuationCount)
        else false
termination_by value => value.length
decreasing_by
  · simp
  · simp only [List.length_drop, List.length_cons]
    omega

def isBoundedUtf8 (value : Bytes) : Bool :=
  value ≠ [] && value.length ≤ maximumInputTextBytes && isUtf8 value

def applyText (ledger : InputLedger) (stamp : InputStamp) (currentTopologyRevision : Nat)
    (text : Bytes) : InputLedger × InputResult :=
  if isBoundedUtf8 text then
    ledger.applyEmission platform stamp currentTopologyRevision (.text text)
  else (ledger, .invalidInput)

/-- The loop of `ReleaseUndeclared`: a key or button that is not declared and was pressed before
the declaration is let go. -/
def releaseUndeclaredEntry (kind : TokenKind) (controllerId : Bytes) (declared : Finset Bytes)
    (before : Nat) (progress : HeldMap × InputLedger × Bool × Nat) (entry : Bytes × Nat) :
    HeldMap × InputLedger × Bool × Nat :=
  let (held, ledger, ok, released) := progress
  if entry.1 ∈ declared ∨ before ≤ entry.2 then progress
  else
    let (ledger, accepted) := ledger.dropOwner platform kind controllerId entry.1
    (held.erase entry.1, ledger, accepted && ok, released + 1)

/-- The controller's remaining held map, whether the platform accepted each release, and how many
keys or buttons were let go. -/
def releaseUndeclared (kind : TokenKind) (controllerId : Bytes) (declared : Finset Bytes)
    (before : Nat) (held : HeldMap) (ledger : InputLedger) :
    HeldMap × InputLedger × Bool × Nat :=
  held.rows.foldl (releaseUndeclaredEntry platform kind controllerId declared before)
    (held, ledger, true, 0)

/-- The loop of `ReconcileHeld` over the controllers. -/
def reconcileController (declaredKeys declaredButtons : Finset Bytes)
    (declarationSequence : Nat) (progress : InputLedger × Bool × Nat)
    (entry : Bytes × ControllerState) : InputLedger × Bool × Nat :=
  let (ledger, ok, released) := progress
  let (controllerId, state) := entry
  let (keys, ledger, keysOk, releasedKeys) :=
    releaseUndeclared platform .key controllerId declaredKeys declarationSequence state.keys ledger
  let (buttons, ledger, buttonsOk, releasedButtons) :=
    releaseUndeclared platform .button controllerId declaredButtons declarationSequence
      state.buttons ledger
  (ledger.withController controllerId { state with keys, buttons },
    buttonsOk && (keysOk && ok), released + releasedKeys + releasedButtons)

/-- The viewer's own account of what it holds, taken as authoritative. The result comes with how
many keys and buttons were let go. -/
def reconcileHeld (ledger : InputLedger) (declaredKeys declaredButtons : Finset Bytes)
    (declarationSequence : Nat) : InputLedger × InputResult × Nat :=
  let (ledger, ok, released) := ledger.controllers.rows.foldl
    (reconcileController platform declaredKeys declaredButtons declarationSequence)
    (ledger, true, 0)
  (ledger, if ok then .applied else .adapterFailure, released)

def releaseController (ledger : InputLedger) (controllerId : Bytes) : InputLedger × InputResult :=
  match ledger.controllers.get? controllerId with
  | none => (ledger, .applied)
  | some state =>
    let (ledger, released) := ledger.releaseControllerState platform controllerId state
    ({ ledger with controllers := ledger.controllers.erase controllerId },
      if released then .applied else .adapterFailure)

def releaseAll (ledger : InputLedger) : InputLedger :=
  { (ledger.emit platform .releaseAllEmittedState).1 with
    controllers := Table.empty
    keyOwners := Table.empty
    buttonOwners := Table.empty }

end

end InputLedger

/-- A call of the ledger, with the topology revision that is current when it is made. -/
inductive LedgerCall
  | applyPointer (stamp : InputStamp) (revision : Nat) (point : LogicalPoint)
  | applyKey (stamp : InputStamp) (revision : Nat) (key : Bytes) (pressed : Bool)
  | applyButton (stamp : InputStamp) (revision : Nat) (button : Bytes) (pressed : Bool)
  | clickButton (stamp : InputStamp) (revision : Nat) (button : Bytes)
  | applyWheel (stamp : InputStamp) (revision : Nat) (deltaX deltaY : Double)
  | applyText (stamp : InputStamp) (revision : Nat) (text : Bytes)
  | releaseController (controllerId : Bytes)
  | reconcileHeld (declaredKeys declaredButtons : Finset Bytes) (declarationSequence : Nat)
  | releaseAll

/-- The ledger after a call. -/
def InputLedger.step (platform : List Emission → Emission → Bool) (ledger : InputLedger) :
    LedgerCall → InputLedger
  | .applyPointer stamp revision point => (ledger.applyPointer platform stamp revision point).1
  | .applyKey stamp revision key pressed =>
    (ledger.applyKey platform stamp revision key pressed).1
  | .applyButton stamp revision button pressed =>
    (ledger.applyButton platform stamp revision button pressed).1
  | .clickButton stamp revision button => (ledger.clickButton platform stamp revision button).1
  | .applyWheel stamp revision deltaX deltaY =>
    (ledger.applyWheel platform stamp revision deltaX deltaY).1
  | .applyText stamp revision text => (ledger.applyText platform stamp revision text).1
  | .releaseController controllerId => (ledger.releaseController platform controllerId).1
  | .reconcileHeld declaredKeys declaredButtons declarationSequence =>
    (ledger.reconcileHeld platform declaredKeys declaredButtons declarationSequence).1
  | .releaseAll => ledger.releaseAll platform

end ImCodes.Remote
