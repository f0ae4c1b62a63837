import ImCodes.Remote.InputLedger

/-!
# The session core

A session views and, once control is active, passes input on to the ledger under the current
topology revision. A request the platform refuses ends the session.
-/

set_option autoImplicit false

namespace ImCodes.Remote

structure PixelSize where
  width : Nat
  height : Nat
deriving DecidableEq

def PixelSize.isValid (size : PixelSize) : Bool :=
  size.width > 0 && size.height > 0 && size.width ≤ 16384 && size.height ≤ 16384

structure LogicalRect where
  x : Double
  y : Double
  width : Double
  height : Double
deriving DecidableEq

/-- `0 < value && value <= upper`, of a number. -/
def Double.positiveUpTo (upper : ℚ) : Double → Bool
  | .finite value => decide (0 < value ∧ value ≤ upper)
  | .infinite _ => false
  | .nan => false

def LogicalRect.isValid (rect : LogicalRect) : Bool :=
  rect.x.isFinite && rect.y.isFinite && rect.width.positiveUpTo 1000000 &&
    rect.height.positiveUpTo 1000000

inductive DisplayRotation
  | k0
  | k90
  | k180
  | k270
deriving DecidableEq

structure DisplayTopology where
  displayId : Bytes
  generation : Nat
  encodedPixels : PixelSize
  logicalInputBounds : LogicalRect
  scale : Double
  rotation : DisplayRotation
deriving DecidableEq

def DisplayTopology.isValid (display : DisplayTopology) : Bool :=
  display.displayId ≠ [] && display.displayId.length ≤ 256 && display.generation ≠ 0 &&
    display.encodedPixels.isValid && display.logicalInputBounds.isValid &&
    display.scale.positiveUpTo 16

structure DesktopTopology where
  generation : Nat
  revision : Nat
  displays : List DisplayTopology
deriving DecidableEq

namespace DesktopTopology

def isValid (topology : DesktopTopology) : Bool :=
  topology.generation ≠ 0 && topology.revision ≠ 0 && topology.displays ≠ [] &&
    topology.displays.length ≤ 32 &&
    topology.displays.all (fun display =>
      display.isValid && display.generation == topology.generation) &&
    decide (topology.displays.map (·.displayId)).Nodup

def findDisplay (topology : DesktopTopology) (displayId : Bytes) : Option DisplayTopology :=
  topology.displays.find? fun display => display.displayId == displayId

end DesktopTopology

inductive SessionState
  | idle
  | viewing
  | controlling
  | terminal
deriving DecidableEq

inductive ReadinessState
  | unknown
  | ready
  | unavailable
deriving DecidableEq

structure CapabilityReadiness where
  capture : ReadinessState
  encoder : ReadinessState
  input : ReadinessState
  clipboard : ReadinessState
  display : ReadinessState
  disclosure : ReadinessState
  graphicalSession : ReadinessState
deriving DecidableEq

namespace CapabilityReadiness

def unknown : CapabilityReadiness :=
  ⟨.unknown, .unknown, .unknown, .unknown, .unknown, .unknown, .unknown⟩

def viewReady (readiness : CapabilityReadiness) : Bool :=
  readiness.capture == .ready && readiness.encoder == .ready &&
    readiness.disclosure == .ready && readiness.graphicalSession == .ready

def controlReady (readiness : CapabilityReadiness) : Bool :=
  readiness.viewReady && readiness.input == .ready

end CapabilityReadiness

inductive TerminalErrorCode
  | none
  | captureUnavailable
  | encoderUnavailable
  | inputUnavailable
  | disclosureUnavailable
  | graphicalSessionEnded
  | adapterFailure
  | protocolViolation
  | stopped
deriving DecidableEq

structure TerminalError where
  code : TerminalErrorCode
  detail : String
deriving DecidableEq

def TerminalError.isTerminal (error : TerminalError) : Bool := error.code ≠ .none

def stoppedError : TerminalError := ⟨.stopped, "session stopped"⟩

/-- The platform's answers, and its arithmetic of doubles. -/
structure SessionHost where
  platform : List Emission → Emission → Bool
  mapNormalized : LogicalRect → Double → Double → LogicalPoint

structure SessionCore where
  ledger : InputLedger
  state : SessionState
  readiness : CapabilityReadiness
  topology : Option DesktopTopology
  terminalError : TerminalError
  resourcesStopped : Bool

namespace SessionCore

def initial : SessionCore :=
  ⟨.initial, .idle, .unknown, none, ⟨.none, ""⟩, false⟩

variable (host : SessionHost)

def releaseAllControllers (core : SessionCore) : SessionCore :=
  { core with ledger := core.ledger.releaseAll host.platform }

def stop (core : SessionCore) (error : TerminalError) : SessionCore :=
  if core.state = .terminal then core
  else
    { core.releaseAllControllers host with
      resourcesStopped := true
      terminalError := if error.isTerminal then error else stoppedError
      state := .terminal }

def reportAdapterFailure (core : SessionCore) (error : TerminalError) : SessionCore :=
  core.stop host
    (if error.isTerminal then error
    else ⟨.adapterFailure, "adapter failed without a terminal code"⟩)

def start (core : SessionCore) (readiness : CapabilityReadiness) (topology : DesktopTopology) :
    SessionCore × Bool :=
  if core.state ≠ .idle || !readiness.viewReady || !topology.isValid then (core, false)
  else ({ core with readiness, topology := some topology, state := .viewing }, true)

def updateReadiness (core : SessionCore) (readiness : CapabilityReadiness) :
    SessionCore × Bool :=
  if core.state = .terminal then (core, false)
  else if !readiness.viewReady then
    (core.reportAdapterFailure host ⟨.adapterFailure, "view capability became unavailable"⟩,
      false)
  else
    let core := { core with readiness }
    if core.state = .controlling && !core.readiness.controlReady then
      ({ core.releaseAllControllers host with state := .viewing }, true)
    else (core, true)

def updateTopology (core : SessionCore) (topology : DesktopTopology) : SessionCore × Bool :=
  match core.topology with
  | none => (core, false)
  | some current =>
    if core.state = .terminal || !topology.isValid ||
        topology.generation ≠ current.generation || topology.revision ≤ current.revision then
      (core, false)
    else ({ core.releaseAllControllers host with topology := some topology }, true)

def setControlActive (core : SessionCore) (active : Bool) : SessionCore × Bool :=
  if core.state = .terminal || !core.readiness.viewReady then (core, false)
  else if active then
    if core.readiness.controlReady then ({ core with state := .controlling }, true)
    else (core, false)
  else ({ core.releaseAllControllers host with state := .viewing }, true)

def ensureControlAvailable (core : SessionCore) : InputResult :=
  if core.state = .terminal then .terminal
  else if core.state ≠ .controlling || !core.readiness.controlReady then .capabilityUnavailable
  else .applied

/-- The session after a result of the ledger: a failed adapter ends it. -/
def handleLedgerResult (core : SessionCore) (outcome : InputLedger × InputResult)
    (operation : String) : SessionCore × InputResult :=
  let (ledger, result) := outcome
  let core := { core with ledger }
  if result = .adapterFailure then
    (core.reportAdapterFailure host ⟨.inputUnavailable, operation ++ " adapter failed"⟩,
      .adapterFailure)
  else (core, result)

/-- An input operation: what the ledger makes of it under the current topology. -/
def applyInput (core : SessionCore) (operation : String)
    (apply : DesktopTopology → InputLedger × InputResult) : SessionCore × InputResult :=
  match core.ensureControlAvailable, core.topology with
  | .applied, some topology => core.handleLedgerResult host (apply topology) operation
  | .applied, none => (core, .staleTopology)
  | refused, _ => (core, refused)

def applyPointerMove (core : SessionCore) (stamp : InputStamp) (displayId : Bytes)
    (normalizedX normalizedY : Double) : SessionCore × InputResult :=
  match core.ensureControlAvailable with
  | .applied =>
    if !normalizedX.within 0 1 || !normalizedY.within 0 1 then (core, .invalidInput)
    else
      match core.topology with
      -- Control is not available before a topology is there.
      | none => (core, .unknownDisplay)
      | some topology =>
        match topology.findDisplay displayId with
        | none => (core, .unknownDisplay)
        | some display =>
          core.handleLedgerResult host
            (core.ledger.applyPointer host.platform stamp topology.revision
              (host.mapNormalized display.logicalInputBounds normalizedX normalizedY))
            "pointer"
  | refused => (core, refused)

def applyKey (core : SessionCore) (stamp : InputStamp) (key : Bytes) (pressed : Bool) :
    SessionCore × InputResult :=
  core.applyInput host "key transition" fun topology =>
    core.ledger.applyKey host.platform stamp topology.revision key pressed

def applyButton (core : SessionCore) (stamp : InputStamp) (button : Bytes) (pressed : Bool) :
    SessionCore × InputResult :=
  core.applyInput host "button transition" fun topology =>
    core.ledger.applyButton host.platform stamp topology.revision button pressed

def clickButton (core : SessionCore) (stamp : InputStamp) (button : Bytes) :
    SessionCore × InputResult :=
  core.applyInput host "button_click" fun topology =>
    core.ledger.clickButton host.platform stamp topology.revision button

def applyWheel (core : SessionCore) (stamp : InputStamp) (deltaX deltaY : Double) :
    SessionCore × InputResult :=
  core.applyInput host "wheel" fun topology =>
    core.ledger.applyWheel host.platform stamp topology.revision deltaX deltaY

def applyText (core : SessionCore) (stamp : InputStamp) (text : Bytes) :
    SessionCore × InputResult :=
  core.applyInput host "text" fun topology =>
    core.ledger.applyText host.platform stamp topology.revision text

def releaseController (core : SessionCore) (controllerId : Bytes) : SessionCore :=
  let (ledger, result) := core.ledger.releaseController host.platform controllerId
  let core := { core with ledger }
  if result = .adapterFailure then
    core.reportAdapterFailure host
      ⟨.inputUnavailable, "input release adapter failed while releasing controller"⟩
  else core

def reconcileHeldInput (core : SessionCore) (keys buttons : List Bytes)
    (declarationSequence : Nat) : SessionCore × InputResult :=
  let (ledger, result, _) := core.ledger.reconcileHeld host.platform keys.toFinset
    buttons.toFinset declarationSequence
  core.handleLedgerResult host (ledger, result) "held input reconcile"

end SessionCore

/-- An input operation of a controller. -/
inductive InputOperation
  | pointerMove (displayId : Bytes) (normalizedX normalizedY : Double)
  | key (key : Bytes) (pressed : Bool)
  | button (button : Bytes) (pressed : Bool)
  | click (button : Bytes)
  | wheel (deltaX deltaY : Double)
  | text (text : Bytes)

inductive SessionCall
  | start (readiness : CapabilityReadiness) (topology : DesktopTopology)
  | updateReadiness (readiness : CapabilityReadiness)
  | updateTopology (topology : DesktopTopology)
  | setControlActive (active : Bool)
  | releaseController (controllerId : Bytes)
  | reconcileHeldInput (keys buttons : List Bytes) (declarationSequence : Nat)
  | stop (error : TerminalError)
  | input (stamp : InputStamp) (operation : InputOperation)

def SessionCore.apply (host : SessionHost) (core : SessionCore) (stamp : InputStamp) :
    InputOperation → SessionCore × InputResult
  | .pointerMove displayId normalizedX normalizedY =>
    core.applyPointerMove host stamp displayId normalizedX normalizedY
  | .key key pressed => core.applyKey host stamp key pressed
  | .button button pressed => core.applyButton host stamp button pressed
  | .click button => core.clickButton host stamp button
  | .wheel deltaX deltaY => core.applyWheel host stamp deltaX deltaY
  | .text text => core.applyText host stamp text

def SessionCore.step (host : SessionHost) (core : SessionCore) : SessionCall → SessionCore
  | .start readiness topology => (core.start readiness topology).1
  | .updateReadiness readiness => (core.updateReadiness host readiness).1
  | .updateTopology topology => (core.updateTopology host topology).1
  | .setControlActive active => (core.setControlActive host active).1
  | .releaseController controllerId => core.releaseController host controllerId
  | .reconcileHeldInput keys buttons declarationSequence =>
    (core.reconcileHeldInput host keys buttons declarationSequence).1
  | .stop error => core.stop host error
  | .input stamp operation => (core.apply host stamp operation).1

end ImCodes.Remote
