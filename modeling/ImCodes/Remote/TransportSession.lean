import ImCodes.Remote.QualityLadder
import ImCodes.Remote.SessionCore
import Mathlib.Algebra.Group.Nat.Defs

/-!
# The transport session

A route is admitted under an authority that names it and bounds its life and its relayed
bitrate. Quality follows the target, the viewer's preference and the path.
-/

set_option autoImplicit false

namespace ImCodes.Remote

inductive TransportSessionMode
  | view
  | control
deriving DecidableEq

inductive TransportPath
  | unknown
  | direct
  | relay
deriving DecidableEq

inductive TransportTerminalReason
  | none
  | stopped
  | routeExpired
  | leaseExpired
  | idleTimeout
  | mediaStalled
  | peerFailed
  | channelFailed
  | candidateOverflow
  | adapterFailure
  | protocolViolation
deriving DecidableEq

def isControlByte (byte : UInt8) : Bool := byte == 0 || byte < 0x20 || byte == 0x7f

def isBoundedIdentityPart (value : Bytes) (maximumBytes : Nat) : Bool :=
  value ≠ [] && value.length ≤ maximumBytes && value.all (!isControlByte ·)

structure RouteAuthorityIdentity where
  requestId : Bytes
  sessionId : Bytes
  negotiatedCapabilityBinding : Bytes
  daemonGeneration : Nat
  routeGeneration : Nat
deriving DecidableEq

def RouteAuthorityIdentity.isValid (identity : RouteAuthorityIdentity) : Bool :=
  isBoundedIdentityPart identity.requestId 128 && isBoundedIdentityPart identity.sessionId 128 &&
    isBoundedIdentityPart identity.negotiatedCapabilityBinding 128 &&
    identity.daemonGeneration ≠ 0 && identity.routeGeneration ≠ 0

structure TransportTime where
  unixMs : Int
  monotonicMs : Int
deriving DecidableEq

def TransportTime.isValid (time : TransportTime) : Bool := time.unixMs ≥ 0 && time.monotonicMs ≥ 0

structure RouteAuthority where
  identity : RouteAuthorityIdentity
  expiresAtUnixMs : Int
  leaseExpiresAtUnixMs : Int
  mode : TransportSessionMode
  inputEpoch : Nat
  /-- The operator's ceiling for relayed video; 0 is none. -/
  relayBitrateCapBps : Nat
deriving DecidableEq

def RouteAuthority.isValid (authority : RouteAuthority) (now : TransportTime)
    (maximumFutureMs : Int) : Bool :=
  if !authority.identity.isValid || !now.isValid || maximumFutureMs ≤ 0 ||
      authority.expiresAtUnixMs ≤ now.unixMs || authority.leaseExpiresAtUnixMs ≤ now.unixMs ||
      authority.leaseExpiresAtUnixMs > authority.expiresAtUnixMs ||
      authority.leaseExpiresAtUnixMs - now.unixMs > maximumFutureMs then
    false
  else authority.mode ≠ .control || authority.inputEpoch ≠ 0

structure TransportCallbackStamp where
  daemonGeneration : Nat
  routeGeneration : Nat
deriving DecidableEq

def transportMaximumLeaseFutureMs : Int := 75000

def transportMaximumQualityTargetBps : Nat := maxViewerVideoBitrateBps

/-- The limits the modelled calls read. -/
structure TransportSessionLimits where
  maximumLeaseFutureMs : Int
  maximumQualityTargetBps : Nat
deriving DecidableEq

def TransportSessionLimits.isValid (limits : TransportSessionLimits) : Bool :=
  limits.maximumLeaseFutureMs > 0 &&
    limits.maximumLeaseFutureMs ≤ transportMaximumLeaseFutureMs &&
    limits.maximumQualityTargetBps ≠ 0 &&
    limits.maximumQualityTargetBps ≤ transportMaximumQualityTargetBps

structure QualityTarget where
  bitrateBps : Nat
  sourcePixels : PixelSize
  preference : QualityPreference
deriving DecidableEq

abbrev Scaling := Int → Int → Preset → Int × Int

/-- `QualityLadder::Select`. -/
def QualityTarget.select (scaled : Scaling) (target : QualityTarget) : QualitySelection :=
  selectQuality scaled target.bitrateBps target.sourcePixels.width target.sourcePixels.height
    target.preference

structure TransportSessionCore where
  limits : TransportSessionLimits
  authority : RouteAuthority
  /-- The last selection the encoder accepted. -/
  quality : Option QualitySelection
  viewerPreference : QualityPreference
  lastQualityTarget : Option QualityTarget
  path : TransportPath
  lastObservedMonotonicMs : Int
  terminalReason : TransportTerminalReason
  started : Bool
  terminal : Bool
  controlAuthorityReleased : Bool
deriving DecidableEq

namespace TransportSessionCore

def unstarted (limits : TransportSessionLimits) : TransportSessionCore :=
  { limits
    authority := ⟨⟨[], [], [], 0, 0⟩, 0, 0, .view, 0, 0⟩
    quality := none
    viewerPreference := .automatic
    lastQualityTarget := none
    path := .unknown
    lastObservedMonotonicMs := 0
    terminalReason := .none
    started := false
    terminal := false
    controlAuthorityReleased := true }

def callbackMatches (core : TransportSessionCore) (stamp : TransportCallbackStamp) : Bool :=
  core.started && !core.terminal &&
    stamp.daemonGeneration == core.authority.identity.daemonGeneration &&
    stamp.routeGeneration == core.authority.identity.routeGeneration

def qualitySelectionIsValid (core : TransportSessionCore) (selection : QualitySelection) : Bool :=
  selection.presetId ≠ "" && selection.presetId.utf8ByteSize ≤ 64 &&
    (PixelSize.isValid ⟨selection.width.toNat, selection.height.toNat⟩) &&
    selection.frameRate > 0 && selection.frameRate ≤ 240 && selection.bitrateBps > 0 &&
    selection.bitrateBps ≤ core.limits.maximumQualityTargetBps && selection.meetsPreferenceFloor

/-- The selection for a target on the path and under the authority of the moment. -/
def selectionFor (core : TransportSessionCore) (scaled : Scaling) (target : QualityTarget) :
    QualitySelection :=
  let direct := core.path == .direct
  let minimum :=
    if core.viewerPreference.minimumBitrateBps = 0 then core.viewerPreference.maxBitrateBps
    else core.viewerPreference.minimumBitrateBps
  let canProbeToPreferenceFloor := direct || core.authority.relayBitrateCapBps == 0
  let effective : QualityTarget :=
    { target with
      bitrateBps :=
        if canProbeToPreferenceFloor && minimum > target.bitrateBps then minimum
        else target.bitrateBps
      preference := { core.viewerPreference with
        minimumBitrateBps := minimum
        maxBitrateBps := effectiveBitrateCap core.viewerPreference.maxBitrateBps
          core.authority.relayBitrateCapBps direct } }
  { effective.select scaled with
    maximumBitrateBps :=
      (selectTransportBitratePolicy direct core.authority.relayBitrateCapBps
        (viewerVideoBitrateCeiling core.viewerPreference)).maxBps }

end TransportSessionCore

end ImCodes.Remote
