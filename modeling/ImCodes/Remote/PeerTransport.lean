import ImCodes.Library.Run
import ImCodes.Remote.TransportSession

/-!
# The transport session with its peer

The whole of the transport session core: the route, the state of its peer and its channels, the
candidates that wait, the watchdogs, and every call it made on its adapter.
-/

set_option autoImplicit false

namespace ImCodes.Remote

inductive PeerConnectionState
  | new
  | connecting
  | connected
  | disconnected
  | failed
  | closed
deriving DecidableEq

inductive DataChannelKind
  | control
  | keyboard
  | pointer
deriving DecidableEq

inductive DataChannelState
  | missing
  | connecting
  | opened
  | closed
  | failed
deriving DecidableEq

structure DataChannels where
  control : DataChannelState
  keyboard : DataChannelState
  pointer : DataChannelState
deriving DecidableEq

namespace DataChannels

def get (channels : DataChannels) : DataChannelKind → DataChannelState
  | .control => channels.control
  | .keyboard => channels.keyboard
  | .pointer => channels.pointer

def set (channels : DataChannels) (state : DataChannelState) : DataChannelKind → DataChannels
  | .control => { channels with control := state }
  | .keyboard => { channels with keyboard := state }
  | .pointer => { channels with pointer := state }

def allOpen (channels : DataChannels) : Bool :=
  channels.control = .opened && channels.keyboard = .opened && channels.pointer = .opened

end DataChannels

structure IceCandidate where
  mediaId : Bytes
  candidate : Bytes
deriving DecidableEq

def peerTransitionAllowed (previous next : PeerConnectionState) : Bool :=
  previous = next ||
    match previous with
    | .new => next = .connecting || next = .connected || next = .failed || next = .closed
    | .connecting =>
      next = .connected || next = .disconnected || next = .failed || next = .closed
    | .connected =>
      next = .connecting || next = .disconnected || next = .failed || next = .closed
    | .disconnected =>
      next = .connecting || next = .connected || next = .failed || next = .closed
    -- A failed peer may come back in place.
    | .failed =>
      next = .connecting || next = .disconnected || next = .connected || next = .closed
    | .closed => false

def dataChannelTransitionAllowed (previous next : DataChannelState) : Bool :=
  previous = next ||
    match previous with
    | .missing => next = .connecting || next = .opened || next = .closed || next = .failed
    | .connecting => next = .opened || next = .closed || next = .failed
    | .opened => next = .closed || next = .failed
    | .closed | .failed => false

def transportMaximumIceCandidates : Nat := 128

def transportMaximumIceMediaIdBytes : Nat := 256

def transportMaximumIceCandidateBytes : Nat := 16 * 1024

def transportMaximumIdleTimeoutMs : Int := 15 * 60 * 1000

def transportMaximumMediaStallTimeoutMs : Int := 60000

/-- The limits of the candidates and of the watchdogs. -/
structure PeerLimits where
  maximumRemoteIceCandidates : Nat
  maximumLocalIceCandidates : Nat
  maximumIceMediaIdBytes : Nat
  maximumIceCandidateBytes : Nat
  idleTimeoutMs : Int
  mediaStallTimeoutMs : Int
deriving DecidableEq

def PeerLimits.isValid (limits : PeerLimits) : Bool :=
  limits.maximumRemoteIceCandidates ≠ 0 &&
    limits.maximumRemoteIceCandidates ≤ transportMaximumIceCandidates &&
    limits.maximumLocalIceCandidates ≠ 0 &&
    limits.maximumLocalIceCandidates ≤ transportMaximumIceCandidates &&
    limits.maximumIceMediaIdBytes ≠ 0 &&
    limits.maximumIceMediaIdBytes ≤ transportMaximumIceMediaIdBytes &&
    limits.maximumIceCandidateBytes ≠ 0 &&
    limits.maximumIceCandidateBytes ≤ transportMaximumIceCandidateBytes &&
    limits.idleTimeoutMs > 0 && limits.idleTimeoutMs ≤ transportMaximumIdleTimeoutMs &&
    limits.mediaStallTimeoutMs > 0 &&
    limits.mediaStallTimeoutMs ≤ transportMaximumMediaStallTimeoutMs

structure TransportDiagnostics where
  sequence : Nat
  peerState : PeerConnectionState
  path : TransportPath
  mode : TransportSessionMode
  requiredChannelsReady : Bool
  pendingRemoteIce : Nat
  pendingLocalIce : Nat
  acceptedRemoteIce : Nat
  acceptedLocalIce : Nat
  authorityExpiresAtUnixMs : Int
  leaseExpiresAtUnixMs : Int
  lastActivityMonotonicMs : Int
  lastMediaProgressMonotonicMs : Int
  sourceFramesAtMediaProgress : Nat
  lastObservedSourceFrames : Nat
  lastOutboundVideoBytes : Nat
  quality : Option QualitySelection
  terminalReason : TransportTerminalReason
deriving DecidableEq

/-- A call on the platform. -/
inductive AdapterCall
  | startTransport (authority : RouteAuthority)
  | addRemoteIceCandidate (candidate : IceCandidate)
  | emitLocalIceCandidate (candidate : IceCandidate)
  | applyQuality (selection : QualitySelection)
  | releaseControlAuthority (identity : RouteAuthorityIdentity) (inputEpoch : Nat)
  | closeDataChannel (channel : DataChannelKind)
  | closeTransport
  | publishDiagnostics (diagnostics : TransportDiagnostics)
  | onTerminal (reason : TransportTerminalReason)
deriving DecidableEq

structure PeerTransport extends TransportSessionCore where
  peerLimits : PeerLimits
  channels : DataChannels
  pendingRemoteIce : List IceCandidate
  pendingLocalIce : List IceCandidate
  peerState : PeerConnectionState
  lastActivityMonotonicMs : Int
  lastMediaProgressMonotonicMs : Int
  lastOutboundVideoBytes : Nat
  sourceFramesAtMediaProgress : Nat
  lastObservedSourceFrames : Nat
  acceptedRemoteIce : Nat
  acceptedLocalIce : Nat
  diagnosticsSequence : Nat
  remoteDescriptionReady : Bool
  localIceEmissionReady : Bool
  mediaWatchdogArmed : Bool
  mediaProgressInitialized : Bool
  cleanupComplete : Bool
  /-- What the adapter was called with so far, in order. -/
  calls : List AdapterCall
deriving DecidableEq

namespace PeerTransport

def unstarted (limits : TransportSessionLimits) (peerLimits : PeerLimits) : PeerTransport :=
  { TransportSessionCore.unstarted limits with
    peerLimits
    channels := ⟨.missing, .missing, .missing⟩
    pendingRemoteIce := []
    pendingLocalIce := []
    peerState := .new
    lastActivityMonotonicMs := 0
    lastMediaProgressMonotonicMs := 0
    lastOutboundVideoBytes := 0
    sourceFramesAtMediaProgress := 0
    lastObservedSourceFrames := 0
    acceptedRemoteIce := 0
    acceptedLocalIce := 0
    diagnosticsSequence := 0
    remoteDescriptionReady := false
    localIceEmissionReady := false
    mediaWatchdogArmed := false
    mediaProgressInitialized := false
    cleanupComplete := false
    calls := [] }

def requiredChannelsReady (session : PeerTransport) : Bool := session.channels.allOpen

def controlReady (session : PeerTransport) : Bool :=
  session.started && !session.terminal && session.authority.mode = .control &&
    session.peerState = .connected && session.requiredChannelsReady

def diagnostics (session : PeerTransport) : TransportDiagnostics :=
  { sequence := session.diagnosticsSequence
    peerState := session.peerState
    path := session.path
    mode := session.authority.mode
    requiredChannelsReady := session.requiredChannelsReady
    pendingRemoteIce := session.pendingRemoteIce.length
    pendingLocalIce := session.pendingLocalIce.length
    acceptedRemoteIce := session.acceptedRemoteIce
    acceptedLocalIce := session.acceptedLocalIce
    authorityExpiresAtUnixMs := session.authority.expiresAtUnixMs
    leaseExpiresAtUnixMs := session.authority.leaseExpiresAtUnixMs
    lastActivityMonotonicMs := session.lastActivityMonotonicMs
    lastMediaProgressMonotonicMs := session.lastMediaProgressMonotonicMs
    sourceFramesAtMediaProgress := session.sourceFramesAtMediaProgress
    lastObservedSourceFrames := session.lastObservedSourceFrames
    lastOutboundVideoBytes := session.lastOutboundVideoBytes
    quality := session.quality
    terminalReason := session.terminalReason }

/-! ## Calls on the adapter -/

def call (session : PeerTransport) (made : AdapterCall) : PeerTransport :=
  { session with calls := session.calls ++ [made] }

def publishDiagnostics (session : PeerTransport) : PeerTransport :=
  let session :=
    { session with diagnosticsSequence := (session.diagnosticsSequence + 1) % 2 ^ 64 }
  session.call (.publishDiagnostics session.diagnostics)

def releaseControlAuthority (session : PeerTransport) : PeerTransport :=
  if session.controlAuthorityReleased || !session.started then session
  else
    { session with controlAuthorityReleased := true }.call
      (.releaseControlAuthority session.authority.identity session.authority.inputEpoch)

def clearCandidates (session : PeerTransport) : PeerTransport :=
  { session with pendingRemoteIce := [], pendingLocalIce := [] }

def terminate (session : PeerTransport) (reason : TransportTerminalReason) : PeerTransport :=
  if session.terminal || session.cleanupComplete then session
  else
    let session :=
      { session with
        terminal := true
        terminalReason :=
          if reason = TransportTerminalReason.none then .protocolViolation else reason }
    let session := session.releaseControlAuthority
    let session := ((session.call (.closeDataChannel .control)).call
      (.closeDataChannel .keyboard)).call (.closeDataChannel .pointer)
    let session := session.clearCandidates.call .closeTransport
    let session :=
      { session with
        cleanupComplete := true
        peerState := .closed }
    let session := session.publishDiagnostics
    session.call (.onTerminal session.terminalReason)

/-! ## Time and authority -/

def observeTime (session : PeerTransport) (now : TransportTime) : PeerTransport × Bool :=
  if !now.isValid || now.monotonicMs < session.lastObservedMonotonicMs then
    (session.terminate .protocolViolation, false)
  else ({ session with lastObservedMonotonicMs := now.monotonicMs }, true)

def authorityAlive (session : PeerTransport) (now : TransportTime) : PeerTransport × Bool :=
  if now.unixMs ≥ session.authority.expiresAtUnixMs then
    (session.terminate .routeExpired, false)
  else if now.unixMs ≥ session.authority.leaseExpiresAtUnixMs then
    (session.terminate .leaseExpired, false)
  else (session, true)

/-- A live session at a time its authority covers; what it finds otherwise ends it. -/
def whileAlive (session : PeerTransport) (now : TransportTime)
    (update : PeerTransport → PeerTransport × Bool) : PeerTransport × Bool :=
  if !session.started || session.terminal then (session, false)
  else
    let (session, observed) := session.observeTime now
    if !observed then (session, false)
    else
      let (session, alive) := session.authorityAlive now
      if !alive then (session, false) else update session

def identityMatches (session : PeerTransport) (identity : RouteAuthorityIdentity) : Bool :=
  session.started && !session.terminal && session.authority.identity = identity

/-! ## The route -/

def resetMediaProgressState (session : PeerTransport) (monotonicMs : Int) : PeerTransport :=
  { session with
    mediaProgressInitialized := false
    lastMediaProgressMonotonicMs := monotonicMs
    lastOutboundVideoBytes := 0
    sourceFramesAtMediaProgress := 0
    lastObservedSourceFrames := 0 }

/-- `accepted` is the adapter's answer to the new transport. -/
def start (session : PeerTransport) (authority : RouteAuthority) (now : TransportTime)
    (accepted : Bool) : PeerTransport × Bool :=
  if session.started || session.terminal ||
      !(session.limits.isValid && session.peerLimits.isValid) ||
      !authority.isValid now session.limits.maximumLeaseFutureMs then
    (session, false)
  else
    let session :=
      { session with
        authority
        started := true
        lastObservedMonotonicMs := now.monotonicMs
        lastActivityMonotonicMs := now.monotonicMs }
    let session :=
      { session.resetMediaProgressState now.monotonicMs with
        controlAuthorityReleased := authority.mode ≠ TransportSessionMode.control
        peerState := .new }
    let session := session.call (.startTransport authority)
    if !accepted then (session.terminate .adapterFailure, false)
    else (session.publishDiagnostics, true)

def renewLease (session : PeerTransport) (renewal : RouteAuthority) (now : TransportTime) :
    PeerTransport × Bool :=
  let boundRenewal := { renewal with
    expiresAtUnixMs :=
      if renewal.expiresAtUnixMs = 0 then session.authority.expiresAtUnixMs
      else renewal.expiresAtUnixMs }
  session.whileAlive now fun session =>
    if !boundRenewal.isValid now session.limits.maximumLeaseFutureMs ||
        session.authority.identity ≠ boundRenewal.identity ||
        boundRenewal.expiresAtUnixMs ≠ session.authority.expiresAtUnixMs ||
        boundRenewal.mode ≠ session.authority.mode ||
        boundRenewal.inputEpoch ≠ session.authority.inputEpoch ||
        boundRenewal.leaseExpiresAtUnixMs ≤ session.authority.leaseExpiresAtUnixMs then
      (session, false)
    else
      ({ session with
          authority := { session.authority with
            leaseExpiresAtUnixMs := boundRenewal.leaseExpiresAtUnixMs } }.publishDiagnostics, true)

def updateMode (session : PeerTransport) (update : RouteAuthority) (now : TransportTime) :
    PeerTransport × Bool :=
  session.whileAlive now fun session =>
    if !update.isValid now session.limits.maximumLeaseFutureMs ||
        session.authority.identity ≠ update.identity ||
        update.expiresAtUnixMs ≠ session.authority.expiresAtUnixMs ||
        update.leaseExpiresAtUnixMs < session.authority.leaseExpiresAtUnixMs then
      (session, false)
    else
      let changed := update.mode ≠ session.authority.mode
      let epochUnchanged := update.inputEpoch = session.authority.inputEpoch
      let epochAdvanced := session.authority.inputEpoch ≠ 2 ^ 64 - 1 ∧
        update.inputEpoch = session.authority.inputEpoch + 1
      if (changed ∧ ¬ epochAdvanced) ∨ (¬ changed ∧ ¬ epochUnchanged ∧ ¬ epochAdvanced) then
        (session, false)
      else
        -- The old holder's keys go before another holder's frames are taken.
        let session :=
          if session.authority.mode = .control ∧ (update.mode = .view ∨ epochAdvanced) then
            session.releaseControlAuthority
          else session
        ({ session with
            authority := update
            controlAuthorityReleased :=
              if update.mode = TransportSessionMode.control then false
              else session.controlAuthorityReleased }.publishDiagnostics, true)

/-! ## Candidates -/

def candidateIsValid (session : PeerTransport) (candidate : IceCandidate) : Bool :=
  candidate.mediaId ≠ [] &&
    candidate.mediaId.length ≤ session.peerLimits.maximumIceMediaIdBytes &&
    candidate.candidate ≠ [] &&
    candidate.candidate.length ≤ session.peerLimits.maximumIceCandidateBytes &&
    0 ∉ candidate.mediaId && 0 ∉ candidate.candidate

/-- `applied` is the adapter's answer, where it is asked. -/
def addRemoteIceCandidate (session : PeerTransport) (identity : RouteAuthorityIdentity)
    (candidate : IceCandidate) (applied : Bool) : PeerTransport × Bool :=
  if !session.identityMatches identity then (session, false)
  else if !session.candidateIsValid candidate then
    (session.terminate .protocolViolation, false)
  else if session.acceptedRemoteIce ≥ session.peerLimits.maximumRemoteIceCandidates then
    (session.terminate .candidateOverflow, false)
  else
    let session := { session with acceptedRemoteIce := session.acceptedRemoteIce + 1 }
    if session.remoteDescriptionReady then
      let session := session.call (.addRemoteIceCandidate candidate)
      if !applied then (session.terminate .adapterFailure, false) else (session, true)
    else
      ({ session with
          pendingRemoteIce := session.pendingRemoteIce ++ [candidate] }.publishDiagnostics, true)

def beginIceRestart (session : PeerTransport) (stamp : TransportCallbackStamp) :
    PeerTransport × Bool :=
  if !session.callbackMatches stamp then (session, false)
  -- The candidates that came before the first offer are kept.
  else if !session.remoteDescriptionReady then (session, true)
  else
    let session :=
      { session with
        acceptedRemoteIce := 0
        acceptedLocalIce := 0 }.clearCandidates
    ({ session with remoteDescriptionReady := false }.publishDiagnostics, true)

/-- The waiting candidates go to the adapter one by one; `applied` are its answers. -/
def flushRemoteIce (applied : Nat → Bool) :
    List IceCandidate → PeerTransport → PeerTransport × Bool
  | [], session => (session.publishDiagnostics, true)
  | candidate :: rest, session =>
    let session :=
      { session with pendingRemoteIce := rest }.call (.addRemoteIceCandidate candidate)
    if applied 0 then flushRemoteIce (fun index => applied (index + 1)) rest session
    else (session.terminate .adapterFailure, false)

def setRemoteDescriptionReady (session : PeerTransport) (stamp : TransportCallbackStamp)
    (applied : Nat → Bool) : PeerTransport × Bool :=
  if !session.callbackMatches stamp then (session, false)
  else
    flushRemoteIce applied session.pendingRemoteIce { session with remoteDescriptionReady := true }

/-- `emitted` is the adapter's answer, where it is asked. -/
def onLocalIceCandidate (session : PeerTransport) (stamp : TransportCallbackStamp)
    (candidate : IceCandidate) (emitted : Bool) : PeerTransport × Bool :=
  if !session.callbackMatches stamp then (session, false)
  else if !session.candidateIsValid candidate then
    (session.terminate .protocolViolation, false)
  else if session.acceptedLocalIce ≥ session.peerLimits.maximumLocalIceCandidates then
    (session.terminate .candidateOverflow, false)
  else
    let session := { session with acceptedLocalIce := session.acceptedLocalIce + 1 }
    if session.localIceEmissionReady then
      let session := session.call (.emitLocalIceCandidate candidate)
      if !emitted then (session.terminate .adapterFailure, false) else (session, true)
    else
      ({ session with
          pendingLocalIce := session.pendingLocalIce ++ [candidate] }.publishDiagnostics, true)

def flushLocalIce (emitted : Nat → Bool) :
    List IceCandidate → PeerTransport → PeerTransport × Bool
  | [], session => (session.publishDiagnostics, true)
  | candidate :: rest, session =>
    let session :=
      { session with pendingLocalIce := rest }.call (.emitLocalIceCandidate candidate)
    if emitted 0 then flushLocalIce (fun index => emitted (index + 1)) rest session
    else (session.terminate .adapterFailure, false)

def setLocalIceEmissionReady (session : PeerTransport) (stamp : TransportCallbackStamp)
    (emitted : Nat → Bool) : PeerTransport × Bool :=
  if !session.callbackMatches stamp then (session, false)
  else flushLocalIce emitted session.pendingLocalIce { session with localIceEmissionReady := true }

/-! ## Peer, channels and path -/

def onPeerConnectionState (session : PeerTransport) (stamp : TransportCallbackStamp)
    (state : PeerConnectionState) (now : TransportTime) : PeerTransport × Bool :=
  if !session.callbackMatches stamp then (session, false)
  else
    session.whileAlive now fun session =>
      let previous := session.peerState
      if !peerTransitionAllowed previous state then
        (session.terminate .protocolViolation, false)
      else
        let session := { session with peerState := state }
        if state = .closed then (session.terminate .peerFailed, false)
        else
          -- The keys go at once; the transport stays for a restart.
          let session := if state = .failed then session.releaseControlAuthority else session
          let session :=
            if state = .connected ∧ previous ≠ .connected then
              { session with mediaWatchdogArmed := true }.resetMediaProgressState now.monotonicMs
            else if state ≠ .connected then { session with mediaWatchdogArmed := false }
            else session
          (session.publishDiagnostics, true)

def onDataChannelState (session : PeerTransport) (stamp : TransportCallbackStamp)
    (channel : DataChannelKind) (state : DataChannelState) : PeerTransport × Bool :=
  if !session.callbackMatches stamp then (session, false)
  else if !dataChannelTransitionAllowed (session.channels.get channel) state then
    (session.terminate .protocolViolation, false)
  else
    let session := { session with channels := session.channels.set state channel }
    if state = .closed ∨ state = .failed then (session.terminate .channelFailed, false)
    else (session.publishDiagnostics, true)

/-- What came of a target: whether it was applied, and whether only the encoder refused it. -/
def applyQualityTarget (session : PeerTransport) (scaled : Scaling) (accepted : Bool)
    (target : QualityTarget) : PeerTransport × Bool × Bool :=
  let selection := session.selectionFor scaled target
  if !session.qualitySelectionIsValid selection then (session, false, false)
  else
    let session := session.call (.applyQuality selection)
    if !accepted then (session, false, true)
    else ({ session with quality := some selection }.publishDiagnostics, true, false)

def onTransportPath (session : PeerTransport) (scaled : Scaling) (accepted : Bool)
    (stamp : TransportCallbackStamp) (path : TransportPath) : PeerTransport × Bool :=
  if !session.callbackMatches stamp then (session, false)
  else if path = .unknown then (session.terminate .protocolViolation, false)
  else
    let changed := session.path ≠ path
    let session := { session with path := path }
    match session.lastQualityTarget with
    | some target =>
      if changed ∧ session.authority.relayBitrateCapBps > 0 then
        let outcome := session.applyQualityTarget scaled accepted target
        (outcome.1, outcome.2.1)
      else (session.publishDiagnostics, true)
    | none => (session.publishDiagnostics, true)

def updateQualityTarget (session : PeerTransport) (scaled : Scaling) (accepted : Bool)
    (stamp : TransportCallbackStamp) (target : QualityTarget) : PeerTransport × Bool :=
  if !session.callbackMatches stamp || !target.sourcePixels.isValid || target.bitrateBps == 0 ||
      target.bitrateBps > session.limits.maximumQualityTargetBps then
    (session, false)
  else
    let outcome := { session with lastQualityTarget := some target }.applyQualityTarget scaled
      accepted target
    (outcome.1, outcome.2.1)

def setQualityPreference (session : PeerTransport) (scaled : Scaling) (accepted : Bool)
    (preference : QualityPreference) : PeerTransport × Bool :=
  if !session.started || session.terminal then (session, false)
  else
    let previous := session.viewerPreference
    let session := { session with viewerPreference := normalizeQualityPreference preference }
    match session.lastQualityTarget with
    | none => (session, true)
    | some target =>
      let outcome := session.applyQualityTarget scaled accepted target
      if outcome.2.1 || outcome.2.2 then (outcome.1, true)
      else ({ outcome.1 with viewerPreference := previous }, false)

/-! ## Activity and media -/

def recordActivity (session : PeerTransport) (identity : RouteAuthorityIdentity)
    (now : TransportTime) : PeerTransport × Bool :=
  if !session.identityMatches identity then (session, false)
  else
    session.whileAlive now fun session =>
      ({ session with lastActivityMonotonicMs := now.monotonicMs }.publishDiagnostics, true)

def recordMediaProgress (session : PeerTransport) (stamp : TransportCallbackStamp)
    (sourceFrames outboundVideoBytes : Nat) (now : TransportTime) : PeerTransport × Bool :=
  if !session.callbackMatches stamp || session.peerState ≠ .connected then (session, false)
  else
    session.whileAlive now fun session =>
      if session.mediaProgressInitialized ∧
          (outboundVideoBytes < session.lastOutboundVideoBytes ∨
            sourceFrames < session.lastObservedSourceFrames) then
        (session.terminate .protocolViolation, false)
      else
        let session := { session with lastObservedSourceFrames := sourceFrames }
        if !session.mediaProgressInitialized ∨
            outboundVideoBytes > session.lastOutboundVideoBytes then
          ({ session with
              mediaProgressInitialized := true
              lastOutboundVideoBytes := outboundVideoBytes
              sourceFramesAtMediaProgress := sourceFrames
              lastMediaProgressMonotonicMs := now.monotonicMs }.publishDiagnostics, true)
        else if sourceFrames > session.sourceFramesAtMediaProgress ∧
            now.monotonicMs - session.lastMediaProgressMonotonicMs ≥
              session.peerLimits.mediaStallTimeoutMs then
          (session.terminate .mediaStalled, false)
        else (session.publishDiagnostics, true)

def resetMediaProgress (session : PeerTransport) (stamp : TransportCallbackStamp)
    (now : TransportTime) : PeerTransport × Bool :=
  if !session.callbackMatches stamp then (session, false)
  else
    session.whileAlive now fun session =>
      ((session.resetMediaProgressState now.monotonicMs).publishDiagnostics, true)

def tick (session : PeerTransport) (now : TransportTime) : PeerTransport × Bool :=
  if !session.started || session.terminal then (session, false)
  else
    let (session, observed) := session.observeTime now
    if !observed then (session, false)
    else if now.monotonicMs - session.lastActivityMonotonicMs ≥
        session.peerLimits.idleTimeoutMs then
      (session.terminate .idleTimeout, false)
    else
      let (session, alive) := session.authorityAlive now
      if !alive then (session, false)
      else if session.mediaWatchdogArmed ∧ session.mediaProgressInitialized ∧
          session.peerState = .connected ∧
          session.lastObservedSourceFrames > session.sourceFramesAtMediaProgress ∧
          now.monotonicMs - session.lastMediaProgressMonotonicMs ≥
            session.peerLimits.mediaStallTimeoutMs then
        (session.terminate .mediaStalled, false)
      else (session, true)

def stop (session : PeerTransport) (reason : TransportTerminalReason) : PeerTransport :=
  if !session.started || session.terminal then session else session.terminate reason

end PeerTransport

/-! ## Runs -/

/-- A call on the session; the adapter's answers come with it where it is asked. -/
inductive TransportEvent
  | start (authority : RouteAuthority) (now : TransportTime) (accepted : Bool)
  | renewLease (renewal : RouteAuthority) (now : TransportTime)
  | updateMode (update : RouteAuthority) (now : TransportTime)
  | addRemoteIceCandidate (identity : RouteAuthorityIdentity) (candidate : IceCandidate)
      (applied : Bool)
  | beginIceRestart (stamp : TransportCallbackStamp)
  | setRemoteDescriptionReady (stamp : TransportCallbackStamp) (applied : Nat → Bool)
  | onLocalIceCandidate (stamp : TransportCallbackStamp) (candidate : IceCandidate)
      (emitted : Bool)
  | setLocalIceEmissionReady (stamp : TransportCallbackStamp) (emitted : Nat → Bool)
  | onPeerConnectionState (stamp : TransportCallbackStamp) (state : PeerConnectionState)
      (now : TransportTime)
  | onDataChannelState (stamp : TransportCallbackStamp) (channel : DataChannelKind)
      (state : DataChannelState)
  | onTransportPath (accepted : Bool) (stamp : TransportCallbackStamp) (path : TransportPath)
  | updateQualityTarget (accepted : Bool) (stamp : TransportCallbackStamp)
      (target : QualityTarget)
  | setQualityPreference (accepted : Bool) (preference : QualityPreference)
  | recordActivity (identity : RouteAuthorityIdentity) (now : TransportTime)
  | recordMediaProgress (stamp : TransportCallbackStamp) (sourceFrames outboundVideoBytes : Nat)
      (now : TransportTime)
  | resetMediaProgress (stamp : TransportCallbackStamp) (now : TransportTime)
  | tick (now : TransportTime)
  | stop (reason : TransportTerminalReason)

def PeerTransport.step (scaled : Scaling) (session : PeerTransport) :
    TransportEvent → PeerTransport
  | .start authority now accepted => (session.start authority now accepted).1
  | .renewLease renewal now => (session.renewLease renewal now).1
  | .updateMode update now => (session.updateMode update now).1
  | .addRemoteIceCandidate identity candidate applied =>
    (session.addRemoteIceCandidate identity candidate applied).1
  | .beginIceRestart stamp => (session.beginIceRestart stamp).1
  | .setRemoteDescriptionReady stamp applied =>
    (session.setRemoteDescriptionReady stamp applied).1
  | .onLocalIceCandidate stamp candidate emitted =>
    (session.onLocalIceCandidate stamp candidate emitted).1
  | .setLocalIceEmissionReady stamp emitted =>
    (session.setLocalIceEmissionReady stamp emitted).1
  | .onPeerConnectionState stamp state now => (session.onPeerConnectionState stamp state now).1
  | .onDataChannelState stamp channel state =>
    (session.onDataChannelState stamp channel state).1
  | .onTransportPath accepted stamp path =>
    (session.onTransportPath scaled accepted stamp path).1
  | .updateQualityTarget accepted stamp target =>
    (session.updateQualityTarget scaled accepted stamp target).1
  | .setQualityPreference accepted preference =>
    (session.setQualityPreference scaled accepted preference).1
  | .recordActivity identity now => (session.recordActivity identity now).1
  | .recordMediaProgress stamp sourceFrames outboundVideoBytes now =>
    (session.recordMediaProgress stamp sourceFrames outboundVideoBytes now).1
  | .resetMediaProgress stamp now => (session.resetMediaProgress stamp now).1
  | .tick now => (session.tick now).1
  | .stop reason => session.stop reason

/-! ## The worker that feeds it -/

/-- The authority of a service signal; a field it omits is zero or absent. -/
structure Authority where
  requestId : Bytes
  sessionId : Bytes
  capability : Bytes
  expiresAtMs : Int
  leaseExpiresAtMs : Int
  daemonGeneration : Nat
  routeGeneration : Option Nat
  mode : String
  inputEpoch : Nat
  relayBitrateCapBps : Nat
deriving DecidableEq

def viewMode : String := "view"

def controlMode : String := "control"

/-- What an incremental envelope leaves out is bound to the admitted route. -/
def bindOmittedAuthorityFields (current update : Authority) : Authority :=
  { update with
    expiresAtMs := if update.expiresAtMs = 0 then current.expiresAtMs else update.expiresAtMs
    leaseExpiresAtMs :=
      if update.leaseExpiresAtMs = 0 then current.leaseExpiresAtMs else update.leaseExpiresAtMs
    daemonGeneration :=
      if update.daemonGeneration = 0 then current.daemonGeneration else update.daemonGeneration
    routeGeneration := update.routeGeneration.or current.routeGeneration
    relayBitrateCapBps :=
      if update.relayBitrateCapBps = 0 then current.relayBitrateCapBps
      else update.relayBitrateCapBps }

def Authority.toRouteAuthority (authority : Authority) : RouteAuthority :=
  { identity :=
      { requestId := authority.requestId
        sessionId := authority.sessionId
        negotiatedCapabilityBinding := authority.capability
        daemonGeneration := authority.daemonGeneration
        routeGeneration := authority.routeGeneration.getD 1 }
    expiresAtUnixMs := authority.expiresAtMs
    leaseExpiresAtUnixMs := authority.leaseExpiresAtMs
    mode := if authority.mode = controlMode then .control else .view
    inputEpoch := authority.inputEpoch
    relayBitrateCapBps := authority.relayBitrateCapBps }

/-- The authority a route was admitted under, and its core. -/
structure WorkerSession where
  authority : Authority
  core : PeerTransport
deriving DecidableEq

namespace WorkerSession

/-- `Matches`. -/
def isFor (session : WorkerSession) (other : Authority) : Bool :=
  other.requestId == session.authority.requestId &&
    other.sessionId == session.authority.sessionId &&
    other.capability == session.authority.capability

def start (limits : TransportSessionLimits) (peerLimits : PeerLimits) (authority : Authority)
    (now : TransportTime) (accepted : Bool) : WorkerSession × Bool :=
  let (core, started) :=
    (PeerTransport.unstarted limits peerLimits).start authority.toRouteAuthority now accepted
  (⟨authority, core⟩, started)

def renew (session : WorkerSession) (renewal : Authority) (now : TransportTime) :
    WorkerSession × Bool :=
  let bound := bindOmittedAuthorityFields session.authority renewal
  if !session.isFor bound || bound.daemonGeneration ≠ session.authority.daemonGeneration ||
      bound.routeGeneration ≠ session.authority.routeGeneration then
    (session, false)
  else
    let (core, renewed) := session.core.renewLease bound.toRouteAuthority now
    if !renewed then (⟨session.authority, core⟩, false)
    else
      (⟨{ session.authority with leaseExpiresAtMs := bound.leaseExpiresAtMs }, core⟩, true)

def setMode (session : WorkerSession) (update : Authority) (now : TransportTime) :
    WorkerSession × Bool :=
  let bound := bindOmittedAuthorityFields session.authority update
  if !session.isFor bound || (bound.mode ≠ viewMode && bound.mode ≠ controlMode) then
    (session, false)
  else
    let (core, updated) := session.core.updateMode bound.toRouteAuthority now
    if !updated then (⟨session.authority, core⟩, false)
    else
      (⟨{ session.authority with
          mode := bound.mode
          inputEpoch := bound.inputEpoch
          leaseExpiresAtMs := bound.leaseExpiresAtMs }, core⟩, true)

end WorkerSession

/-- A call on a started route; `accepted` is the encoder's answer where it is asked. -/
inductive TransportCall
  | renewLease (renewal : Authority) (now : TransportTime)
  | updateMode (update : Authority) (now : TransportTime)
  | onTransportPath (accepted : Bool) (stamp : TransportCallbackStamp) (path : TransportPath)
  | updateQualityTarget (accepted : Bool) (stamp : TransportCallbackStamp)
      (target : QualityTarget)
  | setQualityPreference (accepted : Bool) (preference : QualityPreference)
  | stop (reason : TransportTerminalReason)
deriving DecidableEq

def WorkerSession.step (scaled : Scaling) (session : WorkerSession) :
    TransportCall → WorkerSession
  | .renewLease renewal now => (session.renew renewal now).1
  | .updateMode update now => (session.setMode update now).1
  | .onTransportPath accepted stamp path =>
    ⟨session.authority, (session.core.onTransportPath scaled accepted stamp path).1⟩
  | .updateQualityTarget accepted stamp target =>
    ⟨session.authority, (session.core.updateQualityTarget scaled accepted stamp target).1⟩
  | .setQualityPreference accepted preference =>
    ⟨session.authority, (session.core.setQualityPreference scaled accepted preference).1⟩
  | .stop reason => ⟨session.authority, session.core.stop reason⟩

end ImCodes.Remote
