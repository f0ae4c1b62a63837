import ImCodes.Library.Json
import ImCodes.Library.Run
import ImCodes.Library.Text

/-!
# The daemon upgrade coordinator

One lifecycle is current at a time. It waits for the daemon to be ready and for its target to be
published, and then its upgrade message goes out. What the callers pass in as functions (whether
the daemon is ready, whether the request is still current, the socket to send on) is one channel
here; what they answer, and what the publication gate answers, is given with each call.
-/

set_option autoImplicit false

namespace ImCodes.Upgrade

open Library

inductive UpgradeLifecycleState where
  | pendingOffline
  | pendingPublication
  | sent
  | terminalBlocked
  | superseded
deriving DecidableEq, Repr

inductive DaemonUpgradeSource where
  | auto
  | manual
  | replay
deriving DecidableEq, Repr

inductive DaemonUpgradeDeliveryStatus where
  | sent
  | pendingOffline
  | pendingPublication
  | alreadyInProgress
  | invalidTarget
  | backoff
deriving DecidableEq, Repr

def daemonUpgradeTargetLatest : String := "latest"

def isDotted (kind : Char → Bool) (fields : List (List Char)) : Bool :=
  fields.all fun field => !field.isEmpty && field.all kind

/-- `/^[0-9]+(?:\.[0-9]+){1,3}(?:-[0-9A-Za-z]+(?:\.[0-9A-Za-z]+)*)?$/`. -/
def isDaemonUpgradeTargetVersion (text : String) : Bool :=
  let numbers := (text.toList.takeWhile (· ≠ '-')).splitOn '.'
  let suffix := text.toList.dropWhile (· ≠ '-')
  isDotted Char.isDigit numbers && 2 ≤ numbers.length && numbers.length ≤ 4 &&
    (suffix.isEmpty || isDotted Char.isAlphanum (suffix.tail.splitOn '.'))

/-- None is where the source throws `invalid_target_version`. -/
def normalizeDaemonUpgradeTargetVersion : Option Json → Option String
  | none | some .null => some daemonUpgradeTargetLatest
  | some (.str value) =>
    if value = "" then some daemonUpgradeTargetLatest
    else
      let targetVersion := trim value
      if targetVersion = daemonUpgradeTargetLatest then some targetVersion
      else if isDaemonUpgradeTargetVersion targetVersion then some targetVersion
      else none
  | some _ => none

def shouldSendDaemonUpgradeTargetVersion (targetVersion : String) : Bool :=
  targetVersion ≠ daemonUpgradeTargetLatest

structure RequestDaemonUpgradeInput (Channel : Type) where
  targetVersion : Option Json
  source : DaemonUpgradeSource
  force : Bool
  skipPublicationGate : Bool
  channel : Channel

structure RequestDaemonUpgradeResult where
  ok : Bool
  upgradeId : Option String := none
  targetVersion : Option String := none
  deliveryStatus : DaemonUpgradeDeliveryStatus
  nextAttemptAt : Option String := none
  reason : Option String := none
deriving DecidableEq, Repr

inductive DaemonUpgradePublicationGateResult where
  | available
  | pending (nextProbeAt reason : Option String)

/-- What the callers and the gate answer while one call runs. -/
structure Moment (Channel : Type) where
  isDaemonReady : Channel → Bool
  isStillCurrent : Channel → Bool
  publication : String → DaemonUpgradePublicationGateResult
  now : Int

/-- `DaemonUpgradePublicationGate.ensurePublished`, but for the callback. -/
def Moment.ensurePublished {Channel : Type} (moment : Moment Channel) (targetVersion : String) :
    DaemonUpgradePublicationGateResult :=
  if targetVersion = daemonUpgradeTargetLatest then .available
  else moment.publication targetVersion

structure UpgradeState (Channel : Type) where
  upgradeId : String
  targetVersion : String
  source : DaemonUpgradeSource
  force : Bool
  status : UpgradeLifecycleState
  createdAt : Int
  updatedAt : Int
  lastSentAt : Option Int
  publicationResumeInput : Option (RequestDaemonUpgradeInput Channel)
  publicationCallbackRegistered : Bool

structure DaemonUpgradeMessage where
  upgradeId : String
  source : DaemonUpgradeSource
  force : Bool
  targetVersion : Option String
deriving DecidableEq, Repr

def DaemonUpgradeMessage.target (message : DaemonUpgradeMessage) : String :=
  message.targetVersion.getD daemonUpgradeTargetLatest

namespace UpgradeState

variable {Channel : Type}

/-- The operator's latest manual request decides force; a promoted other request keeps it. -/
def applyForce (state : UpgradeState Channel) (input : RequestDaemonUpgradeInput Channel) :
    UpgradeState Channel :=
  if input.source = .manual then { state with force := input.force }
  else if state.source ≠ .manual then { state with force := false }
  else state

def buildUpgradeMessage (state : UpgradeState Channel) : DaemonUpgradeMessage where
  upgradeId := state.upgradeId
  source := state.source
  force := state.source = .manual && state.force
  targetVersion :=
    if shouldSendDaemonUpgradeTargetVersion state.targetVersion then some state.targetVersion
    else none

/-- Back to waiting, with nothing to resume. -/
def pend (state : UpgradeState Channel) (now : Int) : UpgradeState Channel :=
  { state with
    status := .pendingOffline
    updatedAt := now
    publicationResumeInput := none
    publicationCallbackRegistered := false }

def answer (state : UpgradeState Channel) (deliveryStatus : DaemonUpgradeDeliveryStatus) :
    RequestDaemonUpgradeResult where
  ok := true
  upgradeId := some state.upgradeId
  targetVersion := some state.targetVersion
  deliveryStatus

def takeOn (state : UpgradeState Channel) (effective input : RequestDaemonUpgradeInput Channel)
    (now : Int) : UpgradeState Channel :=
  { applyForce { state with source := effective.source } input with updatedAt := now }

def waiting (state : UpgradeState Channel) : Bool :=
  state.status = .pendingOffline || state.status = .pendingPublication

end UpgradeState

/-- The coordinator, the callbacks it has registered with the gate (each by the lifecycle it
closes over) and the messages sent. A lifecycle that is no longer current is reached by nothing
but its callbacks, which then change nothing but itself. -/
structure DaemonUpgradeCoordinator (Channel : Type) where
  current : Option (UpgradeState Channel)
  uuidsIssued : Nat
  callbacks : List String
  sent : List (Channel × DaemonUpgradeMessage)

namespace DaemonUpgradeCoordinator

variable {Channel : Type}

def initial : DaemonUpgradeCoordinator Channel := ⟨none, 0, [], []⟩

def supersedeCurrent (coordinator : DaemonUpgradeCoordinator Channel) :
    DaemonUpgradeCoordinator Channel :=
  { coordinator with current := none }

def clearCurrent (coordinator : DaemonUpgradeCoordinator Channel) :
    DaemonUpgradeCoordinator Channel :=
  { coordinator with current := none }

def currentFor (coordinator : DaemonUpgradeCoordinator Channel) (targetVersion : String) :
    Option (UpgradeState Channel) :=
  coordinator.current.filter fun state => state.targetVersion = targetVersion

def releaseSentLifecycle (coordinator : DaemonUpgradeCoordinator Channel) :
    DaemonUpgradeCoordinator Channel × Bool :=
  match coordinator.current with
  | some state =>
    if state.status = .sent then (coordinator.supersedeCurrent, true) else (coordinator, false)
  | none => (coordinator, false)

def deferAfterTransientBlock (coordinator : DaemonUpgradeCoordinator Channel) (now : Int) :
    DaemonUpgradeCoordinator Channel × Bool :=
  match coordinator.current with
  | some state =>
    if state.status = .terminalBlocked ∨ state.status = .superseded then (coordinator, false)
    else ({ coordinator with current := some (state.pend now) }, true)
  | none => (coordinator, false)

/-- The lifecycle as the gate leaves it, and an answer where it has to wait for the gate. -/
def ensureTargetPublished (coordinator : DaemonUpgradeCoordinator Channel)
    (state : UpgradeState Channel) (input : RequestDaemonUpgradeInput Channel)
    (moment : Moment Channel) :
    DaemonUpgradeCoordinator Channel × UpgradeState Channel × Option RequestDaemonUpgradeResult :=
  let settled := { state with
    publicationResumeInput := none, publicationCallbackRegistered := false }
  if input.skipPublicationGate then (coordinator, settled, none)
  else
    match moment.ensurePublished state.targetVersion with
    | .available => (coordinator, settled, none)
    | .pending nextProbeAt reason =>
      let registered := { coordinator with
        callbacks :=
          if state.publicationCallbackRegistered then coordinator.callbacks
          else coordinator.callbacks ++ [state.upgradeId] }
      let waiting := { state with
        publicationResumeInput := some input
        publicationCallbackRegistered := true
        status := .pendingPublication
        updatedAt := moment.now }
      (registered, waiting, some { waiting.answer .pendingPublication with
        nextAttemptAt := nextProbeAt, reason })

def sendNow (coordinator : DaemonUpgradeCoordinator Channel) (state : UpgradeState Channel)
    (channel : Channel) (now : Int) : DaemonUpgradeCoordinator Channel :=
  { coordinator with
    current := some { state with status := .sent, lastSentAt := some now, updatedAt := now }
    sent := coordinator.sent ++ [(channel, state.buildUpgradeMessage)] }

/-- The end of a request and of a flush: through the gate and out. -/
def offer (coordinator : DaemonUpgradeCoordinator Channel) (state : UpgradeState Channel)
    (input : RequestDaemonUpgradeInput Channel) (moment : Moment Channel) :
    DaemonUpgradeCoordinator Channel × RequestDaemonUpgradeResult :=
  match coordinator.ensureTargetPublished state input moment with
  | (registered, waiting, some publication) =>
    ({ registered with current := some waiting }, publication)
  | (registered, settled, none) =>
    (registered.sendNow settled input.channel moment.now, settled.answer .sent)

/-- A request that a lifecycle takes on, from where the lifecycle is known. -/
def proceed (coordinator : DaemonUpgradeCoordinator Channel) (state : UpgradeState Channel)
    (effective input : RequestDaemonUpgradeInput Channel) (moment : Moment Channel) :
    DaemonUpgradeCoordinator Channel × RequestDaemonUpgradeResult :=
  let taken := state.takeOn effective input moment.now
  if moment.isDaemonReady effective.channel then coordinator.offer taken effective moment
  else
    ({ coordinator with current := some { taken with status := .pendingOffline } },
      taken.answer .pendingOffline)

section Host

variable [Host]

/-- A new lifecycle, and the coordinator that has drawn its id. -/
def newLifecycle (coordinator : DaemonUpgradeCoordinator Channel) (targetVersion : String)
    (source : DaemonUpgradeSource) (status : UpgradeLifecycleState) (now : Int) :
    DaemonUpgradeCoordinator Channel × UpgradeState Channel :=
  ({ coordinator with uuidsIssued := coordinator.uuidsIssued + 1 }, {
    upgradeId := Host.randomUUID coordinator.uuidsIssued
    targetVersion
    source
    force := false
    status
    createdAt := now
    updatedAt := now
    lastSentAt := none
    publicationResumeInput := none
    publicationCallbackRegistered := false })

def outranks (input : RequestDaemonUpgradeInput Channel) (state : UpgradeState Channel) : Bool :=
  input.source = .manual && state.status = .sent &&
    (state.source ≠ .manual || (input.force && !state.force))

/-- A manual lifecycle is not demoted by the traffic of reconnects. -/
def effectiveInput (input : RequestDaemonUpgradeInput Channel) (state : UpgradeState Channel) :
    RequestDaemonUpgradeInput Channel :=
  if state.source = .manual ∧ input.source ≠ .manual then { input with source := .manual }
  else input

/-- A request once it is known which lifecycle of its target, if any, is current. -/
def requestOn (coordinator : DaemonUpgradeCoordinator Channel) (targetVersion : String)
    (input : RequestDaemonUpgradeInput Channel) (moment : Moment Channel) :
    DaemonUpgradeCoordinator Channel × RequestDaemonUpgradeResult :=
  match coordinator.current with
  | none =>
    let created := coordinator.newLifecycle targetVersion input.source .pendingOffline moment.now
    created.1.proceed created.2 input input moment
  | some state =>
    let effective := effectiveInput input state
    if state.status = .pendingPublication then
      let taken := state.takeOn effective input moment.now
      if moment.isDaemonReady effective.channel then
        match coordinator.ensureTargetPublished taken effective moment with
        | (registered, waiting, some publication) =>
          ({ registered with current := some waiting }, publication)
        | (registered, settled, none) => registered.proceed settled effective input moment
      else
        ({ coordinator with current := some { taken with status := .pendingOffline } },
          taken.answer .pendingOffline)
    else if state.status ≠ .superseded ∧ state.status ≠ .pendingOffline then
      (coordinator, state.answer .alreadyInProgress)
    else coordinator.proceed state effective input moment

def request (coordinator : DaemonUpgradeCoordinator Channel)
    (input : RequestDaemonUpgradeInput Channel) (moment : Moment Channel) :
    DaemonUpgradeCoordinator Channel × RequestDaemonUpgradeResult :=
  match normalizeDaemonUpgradeTargetVersion input.targetVersion with
  | none =>
    (coordinator, {
      ok := false
      deliveryStatus := .invalidTarget
      reason := some "invalid_target_version" })
  | some targetVersion =>
    match coordinator.currentFor targetVersion with
    | none => coordinator.supersedeCurrent.requestOn targetVersion input moment
    | some state =>
      if state.status = .terminalBlocked then
        if input.source ≠ .manual then
          (coordinator, { state.answer .backoff with reason := some "terminal_install_failure" })
        else coordinator.supersedeCurrent.requestOn targetVersion input moment
      else if outranks input state then
        coordinator.supersedeCurrent.requestOn targetVersion input moment
      else coordinator.requestOn targetVersion input moment

def flushInput (state : UpgradeState Channel) (input : RequestDaemonUpgradeInput Channel) :
    RequestDaemonUpgradeInput Channel :=
  { input with targetVersion := some (.str state.targetVersion), source := state.source }

def flushPending (coordinator : DaemonUpgradeCoordinator Channel)
    (input : RequestDaemonUpgradeInput Channel) (moment : Moment Channel) :
    DaemonUpgradeCoordinator Channel × Option RequestDaemonUpgradeResult :=
  match coordinator.current with
  | none => (coordinator, none)
  | some state =>
    if !state.waiting then (coordinator, none)
    else if moment.isDaemonReady input.channel then
      let offered := coordinator.offer state (flushInput state input) moment
      (offered.1, some offered.2)
    else (coordinator, some (state.answer .pendingOffline))

def prepareRetryAfterDaemonRestart (coordinator : DaemonUpgradeCoordinator Channel) (now : Int) :
    DaemonUpgradeCoordinator Channel × Bool :=
  match coordinator.current with
  | some state =>
    if state.status = .sent then ({ coordinator with current := some (state.pend now) }, true)
    else (coordinator, false)
  | none => (coordinator, false)

/-- The answer is false where the source says `blocked`. -/
def prepareForLatchRescueRestart (coordinator : DaemonUpgradeCoordinator Channel) (now : Int) :
    DaemonUpgradeCoordinator Channel × Bool :=
  match coordinator.current with
  | some state =>
    if state.status = .terminalBlocked then (coordinator, false)
    else if state.status = .sent ∨ state.status = .pendingPublication then
      ({ coordinator with current := some (state.pend now) }, true)
    else (coordinator, true)
  | none => (coordinator, true)

def blockTargetAfterTerminalFailure (coordinator : DaemonUpgradeCoordinator Channel)
    (targetVersion : Option Json) (now : Int) : DaemonUpgradeCoordinator Channel × Bool :=
  match normalizeDaemonUpgradeTargetVersion targetVersion with
  | none => (coordinator, false)
  | some normalized =>
    let blocking := match coordinator.currentFor normalized with
      | some state => (coordinator, state)
      | none => coordinator.supersedeCurrent.newLifecycle normalized .replay .terminalBlocked now
    ({ blocking.1 with
      current := some { blocking.2 with
        status := .terminalBlocked
        updatedAt := now
        publicationResumeInput := none
        publicationCallbackRegistered := false } }, true)

def releaseTerminalBlock (coordinator : DaemonUpgradeCoordinator Channel)
    (targetVersion : Option Json) : DaemonUpgradeCoordinator Channel × Bool :=
  match normalizeDaemonUpgradeTargetVersion targetVersion with
  | none => (coordinator, false)
  | some normalized =>
    match coordinator.currentFor normalized with
    | some state =>
      if state.status = .terminalBlocked then (coordinator.supersedeCurrent, true)
      else (coordinator, false)
    | none => (coordinator, false)

def clearIfTargetVersionMatches (coordinator : DaemonUpgradeCoordinator Channel)
    (targetVersion : Option String) : DaemonUpgradeCoordinator Channel :=
  match (truthy targetVersion).bind fun text =>
      normalizeDaemonUpgradeTargetVersion (some (.str text)) with
  | none => coordinator
  | some normalized =>
    if (coordinator.currentFor normalized).isSome then coordinator.clearCurrent else coordinator

/-- The callback of a lifecycle that waited for its target to be published. -/
def resumeAfterPublication (coordinator : DaemonUpgradeCoordinator Channel) (upgradeId : String)
    (moment : Moment Channel) : DaemonUpgradeCoordinator Channel :=
  match coordinator.current with
  | none => coordinator
  | some state =>
    if state.upgradeId ≠ upgradeId then coordinator
    else
      let settled := { state with
        publicationResumeInput := none, publicationCallbackRegistered := false }
      match state.publicationResumeInput with
      | none => { coordinator with current := some settled }
      | some input =>
        if state.status ≠ .pendingPublication then { coordinator with current := some settled }
        else if !moment.isDaemonReady input.channel || !moment.isStillCurrent input.channel then
          { coordinator with current := some settled }
        else coordinator.sendNow settled input.channel moment.now

end Host

end DaemonUpgradeCoordinator

end ImCodes.Upgrade
