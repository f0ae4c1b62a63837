import ImCodes.Remote.ReleasedControl

/-!
# Generations of candidates

An offer starts a new generation of candidates, with a budget of its own; what waits of an
earlier generation is dropped. The session tells a new generation from the first offer by
whether a remote description is installed, and an earlier restart whose description never came
has taken that mark away.
-/

set_option autoImplicit false

namespace ImCodes.Remote

open Library PeerTransport

/-- The remote candidates among the calls. -/
def handedRemote (calls : List AdapterCall) : List IceCandidate :=
  calls.filterMap fun made =>
    match made with
    | .addRemoteIceCandidate candidate => some candidate
    | _ => none

/-- What happened since the generation started: after the first description, with each offer. -/
structure IceHistory where
  installed : Bool
  accepted : List IceCandidate
  acceptedLocal : List IceCandidate
  /-- How many remote candidates the adapter had been handed before. -/
  handedEarlier : Nat
deriving DecidableEq

/-- A session beside its history. -/
structure IceRun where
  session : PeerTransport
  history : IceHistory

namespace PeerTransport

def acceptsRemote (session : PeerTransport) (identity : RouteAuthorityIdentity)
    (candidate : IceCandidate) : Bool :=
  session.identityMatches identity && session.candidateIsValid candidate &&
    session.acceptedRemoteIce < session.peerLimits.maximumRemoteIceCandidates

def acceptsLocal (session : PeerTransport) (stamp : TransportCallbackStamp)
    (candidate : IceCandidate) : Bool :=
  session.callbackMatches stamp && session.candidateIsValid candidate &&
    session.acceptedLocalIce < session.peerLimits.maximumLocalIceCandidates

end PeerTransport

namespace IceRun

def start (limits : TransportSessionLimits) (peerLimits : PeerLimits) : IceRun :=
  ⟨.unstarted limits peerLimits, ⟨false, [], [], 0⟩⟩

def handed (current : IceRun) : List IceCandidate :=
  (handedRemote current.session.calls).drop current.history.handedEarlier

def record (session : PeerTransport) (history : IceHistory) : TransportEvent → IceHistory
  | .beginIceRestart stamp =>
    if session.callbackMatches stamp && history.installed then
      ⟨true, [], [], (handedRemote session.calls).length⟩
    else history
  | .setRemoteDescriptionReady stamp _ =>
    if session.callbackMatches stamp then { history with installed := true } else history
  | .addRemoteIceCandidate identity candidate _ =>
    if session.acceptsRemote identity candidate then
      { history with accepted := history.accepted ++ [candidate] }
    else history
  | .onLocalIceCandidate stamp candidate _ =>
    if session.acceptsLocal stamp candidate then
      { history with acceptedLocal := history.acceptedLocal ++ [candidate] }
    else history
  | _ => history

def step (scaled : Scaling) (current : IceRun) (event : TransportEvent) : IceRun :=
  ⟨current.session.step scaled event, record current.session current.history event⟩

/-- After the event the adapter was handed the accepted candidates of this generation, from the
first on and in their order, only while a description is installed, and the budgets count this
generation alone. -/
structure KeepsGenerations (scaled : Scaling) (current : IceRun) (event : TransportEvent) :
    Prop where
  handed : (current.step scaled event).handed <+: (current.step scaled event).history.accepted
  ready : handedRemote (current.step scaled event).session.calls ≠
      handedRemote current.session.calls →
    (current.step scaled event).session.remoteDescriptionReady = true
  budget : (current.step scaled event).session.terminal = false →
    (current.step scaled event).session.acceptedRemoteIce =
        (current.step scaled event).history.accepted.length ∧
      (current.step scaled event).session.acceptedLocalIce =
        (current.step scaled event).history.acceptedLocal.length

/-- An offer that comes while the description of an earlier restart is still missing finds that
no candidate was accepted since. -/
def RestartsAfresh (current : IceRun) : TransportEvent → Prop
  | .beginIceRestart stamp =>
    current.session.callbackMatches stamp = true → current.history.installed = true →
      current.session.remoteDescriptionReady = false →
      current.session.acceptedRemoteIce = 0 ∧ current.session.acceptedLocalIce = 0
  | _ => True

end IceRun

/-! ## What the other calls leave alone -/

@[simp] theorem handedRemote_append (first second : List AdapterCall) :
    handedRemote (first ++ second) = handedRemote first ++ handedRemote second :=
  List.filterMap_append

namespace PeerTransport

/-- The candidates are as before, unless the session has ended. -/
structure IceKeeps (before after : PeerTransport) : Prop where
  handed : handedRemote after.calls = handedRemote before.calls
  ready : after.remoteDescriptionReady = before.remoteDescriptionReady
  alive : after.terminal = false → before.terminal = false
  pending : after.terminal = false → after.pendingRemoteIce = before.pendingRemoteIce
  remote : after.terminal = false → after.acceptedRemoteIce = before.acceptedRemoteIce
  locals : after.terminal = false → after.acceptedLocalIce = before.acceptedLocalIce

section
variable {before middle after : PeerTransport}

theorem IceKeeps.refl (session : PeerTransport) : IceKeeps session session :=
  ⟨rfl, rfl, id, fun _ => rfl, fun _ => rfl, fun _ => rfl⟩

theorem IceKeeps.trans (first : IceKeeps before middle) (second : IceKeeps middle after) :
    IceKeeps before after where
  handed := second.handed.trans first.handed
  ready := second.ready.trans first.ready
  alive lives := first.alive (second.alive lives)
  pending lives := (second.pending lives).trans (first.pending (second.alive lives))
  remote lives := (second.remote lives).trans (first.remote (second.alive lives))
  locals lives := (second.locals lives).trans (first.locals (second.alive lives))

theorem iceKeeps_quiet (calls : after.calls = before.calls)
    (ready : after.remoteDescriptionReady = before.remoteDescriptionReady)
    (terminal : after.terminal = before.terminal)
    (pending : after.pendingRemoteIce = before.pendingRemoteIce)
    (remote : after.acceptedRemoteIce = before.acceptedRemoteIce)
    (locals : after.acceptedLocalIce = before.acceptedLocalIce) : IceKeeps before after :=
  ⟨by rw [calls], ready, fun lives => terminal.symm.trans lives, fun _ => pending,
    fun _ => remote, fun _ => locals⟩

theorem iceKeeps_call (session : PeerTransport) {made : AdapterCall}
    (other : handedRemote [made] = []) : IceKeeps session (session.call made) := by
  refine ⟨?_, rfl, id, fun _ => rfl, fun _ => rfl, fun _ => rfl⟩
  simp [call, other]

theorem iceKeeps_publishes (session : PeerTransport) :
    IceKeeps session session.publishDiagnostics := by
  refine ⟨?_, rfl, id, fun _ => rfl, fun _ => rfl, fun _ => rfl⟩
  simp [publishDiagnostics, call, handedRemote]

theorem iceKeeps_releases (session : PeerTransport) :
    IceKeeps session session.releaseControlAuthority := by
  unfold releaseControlAuthority
  split
  · exact IceKeeps.refl session
  · refine ⟨?_, rfl, id, fun _ => rfl, fun _ => rfl, fun _ => rfl⟩
    simp [call, handedRemote]

theorem iceKeeps_terminates (session : PeerTransport) (reason : TransportTerminalReason) :
    IceKeeps session (session.terminate reason) := by
  by_cases past : (session.terminal || session.cleanupComplete) = true
  · have same : session.terminate reason = session := by
      unfold terminate
      rw [if_pos past]
    rw [same]
    exact IceKeeps.refl session
  · obtain ⟨alive, uncleaned⟩ : session.terminal = false ∧ session.cleanupComplete = false := by
      simpa using past
    obtain ⟨ended, -, -, diagnostics, log⟩ := terminate_log alive uncleaned reason
    have never : ∀ {claim : Prop}, (session.terminate reason).terminal = false → claim := by
      intro claim lives
      rw [ended] at lives
      cases lives
    refine ⟨?_, ?_, never, never, never, never⟩
    · rw [log]
      simp only [handedRemote_append]
      have nothing : handedRemote session.release = [] := by
        unfold PeerTransport.release
        split <;> rfl
      have noMore : handedRemote (cleanup diagnostics (session.terminate reason).terminalReason) =
          [] := rfl
      rw [nothing, noMore, List.append_nil, List.append_nil]
    · unfold terminate
      rw [if_neg past]
      extract_lets marked released closed left complete published
      have same : released.remoteDescriptionReady = session.remoteDescriptionReady :=
        (iceKeeps_releases marked).ready
      simp only [call, published, publishDiagnostics, complete, left, closed, clearCandidates,
        same]

end

/-! ## Calls that have nothing to do with candidates -/

section
variable {scaled : Scaling} {before : PeerTransport}

theorem whileAlive_iceKeeps {now : TransportTime}
    {update : PeerTransport → PeerTransport × Bool}
    (keeps : ∀ session, IceKeeps session (update session).1) :
    IceKeeps before (before.whileAlive now update).1 := by
  have observed : IceKeeps before { before with lastObservedMonotonicMs := now.monotonicMs } :=
    iceKeeps_quiet rfl rfl rfl rfl rfl rfl
  unfold whileAlive
  split
  · exact IceKeeps.refl before
  · rcases observeTime_cases before now with refused | seen
    · rw [refused]
      exact iceKeeps_terminates before _
    · rw [seen]
      dsimp only
      rw [if_neg (by simp)]
      rcases authorityAlive_cases { before with lastObservedMonotonicMs := now.monotonicMs } now
        with ⟨reason, past⟩ | lives
      · rw [past]
        exact observed.trans (iceKeeps_terminates _ reason)
      · rw [lives]
        exact observed.trans (keeps _)

theorem published_iceKeeps {after : PeerTransport} (keeps : IceKeeps before after) :
    IceKeeps before after.publishDiagnostics :=
  keeps.trans (iceKeeps_publishes after)

theorem start_iceKeeps (authority : RouteAuthority) (now : TransportTime) (accepted : Bool) :
    IceKeeps before (before.start authority now accepted).1 := by
  unfold start
  split
  · exact IceKeeps.refl before
  · extract_lets routed source reset admitted
    have given : IceKeeps before reset := iceKeeps_quiet rfl rfl rfl rfl rfl rfl
    have called : IceKeeps before admitted :=
      given.trans (@iceKeeps_call reset (.startTransport authority) rfl)
    split
    · exact called.trans (iceKeeps_terminates admitted _)
    · exact published_iceKeeps called

theorem renewLease_iceKeeps (renewal : RouteAuthority) (now : TransportTime) :
    IceKeeps before (before.renewLease renewal now).1 := by
  unfold renewLease
  extract_lets boundRenewal
  apply whileAlive_iceKeeps
  intro session
  split
  · exact IceKeeps.refl session
  · exact published_iceKeeps (iceKeeps_quiet rfl rfl rfl rfl rfl rfl)

theorem updateMode_iceKeeps (update : RouteAuthority) (now : TransportTime) :
    IceKeeps before (before.updateMode update now).1 := by
  unfold updateMode
  apply whileAlive_iceKeeps
  intro session
  split
  · exact IceKeeps.refl session
  · extract_lets changed epochUnchanged epochAdvanced held
    split
    · exact IceKeeps.refl session
    · have released : IceKeeps session held := by
        simp only [held]
        split
        · exact iceKeeps_releases session
        · exact IceKeeps.refl session
      exact released.trans (published_iceKeeps (iceKeeps_quiet rfl rfl rfl rfl rfl rfl))

theorem onPeerConnectionState_iceKeeps (stamp : TransportCallbackStamp)
    (state : PeerConnectionState) (now : TransportTime) :
    IceKeeps before (before.onPeerConnectionState stamp state now).1 := by
  unfold onPeerConnectionState
  split
  · exact IceKeeps.refl before
  · apply whileAlive_iceKeeps
    intro session
    extract_lets previous moved released armed
    have first : IceKeeps session moved := iceKeeps_quiet rfl rfl rfl rfl rfl rfl
    split
    · exact iceKeeps_terminates session _
    · split
      · exact first.trans (iceKeeps_terminates moved _)
      · have second : IceKeeps session released := by
          simp only [released]
          split
          · exact first.trans (iceKeeps_releases moved)
          · exact first
        have third : IceKeeps session armed := by
          simp only [armed]
          split
          · exact second.trans (iceKeeps_quiet rfl rfl rfl rfl rfl rfl)
          · split
            · exact second.trans (iceKeeps_quiet rfl rfl rfl rfl rfl rfl)
            · exact second
        exact published_iceKeeps third

theorem onDataChannelState_iceKeeps (stamp : TransportCallbackStamp) (channel : DataChannelKind)
    (state : DataChannelState) :
    IceKeeps before (before.onDataChannelState stamp channel state).1 := by
  have moved : IceKeeps before { before with channels := before.channels.set state channel } :=
    iceKeeps_quiet rfl rfl rfl rfl rfl rfl
  unfold onDataChannelState
  split
  · exact IceKeeps.refl before
  · split
    · exact iceKeeps_terminates before _
    · dsimp only
      split
      · exact moved.trans (iceKeeps_terminates _ _)
      · exact published_iceKeeps moved

theorem applyQualityTarget_iceKeeps (accepted : Bool) (target : QualityTarget) :
    IceKeeps before (before.applyQualityTarget scaled accepted target).1 := by
  unfold applyQualityTarget
  dsimp only
  split
  · exact IceKeeps.refl before
  · have called := @iceKeeps_call before (.applyQuality (before.selectionFor scaled target)) rfl
    split
    · exact called
    · exact called.trans (published_iceKeeps (iceKeeps_quiet rfl rfl rfl rfl rfl rfl))

theorem onTransportPath_iceKeeps (accepted : Bool) (stamp : TransportCallbackStamp)
    (path : TransportPath) :
    IceKeeps before (before.onTransportPath scaled accepted stamp path).1 := by
  have moved : IceKeeps before { before with path := path } :=
    iceKeeps_quiet rfl rfl rfl rfl rfl rfl
  unfold onTransportPath
  split
  · exact IceKeeps.refl before
  · split
    · exact iceKeeps_terminates before _
    · dsimp only
      split
      · split
        · exact moved.trans (applyQualityTarget_iceKeeps accepted _)
        · exact published_iceKeeps moved
      · exact published_iceKeeps moved

theorem updateQualityTarget_iceKeeps (accepted : Bool) (stamp : TransportCallbackStamp)
    (target : QualityTarget) :
    IceKeeps before (before.updateQualityTarget scaled accepted stamp target).1 := by
  have targeted : IceKeeps before { before with lastQualityTarget := some target } :=
    iceKeeps_quiet rfl rfl rfl rfl rfl rfl
  unfold updateQualityTarget
  split
  · exact IceKeeps.refl before
  · exact targeted.trans (applyQualityTarget_iceKeeps accepted _)

theorem setQualityPreference_iceKeeps (accepted : Bool) (preference : QualityPreference) :
    IceKeeps before (before.setQualityPreference scaled accepted preference).1 := by
  have preferred : IceKeeps before
      { before with viewerPreference := normalizeQualityPreference preference } :=
    iceKeeps_quiet rfl rfl rfl rfl rfl rfl
  unfold setQualityPreference
  split
  · exact IceKeeps.refl before
  · dsimp only
    split
    · exact preferred
    · rename_i target _
      have applied := preferred.trans (@applyQualityTarget_iceKeeps scaled _ accepted target)
      split
      · exact applied
      · exact applied.trans (iceKeeps_quiet rfl rfl rfl rfl rfl rfl)

theorem recordActivity_iceKeeps (identity : RouteAuthorityIdentity) (now : TransportTime) :
    IceKeeps before (before.recordActivity identity now).1 := by
  unfold recordActivity
  split
  · exact IceKeeps.refl before
  · apply whileAlive_iceKeeps
    intro session
    exact published_iceKeeps (iceKeeps_quiet rfl rfl rfl rfl rfl rfl)

theorem recordMediaProgress_iceKeeps (stamp : TransportCallbackStamp)
    (sourceFrames outboundVideoBytes : Nat) (now : TransportTime) :
    IceKeeps before (before.recordMediaProgress stamp sourceFrames outboundVideoBytes now).1 := by
  unfold recordMediaProgress
  split
  · exact IceKeeps.refl before
  · apply whileAlive_iceKeeps
    intro session
    have observed : IceKeeps session { session with lastObservedSourceFrames := sourceFrames } :=
      iceKeeps_quiet rfl rfl rfl rfl rfl rfl
    dsimp only
    split
    · exact iceKeeps_terminates session _
    · split
      · exact published_iceKeeps (iceKeeps_quiet rfl rfl rfl rfl rfl rfl)
      · split
        · exact observed.trans (iceKeeps_terminates _ _)
        · exact published_iceKeeps observed

theorem resetMediaProgress_iceKeeps (stamp : TransportCallbackStamp) (now : TransportTime) :
    IceKeeps before (before.resetMediaProgress stamp now).1 := by
  unfold resetMediaProgress
  split
  · exact IceKeeps.refl before
  · apply whileAlive_iceKeeps
    intro session
    exact published_iceKeeps (iceKeeps_quiet rfl rfl rfl rfl rfl rfl)

theorem tick_iceKeeps (now : TransportTime) : IceKeeps before (before.tick now).1 := by
  have observed : IceKeeps before { before with lastObservedMonotonicMs := now.monotonicMs } :=
    iceKeeps_quiet rfl rfl rfl rfl rfl rfl
  unfold tick
  split
  · exact IceKeeps.refl before
  · rcases observeTime_cases before now with refused | seen
    · rw [refused]
      exact iceKeeps_terminates before _
    · rw [seen]
      dsimp only
      rw [if_neg (by simp)]
      split
      · exact observed.trans (iceKeeps_terminates _ _)
      · rcases authorityAlive_cases { before with lastObservedMonotonicMs := now.monotonicMs }
          now with ⟨reason, past⟩ | lives
        · rw [past]
          exact observed.trans (iceKeeps_terminates _ reason)
        · rw [lives]
          dsimp only
          rw [if_neg (by simp)]
          split
          · exact observed.trans (iceKeeps_terminates _ _)
          · exact observed

theorem stop_iceKeeps (reason : TransportTerminalReason) :
    IceKeeps before (before.stop reason) := by
  unfold stop
  split
  · exact IceKeeps.refl before
  · exact iceKeeps_terminates before reason

theorem flushLocalIce_iceKeeps (waiting : List IceCandidate) (emitted : Nat → Bool) :
    IceKeeps before (flushLocalIce emitted waiting before).1 := by
  induction waiting generalizing before emitted with
  | nil => exact iceKeeps_publishes before
  | cons candidate rest ih =>
    have shorter : IceKeeps before { before with pendingLocalIce := rest } :=
      iceKeeps_quiet rfl rfl rfl rfl rfl rfl
    have emits := shorter.trans (@iceKeeps_call _ (.emitLocalIceCandidate candidate) rfl)
    unfold flushLocalIce
    dsimp only
    split
    · exact emits.trans (ih _)
    · exact emits.trans (iceKeeps_terminates _ _)

theorem setLocalIceEmissionReady_iceKeeps (stamp : TransportCallbackStamp)
    (emitted : Nat → Bool) :
    IceKeeps before (before.setLocalIceEmissionReady stamp emitted).1 := by
  have ready : IceKeeps before { before with localIceEmissionReady := true } :=
    iceKeeps_quiet rfl rfl rfl rfl rfl rfl
  unfold setLocalIceEmissionReady
  split
  · exact IceKeeps.refl before
  · exact ready.trans (flushLocalIce_iceKeeps _ _)

end

end PeerTransport

/-! ## Runs -/

namespace IceRun

/-- What was accepted in this generation was handed over or waits, in its order. -/
structure IsSplit (current : IceRun) : Prop where
  whole : current.session.terminal = false →
    current.handed ++ current.session.pendingRemoteIce = current.history.accepted
  handed : current.handed <+: current.history.accepted
  bounded : current.history.handedEarlier ≤ (handedRemote current.session.calls).length
  remote : current.session.terminal = false →
    current.session.acceptedRemoteIce = current.history.accepted.length
  locals : current.session.terminal = false →
    current.session.acceptedLocalIce = current.history.acceptedLocal.length

structure IsSound (current : IceRun) : Prop extends IsSplit current where
  clean : current.session.CleansOnce
  drained : current.session.terminal = false → current.session.remoteDescriptionReady = true →
    current.session.pendingRemoteIce = []
  installed : current.session.remoteDescriptionReady = true → current.history.installed = true

section
variable {scaled : Scaling} {session after : PeerTransport} {history : IceHistory}

theorem start_sound (limits : TransportSessionLimits) (peerLimits : PeerLimits) :
    IsSound (start limits peerLimits) where
  whole _ := rfl
  handed := List.prefix_refl _
  bounded := Nat.le_refl _
  remote _ := rfl
  locals _ := rfl
  clean := (PeerTransport.unstarted_sound limits peerLimits).1
  drained _ _ := rfl
  installed ready := by cases ready

theorem IsSplit.keeps (sound : IsSplit ⟨session, history⟩) (keeps : session.IceKeeps after) :
    IsSplit ⟨after, history⟩ := by
  have handed : IceRun.handed ⟨after, history⟩ = IceRun.handed ⟨session, history⟩ := by
    simp only [IceRun.handed, keeps.handed]
  refine ⟨?_, ?_, ?_, ?_, ?_⟩
  · intro lives
    rw [handed]
    exact (congrArg _ (keeps.pending lives)).trans (sound.whole (keeps.alive lives))
  · rw [handed]
    exact sound.handed
  · change _ ≤ (handedRemote after.calls).length
    rw [keeps.handed]
    exact sound.bounded
  · intro lives
    exact (keeps.remote lives).trans (sound.remote (keeps.alive lives))
  · intro lives
    exact (keeps.locals lives).trans (sound.locals (keeps.alive lives))

theorem IsSound.keeps (sound : IsSound ⟨session, history⟩) (keeps : session.IceKeeps after)
    (clean : after.CleansOnce) : IsSound ⟨after, history⟩ where
  toIsSplit := sound.toIsSplit.keeps keeps
  clean := clean
  drained lives ready := (keeps.pending lives).trans
    (sound.drained (keeps.alive lives) (keeps.ready.symm.trans ready))
  installed ready := sound.installed (keeps.ready.symm.trans ready)

theorem IsSplit.hands {candidate : IceCandidate} {rest : List IceCandidate}
    (sound : IsSplit ⟨session, history⟩) (alive : session.terminal = false)
    (waiting : session.pendingRemoteIce = candidate :: rest) :
    IsSplit ⟨{ session with pendingRemoteIce := rest }.call (.addRemoteIceCandidate candidate),
      history⟩ := by
  have whole := sound.whole alive
  change _ ++ session.pendingRemoteIce = history.accepted at whole
  rw [waiting] at whole
  have handed : IceRun.handed ⟨{ session with pendingRemoteIce := rest }.call
      (.addRemoteIceCandidate candidate), history⟩ =
      IceRun.handed ⟨session, history⟩ ++ [candidate] := by
    simp only [IceRun.handed, PeerTransport.call, handedRemote_append]
    rw [List.drop_append_of_le_length sound.bounded]
    rfl
  have moved : (IceRun.handed ⟨session, history⟩ ++ [candidate]) ++ rest = history.accepted := by
    rw [← whole]
    simp
  refine ⟨fun _ => ?_, ?_, ?_, sound.remote, sound.locals⟩
  · rw [handed]
    exact moved
  · rw [handed]
    exact ⟨rest, moved⟩
  · have bounded := sound.bounded
    simp only [PeerTransport.call, handedRemote_append, List.length_append] at bounded ⊢
    omega

theorem IsSplit.flushes {waiting : List IceCandidate} (sound : IsSplit ⟨session, history⟩)
    (alive : session.terminal = false) (uncleaned : session.cleanupComplete = false)
    (isWaiting : session.pendingRemoteIce = waiting) (applied : Nat → Bool) :
    IsSplit ⟨(PeerTransport.flushRemoteIce applied waiting session).1, history⟩ ∧
      (PeerTransport.flushRemoteIce applied waiting session).1.remoteDescriptionReady =
        session.remoteDescriptionReady ∧
      ((PeerTransport.flushRemoteIce applied waiting session).1.terminal = false →
        (PeerTransport.flushRemoteIce applied waiting session).1.pendingRemoteIce = []) := by
  induction waiting generalizing session applied with
  | nil =>
    have keeps := session.iceKeeps_publishes
    exact ⟨sound.keeps keeps, keeps.ready, fun lives => (keeps.pending lives).trans isWaiting⟩
  | cons candidate rest ih =>
    have hands := sound.hands alive isWaiting
    unfold PeerTransport.flushRemoteIce
    dsimp only
    split
    · exact ih hands alive uncleaned rfl _
    · have keeps := PeerTransport.iceKeeps_terminates ({ session with
          pendingRemoteIce := rest }.call (.addRemoteIceCandidate candidate)) .adapterFailure
      refine ⟨hands.keeps keeps, keeps.ready, fun lives => ?_⟩
      have ended := @PeerTransport.terminate_log ({ session with
        pendingRemoteIce := rest }.call (.addRemoteIceCandidate candidate)) alive uncleaned
        .adapterFailure
      rw [ended.1] at lives
      cases lives

/-- After a step the generation is sound again, and candidates were handed over only with a
description installed. -/
def StepSound (scaled : Scaling) (current : IceRun) (event : TransportEvent) : Prop :=
  IsSound (current.step scaled event) ∧
    (handedRemote (current.step scaled event).session.calls ≠
        handedRemote current.session.calls →
      (current.step scaled event).session.remoteDescriptionReady = true)

theorem StepSound.of_keeps {current : IceRun} {event : TransportEvent} (sound : IsSound current)
    (keeps : current.session.IceKeeps (current.session.step scaled event))
    (same : record current.session current.history event = current.history) :
    StepSound scaled current event := by
  constructor
  · have next := sound.keeps keeps (PeerTransport.step_cleansOnce sound.clean event)
    unfold IceRun.step
    rw [same]
    exact next
  · intro changed
    exact absurd keeps.handed changed

theorem IsSplit.settles {middle : PeerTransport} (sound : IsSplit ⟨middle, history⟩)
    (keeps : middle.IceKeeps after) (clean : after.CleansOnce)
    (drained : middle.remoteDescriptionReady = true → middle.pendingRemoteIce = [])
    (installed : middle.remoteDescriptionReady = true → history.installed = true) :
    IsSound ⟨after, history⟩ where
  toIsSplit := sound.keeps keeps
  clean := clean
  drained lives ready := (keeps.pending lives).trans (drained (keeps.ready.symm.trans ready))
  installed ready := installed (keeps.ready.symm.trans ready)

def handsRemote (session : PeerTransport) (candidate : IceCandidate) : PeerTransport :=
  { session with acceptedRemoteIce := session.acceptedRemoteIce + 1 }.call
    (.addRemoteIceCandidate candidate)

/-- A remote candidate counts and waits for the description. -/
def queuesRemote (session : PeerTransport) (candidate : IceCandidate) : PeerTransport :=
  { session with
    acceptedRemoteIce := session.acceptedRemoteIce + 1
    pendingRemoteIce := session.pendingRemoteIce ++ [candidate] }

theorem addRemoteIceCandidate_accepted {identity : RouteAuthorityIdentity}
    {candidate : IceCandidate} (accepts : session.acceptsRemote identity candidate = true)
    (applied : Bool) :
    session.terminal = false ∧ (session.addRemoteIceCandidate identity candidate applied).1 =
      if session.remoteDescriptionReady then
        if applied then handsRemote session candidate
        else (handsRemote session candidate).terminate .adapterFailure
      else (queuesRemote session candidate).publishDiagnostics := by
  obtain ⟨⟨isIdentity, valid⟩, room⟩ : (session.identityMatches identity = true ∧
      session.candidateIsValid candidate = true) ∧
      ¬ session.acceptedRemoteIce ≥ session.peerLimits.maximumRemoteIceCandidates := by
    simpa [PeerTransport.acceptsRemote] using accepts
  constructor
  · simp only [PeerTransport.identityMatches, Bool.and_eq_true, Bool.not_eq_true'] at isIdentity
    exact isIdentity.1.2
  · unfold PeerTransport.addRemoteIceCandidate
    rw [if_neg (by simp [isIdentity]), if_neg (by simp [valid]), if_neg room]
    dsimp only
    split
    · cases applied <;> rfl
    · rfl

theorem addRemoteIceCandidate_refused {identity : RouteAuthorityIdentity}
    {candidate : IceCandidate} (refuses : session.acceptsRemote identity candidate = false)
    (applied : Bool) :
    session.IceKeeps (session.addRemoteIceCandidate identity candidate applied).1 := by
  unfold PeerTransport.addRemoteIceCandidate
  split
  · exact .refl session
  · split
    · exact session.iceKeeps_terminates _
    · split
      · exact session.iceKeeps_terminates _
      · rename_i isIdentity valid room
        have accepts : session.acceptsRemote identity candidate = true := by
          simp only [PeerTransport.acceptsRemote, Bool.and_eq_true, decide_eq_true_eq]
          exact ⟨⟨by simpa using isIdentity, by simpa using valid⟩, Nat.lt_of_not_le room⟩
        rw [refuses] at accepts
        cases accepts

theorem IsSound.handsRemote (sound : IsSound ⟨session, history⟩)
    (alive : session.terminal = false) (ready : session.remoteDescriptionReady = true)
    (candidate : IceCandidate) :
    IsSplit ⟨IceRun.handsRemote session candidate,
      { history with accepted := history.accepted ++ [candidate] }⟩ := by
  have drained : session.pendingRemoteIce = [] := sound.drained alive ready
  have whole := sound.whole alive
  change _ ++ session.pendingRemoteIce = history.accepted at whole
  rw [drained, List.append_nil] at whole
  have handed : IceRun.handed ⟨IceRun.handsRemote session candidate,
      { history with accepted := history.accepted ++ [candidate] }⟩ =
      history.accepted ++ [candidate] := by
    rw [← whole]
    simp only [IceRun.handed, IceRun.handsRemote, PeerTransport.call, handedRemote_append]
    rw [List.drop_append_of_le_length sound.bounded]
    rfl
  refine ⟨fun _ => ?_, ?_, ?_, fun _ => ?_, fun _ => sound.locals alive⟩
  · rw [handed]
    exact (congrArg _ drained).trans (List.append_nil _)
  · rw [handed]
  · have bounded := sound.bounded
    simp only [IceRun.handsRemote, PeerTransport.call, handedRemote_append, List.length_append]
      at bounded ⊢
    omega
  · have remote : session.acceptedRemoteIce = history.accepted.length := sound.remote alive
    simp [IceRun.handsRemote, PeerTransport.call, remote]

theorem IsSound.queuesRemote (sound : IsSound ⟨session, history⟩)
    (alive : session.terminal = false) (candidate : IceCandidate) :
    IsSplit ⟨IceRun.queuesRemote session candidate,
      { history with accepted := history.accepted ++ [candidate] }⟩ := by
  have moved : IceRun.handed ⟨session, history⟩ ++ (session.pendingRemoteIce ++ [candidate]) =
      history.accepted ++ [candidate] := by
    rw [← List.append_assoc]
    exact congrArg (· ++ [candidate]) (sound.whole alive)
  refine ⟨fun _ => moved, ⟨_, moved⟩, sound.bounded, fun _ => ?_, fun _ => sound.locals alive⟩
  have remote : session.acceptedRemoteIce = history.accepted.length := sound.remote alive
  simp [IceRun.queuesRemote, remote]

theorem addRemoteIceCandidate_sound {current : IceRun} (sound : IsSound current)
    (identity : RouteAuthorityIdentity) (candidate : IceCandidate) (applied : Bool) :
    StepSound scaled current (.addRemoteIceCandidate identity candidate applied) := by
  obtain ⟨session, history⟩ := current
  have clean := @PeerTransport.step_cleansOnce scaled session sound.clean
    (.addRemoteIceCandidate identity candidate applied)
  cases accepts : session.acceptsRemote identity candidate with
  | false =>
    exact .of_keeps sound (addRemoteIceCandidate_refused accepts applied)
      (by simp [record, accepts])
  | true =>
    obtain ⟨alive, outcome⟩ := addRemoteIceCandidate_accepted accepts applied
    unfold StepSound IceRun.step record
    simp only [accepts, if_true, PeerTransport.step, outcome] at clean ⊢
    by_cases ready : session.remoteDescriptionReady = true
    · rw [if_pos ready] at clean ⊢
      have hands := sound.handsRemote alive ready candidate
      have drained : session.pendingRemoteIce = [] := sound.drained alive ready
      have installed : history.installed = true := sound.installed ready
      by_cases isApplied : applied = true
      · rw [if_pos isApplied] at clean ⊢
        exact ⟨hands.settles (.refl _) clean (fun _ => drained) (fun _ => installed),
          fun _ => ready⟩
      · rw [if_neg isApplied] at clean ⊢
        have keeps := (handsRemote session candidate).iceKeeps_terminates .adapterFailure
        exact ⟨hands.settles keeps clean (fun _ => drained) (fun _ => installed),
          fun _ => keeps.ready.trans ready⟩
    · rw [if_neg ready] at clean ⊢
      have keeps := (queuesRemote session candidate).iceKeeps_publishes
      refine ⟨(sound.queuesRemote alive candidate).settles keeps clean
        (fun isReady => absurd isReady ready) (fun isReady => absurd isReady ready),
        fun changed => ?_⟩
      exact absurd keeps.handed changed

/-- An offer drops what an earlier generation left. -/
def startsGeneration (session : PeerTransport) : PeerTransport :=
  { { session with
      acceptedRemoteIce := 0
      acceptedLocalIce := 0 }.clearCandidates with
    remoteDescriptionReady := false }

theorem beginIceRestart_sound {current : IceRun} (sound : IsSound current)
    (stamp : TransportCallbackStamp) (afresh : RestartsAfresh current (.beginIceRestart stamp)) :
    StepSound scaled current (.beginIceRestart stamp) := by
  obtain ⟨session, history⟩ := current
  have clean := @PeerTransport.step_cleansOnce scaled session sound.clean (.beginIceRestart stamp)
  by_cases isCallback : session.callbackMatches stamp = true
  · have alive : session.terminal = false := by
      simp only [TransportSessionCore.callbackMatches, Bool.and_eq_true, Bool.not_eq_true']
        at isCallback
      exact isCallback.1.1.2
    -- A generation that starts with nothing handed, accepted or waiting.
    have fresh : ∀ {middle : PeerTransport}, handedRemote middle.calls =
        handedRemote session.calls → middle.pendingRemoteIce = [] →
        middle.acceptedRemoteIce = 0 → middle.acceptedLocalIce = 0 →
        IsSplit ⟨middle, ⟨true, [], [], (handedRemote session.calls).length⟩⟩ := by
      intro middle handed pending remote locals
      have nothing : IceRun.handed ⟨middle, ⟨true, [], [],
          (handedRemote session.calls).length⟩⟩ = [] := by
        simp only [IceRun.handed, handed, List.drop_length]
      refine ⟨fun _ => ?_, ?_, ?_, fun _ => remote, fun _ => locals⟩
      · rw [nothing, pending]
        rfl
      · rw [nothing]
      · exact Nat.le_of_eq (congrArg List.length handed.symm)
    have callback : ¬ (!session.callbackMatches stamp) = true := by simp [isCallback]
    unfold StepSound IceRun.step record
    by_cases ready : session.remoteDescriptionReady = true
    · have installed : history.installed = true := sound.installed ready
      have outcome : session.step scaled (.beginIceRestart stamp) =
          (startsGeneration session).publishDiagnostics := by
        have isPresent : ¬ (!session.remoteDescriptionReady) = true := by simp [ready]
        change (session.beginIceRestart stamp).1 = _
        unfold PeerTransport.beginIceRestart
        rw [if_neg callback, if_neg isPresent]
        rfl
      rw [outcome] at clean ⊢
      simp only [isCallback, installed, Bool.and_self, if_true]
      have split := @fresh (startsGeneration session) rfl rfl rfl rfl
      have keeps := (startsGeneration session).iceKeeps_publishes
      refine ⟨split.settles keeps clean (fun isReady => ?_) (fun _ => rfl), fun changed => ?_⟩
      · cases isReady
      · exact absurd keeps.handed changed
    · have outcome : session.step scaled (.beginIceRestart stamp) = session := by
        have isAbsent : (!session.remoteDescriptionReady) = true := by simpa using ready
        change (session.beginIceRestart stamp).1 = _
        unfold PeerTransport.beginIceRestart
        rw [if_neg callback, if_pos isAbsent]
      rw [outcome]
      refine ⟨?_, fun changed => absurd rfl changed⟩
      cases installed : history.installed with
      | false =>
        simp only [Bool.and_false, Bool.false_eq_true, if_false]
        exact sound
      | true =>
        simp only [isCallback, Bool.and_self, if_true]
        obtain ⟨remote, locals⟩ := afresh isCallback installed (by simpa using ready)
        have nothing : history.accepted = [] := by
          have counted : session.acceptedRemoteIce = history.accepted.length :=
            sound.remote alive
          exact List.length_eq_zero_iff.mp (counted.symm.trans remote)
        have pending : session.pendingRemoteIce = [] := by
          have whole := sound.whole alive
          change _ ++ session.pendingRemoteIce = history.accepted at whole
          rw [nothing] at whole
          exact (List.append_eq_nil_iff.mp whole).2
        exact (fresh rfl pending remote locals).settles (.refl session) sound.clean
          (fun _ => pending) (fun _ => rfl)
  · have isOther : session.callbackMatches stamp = false := by simpa using isCallback
    have keeps : session.IceKeeps (session.step scaled (.beginIceRestart stamp)) := by
      simp only [PeerTransport.step, PeerTransport.beginIceRestart, isOther, Bool.not_false, if_true]
      exact .refl session
    exact .of_keeps sound keeps (by simp [record, isOther])

theorem setRemoteDescriptionReady_sound {current : IceRun} (sound : IsSound current)
    (stamp : TransportCallbackStamp) (applied : Nat → Bool) :
    StepSound scaled current (.setRemoteDescriptionReady stamp applied) := by
  obtain ⟨session, history⟩ := current
  have clean := @PeerTransport.step_cleansOnce scaled session sound.clean
    (.setRemoteDescriptionReady stamp applied)
  by_cases isCallback : session.callbackMatches stamp = true
  · have alive : session.terminal = false := by
      simp only [TransportSessionCore.callbackMatches, Bool.and_eq_true, Bool.not_eq_true']
        at isCallback
      exact isCallback.1.1.2
    have uncleaned : session.cleanupComplete = false := sound.clean.complete.trans alive
    unfold StepSound IceRun.step record
    simp only [PeerTransport.step, PeerTransport.setRemoteDescriptionReady, isCallback,
      Bool.not_true, Bool.false_eq_true, if_false, if_true] at clean ⊢
    have split : IsSplit ⟨{ session with remoteDescriptionReady := true },
        { history with installed := true }⟩ :=
      ⟨sound.whole, sound.handed, sound.bounded, sound.remote, sound.locals⟩
    obtain ⟨flushed, ready, drained⟩ := split.flushes alive uncleaned rfl applied
    exact ⟨⟨flushed, clean, fun lives _ => drained lives, fun _ => rfl⟩, fun _ => ready⟩
  · have isOther : session.callbackMatches stamp = false := by simpa using isCallback
    have keeps : session.IceKeeps
        (session.step scaled (.setRemoteDescriptionReady stamp applied)) := by
      simp only [PeerTransport.step, PeerTransport.setRemoteDescriptionReady, isOther,
        Bool.not_false, if_true]
      exact .refl session
    exact .of_keeps sound keeps (by simp [record, isOther])

/-- A local candidate counts, and goes to the adapter or waits. -/
def takesLocal (session : PeerTransport) (candidate : IceCandidate) : PeerTransport :=
  if session.localIceEmissionReady then
    { session with acceptedLocalIce := session.acceptedLocalIce + 1 }.call
      (.emitLocalIceCandidate candidate)
  else
    { session with
      acceptedLocalIce := session.acceptedLocalIce + 1
      pendingLocalIce := session.pendingLocalIce ++ [candidate] }

theorem onLocalIceCandidate_cases {stamp : TransportCallbackStamp} {candidate : IceCandidate}
    (emitted : Bool) :
    session.acceptsLocal stamp candidate = false ∧
        session.IceKeeps (session.onLocalIceCandidate stamp candidate emitted).1 ∨
      session.acceptsLocal stamp candidate = true ∧ session.terminal = false ∧
        (takesLocal session candidate).IceKeeps
          (session.onLocalIceCandidate stamp candidate emitted).1 := by
  unfold PeerTransport.onLocalIceCandidate
  cases isCallback : session.callbackMatches stamp with
  | false => exact .inl ⟨by simp [PeerTransport.acceptsLocal, isCallback], .refl session⟩
  | true =>
    have alive : session.terminal = false := by
      simp only [TransportSessionCore.callbackMatches, Bool.and_eq_true, Bool.not_eq_true']
        at isCallback
      exact isCallback.1.1.2
    rw [if_neg (by simp)]
    split
    · rename_i invalid
      have refuses : session.candidateIsValid candidate = false := by simpa using invalid
      exact .inl ⟨by simp [PeerTransport.acceptsLocal, refuses], session.iceKeeps_terminates _⟩
    · rename_i valid
      split
      · rename_i full
        have refuses : ¬ session.acceptedLocalIce <
            session.peerLimits.maximumLocalIceCandidates := Nat.not_lt.mpr full
        exact .inl ⟨by simp [PeerTransport.acceptsLocal, refuses],
          session.iceKeeps_terminates _⟩
      · rename_i room
        have accepts : session.acceptsLocal stamp candidate = true := by
          simp only [PeerTransport.acceptsLocal, Bool.and_eq_true, decide_eq_true_eq]
          exact ⟨⟨isCallback, by simpa using valid⟩, Nat.lt_of_not_le room⟩
        refine .inr ⟨accepts, alive, ?_⟩
        unfold takesLocal
        dsimp only
        split
        · split
          · exact PeerTransport.iceKeeps_terminates _ _
          · exact .refl _
        · exact PeerTransport.iceKeeps_publishes _

theorem IsSound.takesLocal (sound : IsSound ⟨session, history⟩)
    (alive : session.terminal = false) (candidate : IceCandidate) :
    IsSplit ⟨IceRun.takesLocal session candidate,
        { history with acceptedLocal := history.acceptedLocal ++ [candidate] }⟩ ∧
      handedRemote (IceRun.takesLocal session candidate).calls = handedRemote session.calls ∧
      (IceRun.takesLocal session candidate).pendingRemoteIce = session.pendingRemoteIce ∧
      (IceRun.takesLocal session candidate).remoteDescriptionReady =
        session.remoteDescriptionReady := by
  have locals : session.acceptedLocalIce = history.acceptedLocal.length := sound.locals alive
  unfold IceRun.takesLocal
  split
  · have handed : handedRemote ({ session with
        acceptedLocalIce := session.acceptedLocalIce + 1 }.call
          (.emitLocalIceCandidate candidate)).calls = handedRemote session.calls := by
      simp [PeerTransport.call, handedRemote]
    have sameHanded : ∀ acceptedLocal, IceRun.handed ⟨{ session with
        acceptedLocalIce := session.acceptedLocalIce + 1 }.call
          (.emitLocalIceCandidate candidate), { history with acceptedLocal := acceptedLocal }⟩ =
        IceRun.handed ⟨session, history⟩ := by
      intro acceptedLocal
      simp only [IceRun.handed, handed]
    refine ⟨⟨?_, ?_, ?_, fun _ => sound.remote alive, fun _ => ?_⟩, handed, rfl, rfl⟩
    · intro _
      rw [sameHanded]
      exact sound.whole alive
    · rw [sameHanded]
      exact sound.handed
    · rw [handed]
      exact sound.bounded
    · simp [PeerTransport.call, locals]
  · refine ⟨⟨fun _ => sound.whole alive, sound.handed, sound.bounded,
      fun _ => sound.remote alive, fun _ => ?_⟩, rfl, rfl, rfl⟩
    simp [locals]

theorem onLocalIceCandidate_sound {current : IceRun} (sound : IsSound current)
    (stamp : TransportCallbackStamp) (candidate : IceCandidate) (emitted : Bool) :
    StepSound scaled current (.onLocalIceCandidate stamp candidate emitted) := by
  obtain ⟨session, history⟩ := current
  have clean := @PeerTransport.step_cleansOnce scaled session sound.clean
    (.onLocalIceCandidate stamp candidate emitted)
  rcases @onLocalIceCandidate_cases session stamp candidate emitted with
    ⟨refuses, keeps⟩ | ⟨accepts, alive, keeps⟩
  · exact .of_keeps sound keeps (by simp [record, refuses])
  · obtain ⟨split, handed, pending, ready⟩ := sound.takesLocal alive candidate
    unfold StepSound IceRun.step record
    simp only [accepts, if_true]
    refine ⟨split.settles keeps clean ?_ ?_, fun changed => ?_⟩
    · intro isReady
      exact pending.trans (sound.drained alive (ready.symm.trans isReady))
    · intro isReady
      exact sound.installed (ready.symm.trans isReady)
    · exact absurd (keeps.handed.trans handed) changed

theorem step_sound {current : IceRun} {event : TransportEvent} (sound : IsSound current)
    (afresh : RestartsAfresh current event) : StepSound scaled current event := by
  cases event with
  | addRemoteIceCandidate identity candidate applied =>
    exact addRemoteIceCandidate_sound sound identity candidate applied
  | beginIceRestart stamp => exact beginIceRestart_sound sound stamp afresh
  | setRemoteDescriptionReady stamp applied =>
    exact setRemoteDescriptionReady_sound sound stamp applied
  | onLocalIceCandidate stamp candidate emitted =>
    exact onLocalIceCandidate_sound sound stamp candidate emitted
  | start authority now accepted =>
    exact .of_keeps sound (PeerTransport.start_iceKeeps authority now accepted) rfl
  | renewLease renewal now =>
    exact .of_keeps sound (PeerTransport.renewLease_iceKeeps renewal now) rfl
  | updateMode update now =>
    exact .of_keeps sound (PeerTransport.updateMode_iceKeeps update now) rfl
  | setLocalIceEmissionReady stamp emitted =>
    exact .of_keeps sound (PeerTransport.setLocalIceEmissionReady_iceKeeps stamp emitted) rfl
  | onPeerConnectionState stamp state now =>
    exact .of_keeps sound (PeerTransport.onPeerConnectionState_iceKeeps stamp state now) rfl
  | onDataChannelState stamp channel state =>
    exact .of_keeps sound (PeerTransport.onDataChannelState_iceKeeps stamp channel state) rfl
  | onTransportPath accepted stamp path =>
    exact .of_keeps sound (PeerTransport.onTransportPath_iceKeeps accepted stamp path) rfl
  | updateQualityTarget accepted stamp target =>
    exact .of_keeps sound (PeerTransport.updateQualityTarget_iceKeeps accepted stamp target) rfl
  | setQualityPreference accepted preference =>
    exact .of_keeps sound (PeerTransport.setQualityPreference_iceKeeps accepted preference) rfl
  | recordActivity identity now =>
    exact .of_keeps sound (PeerTransport.recordActivity_iceKeeps identity now) rfl
  | recordMediaProgress stamp sourceFrames outboundVideoBytes now =>
    exact .of_keeps sound (PeerTransport.recordMediaProgress_iceKeeps stamp sourceFrames
      outboundVideoBytes now) rfl
  | resetMediaProgress stamp now =>
    exact .of_keeps sound (PeerTransport.resetMediaProgress_iceKeeps stamp now) rfl
  | tick now => exact .of_keeps sound (PeerTransport.tick_iceKeeps now) rfl
  | stop reason => exact .of_keeps sound (PeerTransport.stop_iceKeeps reason) rfl

theorem step_agrees {current : IceRun} {event : TransportEvent} (sound : IsSound current) :
    KeepsGenerations scaled current event ↔ RestartsAfresh current event := by
  constructor
  · intro keeps
    cases event with
    | beginIceRestart stamp =>
      intro isCallback installed absent
      have same : current.step scaled (.beginIceRestart stamp) =
          ⟨current.session, ⟨true, [], [], (handedRemote current.session.calls).length⟩⟩ := by
        simp [IceRun.step, PeerTransport.step, PeerTransport.beginIceRestart, record, isCallback,
          installed, absent]
      have budget := keeps.budget
      rw [same] at budget
      apply budget
      simp only [TransportSessionCore.callbackMatches, Bool.and_eq_true, Bool.not_eq_true']
        at isCallback
      exact isCallback.1.1.2
    | _ => trivial
  · intro afresh
    obtain ⟨next, ready⟩ := @step_sound scaled current event sound afresh
    exact ⟨next.handed, ready, fun lives => ⟨next.remote lives, next.locals lives⟩⟩

end

/-- The generations of candidates stay apart in a run exactly if no offer comes while the
description of an earlier restart is missing and candidates were accepted since. -/
theorem generations_stay_apart_iff (scaled : Scaling) (limits : TransportSessionLimits)
    (peerLimits : PeerLimits) (events : List TransportEvent) :
    Meets (step scaled) (KeepsGenerations scaled) (start limits peerLimits) events ↔
      Meets (step scaled) RestartsAfresh (start limits peerLimits) events :=
  @meets_iff_meets _ _ (step scaled) RestartsAfresh (KeepsGenerations scaled) IsSound
    (fun _ _ sound => step_agrees sound)
    (fun _ _ sound afresh => (step_sound sound afresh).1) _ (start_sound limits peerLimits) events

/-- A candidate comes, then the second of two offers, and then the description. -/
def secondRestart : List TransportEvent :=
  [.start (plainAuthority 1) ⟨0, 0⟩ true, .setRemoteDescriptionReady plainStamp (fun _ => true),
    .beginIceRestart plainStamp,
    .addRemoteIceCandidate (plainAuthority 1).identity ⟨[1], [1]⟩ true,
    .beginIceRestart plainStamp, .setRemoteDescriptionReady plainStamp (fun _ => true)]

/-- A second restart in a row is taken for a first offer, and a candidate of the offer before is
handed over in its generation. -/
theorem second_restart_mixes_generations :
    ¬ ∀ (scaled : Scaling) (limits : TransportSessionLimits) (peerLimits : PeerLimits)
      (events : List TransportEvent),
      Meets (step scaled) (KeepsGenerations scaled) (start limits peerLimits) events := by
  intro apart
  have ran := apart (fun width height _ => (width, height)) plainLimits plainPeerLimits
    secondRestart
  obtain ⟨-, -, -, -, -, last, -⟩ := ran
  have mixed := last.handed
  revert mixed
  decide +kernel

end IceRun

end ImCodes.Remote
