import ImCodes.Remote.PeerTransport

/-!
# Releasing control

A session in control lets go of the keys it holds before anything else of its cleanup, once. A
failed peer gives them up at once, and only an update of the mode arms the release again: a peer
that comes back on its own before that holds keys nobody releases.
-/

set_option autoImplicit false

namespace ImCodes.Remote

open Library

def AdapterCall.isCandidate : AdapterCall → Bool
  | .addRemoteIceCandidate _ => true
  | .emitLocalIceCandidate _ => true
  | _ => false

def AdapterCall.isCleanup : AdapterCall → Bool
  | .closeDataChannel _ => true
  | .closeTransport => true
  | .onTerminal _ => true
  | _ => false

def AdapterCall.isRelease : AdapterCall → Bool
  | .releaseControlAuthority _ _ => true
  | _ => false

def AdapterCall.isOrdinary (made : AdapterCall) : Bool := !made.isCleanup && !made.isRelease

namespace PeerTransport

/-- The control of the keys is as before, and of the adapter only some calls were made. -/
structure Keeps (allowed : AdapterCall → Bool) (before after : PeerTransport) : Prop where
  started : after.started = before.started
  terminal : after.terminal = before.terminal
  identity : after.authority.identity = before.authority.identity
  mode : after.authority.mode = before.authority.mode
  inputEpoch : after.authority.inputEpoch = before.authority.inputEpoch
  released : after.controlAuthorityReleased = before.controlAuthorityReleased
  complete : after.cleanupComplete = before.cleanupComplete
  log : ∃ work, after.calls = before.calls ++ work ∧ ∀ made ∈ work, allowed made = true

section
variable {allowed : AdapterCall → Bool} {before middle after : PeerTransport}

theorem Keeps.refl (session : PeerTransport) : Keeps allowed session session :=
  ⟨rfl, rfl, rfl, rfl, rfl, rfl, rfl, [], by simp, by simp⟩

theorem Keeps.quiet (started : after.started = before.started)
    (terminal : after.terminal = before.terminal) (authority : after.authority = before.authority)
    (released : after.controlAuthorityReleased = before.controlAuthorityReleased)
    (complete : after.cleanupComplete = before.cleanupComplete)
    (calls : after.calls = before.calls) : Keeps allowed before after := by
  refine ⟨started, terminal, ?_, ?_, ?_, released, complete, [], by simp [calls], by simp⟩
  · rw [authority]
  · rw [authority]
  · rw [authority]

theorem Keeps.trans (first : Keeps allowed before middle) (second : Keeps allowed middle after) :
    Keeps allowed before after := by
  obtain ⟨early, earlyLog, earlyAllowed⟩ := first.log
  obtain ⟨late, lateLog, lateAllowed⟩ := second.log
  refine ⟨second.started.trans first.started, second.terminal.trans first.terminal,
    second.identity.trans first.identity, second.mode.trans first.mode,
    second.inputEpoch.trans first.inputEpoch, second.released.trans first.released,
    second.complete.trans first.complete, early ++ late, ?_, ?_⟩
  · rw [lateLog, earlyLog, List.append_assoc]
  · intro made member
    rcases List.mem_append.mp member with isEarly | isLate
    · exact earlyAllowed made isEarly
    · exact lateAllowed made isLate

theorem Keeps.call (kept : Keeps allowed before after) {made : AdapterCall}
    (isAllowed : allowed made = true) : Keeps allowed before (after.call made) := by
  obtain ⟨work, log, allAllowed⟩ := kept.log
  refine ⟨kept.started, kept.terminal, kept.identity, kept.mode, kept.inputEpoch, kept.released,
    kept.complete, work ++ [made], ?_, ?_⟩
  · simp [PeerTransport.call, log]
  · intro other member
    rcases List.mem_append.mp member with isEarly | isLast
    · exact allAllowed other isEarly
    · rw [List.mem_singleton.mp isLast]
      exact isAllowed

theorem Keeps.publishDiagnostics (kept : Keeps AdapterCall.isOrdinary before after) :
    Keeps AdapterCall.isOrdinary before after.publishDiagnostics := by
  unfold PeerTransport.publishDiagnostics
  apply Keeps.call _ rfl
  exact ⟨kept.started, kept.terminal, kept.identity, kept.mode, kept.inputEpoch, kept.released,
    kept.complete, kept.log⟩

@[simp] theorem publishDiagnostics_peerState (session : PeerTransport) :
    session.publishDiagnostics.peerState = session.peerState := rfl

@[simp] theorem call_peerState (session : PeerTransport) (made : AdapterCall) :
    (session.call made).peerState = session.peerState := rfl

theorem Keeps.ordinary (kept : Keeps AdapterCall.isCandidate before after) :
    Keeps AdapterCall.isOrdinary before after := by
  obtain ⟨work, log, allCandidates⟩ := kept.log
  refine ⟨kept.started, kept.terminal, kept.identity, kept.mode, kept.inputEpoch, kept.released,
    kept.complete, work, log, ?_⟩
  intro made member
  have candidate := allCandidates made member
  cases made <;> first | rfl | cases candidate

end

/-! ## The release and the cleanup -/

def release (session : PeerTransport) : List AdapterCall :=
  if session.controlAuthorityReleased || !session.started then []
  else [.releaseControlAuthority session.authority.identity session.authority.inputEpoch]

/-- The cleanup after the release: the three channels, the transport and the terminal fact. -/
def cleanup (diagnostics : TransportDiagnostics) (reason : TransportTerminalReason) :
    List AdapterCall :=
  [.closeDataChannel .control, .closeDataChannel .keyboard, .closeDataChannel .pointer,
    .closeTransport, .publishDiagnostics diagnostics, .onTerminal reason]

section
variable (session : PeerTransport)

@[simp] theorem releaseControlAuthority_started :
    session.releaseControlAuthority.started = session.started := by
  unfold releaseControlAuthority
  split <;> rfl

@[simp] theorem releaseControlAuthority_terminal :
    session.releaseControlAuthority.terminal = session.terminal := by
  unfold releaseControlAuthority
  split <;> rfl

@[simp] theorem releaseControlAuthority_authority :
    session.releaseControlAuthority.authority = session.authority := by
  unfold releaseControlAuthority
  split <;> rfl

@[simp] theorem releaseControlAuthority_cleanupComplete :
    session.releaseControlAuthority.cleanupComplete = session.cleanupComplete := by
  unfold releaseControlAuthority
  split <;> rfl

@[simp] theorem releaseControlAuthority_peerState :
    session.releaseControlAuthority.peerState = session.peerState := by
  unfold releaseControlAuthority
  split <;> rfl

@[simp] theorem releaseControlAuthority_calls :
    session.releaseControlAuthority.calls = session.calls ++ session.release := by
  unfold releaseControlAuthority release
  split
  · simp
  · rfl

theorem publishDiagnostics_calls :
    ∃ diagnostics, session.publishDiagnostics.calls =
      session.calls ++ [.publishDiagnostics diagnostics] := ⟨_, rfl⟩

end

theorem terminate_log {session : PeerTransport} (alive : session.terminal = false)
    (uncleaned : session.cleanupComplete = false) (reason : TransportTerminalReason) :
    (session.terminate reason).terminal = true ∧
      (session.terminate reason).cleanupComplete = true ∧
      (session.terminate reason).authority = session.authority ∧
      ∃ diagnostics, (session.terminate reason).calls = session.calls ++ session.release ++
        cleanup diagnostics (session.terminate reason).terminalReason := by
  unfold terminate
  rw [if_neg (by simp [alive, uncleaned])]
  extract_lets ended released closed left complete published
  have log : left.calls = session.calls ++ session.release ++
      [.closeDataChannel .control, .closeDataChannel .keyboard, .closeDataChannel .pointer,
        .closeTransport] := by
    have first : released.calls = session.calls ++ session.release :=
      releaseControlAuthority_calls ended
    simp only [left, closed, call, clearCandidates, first, List.append_assoc, List.cons_append,
      List.nil_append]
  obtain ⟨diagnostics, publishes⟩ := publishDiagnostics_calls complete
  have publishedLog : published.calls = left.calls ++ [.publishDiagnostics diagnostics] :=
    publishes
  have same : released.terminal = true ∧ released.authority = session.authority :=
    ⟨releaseControlAuthority_terminal ended, releaseControlAuthority_authority ended⟩
  refine ⟨same.1, rfl, same.2, diagnostics, ?_⟩
  simp [call, publishedLog, log, cleanup]

/-! ## What a call comes to -/

def GoesOn (before after : PeerTransport) : Prop :=
  Keeps AdapterCall.isOrdinary before after ∧ after.peerState = before.peerState

def Ends (before after : PeerTransport) : Prop :=
  ∃ last reason, Keeps AdapterCall.isCandidate before last ∧ after = last.terminate reason

/-- The mode is updated, and control that goes over to another is released first. -/
structure Updates (before after : PeerTransport) (update : RouteAuthority) : Prop where
  authority : after.authority = update
  identity : update.identity = before.authority.identity
  epoch : update.mode = before.authority.mode ∧ update.inputEpoch = before.authority.inputEpoch ∨
    update.inputEpoch = before.authority.inputEpoch + 1
  started : after.started = before.started
  terminal : after.terminal = before.terminal
  complete : after.cleanupComplete = before.cleanupComplete
  peer : after.peerState = before.peerState
  armed : update.mode = .control → after.controlAuthorityReleased = false
  log : ∃ diagnostics, after.calls = before.calls ++
    (if before.authority.mode = .control ∧ (update.mode = .view ∨
        update.inputEpoch ≠ before.authority.inputEpoch) then before.release else []) ++
    [.publishDiagnostics diagnostics]

/-- The peer changes, and a failed one gives up its keys. -/
structure PeerChanges (before after : PeerTransport) (state : PeerConnectionState) : Prop where
  authority : after.authority = before.authority
  started : after.started = before.started
  terminal : after.terminal = before.terminal
  complete : after.cleanupComplete = before.cleanupComplete
  peer : after.peerState = state
  released : state ≠ .failed → after.controlAuthorityReleased = before.controlAuthorityReleased
  log : ∃ diagnostics, after.calls = before.calls ++
    (if state = .failed then before.release else []) ++ [.publishDiagnostics diagnostics]

/-- The route as it is admitted, before the adapter answered. -/
structure Admits (before admitted : PeerTransport) (route : RouteAuthority) : Prop where
  authority : admitted.authority = route
  started : admitted.started = true
  terminal : admitted.terminal = false
  complete : admitted.cleanupComplete = false
  peer : admitted.peerState = .new
  released : admitted.controlAuthorityReleased = decide (route.mode ≠ .control)
  log : admitted.calls = before.calls ++ [.startTransport route]

section
variable {scaled : Scaling} {before : PeerTransport}

theorem step_terminal (ended : before.terminal = true) (event : TransportEvent) :
    before.step scaled event = before := by
  have noCallback : ∀ stamp, before.callbackMatches stamp = false := by
    intro stamp
    simp [TransportSessionCore.callbackMatches, ended]
  have noIdentity : ∀ identity, before.identityMatches identity = false := by
    intro identity
    simp [identityMatches, ended]
  cases event <;>
    simp [step, start, renewLease, updateMode, addRemoteIceCandidate, beginIceRestart,
      setRemoteDescriptionReady, onLocalIceCandidate, setLocalIceEmissionReady,
      onPeerConnectionState, onDataChannelState, onTransportPath, updateQualityTarget,
      setQualityPreference, recordActivity, recordMediaProgress, resetMediaProgress, tick, stop,
      whileAlive, noCallback, noIdentity, ended]

theorem observeTime_cases (session : PeerTransport) (now : TransportTime) :
    session.observeTime now = (session.terminate .protocolViolation, false) ∨
      session.observeTime now =
        ({ session with lastObservedMonotonicMs := now.monotonicMs }, true) := by
  unfold observeTime
  split
  · exact .inl rfl
  · exact .inr rfl

theorem authorityAlive_cases (session : PeerTransport) (now : TransportTime) :
    (∃ reason, session.authorityAlive now = (session.terminate reason, false)) ∨
      session.authorityAlive now = (session, true) := by
  unfold authorityAlive
  split
  · exact .inl ⟨_, rfl⟩
  · split
    · exact .inl ⟨_, rfl⟩
    · exact .inr rfl

theorem whileAlive_cases (now : TransportTime) (update : PeerTransport → PeerTransport × Bool) :
    (before.whileAlive now update).1 = before ∨ Ends before (before.whileAlive now update).1 ∨
      (before.whileAlive now update).1 =
        (update { before with lastObservedMonotonicMs := now.monotonicMs }).1 := by
  unfold whileAlive
  split
  · exact .inl rfl
  · rcases observeTime_cases before now with refused | seen
    · rw [refused]
      exact .inr (.inl ⟨before, _, Keeps.refl before, rfl⟩)
    · rw [seen]
      dsimp only
      rw [if_neg (by simp)]
      rcases authorityAlive_cases { before with lastObservedMonotonicMs := now.monotonicMs } now
        with ⟨reason, past⟩ | lives
      · rw [past]
        refine .inr (.inl ⟨{ before with lastObservedMonotonicMs := now.monotonicMs }, reason,
          ?_, rfl⟩)
        exact Keeps.quiet rfl rfl rfl rfl rfl rfl
      · rw [lives]
        exact .inr (.inr rfl)

def Goes (before after : PeerTransport) : Prop := GoesOn before after ∨ Ends before after

theorem Goes.refl (session : PeerTransport) : Goes session session :=
  .inl ⟨Keeps.refl session, rfl⟩

theorem Goes.after {middle after : PeerTransport} (goes : Goes middle after)
    (kept : Keeps AdapterCall.isCandidate before middle)
    (peer : middle.peerState = before.peerState) : Goes before after := by
  rcases goes with ⟨onward, samePeer⟩ | ⟨last, reason, onward, rfl⟩
  · exact .inl ⟨kept.ordinary.trans onward, samePeer.trans peer⟩
  · exact .inr ⟨last, reason, kept.trans onward, rfl⟩

theorem goes_publishes {after : PeerTransport} (kept : Keeps AdapterCall.isOrdinary before after)
    (peer : after.peerState = before.peerState) : Goes before after.publishDiagnostics :=
  .inl ⟨kept.publishDiagnostics, peer⟩

theorem goes_ends {last : PeerTransport} (kept : Keeps AdapterCall.isCandidate before last)
    (reason : TransportTerminalReason) : Goes before (last.terminate reason) :=
  .inr ⟨last, reason, kept, rfl⟩

theorem whileAlive_goes {now : TransportTime} {update : PeerTransport → PeerTransport × Bool}
    (goes : ∀ session, Goes session (update session).1) :
    Goes before (before.whileAlive now update).1 := by
  rcases whileAlive_cases now update with same | ends | onward
  · rw [same]
    exact Goes.refl before
  · exact .inr ends
  · rw [onward]
    exact (goes _).after (Keeps.quiet rfl rfl rfl rfl rfl rfl) rfl

theorem renewLease_goes (renewal : RouteAuthority) (now : TransportTime) :
    Goes before (before.renewLease renewal now).1 := by
  unfold renewLease
  extract_lets boundRenewal
  apply whileAlive_goes
  intro session
  split
  · exact Goes.refl session
  · exact goes_publishes ⟨rfl, rfl, rfl, rfl, rfl, rfl, rfl, [], by simp, by simp⟩ rfl

theorem addRemoteIceCandidate_goes (identity : RouteAuthorityIdentity) (candidate : IceCandidate)
    (applied : Bool) : Goes before (before.addRemoteIceCandidate identity candidate applied).1 := by
  unfold addRemoteIceCandidate
  split
  · exact Goes.refl before
  · split
    · exact goes_ends (Keeps.refl before) _
    · split
      · exact goes_ends (Keeps.refl before) _
      · dsimp only
        have counted : Keeps AdapterCall.isCandidate before
            { before with acceptedRemoteIce := before.acceptedRemoteIce + 1 } :=
          Keeps.quiet rfl rfl rfl rfl rfl rfl
        split
        · split
          · exact goes_ends (counted.call rfl) _
          · exact .inl ⟨(counted.call rfl).ordinary, rfl⟩
        · exact goes_publishes (Keeps.quiet rfl rfl rfl rfl rfl rfl) rfl

theorem beginIceRestart_goes (stamp : TransportCallbackStamp) :
    Goes before (before.beginIceRestart stamp).1 := by
  unfold beginIceRestart
  split
  · exact Goes.refl before
  · split
    · exact Goes.refl before
    · exact goes_publishes (Keeps.quiet rfl rfl rfl rfl rfl rfl) rfl

theorem flushRemoteIce_goes (waiting : List IceCandidate) (applied : Nat → Bool) :
    Goes before (flushRemoteIce applied waiting before).1 := by
  induction waiting generalizing before applied with
  | nil => exact goes_publishes (Keeps.refl before) rfl
  | cons candidate rest ih =>
    unfold flushRemoteIce
    dsimp only
    have shorter : Keeps AdapterCall.isCandidate before
        { before with pendingRemoteIce := rest } := Keeps.quiet rfl rfl rfl rfl rfl rfl
    have handed := @Keeps.call _ _ _ shorter (.addRemoteIceCandidate candidate) rfl
    split
    · exact (ih _).after handed rfl
    · exact goes_ends handed _

theorem setRemoteDescriptionReady_goes (stamp : TransportCallbackStamp) (applied : Nat → Bool) :
    Goes before (before.setRemoteDescriptionReady stamp applied).1 := by
  unfold setRemoteDescriptionReady
  split
  · exact Goes.refl before
  · exact (flushRemoteIce_goes _ _).after (Keeps.quiet rfl rfl rfl rfl rfl rfl) rfl

theorem onLocalIceCandidate_goes (stamp : TransportCallbackStamp) (candidate : IceCandidate)
    (emitted : Bool) : Goes before (before.onLocalIceCandidate stamp candidate emitted).1 := by
  unfold onLocalIceCandidate
  split
  · exact Goes.refl before
  · split
    · exact goes_ends (Keeps.refl before) _
    · split
      · exact goes_ends (Keeps.refl before) _
      · dsimp only
        have counted : Keeps AdapterCall.isCandidate before
            { before with acceptedLocalIce := before.acceptedLocalIce + 1 } :=
          Keeps.quiet rfl rfl rfl rfl rfl rfl
        split
        · split
          · exact goes_ends (counted.call rfl) _
          · exact .inl ⟨(counted.call rfl).ordinary, rfl⟩
        · exact goes_publishes (Keeps.quiet rfl rfl rfl rfl rfl rfl) rfl

theorem flushLocalIce_goes (waiting : List IceCandidate) (emitted : Nat → Bool) :
    Goes before (flushLocalIce emitted waiting before).1 := by
  induction waiting generalizing before emitted with
  | nil => exact goes_publishes (Keeps.refl before) rfl
  | cons candidate rest ih =>
    unfold flushLocalIce
    dsimp only
    have shorter : Keeps AdapterCall.isCandidate before
        { before with pendingLocalIce := rest } := Keeps.quiet rfl rfl rfl rfl rfl rfl
    have handed := @Keeps.call _ _ _ shorter (.emitLocalIceCandidate candidate) rfl
    split
    · exact (ih _).after handed rfl
    · exact goes_ends handed _

theorem setLocalIceEmissionReady_goes (stamp : TransportCallbackStamp) (emitted : Nat → Bool) :
    Goes before (before.setLocalIceEmissionReady stamp emitted).1 := by
  unfold setLocalIceEmissionReady
  split
  · exact Goes.refl before
  · exact (flushLocalIce_goes _ _).after (Keeps.quiet rfl rfl rfl rfl rfl rfl) rfl

theorem onDataChannelState_goes (stamp : TransportCallbackStamp) (channel : DataChannelKind)
    (state : DataChannelState) :
    Goes before (before.onDataChannelState stamp channel state).1 := by
  unfold onDataChannelState
  split
  · exact Goes.refl before
  · split
    · exact goes_ends (Keeps.refl before) _
    · have moved : Keeps AdapterCall.isCandidate before
          { before with channels := before.channels.set state channel } :=
        Keeps.quiet rfl rfl rfl rfl rfl rfl
      dsimp only
      split
      · exact goes_ends moved _
      · exact goes_publishes moved.ordinary rfl

theorem applyQualityTarget_goesOn (accepted : Bool) (target : QualityTarget) :
    GoesOn before (before.applyQualityTarget scaled accepted target).1 := by
  unfold applyQualityTarget
  dsimp only
  split
  · exact ⟨Keeps.refl before, rfl⟩
  · split
    · exact ⟨(Keeps.refl before).call rfl, rfl⟩
    · refine ⟨Keeps.publishDiagnostics ?_, rfl⟩
      exact ((Keeps.refl before).call rfl).trans (Keeps.quiet rfl rfl rfl rfl rfl rfl)

theorem onTransportPath_goes (accepted : Bool) (stamp : TransportCallbackStamp)
    (path : TransportPath) :
    Goes before (before.onTransportPath scaled accepted stamp path).1 := by
  have moved : Keeps AdapterCall.isCandidate before { before with path := path } :=
    Keeps.quiet rfl rfl rfl rfl rfl rfl
  unfold onTransportPath
  split
  · exact Goes.refl before
  · split
    · exact goes_ends (Keeps.refl before) _
    · dsimp only
      split
      · split
        · exact Goes.after (.inl (applyQualityTarget_goesOn accepted _)) moved rfl
        · exact goes_publishes moved.ordinary rfl
      · exact goes_publishes moved.ordinary rfl

theorem updateQualityTarget_goes (accepted : Bool) (stamp : TransportCallbackStamp)
    (target : QualityTarget) :
    Goes before (before.updateQualityTarget scaled accepted stamp target).1 := by
  unfold updateQualityTarget
  split
  · exact Goes.refl before
  · exact Goes.after (.inl (applyQualityTarget_goesOn accepted _))
      (Keeps.quiet rfl rfl rfl rfl rfl rfl) rfl

theorem setQualityPreference_goes (accepted : Bool) (preference : QualityPreference) :
    Goes before (before.setQualityPreference scaled accepted preference).1 := by
  have preferred : Keeps AdapterCall.isCandidate before
      { before with viewerPreference := normalizeQualityPreference preference } :=
    Keeps.quiet rfl rfl rfl rfl rfl rfl
  unfold setQualityPreference
  split
  · exact Goes.refl before
  · dsimp only
    split
    · exact .inl ⟨preferred.ordinary, rfl⟩
    · rename_i target _
      have applied := @applyQualityTarget_goesOn scaled
        { before with viewerPreference := normalizeQualityPreference preference } accepted target
      split
      · exact Goes.after (.inl applied) preferred rfl
      · refine Goes.after (.inl ⟨?_, applied.2⟩) preferred rfl
        exact applied.1.trans (Keeps.quiet rfl rfl rfl rfl rfl rfl)

theorem recordActivity_goes (identity : RouteAuthorityIdentity) (now : TransportTime) :
    Goes before (before.recordActivity identity now).1 := by
  unfold recordActivity
  split
  · exact Goes.refl before
  · apply whileAlive_goes
    intro session
    exact goes_publishes (Keeps.quiet rfl rfl rfl rfl rfl rfl) rfl

theorem recordMediaProgress_goes (stamp : TransportCallbackStamp)
    (sourceFrames outboundVideoBytes : Nat) (now : TransportTime) :
    Goes before (before.recordMediaProgress stamp sourceFrames outboundVideoBytes now).1 := by
  unfold recordMediaProgress
  split
  · exact Goes.refl before
  · apply whileAlive_goes
    intro session
    dsimp only
    split
    · exact goes_ends (Keeps.refl session) _
    · have observed : Keeps AdapterCall.isCandidate session
          { session with lastObservedSourceFrames := sourceFrames } :=
        Keeps.quiet rfl rfl rfl rfl rfl rfl
      split
      · exact goes_publishes (Keeps.quiet rfl rfl rfl rfl rfl rfl) rfl
      · split
        · exact goes_ends observed _
        · exact goes_publishes observed.ordinary rfl

theorem resetMediaProgress_goes (stamp : TransportCallbackStamp) (now : TransportTime) :
    Goes before (before.resetMediaProgress stamp now).1 := by
  unfold resetMediaProgress
  split
  · exact Goes.refl before
  · apply whileAlive_goes
    intro session
    exact goes_publishes (Keeps.quiet rfl rfl rfl rfl rfl rfl) rfl

theorem tick_goes (now : TransportTime) : Goes before (before.tick now).1 := by
  have observed : Keeps AdapterCall.isCandidate before
      { before with lastObservedMonotonicMs := now.monotonicMs } :=
    Keeps.quiet rfl rfl rfl rfl rfl rfl
  unfold tick
  split
  · exact Goes.refl before
  · rcases observeTime_cases before now with refused | seen
    · rw [refused]
      exact goes_ends (Keeps.refl before) _
    · rw [seen]
      dsimp only
      rw [if_neg (by simp)]
      split
      · exact goes_ends observed _
      · rcases authorityAlive_cases { before with lastObservedMonotonicMs := now.monotonicMs }
          now with ⟨reason, past⟩ | lives
        · rw [past]
          exact goes_ends observed _
        · rw [lives]
          dsimp only
          rw [if_neg (by simp)]
          split
          · exact goes_ends observed _
          · exact .inl ⟨observed.ordinary, rfl⟩

theorem stop_goes (reason : TransportTerminalReason) : Goes before (before.stop reason) := by
  unfold stop
  split
  · exact Goes.refl before
  · exact goes_ends (Keeps.refl before) _

theorem updateMode_cases (update : RouteAuthority) (now : TransportTime) :
    Goes before (before.updateMode update now).1 ∨
      Updates before (before.updateMode update now).1 update := by
  unfold updateMode
  rcases whileAlive_cases now _ with same | ends | onward
  · rw [same]
    exact .inl (Goes.refl before)
  · exact .inl (.inr ends)
  · rw [onward]
    generalize observed : ({ before with
      lastObservedMonotonicMs := now.monotonicMs } : PeerTransport) = session
    have seen : Keeps AdapterCall.isCandidate before session := by
      rw [← observed]
      exact Keeps.quiet rfl rfl rfl rfl rfl rfl
    have sameAuthority : session.authority = before.authority := by rw [← observed]
    have sameFlag : session.controlAuthorityReleased = before.controlAuthorityReleased := by
      rw [← observed]
    have samePeer : session.peerState = before.peerState := by rw [← observed]
    have sameCalls : session.calls = before.calls := by rw [← observed]
    have sameRelease : session.release = before.release := by
      rw [← observed]
      rfl
    split
    · exact .inl (.inl ⟨seen.ordinary, samePeer⟩)
    · rename_i admitted
      have identity : update.identity = before.authority.identity := by
        simp only [Bool.or_eq_true, Bool.not_eq_true', decide_eq_true_eq, not_or, not_not,
          sameAuthority] at admitted
        exact admitted.1.1.2.symm
      extract_lets changed epochUnchanged epochAdvanced held
      split
      · exact .inl (.inl ⟨seen.ordinary, samePeer⟩)
      · rename_i moves
        right
        rw [not_or] at moves
        have advanced : epochAdvanced ↔ before.authority.inputEpoch ≠ 2 ^ 64 - 1 ∧
            update.inputEpoch = before.authority.inputEpoch + 1 := by
          simp only [epochAdvanced, sameAuthority]
        have heldFacts : held.started = before.started ∧ held.terminal = before.terminal ∧
            held.cleanupComplete = before.cleanupComplete ∧
            held.peerState = before.peerState ∧ held.calls = before.calls ++
              (if before.authority.mode = .control ∧ (update.mode = .view ∨ epochAdvanced) then
                before.release else []) := by
          simp only [held, sameAuthority]
          split
          · simp [seen.started, seen.terminal, seen.complete, samePeer, sameCalls, sameRelease]
          · simp [seen.started, seen.terminal, seen.complete, samePeer, sameCalls]
        have epoch : update.mode = before.authority.mode ∧
            update.inputEpoch = before.authority.inputEpoch ∨ epochAdvanced := by
          by_cases isAdvanced : epochAdvanced
          · exact .inr isAdvanced
          · have sameMode : ¬ changed := fun isChanged => moves.1 ⟨isChanged, isAdvanced⟩
            have sameEpoch : epochUnchanged := by
              by_contra isChanged
              exact moves.2 ⟨sameMode, isChanged, isAdvanced⟩
            simp only [changed, epochUnchanged, sameAuthority, not_not] at sameMode sameEpoch
            exact .inl ⟨sameMode, sameEpoch⟩
        have fence : (update.mode = .view ∨ epochAdvanced) ↔
            (update.mode = .view ∨ update.inputEpoch ≠ before.authority.inputEpoch) := by
          constructor
          · rintro (view | isAdvanced)
            · exact .inl view
            · have later := (advanced.mp isAdvanced).2
              exact .inr (by omega)
          · rintro (view | different)
            · exact .inl view
            · rcases epoch with ⟨-, same⟩ | isAdvanced
              · exact absurd same different
              · exact .inr isAdvanced
        refine ⟨rfl, identity, ?_, heldFacts.1, heldFacts.2.1, heldFacts.2.2.1, heldFacts.2.2.2.1,
          ?_, ?_⟩
        · rcases epoch with same | isAdvanced
          · exact .inl same
          · exact .inr (advanced.mp isAdvanced).2
        · intro control
          simp [publishDiagnostics, call, control]
        · have logged := heldFacts.2.2.2.2
          simp only [fence] at logged
          rw [← logged]
          exact publishDiagnostics_calls _

theorem onPeerConnectionState_cases (stamp : TransportCallbackStamp)
    (state : PeerConnectionState) (now : TransportTime) :
    Goes before (before.onPeerConnectionState stamp state now).1 ∨
      PeerChanges before (before.onPeerConnectionState stamp state now).1 state := by
  unfold onPeerConnectionState
  split
  · exact .inl (Goes.refl before)
  · rcases whileAlive_cases now _ with same | ends | onward
    · rw [same]
      exact .inl (Goes.refl before)
    · exact .inl (.inr ends)
    · rw [onward]
      generalize observed : ({ before with
        lastObservedMonotonicMs := now.monotonicMs } : PeerTransport) = session
      have seen : Keeps AdapterCall.isCandidate before session := by
        rw [← observed]
        exact Keeps.quiet rfl rfl rfl rfl rfl rfl
      have sameAuthority : session.authority = before.authority := by rw [← observed]
      have sameCalls : session.calls = before.calls := by rw [← observed]
      have sameRelease : session.release = before.release := by
        rw [← observed]
        rfl
      extract_lets previous moved released armed
      split
      · exact .inl (goes_ends seen _)
      · split
        · refine .inl (goes_ends (seen.trans ?_) _)
          exact Keeps.quiet rfl rfl rfl rfl rfl rfl
        · right
          have releasedFacts : released.authority = before.authority ∧
              released.started = before.started ∧ released.terminal = before.terminal ∧
              released.cleanupComplete = before.cleanupComplete ∧ released.peerState = state ∧
              (state ≠ .failed → released.controlAuthorityReleased =
                before.controlAuthorityReleased) ∧
              released.calls = before.calls ++ (if state = .failed then before.release else []) := by
            have movedRelease : moved.release = before.release := sameRelease
            simp only [released]
            split
            · rename_i failed
              simp [moved, seen.started, seen.terminal, seen.complete, sameAuthority, sameCalls,
                failed]
              exact movedRelease
            · rename_i working
              simp [moved, seen.started, seen.terminal, seen.complete, sameAuthority, sameCalls,
                seen.released]
          have armedFacts : armed.authority = released.authority ∧
              armed.started = released.started ∧ armed.terminal = released.terminal ∧
              armed.cleanupComplete = released.cleanupComplete ∧
              armed.peerState = released.peerState ∧
              armed.controlAuthorityReleased = released.controlAuthorityReleased ∧
              armed.calls = released.calls := by
            simp only [armed, resetMediaProgressState]
            split
            · exact ⟨rfl, rfl, rfl, rfl, rfl, rfl, rfl⟩
            · split <;> exact ⟨rfl, rfl, rfl, rfl, rfl, rfl, rfl⟩
          refine ⟨armedFacts.1.trans releasedFacts.1, armedFacts.2.1.trans releasedFacts.2.1,
            armedFacts.2.2.1.trans releasedFacts.2.2.1,
            armedFacts.2.2.2.1.trans releasedFacts.2.2.2.1,
            armedFacts.2.2.2.2.1.trans releasedFacts.2.2.2.2.1,
            fun working => armedFacts.2.2.2.2.2.1.trans (releasedFacts.2.2.2.2.2.1 working), ?_⟩
          rw [← releasedFacts.2.2.2.2.2.2, ← armedFacts.2.2.2.2.2.2]
          exact publishDiagnostics_calls armed

theorem start_cases (uncleaned : before.cleanupComplete = false) (authority : RouteAuthority)
    (now : TransportTime) (accepted : Bool) :
    (before.start authority now accepted).1 = before ∨
      before.started = false ∧ ∃ admitted, Admits before admitted authority ∧
        ((before.start authority now accepted).1 = admitted.publishDiagnostics ∨
          (before.start authority now accepted).1 = admitted.terminate .adapterFailure) := by
  unfold start
  split
  · exact .inl rfl
  · rename_i admissible
    extract_lets given source reset admitted
    simp only [Bool.or_eq_true, not_or, Bool.not_eq_true] at admissible
    refine .inr ⟨admissible.1.1.1, admitted, ?_, ?_⟩
    · exact ⟨rfl, rfl, admissible.1.1.2, uncleaned, rfl, rfl, rfl⟩
    · split
      · exact .inr rfl
      · exact .inl rfl

theorem step_cases (uncleaned : before.cleanupComplete = false) (event : TransportEvent) :
    Goes before (before.step scaled event) ∨
    (∃ update now, event = .updateMode update now ∧
      Updates before (before.step scaled event) update) ∨
    (∃ stamp state now, event = .onPeerConnectionState stamp state now ∧
      PeerChanges before (before.step scaled event) state) ∨
    (∃ authority now accepted admitted, event = .start authority now accepted ∧
      before.started = false ∧ Admits before admitted authority ∧
      (before.step scaled event = admitted.publishDiagnostics ∨
        before.step scaled event = admitted.terminate .adapterFailure)) := by
  cases event with
  | start authority now accepted =>
    rcases start_cases uncleaned authority now accepted with same | ⟨fresh, admitted, admits, became⟩
    · left
      rw [step, same]
      exact Goes.refl before
    · exact .inr (.inr (.inr ⟨authority, now, accepted, admitted, rfl, fresh, admits, became⟩))
  | updateMode update now =>
    rcases updateMode_cases update now with goes | updates
    · exact .inl goes
    · exact .inr (.inl ⟨update, now, rfl, updates⟩)
  | onPeerConnectionState stamp state now =>
    rcases onPeerConnectionState_cases stamp state now with goes | changes
    · exact .inl goes
    · exact .inr (.inr (.inl ⟨stamp, state, now, rfl, changes⟩))
  | renewLease renewal now => exact .inl (renewLease_goes renewal now)
  | addRemoteIceCandidate identity candidate applied =>
    exact .inl (addRemoteIceCandidate_goes identity candidate applied)
  | beginIceRestart stamp => exact .inl (beginIceRestart_goes stamp)
  | setRemoteDescriptionReady stamp applied =>
    exact .inl (setRemoteDescriptionReady_goes stamp applied)
  | onLocalIceCandidate stamp candidate emitted =>
    exact .inl (onLocalIceCandidate_goes stamp candidate emitted)
  | setLocalIceEmissionReady stamp emitted =>
    exact .inl (setLocalIceEmissionReady_goes stamp emitted)
  | onDataChannelState stamp channel state =>
    exact .inl (onDataChannelState_goes stamp channel state)
  | onTransportPath accepted stamp path => exact .inl (onTransportPath_goes accepted stamp path)
  | updateQualityTarget accepted stamp target =>
    exact .inl (updateQualityTarget_goes accepted stamp target)
  | setQualityPreference accepted preference =>
    exact .inl (setQualityPreference_goes accepted preference)
  | recordActivity identity now => exact .inl (recordActivity_goes identity now)
  | recordMediaProgress stamp sourceFrames outboundVideoBytes now =>
    exact .inl (recordMediaProgress_goes stamp sourceFrames outboundVideoBytes now)
  | resetMediaProgress stamp now => exact .inl (resetMediaProgress_goes stamp now)
  | tick now => exact .inl (tick_goes now)
  | stop reason => exact .inl (stop_goes reason)

end

/-! ## Runs -/

def Releasable (session : PeerTransport) : Prop :=
  session.started = true → session.terminal = false → session.authority.mode = .control →
    session.peerState = .connected → session.controlAuthorityReleased = false

/-- A peer is reported connected only while control, if the session has it, can be released. -/
def ConnectsReleasable (session : PeerTransport) : TransportEvent → Prop
  | .onPeerConnectionState _ state _ => state = .connected →
      session.authority.mode = .control → session.controlAuthorityReleased = false
  | _ => True

/-- The cleanup is made once, at the end, and never on a session that goes on. -/
structure CleansOnce (session : PeerTransport) : Prop where
  complete : session.cleanupComplete = session.terminal
  before : session.terminal = false → ∀ made ∈ session.calls, made.isCleanup = false
  ended : session.terminal = true → ∃ work diagnostics,
    session.calls = work ++ cleanup diagnostics session.terminalReason ∧
      ∀ made ∈ work, made.isCleanup = false

/-- What a step that ends the session releases; a route that is not taken on held nothing but
what it was admitted with. -/
def releaseAt (session : PeerTransport) : TransportEvent → List AdapterCall
  | .start authority _ _ =>
    if authority.mode = .control then
      [.releaseControlAuthority authority.identity authority.inputEpoch]
    else []
  | _ => session.release

section
variable {scaled : Scaling} {before after : PeerTransport}

theorem Keeps.release {allowed : AdapterCall → Bool} (kept : Keeps allowed before after) :
    after.release = before.release := by
  simp only [PeerTransport.release, kept.released, kept.started, kept.identity, kept.inputEpoch]

theorem ordinary_not_cleanup {made : AdapterCall} (ordinary : made.isOrdinary = true) :
    made.isCleanup = false := by
  simp only [AdapterCall.isOrdinary, Bool.and_eq_true, Bool.not_eq_true'] at ordinary
  exact ordinary.1

theorem release_not_cleanup : ∀ made ∈ before.release, made.isCleanup = false := by
  intro made member
  unfold PeerTransport.release at member
  split at member
  · cases member
  · rw [List.mem_singleton.mp member]
    rfl

theorem Admits.release {authority : RouteAuthority} {admitted : PeerTransport}
    (admits : Admits before admitted authority) :
    admitted.release = if authority.mode = .control then
      [.releaseControlAuthority authority.identity authority.inputEpoch] else [] := by
  unfold PeerTransport.release
  rw [admits.released, admits.started, admits.authority]
  by_cases control : authority.mode = .control
  · simp [control]
  · simp [control]

theorem step_ends (alive : before.terminal = false) (uncleaned : before.cleanupComplete = false)
    (event : TransportEvent) (ended : (before.step scaled event).terminal = true) :
    (before.step scaled event).cleanupComplete = true ∧
    ∃ work diagnostics, (before.step scaled event).calls =
        before.calls ++ work ++ before.releaseAt event ++
          cleanup diagnostics (before.step scaled event).terminalReason ∧
      ∀ made ∈ work, made.isCandidate = true ∨
        ∃ authority now accepted, event = .start authority now accepted ∧
          made = .startTransport authority := by
  by_cases isStart : ∃ authority now accepted, event = .start authority now accepted
  · obtain ⟨authority, now, accepted, rfl⟩ := isStart
    rcases start_cases uncleaned authority now accepted with
      same | ⟨-, admitted, admits, same | same⟩
    · rw [step, same, alive] at ended
      cases ended
    · rw [step, same] at ended
      change admitted.terminal = true at ended
      rw [admits.terminal] at ended
      cases ended
    · rw [step, same]
      obtain ⟨-, complete, -, diagnostics, terminated⟩ :=
        terminate_log admits.terminal admits.complete .adapterFailure
      refine ⟨complete, [.startTransport authority], diagnostics, ?_, ?_⟩
      · rw [terminated, admits.log, admits.release]
        rfl
      · intro made member
        exact .inr ⟨authority, now, accepted, rfl, List.mem_singleton.mp member⟩
  · have releases : before.releaseAt event = before.release := by
      cases event with
      | start authority now accepted => exact absurd ⟨authority, now, accepted, rfl⟩ isStart
      | _ => rfl
    rcases @step_cases scaled before uncleaned event with
      goes | ⟨update, now, rfl, updates⟩ | ⟨stamp, state, now, rfl, changes⟩ |
      ⟨authority, now, accepted, _, same, _⟩
    · rcases goes with ⟨kept, -⟩ | ⟨last, reason, kept, became⟩
      · rw [kept.terminal, alive] at ended
        cases ended
      · obtain ⟨work, log, candidates⟩ := kept.log
        obtain ⟨-, complete, -, diagnostics, terminated⟩ :=
          terminate_log (kept.terminal.trans alive) (kept.complete.trans uncleaned) reason
        rw [became]
        refine ⟨complete, work, diagnostics, ?_, fun made member => .inl (candidates made member)⟩
        rw [terminated, log, kept.release, releases]
    · rw [updates.terminal, alive] at ended
      cases ended
    · rw [changes.terminal, alive] at ended
      cases ended
    · exact absurd ⟨authority, now, accepted, same⟩ isStart

theorem step_lives (alive : before.terminal = false) (uncleaned : before.cleanupComplete = false)
    (event : TransportEvent) (lives : (before.step scaled event).terminal = false) :
    (before.step scaled event).cleanupComplete = false ∧
    ∃ work, (before.step scaled event).calls = before.calls ++ work ∧
      ∀ made ∈ work, made.isCleanup = false := by
  rcases @step_cases scaled before uncleaned event with
    goes | ⟨update, now, rfl, updates⟩ | ⟨stamp, state, now, rfl, changes⟩ |
    ⟨authority, now, accepted, admitted, rfl, -, admits, became⟩
  · rcases goes with ⟨kept, -⟩ | ⟨last, reason, kept, became⟩
    · obtain ⟨work, log, ordinary⟩ := kept.log
      exact ⟨kept.complete.trans uncleaned, work, log, fun made member =>
        ordinary_not_cleanup (ordinary made member)⟩
    · rw [became] at lives
      have ended := terminate_log (kept.terminal.trans alive) (kept.complete.trans uncleaned) reason
      rw [ended.1] at lives
      cases lives
  · obtain ⟨diagnostics, log⟩ := updates.log
    refine ⟨updates.complete.trans uncleaned, _, by rw [log, List.append_assoc], ?_⟩
    intro made member
    rcases List.mem_append.mp member with released | published
    · split at released
      · exact release_not_cleanup made released
      · cases released
    · rw [List.mem_singleton.mp published]
      rfl
  · obtain ⟨diagnostics, log⟩ := changes.log
    refine ⟨changes.complete.trans uncleaned, _, by rw [log, List.append_assoc], ?_⟩
    intro made member
    rcases List.mem_append.mp member with released | published
    · split at released
      · exact release_not_cleanup made released
      · cases released
    · rw [List.mem_singleton.mp published]
      rfl
  · rcases became with same | same
    · obtain ⟨diagnostics, published⟩ := publishDiagnostics_calls admitted
      rw [same, published, admits.log, List.append_assoc]
      refine ⟨admits.complete, _, rfl, ?_⟩
      simp [AdapterCall.isCleanup]
    · rw [same] at lives
      have ended := terminate_log admits.terminal admits.complete .adapterFailure
      rw [ended.1] at lives
      cases lives

theorem step_cleansOnce (clean : CleansOnce before) (event : TransportEvent) :
    CleansOnce (before.step scaled event) := by
  cases terminal : before.terminal with
  | true =>
    rw [step_terminal terminal]
    exact clean
  | false =>
    have uncleaned : before.cleanupComplete = false := clean.complete.trans terminal
    cases after : (before.step scaled event).terminal with
    | true =>
      obtain ⟨complete, work, diagnostics, log, made⟩ :=
        step_ends terminal uncleaned event after
      refine ⟨complete.trans after.symm, ?_, fun _ => ⟨_, diagnostics, log, ?_⟩⟩
      · intro lives
        rw [after] at lives
        cases lives
      · intro call member
        simp only [List.mem_append] at member
        rcases member with (early | worked) | released
        · exact clean.before terminal call early
        · rcases made call worked with candidate | ⟨authority, _, _, _, rfl⟩
          · cases call <;> first | rfl | cases candidate
          · rfl
        · cases event <;> simp only [releaseAt] at released
          · split at released
            · rw [List.mem_singleton.mp released]
              rfl
            · cases released
          all_goals exact release_not_cleanup call released
    | false =>
      obtain ⟨complete, work, log, made⟩ := step_lives terminal uncleaned event after
      refine ⟨complete.trans after.symm, ?_, ?_⟩
      · intro _ call member
        rw [log] at member
        rcases List.mem_append.mp member with early | worked
        · exact clean.before terminal call early
        · exact made call worked
      · intro ended
        rw [after] at ended
        cases ended

theorem step_releasable (clean : CleansOnce before) (releasable : Releasable before)
    {event : TransportEvent} (connects : ConnectsReleasable before event) :
    Releasable (before.step scaled event) := by
  intro started lives control connected
  cases terminal : before.terminal with
  | true =>
    rw [step_terminal terminal, terminal] at lives
    cases lives
  | false =>
    have uncleaned : before.cleanupComplete = false := clean.complete.trans terminal
    rcases @step_cases scaled before uncleaned event with
      goes | ⟨update, now, rfl, updates⟩ | ⟨stamp, state, now, rfl, changes⟩ |
      ⟨authority, now, accepted, admitted, rfl, -, admits, became⟩
    · rcases goes with ⟨kept, peer⟩ | ⟨last, reason, kept, became⟩
      · rw [kept.released]
        exact releasable (kept.started.symm.trans started) terminal
          (kept.mode.symm.trans control) (peer.symm.trans connected)
      · rw [became] at lives
        have ended := terminate_log (kept.terminal.trans terminal)
          (kept.complete.trans uncleaned) reason
        rw [ended.1] at lives
        cases lives
    · apply updates.armed
      rw [updates.authority] at control
      exact control
    · rw [changes.peer] at connected
      subst connected
      rw [changes.released (by simp)]
      rw [changes.authority] at control
      exact connects rfl control
    · rcases became with same | same
      · rw [same] at connected
        change admitted.peerState = .connected at connected
        rw [admits.peer] at connected
        cases connected
      · rw [same] at lives
        have ended := terminate_log admits.terminal admits.complete .adapterFailure
        rw [ended.1] at lives
        cases lives

theorem step_releasesFirst (clean : CleansOnce before) (started : before.started = true)
    (alive : before.terminal = false) (control : before.authority.mode = .control)
    (connected : before.peerState = .connected)
    (armed : before.controlAuthorityReleased = false) (event : TransportEvent)
    (ends : (before.step scaled event).terminal = true ∨
      (before.step scaled event).authority.mode = .view ∨
      (before.step scaled event).authority.inputEpoch ≠ before.authority.inputEpoch ∨
      (before.step scaled event).peerState = .failed) :
    ∃ work rest, (before.step scaled event).calls = before.calls ++ work ++
        .releaseControlAuthority before.authority.identity before.authority.inputEpoch :: rest ∧
      ∀ made ∈ work, made.isCandidate = true := by
  have uncleaned : before.cleanupComplete = false := clean.complete.trans alive
  have release : before.release =
      [.releaseControlAuthority before.authority.identity before.authority.inputEpoch] := by
    simp [PeerTransport.release, armed, started]
  rcases @step_cases scaled before uncleaned event with
    goes | ⟨update, now, rfl, updates⟩ | ⟨stamp, state, now, rfl, changes⟩ |
    ⟨authority, now, accepted, admitted, rfl, fresh, -⟩
  · rcases goes with ⟨kept, peer⟩ | ⟨last, reason, kept, became⟩
    · rw [kept.terminal, kept.mode, kept.inputEpoch, peer, alive, control, connected] at ends
      simp at ends
    · obtain ⟨work, log, candidates⟩ := kept.log
      obtain ⟨-, -, -, diagnostics, terminated⟩ :=
        terminate_log (kept.terminal.trans alive) (kept.complete.trans uncleaned) reason
      rw [became]
      refine ⟨work, cleanup diagnostics (last.terminate reason).terminalReason, ?_, candidates⟩
      rw [terminated, log, kept.release, release]
      simp
  · obtain ⟨diagnostics, log⟩ := updates.log
    rw [updates.terminal, updates.authority, updates.peer, alive, connected] at ends
    have fence : update.mode = .view ∨ update.inputEpoch ≠ before.authority.inputEpoch := by
      simpa using ends
    rw [if_pos ⟨control, fence⟩, release] at log
    exact ⟨[], [.publishDiagnostics diagnostics], by simpa using log, by simp⟩
  · obtain ⟨diagnostics, log⟩ := changes.log
    rw [changes.terminal, changes.authority, changes.peer, alive, control] at ends
    have failed : state = .failed := by simpa using ends
    rw [if_pos failed, release] at log
    exact ⟨[], [.publishDiagnostics diagnostics], by simpa using log, by simp⟩
  · rw [started] at fresh
    cases fresh

end

theorem unstarted_sound (limits : TransportSessionLimits) (peerLimits : PeerLimits) :
    CleansOnce (unstarted limits peerLimits) ∧ Releasable (unstarted limits peerLimits) := by
  refine ⟨⟨rfl, ?_, ?_⟩, ?_⟩
  · intro _ made member
    cases member
  · intro ended
    cases ended
  · intro started
    cases started

/-- In a run in which a peer is reported connected only while the release of control is armed,
a session that can be controlled can be released: whatever takes its control away next releases
it first, under its identity and epoch. A session that ends makes its release, if that is armed,
and one cleanup in its order, and no call after it. -/
theorem control_stays_releasable (scaled : Scaling) (limits : TransportSessionLimits)
    (peerLimits : PeerLimits) (events : List TransportEvent)
    (connects : Meets (step scaled) ConnectsReleasable (unstarted limits peerLimits) events) :
    let session := run (step scaled) (unstarted limits peerLimits) events
    (session.controlReady = true → session.controlAuthorityReleased = false ∧
      ∀ event, ((session.step scaled event).terminal = true ∨
          (session.step scaled event).authority.mode = .view ∨
          (session.step scaled event).authority.inputEpoch ≠ session.authority.inputEpoch ∨
          (session.step scaled event).peerState = .failed) →
        ∃ work rest, (session.step scaled event).calls = session.calls ++ work ++
            .releaseControlAuthority session.authority.identity session.authority.inputEpoch ::
              rest ∧
          ∀ made ∈ work, made.isCandidate = true) ∧
    (session.terminal = false → (∀ made ∈ session.calls, made.isCleanup = false) ∧
      ∀ event, (session.step scaled event).terminal = true → ∃ work diagnostics,
        (session.step scaled event).calls = session.calls ++ work ++ session.releaseAt event ++
          cleanup diagnostics (session.step scaled event).terminalReason ∧
        ∀ made ∈ work, made.isCandidate = true ∨
          ∃ authority now accepted, event = .start authority now accepted ∧
            made = .startTransport authority) ∧
    (session.terminal = true → (∃ work diagnostics,
        session.calls = work ++ cleanup diagnostics session.terminalReason ∧
        ∀ made ∈ work, made.isCleanup = false) ∧
      ∀ event, (session.step scaled event).calls = session.calls) := by
  intro session
  have sound : CleansOnce session ∧ Releasable session :=
    @run_invariant _ _ (step scaled) ConnectsReleasable
      (fun session => CleansOnce session ∧ Releasable session)
      (fun before event connects sound =>
        ⟨step_cleansOnce sound.1 event, step_releasable sound.1 sound.2 connects⟩)
      _ _ (unstarted_sound limits peerLimits) connects
  obtain ⟨clean, releasable⟩ := sound
  refine ⟨?_, ?_, ?_⟩
  · intro ready
    simp only [controlReady, Bool.and_eq_true, Bool.not_eq_true', decide_eq_true_eq] at ready
    obtain ⟨⟨⟨⟨started, alive⟩, control⟩, connected⟩, -⟩ := ready
    have armed := releasable started alive control connected
    exact ⟨armed, step_releasesFirst clean started alive control connected armed⟩
  · intro alive
    refine ⟨clean.before alive, fun event ended => ?_⟩
    exact (step_ends alive (clean.complete.trans alive) event ended).2
  · intro ended
    refine ⟨clean.ended ended, fun event => ?_⟩
    rw [step_terminal ended]

def plainLimits : TransportSessionLimits := ⟨75000, transportMaximumQualityTargetBps⟩

def plainPeerLimits : PeerLimits := ⟨128, 128, 256, 16384, 900000, 10000⟩

def plainAuthority (inputEpoch : Nat) : RouteAuthority :=
  ⟨⟨[65], [66], [67], 1, 1⟩, 60000, 60000, .control, inputEpoch, 0⟩

def plainStamp : TransportCallbackStamp := ⟨1, 1⟩

/-- The peer of a controlled route connects, and its channels open. -/
def connectedRoute : List TransportEvent :=
  [.start (plainAuthority 1) ⟨0, 0⟩ true,
    .onDataChannelState plainStamp .control .opened,
    .onDataChannelState plainStamp .keyboard .opened,
    .onDataChannelState plainStamp .pointer .opened,
    .onPeerConnectionState plainStamp .connected ⟨1, 1⟩]

theorem rekeyed_route_stays_releasable :
    (run (step fun width height _ => (width, height)) (unstarted plainLimits plainPeerLimits)
      (connectedRoute ++ [.onPeerConnectionState plainStamp .failed ⟨2, 2⟩,
        .updateMode (plainAuthority 2) ⟨3, 3⟩,
        .onPeerConnectionState plainStamp .connected ⟨4, 4⟩])).controlAuthorityReleased =
      false := by
  refine ((control_stays_releasable (fun width height _ => (width, height)) plainLimits
    plainPeerLimits _ ?_).1 (by decide +kernel)).1
  refine ⟨trivial, trivial, trivial, trivial, ?_, ?_, trivial, ?_, trivial⟩
  · intro _ _
    decide +kernel
  · intro failed
    cases failed
  · intro _ _
    decide +kernel

/-- A failed peer that comes back on its own is controlled again, and its keys are not released
when the session ends. -/
theorem returned_peer_is_not_releasable :
    ¬ ∀ (scaled : Scaling) (limits : TransportSessionLimits) (peerLimits : PeerLimits)
      (events : List TransportEvent),
      let session := run (step scaled) (unstarted limits peerLimits) events
      session.controlReady = true → session.controlAuthorityReleased = false := by
  intro armed
  have released := armed (fun width height _ => (width, height)) plainLimits plainPeerLimits
    (connectedRoute ++ [.onPeerConnectionState plainStamp .failed ⟨2, 2⟩,
      .onPeerConnectionState plainStamp .connected ⟨3, 3⟩]) (by decide +kernel)
  exact absurd released (by decide +kernel)

end PeerTransport

end ImCodes.Remote
