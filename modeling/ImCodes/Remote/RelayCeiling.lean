import ImCodes.Remote.PeerTransport

/-!
# The relay ceiling

The operator's ceiling binds a selection made while the route is not direct. A selection made on
a direct route is above it where the viewer asks for more, and stays when the route falls back
to a relay and the re-selection is refused.
-/

set_option autoImplicit false

namespace ImCodes.Remote

open Library

/-- The selection and its bound are at most the ceiling. -/
structure QualitySelection.Within (ceiling : Nat) (selection : QualitySelection) : Prop where
  bitrate : selection.bitrateBps ≤ ceiling
  maximum : selection.maximumBitrateBps ≤ ceiling

instance (ceiling : Nat) (selection : QualitySelection) :
    Decidable (selection.Within ceiling) :=
  decidable_of_iff (selection.bitrateBps ≤ ceiling ∧ selection.maximumBitrateBps ≤ ceiling)
    ⟨fun within => ⟨within.1, within.2⟩, fun within => ⟨within.bitrate, within.maximum⟩⟩

def PeerTransport.Bound (ceiling : Nat) (core : PeerTransport) : Prop :=
  core.path ≠ .direct → ∀ held ∈ core.quality, held.Within ceiling

/-- The ceiling binds whenever a path or target call has returned. -/
def WithinCeiling (scaled : Scaling) (ceiling : Nat) (session : WorkerSession)
    (call : TransportCall) : Prop :=
  match call with
  | .onTransportPath _ _ _ => (session.step scaled call).core.Bound ceiling
  | .updateQualityTarget _ _ _ => (session.step scaled call).core.Bound ceiling
  | _ => True

def TransportCall.KeepsCeiling (ceiling : Nat) : TransportCall → Prop
  | .updateMode update _ => update.relayBitrateCapBps ≤ ceiling
  | _ => True

/-- A route that leaves the direct path with a selection above the ceiling gets another: under
the relay ceiling one meets the viewer's floor, and the encoder takes it. -/
def ReselectsOnLeaving (scaled : Scaling) (ceiling : Nat) (session : WorkerSession) :
    TransportCall → Prop
  | .onTransportPath accepted stamp .relay =>
    session.core.callbackMatches stamp → session.core.path = .direct →
      (∃ held ∈ session.core.quality, ¬ held.Within ceiling) →
        ∀ target ∈ session.core.lastQualityTarget,
          let relayed := { session.core with path := .relay }
          relayed.qualitySelectionIsValid (relayed.selectionFor scaled target) ∧ accepted
  | _ => True

/-! ## What a call leaves alone -/

namespace PeerTransport

/-- The parts of a session that quality depends on. -/
structure SameRoute (before after : PeerTransport) : Prop where
  cap : after.authority.relayBitrateCapBps = before.authority.relayBitrateCapBps
  path : after.path = before.path
  quality : after.quality = before.quality
  target : after.lastQualityTarget = before.lastQualityTarget

theorem SameRoute.refl (core : PeerTransport) : SameRoute core core :=
  ⟨rfl, rfl, rfl, rfl⟩

theorem SameRoute.trans {first second third : PeerTransport}
    (toSecond : SameRoute first second) (toThird : SameRoute second third) :
    SameRoute first third where
  cap := toThird.cap.trans toSecond.cap
  path := toThird.path.trans toSecond.path
  quality := toThird.quality.trans toSecond.quality
  target := toThird.target.trans toSecond.target

theorem SameRoute.bound_iff {before after : PeerTransport} (same : SameRoute before after)
    {ceiling : Nat} : after.Bound ceiling ↔ before.Bound ceiling := by
  unfold Bound
  rw [same.path, same.quality]

variable (core : PeerTransport)

theorem releaseControlAuthority_sameRoute : SameRoute core core.releaseControlAuthority := by
  unfold releaseControlAuthority
  split <;> exact ⟨rfl, rfl, rfl, rfl⟩

theorem terminate_sameRoute (reason : TransportTerminalReason) :
    SameRoute core (core.terminate reason) := by
  unfold terminate
  split
  · exact .refl core
  · extract_lets ending released
    have same := releaseControlAuthority_sameRoute ending
    exact ⟨same.cap, same.path, same.quality, same.target⟩

theorem observeTime_sameRoute (now : TransportTime) : SameRoute core (core.observeTime now).1 := by
  unfold observeTime
  split
  · exact terminate_sameRoute core _
  · exact ⟨rfl, rfl, rfl, rfl⟩

theorem authorityAlive_sameRoute (now : TransportTime) :
    SameRoute core (core.authorityAlive now).1 := by
  unfold authorityAlive
  split
  · exact terminate_sameRoute core _
  · split
    · exact terminate_sameRoute core _
    · exact .refl core

theorem whileAlive_sameRoute (now : TransportTime)
    (update : PeerTransport → PeerTransport × Bool) :
    (SameRoute core (core.whileAlive now update).1) ∨
      ∃ alive, SameRoute core alive ∧ core.whileAlive now update = update alive := by
  unfold whileAlive
  split
  · exact .inl (.refl core)
  · have observed := observeTime_sameRoute core now
    generalize core.observeTime now = outcome at observed ⊢
    obtain ⟨observedCore, wasObserved⟩ := outcome
    dsimp only at observed ⊢
    split
    · exact .inl observed
    · have alive := observed.trans (authorityAlive_sameRoute observedCore now)
      generalize observedCore.authorityAlive now = outcome at alive ⊢
      obtain ⟨aliveCore, isAlive⟩ := outcome
      dsimp only at alive ⊢
      split
      · exact .inl alive
      · exact .inr ⟨aliveCore, alive, rfl⟩

theorem renewLease_sameRoute (renewal : RouteAuthority) (now : TransportTime) :
    SameRoute core (core.renewLease renewal now).1 := by
  unfold renewLease
  extract_lets boundRenewal
  rcases whileAlive_sameRoute core now _ with same | ⟨alive, same, isUpdate⟩
  · exact same
  · rw [isUpdate]
    dsimp only
    split
    · exact same
    · exact same.trans ⟨rfl, rfl, rfl, rfl⟩

theorem updateMode_sameRoute (update : RouteAuthority) (now : TransportTime) :
    SameRoute core (core.updateMode update now).1 ∨
      ((core.updateMode update now).1.authority = update ∧
        SameRoute core { (core.updateMode update now).1 with authority := core.authority }) := by
  unfold updateMode
  rcases whileAlive_sameRoute core now _ with same | ⟨alive, same, isUpdate⟩
  · exact .inl same
  · rw [isUpdate]
    dsimp only
    split
    · exact .inl same
    · split
      · exact .inl same
      · right
        refine ⟨rfl, rfl, ?_, ?_, ?_⟩
        all_goals
          split
          · have released := same.trans (releaseControlAuthority_sameRoute alive)
            first | exact released.path | exact released.quality | exact released.target
          · first | exact same.path | exact same.quality | exact same.target

/-! ## Quality -/

variable (scaled : Scaling)

theorem selectionFor_within {ceiling : Nat} (target : QualityTarget)
    (notDirect : core.path ≠ .direct) (positive : 0 < core.authority.relayBitrateCapBps)
    (capped : core.authority.relayBitrateCapBps ≤ ceiling)
    (aboveMinimum : minVideoBitrateBps ≤ ceiling) :
    (core.selectionFor scaled target).Within ceiling := by
  have isRelayed : (core.path == .direct) = false := by simpa using notDirect
  have bounded : max core.authority.relayBitrateCapBps minVideoBitrateBps ≤ ceiling :=
    max_le capped aboveMinimum
  unfold TransportSessionCore.selectionFor
  rw [isRelayed]
  constructor
  · exact (boundedBitrate_relayed positive rfl).trans bounded
  · exact (maxBps_relayed positive).trans bounded

/-- The route after a target: with the selection, where it is valid and the encoder takes it. -/
theorem applyQualityTarget_sameRoute (accepted : Bool) (target : QualityTarget) :
    SameRoute
      (if core.qualitySelectionIsValid (core.selectionFor scaled target) ∧ accepted then
        { core with quality := some (core.selectionFor scaled target) }
      else core)
      (core.applyQualityTarget scaled accepted target).1 := by
  unfold applyQualityTarget
  by_cases isValid : core.qualitySelectionIsValid (core.selectionFor scaled target) = true
  · cases accepted with
    | false =>
      simp only [isValid, Bool.false_eq_true, and_false, if_false, Bool.not_true]
      exact ⟨rfl, rfl, rfl, rfl⟩
    | true =>
      simp only [isValid, and_self, if_true, Bool.not_true, Bool.false_eq_true, if_false]
      exact ⟨rfl, rfl, rfl, rfl⟩
  · rw [if_neg fun taken => isValid taken.1, if_pos (by simpa using isValid)]
    exact .refl core

theorem applyQualityTarget_bound {ceiling : Nat} (accepted : Bool) (target : QualityTarget)
    (positive : 0 < core.authority.relayBitrateCapBps)
    (capped : core.authority.relayBitrateCapBps ≤ ceiling)
    (aboveMinimum : minVideoBitrateBps ≤ ceiling) (bound : core.Bound ceiling) :
    (core.applyQualityTarget scaled accepted target).1.Bound ceiling := by
  rw [(applyQualityTarget_sameRoute core scaled accepted target).bound_iff]
  split
  · intro notDirect held isHeld
    simp only [Option.mem_def, Option.some.injEq] at isHeld
    subst isHeld
    exact selectionFor_within core scaled target notDirect positive capped aboveMinimum
  · exact bound

end PeerTransport

/-! ## The admitted ceiling -/

/-- What holds of a route admitted under a ceiling, as long as no mode update raises it. -/
structure UnderCeiling (ceiling : Nat) (session : WorkerSession) : Prop where
  admitted : session.authority.relayBitrateCapBps = ceiling
  positive : 0 < session.core.authority.relayBitrateCapBps
  capped : session.core.authority.relayBitrateCapBps ≤ ceiling
  aboveMinimum : minVideoBitrateBps ≤ ceiling
  bound : session.core.Bound ceiling
  hasTarget : session.core.quality.isSome → session.core.lastQualityTarget.isSome

namespace UnderCeiling

variable {ceiling : Nat} {session : WorkerSession}

theorem of_sameRoute {core : PeerTransport} {authority : Authority}
    (under : UnderCeiling ceiling session) (same : session.core.SameRoute core)
    (sameCap : authority.relayBitrateCapBps = session.authority.relayBitrateCapBps) :
    UnderCeiling ceiling ⟨authority, core⟩ where
  admitted := sameCap.trans under.admitted
  positive := by simpa only [same.cap] using under.positive
  capped := by simpa only [same.cap] using under.capped
  aboveMinimum := under.aboveMinimum
  bound := same.bound_iff.mpr under.bound
  hasTarget := by simpa only [same.quality, same.target] using under.hasTarget

theorem renew (under : UnderCeiling ceiling session) (renewal : Authority)
    (now : TransportTime) : UnderCeiling ceiling (session.renew renewal now).1 := by
  unfold WorkerSession.renew
  extract_lets bound
  split
  · exact under
  · have same := PeerTransport.renewLease_sameRoute session.core bound.toRouteAuthority now
    generalize session.core.renewLease bound.toRouteAuthority now = outcome at same ⊢
    obtain ⟨core, renewed⟩ := outcome
    dsimp only at same ⊢
    split
    · exact under.of_sameRoute same rfl
    · exact under.of_sameRoute same rfl

theorem setMode {update : Authority} (under : UnderCeiling ceiling session)
    (keeps : update.relayBitrateCapBps ≤ ceiling) (now : TransportTime) :
    UnderCeiling ceiling (session.setMode update now).1 := by
  unfold WorkerSession.setMode
  extract_lets bound
  have boundCap : 0 < bound.relayBitrateCapBps ∧ bound.relayBitrateCapBps ≤ ceiling := by
    have admitted : 0 < session.authority.relayBitrateCapBps := by
      rw [under.admitted]
      exact lt_of_lt_of_le (by decide) under.aboveMinimum
    have isAdmitted := under.admitted
    simp only [bound, bindOmittedAuthorityFields]
    split <;> omega
  split
  · exact under
  · have updated := PeerTransport.updateMode_sameRoute session.core bound.toRouteAuthority now
    generalize session.core.updateMode bound.toRouteAuthority now = outcome at updated ⊢
    obtain ⟨core, wasUpdated⟩ := outcome
    dsimp only at updated ⊢
    have kept : ∀ authority : Authority,
        authority.relayBitrateCapBps = session.authority.relayBitrateCapBps →
          UnderCeiling ceiling ⟨authority, core⟩ := by
      intro authority sameCap
      rcases updated with same | ⟨isUpdate, same⟩
      · exact under.of_sameRoute same sameCap
      · have before := under.of_sameRoute same sameCap
        refine ⟨before.admitted, ?_, ?_, before.aboveMinimum, before.bound, before.hasTarget⟩
        · rw [isUpdate]
          exact boundCap.1
        · rw [isUpdate]
          exact boundCap.2
    split
    · exact kept _ rfl
    · exact kept _ rfl

theorem applyQualityTarget (under : UnderCeiling ceiling session) (scaled : Scaling)
    (accepted : Bool) {target : QualityTarget}
    (hasTarget : session.core.lastQualityTarget = some target) :
    UnderCeiling ceiling
      ⟨session.authority, (session.core.applyQualityTarget scaled accepted target).1⟩ := by
  have bound := PeerTransport.applyQualityTarget_bound session.core scaled accepted target
    under.positive under.capped under.aboveMinimum under.bound
  have same := session.core.applyQualityTarget_sameRoute scaled accepted target
  split at same
  · refine ⟨under.admitted, ?_, ?_, under.aboveMinimum, bound, fun _ => ?_⟩
    · simpa only [same.cap] using under.positive
    · simpa only [same.cap] using under.capped
    · simp [same.target, hasTarget]
  · exact under.of_sameRoute same rfl

theorem updateQualityTarget (under : UnderCeiling ceiling session) (scaled : Scaling)
    (accepted : Bool) (stamp : TransportCallbackStamp) (target : QualityTarget) :
    UnderCeiling ceiling
      ⟨session.authority,
        (session.core.updateQualityTarget scaled accepted stamp target).1⟩ := by
  unfold PeerTransport.updateQualityTarget
  split
  · exact under
  · have aimed : UnderCeiling ceiling
        ⟨session.authority, { session.core with lastQualityTarget := some target }⟩ :=
      ⟨under.admitted, under.positive, under.capped, under.aboveMinimum, under.bound,
        fun _ => rfl⟩
    exact aimed.applyQualityTarget scaled accepted rfl

theorem setQualityPreference (under : UnderCeiling ceiling session) (scaled : Scaling)
    (accepted : Bool) (preference : QualityPreference) :
    UnderCeiling ceiling
      ⟨session.authority,
        (session.core.setQualityPreference scaled accepted preference).1⟩ := by
  unfold PeerTransport.setQualityPreference
  split
  · exact under
  · have preferred : UnderCeiling ceiling
        ⟨session.authority,
          { session.core with viewerPreference := normalizeQualityPreference preference }⟩ :=
      under.of_sameRoute ⟨rfl, rfl, rfl, rfl⟩ rfl
    dsimp only
    split
    · exact preferred
    · rename_i target hasTarget
      have applied := preferred.applyQualityTarget scaled accepted hasTarget
      split
      · exact applied
      · exact applied.of_sameRoute ⟨rfl, rfl, rfl, rfl⟩ rfl

end UnderCeiling

/-! ## A path call -/

namespace PeerTransport

variable (core : PeerTransport) (scaled : Scaling)

theorem onTransportPath_cases (accepted : Bool) (stamp : TransportCallbackStamp)
    (path : TransportPath) (positive : 0 < core.authority.relayBitrateCapBps) :
    ((core.callbackMatches stamp = false ∨ path = .unknown) ∧
      core.SameRoute (core.onTransportPath scaled accepted stamp path).1) ∨
    (core.callbackMatches stamp = true ∧ path ≠ .unknown ∧
      (core.path = path ∨ core.lastQualityTarget = none) ∧
      SameRoute { core with path } (core.onTransportPath scaled accepted stamp path).1) ∨
    (core.callbackMatches stamp = true ∧ path ≠ .unknown ∧ core.path ≠ path ∧
      ∃ target, core.lastQualityTarget = some target ∧
        (core.onTransportPath scaled accepted stamp path).1 =
          ({ core with path }.applyQualityTarget scaled accepted target).1) := by
  unfold onTransportPath
  by_cases isCurrent : core.callbackMatches stamp = true
  · by_cases isUnknown : path = .unknown
    · left
      subst isUnknown
      rw [if_neg (by simp [isCurrent]), if_pos rfl]
      exact ⟨.inr rfl, terminate_sameRoute core _⟩
    · right
      rw [if_neg (by simp [isCurrent]), if_neg isUnknown]
      cases isTarget : core.lastQualityTarget with
      | none =>
        left
        exact ⟨isCurrent, isUnknown, .inr rfl, ⟨rfl, rfl, rfl, rfl⟩⟩
      | some target =>
        by_cases same : core.path = path
        · left
          refine ⟨isCurrent, isUnknown, .inl same, ?_⟩
          dsimp only
          rw [if_neg (by simp [same])]
          exact ⟨rfl, rfl, rfl, rfl⟩
        · right
          refine ⟨isCurrent, isUnknown, same, target, rfl, ?_⟩
          dsimp only
          rw [if_pos ⟨same, positive⟩]
  · left
    rw [if_pos (by simp [isCurrent])]
    exact ⟨.inl (by simpa using isCurrent), .refl core⟩

end PeerTransport

namespace UnderCeiling

variable {ceiling : Nat} {session : WorkerSession}

theorem bound_of_path (under : UnderCeiling ceiling session) {path : TransportPath}
    (stays : session.core.path = path ∨ session.core.lastQualityTarget = none) :
    { session.core with path }.Bound ceiling := by
  intro notDirect held isHeld
  rcases stays with samePath | noTarget
  · subst samePath
    exact under.bound notDirect held isHeld
  · have hasTarget := under.hasTarget (Option.isSome_of_mem isHeld)
    simp [noTarget] at hasTarget

theorem relayed_bound_iff (under : UnderCeiling ceiling session) (scaled : Scaling)
    (accepted : Bool) (target : QualityTarget) :
    let relayed := { session.core with path := .relay }
    (relayed.applyQualityTarget scaled accepted target).1.Bound ceiling ↔
      ((∃ held ∈ session.core.quality, ¬ held.Within ceiling) →
        relayed.qualitySelectionIsValid (relayed.selectionFor scaled target) ∧ accepted) := by
  intro relayed
  rw [(relayed.applyQualityTarget_sameRoute scaled accepted target).bound_iff]
  have notDirect : relayed.path ≠ .direct := by simp [relayed]
  split
  · rename_i taken
    constructor
    · intro _ _
      exact taken
    · intro _ _ held isHeld
      simp only [Option.mem_def, Option.some.injEq] at isHeld
      subst isHeld
      exact PeerTransport.selectionFor_within relayed scaled target notDirect
        under.positive under.capped under.aboveMinimum
  · rename_i refused
    constructor
    · intro bound ⟨held, isHeld, above⟩
      exact absurd (bound notDirect held isHeld) above
    · intro reselects _ held isHeld
      by_contra above
      exact refused (reselects ⟨held, isHeld, above⟩)

theorem onTransportPath_bound_iff (under : UnderCeiling ceiling session) (scaled : Scaling)
    (accepted : Bool) (stamp : TransportCallbackStamp) (path : TransportPath) :
    (session.core.onTransportPath scaled accepted stamp path).1.Bound ceiling ↔
      ReselectsOnLeaving scaled ceiling session (.onTransportPath accepted stamp path) := by
  rcases session.core.onTransportPath_cases scaled accepted stamp path under.positive with
    ⟨refused, same⟩ | ⟨_, _, stays, isPath⟩ | ⟨isCurrent, isKnown, changed, target, isTarget,
      isApplied⟩
  · have bound := (under.of_sameRoute same rfl).bound
    simp only [bound, true_iff]
    cases path with
    | unknown => trivial
    | direct => trivial
    | relay =>
      intro isCurrent
      rcases refused with notCurrent | isUnknown
      · simp [notCurrent] at isCurrent
      · cases isUnknown
  · rw [isPath.bound_iff]
    simp only [under.bound_of_path stays, true_iff]
    cases path with
    | unknown => trivial
    | direct => trivial
    | relay =>
      intro _ wasDirect _ target isTarget
      rcases stays with samePath | noTarget
      · simp [wasDirect] at samePath
      · simp [noTarget] at isTarget
  · rw [isApplied]
    cases path with
    | unknown => simp at isKnown
    | direct =>
      have vacuous : ({ session.core with path := .direct }.applyQualityTarget scaled accepted
          target).1.Bound ceiling := by
        rw [(PeerTransport.applyQualityTarget_sameRoute _ scaled accepted target).bound_iff]
        intro notDirect
        split at notDirect <;> simp at notDirect
      simp only [vacuous, true_iff]
      trivial
    | relay =>
      refine (under.relayed_bound_iff scaled accepted target).trans ?_
      simp only [ReselectsOnLeaving, isCurrent, isTarget, true_implies, Option.mem_def,
        Option.some.injEq, forall_eq']
      constructor
      · intro reselects _
        exact reselects
      · intro reselects ⟨held, isHeld, above⟩
        by_cases wasDirect : session.core.path = .direct
        · exact reselects wasDirect ⟨held, isHeld, above⟩
        · exact absurd (under.bound wasDirect held isHeld) above

theorem onTransportPath (under : UnderCeiling ceiling session) (scaled : Scaling)
    (accepted : Bool) (stamp : TransportCallbackStamp) (path : TransportPath)
    (bound : (session.core.onTransportPath scaled accepted stamp path).1.Bound ceiling) :
    UnderCeiling ceiling
      ⟨session.authority, (session.core.onTransportPath scaled accepted stamp path).1⟩ := by
  have onPath : ∀ {core : PeerTransport}, core.SameRoute
      (session.core.onTransportPath scaled accepted stamp path).1 →
      core.authority = session.core.authority →
      (core.quality.isSome → core.lastQualityTarget.isSome) →
      UnderCeiling ceiling
        ⟨session.authority, (session.core.onTransportPath scaled accepted stamp path).1⟩ := by
    intro core same sameAuthority hasTarget
    refine ⟨under.admitted, ?_, ?_, under.aboveMinimum, bound, ?_⟩
    · simpa only [same.cap, sameAuthority] using under.positive
    · simpa only [same.cap, sameAuthority] using under.capped
    · simpa only [same.quality, same.target] using hasTarget
  rcases session.core.onTransportPath_cases scaled accepted stamp path under.positive with
    ⟨_, same⟩ | ⟨_, _, _, isPath⟩ | ⟨_, _, _, target, isTarget, isApplied⟩
  · exact onPath same rfl under.hasTarget
  · exact onPath isPath rfl under.hasTarget
  · have same := PeerTransport.applyQualityTarget_sameRoute { session.core with path } scaled
      accepted target
    rw [← isApplied] at same
    refine onPath same ?_ ?_
    · split <;> rfl
    · intro _
      split <;> simp [isTarget]

end UnderCeiling

/-! ## Runs -/

section
variable {ceiling : Nat} {session : WorkerSession} {scaled : Scaling}

theorem withinCeiling_iff (under : UnderCeiling ceiling session) (call : TransportCall) :
    WithinCeiling scaled ceiling session call ↔
      ReselectsOnLeaving scaled ceiling session call := by
  cases call with
  | onTransportPath accepted stamp path =>
    exact under.onTransportPath_bound_iff scaled accepted stamp path
  | updateQualityTarget accepted stamp target =>
    have bound := (under.updateQualityTarget scaled accepted stamp target).bound
    constructor
    · intro _
      trivial
    · intro _
      exact bound
  | renewLease renewal now => exact Iff.rfl
  | updateMode update now => exact Iff.rfl
  | setQualityPreference accepted preference => exact Iff.rfl
  | stop reason => exact Iff.rfl

theorem UnderCeiling.step (under : UnderCeiling ceiling session) (call : TransportCall)
    (keeps : call.KeepsCeiling ceiling) (reselects : ReselectsOnLeaving scaled ceiling session call) :
    UnderCeiling ceiling (session.step scaled call) := by
  cases call with
  | renewLease renewal now => exact under.renew renewal now
  | updateMode update now => exact under.setMode keeps now
  | onTransportPath accepted stamp path =>
    exact under.onTransportPath scaled accepted stamp path
      ((under.onTransportPath_bound_iff scaled accepted stamp path).mpr reselects)
  | updateQualityTarget accepted stamp target =>
    exact under.updateQualityTarget scaled accepted stamp target
  | setQualityPreference accepted preference =>
    exact under.setQualityPreference scaled accepted preference
  | stop reason =>
    refine under.of_sameRoute ?_ rfl
    unfold PeerTransport.stop
    split
    · exact .refl _
    · exact session.core.terminate_sameRoute reason

end

theorem underCeiling_start {limits : TransportSessionLimits} {peerLimits : PeerLimits}
    {authority : Authority} {now : TransportTime} {accepted : Bool}
    (atLeast : 350000 ≤ authority.relayBitrateCapBps)
    (started : (WorkerSession.start limits peerLimits authority now accepted).2 = true) :
    UnderCeiling authority.relayBitrateCapBps
      (WorkerSession.start limits peerLimits authority now accepted).1 := by
  unfold WorkerSession.start at started ⊢
  dsimp only at started ⊢
  unfold PeerTransport.start at started ⊢
  split at started
  · cases started
  · rename_i admitted
    rw [if_neg admitted]
    cases accepted with
    | false => cases started
    | true =>
      refine ⟨rfl, ?_, le_refl _, atLeast, ?_, ?_⟩
      · exact lt_of_lt_of_le (by decide) atLeast
      · intro _ held isHeld
        cases isHeld
      · intro isHeld
        cases isHeld

/-- On a route started under a relay ceiling that no mode update raises, the ceiling binds after
every path and target call off the direct path exactly if each time the route leaves the direct
path with a selection above the ceiling, one under it is found and taken. -/
theorem relay_ceiling_binds_iff (scaled : Scaling) {limits : TransportSessionLimits}
    {peerLimits : PeerLimits} {authority : Authority} {now : TransportTime} {accepted : Bool}
    (atLeast : 350000 ≤ authority.relayBitrateCapBps)
    (started : (WorkerSession.start limits peerLimits authority now accepted).2 = true)
    {calls : List TransportCall}
    (keeps : ∀ call ∈ calls, call.KeepsCeiling authority.relayBitrateCapBps) :
    Meets (WorkerSession.step scaled) (WithinCeiling scaled authority.relayBitrateCapBps)
        (WorkerSession.start limits peerLimits authority now accepted).1 calls ↔
      Meets (WorkerSession.step scaled) (ReselectsOnLeaving scaled authority.relayBitrateCapBps)
        (WorkerSession.start limits peerLimits authority now accepted).1 calls := by
  have binds := @meets_and_iff _ _ (WorkerSession.step scaled)
    (WithinCeiling scaled authority.relayBitrateCapBps) _
    (WorkerSession.start limits peerLimits authority now accepted).1 calls keeps
  have reselects := @meets_and_iff _ _ (WorkerSession.step scaled)
    (ReselectsOnLeaving scaled authority.relayBitrateCapBps) _
    (WorkerSession.start limits peerLimits authority now accepted).1 calls keeps
  rw [← binds, ← reselects]
  refine meets_iff_meets ?_ ?_ (underCeiling_start atLeast started) calls
  · intro session call under
    rw [withinCeiling_iff under call]
  · intro session call under allowed
    exact under.step call allowed.1 allowed.2

/-! ## A route that falls back -/

/-- The rung's size scaled to a source, in exact arithmetic. -/
def exactScaling : Scaling := fun sourceWidth sourceHeight preset =>
  if sourceWidth ≤ preset.width ∧ sourceHeight ≤ preset.height then (sourceWidth, sourceHeight)
  else if preset.width * sourceHeight ≤ preset.height * sourceWidth then
    (preset.width, sourceHeight * preset.width / sourceWidth)
  else (sourceWidth * preset.height / sourceHeight, preset.height)

/-- A route admitted with two megabits for a relay. -/
def twoMegabitAuthority : Authority :=
  { requestId := [114]
    sessionId := [115]
    capability := [99]
    expiresAtMs := 3600000
    leaseExpiresAtMs := 60000
    daemonGeneration := 1
    routeGeneration := none
    mode := viewMode
    inputEpoch := 0
    relayBitrateCapBps := 2000000 }

def twoMegabitRoute : WorkerSession × Bool :=
  WorkerSession.start ⟨75000, 30000000⟩ ⟨128, 128, 256, 16384, 900000, 10000⟩ twoMegabitAuthority
    ⟨1000, 0⟩ true

/-- A viewer who asks for twelve megabits gets them on the direct path; then the route falls
back to a relay. -/
def fallingBack : List TransportCall :=
  [.onTransportPath true ⟨1, 1⟩ .direct,
    .setQualityPreference true ⟨1080, 60, 12000000, .balanced, 0⟩,
    .updateQualityTarget true ⟨1, 1⟩ ⟨12000000, ⟨1920, 1080⟩, .automatic⟩,
    .onTransportPath true ⟨1, 1⟩ .relay]

theorem fallingBack_keeps : ∀ call ∈ fallingBack, call.KeepsCeiling 2000000 := by
  simp [fallingBack, TransportCall.KeepsCeiling]

theorem relay_ceiling_binds_iff_falling_back :
    Meets (WorkerSession.step exactScaling) (WithinCeiling exactScaling 2000000)
        twoMegabitRoute.1 fallingBack ↔
      Meets (WorkerSession.step exactScaling) (ReselectsOnLeaving exactScaling 2000000)
        twoMegabitRoute.1 fallingBack := by
  have started : twoMegabitRoute.2 = true := by decide +kernel
  exact @relay_ceiling_binds_iff exactScaling _ _ _ _ _ (by decide) started _ fallingBack_keeps

/-- On the relay the encoder still runs the twelve megabits. -/
theorem falling_back_exceeds_ceiling :
    ¬ Meets (WorkerSession.step exactScaling) (WithinCeiling exactScaling 2000000)
        twoMegabitRoute.1 fallingBack := by
  intro meets
  obtain ⟨-, -, -, binds, -⟩ := meets
  have held : ⟨"1080p60", 1920, 1080, 60, 12000000, 15000000, true⟩ ∈
      (run (WorkerSession.step exactScaling) twoMegabitRoute.1 fallingBack).core.quality := by
    decide +kernel
  have relayed : (run (WorkerSession.step exactScaling) twoMegabitRoute.1 fallingBack).core.path
      ≠ .direct := by
    decide +kernel
  exact absurd (binds relayed _ held) (by decide)

end ImCodes.Remote
