import ImCodes.Upgrade.Effects
import Mathlib.Data.List.Induction

/-!
# What the coordinator sends

An upgrade message restarts the user's daemon. In every run, with the callbacks of the gate in any
order, a blocked target and an ended lifecycle get none, and a lifecycle gets one each time it has
waited. Whether the message is forced follows the operator's latest request, but for a request
made while a forced one is out.
-/

set_option autoImplicit false

namespace ImCodes.Upgrade

open Library

namespace DaemonUpgradeCoordinator

variable {Channel : Type} {before after coordinator : DaemonUpgradeCoordinator Channel}

def messagesSince (before after : DaemonUpgradeCoordinator Channel) : List DaemonUpgradeMessage :=
  (after.sent.drop before.sent.length).map (·.2)

theorem messagesSince_of_sent {extra : List (Channel × DaemonUpgradeMessage)}
    (sent : after.sent = before.sent ++ extra) : messagesSince before after = extra.map (·.2) := by
  rw [messagesSince, sent, List.drop_left]

theorem messagesSince_self : messagesSince coordinator coordinator = [] := by
  simp [messagesSince]

theorem currentFor_of_current {held : UpgradeState Channel}
    (current : coordinator.current = some held) (targetVersion : String) :
    coordinator.currentFor targetVersion =
      if held.targetVersion = targetVersion then some held else none := by
  simp [currentFor, current, Option.filter_some]

def latestForce (requests : List (String × Bool)) (upgradeId : String) : Option Bool :=
  ((requests.filter fun request => request.1 = upgradeId).getLast?).map (·.2)

theorem latestForce_append {requests : List (String × Bool)} {upgradeId : String} {force : Bool} :
    latestForce (requests ++ [(upgradeId, force)]) upgradeId = some force := by
  simp [latestForce]

section Host

variable [Host]

theorem Stepped.messages (stepped : Stepped before after) :
    messagesSince before after = [] ∨ ∃ state, after.current = some state ∧ state.status = .sent ∧
      messagesSince before after = [state.buildUpgradeMessage] ∧
      ∀ held, before.current = some held → held.upgradeId = state.upgradeId →
        held.waiting = true := by
  rcases stepped.sent with nothing | ⟨state, channel, current, out, message, waits⟩
  · left
    rw [messagesSince, nothing, List.drop_length, List.map_nil]
  · exact .inr ⟨state, current, out, messagesSince_of_sent message, waits⟩

theorem run_sent (valid : coordinator.Valid) (operations : List (Operation Channel)) :
    ∃ extra, (run step coordinator operations).sent = coordinator.sent ++ extra := by
  induction operations generalizing coordinator with
  | nil => exact ⟨[], (List.append_nil _).symm⟩
  | cons operation rest ih =>
    have stepped := step_stepped valid operation
    obtain ⟨later, more⟩ := ih (stepped.valid valid)
    rcases stepped.sent with nothing | ⟨state, channel, _, _, message, _⟩
    · exact ⟨later, by rw [run_cons, more, nothing]⟩
    · exact ⟨(channel, state.buildUpgradeMessage) :: later, by
        rw [run_cons, more, message, List.append_assoc, List.singleton_append]⟩

theorem messagesSince_cons (valid : coordinator.Valid) (operation : Operation Channel)
    (rest : List (Operation Channel)) :
    messagesSince coordinator (run step coordinator (operation :: rest)) =
      messagesSince coordinator (coordinator.step operation) ++
        messagesSince (coordinator.step operation) (run step (coordinator.step operation) rest) := by
  obtain ⟨first, one⟩ := run_sent valid [operation]
  rw [run_cons, run_nil] at one
  obtain ⟨later, more⟩ := run_sent ((step_stepped valid operation).valid valid) rest
  rw [messagesSince_of_sent one, messagesSince_of_sent more, ← List.map_append]
  refine messagesSince_of_sent ?_
  rw [run_cons, more, one, List.append_assoc]

theorem messages_of_run {keeps : DaemonUpgradeCoordinator Channel → Prop}
    {allowed : DaemonUpgradeCoordinator Channel → Operation Channel → Prop}
    {good : DaemonUpgradeMessage → Prop}
    (preserved : ∀ coordinator operation, Valid coordinator → keeps coordinator →
      allowed coordinator operation → keeps (coordinator.step operation) ∧
        ∀ message ∈ messagesSince coordinator (coordinator.step operation), good message)
    {operations : List (Operation Channel)} (valid : coordinator.Valid)
    (start : keeps coordinator) (meets : Meets step allowed coordinator operations) :
    ∀ message ∈ messagesSince coordinator (run step coordinator operations), good message := by
  induction operations generalizing coordinator with
  | nil =>
    intro message member
    rw [run_nil, messagesSince_self] at member
    cases member
  | cons operation rest ih =>
    intro message member
    obtain ⟨kept, sound⟩ := preserved coordinator operation valid start meets.1
    rw [messagesSince_cons valid, List.mem_append] at member
    rcases member with first | later
    · exact sound message first
    · exact ih ((step_stepped valid operation).valid valid) kept meets.2 message later

/-! ## Blocked targets -/

/-- What ends the block of a target: a manual request for it, its release or clearing, or a
request or block for another target. -/
def Unblocks (targetVersion : String) : Operation Channel → Prop
  | .request input _ => ∃ asked, normalizeDaemonUpgradeTargetVersion input.targetVersion =
      some asked ∧ (asked = targetVersion → input.source = .manual)
  | .blockTargetAfterTerminalFailure other _ => ∃ asked,
      normalizeDaemonUpgradeTargetVersion other = some asked ∧ asked ≠ targetVersion
  | .releaseTerminalBlock other => normalizeDaemonUpgradeTargetVersion other = some targetVersion
  | .clearIfTargetVersionMatches other => ((truthy other).bind fun text =>
    normalizeDaemonUpgradeTargetVersion (some (.str text))) = some targetVersion
  | _ => False

def BlockedOn (targetVersion : String) (coordinator : DaemonUpgradeCoordinator Channel) : Prop :=
  ∃ held, coordinator.current = some held ∧ held.targetVersion = targetVersion ∧
    held.status = .terminalBlocked

theorem blockedOn_step {targetVersion : String} (blocked : BlockedOn targetVersion coordinator)
    {operation : Operation Channel} (keeps : ¬Unblocks targetVersion operation) :
    BlockedOn targetVersion (coordinator.step operation) ∧
      (coordinator.step operation).sent = coordinator.sent := by
  obtain ⟨held, current, isTarget, status⟩ := blocked
  have found := currentFor_of_current current
  cases operation with
  | request input moment =>
    have same : coordinator.step (.request input moment) = coordinator := by
      unfold step request
      dsimp only
      split
      · rfl
      · next asked isAsked =>
          have isSame : asked = targetVersion := by
            by_contra other
            exact keeps ⟨asked, isAsked, fun isTarget => absurd isTarget other⟩
          have other : input.source ≠ .manual := fun manual =>
            keeps ⟨asked, isAsked, fun _ => manual⟩
          rw [found, if_pos (isTarget.trans isSame.symm)]
          simp [status, other]
    rw [same]
    exact ⟨⟨held, current, isTarget, status⟩, rfl⟩
  | flushPending input moment =>
    simp [step, flushPending, current, status, UpgradeState.waiting, BlockedOn, isTarget]
  | deferAfterTransientBlock now =>
    simp [step, deferAfterTransientBlock, current, status, BlockedOn, isTarget]
  | releaseSentLifecycle =>
    simp [step, releaseSentLifecycle, current, status, BlockedOn, isTarget]
  | prepareRetryAfterDaemonRestart now =>
    simp [step, prepareRetryAfterDaemonRestart, current, status, BlockedOn, isTarget]
  | prepareForLatchRescueRestart now =>
    simp [step, prepareForLatchRescueRestart, current, status, BlockedOn, isTarget]
  | blockTargetAfterTerminalFailure other now =>
    unfold step blockTargetAfterTerminalFailure
    dsimp only
    split
    · exact ⟨⟨held, current, isTarget, status⟩, rfl⟩
    · next asked isAsked =>
        have isSame : asked = targetVersion := by
          by_contra different
          exact keeps ⟨asked, isAsked, different⟩
        rw [found, if_pos (isTarget.trans isSame.symm)]
        exact ⟨⟨_, rfl, isTarget, rfl⟩, rfl⟩
  | releaseTerminalBlock other | clearIfTargetVersionMatches other =>
    simp only [step, releaseTerminalBlock, clearIfTargetVersionMatches]
    split
    · exact ⟨⟨held, current, isTarget, status⟩, rfl⟩
    · next asked isAsked =>
        have different : held.targetVersion ≠ asked := by
          rintro rfl
          exact keeps (isAsked.trans (congrArg some isTarget))
        rw [found, if_neg different]
        exact ⟨⟨held, current, isTarget, status⟩, rfl⟩
  | published place moment =>
    unfold step resumeAfterPublication
    dsimp only
    split
    · exact ⟨⟨held, current, isTarget, status⟩, rfl⟩
    · rw [current]
      dsimp only
      split
      · exact ⟨⟨held, rfl, isTarget, status⟩, rfl⟩
      · split
        · exact ⟨⟨_, rfl, isTarget, status⟩, rfl⟩
        · rw [if_pos (by simp [status])]
          exact ⟨⟨_, rfl, isTarget, status⟩, rfl⟩

theorem blockedOn_blocked {normalized : String} {targetVersion : Option Json}
    (isTarget : normalizeDaemonUpgradeTargetVersion targetVersion = some normalized) (now : Int) :
    BlockedOn normalized (coordinator.step (.blockTargetAfterTerminalFailure targetVersion now)) := by
  unfold step blockTargetAfterTerminalFailure
  dsimp only
  rw [isTarget]
  dsimp only
  cases found : coordinator.currentFor normalized with
  | some held => exact ⟨_, rfl, (currentFor_eq_some found).2, rfl⟩
  | none => exact ⟨_, rfl, rfl, rfl⟩

/-! ## Ended lifecycles -/

def Gone (upgradeId : String) (coordinator : DaemonUpgradeCoordinator Channel) : Prop :=
  (∃ index < coordinator.uuidsIssued, upgradeId = Host.randomUUID index) ∧
    ∀ state, coordinator.current = some state → state.upgradeId ≠ upgradeId

/-- The step supersedes or clears the lifecycle. -/
structure Ends (upgradeId : String) (before after : DaemonUpgradeCoordinator Channel) : Prop where
  was : ∃ held, before.current = some held ∧ held.upgradeId = upgradeId
  gone : ∀ state, after.current = some state → state.upgradeId ≠ upgradeId

theorem Ends.gone_after {upgradeId : String} (ends : Ends upgradeId before after)
    (valid : before.Valid) (stepped : Stepped before after) : Gone upgradeId after := by
  obtain ⟨held, current, isId⟩ := ends.was
  obtain ⟨index, below, drawn⟩ := valid.drawn held current
  exact ⟨⟨index, Nat.lt_of_lt_of_le below stepped.issued, isId ▸ drawn⟩, ends.gone⟩

theorem Stepped.other_messages {upgradeId : String} (stepped : Stepped before after)
    (gone : ∀ state, after.current = some state → state.upgradeId ≠ upgradeId) :
    ∀ message ∈ messagesSince before after, message.upgradeId ≠ upgradeId := by
  intro message member
  rcases stepped.messages with nothing | ⟨state, current, _, one, _⟩
  · rw [nothing] at member
    cases member
  · rw [one] at member
    cases List.mem_singleton.mp member
    exact gone state current

theorem Gone.step {upgradeId : String} (gone : Gone upgradeId before)
    (stepped : Stepped before after) : Gone upgradeId after := by
  obtain ⟨⟨index, below, drawn⟩, elsewhere⟩ := gone
  refine ⟨⟨index, Nat.lt_of_lt_of_le below stepped.issued, drawn⟩, fun state current => ?_⟩
  rcases (stepped.current state current).2 with ⟨held, isHeld, same⟩ | ⟨fresh, _⟩
  · exact same ▸ elsewhere held isHeld
  · rw [fresh, drawn]
    exact fun same => absurd (Host.randomUUID_injective same) (Nat.ne_of_gt below)

/-! ## One message for each wait -/

/-- The step has the lifecycle wait again. -/
structure WaitsAgain (upgradeId : String) (before after : DaemonUpgradeCoordinator Channel) :
    Prop where
  was : ∃ held, before.current = some held ∧ held.upgradeId = upgradeId ∧ held.waiting = false
  waits : ∃ state, after.current = some state ∧ state.upgradeId = upgradeId ∧ state.waiting = true

def Settled (upgradeId : String) (coordinator : DaemonUpgradeCoordinator Channel) : Prop :=
  (∃ index < coordinator.uuidsIssued, upgradeId = Host.randomUUID index) ∧
    ∀ state, coordinator.current = some state → state.upgradeId = upgradeId → state.waiting = false

theorem Settled.step {upgradeId : String} (settled : Settled upgradeId before)
    (stepped : Stepped before after) (rests : ¬WaitsAgain upgradeId before after) :
    Settled upgradeId after ∧
      ∀ message ∈ messagesSince before after, message.upgradeId ≠ upgradeId := by
  obtain ⟨⟨index, below, drawn⟩, still⟩ := settled
  have known : ∀ state, after.current = some state → state.upgradeId = upgradeId →
      ∃ held, before.current = some held ∧ held.upgradeId = upgradeId := by
    intro state current isId
    rcases (stepped.current state current).2 with ⟨held, isHeld, same⟩ | ⟨fresh, _⟩
    · exact ⟨held, isHeld, same.symm.trans isId⟩
    · rw [← isId, fresh] at drawn
      exact absurd (Host.randomUUID_injective drawn) (Nat.ne_of_gt below)
  refine ⟨⟨⟨index, Nat.lt_of_lt_of_le below stepped.issued, drawn⟩, fun state current isId => ?_⟩,
    fun message member => ?_⟩
  · obtain ⟨held, isHeld, same⟩ := known state current isId
    rw [← Bool.not_eq_true]
    exact fun waits => rests ⟨⟨held, isHeld, same, still held isHeld same⟩,
      ⟨state, current, isId, waits⟩⟩
  · rcases stepped.messages with nothing | ⟨state, current, _, one, waited⟩
    · rw [nothing] at member
      cases member
    · rw [one] at member
      cases List.mem_singleton.mp member
      intro isId
      obtain ⟨held, isHeld, same⟩ := known state current isId
      have waits := waited held isHeld (same.trans isId.symm)
      rw [still held isHeld same] at waits
      cases waits

theorem countP_messages_le {upgradeId : String} {operations : List (Operation Channel)}
    (valid : coordinator.Valid)
    (rests : Meets step (fun coordinator operation =>
      ¬WaitsAgain upgradeId coordinator (coordinator.step operation)) coordinator operations) :
    (messagesSince coordinator (run step coordinator operations)).countP
      (fun message => message.upgradeId = upgradeId) ≤ 1 := by
  induction operations generalizing coordinator with
  | nil => simp [messagesSince_self]
  | cons operation rest ih =>
    have stepped := step_stepped valid operation
    have later := ih (stepped.valid valid) rests.2
    rw [messagesSince_cons valid, List.countP_append]
    by_cases one : (messagesSince coordinator (coordinator.step operation)).countP
        (fun message => message.upgradeId = upgradeId) = 0
    · omega
    · rcases stepped.messages with nothing | ⟨state, current, out, message, _⟩
      · simp [nothing] at one
      · have isId : state.upgradeId = upgradeId := by
          by_contra other
          apply one
          rw [message]
          simp [UpgradeState.buildUpgradeMessage, other]
        obtain ⟨index, below, drawn⟩ := (stepped.valid valid).drawn state current
        have settled : Settled upgradeId (coordinator.step operation) := by
          refine ⟨⟨index, below, isId ▸ drawn⟩, fun other isOther _ => ?_⟩
          rw [current] at isOther
          cases isOther
          simp [UpgradeState.waiting, out]
        have none_ : (messagesSince (coordinator.step operation)
            (run step (coordinator.step operation) rest)).countP
              (fun message => message.upgradeId = upgradeId) = 0 := by
          refine List.countP_eq_zero.mpr fun other member => ?_
          have sound := messages_of_run (fun coordinator operation valid settled rests =>
            Settled.step settled (step_stepped valid operation) rests) (stepped.valid valid)
            settled rests.2 other member
          simpa using sound
        rw [none_, message, Nat.add_zero]
        exact List.countP_le_length

/-! ## Force -/

/-- The lifecycle a manual request was answered with, and whether the request was forced. -/
def manualRequest (coordinator : DaemonUpgradeCoordinator Channel) :
    Operation Channel → Option (String × Bool)
  | .request input moment =>
    if input.source = .manual then
      (coordinator.request input moment).2.upgradeId.map fun upgradeId => (upgradeId, input.force)
    else none
  | _ => none

def manualRequests (coordinator : DaemonUpgradeCoordinator Channel) :
    List (Operation Channel) → List (String × Bool)
  | [] => []
  | operation :: rest =>
    (coordinator.manualRequest operation).toList ++
      (coordinator.step operation).manualRequests rest

/-- A manual request without force that finds a forced one of its target sent. -/
def Unforces (coordinator : DaemonUpgradeCoordinator Channel) : Operation Channel → Prop
  | .request input _ => input.source = .manual ∧ input.force = false ∧
      ∃ targetVersion, normalizeDaemonUpgradeTargetVersion input.targetVersion =
        some targetVersion ∧ ∃ held, coordinator.currentFor targetVersion = some held ∧
          held.status = .sent ∧ held.source = .manual ∧ held.force = true
  | _ => False

def FollowsRequests (requests : List (String × Bool))
    (coordinator : DaemonUpgradeCoordinator Channel) : Prop :=
  ∀ state, coordinator.current = some state → state.source = .manual →
    latestForce requests state.upgradeId = some state.force

theorem manual_step {operation : Operation Channel} (valid : coordinator.Valid)
    (follows : ¬coordinator.Unforces operation) {state : UpgradeState Channel}
    (current : (coordinator.step operation).current = some state) (manual : state.source = .manual) :
    coordinator.manualRequest operation = some (state.upgradeId, state.force) ∨
      coordinator.manualRequest operation = none ∧ ∃ held, coordinator.current = some held ∧
        held.upgradeId = state.upgradeId ∧ held.source = .manual ∧ held.force = state.force := by
  cases asked : operation.isRequest with
  | false =>
    have unasked : coordinator.manualRequest operation = none := by
      cases operation with
      | request input moment => cases asked
      | _ => rfl
    refine .inr ⟨unasked, ?_⟩
    cases step_effect asked with
    | unchanged same _ _ => exact ⟨state, same ▸ current, rfl, manual, rfl⟩
    | ended none_ _ _ =>
      rw [none_] at current
      cases current
    | changed held other isHeld isOther _ _ upgradeId source force _ =>
      rw [isOther] at current
      cases current
      exact ⟨held, isHeld, upgradeId.symm, source ▸ manual, force.symm⟩
    | offered held other isHeld _ takes =>
      rw [takes.current] at current
      cases current
      exact ⟨held, isHeld, takes.upgradeId.symm, takes.source ▸ manual, takes.force.symm⟩
    | blocked other isOther _ _ _ source _ =>
      rw [isOther] at current
      cases current
      rw [source] at manual
      cases manual
  | true =>
    cases operation with
    | request input moment =>
      change (coordinator.request input moment).1.current = some state at current
      have named : ∀ {upgradeId : String} {force : Bool},
          (coordinator.request input moment).2.upgradeId = some upgradeId →
          input.source = .manual → input.force = force →
          coordinator.manualRequest (.request input moment) = some (upgradeId, force) := by
        intro upgradeId force answered isManual isForce
        simp [manualRequest, isManual, answered, isForce]
      have unnamed : input.source ≠ .manual →
          coordinator.manualRequest (.request input moment) = none := by
        intro other
        simp [manualRequest, other]
      cases request_requested valid.live input moment with
      | invalid same answered =>
        refine .inr ⟨?_, state, same ▸ current, rfl, manual, rfl⟩
        simp [manualRequest, answered]
      | heldBack other same =>
        exact .inr ⟨unnamed other, state, same ▸ current, rfl, manual, rfl⟩
      | inProgress held isHeld isAsked out equal same answered =>
        have isState : coordinator.current = some state := same ▸ current
        by_cases isManual : input.source = .manual
        · rw [isHeld] at isState
          cases isState
          refine .inl (named answered isManual ?_)
          obtain ⟨targetVersion, isTarget, found⟩ := isAsked
          have forced : input.force = false → state.force = false := by
            intro unforced
            rw [← Bool.not_eq_true]
            exact fun force => follows ⟨isManual, unforced, targetVersion, isTarget, state,
              found, out, manual, force⟩
          simp only [outranks, isManual, out, manual, decide_true, Bool.true_and, ne_eq,
            not_true, decide_false, Bool.false_or] at equal
          cases isForced : input.force with
          | true => simpa [isForced] using equal.symm
          | false => exact (forced isForced).symm
        · exact .inr ⟨unnamed isManual, state, isState, rfl, manual, rfl⟩
      | resumed held other isHeld _ takes answered =>
        rw [takes.current] at current
        cases current
        by_cases isManual : input.source = .manual
        · refine .inl (named (answered.trans (congrArg some takes.upgradeId.symm)) isManual ?_)
          rw [takes.force, forceTaken, if_pos isManual]
        · refine .inr ⟨unnamed isManual, held, isHeld, takes.upgradeId.symm, ?_⟩
          have effective := takes.source.symm.trans manual
          have wasManual : held.source = .manual := by
            by_contra other
            rw [effectiveInput, if_neg fun both => other both.1] at effective
            exact isManual effective
          refine ⟨wasManual, ?_⟩
          rw [takes.force, forceTaken, if_neg isManual, if_neg (by simp [effective])]
      | created blank other fresh takes answered =>
        rw [takes.current] at current
        cases current
        have isManual : input.source = .manual := takes.source ▸ manual
        refine .inl (named (answered.trans (congrArg some takes.upgradeId.symm)) isManual ?_)
        rw [takes.force, forceTaken, if_pos isManual]
    | _ => cases asked

theorem manualRequests_append (coordinator : DaemonUpgradeCoordinator Channel)
    (first second : List (Operation Channel)) :
    coordinator.manualRequests (first ++ second) =
      coordinator.manualRequests first ++
        (run step coordinator first).manualRequests second := by
  induction first generalizing coordinator with
  | nil => rfl
  | cons operation rest ih =>
    simp only [List.cons_append, manualRequests, ih, run_cons, List.append_assoc]

theorem FollowsRequests.step {requests : List (String × Bool)} {operation : Operation Channel}
    (follows : FollowsRequests requests coordinator) (valid : coordinator.Valid)
    (keeps : ¬coordinator.Unforces operation) :
    FollowsRequests (requests ++ (coordinator.manualRequest operation).toList)
      (coordinator.step operation) := by
  intro state current manual
  rcases manual_step valid keeps current manual with
    asked | ⟨unasked, held, isHeld, same, wasManual, force⟩
  · rw [asked, Option.toList_some]
    exact latestForce_append
  · rw [unasked, Option.toList_none, List.append_nil, ← same, ← force]
    exact follows held isHeld wasManual

theorem followsRequests_run {operations : List (Operation Channel)}
    (keeps : Meets step (fun coordinator operation => ¬coordinator.Unforces operation) initial
      operations) :
    FollowsRequests (initial.manualRequests operations)
      (run step (initial : DaemonUpgradeCoordinator Channel) operations) := by
  induction operations using List.reverseRecOn with
  | nil => exact fun state current => by cases current
  | append_singleton before operation ih =>
    obtain ⟨earlier, last⟩ := meets_append.mp keeps
    have follows := (ih earlier).step (valid_run valid_initial before) last.1
    rw [manualRequests_append, run_append]
    simpa [manualRequests] using follows

/-! ## The promises of a run -/

/-- What the coordinator is relied on for in a run. -/
structure SendsRightly (operations : List (Operation Channel)) : Prop where
  /-- A blocked target gets no message until something ends the block. -/
  blocked : ∀ before targetVersion now middle rest normalized,
    operations = before ++ .blockTargetAfterTerminalFailure targetVersion now :: middle ++ rest →
    normalizeDaemonUpgradeTargetVersion targetVersion = some normalized →
    (∀ operation ∈ middle, ¬Unblocks normalized operation) →
    ∀ message ∈ messagesSince
      (run step initial (before ++ [.blockTargetAfterTerminalFailure targetVersion now]))
      (run step initial (before ++ .blockTargetAfterTerminalFailure targetVersion now :: middle)),
      message.target ≠ normalized
  /-- A lifecycle that was superseded or cleared gets no message. -/
  ended : ∀ before operation rest upgradeId, operations = before ++ operation :: rest →
    Ends upgradeId (run step initial before) (run step initial (before ++ [operation])) →
    ∀ message ∈ messagesSince (run step initial before) (run step initial operations),
      message.upgradeId ≠ upgradeId
  /-- A lifecycle that does not return to waiting gets one message at most. -/
  once : ∀ before middle rest upgradeId, operations = before ++ middle ++ rest →
    Meets step (fun coordinator operation =>
      ¬WaitsAgain upgradeId coordinator (coordinator.step operation)) (run step initial before)
      middle →
    (messagesSince (run step initial before) (run step initial (before ++ middle))).countP
      (fun message => message.upgradeId = upgradeId) ≤ 1
  /-- A message is forced only if the latest manual request of its lifecycle was. -/
  forced : ∀ before operation rest, operations = before ++ operation :: rest →
    ∀ message ∈ messagesSince (run step initial before) (run step initial (before ++ [operation])),
      message.force = true →
      latestForce (initial.manualRequests (before ++ [operation])) message.upgradeId = some true

/-- In every run in which no unforced manual request finds a forced one sent, the coordinator
sends rightly. -/
theorem sendsRightly_run {operations : List (Operation Channel)}
    (keeps : Meets step (fun coordinator operation => ¬coordinator.Unforces operation) initial
      operations) : SendsRightly operations where
  blocked before targetVersion now middle rest normalized _ isTarget none_ := by
    have valid : Valid (run step (initial : DaemonUpgradeCoordinator Channel)
        (before ++ [.blockTargetAfterTerminalFailure targetVersion now])) :=
      valid_run valid_initial _
    have blocked : BlockedOn normalized (run step (initial : DaemonUpgradeCoordinator Channel)
        (before ++ [.blockTargetAfterTerminalFailure targetVersion now])) := by
      rw [run_append]
      exact blockedOn_blocked isTarget now
    have whole : run step (initial : DaemonUpgradeCoordinator Channel)
        (before ++ .blockTargetAfterTerminalFailure targetVersion now :: middle) =
        run step (run step initial
          (before ++ [.blockTargetAfterTerminalFailure targetVersion now])) middle := by
      rw [← run_append, List.append_assoc, List.singleton_append]
    rw [whole]
    have unended : Meets step (fun _ operation => ¬Unblocks normalized operation ∧ True) (run step
        (initial : DaemonUpgradeCoordinator Channel)
        (before ++ [.blockTargetAfterTerminalFailure targetVersion now])) middle :=
      (meets_and_iff none_).mpr (meets_of_forall (fun _ _ => trivial) _ _)
    refine messages_of_run (fun coordinator operation valid blocked keeps => ?_) valid blocked
      unended
    obtain ⟨stays, unsent⟩ := blockedOn_step blocked keeps.1
    refine ⟨stays, fun message member => ?_⟩
    rw [messagesSince, unsent, List.drop_length] at member
    cases member
  ended before operation rest upgradeId isRun ends := by
    have valid : Valid (run step (initial : DaemonUpgradeCoordinator Channel) before) :=
      valid_run valid_initial before
    have stepped := step_stepped valid operation
    rw [run_append] at ends
    change Ends upgradeId _ ((run step initial before).step operation) at ends
    rw [isRun, run_append, messagesSince_cons valid]
    intro message member
    rcases List.mem_append.mp member with first | later
    · exact stepped.other_messages ends.gone message first
    · exact messages_of_run (fun coordinator operation valid gone _ =>
        ⟨gone.step (step_stepped valid operation),
          (step_stepped valid operation).other_messages (gone.step (step_stepped valid operation)).2⟩)
        (stepped.valid valid) (ends.gone_after valid stepped)
        (meets_of_forall (fun _ _ => trivial) _ _) message later
  once before middle rest upgradeId _ rests := by
    rw [run_append]
    exact countP_messages_le (valid_run valid_initial before) rests
  forced before operation rest isRun message member force := by
    have valid : Valid (run step (initial : DaemonUpgradeCoordinator Channel) before) :=
      valid_run valid_initial before
    have upTo : Meets step (fun coordinator operation => ¬coordinator.Unforces operation) initial
        (before ++ [operation]) := by
      rw [isRun, List.append_cons] at keeps
      exact (meets_append.mp keeps).1
    have follows := followsRequests_run upTo
    rw [run_append] at member follows
    rcases (step_stepped valid operation).messages with nothing | ⟨state, current, _, one, _⟩
    · rw [run_cons, run_nil, nothing] at member
      cases member
    · rw [run_cons, run_nil, one] at member
      cases List.mem_singleton.mp member
      simp only [UpgradeState.buildUpgradeMessage, Bool.and_eq_true, decide_eq_true_eq] at force
      rw [← force.2]
      exact follows state current force.1

end Host

section FixedRuns

open Library.FixedRuns

/-- The operator's request over a ready channel, which needs no publication. -/
def operatorRequest (force : Bool) : RequestDaemonUpgradeInput Unit where
  targetVersion := some (.str "2026.9.1")
  source := .manual
  force
  skipPublicationGate := true
  channel := ()

def readyMoment : Moment Unit where
  isDaemonReady _ := true
  isStillCurrent _ := true
  publication _ := .available
  now := 1

def deferredRequests : List (Operation Unit) :=
  [.request (operatorRequest true) readyMoment, .request (operatorRequest false) readyMoment,
    .deferAfterTransientBlock 2]

/-- The message that goes out then is forced. -/
theorem unforced_request_sent_forced :
    ¬∀ operations : List (Operation Unit), SendsRightly operations := by
  intro sendsRightly
  have forced := (sendsRightly (deferredRequests ++
    [.flushPending (operatorRequest false) readyMoment])).forced deferredRequests _ [] rfl
      ⟨Host.randomUUID 0, .manual, true, some "2026.9.1"⟩ (by decide +kernel) rfl
  exact absurd forced (by decide +kernel)

/-- Without the unforced request in between, the forced message is right. -/
theorem sendsRightly_run_forced :
    SendsRightly [.request (operatorRequest true) readyMoment, .deferAfterTransientBlock 2,
      .flushPending (operatorRequest false) readyMoment] := by
  refine sendsRightly_run ⟨fun unforces => ?_, id, id, trivial⟩
  cases unforces.2.1

end FixedRuns

end DaemonUpgradeCoordinator

end ImCodes.Upgrade
