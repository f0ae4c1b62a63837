import ImCodes.Upgrade.Coordinator

/-!
# What a call comes to

The calls on a coordinator, and what each can do: keep the current lifecycle, end it or make a new
one, and send one message of it at most. Everything that holds of runs is drawn from this.
-/

set_option autoImplicit false

namespace ImCodes.Upgrade

open Library

/-- What is done with a coordinator. Callbacks are run by their place among those registered. -/
inductive Operation (Channel : Type) where
  | request (input : RequestDaemonUpgradeInput Channel) (moment : Moment Channel)
  | flushPending (input : RequestDaemonUpgradeInput Channel) (moment : Moment Channel)
  | deferAfterTransientBlock (now : Int)
  | releaseSentLifecycle
  | prepareRetryAfterDaemonRestart (now : Int)
  | prepareForLatchRescueRestart (now : Int)
  | blockTargetAfterTerminalFailure (targetVersion : Option Json) (now : Int)
  | releaseTerminalBlock (targetVersion : Option Json)
  | clearIfTargetVersionMatches (targetVersion : Option String)
  | published (place : Nat) (moment : Moment Channel)

def Operation.isRequest {Channel : Type} : Operation Channel → Bool
  | .request _ _ => true
  | _ => false

namespace DaemonUpgradeCoordinator

variable {Channel : Type}

section Calls

variable [Host]

def step (coordinator : DaemonUpgradeCoordinator Channel) :
    Operation Channel → DaemonUpgradeCoordinator Channel
  | .request input moment => (coordinator.request input moment).1
  | .flushPending input moment => (coordinator.flushPending input moment).1
  | .deferAfterTransientBlock now => (coordinator.deferAfterTransientBlock now).1
  | .releaseSentLifecycle => coordinator.releaseSentLifecycle.1
  | .prepareRetryAfterDaemonRestart now => (coordinator.prepareRetryAfterDaemonRestart now).1
  | .prepareForLatchRescueRestart now => (coordinator.prepareForLatchRescueRestart now).1
  | .blockTargetAfterTerminalFailure targetVersion now =>
    (coordinator.blockTargetAfterTerminalFailure targetVersion now).1
  | .releaseTerminalBlock targetVersion => (coordinator.releaseTerminalBlock targetVersion).1
  | .clearIfTargetVersionMatches targetVersion =>
    coordinator.clearIfTargetVersionMatches targetVersion
  | .published place moment =>
    match coordinator.callbacks[place]? with
    | none => coordinator
    | some upgradeId =>
      { coordinator with callbacks := coordinator.callbacks.eraseIdx place }.resumeAfterPublication
        upgradeId moment

end Calls

/-! ## What a call does to the current lifecycle -/

/-- The lifecycle is current afterwards with this source and force, and either it is out now, by
one message, or no message was sent. -/
structure Takes (before : DaemonUpgradeCoordinator Channel) (held : UpgradeState Channel)
    (source : DaemonUpgradeSource) (force : Bool) (after : DaemonUpgradeCoordinator Channel)
    (state : UpgradeState Channel) : Prop where
  current : after.current = some state
  issued : after.uuidsIssued = before.uuidsIssued
  upgradeId : state.upgradeId = held.upgradeId
  targetVersion : state.targetVersion = held.targetVersion
  source : state.source = source
  force : state.force = force
  live : state.waiting = true ∨ state.status = .sent
  sent : after.sent = before.sent ∨ state.status = .sent ∧
    ∃ channel, after.sent = before.sent ++ [(channel, state.buildUpgradeMessage)]

variable {coordinator : DaemonUpgradeCoordinator Channel} {state : UpgradeState Channel}
  {input effective : RequestDaemonUpgradeInput Channel} {moment : Moment Channel}

theorem Takes.live_status {held : UpgradeState Channel} {source : DaemonUpgradeSource} {force : Bool}
    {after : DaemonUpgradeCoordinator Channel}
    (takes : coordinator.Takes held source force after state) : state.status ≠ .superseded := by
  rcases takes.live with waiting | sent
  · intro superseded
    simp [UpgradeState.waiting, superseded] at waiting
  · simp [sent]

theorem ensureTargetPublished_spec (coordinator : DaemonUpgradeCoordinator Channel)
    (state : UpgradeState Channel) (input : RequestDaemonUpgradeInput Channel)
    (moment : Moment Channel) :
    ∃ callbacks resume registered, coordinator.ensureTargetPublished state input moment =
        ({ coordinator with callbacks }, { state with
          publicationResumeInput := resume, publicationCallbackRegistered := registered }, none) ∨
      ∃ answer, answer.upgradeId = some state.upgradeId ∧
        coordinator.ensureTargetPublished state input moment =
        ({ coordinator with callbacks }, { state with
          publicationResumeInput := resume, publicationCallbackRegistered := registered
          status := .pendingPublication, updatedAt := moment.now }, some answer) := by
  unfold ensureTargetPublished
  dsimp only
  split
  · exact ⟨coordinator.callbacks, _, _, .inl rfl⟩
  · split
    · exact ⟨coordinator.callbacks, _, _, .inl rfl⟩
    · exact ⟨_, _, _, .inr ⟨_, rfl, rfl⟩⟩

theorem offer_takes (coordinator : DaemonUpgradeCoordinator Channel) (state : UpgradeState Channel)
    (input : RequestDaemonUpgradeInput Channel) (moment : Moment Channel) :
    ∃ after, coordinator.Takes state state.source state.force
        (coordinator.offer state input moment).1 after ∧
      (coordinator.offer state input moment).2.upgradeId = some state.upgradeId := by
  obtain ⟨callbacks, resume, registered, settled | ⟨answer, answered, waits⟩⟩ :=
    ensureTargetPublished_spec coordinator state input moment
  · unfold offer
    rw [settled]
    refine ⟨_, ⟨rfl, rfl, rfl, rfl, rfl, rfl, .inr rfl, .inr ⟨rfl, input.channel, rfl⟩⟩, rfl⟩
  · unfold offer
    rw [waits]
    exact ⟨_, ⟨rfl, rfl, rfl, rfl, rfl, rfl, .inl rfl, .inl rfl⟩, answered⟩

@[simp] theorem takeOn_upgradeId {now : Int} :
    (state.takeOn effective input now).upgradeId = state.upgradeId := by
  unfold UpgradeState.takeOn UpgradeState.applyForce
  split
  · rfl
  · split <;> rfl

@[simp] theorem takeOn_targetVersion {now : Int} :
    (state.takeOn effective input now).targetVersion = state.targetVersion := by
  unfold UpgradeState.takeOn UpgradeState.applyForce
  split
  · rfl
  · split <;> rfl

@[simp] theorem takeOn_source {now : Int} :
    (state.takeOn effective input now).source = effective.source := by
  unfold UpgradeState.takeOn UpgradeState.applyForce
  split
  · rfl
  · split <;> rfl

def forceTaken (effective input : RequestDaemonUpgradeInput Channel) (force : Bool) : Bool :=
  if input.source = .manual then input.force
  else if effective.source ≠ .manual then false
  else force

@[simp] theorem takeOn_force {now : Int} :
    (state.takeOn effective input now).force = forceTaken effective input state.force := by
  unfold UpgradeState.takeOn UpgradeState.applyForce forceTaken
  split
  · rfl
  · split <;> rfl

@[simp] theorem forceTaken_forceTaken (force : Bool) :
    forceTaken effective input (forceTaken effective input force) =
      forceTaken effective input force := by
  unfold forceTaken
  split_ifs <;> rfl

theorem proceed_takes (coordinator : DaemonUpgradeCoordinator Channel)
    (state : UpgradeState Channel) (effective input : RequestDaemonUpgradeInput Channel)
    (moment : Moment Channel) :
    ∃ after, coordinator.Takes state effective.source (forceTaken effective input state.force)
        (coordinator.proceed state effective input moment).1 after ∧
      (coordinator.proceed state effective input moment).2.upgradeId = some state.upgradeId := by
  unfold proceed
  dsimp only
  split
  · obtain ⟨after, takes, answered⟩ := offer_takes coordinator
      (state.takeOn effective input moment.now) effective moment
    refine ⟨after, ⟨takes.current, takes.issued, ?_, ?_, ?_, ?_, takes.live, takes.sent⟩, ?_⟩
    · rw [takes.upgradeId, takeOn_upgradeId]
    · rw [takes.targetVersion, takeOn_targetVersion]
    · rw [takes.source, takeOn_source]
    · rw [takes.force, takeOn_force]
    · rw [answered, takeOn_upgradeId]
  · refine ⟨_, ⟨rfl, rfl, ?_, ?_, ?_, ?_, .inl rfl, .inl rfl⟩, ?_⟩ <;> simp [UpgradeState.answer]

theorem currentFor_eq_some {targetVersion : String}
    (found : coordinator.currentFor targetVersion = some state) :
    coordinator.current = some state ∧ state.targetVersion = targetVersion := by
  simpa [currentFor, Option.filter_eq_some_iff] using found

section Host

variable [Host]

theorem requestOn_waiting {held : UpgradeState Channel} (current : coordinator.current = some held)
    (waits : held.waiting = true) (targetVersion : String) :
    ∃ after, coordinator.Takes held (effectiveInput input held).source
        (forceTaken (effectiveInput input held) input held.force)
        (coordinator.requestOn targetVersion input moment).1 after ∧
      (coordinator.requestOn targetVersion input moment).2.upgradeId = some held.upgradeId := by
  unfold requestOn
  rw [current]
  dsimp only
  split
  · split
    · obtain ⟨callbacks, resume, registered, settled | ⟨answer, answered, gated⟩⟩ :=
        ensureTargetPublished_spec coordinator
          (held.takeOn (effectiveInput input held) input moment.now) (effectiveInput input held)
          moment
      · rw [settled]
        dsimp only
        obtain ⟨after, takes, named⟩ := proceed_takes { coordinator with callbacks }
          { held.takeOn (effectiveInput input held) input moment.now with
            publicationResumeInput := resume, publicationCallbackRegistered := registered }
          (effectiveInput input held) input moment
        refine ⟨after, ⟨takes.current, takes.issued, ?_, ?_, takes.source, ?_, takes.live,
          takes.sent⟩, ?_⟩
        · rw [takes.upgradeId, takeOn_upgradeId]
        · rw [takes.targetVersion, takeOn_targetVersion]
        · rw [takes.force, takeOn_force, forceTaken_forceTaken]
        · rw [named, takeOn_upgradeId]
      · rw [gated]
        refine ⟨_, ⟨rfl, rfl, ?_, ?_, ?_, ?_, .inl rfl, .inl rfl⟩, ?_⟩ <;> simp [answered]
    · refine ⟨_, ⟨rfl, rfl, ?_, ?_, ?_, ?_, .inl rfl, .inl rfl⟩, ?_⟩ <;>
        simp [UpgradeState.answer]
  · next notGated =>
      have offline : held.status = .pendingOffline := by
        simpa [UpgradeState.waiting, notGated] using waits
      rw [if_neg (by simp [offline])]
      exact proceed_takes coordinator held (effectiveInput input held) input moment

/-- What a request comes to. -/
inductive Requested (before : DaemonUpgradeCoordinator Channel)
    (input : RequestDaemonUpgradeInput Channel) (after : DaemonUpgradeCoordinator Channel)
    (answer : RequestDaemonUpgradeResult) : Prop where
  | invalid (same : after = before) (unnamed : answer.upgradeId = none)
  | heldBack (other : input.source ≠ .manual) (same : after = before)
  | inProgress (held : UpgradeState Channel) (current : before.current = some held)
      (asked : ∃ targetVersion, normalizeDaemonUpgradeTargetVersion input.targetVersion =
        some targetVersion ∧ before.currentFor targetVersion = some held)
      (out : held.status = .sent) (equal : outranks input held = false) (same : after = before)
      (named : answer.upgradeId = some held.upgradeId)
  | resumed (held state : UpgradeState Channel) (current : before.current = some held)
      (waits : held.waiting = true)
      (takes : before.Takes held (effectiveInput input held).source
        (forceTaken (effectiveInput input held) input held.force) after state)
      (named : answer.upgradeId = some held.upgradeId)
  | created (blank state : UpgradeState Channel)
      (fresh : blank.upgradeId = Host.randomUUID before.uuidsIssued)
      (takes : Takes { before with current := none, uuidsIssued := before.uuidsIssued + 1 } blank
        input.source (forceTaken input input false) after state)
      (named : answer.upgradeId = some blank.upgradeId)

theorem requestOn_created (targetVersion : String) :
    Requested coordinator input
      (coordinator.supersedeCurrent.requestOn targetVersion input moment).1
      (coordinator.supersedeCurrent.requestOn targetVersion input moment).2 := by
  obtain ⟨after, takes, named⟩ := proceed_takes
    (coordinator.supersedeCurrent.newLifecycle targetVersion input.source .pendingOffline
      moment.now).1
    (coordinator.supersedeCurrent.newLifecycle targetVersion input.source .pendingOffline
      moment.now).2 input input moment
  exact .created _ after rfl takes named

theorem request_requested
    (live : ∀ held, coordinator.current = some held → held.status ≠ .superseded)
    (input : RequestDaemonUpgradeInput Channel) (moment : Moment Channel) :
    Requested coordinator input (coordinator.request input moment).1
      (coordinator.request input moment).2 := by
  unfold request
  split
  · exact .invalid rfl rfl
  · next targetVersion isTarget =>
      split
      · exact requestOn_created targetVersion
      · next held found =>
          have current := (currentFor_eq_some found).1
          split
          · split
            · next other => exact .heldBack other rfl
            · exact requestOn_created targetVersion
          · next unblocked =>
              split
              · exact requestOn_created targetVersion
              · next equal =>
                  by_cases waits : held.waiting = true
                  · obtain ⟨after, takes, named⟩ := @requestOn_waiting _ coordinator input moment _
                      held current waits targetVersion
                    exact .resumed held after current waits takes named
                  · have out : held.status = .sent := by
                      have notSuperseded := live held current
                      cases status : held.status <;>
                        simp_all [UpgradeState.waiting]
                    have same : coordinator.requestOn targetVersion input moment =
                        (coordinator, held.answer .alreadyInProgress) := by
                      simp [requestOn, current, out]
                    rw [same]
                    exact .inProgress held current ⟨targetVersion, isTarget, found⟩ out
                      (by simpa using equal) rfl rfl

/-! ## What a step does -/

/-- What any call but a request comes to. -/
inductive Effect (before after : DaemonUpgradeCoordinator Channel) : Prop where
  | unchanged (current : after.current = before.current)
      (issued : after.uuidsIssued = before.uuidsIssued) (unsent : after.sent = before.sent)
  | ended (current : after.current = none) (issued : after.uuidsIssued = before.uuidsIssued)
      (unsent : after.sent = before.sent)
  | changed (held state : UpgradeState Channel) (current : before.current = some held)
      (isState : after.current = some state) (issued : after.uuidsIssued = before.uuidsIssued)
      (unsent : after.sent = before.sent) (upgradeId : state.upgradeId = held.upgradeId)
      (source : state.source = held.source) (force : state.force = held.force)
      (live : held.status ≠ .superseded → state.status ≠ .superseded)
  | offered (held state : UpgradeState Channel) (current : before.current = some held)
      (waits : held.waiting = true)
      (takes : before.Takes held held.source held.force after state)
  | blocked (state : UpgradeState Channel) (isState : after.current = some state)
      (issued : after.uuidsIssued = before.uuidsIssued + 1) (unsent : after.sent = before.sent)
      (fresh : state.upgradeId = Host.randomUUID before.uuidsIssued)
      (source : state.source = .replay) (status : state.status = .terminalBlocked)

theorem Effect.pended {held : UpgradeState Channel} (current : coordinator.current = some held)
    (now : Int) : Effect coordinator { coordinator with current := some (held.pend now) } :=
  .changed held (held.pend now) current rfl rfl rfl rfl rfl rfl fun _ => by
    simp [UpgradeState.pend]

theorem Effect.same : Effect coordinator coordinator := .unchanged rfl rfl rfl

theorem resumeAfterPublication_effect (coordinator : DaemonUpgradeCoordinator Channel)
    (upgradeId : String) (moment : Moment Channel) :
    Effect coordinator (coordinator.resumeAfterPublication upgradeId moment) := by
  unfold resumeAfterPublication
  split
  · exact .same
  · next held current =>
      split
      · exact .same
      · dsimp only
        have settled : Effect coordinator { coordinator with
            current := some { held with
              publicationResumeInput := none, publicationCallbackRegistered := false } } :=
          .changed held _ current rfl rfl rfl rfl rfl rfl id
        split
        · exact settled
        · split
          · exact settled
          · split
            · exact settled
            · next input _ waits _ =>
                simp only [ne_eq, Decidable.not_not] at waits
                exact .offered held _ current (by simp [UpgradeState.waiting, waits])
                  ⟨rfl, rfl, rfl, rfl, rfl, rfl, .inr rfl, .inr ⟨rfl, input.channel, rfl⟩⟩

theorem step_effect {operation : Operation Channel} (unasked : operation.isRequest = false) :
    Effect coordinator (coordinator.step operation) := by
  cases operation with
  | request input moment => cases unasked
  | flushPending input moment =>
    unfold step flushPending
    dsimp only
    split
    · exact .same
    · next held current =>
        split
        · exact .same
        · next waits =>
            split
            · obtain ⟨after, takes, _⟩ :=
                offer_takes coordinator held (flushInput held input) moment
              exact .offered held after current (by simpa using waits) takes
            · exact .same
  | deferAfterTransientBlock now =>
    unfold step deferAfterTransientBlock
    dsimp only
    split
    · next held current =>
        split
        · exact .same
        · exact .pended current now
    · exact .same
  | releaseSentLifecycle =>
    unfold step releaseSentLifecycle
    dsimp only
    split
    · split
      · exact .ended rfl rfl rfl
      · exact .same
    · exact .same
  | prepareRetryAfterDaemonRestart now =>
    unfold step prepareRetryAfterDaemonRestart
    dsimp only
    split
    · next held current =>
        split
        · exact .pended current now
        · exact .same
    · exact .same
  | prepareForLatchRescueRestart now =>
    unfold step prepareForLatchRescueRestart
    dsimp only
    split
    · next held current =>
        split
        · exact .same
        · split
          · exact .pended current now
          · exact .same
    · exact .same
  | blockTargetAfterTerminalFailure targetVersion now =>
    unfold step blockTargetAfterTerminalFailure
    dsimp only
    split
    · exact .same
    · next normalized _ =>
        cases found : coordinator.currentFor normalized with
        | some held =>
          exact .changed held _ (currentFor_eq_some found).1 rfl rfl rfl rfl rfl rfl
            fun _ => by simp
        | none => exact .blocked _ rfl rfl rfl rfl rfl rfl
  | releaseTerminalBlock targetVersion =>
    unfold step releaseTerminalBlock
    dsimp only
    split
    · exact .same
    · split
      · split
        · exact .ended rfl rfl rfl
        · exact .same
      · exact .same
  | clearIfTargetVersionMatches targetVersion =>
    unfold step clearIfTargetVersionMatches
    dsimp only
    split
    · exact .same
    · split
      · exact .ended rfl rfl rfl
      · exact .same
  | published place moment =>
    unfold step
    dsimp only
    split
    · exact .same
    · next upgradeId _ =>
        have effect := resumeAfterPublication_effect
          { coordinator with callbacks := coordinator.callbacks.eraseIdx place } upgradeId moment
        cases effect with
        | unchanged current issued unsent => exact .unchanged current issued unsent
        | ended current issued unsent => exact .ended current issued unsent
        | changed held state current isState issued unsent id source force live =>
          exact .changed held state current isState issued unsent id source force live
        | offered held state current waits takes =>
          exact .offered held state current waits ⟨takes.current, takes.issued, takes.upgradeId,
            takes.targetVersion, takes.source, takes.force, takes.live, takes.sent⟩
        | blocked state isState issued unsent fresh source status =>
          exact .blocked state isState issued unsent fresh source status

/-! ## The current lifecycle in a run -/

/-- The current lifecycle is not a superseded one, and its id has been drawn. -/
structure Valid (coordinator : DaemonUpgradeCoordinator Channel) : Prop where
  live : ∀ held, coordinator.current = some held → held.status ≠ .superseded
  drawn : ∀ held, coordinator.current = some held →
    ∃ index < coordinator.uuidsIssued, held.upgradeId = Host.randomUUID index

/-- A step keeps the current lifecycle, or ends it, or has a new one; it sends one message at
most, and of the lifecycle that is current then, which has been waiting or is new. -/
structure Stepped (before after : DaemonUpgradeCoordinator Channel) : Prop where
  issued : before.uuidsIssued ≤ after.uuidsIssued
  current : ∀ state, after.current = some state → state.status ≠ .superseded ∧
    ((∃ held, before.current = some held ∧ state.upgradeId = held.upgradeId) ∨
      state.upgradeId = Host.randomUUID before.uuidsIssued ∧
        before.uuidsIssued < after.uuidsIssued)
  sent : after.sent = before.sent ∨ ∃ state channel, after.current = some state ∧
    state.status = .sent ∧ after.sent = before.sent ++ [(channel, state.buildUpgradeMessage)] ∧
    ∀ held, before.current = some held → held.upgradeId = state.upgradeId → held.waiting = true

theorem Takes.stepped {held : UpgradeState Channel} {source : DaemonUpgradeSource} {force : Bool}
    {after : DaemonUpgradeCoordinator Channel}
    (takes : coordinator.Takes held source force after state)
    (current : coordinator.current = some held) (waits : held.waiting = true) :
    Stepped coordinator after where
  issued := Nat.le_of_eq takes.issued.symm
  current other isState := by
    rw [takes.current] at isState
    cases isState
    exact ⟨takes.live_status, .inl ⟨held, current, takes.upgradeId⟩⟩
  sent := by
    rcases takes.sent with nothing | ⟨out, channel, message⟩
    · exact .inl nothing
    · refine .inr ⟨state, channel, takes.current, out, message, fun other isHeld _ => ?_⟩
      rw [current] at isHeld
      cases isHeld
      exact waits

theorem Stepped.refl {after : DaemonUpgradeCoordinator Channel} (valid : coordinator.Valid)
    (current : after.current = coordinator.current)
    (issued : after.uuidsIssued = coordinator.uuidsIssued) (unsent : after.sent = coordinator.sent) :
    Stepped coordinator after where
  issued := Nat.le_of_eq issued.symm
  current state held := ⟨valid.live state (current ▸ held), .inl ⟨state, current ▸ held, rfl⟩⟩
  sent := .inl unsent

theorem Effect.stepped {after : DaemonUpgradeCoordinator Channel}
    (effect : Effect coordinator after) (valid : coordinator.Valid) : Stepped coordinator after := by
  cases effect with
  | unchanged current issued unsent => exact .refl valid current issued unsent
  | ended current issued unsent =>
    refine ⟨Nat.le_of_eq issued.symm, fun state isState => ?_, .inl unsent⟩
    rw [current] at isState
    cases isState
  | changed held state current isState issued unsent upgradeId _ _ live =>
    refine ⟨Nat.le_of_eq issued.symm, fun other isOther => ?_, .inl unsent⟩
    rw [isState] at isOther
    cases isOther
    exact ⟨live (valid.live held current), .inl ⟨held, current, upgradeId⟩⟩
  | offered held state current waits takes => exact takes.stepped current waits
  | blocked state isState issued unsent fresh _ status =>
    refine ⟨?_, fun other isOther => ?_, .inl unsent⟩
    · rw [issued]
      exact Nat.le_succ _
    · rw [isState] at isOther
      cases isOther
      rw [issued]
      exact ⟨by simp [status], .inr ⟨fresh, Nat.lt_succ_self _⟩⟩

theorem Requested.stepped {after : DaemonUpgradeCoordinator Channel}
    {answer : RequestDaemonUpgradeResult} (requested : Requested coordinator input after answer)
    (valid : coordinator.Valid) : Stepped coordinator after := by
  have unchanged : after = coordinator → Stepped coordinator after := by
    intro same
    subst same
    exact .refl valid rfl rfl rfl
  cases requested with
  | invalid same _ => exact unchanged same
  | heldBack _ same => exact unchanged same
  | inProgress _ _ _ _ _ same _ => exact unchanged same
  | resumed held state current waits takes _ => exact takes.stepped current waits
  | created blank state fresh takes _ =>
    have unknown : ∀ held, coordinator.current = some held →
        held.upgradeId ≠ state.upgradeId := by
      intro held current same
      obtain ⟨index, below, drawn⟩ := valid.drawn held current
      rw [drawn, takes.upgradeId, fresh] at same
      exact absurd (Host.randomUUID_injective same) (Nat.ne_of_lt below)
    refine ⟨?_, fun other isState => ?_, ?_⟩
    · rw [takes.issued]
      exact Nat.le_succ _
    · rw [takes.current] at isState
      cases isState
      rw [takes.issued]
      exact ⟨takes.live_status, .inr ⟨takes.upgradeId.trans fresh, Nat.lt_succ_self _⟩⟩
    · rcases takes.sent with nothing | ⟨out, channel, message⟩
      · exact .inl nothing
      · exact .inr ⟨state, channel, takes.current, out, message,
          fun held current same => absurd same (unknown held current)⟩

theorem step_stepped (valid : coordinator.Valid) (operation : Operation Channel) :
    Stepped coordinator (coordinator.step operation) := by
  cases asked : operation.isRequest with
  | false => exact (step_effect asked).stepped valid
  | true =>
    cases operation with
    | request input moment => exact (request_requested valid.live input moment).stepped valid
    | _ => cases asked

theorem Stepped.valid {before after : DaemonUpgradeCoordinator Channel}
    (stepped : Stepped before after) (valid : before.Valid) : after.Valid where
  live state current := (stepped.current state current).1
  drawn state current := by
    rcases (stepped.current state current).2 with ⟨held, isHeld, same⟩ | ⟨fresh, below⟩
    · obtain ⟨index, drawn, isDrawn⟩ := valid.drawn held isHeld
      exact ⟨index, Nat.lt_of_lt_of_le drawn stepped.issued, same.trans isDrawn⟩
    · exact ⟨_, below, fresh⟩

theorem valid_initial : Valid (initial : DaemonUpgradeCoordinator Channel) where
  live held current := by cases current
  drawn held current := by cases current

theorem valid_run {coordinator : DaemonUpgradeCoordinator Channel} (valid : coordinator.Valid)
    (operations : List (Operation Channel)) : (run step coordinator operations).Valid := by
  induction operations generalizing coordinator with
  | nil => exact valid
  | cons operation rest ih => exact ih ((step_stepped valid operation).valid valid)

end Host

end DaemonUpgradeCoordinator

end ImCodes.Upgrade
