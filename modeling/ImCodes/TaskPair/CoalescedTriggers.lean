import ImCodes.Library.Answers
import ImCodes.Library.Dictionary
import ImCodes.Library.Run
import Mathlib.Data.List.Perm.Basic
import Mathlib.Algebra.GroupWithZero.Nat

/-!
# Triggers of the scheduler

A reconciliation of the suspended pairs is shared: a call that finds one under way marks it to go
round once more. The queue of a Brain is run by one pass at a time: a call that finds one under way
waits for it, and then looks again. A pass makes calls of its own, also while it takes its first
steps, before its promise is stored.
-/

set_option autoImplicit false

namespace ImCodes.TaskPair

open Library

/-- `${project}\u0000${brain}`. -/
def queueKey (project brain : String) : String :=
  project ++ String.singleton (Char.ofNat 0) ++ brain

/-- What is called, in order; a call that starts a pass of a queue is followed, before its promise is
stored, by the calls of the first steps of the pass. -/
inductive Trigger
  | reconcileSuspensions
  | runQueue (project brain : String) (meanwhile : List Trigger)

inductive TriggerEvent
  | reconcileSuspensionsCalled
  | suspensionPassStarted
  | runQueueCalled (key : String)
  | queuePassStarted (key : String)
deriving DecidableEq

/-- How far the promise of a reconciliation is: not begun, in a pass, or past its last check. -/
inductive SuspensionRefresh
  | scheduled
  | passing
  | finishing
deriving DecidableEq

/-- A call of `runQueue` that awaits a run. -/
structure QueueWaiter where
  project : String
  brain : String
  run : Nat
  /-- Whether the run has been fulfilled. -/
  released : Bool
  /-- How many events there were with its call, for the record. -/
  calledAt : Nat
deriving DecidableEq

def QueueWaiter.key (waiter : QueueWaiter) : String := queueKey waiter.project waiter.brain

structure SchedulerTriggers where
  /-- Whether the timer is set. -/
  timer : Bool
  suspensionStopped : Bool
  suspensionRefresh : Option SuspensionRefresh
  suspensionRefreshAgain : Bool
  /-- The run that is stored under a key. -/
  queueRuns : Dictionary String Nat
  /-- The runs that are not settled, each with its key. -/
  running : Dictionary Nat String
  /-- How many runs there have been. -/
  runs : Nat
  waiting : List QueueWaiter
  /-- What happened, for the record. -/
  events : List TriggerEvent

namespace SchedulerTriggers

def initial : SchedulerTriggers where
  timer := false
  suspensionStopped := false
  suspensionRefresh := none
  suspensionRefreshAgain := false
  queueRuns := Table.empty
  running := Table.empty
  runs := 0
  waiting := []
  events := []

def record (event : TriggerEvent) (state : SchedulerTriggers) : SchedulerTriggers :=
  { state with events := state.events ++ [event] }

def reconcileSuspensions (state : SchedulerTriggers) : SchedulerTriggers :=
  if state.suspensionStopped then state
  else
    let called := state.record .reconcileSuspensionsCalled
    match called.suspensionRefresh with
    | some _ => { called with suspensionRefreshAgain := true }
    | none => { called with suspensionRefresh := some .scheduled }

/-- A call of `runQueue` that finds a run under its key. -/
def awaitRun (project brain : String) (run : Nat) (state : SchedulerTriggers) :
    SchedulerTriggers :=
  { state with
    waiting := state.waiting ++ [⟨project, brain, run, false, state.events.length⟩] }

/-- `#runQueueOnce` begins, and what it calls before its promise is stored comes next. -/
def beginRun (key : String) (state : SchedulerTriggers) : SchedulerTriggers :=
  { state.record (.queuePassStarted key) with
    running := state.running.put state.runs key
    runs := state.runs + 1 }

def storeRun (key : String) (run : Nat) (state : SchedulerTriggers) : SchedulerTriggers :=
  { state with queueRuns := state.queueRuns.put key run }

mutual

def fire : Trigger → SchedulerTriggers → SchedulerTriggers
  | .reconcileSuspensions, state => state.reconcileSuspensions
  | .runQueue project brain meanwhile, state =>
    let key := queueKey project brain
    let called := state.record (.runQueueCalled key)
    match called.queueRuns.get? key with
    | some run => called.awaitRun project brain run
    | none => (fireAll meanwhile (called.beginRun key)).storeRun key called.runs

def fireAll : List Trigger → SchedulerTriggers → SchedulerTriggers
  | [], state => state
  | trigger :: rest, state => fireAll rest (fire trigger state)

end

/-- `run` of a reconciliation, from the head of its loop. -/
def beginSuspensionPass (meanwhile : List Trigger) (state : SchedulerTriggers) :
    SchedulerTriggers :=
  fireAll meanwhile
    { state.record .suspensionPassStarted with
      suspensionRefresh := some .passing
      suspensionRefreshAgain := false }

/-- The pass is over: the loop goes round again, or the promise is only to be cleared. -/
def suspensionPassEnds (succeeded : Bool) (meanwhile : List Trigger) (state : SchedulerTriggers) :
    SchedulerTriggers :=
  if succeeded && state.suspensionRefreshAgain && !state.suspensionStopped then
    state.beginSuspensionPass meanwhile
  else { state with suspensionRefresh := some .finishing }

/-- A run settles and its key is deleted; those that await it go on, or throw. -/
def queueRunSettles (run : Nat) (succeeded : Bool) (state : SchedulerTriggers) :
    SchedulerTriggers :=
  match state.running.get? run with
  | none => state
  | some key =>
    { state with
      queueRuns := state.queueRuns.erase key
      running := state.running.erase run
      waiting :=
        if succeeded then
          state.waiting.map fun waiter =>
            if waiter.run = run then { waiter with released := true } else waiter
        else state.waiting.filter fun waiter => waiter.run ≠ run }

/-- A call whose run is fulfilled looks whether there is another one. -/
def queueWaiterResumes (index : Nat) (meanwhile : List Trigger) (state : SchedulerTriggers) :
    SchedulerTriggers :=
  match state.waiting[index]? with
  | none => state
  | some waiter =>
    if waiter.released then
      let resumed := { state with waiting := state.waiting.eraseIdx index }
      if (resumed.queueRuns.get? waiter.key).isSome then resumed
      else resumed.fire (.runQueue waiter.project waiter.brain meanwhile)
    else state

/-- `start`, with the sweep of the queues up to where it awaits. -/
def start (state : SchedulerTriggers) : SchedulerTriggers :=
  if state.timer then state
  else
    let started := { state with
      timer := true
      suspensionStopped := false }
    started.reconcileSuspensions.reconcileSuspensions

def stop (state : SchedulerTriggers) : SchedulerTriggers :=
  { state with
    suspensionStopped := true
    timer := false }

end SchedulerTriggers

inductive TriggerAction
  | trigger (trigger : Trigger)
  | start
  | stop
  | suspensionRunBegins (meanwhile : List Trigger)
  | suspensionPassEnds (succeeded : Bool) (meanwhile : List Trigger)
  | suspensionRefreshCleared
  | queueRunSettles (run : Nat) (succeeded : Bool)
  | queueWaiterResumes (index : Nat) (meanwhile : List Trigger)

namespace SchedulerTriggers

def step (state : SchedulerTriggers) : TriggerAction → SchedulerTriggers
  | .trigger trigger => state.fire trigger
  | .start => state.start
  | .stop => state.stop
  | .suspensionRunBegins meanwhile =>
    if state.suspensionRefresh = some .scheduled then state.beginSuspensionPass meanwhile
    else state
  | .suspensionPassEnds succeeded meanwhile =>
    if state.suspensionRefresh = some .passing then state.suspensionPassEnds succeeded meanwhile
    else state
  | .suspensionRefreshCleared =>
    if state.suspensionRefresh = some .finishing then { state with suspensionRefresh := none }
    else state
  | .queueRunSettles run succeeded => state.queueRunSettles run succeeded
  | .queueWaiterResumes index meanwhile => state.queueWaiterResumes index meanwhile

end SchedulerTriggers

/-! ## Coalesced triggers

A call that finds a pass under way starts none, and relies on one to follow. It is lost where a
reconciliation is past its last check and not cleared yet, where a pass fails that is to be followed
by another, and where the automation is stopped before it. In a run with none of these every call
has a pass that starts after it.
-/

mutual

def Trigger.reconciles : Trigger → Bool
  | .reconcileSuspensions => true
  | .runQueue _ _ meanwhile => Trigger.anyReconciles meanwhile

def Trigger.anyReconciles : List Trigger → Bool
  | [] => false
  | trigger :: rest => trigger.reconciles || Trigger.anyReconciles rest

end

namespace SchedulerTriggers

/-! ## What is waited for -/

def SuspensionPassAwaited (state : SchedulerTriggers) : Prop :=
  state.suspensionRefresh = some .scheduled ∨
    (state.suspensionRefresh = some .passing ∧ state.suspensionRefreshAgain = true)

/-- A call of `runQueue` with its place in the record waits. -/
def Waits (state : SchedulerTriggers) (key : String) (place : Nat) : Prop :=
  ∃ waiter ∈ state.waiting, waiter.key = key ∧ waiter.calledAt = place + 1

/-- Each call has a pass after it, or it is waited for one. -/
structure Kept (state : SchedulerTriggers) : Prop where
  suspensions : AnsweredOr (fun _ => state.SuspensionPassAwaited) .reconcileSuspensionsCalled
    .suspensionPassStarted state.events
  queues : ∀ key, AnsweredOr (state.Waits key) (.runQueueCalled key) (.queuePassStarted key)
    state.events
  unreleased : ∀ waiter ∈ state.waiting, waiter.released = false →
    state.running.get? waiter.run = some waiter.key
  released : ∀ waiter ∈ state.waiting, waiter.released = true →
    (state.queueRuns.get? waiter.key).isSome →
      .queuePassStarted waiter.key ∈ state.events.drop waiter.calledAt
  called : ∀ waiter ∈ state.waiting, waiter.calledAt ≤ state.events.length
  stored : ∀ key run, state.queueRuns.get? key = some run → state.running.get? run = some key
  fresh : ∀ run key, state.running.get? run = some key → run < state.runs

theorem initial_kept : initial.Kept where
  suspensions := answeredOr_nil
  queues _ := answeredOr_nil
  unreleased := by simp [initial]
  released := by simp [initial]
  called := by simp [initial]
  stored := by simp [initial]
  fresh := by simp [initial]

/-! ## Calls -/

/-- What a call may change of a state. -/
structure Fired (before after : SchedulerTriggers) : Prop where
  events : ∃ more, after.events = before.events ++ more
  waiting : ∀ waiter ∈ after.waiting, waiter ∈ before.waiting ∨ waiter.released = false
  stopped : after.suspensionStopped = before.suspensionStopped
  finishing : after.suspensionRefresh = some .finishing →
    before.suspensionRefresh = some .finishing
  running : ∀ run key, before.running.get? run = some key → after.running.get? run = some key

theorem Fired.refl (state : SchedulerTriggers) : Fired state state :=
  ⟨⟨[], (List.append_nil _).symm⟩, fun _ member => Or.inl member, rfl, id, fun _ _ => id⟩

theorem Fired.trans {first second third : SchedulerTriggers} (earlier : Fired first second)
    (later : Fired second third) : Fired first third := by
  obtain ⟨more, isMore⟩ := earlier.events
  obtain ⟨others, isOthers⟩ := later.events
  constructor
  · exact ⟨more ++ others, by rw [isOthers, isMore, List.append_assoc]⟩
  · intro waiter member
    rcases later.waiting waiter member with isSecond | unreleased
    · exact earlier.waiting waiter isSecond
    · exact Or.inr unreleased
  · exact later.stopped.trans earlier.stopped
  · exact fun finishing => earlier.finishing (later.finishing finishing)
  · exact fun run key found => later.running run key (earlier.running run key found)

def Admits (state : SchedulerTriggers) (reconciles : Bool) : Prop :=
  state.suspensionRefresh = some .finishing → state.suspensionStopped = false → reconciles = false

theorem Admits.fired {before after : SchedulerTriggers} {reconciles : Bool}
    (admits : Admits before reconciles) (fired : Fired before after) : Admits after reconciles :=
  fun finishing running => admits (fired.finishing finishing) (fired.stopped ▸ running)

private theorem mem_drop_append {Item : Type} {items more : List Item} {item : Item} {place : Nat}
    (member : item ∈ items.drop place) : item ∈ (items ++ more).drop place := by
  rw [List.drop_append]
  exact List.mem_append_left _ member

private theorem mem_drop_of_le {Item : Type} {items more : List Item} {item : Item} {place : Nat}
    (isLater : place ≤ items.length) (member : item ∈ more) : item ∈ (items ++ more).drop place := by
  rw [List.drop_append_of_le_length isLater]
  exact List.mem_append_right _ member

private theorem drop_after {Item : Type} (earlier later : List Item) (item : Item) :
    (earlier ++ item :: later).drop (earlier.length + 1) = later := by
  rw [List.drop_append, List.drop_of_length_le (Nat.le_succ _)]
  simp

theorem reconcileSuspensions_fired (state : SchedulerTriggers) :
    Fired state state.reconcileSuspensions := by
  unfold reconcileSuspensions
  split
  · exact Fired.refl state
  · dsimp only
    split
    · next phase found =>
        exact ⟨⟨_, rfl⟩, fun _ member => Or.inl member, rfl, id, fun _ _ => id⟩
    · exact ⟨⟨_, rfl⟩, fun _ member => Or.inl member, rfl, by simp, fun _ _ => id⟩

private theorem ne_of_split {Event : Type} {event other : Event} {before after : List Event}
    (split : [event] = before ++ other :: after) : other = event := by
  have member : other ∈ [event] := by
    rw [split]
    simp
  exact List.mem_singleton.mp member

private theorem Kept.ofReconciliation {state after : SchedulerTriggers} (kept : state.Kept)
    (events : after.events = state.events ++ [.reconcileSuspensionsCalled])
    (queueRuns : after.queueRuns = state.queueRuns) (running : after.running = state.running)
    (runs : after.runs = state.runs) (waiting : after.waiting = state.waiting)
    (awaited : after.SuspensionPassAwaited) : after.Kept := by
  constructor
  · rw [events]
    exact kept.suspensions.append (fun _ _ => Or.inr awaited) (fun _ _ _ => Or.inr awaited)
  · intro key
    rw [events]
    apply (kept.queues key).append
    · intro place waits
      unfold Waits
      rw [waiting]
      exact Or.inr waits
    · intro before later split
      cases ne_of_split split
  · rw [waiting, running]
    exact kept.unreleased
  · rw [waiting, queueRuns, events]
    intro waiter member isReleased stored
    exact mem_drop_append (kept.released waiter member isReleased stored)
  · rw [waiting, events]
    intro waiter member
    rw [List.length_append]
    exact Nat.le_trans (kept.called waiter member) (Nat.le_add_right _ _)
  · rw [queueRuns, running]
    exact kept.stored
  · rw [running, runs]
    exact kept.fresh

theorem Kept.reconcileSuspensions {state : SchedulerTriggers} (kept : state.Kept)
    (admits : Admits state true) : state.reconcileSuspensions.Kept := by
  unfold SchedulerTriggers.reconcileSuspensions
  cases stopped : state.suspensionStopped with
  | true => exact kept
  | false =>
    cases phase : state.suspensionRefresh with
    | none =>
      simp only [Bool.false_eq_true, if_false, record, phase]
      exact kept.ofReconciliation rfl rfl rfl rfl rfl (Or.inl rfl)
    | some current =>
      simp only [Bool.false_eq_true, if_false, record, phase]
      refine kept.ofReconciliation rfl rfl rfl rfl rfl ?_
      cases current with
      | scheduled => exact Or.inl rfl
      | passing => exact Or.inr ⟨rfl, rfl⟩
      | finishing => cases admits phase stopped

private theorem Kept.awaitRun {state : SchedulerTriggers} (kept : state.Kept)
    {project brain : String} {run : Nat}
    (stored : state.queueRuns.get? (queueKey project brain) = some run) :
    ((state.record (.runQueueCalled (queueKey project brain))).awaitRun project brain run).Kept := by
  constructor
  · apply kept.suspensions.append
    · exact fun _ awaited => Or.inr awaited
    · intro before later split
      cases ne_of_split split
  · intro key
    apply (kept.queues key).append
    · rintro place ⟨waiter, member, isWaiter⟩
      exact Or.inr ⟨waiter, List.mem_append_left _ member, isWaiter⟩
    · intro before later split
      have isKey : key = queueKey project brain := by
        cases ne_of_split split
        rfl
      subst isKey
      have noneBefore : before = [] := by
        cases before with
        | nil => rfl
        | cons first rest => simp at split
      right
      refine ⟨_, List.mem_append_right _ List.mem_cons_self, rfl, ?_⟩
      simp [record, noneBefore]
  · intro waiter member unreleased
    rcases List.mem_append.mp member with earlier | isNew
    · exact kept.unreleased waiter earlier unreleased
    · cases List.mem_singleton.mp isNew
      exact kept.stored _ _ stored
  · intro waiter member isReleased isStored
    rcases List.mem_append.mp member with earlier | isNew
    · exact mem_drop_append (kept.released waiter earlier isReleased isStored)
    · cases List.mem_singleton.mp isNew
      cases isReleased
  · intro waiter member
    rcases List.mem_append.mp member with earlier | isNew
    · exact Nat.le_trans (kept.called waiter earlier) (by simp [record, SchedulerTriggers.awaitRun])
    · cases List.mem_singleton.mp isNew
      exact Nat.le_refl _
  · exact kept.stored
  · exact kept.fresh

private theorem begun_events (state : SchedulerTriggers) (key : String) :
    ((state.record (.runQueueCalled key)).beginRun key).events =
      state.events ++ [.runQueueCalled key, .queuePassStarted key] := by
  simp [beginRun, record]

private theorem Kept.beginRun {state : SchedulerTriggers} (kept : state.Kept) (key : String) :
    ((state.record (.runQueueCalled key)).beginRun key).Kept := by
  have isNew : state.running.get? state.runs = none := by
    cases found : state.running.get? state.runs with
    | none => rfl
    | some other => exact absurd (kept.fresh _ _ found) (Nat.lt_irrefl _)
  have events := begun_events state key
  have running : ∀ run other, state.running.get? run = some other →
      (state.running.put state.runs key).get? run = some other := by
    intro run other found
    rw [Dictionary.get?_put, if_neg]
    · exact found
    · rintro rfl
      rw [isNew] at found
      cases found
  constructor
  · rw [events]
    apply kept.suspensions.append
    · exact fun _ awaited => Or.inr awaited
    · intro before later split
      have member : TriggerEvent.reconcileSuspensionsCalled ∈
          [TriggerEvent.runQueueCalled key, .queuePassStarted key] := by
        rw [split]
        simp
      simp at member
  · intro other
    rw [events]
    apply (kept.queues other).append
    · exact fun _ waits => Or.inr waits
    · intro before later split
      cases before with
      | nil =>
        obtain ⟨isCall, isLater⟩ := List.cons.inj split
        cases isCall
        rw [← isLater]
        exact Or.inl List.mem_cons_self
      | cons first rest => cases ne_of_split (List.cons.inj split).2
  · intro waiter member unreleased
    exact running _ _ (kept.unreleased waiter member unreleased)
  · intro waiter member isReleased isStored
    rw [events]
    exact mem_drop_append (kept.released waiter member isReleased isStored)
  · intro waiter member
    rw [events, List.length_append]
    exact Nat.le_trans (kept.called waiter member) (Nat.le_add_right _ _)
  · intro other run found
    exact running _ _ (kept.stored other run found)
  · intro run other found
    change (state.running.put state.runs key).get? run = some other at found
    change run < state.runs + 1
    rw [Dictionary.get?_put] at found
    split at found
    · omega
    · exact Nat.lt_succ_of_lt (kept.fresh run other found)

private theorem Kept.storeRun {begun state : SchedulerTriggers} (kept : state.Kept)
    (fired : Fired begun state) {key : String} {run : Nat}
    (running : begun.running.get? run = some key)
    (started : ∀ waiter ∈ begun.waiting, .queuePassStarted key ∈ begun.events.drop waiter.calledAt) :
    (state.storeRun key run).Kept := by
  constructor
  · exact kept.suspensions
  · exact kept.queues
  · exact kept.unreleased
  · intro waiter member isReleased isStored
    change (Dictionary.get? (state.queueRuns.put key run) waiter.key).isSome at isStored
    rw [Dictionary.get?_put] at isStored
    split at isStored
    · next isKey =>
        rcases fired.waiting waiter member with earlier | unreleased
        · obtain ⟨more, events⟩ := fired.events
          change .queuePassStarted waiter.key ∈ state.events.drop waiter.calledAt
          rw [events, ← isKey]
          exact mem_drop_append (started waiter earlier)
        · rw [isReleased] at unreleased
          cases unreleased
    · exact kept.released waiter member isReleased isStored
  · exact kept.called
  · intro other stored found
    change Dictionary.get? (state.queueRuns.put key run) other = some stored at found
    rw [Dictionary.get?_put] at found
    split at found
    · next isKey =>
        cases found
        subst isKey
        exact fired.running _ _ running
    · exact kept.stored other stored found
  · exact kept.fresh

private theorem beginRun_fired {state : SchedulerTriggers} (kept : state.Kept) (key : String) :
    Fired state ((state.record (.runQueueCalled key)).beginRun key) := by
  constructor
  · exact ⟨[.runQueueCalled key, .queuePassStarted key], by simp [beginRun, record]⟩
  · exact fun _ member => Or.inl member
  · rfl
  · exact id
  · intro run other found
    change (state.running.put state.runs key).get? run = some other
    rw [Dictionary.get?_put, if_neg]
    · exact found
    · rintro rfl
      exact Nat.lt_irrefl _ (kept.fresh _ _ found)

private theorem storeRun_fired (state : SchedulerTriggers) (key : String) (run : Nat) :
    Fired state (state.storeRun key run) :=
  ⟨⟨[], (List.append_nil _).symm⟩, fun _ member => Or.inl member, rfl, id, fun _ _ => id⟩

private theorem awaitRun_fired (state : SchedulerTriggers) (project brain : String) (run : Nat) :
    Fired state
      ((state.record (.runQueueCalled (queueKey project brain))).awaitRun project brain run) := by
  constructor
  · exact ⟨_, rfl⟩
  · intro waiter member
    rcases List.mem_append.mp member with earlier | isNew
    · exact Or.inl earlier
    · cases List.mem_singleton.mp isNew
      exact Or.inr rfl
  · rfl
  · exact id
  · exact fun _ _ => id

mutual

theorem fire_kept : ∀ (trigger : Trigger) {state : SchedulerTriggers}, state.Kept →
    Admits state trigger.reconciles →
    (fire trigger state).Kept ∧ Fired state (fire trigger state)
  | .reconcileSuspensions, state, kept, admits =>
    ⟨kept.reconcileSuspensions admits, reconcileSuspensions_fired state⟩
  | .runQueue project brain meanwhile, state, kept, admits => by
    simp only [fire]
    cases found : (state.record (.runQueueCalled (queueKey project brain))).queueRuns.get?
        (queueKey project brain) with
    | some run => exact ⟨kept.awaitRun found, awaitRun_fired state project brain run⟩
    | none =>
      have begins := kept.beginRun (queueKey project brain)
      have begun := beginRun_fired kept (queueKey project brain)
      obtain ⟨later, fired⟩ := fireAll_kept meanwhile begins (admits.fired begun)
      refine ⟨later.storeRun fired ?_ ?_, (begun.trans fired).trans (storeRun_fired _ _ _)⟩
      · change (state.running.put state.runs _).get? state.runs = some _
        rw [Dictionary.get?_put, if_pos rfl]
      · intro waiter member
        rw [begun_events]
        exact mem_drop_of_le (kept.called waiter member) (by simp)

theorem fireAll_kept : ∀ (triggers : List Trigger) {state : SchedulerTriggers}, state.Kept →
    Admits state (Trigger.anyReconciles triggers) →
    (fireAll triggers state).Kept ∧ Fired state (fireAll triggers state)
  | [], state, kept, _ => ⟨kept, Fired.refl state⟩
  | trigger :: rest, state, kept, admits => by
    have first : Admits state trigger.reconciles := by
      intro finishing running
      exact (Bool.or_eq_false_iff.mp (admits finishing running)).1
    have others : Admits state (Trigger.anyReconciles rest) := by
      intro finishing running
      exact (Bool.or_eq_false_iff.mp (admits finishing running)).2
    obtain ⟨keptFirst, fired⟩ := fire_kept trigger kept first
    obtain ⟨keptRest, firedRest⟩ := fireAll_kept rest keptFirst (others.fired fired)
    exact ⟨keptRest, fired.trans firedRest⟩

end

/-! ## Steps -/

/-- Where a step loses no call: none reconciles past the last check of a reconciliation, and no
pass fails, or ends after `stop`, that is to be followed by another. -/
def Allowed (state : SchedulerTriggers) : TriggerAction → Prop
  | .trigger trigger => Admits state trigger.reconciles
  | .start => state.timer = false → state.suspensionRefresh ≠ some .finishing
  | .suspensionPassEnds succeeded _ => state.suspensionRefresh = some .passing →
      succeeded = false ∨ state.suspensionStopped = true → state.suspensionRefreshAgain = false
  | .queueRunSettles run succeeded => succeeded = false →
      ∀ waiter ∈ state.waiting, waiter.run = run →
        .queuePassStarted waiter.key ∈ state.events.drop waiter.calledAt
  | .queueWaiterResumes _ meanwhile => Admits state (Trigger.anyReconciles meanwhile)
  | .stop | .suspensionRunBegins _ | .suspensionRefreshCleared => True

instance (state : SchedulerTriggers) (action : TriggerAction) : Decidable (Allowed state action) := by
  cases action <;> unfold Allowed <;> try unfold Admits
  all_goals infer_instance

private theorem Kept.beginSuspensionPass {state : SchedulerTriggers} (kept : state.Kept)
    (meanwhile : List Trigger) : (state.beginSuspensionPass meanwhile).Kept := by
  have begun : SchedulerTriggers.Kept
      { state.record .suspensionPassStarted with
        suspensionRefresh := some .passing
        suspensionRefreshAgain := false } := by
    constructor
    · apply kept.suspensions.append
      · exact fun _ _ => Or.inl List.mem_cons_self
      · intro before later split
        cases ne_of_split split
    · intro key
      apply (kept.queues key).append
      · exact fun _ waits => Or.inr waits
      · intro before later split
        cases ne_of_split split
    · exact kept.unreleased
    · exact fun waiter member isReleased isStored =>
        mem_drop_append (kept.released waiter member isReleased isStored)
    · intro waiter member
      exact Nat.le_trans (kept.called waiter member) (by simp [record])
    · exact kept.stored
    · exact kept.fresh
  have admits : Admits
      { state.record .suspensionPassStarted with
        suspensionRefresh := some .passing
        suspensionRefreshAgain := false } (Trigger.anyReconciles meanwhile) := by
    intro finishing
    cases finishing
  exact (fireAll_kept meanwhile begun admits).1

private theorem Kept.phase {state : SchedulerTriggers} (kept : state.Kept)
    (notAwaited : ¬ state.SuspensionPassAwaited) (phase : Option SuspensionRefresh) :
    Kept { state with suspensionRefresh := phase } := by
  have answered := kept.suspensions.answered fun _ => notAwaited
  exact ⟨fun earlier later split => Or.inl (answered earlier later split), kept.queues,
    kept.unreleased, kept.released, kept.called, kept.stored, kept.fresh⟩

private theorem Kept.suspensionPassEnds {state : SchedulerTriggers} (kept : state.Kept)
    {succeeded : Bool} {meanwhile : List Trigger}
    (passing : state.suspensionRefresh = some .passing)
    (allowed : Allowed state (.suspensionPassEnds succeeded meanwhile)) :
    (state.suspensionPassEnds succeeded meanwhile).Kept := by
  unfold SchedulerTriggers.suspensionPassEnds
  split
  · exact kept.beginSuspensionPass meanwhile
  · next ends =>
      apply kept.phase
      have noMore : state.suspensionRefreshAgain = false := by
        cases again : state.suspensionRefreshAgain with
        | false => rfl
        | true =>
          have lost : succeeded = false ∨ state.suspensionStopped = true := by
            cases succeeded <;> cases stopped : state.suspensionStopped <;>
              simp [again, stopped] at ends ⊢
          rw [allowed passing lost] at again
          cases again
      rintro (scheduled | ⟨-, again⟩)
      · rw [passing] at scheduled
        cases scheduled
      · rw [noMore] at again
        cases again

private theorem Kept.queueRunSettles {state : SchedulerTriggers} (kept : state.Kept) {run : Nat}
    {succeeded : Bool} (allowed : Allowed state (.queueRunSettles run succeeded)) :
    (state.queueRunSettles run succeeded).Kept := by
  unfold SchedulerTriggers.queueRunSettles
  split
  · exact kept
  · next key found =>
      -- The waiters that are left, and those of them that the run releases.
      have origin : ∀ waiter ∈ (if succeeded then
            state.waiting.map fun waiter =>
              if waiter.run = run then { waiter with released := true } else waiter
          else state.waiting.filter fun waiter => waiter.run ≠ run),
          ∃ earlier ∈ state.waiting, waiter.key = earlier.key ∧ waiter.run = earlier.run ∧
            waiter.calledAt = earlier.calledAt ∧
              ((waiter.run = run ∧ waiter.released = true) ∨
                (waiter.run ≠ run ∧ waiter.released = earlier.released)) := by
        intro waiter member
        split at member
        · obtain ⟨earlier, isEarlier, rfl⟩ := List.mem_map.mp member
          refine ⟨earlier, isEarlier, ?_⟩
          by_cases own : earlier.run = run
          · simp [own, QueueWaiter.key]
          · simp [own]
        · obtain ⟨isEarlier, other⟩ := List.mem_filter.mp member
          exact ⟨waiter, isEarlier, rfl, rfl, rfl, Or.inr ⟨by simpa using other, rfl⟩⟩
      constructor
      · exact kept.suspensions
      · intro other
        apply (kept.queues other).mono
        rintro earlier later split ⟨waiter, member, isKey, isPlace⟩
        by_cases fails : succeeded = false ∧ waiter.run = run
        · left
          have started := allowed fails.1 waiter member fails.2
          rw [isKey, isPlace, split, drop_after] at started
          exact started
        · right
          unfold Waits
          cases succeeded with
          | true =>
            refine ⟨_, List.mem_map_of_mem member, ?_⟩
            by_cases own : waiter.run = run
            · simp only [own, if_true]
              exact ⟨isKey, isPlace⟩
            · simp only [own, if_false]
              exact ⟨isKey, isPlace⟩
          | false =>
            refine ⟨waiter, List.mem_filter.mpr ⟨member, ?_⟩, isKey, isPlace⟩
            simpa using fails
      · intro waiter member unreleased
        obtain ⟨earlier, isEarlier, isKey, isRun, -, released | ⟨other, same⟩⟩ :=
          origin waiter member
        · rw [released.2] at unreleased
          cases unreleased
        · have stands := kept.unreleased earlier isEarlier (same ▸ unreleased)
          rw [Dictionary.get?_erase, if_neg other, isRun, isKey]
          exact stands
      · intro waiter member isReleased isStored
        obtain ⟨earlier, isEarlier, isKey, isRun, isCalled, origin⟩ := origin waiter member
        rw [Dictionary.get?_erase] at isStored
        split at isStored
        · cases isStored
        · next otherKey =>
            have wasReleased : earlier.released = true := by
              rcases origin with ⟨own, -⟩ | ⟨-, same⟩
              · cases before : earlier.released with
                | true => rfl
                | false =>
                  have runs := kept.unreleased earlier isEarlier before
                  rw [← isRun, own, found] at runs
                  exact absurd (isKey.trans (Option.some.inj runs).symm) otherKey
              · exact same ▸ isReleased
            have started := kept.released earlier isEarlier wasReleased (isKey ▸ isStored)
            rw [isKey, isCalled]
            exact started
      · intro waiter member
        obtain ⟨earlier, isEarlier, -, -, isCalled, -⟩ := origin waiter member
        rw [isCalled]
        exact kept.called earlier isEarlier
      · intro other stored isStored
        rw [Dictionary.get?_erase] at isStored
        split at isStored
        · cases isStored
        · next otherKey =>
            have runs := kept.stored other stored isStored
            have otherRun : stored ≠ run := by
              rintro rfl
              rw [found] at runs
              exact otherKey (Option.some.inj runs).symm
            rw [Dictionary.get?_erase, if_neg otherRun]
            exact runs
      · intro other otherKey isRunning
        rw [Dictionary.get?_erase] at isRunning
        split at isRunning
        · cases isRunning
        · exact kept.fresh other otherKey isRunning

private theorem Kept.dropWaiter {state : SchedulerTriggers} (kept : state.Kept) {index : Nat}
    {waiter : QueueWaiter} (found : state.waiting[index]? = some waiter)
    (started : .queuePassStarted waiter.key ∈ state.events.drop waiter.calledAt) :
    Kept { state with waiting := state.waiting.eraseIdx index } := by
  have others : ∀ other ∈ state.waiting.eraseIdx index, other ∈ state.waiting :=
    fun other isOther => (List.eraseIdx_sublist _ _).subset isOther
  constructor
  · exact kept.suspensions
  · intro key
    apply (kept.queues key).mono
    rintro earlier later split ⟨other, member, isKey, isPlace⟩
    obtain ⟨place, isOther⟩ := List.mem_iff_getElem?.mp member
    by_cases same : place = index
    · subst same
      rw [found] at isOther
      cases isOther
      rw [isKey, isPlace, split, drop_after] at started
      exact Or.inl started
    · exact Or.inr ⟨other, List.mem_eraseIdx_iff_getElem?.mpr ⟨place, same, isOther⟩, isKey,
        isPlace⟩
  · exact fun other isOther => kept.unreleased other (others other isOther)
  · exact fun other isOther => kept.released other (others other isOther)
  · exact fun other isOther => kept.called other (others other isOther)
  · exact kept.stored
  · exact kept.fresh

private theorem Kept.queueWaiterResumes {state : SchedulerTriggers} (kept : state.Kept)
    {index : Nat} {meanwhile : List Trigger}
    (allowed : Allowed state (.queueWaiterResumes index meanwhile)) :
    (state.queueWaiterResumes index meanwhile).Kept := by
  unfold SchedulerTriggers.queueWaiterResumes
  split
  · exact kept
  · next waiter found =>
      cases isReleased : waiter.released with
      | false => exact kept
      | true =>
        have member : waiter ∈ state.waiting := List.mem_of_getElem? found
        cases stored : state.queueRuns.get? waiter.key with
        | some run =>
          have started := kept.released waiter member isReleased (by rw [stored]; rfl)
          simpa only [if_true, stored, Option.isSome_some] using kept.dropWaiter found started
        | none =>
          simp only [if_true, stored, Option.isSome_none, Bool.false_eq_true, if_false]
          change (fire (.runQueue waiter.project waiter.brain meanwhile)
            { state with waiting := state.waiting.eraseIdx index }).Kept
          have noRun : ({ state with waiting := state.waiting.eraseIdx index }.record
              (.runQueueCalled (queueKey waiter.project waiter.brain))).queueRuns.get?
                (queueKey waiter.project waiter.brain) = none := stored
          -- The pass begins before the waiter is dropped: by then its call has one.
          have begins := kept.beginRun waiter.key
          have started : ∀ other ∈ state.waiting, .queuePassStarted waiter.key ∈
              ((state.record (.runQueueCalled waiter.key)).beginRun waiter.key).events.drop
                other.calledAt := by
            intro other isOther
            rw [begun_events]
            exact mem_drop_of_le (kept.called other isOther) (by simp)
          have dropped := begins.dropWaiter found (started waiter member)
          obtain ⟨later, fired⟩ := fireAll_kept meanwhile dropped allowed
          simp only [fire]
          rw [noRun]
          apply later.storeRun fired
          · change (state.running.put state.runs _).get? state.runs = some _
            rw [Dictionary.get?_put, if_pos rfl]
            rfl
          · intro other isOther
            exact started other ((List.eraseIdx_sublist _ _).subset isOther)

theorem step_kept {state : SchedulerTriggers} {action : TriggerAction}
    (allowed : Allowed state action) (kept : state.Kept) : (state.step action).Kept := by
  cases action with
  | trigger trigger => exact (fire_kept trigger kept allowed).1
  | start =>
    unfold step start
    cases running : state.timer with
    | true => exact kept
    | false =>
      have notFinishing := allowed running
      have started : SchedulerTriggers.Kept
          { state with
            timer := true
            suspensionStopped := false } :=
        ⟨kept.suspensions, kept.queues, kept.unreleased, kept.released, kept.called,
          kept.stored, kept.fresh⟩
      have admits : Admits
          { state with
            timer := true
            suspensionStopped := false } true :=
        fun finishing => absurd finishing notFinishing
      exact (started.reconcileSuspensions admits).reconcileSuspensions
        (admits.fired (reconcileSuspensions_fired _))
  | stop =>
    exact ⟨kept.suspensions, kept.queues, kept.unreleased, kept.released, kept.called,
      kept.stored, kept.fresh⟩
  | suspensionRunBegins meanwhile =>
    unfold step
    dsimp only
    split
    · exact kept.beginSuspensionPass meanwhile
    · exact kept
  | suspensionPassEnds succeeded meanwhile =>
    unfold step
    dsimp only
    split
    · next passing => exact kept.suspensionPassEnds passing allowed
    · exact kept
  | suspensionRefreshCleared =>
    unfold step
    dsimp only
    split
    · next finishing =>
        apply kept.phase
        rintro (scheduled | ⟨passing, -⟩)
        · rw [finishing] at scheduled
          cases scheduled
        · rw [finishing] at passing
          cases passing
    · exact kept
  | queueRunSettles run succeeded => exact kept.queueRunSettles allowed
  | queueWaiterResumes index meanwhile => exact kept.queueWaiterResumes allowed

/-! ## What is left to do -/

def Quiescent (state : SchedulerTriggers) : Prop :=
  state.suspensionRefresh = none ∧ state.running.rows = [] ∧ state.waiting = []

instance (state : SchedulerTriggers) : Decidable (Quiescent state) :=
  inferInstanceAs (Decidable (_ ∧ _ ∧ _))

/-- Something under way goes on and succeeds, and nothing new is called. -/
def Completes (state : SchedulerTriggers) : TriggerAction → Prop
  | .suspensionRunBegins meanwhile =>
    meanwhile = [] ∧ state.suspensionRefresh = some .scheduled
  | .suspensionPassEnds succeeded meanwhile =>
    succeeded = true ∧ meanwhile = [] ∧ state.suspensionRefresh = some .passing
  | .suspensionRefreshCleared => state.suspensionRefresh = some .finishing
  | .queueRunSettles run succeeded => succeeded = true ∧ (state.running.get? run).isSome
  | .queueWaiterResumes index meanwhile =>
    meanwhile = [] ∧ ∃ waiter, state.waiting[index]? = some waiter ∧ waiter.released = true
  | .trigger _ | .start | .stop => False

def refreshWork (state : SchedulerTriggers) : Nat :=
  match state.suspensionRefresh with
  | none => 0
  | some .finishing => 1
  | some .passing => if state.suspensionRefreshAgain then 3 else 2
  | some .scheduled => 4

def waiterWork (waiter : QueueWaiter) : Nat := if waiter.released then 2 else 3

def work (state : SchedulerTriggers) : Nat :=
  state.refreshWork + state.running.rows.length + (state.waiting.map waiterWork).sum

private theorem work_queueRunSettles {state : SchedulerTriggers} {run : Nat} {key : String}
    (found : state.running.get? run = some key) :
    (state.queueRunSettles run true).work < state.work := by
  have erased := (Dictionary.rows_erase_perm found).length_eq
  rw [List.length_cons] at erased
  have waiters : ((state.waiting.map fun waiter =>
      if waiter.run = run then { waiter with released := true } else waiter).map waiterWork).sum ≤
        (state.waiting.map waiterWork).sum := by
    induction state.waiting with
    | nil => exact Nat.le_refl _
    | cons waiter rest ih =>
      simp only [List.map_cons, List.sum_cons]
      apply Nat.add_le_add _ ih
      unfold waiterWork
      by_cases own : waiter.run = run
      · cases waiter.released <;> simp [own]
      · simp [own]
  have isWork : (state.queueRunSettles run true).work = state.refreshWork +
      (state.running.erase run).rows.length + ((state.waiting.map fun waiter =>
        if waiter.run = run then { waiter with released := true } else waiter).map
          waiterWork).sum := by
    simp only [queueRunSettles, found, if_true, work, refreshWork]
  rw [isWork, work]
  omega

private theorem work_queueWaiterResumes {state : SchedulerTriggers} {index : Nat}
    {waiter : QueueWaiter} (found : state.waiting[index]? = some waiter)
    (isReleased : waiter.released = true) :
    (state.queueWaiterResumes index []).work < state.work := by
  have dropped : ((state.waiting.eraseIdx index).map waiterWork).sum + 2 =
      (state.waiting.map waiterWork).sum := by
    have isWaiter : waiterWork waiter = 2 := by simp [waiterWork, isReleased]
    obtain ⟨inBounds, isItem⟩ := List.getElem?_eq_some_iff.mp found
    have perm := (List.getElem_cons_eraseIdx_perm inBounds).map waiterWork
    rw [isItem, List.map_cons, isWaiter] at perm
    have sums := perm.sum_nat
    rw [List.sum_cons] at sums
    omega
  have put := Dictionary.length_put_le state.running state.runs
    (queueKey waiter.project waiter.brain)
  unfold queueWaiterResumes
  rw [found]
  simp only [isReleased, if_true]
  cases stored : state.queueRuns.get? waiter.key with
  | some run =>
    simp only [Option.isSome_some, if_true, work, refreshWork]
    omega
  | none =>
    have noRun : state.queueRuns.get? (queueKey waiter.project waiter.brain) = none := stored
    simp only [Option.isSome_none, Bool.false_eq_true, if_false, fire, record, noRun, fireAll,
      beginRun, storeRun, work, refreshWork]
    omega

theorem work_completes {state : SchedulerTriggers} {action : TriggerAction}
    (completes : Completes state action) : (state.step action).work < state.work := by
  cases action with
  | suspensionRunBegins meanwhile =>
    obtain ⟨rfl, scheduled⟩ := completes
    simp [step, scheduled, beginSuspensionPass, fireAll, work, refreshWork, record]
  | suspensionPassEnds succeeded meanwhile =>
    obtain ⟨rfl, rfl, passing⟩ := completes
    simp only [step, passing, if_true, suspensionPassEnds]
    split
    · next goesOn =>
        have again : state.suspensionRefreshAgain = true := by
          simp only [Bool.and_eq_true] at goesOn
          exact goesOn.1.2
        simp [beginSuspensionPass, fireAll, work, refreshWork, record, passing, again]
    · simp only [work, refreshWork, passing]
      split <;> omega
  | suspensionRefreshCleared =>
    have finishing : state.suspensionRefresh = some .finishing := completes
    simp [step, work, refreshWork, finishing]
  | queueRunSettles run succeeded =>
    obtain ⟨rfl, running⟩ := completes
    obtain ⟨key, found⟩ := Option.isSome_iff_exists.mp running
    exact work_queueRunSettles found
  | queueWaiterResumes index meanwhile =>
    obtain ⟨rfl, waiter, found, isReleased⟩ := completes
    exact work_queueWaiterResumes found isReleased
  | trigger trigger => cases completes
  | start => cases completes
  | stop => cases completes

theorem completions_bounded {state : SchedulerTriggers} {completions : List TriggerAction}
    (completes : Meets step Completes state completions) : completions.length ≤ state.work := by
  induction completions generalizing state with
  | nil => exact Nat.zero_le _
  | cons action rest ih =>
    have less := work_completes completes.1
    have later := ih completes.2
    rw [List.length_cons]
    omega

theorem Kept.completes_or_quiescent {state : SchedulerTriggers} (kept : state.Kept)
    (busy : ¬ Quiescent state) : ∃ action, Completes state action := by
  cases phase : state.suspensionRefresh with
  | some current =>
    cases current with
    | scheduled => exact ⟨.suspensionRunBegins [], rfl, phase⟩
    | passing => exact ⟨.suspensionPassEnds true [], rfl, rfl, phase⟩
    | finishing => exact ⟨.suspensionRefreshCleared, phase⟩
  | none =>
    have settles : ∀ run key, state.running.get? run = some key →
        ∃ action, Completes state action :=
      fun run key found => ⟨.queueRunSettles run true, rfl, by rw [found]; rfl⟩
    cases rows : state.running.rows with
    | cons entry rest =>
      have member : (entry.1, entry.2) ∈ state.running.rows := by
        rw [rows]
        exact List.mem_cons_self
      exact settles entry.1 entry.2 (Dictionary.get?_eq_some_iff.mpr member)
    | nil =>
      cases waiting : state.waiting with
      | nil => exact absurd ⟨phase, rows, waiting⟩ busy
      | cons waiter rest =>
        cases isReleased : waiter.released with
        | true => exact ⟨.queueWaiterResumes 0 [], rfl, waiter, by simp [waiting], isReleased⟩
        | false =>
          exact settles waiter.run waiter.key
            (kept.unreleased waiter (by simp [waiting]) isReleased)

/-! ## Whole runs -/

/-- Once nothing is under way each call has had a pass after it; and if nothing new is called, that
is so after finitely many steps. -/
structure TriggersServed (state : SchedulerTriggers) : Prop where
  suspensions : Quiescent state →
    Answered .reconcileSuspensionsCalled .suspensionPassStarted state.events
  queues : Quiescent state → ∀ key,
    Answered (.runQueueCalled key) (.queuePassStarted key) state.events
  finishes : ∀ completions, Meets step Completes state completions →
    completions.length ≤ state.work
  proceeds : ¬ Quiescent state → ∃ action, Completes state action

theorem Kept.triggersServed {state : SchedulerTriggers} (kept : state.Kept) :
    TriggersServed state where
  suspensions quiescent := kept.suspensions.answered (by
    rintro - (scheduled | ⟨passing, -⟩)
    · rw [quiescent.1] at scheduled
      cases scheduled
    · rw [quiescent.1] at passing
      cases passing)
  queues quiescent key := (kept.queues key).answered (by
    rintro place ⟨waiter, member, -⟩
    rw [quiescent.2.2] at member
    cases member)
  finishes _ completes := completions_bounded completes
  proceeds busy := kept.completes_or_quiescent busy

/-- In a run that loses no call every call of a reconciliation or of a queue has a pass that starts
after it. -/
theorem triggers_served {actions : List TriggerAction} (allowed : Meets step Allowed initial actions) :
    Always step TriggersServed initial actions := by
  intro earlier later split
  rw [split, meets_append] at allowed
  exact (run_invariant (fun _ _ => step_kept) initial_kept allowed.1).triggersServed

section FixedRuns

/-- A reconciliation that goes round for a call during its pass, and a queue that is run again for a
call that waited. -/
theorem triggers_served_coalesced :
    Always step TriggersServed initial [.start, .suspensionRunBegins [.runQueue "p" "b" []],
      .trigger .reconcileSuspensions, .trigger (.runQueue "p" "b" []), .suspensionPassEnds true [],
      .queueRunSettles 0 true, .queueWaiterResumes 0 [.reconcileSuspensions],
      .suspensionPassEnds true [], .queueRunSettles 1 true, .suspensionPassEnds true [],
      .suspensionRefreshCleared] :=
  triggers_served (by decide +kernel)

/-- A reconciliation is called while one is past its last check, and a queue while a pass of it is
about to fail. -/
theorem triggers_lost :
    ¬ TriggersServed (run step initial [.start, .suspensionRunBegins [],
      .suspensionPassEnds true [], .trigger .reconcileSuspensions, .suspensionRefreshCleared]) ∧
    ¬ TriggersServed (run step initial [.trigger (.runQueue "p" "b" []),
      .trigger (.runQueue "p" "b" []), .queueRunSettles 0 false]) := by
  constructor
  · intro served
    have answered := served.suspensions (by decide +kernel)
      [.reconcileSuspensionsCalled, .reconcileSuspensionsCalled, .suspensionPassStarted] []
      (by decide +kernel)
    cases answered
  · intro served
    have answered := served.queues (by decide +kernel) (queueKey "p" "b")
      [.runQueueCalled (queueKey "p" "b"), .queuePassStarted (queueKey "p" "b")] []
      (by decide +kernel)
    cases answered

end FixedRuns

end SchedulerTriggers

end ImCodes.TaskPair
