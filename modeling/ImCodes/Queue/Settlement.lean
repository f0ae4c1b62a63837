import ImCodes.Library.Run
import ImCodes.Queue.Reducer

/-! Settled messages in the reducer. A delivery or failure accepted in an epoch
keeps its message out of the live queue for as long as the tombstone written with
it survives; a reset of the current epoch and a return to an epoch drop it. -/

set_option autoImplicit false

namespace ImCodes.Queue

open Library

/-- The epoch, authority and message a delivery or failure speaks about. -/
def QueueEvent.settlement? : QueueEvent → Option (String × String × String)
  | .delivery event => some (event.queueEpoch, event.queueAuthorityId, event.clientMessageId)
  | .failure event => some (event.queueEpoch, event.queueAuthorityId, event.clientMessageId)
  | _ => none

/-- The state accepts `event` as the delivery or failure of a message in its
current epoch. -/
def Settles (state : TransportQueueReducerState) (event : QueueEvent)
    (epoch clientMessageId : String) : Prop :=
  ∃ baseline, state.baseline? = some baseline ∧ baseline.queueEpoch = epoch ∧
    event.settlement? = some (epoch, baseline.queueAuthorityId, clientMessageId)

/-- The message is not live in `epoch`, and the tombstone that keeps it so is there. -/
def Settled (epoch clientMessageId : String) (state : TransportQueueReducerState) : Prop :=
  state.queueEpoch = some epoch →
    tombstoneKey epoch clientMessageId ∈ state.deliveredTombstones ∧
      ∀ entry ∈ state.pendingMessageEntries, entry.clientMessageId ≠ clientMessageId

/-- The event does not drop the tombstones of `epoch`: it is not an accepted reset
to that epoch, and not an accepted snapshot entering it from another one. -/
def KeepsTombstones (epoch : String) (state : TransportQueueReducerState) :
    QueueEvent → Prop
  | .reset event => state.Accepts event.announcement → event.queueEpoch ≠ epoch
  | .snapshot event => state.Accepts event.announcement → event.queueEpoch = epoch →
      state.queueEpoch = some epoch
  | _ => True

theorem Settled.applyReset {epoch clientMessageId : String}
    {state : TransportQueueReducerState} {reset : QueueResetEvent}
    (kept : state.Accepts reset.announcement → reset.queueEpoch ≠ epoch)
    (settled : Settled epoch clientMessageId state) :
    Settled epoch clientMessageId (applyReset state reset) := by
  unfold Queue.applyReset
  cases decision : canApplySnapshot state reset.announcement with
  | error reason => exact settled
  | ok admitted =>
    intro entered
    exact False.elim (kept decision (Option.some.inj entered))

theorem Settled.applyDelivery {epoch clientMessageId : String}
    {state : TransportQueueReducerState} (delivery : QueueDeliveryFact)
    (settled : Settled epoch clientMessageId state) :
    Settled epoch clientMessageId (applyDelivery state delivery) := by
  unfold Queue.applyDelivery
  split
  · exact settled
  · split
    · exact settled
    · intro current
      obtain ⟨tombstone, absent⟩ := settled current
      refine ⟨mem_addTombstone.mpr (.inr tombstone), ?_⟩
      intro entry member
      exact absent entry (mem_withoutMessage.mp member).1

theorem Settled.applyFailure {epoch clientMessageId : String}
    {state : TransportQueueReducerState} (failure : QueueFailureDropEvent)
    (settled : Settled epoch clientMessageId state) :
    Settled epoch clientMessageId (applyFailure state failure) := by
  unfold Queue.applyFailure
  split
  · exact settled
  · split
    · exact settled
    · intro current
      obtain ⟨tombstone, absent⟩ := settled current
      refine ⟨mem_addTombstone.mpr (.inr tombstone), ?_⟩
      intro entry member
      exact absent entry (mem_withoutMessage.mp member).1

section Reduce

variable [Host]

theorem Settled.applySnapshot {epoch clientMessageId : String}
    {state : TransportQueueReducerState} {snapshot : QueueSnapshot}
    (kept : state.Accepts snapshot.announcement → snapshot.queueEpoch = epoch →
      state.queueEpoch = some epoch)
    (settled : Settled epoch clientMessageId state) :
    Settled epoch clientMessageId (applySnapshot state snapshot) := by
  unfold Queue.applySnapshot
  cases decision : canApplySnapshot state snapshot.announcement with
  | error reason => exact settled
  | ok admitted =>
    intro entered
    have sameEpoch : snapshot.queueEpoch = epoch := Option.some.inj entered
    have current := kept decision sameEpoch
    obtain ⟨tombstone, _⟩ := settled current
    have notNew : ¬ (state.queueEpoch ≠ none ∧
        state.queueEpoch ≠ some snapshot.queueEpoch) := by
      rintro ⟨_, different⟩
      exact different (sameEpoch ▸ current)
    simp only [notNew, ↓reduceIte]
    refine ⟨tombstone, ?_⟩
    intro entry member live
    have filtered := mem_sortByPosition.mp member
    have absent := (List.mem_filter.mp filtered).2
    rw [decide_eq_true_eq, sameEpoch, live] at absent
    exact absent tombstone

theorem Settled.reduce {epoch clientMessageId : String}
    (state : TransportQueueReducerState) (event : QueueEvent)
    (kept : KeepsTombstones epoch state event)
    (settled : Settled epoch clientMessageId state) :
    Settled epoch clientMessageId (reduceTransportQueueEvent state event) := by
  cases event with
  | snapshot event => exact settled.applySnapshot kept
  | delivery event => exact settled.applyDelivery event
  | receipt event => exact settled
  | failure event => exact settled.applyFailure event
  | reset event => exact settled.applyReset kept

theorem Settles.settled {epoch clientMessageId : String}
    {state : TransportQueueReducerState} {event : QueueEvent}
    (settles : Settles state event epoch clientMessageId) :
    Settled epoch clientMessageId (reduceTransportQueueEvent state event) := by
  obtain ⟨baseline, found, sameEpoch, spoken⟩ := settles
  have present : tombstoneKey epoch clientMessageId ∈
      addTombstone (tombstoneKey epoch clientMessageId) state.deliveredTombstones :=
    mem_addTombstone.mpr (.inl rfl)
  cases event with
  | delivery event =>
    simp only [QueueEvent.settlement?, Option.some.injEq, Prod.mk.injEq] at spoken
    obtain ⟨eventEpoch, eventAuthority, eventMessage⟩ := spoken
    intro _
    simp only [reduceTransportQueueEvent, Queue.applyDelivery, found, eventEpoch,
      eventAuthority, eventMessage, sameEpoch, ne_eq, not_true_eq_false, or_self, ↓reduceIte]
    exact ⟨present, fun entry member => (mem_withoutMessage.mp member).2⟩
  | failure event =>
    simp only [QueueEvent.settlement?, Option.some.injEq, Prod.mk.injEq] at spoken
    obtain ⟨eventEpoch, eventAuthority, eventMessage⟩ := spoken
    intro _
    simp only [reduceTransportQueueEvent, Queue.applyFailure, found, eventEpoch,
      eventAuthority, eventMessage, sameEpoch, ne_eq, not_true_eq_false, or_self, ↓reduceIte]
    exact ⟨present, fun entry member => (mem_withoutMessage.mp member).2⟩
  | snapshot event => cases spoken
  | receipt event => cases spoken
  | reset event => cases spoken

/-- As long as no event drops the tombstones of the epoch, a message settled in it
is not live in any later state of that epoch. -/
theorem settled_message_stays_settled (sessionName : Option String)
    (before after : List QueueEvent) (event : QueueEvent) (epoch clientMessageId : String)
    (settles : Settles (run reduceTransportQueueEvent
      (createTransportQueueReducerState sessionName) before) event epoch clientMessageId)
    (kept : Meets reduceTransportQueueEvent (KeepsTombstones epoch)
      (run reduceTransportQueueEvent (createTransportQueueReducerState sessionName)
        (before ++ [event])) after)
    (current : (run reduceTransportQueueEvent (createTransportQueueReducerState sessionName)
      (before ++ [event] ++ after)).queueEpoch = some epoch) :
    ∀ entry ∈ (run reduceTransportQueueEvent (createTransportQueueReducerState sessionName)
      (before ++ [event] ++ after)).pendingMessageEntries,
      entry.clientMessageId ≠ clientMessageId := by
  rw [run_append] at current ⊢
  have onTheSpot : Settled epoch clientMessageId (run reduceTransportQueueEvent
      (createTransportQueueReducerState sessionName) (before ++ [event])) := by
    rw [run_append]
    exact settles.settled
  exact (run_invariant Settled.reduce onTheSpot kept current).2

end Reduce

section FixedRuns

open Library.FixedRuns

def deliveryOf (epoch authority : String) (version : Int) (clientMessageId : String) :
    QueueDeliveryFact where
  sessionName := "deck"
  clientMessageId
  queueEpoch := epoch
  queueAuthorityId := authority
  pendingMessageVersion := .finite version
  deliveryFrameId := "frame"
  deliveryFrameVersion := .finite version

/-- The message is delivered in `e1`; a reset of `e1` that keeps the epoch is then
accepted, and a snapshot of the delivered version lists the message again. -/
def resetThenSnapshot : List QueueEvent :=
  [.reset ⟨"deck", "e1", "a1", .finite 2, .userClear⟩,
    .snapshot (snapshotOf "e1" "a1" 2 none ["sent"])]

/-- The projection leaves `e1` for `e2` and comes back to it. -/
def leaveAndReturn : List QueueEvent :=
  [.snapshot (snapshotOf "e2" "a2" 3 (some .userClear) []),
    .snapshot (snapshotOf "e1" "a1" 2 (some .userClear) ["sent"])]

def deliveredOnce : List QueueEvent :=
  [.snapshot (snapshotOf "e1" "a1" 1 none ["sent", "still"]),
    .delivery (deliveryOf "e1" "a1" 2 "sent")]

/-- Both ways of dropping the tombstone bring a delivered message back to life. -/
theorem delivered_message_resurrected :
    (∀ after ∈ [resetThenSnapshot, leaveAndReturn],
      (run reduceTransportQueueEvent (createTransportQueueReducerState none)
        (deliveredOnce ++ after)).queueEpoch = some "e1" ∧
      (run reduceTransportQueueEvent (createTransportQueueReducerState none)
        (deliveredOnce ++ after)).pendingMessageEntries = [queuedEntry "sent"]) ∧
    (run reduceTransportQueueEvent (createTransportQueueReducerState none)
      deliveredOnce).pendingMessageEntries = [queuedEntry "still"] ∧
    (run reduceTransportQueueEvent (createTransportQueueReducerState none)
      deliveredOnce).degradedEvidence = [] := by
  decide

theorem settled_message_stays_settled_run :
    (run reduceTransportQueueEvent (createTransportQueueReducerState none)
      ([.snapshot (snapshotOf "e1" "a1" 1 none ["sent", "still"])] ++
        [.delivery (deliveryOf "e1" "a1" 2 "sent")] ++
        [.snapshot (snapshotOf "e1" "a1" 3 none ["sent", "still"])])).queueEpoch = some "e1" ∧
    ∀ entry ∈ (run reduceTransportQueueEvent (createTransportQueueReducerState none)
      ([.snapshot (snapshotOf "e1" "a1" 1 none ["sent", "still"])] ++
        [.delivery (deliveryOf "e1" "a1" 2 "sent")] ++
        [.snapshot (snapshotOf "e1" "a1" 3 none ["sent", "still"])])).pendingMessageEntries,
      entry.clientMessageId ≠ "sent" :=
  ⟨by decide, settled_message_stays_settled none _ _ _ "e1" "sent"
    ⟨⟨"e1", "a1", .finite 1⟩, by decide, rfl, rfl⟩
    ⟨fun _ _ => by decide, trivial⟩ (by decide)⟩

end FixedRuns

end ImCodes.Queue
