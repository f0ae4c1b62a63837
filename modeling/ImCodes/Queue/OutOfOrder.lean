import ImCodes.Library.MergeWindow
import ImCodes.Queue.Settlement

/-!
# Settlements in any order

Deliveries and failures of one epoch overtake one another and are sent again. What the reducer
makes of them depends only on which of them have arrived.
-/

set_option autoImplicit false

namespace ImCodes.Queue

open Library

/-- A delivery or a failure as the reducer takes it. -/
structure Settlement where
  clientMessageId : String
  version : JsNumber
  delivered : Bool
deriving DecidableEq

namespace TransportQueueReducerState

variable (state : TransportQueueReducerState)

def takes (queueEpoch queueAuthorityId : String) : Bool :=
  state.baseline?.any fun baseline =>
    queueEpoch = baseline.queueEpoch && queueAuthorityId = baseline.queueAuthorityId

/-- The settlement an event is, if it is one of the epoch and the authority of the state. -/
def accepted? : QueueEvent → Option Settlement
  | .delivery event =>
    if state.takes event.queueEpoch event.queueAuthorityId then
      some ⟨event.clientMessageId, event.pendingMessageVersion, true⟩
    else none
  | .failure event =>
    if state.takes event.queueEpoch event.queueAuthorityId then
      some ⟨event.clientMessageId, event.pendingMessageVersion, false⟩
    else none
  | _ => none

def settle (settlement : Settlement) : TransportQueueReducerState :=
  { state with
    pendingMessageVersion := state.pendingMessageVersion.map fun version =>
      version.max settlement.version
    pendingMessageEntries :=
      withoutMessage settlement.clientMessageId state.pendingMessageEntries
    failedMessageEntries :=
      if settlement.delivered then
        withoutMessage settlement.clientMessageId state.failedMessageEntries
      else state.failedMessageEntries
    deliveredTombstones := addTombstone
      (tombstoneKey (state.queueEpoch.getD "") settlement.clientMessageId)
      state.deliveredTombstones }

variable {state}

theorem takes_settle (settlement : Settlement) : (state.settle settlement).takes = state.takes := by
  funext queueEpoch queueAuthorityId
  unfold takes baseline? settle
  dsimp only
  cases truthy state.queueEpoch with
  | none => rfl
  | some epoch =>
    cases truthy state.queueAuthorityId with
    | none => rfl
    | some authority => cases state.pendingMessageVersion <;> rfl

theorem accepted?_congr {other : TransportQueueReducerState} (same : other.takes = state.takes)
    (event : QueueEvent) : other.accepted? event = state.accepted? event := by
  cases event <;> simp only [accepted?, same]

variable (state) in
/-- A settlement is taken, or leaves nothing but a note that it was not. -/
theorem reduce_settlement [Host] {event : QueueEvent} (settles : event.settlement?.isSome) :
    (∃ settlement, state.accepted? event = some settlement ∧
      reduceTransportQueueEvent state event = state.settle settlement) ∨
    state.accepted? event = none ∧
      ∃ reason, reduceTransportQueueEvent state event = withDegraded state reason := by
  cases found : state.baseline? with
  | none =>
    right
    cases event with
    | delivery event => simp [accepted?, takes, found, reduceTransportQueueEvent, applyDelivery]
    | failure event => simp [accepted?, takes, found, reduceTransportQueueEvent, applyFailure]
    | snapshot event => cases settles
    | receipt event => cases settles
    | reset event => cases settles
  | some baseline =>
    obtain ⟨isEpoch, -, -, -, isVersion⟩ := baseline?_eq_some found
    have taken : ∀ epoch authority, state.takes epoch authority = true ↔
        ¬(epoch ≠ baseline.queueEpoch ∨ authority ≠ baseline.queueAuthorityId) := by
      intro epoch authority
      simp [takes, found]
    cases event with
    | delivery event =>
      by_cases mismatch : event.queueEpoch ≠ baseline.queueEpoch ∨
          event.queueAuthorityId ≠ baseline.queueAuthorityId
      · right
        simp [accepted?, taken, reduceTransportQueueEvent, applyDelivery, found, mismatch]
      · left
        simp only [not_or, not_not] at mismatch
        obtain ⟨sameEpoch, sameAuthority⟩ := mismatch
        simp [accepted?, taken, reduceTransportQueueEvent, applyDelivery, found, settle,
          isVersion, isEpoch, sameEpoch, sameAuthority]
    | failure event =>
      by_cases mismatch : event.queueEpoch ≠ baseline.queueEpoch ∨
          event.queueAuthorityId ≠ baseline.queueAuthorityId
      · right
        simp [accepted?, taken, reduceTransportQueueEvent, applyFailure, found, mismatch]
      · left
        simp only [not_or, not_not] at mismatch
        obtain ⟨sameEpoch, sameAuthority⟩ := mismatch
        simp [accepted?, taken, reduceTransportQueueEvent, applyFailure, found, settle,
          isVersion, isEpoch, sameEpoch, sameAuthority]
    | snapshot event => cases settles
    | receipt event => cases settles
    | reset event => cases settles

variable (state) in
theorem run_settlements [Host] {events : List QueueEvent}
    (settle_ : ∀ event ∈ events, event.settlement?.isSome) :
    ∃ evidence, run reduceTransportQueueEvent state events =
      { (events.filterMap state.accepted?).foldl settle state with degradedEvidence := evidence } := by
  have evident : ∀ (settlements : List Settlement) (start : TransportQueueReducerState)
      (evidence : List String),
      settlements.foldl settle { start with degradedEvidence := evidence } =
        { settlements.foldl settle start with degradedEvidence := evidence } := by
    intro settlements
    induction settlements with
    | nil => exact fun _ _ => rfl
    | cons settlement rest ih => exact fun start evidence => ih (start.settle settlement) evidence
  induction events generalizing state with
  | nil => exact ⟨state.degradedEvidence, rfl⟩
  | cons event rest ih =>
    have later : ∀ event ∈ rest, event.settlement?.isSome :=
      fun event member => settle_ event (List.mem_cons_of_mem _ member)
    rcases reduce_settlement state (settle_ event List.mem_cons_self) with
      ⟨settlement, accepted, reduced⟩ | ⟨refused, reason, reduced⟩
    · obtain ⟨evidence, isRun⟩ := ih (state.settle settlement) later
      rw [funext (accepted?_congr (takes_settle settlement))] at isRun
      rw [run_cons, reduced, isRun, List.filterMap_cons_some accepted]
      exact ⟨evidence, rfl⟩
    · obtain ⟨evidence, isRun⟩ := ih (withDegraded state reason) later
      have same : (withDegraded state reason).accepted? = state.accepted? :=
        funext (accepted?_congr rfl)
      rw [same, withDegraded, evident] at isRun
      rw [run_cons, reduced, withDegraded, isRun, List.filterMap_cons_none refused]
      exact ⟨evidence, rfl⟩

variable (state) in
/-- What settlements leave of a state. -/
theorem foldl_settle (settlements : List Settlement) :
    settlements.foldl settle state = { state with
      pendingMessageVersion := state.pendingMessageVersion.map
        ((settlements.map Settlement.version).foldl JsNumber.max)
      pendingMessageEntries := state.pendingMessageEntries.filter fun entry =>
        decide (entry.clientMessageId ∉ settlements.map Settlement.clientMessageId)
      failedMessageEntries := state.failedMessageEntries.filter fun entry =>
        decide (entry.clientMessageId ∉
          (settlements.filter Settlement.delivered).map Settlement.clientMessageId)
      deliveredTombstones := (settlements.foldl settle state).deliveredTombstones } ∧
    ∀ key, key ∈ (settlements.foldl settle state).deliveredTombstones ↔
      key ∈ state.deliveredTombstones ∨ ∃ id ∈ settlements.map Settlement.clientMessageId,
        key = tombstoneKey (state.queueEpoch.getD "") id := by
  induction settlements generalizing state with
  | nil => simp
  | cons settlement rest ih =>
    obtain ⟨isState, tombstones⟩ := ih (state.settle settlement)
    constructor
    · rw [List.foldl_cons, isState]
      cases delivered : settlement.delivered <;>
        simp [settle, withoutMessage, List.filter_filter, Function.comp_def, delivered,
          Bool.and_comm]
    · intro key
      rw [List.foldl_cons, tombstones]
      simp only [settle, mem_addTombstone, List.map_cons, List.mem_cons, exists_eq_or_imp]
      tauto

end TransportQueueReducerState

/-- The same queue to a client; tombstones may be kept in another order. -/
structure SameQueue (left right : TransportQueueReducerState) : Prop where
  sessionName : left.sessionName = right.sessionName
  queueEpoch : left.queueEpoch = right.queueEpoch
  queueAuthorityId : left.queueAuthorityId = right.queueAuthorityId
  pendingMessageVersion : left.pendingMessageVersion = right.pendingMessageVersion
  pendingMessageEntries : left.pendingMessageEntries = right.pendingMessageEntries
  failedMessageEntries : left.failedMessageEntries = right.failedMessageEntries
  deliveredTombstones : ∀ key, key ∈ left.deliveredTombstones ↔ key ∈ right.deliveredTombstones
  receipts : left.receipts = right.receipts

open TransportQueueReducerState in
/-- Deliveries and failures may arrive in any order and any number of times: the queue is the same
whenever the same ones have arrived. -/
theorem settlements_arrive_in_any_order [Host] (state : TransportQueueReducerState)
    {events others : List QueueEvent} (settle : ∀ event ∈ events, event.settlement?.isSome)
    (same : ∀ event, event ∈ events ↔ event ∈ others) :
    SameQueue (run reduceTransportQueueEvent state events)
      (run reduceTransportQueueEvent state others) := by
  obtain ⟨evidence, isRun⟩ := run_settlements state settle
  obtain ⟨otherEvidence, isOther⟩ := run_settlements state fun event member =>
    settle event ((same event).mpr member)
  have members : ∀ settlement, settlement ∈ events.filterMap state.accepted? ↔
      settlement ∈ others.filterMap state.accepted? := by
    intro settlement
    simp only [List.mem_filterMap, same]
  generalize events.filterMap state.accepted? = left at isRun members
  generalize others.filterMap state.accepted? = right at isOther members
  have ids : ∀ id, id ∈ left.map Settlement.clientMessageId ↔
      id ∈ right.map Settlement.clientMessageId := by simp [members]
  have deliveredIds : ∀ id, id ∈ (left.filter Settlement.delivered).map
      Settlement.clientMessageId ↔ id ∈ (right.filter Settlement.delivered).map
      Settlement.clientMessageId := by simp [members]
  have versions : (left.map Settlement.version).foldl JsNumber.max =
      (right.map Settlement.version).foldl JsNumber.max :=
    funext fun version => foldl_eq_of_mem_iff version (by simp [members])
  obtain ⟨isLeft, leftTombstones⟩ := foldl_settle state left
  obtain ⟨isRight, rightTombstones⟩ := foldl_settle state right
  rw [isRun, isOther]
  rw [isLeft, isRight]
  constructor
  · rfl
  · rfl
  · rfl
  · simp only [versions]
  · simp only [ids]
  · simp only [deliveredIds]
  · intro key
    simp only [leftTombstones, rightTombstones, ids]
  · rfl

section FixedRuns

open Library.FixedRuns

private def settlementOf (clientMessageId : String) (version : Int) : QueueEvent :=
  .delivery ⟨"deck", clientMessageId, "e", "a", .finite version, "f", .finite 1⟩

/-- A delivery that comes late and twice. -/
theorem settlements_arrive_in_any_order_late :
    SameQueue
      (run reduceTransportQueueEvent (createTransportQueueReducerState none)
        [.snapshot (snapshotOf "e" "a" 1 none ["m1", "m2"]), settlementOf "m1" 2,
          settlementOf "m2" 3])
      (run reduceTransportQueueEvent (createTransportQueueReducerState none)
        [.snapshot (snapshotOf "e" "a" 1 none ["m1", "m2"]), settlementOf "m2" 3,
          settlementOf "m1" 2, settlementOf "m2" 3]) :=
  settlements_arrive_in_any_order
    (reduceTransportQueueEvent (createTransportQueueReducerState none)
      (.snapshot (snapshotOf "e" "a" 1 none ["m1", "m2"]))) (by decide)
    (by intro event; simp only [List.mem_cons, List.not_mem_nil]; tauto)

end FixedRuns

end ImCodes.Queue
