import ImCodes.Queue.Types

/-!
# The shared queue reducer

Folds queue events into the projection a client shows. A snapshot replaces the
projection when `canApplySnapshot` admits it; a delivery or a failure settles one
message and leaves a tombstone keyed by epoch and message id.
-/

set_option autoImplicit false

namespace ImCodes.Queue

open Library

structure TransportQueueReducerState where
  sessionName : Option String
  queueEpoch : Option String
  queueAuthorityId : Option String
  pendingMessageVersion : Option JsNumber
  pendingMessageEntries : List QueueProjectionEntry
  failedMessageEntries : List QueueProjectionEntry
  deliveredTombstones : List String
  receipts : List (String × QueueMutationReceipt)
  degradedEvidence : List String
deriving DecidableEq, Repr

def createTransportQueueReducerState (sessionName : Option String) :
    TransportQueueReducerState where
  sessionName := truthy sessionName
  queueEpoch := none
  queueAuthorityId := none
  pendingMessageVersion := none
  pendingMessageEntries := []
  failedMessageEntries := []
  deliveredTombstones := []
  receipts := []
  degradedEvidence := []

def tombstoneKey (epoch clientMessageId : String) : String :=
  epoch ++ ":" ++ clientMessageId

structure QueueBaseline where
  queueEpoch : String
  queueAuthorityId : String
  pendingMessageVersion : JsNumber
deriving DecidableEq, Repr

/-- `hasBaseline`, with the three fields it narrows. -/
def TransportQueueReducerState.baseline? (state : TransportQueueReducerState) :
    Option QueueBaseline :=
  match truthy state.queueEpoch, truthy state.queueAuthorityId, state.pendingMessageVersion with
  | some epoch, some authority, some version => some ⟨epoch, authority, version⟩
  | _, _, _ => none

def withDegraded (state : TransportQueueReducerState) (reason : String) :
    TransportQueueReducerState :=
  { state with degradedEvidence := state.degradedEvidence ++ [reason] }

/-- What a snapshot and a reset event have in common. -/
structure QueueAnnouncement where
  queueEpoch : String
  queueAuthorityId : String
  pendingMessageVersion : JsNumber
  resetReason : Option QueueResetReason
deriving DecidableEq, Repr

def QueueSnapshot.announcement (snapshot : QueueSnapshot) : QueueAnnouncement :=
  ⟨snapshot.queueEpoch, snapshot.queueAuthorityId, snapshot.pendingMessageVersion,
    snapshot.resetReason⟩

def QueueResetEvent.announcement (reset : QueueResetEvent) : QueueAnnouncement :=
  ⟨reset.queueEpoch, reset.queueAuthorityId, reset.pendingMessageVersion, some reset.resetReason⟩

def QueueAnnouncement.resets (announced : QueueAnnouncement) : Bool :=
  announced.resetReason.any QueueResetReason.isRecognized

def canApplySnapshot (state : TransportQueueReducerState) (announced : QueueAnnouncement) :
    Except String Unit :=
  if announced.queueEpoch = "" ∨ announced.queueAuthorityId = "" ∨
      announced.pendingMessageVersion.isFinite = false then
    .error "missing_epoch_authority_or_version"
  else match state.baseline? with
    | none => .ok ()
    | some baseline =>
      if announced.queueEpoch = baseline.queueEpoch ∧
          announced.queueAuthorityId ≠ baseline.queueAuthorityId then
        .error "same_epoch_authority_mismatch"
      else if announced.queueEpoch ≠ baseline.queueEpoch ∧
          announced.queueAuthorityId = baseline.queueAuthorityId then
        .error "different_epoch_authority_reuse"
      else if announced.queueEpoch ≠ baseline.queueEpoch then
        if announced.resets then .ok () else .error "cross_epoch_without_recognized_reset"
      else if announced.pendingMessageVersion.lt baseline.pendingMessageVersion then
        .error "stale_version"
      else .ok ()

def TransportQueueReducerState.Accepts (state : TransportQueueReducerState)
    (announced : QueueAnnouncement) : Prop :=
  canApplySnapshot state announced = .ok ()

instance (state : TransportQueueReducerState) (announced : QueueAnnouncement) :
    Decidable (state.Accepts announced) :=
  inferInstanceAs (Decidable (canApplySnapshot state announced = .ok ()))

def withoutMessage (clientMessageId : String) (entries : List QueueProjectionEntry) :
    List QueueProjectionEntry :=
  entries.filter fun entry => entry.clientMessageId ≠ clientMessageId

def addTombstone (key : String) (tombstones : List String) : List String :=
  if key ∈ tombstones then tombstones else key :: tombstones

section Reduce

variable [Host]

def sortEntries (entries : List QueueProjectionEntry) : List QueueProjectionEntry :=
  sortByPosition QueueProjectionEntry.position entries

def applySnapshot (state : TransportQueueReducerState) (snapshot : QueueSnapshot) :
    TransportQueueReducerState :=
  match canApplySnapshot state snapshot.announcement with
  | .error decision => withDegraded state decision
  | .ok () =>
    let isNewEpoch := state.queueEpoch ≠ none ∧ state.queueEpoch ≠ some snapshot.queueEpoch
    let deliveredTombstones := if isNewEpoch then [] else state.deliveredTombstones
    let liveEntries := sortEntries <|
      (snapshot.pendingMessageEntries.filter fun entry => entry.status.isLive).filter
        fun entry => tombstoneKey snapshot.queueEpoch entry.clientMessageId ∉ deliveredTombstones
    let failedEntries := sortEntries <|
      snapshot.failedMessageEntries.filter fun entry => entry.status.isFailed
    { state with
      sessionName := some snapshot.sessionName
      queueEpoch := some snapshot.queueEpoch
      queueAuthorityId := some snapshot.queueAuthorityId
      pendingMessageVersion := some snapshot.pendingMessageVersion
      pendingMessageEntries := liveEntries
      failedMessageEntries := failedEntries
      deliveredTombstones }

def applyDelivery (state : TransportQueueReducerState) (delivery : QueueDeliveryFact) :
    TransportQueueReducerState :=
  match state.baseline? with
  | none => withDegraded state "delivery_without_baseline"
  | some baseline =>
    if delivery.queueEpoch ≠ baseline.queueEpoch ∨
        delivery.queueAuthorityId ≠ baseline.queueAuthorityId then
      withDegraded state "delivery_epoch_or_authority_mismatch"
    else
      { state with
        pendingMessageVersion :=
          some (baseline.pendingMessageVersion.max delivery.pendingMessageVersion)
        pendingMessageEntries :=
          withoutMessage delivery.clientMessageId state.pendingMessageEntries
        failedMessageEntries :=
          withoutMessage delivery.clientMessageId state.failedMessageEntries
        deliveredTombstones := addTombstone
          (tombstoneKey delivery.queueEpoch delivery.clientMessageId) state.deliveredTombstones }

def applyReset (state : TransportQueueReducerState) (reset : QueueResetEvent) :
    TransportQueueReducerState :=
  match canApplySnapshot state reset.announcement with
  | .error decision => withDegraded state decision
  | .ok () =>
    { state with
      sessionName := some reset.sessionName
      queueEpoch := some reset.queueEpoch
      queueAuthorityId := some reset.queueAuthorityId
      pendingMessageVersion := some reset.pendingMessageVersion
      pendingMessageEntries := []
      failedMessageEntries := []
      deliveredTombstones := [] }

def applyReceipt (state : TransportQueueReducerState) (receipt : QueueMutationReceipt) :
    TransportQueueReducerState :=
  { state with
    receipts := (receipt.commandId, receipt) ::
      state.receipts.filter fun known => known.1 ≠ receipt.commandId }

/-- A terminal failure keeps a tombstone, as a delivery does, but leaves the
failed listing alone. -/
def applyFailure (state : TransportQueueReducerState) (failure : QueueFailureDropEvent) :
    TransportQueueReducerState :=
  match state.baseline? with
  | none => withDegraded state "failure_epoch_or_authority_mismatch"
  | some baseline =>
    if failure.queueEpoch ≠ baseline.queueEpoch ∨
        failure.queueAuthorityId ≠ baseline.queueAuthorityId then
      withDegraded state "failure_epoch_or_authority_mismatch"
    else
      { state with
        pendingMessageVersion :=
          some (baseline.pendingMessageVersion.max failure.pendingMessageVersion)
        pendingMessageEntries :=
          withoutMessage failure.clientMessageId state.pendingMessageEntries
        deliveredTombstones := addTombstone
          (tombstoneKey failure.queueEpoch failure.clientMessageId) state.deliveredTombstones }

def reduceTransportQueueEvent (state : TransportQueueReducerState) :
    QueueEvent → TransportQueueReducerState
  | .snapshot event => applySnapshot state event
  | .delivery event => applyDelivery state event
  | .reset event => applyReset state event
  | .receipt event => applyReceipt state event
  | .failure event => applyFailure state event

end Reduce

@[simp] theorem withDegraded_queueEpoch (state : TransportQueueReducerState) (reason : String) :
    (withDegraded state reason).queueEpoch = state.queueEpoch := rfl

@[simp] theorem withDegraded_pendingMessageEntries (state : TransportQueueReducerState)
    (reason : String) :
    (withDegraded state reason).pendingMessageEntries = state.pendingMessageEntries := rfl

@[simp] theorem withDegraded_deliveredTombstones (state : TransportQueueReducerState)
    (reason : String) :
    (withDegraded state reason).deliveredTombstones = state.deliveredTombstones := rfl

theorem mem_addTombstone {key other : String} {tombstones : List String} :
    other ∈ addTombstone key tombstones ↔ other = key ∨ other ∈ tombstones := by
  unfold addTombstone
  split
  · next present =>
      constructor
      · exact Or.inr
      · rintro (rfl | member)
        · exact present
        · exact member
  · exact List.mem_cons

theorem mem_withoutMessage {clientMessageId : String} {entries : List QueueProjectionEntry}
    {entry : QueueProjectionEntry} :
    entry ∈ withoutMessage clientMessageId entries ↔
      entry ∈ entries ∧ entry.clientMessageId ≠ clientMessageId := by
  simp [withoutMessage]

theorem baseline?_eq_some {state : TransportQueueReducerState} {baseline : QueueBaseline}
    (found : state.baseline? = some baseline) :
    state.queueEpoch = some baseline.queueEpoch ∧ baseline.queueEpoch ≠ "" ∧
      state.queueAuthorityId = some baseline.queueAuthorityId ∧ baseline.queueAuthorityId ≠ "" ∧
      state.pendingMessageVersion = some baseline.pendingMessageVersion := by
  unfold TransportQueueReducerState.baseline? at found
  split at found
  · next epoch authority version epochFound authorityFound versionFound =>
      cases found
      rw [truthy_eq_some_iff] at epochFound authorityFound
      exact ⟨epochFound.1, epochFound.2, authorityFound.1, authorityFound.2, versionFound⟩
  · cases found

theorem baseline?_of_fields {state : TransportQueueReducerState} {epoch authority : String}
    {version : JsNumber} (epochSet : state.queueEpoch = some epoch) (epochText : epoch ≠ "")
    (authoritySet : state.queueAuthorityId = some authority) (authorityText : authority ≠ "")
    (versionSet : state.pendingMessageVersion = some version) :
    state.baseline? = some ⟨epoch, authority, version⟩ := by
  rw [TransportQueueReducerState.baseline?, epochSet, authoritySet, versionSet,
    truthy_some epochText, truthy_some authorityText]

theorem baseline?_applySnapshot [Host] {state : TransportQueueReducerState}
    {snapshot : QueueSnapshot} (accepted : state.Accepts snapshot.announcement) :
    (applySnapshot state snapshot).baseline? =
      some ⟨snapshot.queueEpoch, snapshot.queueAuthorityId, snapshot.pendingMessageVersion⟩ := by
  have complete : snapshot.queueEpoch ≠ "" ∧ snapshot.queueAuthorityId ≠ "" := by
    have decision := accepted
    unfold TransportQueueReducerState.Accepts canApplySnapshot at decision
    split at decision
    · cases decision
    · next complete =>
        simp only [not_or] at complete
        exact ⟨complete.1, complete.2.1⟩
  unfold applySnapshot
  rw [show canApplySnapshot state snapshot.announcement = .ok () from accepted]
  exact baseline?_of_fields rfl complete.1 rfl complete.2 rfl

theorem accepts_iff {state : TransportQueueReducerState} {announced : QueueAnnouncement} :
    state.Accepts announced ↔
      (announced.queueEpoch ≠ "" ∧ announced.queueAuthorityId ≠ "" ∧
        announced.pendingMessageVersion.isFinite = true) ∧
      ∀ baseline, state.baseline? = some baseline →
        (announced.queueEpoch = baseline.queueEpoch ∧
          announced.queueAuthorityId = baseline.queueAuthorityId ∧
          announced.pendingMessageVersion.lt baseline.pendingMessageVersion = false) ∨
        (announced.queueEpoch ≠ baseline.queueEpoch ∧
          announced.queueAuthorityId ≠ baseline.queueAuthorityId ∧ announced.resets = true) := by
  unfold TransportQueueReducerState.Accepts canApplySnapshot
  by_cases complete : announced.queueEpoch = "" ∨ announced.queueAuthorityId = "" ∨
      announced.pendingMessageVersion.isFinite = false
  · rw [if_pos complete]
    constructor
    · intro impossible
      cases impossible
    · rintro ⟨⟨epoch, authority, version⟩, _⟩
      rcases complete with missing | missing | missing
      · exact False.elim (epoch missing)
      · exact False.elim (authority missing)
      · rw [missing] at version
        cases version
  · rw [if_neg complete]
    simp only [not_or, Bool.not_eq_false] at complete
    cases found : state.baseline? with
    | none => simp [complete]
    | some baseline =>
      obtain ⟨epoch, authority, version⟩ := complete
      by_cases sameEpoch : announced.queueEpoch = baseline.queueEpoch
      · by_cases sameAuthority : announced.queueAuthorityId = baseline.queueAuthorityId
        · cases stale : announced.pendingMessageVersion.lt baseline.pendingMessageVersion <;>
            simp_all
        · simp_all
      · by_cases sameAuthority : announced.queueAuthorityId = baseline.queueAuthorityId
        · simp_all
        · cases resets : announced.resets <;> simp_all

/-- A queued entry with the given message id, as the runs on fixed inputs show it. -/
def queuedEntry (clientMessageId : String) : QueueProjectionEntry where
  clientMessageId
  text := "hello"
  status := .queued
  placement := .normal
  ordinal := 0
  createdAt := 1
  updatedAt := 1
  commandId := none
  activityGeneration := none
  replacesClientMessageId := none
  failureReason := none
  dropReason := none
  sharedActor := none
  supervisionReference := none
  deliveryMode := none
  appendFallbackReason := none

def snapshotOf (epoch authority : String) (version : Int) (resetReason : Option QueueResetReason)
    (clientMessageIds : List String) : QueueSnapshot where
  sessionName := "deck"
  queueEpoch := epoch
  queueAuthorityId := authority
  pendingMessageVersion := .finite version
  pendingMessageEntries := clientMessageIds.map queuedEntry
  failedMessageEntries := []
  source := "read"
  resetReason
  dropReason := none
  activityGeneration := none

end ImCodes.Queue
