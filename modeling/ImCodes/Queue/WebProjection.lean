import ImCodes.Queue.Reducer

/-!
# The browser's queue projection

A browser session keeps its queue as plain fields. A snapshot or an event off the wire is put
to the shared reducer over a state rebuilt from these fields, and what comes out is spread over
them as a patch.
-/

set_option autoImplicit false

namespace ImCodes.Queue

open Library

structure TransportPendingMessageEntry where
  clientMessageId : String
  text : String
  sharedActor : Option QueueSharedActorProjection
  deliveryMode : Option SessionSendDeliveryMode
  appendFallbackReason : Option TransportAppendFallbackReason
deriving DecidableEq

structure TransportPendingQueueSyncState where
  transportPendingMessages : List String
  transportPendingMessageEntries : List TransportPendingMessageEntry
  transportPendingMessageVersion : Option JsNumber
  queueEpoch : Option String
  queueAuthorityId : Option String
  failedMessageEntries : List TransportPendingMessageEntry
  transportPendingSettledMessageIds : Option (List String)
deriving DecidableEq

/-- A patch that is not empty; it need not name the settled ids. -/
structure TransportPendingQueueSyncPatch where
  transportPendingMessages : List String
  transportPendingMessageEntries : List TransportPendingMessageEntry
  transportPendingMessageVersion : Option JsNumber
  queueEpoch : Option String
  queueAuthorityId : Option String
  failedMessageEntries : List TransportPendingMessageEntry
  transportPendingSettledMessageIds : Option (List String)
deriving DecidableEq

def TransportPendingQueueSyncState.initial : TransportPendingQueueSyncState :=
  ⟨[], [], none, none, none, [], none⟩

/-- `{ ...existing, ...patch }`. -/
def TransportPendingQueueSyncState.spread (existing : TransportPendingQueueSyncState) :
    Option TransportPendingQueueSyncPatch → TransportPendingQueueSyncState
  | none => existing
  | some patch =>
    { transportPendingMessages := patch.transportPendingMessages
      transportPendingMessageEntries := patch.transportPendingMessageEntries
      transportPendingMessageVersion := patch.transportPendingMessageVersion
      queueEpoch := patch.queueEpoch
      queueAuthorityId := patch.queueAuthorityId
      failedMessageEntries := patch.failedMessageEntries
      transportPendingSettledMessageIds :=
        patch.transportPendingSettledMessageIds.or existing.transportPendingSettledMessageIds }

/-- `extractTransportPendingMessageEntries`, of one entry. -/
def extractEntry (entry : TransportPendingMessageEntry) : Option TransportPendingMessageEntry :=
  let clientMessageId := trim entry.clientMessageId
  if clientMessageId = "" ∨ entry.text = "" then none
  else some { entry with clientMessageId }

def extractTransportPendingMessageEntries (entries : List TransportPendingMessageEntry) :
    List TransportPendingMessageEntry :=
  entries.filterMap extractEntry

/-- The fields a wire entry is read for. -/
def QueueProjectionEntry.toPending (entry : QueueProjectionEntry) :
    TransportPendingMessageEntry where
  clientMessageId := entry.clientMessageId
  text := entry.text
  sharedActor := entry.sharedActor
  deliveryMode := entry.deliveryMode
  appendFallbackReason := entry.appendFallbackReason

/-- An entry in the place `ordinal`; who sent it is not carried over. -/
def projectionAt (status : QueueEntryStatus) (ordinal : Nat)
    (entry : TransportPendingMessageEntry) : QueueProjectionEntry where
  clientMessageId := entry.clientMessageId
  text := entry.text
  status
  placement := .normal
  ordinal := ordinal
  createdAt := 0
  updatedAt := 0
  commandId := none
  activityGeneration := none
  replacesClientMessageId := none
  failureReason := none
  dropReason := none
  sharedActor := none
  supervisionReference := none
  deliveryMode := entry.deliveryMode
  appendFallbackReason := entry.appendFallbackReason

def toQueueProjectionEntries (entries : List TransportPendingMessageEntry)
    (status : QueueEntryStatus) : List QueueProjectionEntry :=
  (extractTransportPendingMessageEntries entries).mapIdx (projectionAt status)

def fromQueueProjectionEntries (entries : List QueueProjectionEntry) :
    List TransportPendingMessageEntry :=
  entries.map (·.toPending)

/-- The tombstones of the settled ids, under the epoch there is. -/
def settledTombstones (queueEpoch : Option String) (settledIds : List String) : List String :=
  match truthy queueEpoch with
  | none => []
  | some epoch =>
    (settledIds.filter (· ≠ "")).foldl
      (fun tombstones id => addTombstone (tombstoneKey epoch id) tombstones) []

def buildTransportQueueReducerBaseline (existing : TransportPendingQueueSyncState)
    (scopeKey : String) : TransportQueueReducerState :=
  { createTransportQueueReducerState (some scopeKey) with
    queueEpoch := existing.queueEpoch
    queueAuthorityId := existing.queueAuthorityId
    pendingMessageVersion := existing.transportPendingMessageVersion
    pendingMessageEntries :=
      toQueueProjectionEntries existing.transportPendingMessageEntries .queued
    failedMessageEntries := toQueueProjectionEntries existing.failedMessageEntries .failed
    deliveredTombstones := settledTombstones existing.queueEpoch
      (existing.transportPendingSettledMessageIds.getD []) }

/-- What a tombstone is kept for, if it is one of the epoch. -/
def settledIdOf (epoch key : String) : Option String :=
  let marked := (tombstoneKey epoch "").toList
  if marked.isPrefixOf key.toList then
    truthy (some (String.ofList (key.toList.drop marked.length)))
  else none

def settledMessageIds (state : TransportQueueReducerState) : List String :=
  match truthy state.queueEpoch with
  | none => []
  | some epoch => sortByUtf16 (state.deliveredTombstones.filterMap (settledIdOf epoch))

section
variable [Host]

/-- The snapshot put to the reducer: its entries read as the browser's own. -/
def QueueSnapshot.asWebSync (snapshot : QueueSnapshot) (scopeKey : String) : QueueSnapshot :=
  { snapshot with
    sessionName := scopeKey
    pendingMessageEntries :=
      toQueueProjectionEntries (fromQueueProjectionEntries snapshot.pendingMessageEntries) .queued
    failedMessageEntries :=
      toQueueProjectionEntries (fromQueueProjectionEntries snapshot.failedMessageEntries) .failed
    source := "web-sync" }

def buildTransportPendingSyncPatch (existing : TransportPendingQueueSyncState)
    (value : QueueSnapshot) (scopeKey : String) : Option TransportPendingQueueSyncPatch :=
  if value.queueEpoch = "" ∨ value.queueAuthorityId = "" ∨
      value.pendingMessageVersion.isFinite = false then
    none
  else
    let baseline := buildTransportQueueReducerBaseline existing scopeKey
    let next := applySnapshot baseline (value.asWebSync scopeKey)
    if next.degradedEvidence.length > baseline.degradedEvidence.length then none
    else
      let settledIds := settledMessageIds next
      some
        { transportPendingMessages := next.pendingMessageEntries.map (·.text)
          transportPendingMessageEntries := fromQueueProjectionEntries next.pendingMessageEntries
          transportPendingMessageVersion := next.pendingMessageVersion
          queueEpoch := some value.queueEpoch
          queueAuthorityId := some value.queueAuthorityId
          failedMessageEntries := fromQueueProjectionEntries next.failedMessageEntries
          transportPendingSettledMessageIds :=
            if settledIds ≠ [] ∨ existing.transportPendingSettledMessageIds ≠ none then
              some settledIds
            else none }

def QueueEvent.sessionName : QueueEvent → String
  | .snapshot event => event.sessionName
  | .delivery event => event.sessionName
  | .receipt event => event.sessionName
  | .failure event => event.sessionName
  | .reset event => event.sessionName

def QueueEvent.isReceipt : QueueEvent → Bool
  | .receipt _ => true
  | _ => false

def buildTransportQueueEventPatch (existing : TransportPendingQueueSyncState)
    (event : QueueEvent) (scopeKey : String) : Option TransportPendingQueueSyncPatch :=
  if event.sessionName ≠ "" ∧ event.sessionName ≠ scopeKey then none
  else if event.isReceipt then none
  else
    let baseline := buildTransportQueueReducerBaseline existing scopeKey
    let next := reduceTransportQueueEvent baseline event
    if next.degradedEvidence.length > baseline.degradedEvidence.length then none
    else if next.queueEpoch = none ∨ next.queueAuthorityId = none ∨
        next.pendingMessageVersion = none then
      none
    else
      let settledIds := settledMessageIds next
      some
        { transportPendingMessages := next.pendingMessageEntries.map (·.text)
          transportPendingMessageEntries := fromQueueProjectionEntries next.pendingMessageEntries
          transportPendingMessageVersion := next.pendingMessageVersion
          queueEpoch := next.queueEpoch
          queueAuthorityId := next.queueAuthorityId
          failedMessageEntries := fromQueueProjectionEntries next.failedMessageEntries
          transportPendingSettledMessageIds :=
            if settledIds ≠ [] ∨
                (existing.transportPendingSettledMessageIds ≠ none ∧
                  next.queueEpoch ≠ existing.queueEpoch) then
              some settledIds
            else none }

end

/-- What reaches a browser session: a payload that carries a snapshot, or a queue event. -/
inductive WebQueueInput
  | sync (value : QueueSnapshot)
  | event (fact : QueueEvent)
deriving DecidableEq

def WebQueueInput.sessionName : WebQueueInput → String
  | .sync value => value.sessionName
  | .event fact => fact.sessionName

def WebQueueInput.toQueueEvent : WebQueueInput → QueueEvent
  | .sync value => .snapshot value
  | .event fact => fact

def webStep [Host] (scopeKey : String) (existing : TransportPendingQueueSyncState) :
    WebQueueInput → TransportPendingQueueSyncState
  | .sync value => existing.spread (buildTransportPendingSyncPatch existing value scopeKey)
  | .event fact => existing.spread (buildTransportQueueEventPatch existing fact scopeKey)

end ImCodes.Queue
