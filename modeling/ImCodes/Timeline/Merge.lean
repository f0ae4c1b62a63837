import ImCodes.Library.Json
import Mathlib.Data.Prod.Lex

/-!
# Timeline events

An event as it is emitted, stored and sent: an envelope and a payload of JSON members.
A property that holds `undefined` is an absent one.
-/

set_option autoImplicit false

namespace ImCodes.Timeline

open Library

inductive TimelineEventType where
  | userMessage
  | assistantText
  | assistantThinking
  | toolCall
  | toolResult
  | fileChange
  | modeState
  | sessionState
  | terminalSnapshot
  | commandAck
  | transportQueueSnapshot
  | transportQueueDelivery
  | transportQueueReceipt
  | transportQueueFailure
  | transportQueueReset
  | agentStatus
  | usageUpdate
  | askQuestion
  | memoryContext
  | peerAuditResult
  | peerAuditStatus
  | delegationReply
  | nativeCollaborationPolicy
  | supervisionAssignmentStatus
  | taskPairEvent
  | memoryCompression
  | executionCloneTerminal
deriving DecidableEq, Repr

inductive TimelineSource where
  | daemon
  | hook
  | terminalParse
  | terminalSpinner
deriving DecidableEq, Repr

inductive TimelineConfidence where
  | high
  | medium
  | low
deriving DecidableEq, Repr

abbrev TimelinePayload := List (String × Json)

namespace TimelinePayload

def own? (payload : TimelinePayload) (key : String) : Option Json :=
  (payload.find? fun member => member.1 = key).map (·.2)

/-- `payload[key] === true`. -/
def isTrue (payload : TimelinePayload) (key : String) : Bool :=
  payload.own? key = some (.bool true)

/-- `typeof payload[key] === 'string'`. -/
def string? (payload : TimelinePayload) (key : String) : Option String :=
  (payload.own? key).bind Json.asString?

def set (payload : TimelinePayload) (key : String) (value : Json) : TimelinePayload :=
  Json.setMember key value payload

@[simp] theorem own?_set (payload : TimelinePayload) (key other : String) (value : Json) :
    (payload.set key value).own? other = if key = other then some value else payload.own? other := by
  induction payload with
  | nil => by_cases same : key = other <;> simp [set, own?, Json.setMember, same]
  | cons member rest ih =>
    obtain ⟨name, held⟩ := member
    by_cases overwritten : name = key
    · subst overwritten
      by_cases same : name = other <;> simp [set, own?, Json.setMember, same]
    · by_cases here : name = other
      · subst here
        simp [set, own?, Json.setMember, overwritten, Ne.symm overwritten]
      · simp only [set, own?, Json.setMember, overwritten, ↓reduceIte, List.find?_cons, here,
          decide_false] at ih ⊢
        exact ih

end TimelinePayload

/-- The top-level `completeness`, `timelineCompleteness` and `detailRefs` are those of
events a server or a hydration has rewritten. -/
structure TimelineEvent where
  eventId : String
  sessionId : String
  ts : Int
  seq : Int
  epoch : Int
  source : TimelineSource
  confidence : TimelineConfidence
  type : TimelineEventType
  payload : TimelinePayload
  hidden : Bool
  completeness : Option Json
  timelineCompleteness : Option Json
  detailRefs : Option Json
deriving DecidableEq, Repr

namespace TimelineEvent

def SameEnvelope (left right : TimelineEvent) : Prop :=
  { left with payload := [] } = { right with payload := [] }

/-- Equal up to the order in which the payload got its members. -/
structure Same (left right : TimelineEvent) : Prop where
  envelope : left.SameEnvelope right
  payload : ∀ key, left.payload.own? key = right.payload.own? key

end TimelineEvent

/-! ## Revisions of one event

`preferTimelineEvent` decides between two revisions of an event and lets the winner of
two usage snapshots keep what only the loser knew. The decision is a linear order on
ranks that the carried fields do not enter.
-/

namespace TimelineEvent

def isStreaming (event : TimelineEvent) : Bool :=
  event.payload.isTrue "streaming"

def isUserDeletedTimelineEvent (event : TimelineEvent) : Bool :=
  event.payload.isTrue "userDeleted"

end TimelineEvent

def hasDetailRefs : Option Json → Bool
  | some (.arr (_ :: _)) => true
  | _ => false

/-- `left ?? right`. -/
def coalesce : Option Json → Option Json → Option Json
  | none, right => right
  | some .null, right => right
  | left, _ => left

def getCompletenessRank (event : TimelineEvent) : Nat :=
  let payload := event.payload
  let completeness := coalesce (coalesce (coalesce (payload.own? "completeness")
    (payload.own? "timelineCompleteness")) event.completeness) event.timelineCompleteness
  if completeness = some (.str "hydrated") then 2
  else if completeness = some (.str "full") then 1
  else if payload.isTrue "historyPayloadTruncated" then 0
  else if payload.isTrue "payloadTruncated" then 0
  else if payload.isTrue "timelinePayloadTruncated" then 0
  else if payload.own? "completeness" = some (.str "preview") then 0
  else if payload.own? "timelineCompleteness" = some (.str "preview") then 0
  else if event.completeness = some (.str "preview") then 0
  else if event.timelineCompleteness = some (.str "preview") then 0
  else if hasDetailRefs (payload.own? "detailRefs") then 0
  else if hasDetailRefs event.detailRefs then 0
  else if ((payload.own? "detail").bind (Json.field? "truncated")) = some (.bool true) then 0
  else 1

def compareCompleteness (existing incoming : TimelineEvent) : Int :=
  let existingRank := getCompletenessRank existing
  let incomingRank := getCompletenessRank incoming
  if existingRank = incomingRank then 0
  else if existingRank < incomingRank then 1 else -1

def compareNumbers (left right : Int) : Int :=
  if left = right then 0 else if right < left then 1 else -1

def isAuthoritativeDelegationAuditVerdict (event : TimelineEvent) : Bool :=
  event.type = .delegationReply && event.source = .daemon && event.confidence = .high &&
    (event.payload.own? "verdict" = some (.str "PASS") ||
      event.payload.own? "verdict" = some (.str "REWORK"))

def usageSnapshotPayloadKeys : List String :=
  ["inputTokens", "cacheTokens", "outputTokens", "costUsd", "codexStatus"]

/-- Provider metadata outranks a configured preset, and both a model-name inference. -/
def usageContextWindowSourceRank : Option Json → Nat
  | some (.str "provider") => 2
  | some (.str "preset") => 1
  | _ => 0

def isUsableContextWindow : Option Json → Bool
  | some (.num window) => 0 < window
  | _ => false

def canShareUsageContext (preferred alternate : TimelineEvent) : Bool :=
  match preferred.payload.string? "model", alternate.payload.string? "model" with
  | some preferredModel, some alternateModel => preferredModel = alternateModel
  | _, _ => true

/-- One field the preferred snapshot lacks and the other one has. -/
def carryField (alternate payload : TimelinePayload) (key : String) : TimelinePayload :=
  match payload.own? key, alternate.own? key with
  | none, some value => payload.set key value
  | _, _ => payload

def carryContextWindow (preferred alternate : TimelineEvent) (payload : TimelinePayload) :
    TimelinePayload :=
  let preferredContextRank :=
    usageContextWindowSourceRank (preferred.payload.own? "contextWindowSource")
  let alternateContextRank :=
    usageContextWindowSourceRank (alternate.payload.own? "contextWindowSource")
  if preferredContextRank < alternateContextRank &&
      isUsableContextWindow (alternate.payload.own? "contextWindow") &&
      canShareUsageContext preferred alternate then
    match alternate.payload.own? "contextWindow", alternate.payload.own? "contextWindowSource" with
    | some window, some source =>
      (payload.set "contextWindow" window).set "contextWindowSource" source
    | _, _ => payload
  else payload

/-- Carry forward occupancy and cost, and a stronger context window for the same model. -/
def supplementUsageSnapshot (preferred alternate : TimelineEvent) : TimelineEvent :=
  if preferred.type ≠ .usageUpdate ∨ alternate.type ≠ .usageUpdate then preferred
  else { preferred with
    payload := carryContextWindow preferred alternate <|
      usageSnapshotPayloadKeys.foldl (carryField alternate.payload) preferred.payload }

def choosePreferredTimelineEvent (existing incoming : TimelineEvent) : TimelineEvent :=
  if existing.isUserDeletedTimelineEvent ≠ incoming.isUserDeletedTimelineEvent then
    if incoming.isUserDeletedTimelineEvent then incoming else existing
  else if existing.isStreaming ≠ incoming.isStreaming then
    if incoming.isStreaming then existing else incoming
  else if isAuthoritativeDelegationAuditVerdict existing ≠
      isAuthoritativeDelegationAuditVerdict incoming then
    if isAuthoritativeDelegationAuditVerdict incoming then incoming else existing
  -- Between two generations of a message in flight, the newer one is the longer text.
  else if existing.isStreaming ∧ incoming.isStreaming ∧
      compareNumbers incoming.epoch existing.epoch ≠ 0 then
    if 0 < compareNumbers incoming.epoch existing.epoch then incoming else existing
  else if existing.isStreaming ∧ incoming.isStreaming ∧
      compareNumbers incoming.seq existing.seq ≠ 0 then
    if 0 < compareNumbers incoming.seq existing.seq then incoming else existing
  else if compareCompleteness existing incoming ≠ 0 then
    if 0 < compareCompleteness existing incoming then incoming else existing
  else if compareNumbers incoming.epoch existing.epoch ≠ 0 then
    if 0 < compareNumbers incoming.epoch existing.epoch then incoming else existing
  else if compareNumbers incoming.seq existing.seq ≠ 0 then
    if 0 < compareNumbers incoming.seq existing.seq then incoming else existing
  else if compareNumbers incoming.ts existing.ts ≠ 0 then
    if 0 < compareNumbers incoming.ts existing.ts then incoming else existing
  else incoming

/-- The preferred one of two revisions, with what only the other one knew. -/
def preferTimelineEvent (existing incoming : TimelineEvent) : TimelineEvent :=
  let preferred := choosePreferredTimelineEvent existing incoming
  let alternate := if preferred = existing then incoming else existing
  supplementUsageSnapshot preferred alternate

/-! ## The rank of a revision -/

abbrev RevisionRank := Bool ×ₗ Bool ×ₗ Bool ×ₗ Int ×ₗ Int ×ₗ Nat ×ₗ Int ×ₗ Int ×ₗ Int

def revisionRank (event : TimelineEvent) : RevisionRank :=
  toLex (event.isUserDeletedTimelineEvent, toLex (!event.isStreaming,
    toLex (isAuthoritativeDelegationAuditVerdict event,
    toLex (if event.isStreaming then event.epoch else 0,
    toLex (if event.isStreaming then event.seq else 0,
    toLex (getCompletenessRank event, toLex (event.epoch, toLex (event.seq, event.ts))))))))

theorem compareNumbers_eq_zero {left right : Int} : compareNumbers left right = 0 ↔ left = right := by
  unfold compareNumbers
  split
  · simp_all
  · split <;> simp_all

theorem compareNumbers_pos {left right : Int} : 0 < compareNumbers left right ↔ right < left := by
  unfold compareNumbers
  split
  · simp_all
  · split <;> simp_all

theorem compareCompleteness_eq_zero {left right : TimelineEvent} :
    compareCompleteness left right = 0 ↔ getCompletenessRank left = getCompletenessRank right := by
  unfold compareCompleteness
  dsimp only
  split
  · simp_all
  · split <;> simp_all

theorem compareCompleteness_pos {left right : TimelineEvent} :
    0 < compareCompleteness left right ↔ getCompletenessRank left < getCompletenessRank right := by
  unfold compareCompleteness
  dsimp only
  split
  · simp_all
  · split <;> simp_all

theorem level_decides {Level Rest Choice : Type} [LinearOrder Level] [LinearOrder Rest]
    {left right : Level} {leftRest rightRest : Rest} {test above : Prop} [Decidable test]
    [Decidable above] {incoming existing choice : Choice} (tested : test ↔ left ≠ right)
    (higher : left ≠ right → (above ↔ left < right))
    (rest : left = right → choice = if leftRest ≤ rightRest then incoming else existing) :
    (if test then if above then incoming else existing else choice) =
      if toLex (left, leftRest) ≤ toLex (right, rightRest) then incoming else existing := by
  by_cases same : left = right
  · rw [if_neg fun apart => tested.mp apart same, rest same]
    simp [Prod.Lex.toLex_le_toLex, same]
  · rw [if_pos (tested.mpr same)]
    simp [Prod.Lex.toLex_le_toLex, same, higher same]

theorem bool_lt_of_ne {left right : Bool} (apart : left ≠ right) : right = true ↔ left < right := by
  cases left <;> cases right <;> simp_all

theorem choosePreferredTimelineEvent_eq (existing incoming : TimelineEvent) :
    choosePreferredTimelineEvent existing incoming =
      if revisionRank existing ≤ revisionRank incoming then incoming else existing := by
  unfold choosePreferredTimelineEvent revisionRank
  have settles : (if incoming.isStreaming = true then existing else incoming) =
      if (!incoming.isStreaming) = true then incoming else existing := by
    cases incoming.isStreaming <;> rfl
  rw [settles]
  refine level_decides Iff.rfl bool_lt_of_ne fun _ => ?_
  refine level_decides (by simp) bool_lt_of_ne fun settled => ?_
  refine level_decides Iff.rfl bool_lt_of_ne fun _ => ?_
  have same : existing.isStreaming = incoming.isStreaming := Bool.not_inj settled
  have number : ∀ left right : Int, (compareNumbers right left ≠ 0 ↔ left ≠ right) ∧
      (0 < compareNumbers right left ↔ left < right) := fun left right =>
    ⟨not_congr (compareNumbers_eq_zero.trans eq_comm), compareNumbers_pos⟩
  refine level_decides ?_ (fun apart => ?_) fun _ => ?_
  · cases streaming : incoming.isStreaming <;> simp [same, streaming, (number _ _).1]
  · cases streaming : incoming.isStreaming
    · simp [same, streaming] at apart
    · simpa [same, streaming] using (number existing.epoch incoming.epoch).2
  refine level_decides ?_ (fun apart => ?_) fun _ => ?_
  · cases streaming : incoming.isStreaming <;> simp [same, streaming, (number _ _).1]
  · cases streaming : incoming.isStreaming
    · simp [same, streaming] at apart
    · simpa [same, streaming] using (number existing.seq incoming.seq).2
  refine level_decides (not_congr compareCompleteness_eq_zero)
    (fun _ => compareCompleteness_pos) fun _ => ?_
  refine level_decides (number _ _).1 (fun _ => (number _ _).2) fun _ => ?_
  refine level_decides (number _ _).1 (fun _ => (number _ _).2) fun _ => ?_
  by_cases tie : existing.ts = incoming.ts
  · rw [if_neg ((number _ _).1.not.mpr (not_not.mpr tie)), if_pos tie.le]
  · rw [if_pos ((number _ _).1.mpr tie)]
    simp only [(number _ _).2, le_iff_lt_or_eq, tie, or_false]

/-! ## What carrying changes -/

def carriedKeys : List String :=
  usageSnapshotPayloadKeys ++ ["contextWindow", "contextWindowSource"]

/-- The same revision, but for carried fields. -/
structure Revises (event origin : TimelineEvent) : Prop where
  envelope : event.SameEnvelope origin
  payload : ∀ key, key ∉ carriedKeys → event.payload.own? key = origin.payload.own? key

theorem Revises.refl (event : TimelineEvent) : Revises event event :=
  ⟨rfl, fun _ _ => rfl⟩

theorem Revises.trans {first second third : TimelineEvent} (left : Revises first second)
    (right : Revises second third) : Revises first third :=
  ⟨left.envelope.trans right.envelope,
    fun key free => (left.payload key free).trans (right.payload key free)⟩

theorem own?_carryField (alternate payload : TimelinePayload) (key other : String) :
    (carryField alternate payload key).own? other =
      if key = other then (payload.own? other).or (alternate.own? other)
      else payload.own? other := by
  unfold carryField
  split
  · next lacking carried =>
      by_cases same : key = other
      · subst same
        simp [lacking, carried]
      · simp [same]
  · next kept =>
      by_cases same : key = other
      · subst same
        cases held : payload.own? key with
        | some value => simp
        | none =>
          cases offered : alternate.own? key with
          | none => simp
          | some value => exact absurd offered (kept value held)
      · simp [same]

theorem own?_carryFields (alternate payload : TimelinePayload) (keys : List String)
    (other : String) :
    (keys.foldl (carryField alternate) payload).own? other =
      if other ∈ keys then (payload.own? other).or (alternate.own? other)
      else payload.own? other := by
  induction keys generalizing payload with
  | nil => simp
  | cons key rest ih =>
    rw [List.foldl_cons, ih, own?_carryField]
    by_cases same : key = other
    · subst same
      by_cases listed : key ∈ rest
      · cases payload.own? key <;> simp [listed]
      · simp [listed]
    · simp [same, Ne.symm same]

end ImCodes.Timeline
