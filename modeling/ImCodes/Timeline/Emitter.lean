import ImCodes.Library.JsonForms
import ImCodes.Timeline.Merge

/-!
# The timeline emitter

The part of `TimelineEmitter` that belongs to one session. An emission may be answered
with a synthetic event, dropped as a repeated message, or stamped, put into the ring
buffer, given to the store and delivered.
-/

set_option autoImplicit false

namespace ImCodes.Timeline

open Library

/-- What the emitter asks of the rest of the daemon, and its own start time. -/
structure EmitHost where
  epoch : Int
  isSessionModelSwitchCommandText : String → Bool
  isMemoryNoiseTurn : String → Bool
  /-- The path of a trusted temp file that a message consists of. -/
  trustedTempPath : String → Option String
  /-- The hash of session, type, time and payload that names an event. -/
  eventIdHash : String → TimelineEventType → Int → TimelinePayload → String
  /-- How the host language writes a number. -/
  numberText : Rat → String

/-- A temp file as `statSync` and `readFileSync` find it. -/
structure TempFile where
  size : Nat
  content : Option String
deriving DecidableEq, Repr

/-- The arguments of one `emit`, and what the clock and the disk answer during it. -/
structure EmitCall where
  type : TimelineEventType
  payload : TimelinePayload
  /-- The properties of the payload that are present and hold `undefined`. -/
  undefinedKeys : List String
  source : Option TimelineSource
  confidence : Option TimelineConfidence
  eventId : Option String
  ts : Option Int
  hidden : Bool
  now : Int
  tempFile : Option TempFile
deriving DecidableEq, Repr

/-- The text a fingerprint is, as the value it writes out. -/
structure SignalFingerprint where
  value : Json
  undefinedKeys : List String
deriving DecidableEq, Repr

structure RecentUserMessage where
  text : String
  ts : Int
deriving DecidableEq, Repr

/-- A session no event was emitted for yet has sequence number 0. -/
structure TimelineEmitter where
  sessionId : String
  seq : Int
  buffer : List TimelineEvent
  lastSessionState : Option String
  lastSignalPayload : TimelineEventType → Option SignalFingerprint
  recentUserMsg : Option RecentUserMessage

def maxBuffer : Nat := 500

def maxTempFileInlineBytes : Nat := 64 * 1024

def timelineTerminalSessionStates : List String := ["idle", "error", "stopped"]

def timelinePayloadFingerprint (payload : TimelinePayload) (undefinedKeys : List String) :
    SignalFingerprint where
  value := Json.sortKeys (.obj payload)
  undefinedKeys := sortByUtf16 undefinedKeys

/-- `String(payload[key] ?? '')`. -/
def TimelinePayload.text (host : EmitHost) (payload : TimelinePayload) (key : String) : String :=
  match payload.own? key with
  | none | some .null => ""
  | some value => value.toText host.numberText

def isJsonNumber : Option Json → Bool
  | some (.num _) => true
  | _ => false

def hasStructuredQueueMutation (payload : TimelinePayload) : Bool :=
  let pendingMessageVersion :=
    if isJsonNumber (payload.own? "pendingMessageVersion") then
      payload.own? "pendingMessageVersion"
    else payload.own? "transportPendingMessageVersion"
  (trimmed (payload.string? "queueEpoch")).isSome &&
    (trimmed (payload.string? "queueAuthorityId")).isSome && isJsonNumber pendingMessageVersion

namespace EmitCall

def hasErrorMutation (call : EmitCall) : Bool :=
  (call.payload.own? "error").isSome || call.undefinedKeys.contains "error"

def isPlainState (host : EmitHost) (call : EmitCall) : Bool :=
  !(timelineTerminalSessionStates.contains (call.payload.text host "state")) &&
    !(hasStructuredQueueMutation call.payload) && !call.hasErrorMutation

/-- What the call leaves to be compared with the next signal of its type. -/
def fingerprint (host : EmitHost) (call : EmitCall) : SignalFingerprint :=
  match call.type with
  | .sessionState => timelinePayloadFingerprint [("state", .str (call.payload.text host "state"))] []
  | _ => timelinePayloadFingerprint call.payload call.undefinedKeys

/-- Activity after which the next session state is meaningful again. -/
def isVisibleActivity (call : EmitCall) : Bool :=
  !(call.payload.isTrue "userDeleted") &&
    match call.type with
    | .userMessage | .assistantText | .toolCall | .toolResult => true
    | .agentStatus => ((call.payload.own? "status").map Json.truthy).getD false
    | _ => false

/-- `opts?.eventId != null`. -/
def isStable (call : EmitCall) : Bool := call.eventId.isSome

def isStreamingDelta (call : EmitCall) (payload : TimelinePayload) : Bool :=
  call.isStable && payload.isTrue "streaming"

/-- The payload of a user message with the control command marked and its temp file read. -/
def resolveUserMessage (host : EmitHost) (call : EmitCall) : TimelinePayload :=
  let text := call.payload.text host "text"
  let payload :=
    if host.isSessionModelSwitchCommandText text then
      call.payload.set "memoryExcluded" (.bool true)
    else call.payload
  match host.trustedTempPath text, call.tempFile with
  | some path, some file =>
    if maxTempFileInlineBytes < file.size then
      (payload.set "tempFile" (.str path)).set "tempFileSize" (.num file.size)
    else
      match file.content with
      | some content => (payload.set "text" (.str content)).set "tempFile" (.str path)
      | none => payload
  | _, _ => payload

/-- The payload of an assistant text, kept out of memory if it is a failed request. -/
def excludeNoise (host : EmitHost) (call : EmitCall) : TimelinePayload :=
  match call.payload.string? "text" with
  | some text =>
    if host.isMemoryNoiseTurn text then
      (call.payload.set "memoryExcluded" (.bool true)).set "assistantKind"
        (.str ((call.payload.string? "assistantKind").getD "error"))
    else call.payload
  | none => call.payload

end EmitCall

/-- What `emit` answers: a synthetic event for a repeated signal, `null` for a repeated
message, or the event it recorded, which the store gets unless it is a streaming delta. -/
inductive Emission where
  | synthetic (event : TimelineEvent)
  | dropped
  | emitted (event : TimelineEvent) (stored : Bool)
deriving DecidableEq, Repr

def TimelineEvent.isDelivered (includeUserDeleted : Bool) (event : TimelineEvent) : Bool :=
  !event.isUserDeletedTimelineEvent || includeUserDeleted

namespace TimelineEmitter

/-- The signal is remembered, or found to be a repeated one. -/
def admitSignal (host : EmitHost) (emitter : TimelineEmitter) (call : EmitCall) :
    Option TimelineEmitter :=
  match call.type with
  | .sessionState =>
    let state := call.payload.text host "state"
    if call.isPlainState host then
      if emitter.lastSignalPayload .sessionState = some (call.fingerprint host) then none
      else some { emitter with
        lastSignalPayload :=
          Function.update emitter.lastSignalPayload .sessionState (some (call.fingerprint host))
        lastSessionState := some state }
    else some { emitter with lastSessionState := some state }
  | .agentStatus | .usageUpdate =>
    if emitter.lastSignalPayload call.type = some (call.fingerprint host) then none
    else some { emitter with
      lastSignalPayload :=
        Function.update emitter.lastSignalPayload call.type (some (call.fingerprint host)) }
  | _ => some emitter

def resetOnActivity (emitter : TimelineEmitter) (call : EmitCall) : TimelineEmitter :=
  if call.isVisibleActivity then
    { emitter with
      lastSessionState := none
      lastSignalPayload := Function.update emitter.lastSignalPayload .sessionState none }
  else emitter

/-- The payload to record, or nothing for a message sent twice within five seconds. -/
def admitPayload (host : EmitHost) (emitter : TimelineEmitter) (call : EmitCall) :
    Option (TimelineEmitter × TimelinePayload) :=
  match call.type with
  | .userMessage =>
    let payload := call.resolveUserMessage host
    let resolvedText := payload.text host "text"
    if call.payload.isTrue "allowDuplicate" || call.hidden then some (emitter, payload)
    else if emitter.recentUserMsg.any fun prev =>
        prev.text = resolvedText && decide (call.now - prev.ts < 5000) then none
    else some ({ emitter with recentUserMsg := some ⟨resolvedText, call.now⟩ }, payload)
  | .assistantText => some (emitter, call.excludeNoise host)
  | _ => some (emitter, call.payload)

/-- A stable event keeps the time it was first seen. -/
def anchoredTs (emitter : TimelineEmitter) (call : EmitCall) : Int :=
  let ts := call.ts.getD call.now
  match call.eventId with
  | none => ts
  | some stableEventId =>
    match emitter.buffer.find? fun event => event.eventId = stableEventId with
    | some prior => if prior.ts < ts then prior.ts else ts
    | none => ts

def eventIdOf (host : EmitHost) (emitter : TimelineEmitter) (call : EmitCall)
    (payload : TimelinePayload) : String :=
  (truthy call.eventId).getD
    (host.eventIdHash emitter.sessionId call.type (emitter.anchoredTs call) payload)

def stamp (host : EmitHost) (emitter : TimelineEmitter) (call : EmitCall)
    (payload : TimelinePayload) : TimelineEvent where
  eventId := emitter.eventIdOf host call payload
  sessionId := emitter.sessionId
  ts := emitter.anchoredTs call
  seq := emitter.seq + 1
  epoch := host.epoch
  source := call.source.getD .daemon
  confidence := call.confidence.getD .high
  type := call.type
  payload := payload
  hidden := call.hidden
  completeness := none
  timelineCompleteness := none
  detailRefs := none

/-- A stable update takes the place of its earlier revision at the end of the buffer. -/
def pushStable (buffer : List TimelineEvent) (event : TimelineEvent) : List TimelineEvent :=
  match buffer.find? fun held => held.eventId = event.eventId with
  | some existing =>
    buffer.eraseP (fun held => held.eventId = event.eventId) ++
      [preferTimelineEvent existing event]
  | none => buffer ++ [event]

/-- `buf.splice(0, buf.length - MAX_BUFFER)`. -/
def evict (buffer : List TimelineEvent) : List TimelineEvent :=
  buffer.drop (buffer.length - maxBuffer)

def record (emitter : TimelineEmitter) (call : EmitCall) (event : TimelineEvent) :
    TimelineEmitter :=
  { emitter with
    seq := event.seq
    buffer := evict <|
      if call.isStable then pushStable emitter.buffer event else emitter.buffer ++ [event] }

def syntheticEvent (host : EmitHost) (emitter : TimelineEmitter) (call : EmitCall) :
    TimelineEvent where
  eventId := ""
  sessionId := emitter.sessionId
  ts := call.now
  seq := 0
  epoch := host.epoch
  source := call.source.getD .daemon
  confidence := call.confidence.getD .high
  type := call.type
  payload := call.payload
  hidden := false
  completeness := none
  timelineCompleteness := none
  detailRefs := none

def emit (host : EmitHost) (emitter : TimelineEmitter) (call : EmitCall) :
    TimelineEmitter × Emission :=
  match emitter.admitSignal host call with
  | none => (emitter, .synthetic (emitter.syntheticEvent host call))
  | some signalled =>
    match (signalled.resetOnActivity call).admitPayload host call with
    | none => (signalled.resetOnActivity call, .dropped)
    | some (admitted, payload) =>
      let event := admitted.stamp host call payload
      (admitted.record call event, .emitted event (!call.isStreamingDelta payload))

/-- The emitter before the first event of a session, and after the session was forgotten. -/
def fresh (sessionId : String) : TimelineEmitter where
  sessionId := sessionId
  seq := 0
  buffer := []
  lastSessionState := none
  lastSignalPayload := fun _ => none
  recentUserMsg := none

def forgetSession (emitter : TimelineEmitter) : TimelineEmitter :=
  fresh emitter.sessionId

end TimelineEmitter

/-- A host on which nothing is filtered. -/
def plainEmitHost : EmitHost where
  epoch := 1700000000000
  isSessionModelSwitchCommandText := fun _ => false
  isMemoryNoiseTurn := fun _ => false
  trustedTempPath := fun _ => none
  eventIdHash := fun _ _ ts _ => toString ts
  numberText := fun number => toString number.num

/-- A call with a payload and no more. -/
def plainEmitCall (type : TimelineEventType) (payload : TimelinePayload) (now : Int) :
    EmitCall where
  type := type
  payload := payload
  undefinedKeys := []
  source := none
  confidence := none
  eventId := none
  ts := none
  hidden := false
  now := now
  tempFile := none

end ImCodes.Timeline
