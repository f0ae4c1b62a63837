import ImCodes.Timeline.History

/-!
# Latest-value signals

A handler that keeps the latest session state, agent status and usage, beside one that
hears every call. The emitter keeps repeated signals from the first one; the two agree
until a plain session state is taken for a repeated one although the handler has heard
another state since.
-/

set_option autoImplicit false

namespace ImCodes.Timeline

open Library TimelineEmitter

/-- The latest values, payloads up to the order of their members. -/
structure LatestSignals where
  state : Option String
  status : Option Json
  usage : Option Json
deriving DecidableEq, Repr

namespace LatestSignals

def observe (host : EmitHost) (latest : LatestSignals) (type : TimelineEventType)
    (payload : TimelinePayload) : LatestSignals :=
  match type with
  | .sessionState => { latest with state := some (payload.text host "state") }
  | .agentStatus => { latest with status := some (Json.sortKeys (.obj payload)) }
  | .usageUpdate => { latest with usage := some (Json.sortKeys (.obj payload)) }
  | _ => latest

def nothing : LatestSignals := ⟨none, none, none⟩

end LatestSignals

def isHeard (includeUserDeleted : Bool) (payload : TimelinePayload) : Bool :=
  !(payload.isTrue "userDeleted") || includeUserDeleted

/-- What a handler that hears the call itself makes of it. -/
def LatestSignals.call (host : EmitHost) (includeUserDeleted : Bool) (latest : LatestSignals)
    (call : EmitCall) : LatestSignals :=
  if isHeard includeUserDeleted call.payload then latest.observe host call.type call.payload
  else latest

def latestCalled (host : EmitHost) (includeUserDeleted : Bool) (calls : List EmitCall) :
    LatestSignals :=
  calls.foldl (LatestSignals.call host includeUserDeleted) .nothing

/-- What a handler makes of the events it is called with. -/
def latestDelivered (host : EmitHost) (includeUserDeleted : Bool) (history : TimelineHistory) :
    LatestSignals :=
  ((history.emitted.map (·.event)).filter (·.isDelivered includeUserDeleted)).foldl
    (fun latest event => latest.observe host event.type event.payload) .nothing

def emitNext (host : EmitHost) (history : TimelineHistory) (call : EmitCall) : TimelineHistory :=
  history.next host (.emit call)

/-- A plain session state that is taken for a repeated one, while the handler that would
hear it has another state. -/
structure SwallowsState (host : EmitHost) (includeUserDeleted : Bool) (history : TimelineHistory)
    (call : EmitCall) : Prop where
  type : call.type = .sessionState
  plain : call.isPlainState host = true
  known : history.emitter.lastSignalPayload .sessionState = some (call.fingerprint host)
  heard : isHeard includeUserDeleted call.payload = true
  other : (latestDelivered host includeUserDeleted history).state ≠
    some (call.payload.text host "state")

def isSnapshotType (type : TimelineEventType) : Bool :=
  type = .agentStatus || type = .usageUpdate

def LatestSignals.snapshot (latest : LatestSignals) (type : TimelineEventType) : Option Json :=
  if type = .agentStatus then latest.status else latest.usage

variable {host : EmitHost} {includeUserDeleted : Bool} {history : TimelineHistory}
  {emitter signalled : TimelineEmitter} {call : EmitCall}

theorem isHeard_of_sortKeys {left right : TimelinePayload}
    (same : Json.sortKeys (.obj left) = Json.sortKeys (.obj right)) :
    isHeard includeUserDeleted left = isHeard includeUserDeleted right := by
  have deleted : ∀ payload : TimelinePayload, payload.isTrue "userDeleted" =
      decide ((Json.sortKeys (.obj payload)).field? "userDeleted" = some (.bool true)) := by
    intro payload
    unfold TimelinePayload.isTrue TimelinePayload.own?
    rw [Json.field?_sortKeys]
    cases (payload.find? fun held => held.1 = "userDeleted").map (·.2) <;>
      simp [Json.sortKeys_eq_bool]
  unfold isHeard
  rw [deleted, deleted, same]

/-! ## What one call does -/

theorem admitSignal_snapshot {type : TimelineEventType} (snapshot : isSnapshotType type = true)
    (admitted : emitter.admitSignal host call = some signalled) :
    signalled.lastSignalPayload type =
      if call.type = type then some (call.fingerprint host)
      else emitter.lastSignalPayload type := by
  unfold isSnapshotType at snapshot
  unfold admitSignal at admitted
  split at admitted
  · next isState =>
      have other : type ≠ .sessionState := by
        rintro rfl
        simp at snapshot
      rw [isState, if_neg (Ne.symm other)]
      dsimp only at admitted
      split at admitted
      · split at admitted
        · cases admitted
        · cases admitted
          exact Function.update_of_ne other _ _
      · cases admitted
        rfl
  · split at admitted
    · cases admitted
    · cases admitted
      by_cases same : call.type = type
      · rw [if_pos same, same]
        exact Function.update_self ..
      · rw [if_neg same]
        exact Function.update_of_ne (Ne.symm same) _ _
  · split at admitted
    · cases admitted
    · cases admitted
      by_cases same : call.type = type
      · rw [if_pos same, same]
        exact Function.update_self ..
      · rw [if_neg same]
        exact Function.update_of_ne (Ne.symm same) _ _
  · next noState noStatus noUsage =>
      cases admitted
      rw [if_neg]
      rintro rfl
      simp only [Bool.or_eq_true, decide_eq_true_eq] at snapshot
      exact snapshot.elim noStatus noUsage

theorem admitSignal_none (repeated : emitter.admitSignal host call = none) :
    emitter.lastSignalPayload call.type = some (call.fingerprint host) ∧
      ((call.type = .sessionState ∧ call.isPlainState host = true) ∨
        isSnapshotType call.type = true) := by
  unfold admitSignal at repeated
  split at repeated
  · next isState =>
      dsimp only at repeated
      split at repeated
      · next plain =>
          split at repeated
          · next known =>
              rw [isState]
              exact ⟨known, .inl ⟨rfl, plain⟩⟩
          · cases repeated
      · cases repeated
  · next isStatus =>
      split at repeated
      · next known => exact ⟨known, .inr (by simp [isSnapshotType, isStatus])⟩
      · cases repeated
  · next isUsage =>
      split at repeated
      · next known => exact ⟨known, .inr (by simp [isSnapshotType, isUsage])⟩
      · cases repeated
  · cases repeated

theorem admitSignal_fresh (type : call.type = .sessionState) (plain : call.isPlainState host = true)
    (admitted : emitter.admitSignal host call = some signalled) :
    emitter.lastSignalPayload .sessionState ≠ some (call.fingerprint host) := by
  intro known
  unfold admitSignal at admitted
  rw [type] at admitted
  dsimp only at admitted
  rw [if_pos plain, if_pos known] at admitted
  cases admitted

theorem resetOnActivity_snapshot {type : TimelineEventType}
    (snapshot : isSnapshotType type = true) :
    (emitter.resetOnActivity call).lastSignalPayload type = emitter.lastSignalPayload type := by
  unfold resetOnActivity
  split
  · refine Function.update_of_ne ?_ _ _
    rintro rfl
    simp [isSnapshotType] at snapshot
  · rfl

/-- An emission either delivers the payload it was called with, or keeps a repeated
signal or message back. -/
inductive SignalEffect (host : EmitHost) (history : TimelineHistory) (call : EmitCall) :
    TimelineHistory → Prop
  | swallowed (type : call.type = .sessionState) (plain : call.isPlainState host = true)
      (known : history.emitter.lastSignalPayload .sessionState = some (call.fingerprint host)) :
      SignalEffect host history call history
  | repeated (snapshot : isSnapshotType call.type = true)
      (known : history.emitter.lastSignalPayload call.type = some (call.fingerprint host)) :
      SignalEffect host history call history
  | silent {after : TimelineEmitter} (message : call.type = .userMessage)
      (same : ∀ type, isSnapshotType type = true →
        after.lastSignalPayload type = history.emitter.lastSignalPayload type) :
      SignalEffect host history call { history with emitter := after }
  | emitted {after : TimelineEmitter} {event : TimelineEvent} {stored : Bool}
      (type : event.type = call.type)
      (payload : call.type ≠ .userMessage → call.type ≠ .assistantText →
        event.payload = call.payload)
      (unknown : call.type = .sessionState → call.isPlainState host = true →
        history.emitter.lastSignalPayload .sessionState ≠ some (call.fingerprint host))
      (remembered : ∀ type, isSnapshotType type = true → after.lastSignalPayload type =
        if call.type = type then some (call.fingerprint host)
        else history.emitter.lastSignalPayload type) :
      SignalEffect host history call
        { emitter := after, emitted := history.emitted ++ [⟨event, stored⟩] }

theorem emitNext_effect (host : EmitHost) (history : TimelineHistory) (call : EmitCall) :
    SignalEffect host history call (emitNext host history call) := by
  have effect := emit_effect host history.emitter call
  unfold emitNext TimelineHistory.next
  dsimp only
  generalize result : history.emitter.emit host call = done at effect
  cases effect with
  | repeated known =>
    obtain ⟨stored, kind⟩ := admitSignal_none known
    rcases kind with ⟨isState, plain⟩ | snapshot
    · rw [isState] at stored
      exact .swallowed isState plain stored
    · exact .repeated snapshot stored
  | @dropped signalled fresh message again same =>
    refine .silent message fun type snapshot => ?_
    rw [resetOnActivity_snapshot snapshot, admitSignal_snapshot snapshot fresh, if_neg]
    rintro rfl
    simp [isSnapshotType, message] at snapshot
  | @emitted signalled admitted payload fresh passed same =>
    rcases @admitPayload_cases host (signalled.resetOnActivity call) call with
      ⟨repeated, _⟩ | ⟨recentUserMsg, held, found, kept⟩
    · rw [repeated] at passed
      cases passed
    · rw [found] at passed
      cases passed
      refine .emitted rfl kept (fun type plain => admitSignal_fresh type plain fresh)
        fun type snapshot => ?_
      exact (resetOnActivity_snapshot snapshot).trans (admitSignal_snapshot snapshot fresh)

/-! ## Agreement -/

/-- A remembered snapshot that the handler has subscribed to is the one it has. -/
def Remembered (host : EmitHost) (includeUserDeleted : Bool) (history : TimelineHistory) : Prop :=
  ∀ type, isSnapshotType type = true → ∀ fingerprint,
    history.emitter.lastSignalPayload type = some fingerprint →
    ∃ payload undefinedKeys, fingerprint = timelinePayloadFingerprint payload undefinedKeys ∧
      (isHeard includeUserDeleted payload = true →
        (latestDelivered host includeUserDeleted history).snapshot type =
          some (Json.sortKeys (.obj payload)))

theorem latestDelivered_append {event : TimelineEvent} {stored : Bool} {after : TimelineEmitter}
    (history : TimelineHistory) :
    latestDelivered host includeUserDeleted
        { emitter := after, emitted := history.emitted ++ [⟨event, stored⟩] } =
      if isHeard includeUserDeleted event.payload then
        (latestDelivered host includeUserDeleted history).observe host event.type event.payload
      else latestDelivered host includeUserDeleted history := by
  unfold latestDelivered isHeard
  cases deleted : event.payload.isTrue "userDeleted" <;> cases includeUserDeleted <;>
    simp [TimelineEvent.isDelivered, TimelineEvent.isUserDeletedTimelineEvent, deleted]

theorem fingerprint_snapshot (snapshot : isSnapshotType call.type = true) :
    call.fingerprint host = timelinePayloadFingerprint call.payload call.undefinedKeys := by
  unfold isSnapshotType at snapshot
  unfold EmitCall.fingerprint
  split
  · next isState => simp [isState] at snapshot
  · rfl

theorem observe_snapshot (latest : LatestSignals) {type : TimelineEventType}
    (snapshot : isSnapshotType type = true) (payload : TimelinePayload) :
    (latest.observe host type payload).snapshot type = some (Json.sortKeys (.obj payload)) := by
  simp only [isSnapshotType, Bool.or_eq_true, decide_eq_true_eq] at snapshot
  rcases snapshot with rfl | rfl <;> rfl

theorem observe_other (latest : LatestSignals) {type other : TimelineEventType}
    (snapshot : isSnapshotType type = true) (apart : other ≠ type) (payload : TimelinePayload) :
    (latest.observe host other payload).snapshot type = latest.snapshot type := by
  simp only [isSnapshotType, Bool.or_eq_true, decide_eq_true_eq] at snapshot
  rcases snapshot with rfl | rfl
  · cases other <;> first | rfl | exact absurd rfl apart
  · cases other <;> first | rfl | exact absurd rfl apart

theorem observe_same (latest : LatestSignals) {type : TimelineEventType}
    (snapshot : isSnapshotType type = true) {payload : TimelinePayload}
    (held : latest.snapshot type = some (Json.sortKeys (.obj payload))) :
    latest.observe host type payload = latest := by
  simp only [isSnapshotType, Bool.or_eq_true, decide_eq_true_eq] at snapshot
  rcases snapshot with rfl | rfl
  · have status : latest.status = some (Json.sortKeys (.obj payload)) := held
    simp [LatestSignals.observe, ← status]
  · have usage : latest.usage = some (Json.sortKeys (.obj payload)) := held
    simp [LatestSignals.observe, ← usage]

theorem Remembered.next (remembered : Remembered host includeUserDeleted history) :
    Remembered host includeUserDeleted (emitNext host history call) := by
  intro type snapshot fingerprint held
  have effect := emitNext_effect host history call
  generalize emitNext host history call = after at effect held ⊢
  cases effect with
  | swallowed => exact remembered type snapshot fingerprint held
  | repeated => exact remembered type snapshot fingerprint held
  | silent message same =>
    rw [same type snapshot] at held
    exact remembered type snapshot fingerprint held
  | @emitted after event stored sameType samePayload unknown update =>
    rw [update type snapshot] at held
    rw [latestDelivered_append]
    by_cases here : call.type = type
    · subst here
      rw [if_pos rfl] at held
      cases held
      have payload : event.payload = call.payload := by
        refine samePayload (fun message => ?_) fun text => ?_
        · simp [isSnapshotType, message] at snapshot
        · simp [isSnapshotType, text] at snapshot
      refine ⟨call.payload, call.undefinedKeys, fingerprint_snapshot snapshot, fun heard => ?_⟩
      rw [payload, if_pos heard, sameType]
      exact observe_snapshot _ snapshot _
    · rw [if_neg here] at held
      obtain ⟨payload, undefinedKeys, same, kept⟩ := remembered type snapshot fingerprint held
      refine ⟨payload, undefinedKeys, same, fun heard => ?_⟩
      split
      · rw [sameType, observe_other _ snapshot here]
        exact kept heard
      · exact kept heard

theorem observe_plain (latest : LatestSignals) {type : TimelineEventType}
    (noState : type ≠ .sessionState) (snapshot : isSnapshotType type = false)
    (payload : TimelinePayload) : latest.observe host type payload = latest := by
  cases type <;> first | rfl | exact absurd rfl noState | cases snapshot

theorem agree_next_iff (remembered : Remembered host includeUserDeleted history)
    (latest : LatestSignals) (agree : latestDelivered host includeUserDeleted history = latest) :
    latestDelivered host includeUserDeleted (emitNext host history call) =
        latest.call host includeUserDeleted call ↔
      ¬ SwallowsState host includeUserDeleted history call := by
  have effect := emitNext_effect host history call
  generalize emitNext host history call = after at effect ⊢
  unfold LatestSignals.call
  cases effect with
  | swallowed type plain known =>
    rw [agree]
    by_cases heard : isHeard includeUserDeleted call.payload = true
    · rw [if_pos heard, type]
      constructor
      · intro same swallows
        refine swallows.other ?_
        rw [agree, same]
        rfl
      · intro keeps
        have state : latest.state = some (call.payload.text host "state") := by
          by_contra other
          exact keeps ⟨type, plain, known, heard, by rwa [agree]⟩
        simp [LatestSignals.observe, ← state]
    · rw [if_neg heard]
      exact ⟨fun _ swallows => heard swallows.heard, fun _ => rfl⟩
  | repeated snapshot known =>
    have noState : call.type ≠ .sessionState := fun isState => by
      simp [isSnapshotType, isState] at snapshot
    refine iff_of_true ?_ fun swallows => noState swallows.type
    obtain ⟨payload, undefinedKeys, same, kept⟩ := remembered call.type snapshot _ known
    rw [fingerprint_snapshot snapshot] at same
    have value : Json.sortKeys (.obj call.payload) = Json.sortKeys (.obj payload) :=
      congrArg SignalFingerprint.value same
    rw [agree] at kept ⊢
    split
    · next heard =>
        rw [isHeard_of_sortKeys value] at heard
        exact (observe_same latest snapshot ((kept heard).trans (by rw [value]))).symm
    · rfl
  | silent message same =>
    have noState : call.type ≠ .sessionState := fun isState => by simp [message] at isState
    refine iff_of_true ?_ fun swallows => noState swallows.type
    rw [observe_plain latest noState (by rw [message]; rfl), ite_self]
    exact agree
  | @emitted after event stored sameType samePayload unknown update =>
    refine iff_of_true ?_ fun swallows => ?_
    · rw [latestDelivered_append, agree, sameType]
      by_cases plain : call.type = .userMessage ∨ call.type = .assistantText
      · have noState : call.type ≠ .sessionState := by
          rintro isState
          rcases plain with message | text
          · simp [message] at isState
          · simp [text] at isState
        have noSnapshot : isSnapshotType call.type = false := by
          rcases plain with message | text
          · rw [message]; rfl
          · rw [text]; rfl
        rw [observe_plain latest noState noSnapshot, observe_plain latest noState noSnapshot,
          ite_self, ite_self]
      · obtain ⟨noMessage, noText⟩ := not_or.mp plain
        rw [samePayload noMessage noText]
    · exact unknown swallows.type swallows.plain swallows.known

theorem agree_throughout_iff (remembered : Remembered host includeUserDeleted history)
    (latest : LatestSignals) (agree : latestDelivered host includeUserDeleted history = latest)
    (calls : List EmitCall) :
    (∀ earlier, earlier <+: calls →
      latestDelivered host includeUserDeleted (run (emitNext host) history earlier) =
        earlier.foldl (LatestSignals.call host includeUserDeleted) latest) ↔
    Meets (emitNext host) (fun history call =>
      ¬ SwallowsState host includeUserDeleted history call) history calls := by
  induction calls generalizing history latest with
  | nil =>
    refine iff_of_true (fun earlier isPrefix => ?_) trivial
    rw [List.prefix_nil.mp isPrefix]
    exact agree
  | cons call rest ih =>
    have next := @agree_next_iff host includeUserDeleted history call remembered latest agree
    constructor
    · intro throughout
      have here := throughout [call] ⟨rest, rfl⟩
      refine ⟨next.mp here, (ih remembered.next _ here).mp fun earlier isPrefix => ?_⟩
      exact throughout (call :: earlier) (List.prefix_cons_iff.mpr (.inr ⟨earlier, rfl, isPrefix⟩))
    · intro meets earlier isPrefix
      rcases List.prefix_cons_iff.mp isPrefix with rfl | ⟨later, rfl, laterPrefix⟩
      · exact agree
      · exact (ih remembered.next _ (next.mpr meets.1)).mpr meets.2 later laterPrefix

/-- After every call a handler has the values of one that hears every call itself, if and
only if no call swallows a session state. -/
theorem latest_signals_agree_iff (host : EmitHost) (includeUserDeleted : Bool)
    (sessionId : String) (calls : List EmitCall) :
    (∀ earlier, earlier <+: calls →
      latestDelivered host includeUserDeleted (run (emitNext host) (.start sessionId) earlier) =
        latestCalled host includeUserDeleted earlier) ↔
    Meets (emitNext host) (fun history call =>
      ¬ SwallowsState host includeUserDeleted history call) (.start sessionId) calls := by
  refine agree_throughout_iff ?_ .nothing rfl calls
  intro type _ fingerprint held
  cases held

section FixedSignals

private def stateCall (state : String) : Int → EmitCall :=
  plainEmitCall .sessionState [("state", .str state)]

/-- The second `running` is taken for a repetition of the first one. -/
theorem running_after_idle_swallowed :
    ¬ ∀ earlier, earlier <+: [stateCall "running" 1, stateCall "idle" 2, stateCall "running" 3] →
      latestDelivered plainEmitHost true
          (run (emitNext plainEmitHost) (.start "deck_api_brain") earlier) =
        latestCalled plainEmitHost true earlier := by
  intro agree
  exact absurd (agree _ (List.prefix_refl _)) (by decide)

end FixedSignals

end ImCodes.Timeline
