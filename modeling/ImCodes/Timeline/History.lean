import ImCodes.Library.Run
import ImCodes.Timeline.Emitter

/-!
# The life of a session's timeline

Emissions and the dropping of a stopped session, with all events that were emitted.
`EmitEffect` says what one call of `emit` can do; everything about histories follows
from it.
-/

set_option autoImplicit false

namespace ImCodes.Timeline

open Library

structure EmittedEvent where
  event : TimelineEvent
  stored : Bool
deriving DecidableEq, Repr

structure TimelineHistory where
  emitter : TimelineEmitter
  emitted : List EmittedEvent

inductive TimelineStep where
  | emit (call : EmitCall)
  | forgetSession
deriving DecidableEq, Repr

namespace TimelineHistory

def start (sessionId : String) : TimelineHistory where
  emitter := .fresh sessionId
  emitted := []

def next (host : EmitHost) (history : TimelineHistory) : TimelineStep → TimelineHistory
  | .emit call =>
    let result := history.emitter.emit host call
    match result.2 with
    | .emitted event stored =>
      { emitter := result.1, emitted := history.emitted ++ [⟨event, stored⟩] }
    | .synthetic _ | .dropped => { history with emitter := result.1 }
  | .forgetSession => { history with emitter := history.emitter.forgetSession }

end TimelineHistory

namespace TimelineEmitter

variable {host : EmitHost} {emitter : TimelineEmitter} {call : EmitCall}

/-- The sequence number, the buffer and the identity of the session stay. -/
structure SameTimeline (after before : TimelineEmitter) : Prop where
  sessionId : after.sessionId = before.sessionId
  seq : after.seq = before.seq
  buffer : after.buffer = before.buffer

/-- Everything a call of `emit` can do. -/
inductive EmitEffect (host : EmitHost) (emitter : TimelineEmitter) (call : EmitCall) :
    TimelineEmitter × Emission → Prop
  | repeated (known : emitter.admitSignal host call = none) :
      EmitEffect host emitter call (emitter, .synthetic (emitter.syntheticEvent host call))
  | dropped {signalled : TimelineEmitter} (fresh : emitter.admitSignal host call = some signalled)
      (message : call.type = .userMessage)
      (again : (signalled.resetOnActivity call).admitPayload host call = none)
      (same : SameTimeline signalled emitter) :
      EmitEffect host emitter call (signalled.resetOnActivity call, .dropped)
  | emitted {signalled admitted : TimelineEmitter} {payload : TimelinePayload}
      (fresh : emitter.admitSignal host call = some signalled)
      (passed : (signalled.resetOnActivity call).admitPayload host call =
        some (admitted, payload))
      (same : SameTimeline admitted emitter) :
      EmitEffect host emitter call (admitted.record call (admitted.stamp host call payload),
        .emitted (admitted.stamp host call payload) (!call.isStreamingDelta payload))

theorem admitSignal_same {signalled : TimelineEmitter}
    (admitted : emitter.admitSignal host call = some signalled) :
    SameTimeline signalled emitter := by
  unfold admitSignal at admitted
  split at admitted
  · dsimp only at admitted
    split at admitted
    · split at admitted
      · cases admitted
      · cases admitted
        exact ⟨rfl, rfl, rfl⟩
    · cases admitted
      exact ⟨rfl, rfl, rfl⟩
  · split at admitted
    · cases admitted
    · cases admitted
      exact ⟨rfl, rfl, rfl⟩
  · split at admitted
    · cases admitted
    · cases admitted
      exact ⟨rfl, rfl, rfl⟩
  · cases admitted
    exact ⟨rfl, rfl, rfl⟩

theorem resetOnActivity_same : SameTimeline (emitter.resetOnActivity call) emitter := by
  unfold resetOnActivity
  split <;> exact ⟨rfl, rfl, rfl⟩

theorem admitPayload_cases :
    (emitter.admitPayload host call = none ∧ call.type = .userMessage) ∨
    ∃ recentUserMsg payload, emitter.admitPayload host call =
        some ({ emitter with recentUserMsg := recentUserMsg }, payload) ∧
      (call.type ≠ .userMessage → call.type ≠ .assistantText → payload = call.payload) := by
  unfold admitPayload
  split
  · next message =>
      dsimp only
      split
      · exact .inr ⟨_, _, rfl, fun other => absurd message other⟩
      · split
        · exact .inl ⟨rfl, message⟩
        · exact .inr ⟨_, _, rfl, fun other => absurd message other⟩
  · next text => exact .inr ⟨_, _, rfl, fun _ other => absurd text other⟩
  · exact .inr ⟨_, _, rfl, fun _ _ => rfl⟩

theorem emit_effect (host : EmitHost) (emitter : TimelineEmitter) (call : EmitCall) :
    EmitEffect host emitter call (emitter.emit host call) := by
  unfold emit
  cases admitted : emitter.admitSignal host call with
  | none => exact .repeated admitted
  | some signalled =>
    have same := admitSignal_same admitted
    dsimp only
    rcases @admitPayload_cases host (signalled.resetOnActivity call) call with
      ⟨repeated, message⟩ | ⟨recentUserMsg, payload, passed, _⟩
    · rw [repeated]
      exact .dropped admitted message repeated same
    · have reset : SameTimeline (signalled.resetOnActivity call) signalled := resetOnActivity_same
      rw [passed]
      exact .emitted admitted passed ⟨reset.sessionId.trans same.sessionId,
        reset.seq.trans same.seq, reset.buffer.trans same.buffer⟩

end TimelineEmitter

end ImCodes.Timeline
