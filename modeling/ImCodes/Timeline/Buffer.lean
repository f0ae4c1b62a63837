import ImCodes.Timeline.Carry
import ImCodes.Timeline.Replay

/-!
# The ring buffer

Whatever is in the buffer is a revision that was emitted, perhaps with fields carried
over from others.
-/

set_option autoImplicit false

namespace ImCodes.Timeline

open Library TimelineEmitter

variable {host : EmitHost} {history : TimelineHistory} {buffer : List TimelineEvent}
  {event held : TimelineEvent}

theorem preferTimelineEvent_revises (existing incoming : TimelineEvent) :
    Revises (preferTimelineEvent existing incoming) existing ∨
      Revises (preferTimelineEvent existing incoming) incoming := by
  unfold preferTimelineEvent
  dsimp only
  rw [choosePreferredTimelineEvent_eq]
  split
  · exact .inr supplementUsageSnapshot_revises
  · exact .inl supplementUsageSnapshot_revises

theorem Revises.cursorKey {event origin : TimelineEvent} (revises : Revises event origin) :
    cursorKey event = cursorKey origin := by
  have envelope := revises.envelope
  simp only [TimelineEvent.SameEnvelope, TimelineEvent.mk.injEq] at envelope
  simp [TimelineEmitter.cursorKey, envelope]

theorem Revises.eventId {event origin : TimelineEvent} (revises : Revises event origin) :
    event.eventId = origin.eventId := by
  have envelope := revises.envelope
  simp only [TimelineEvent.SameEnvelope, TimelineEvent.mk.injEq] at envelope
  exact envelope.1

def pushed (buffer : List TimelineEvent) (call : EmitCall) (event : TimelineEvent) :
    List TimelineEvent :=
  if call.isStable then pushStable buffer event else buffer ++ [event]

theorem record_buffer (emitter : TimelineEmitter) (call : EmitCall) (event : TimelineEvent) :
    (emitter.record call event).buffer = evict (pushed emitter.buffer call event) := by
  simp only [record, pushed]

theorem mem_pushed {call : EmitCall} (member : held ∈ pushed buffer call event) :
    held ∈ buffer ∨ Revises held event ∨ ∃ existing ∈ buffer, Revises held existing := by
  unfold pushed at member
  split at member
  · unfold pushStable at member
    split at member
    · next existing found =>
        rcases List.mem_append.mp member with kept | merged
        · exact .inl (List.mem_of_mem_eraseP kept)
        · rw [List.mem_singleton.mp merged]
          rcases preferTimelineEvent_revises existing event with old | new
          · exact .inr (.inr ⟨existing, List.mem_of_find?_eq_some found, old⟩)
          · exact .inr (.inl new)
    · rcases List.mem_append.mp member with kept | new
      · exact .inl kept
      · rw [List.mem_singleton.mp new]
        exact .inr (.inl (.refl event))
  · rcases List.mem_append.mp member with kept | new
    · exact .inl kept
    · rw [List.mem_singleton.mp new]
      exact .inr (.inl (.refl event))

theorem mem_evict (member : held ∈ evict buffer) : held ∈ buffer :=
  List.mem_of_mem_drop member

def Buffered (history : TimelineHistory) : Prop :=
  ∀ held ∈ history.emitter.buffer, ∃ origin ∈ history.emitted, Revises held origin.event

/-- A step forgets the session, adds one stamped event, or leaves the timeline alone. -/
inductive StepEffect (host : EmitHost) (history : TimelineHistory) :
    TimelineStep → TimelineHistory → Prop
  | forgotten : StepEffect host history .forgetSession
      { history with emitter := .fresh history.emitter.sessionId }
  | quiet {call : EmitCall} {after : TimelineEmitter}
      (same : SameTimeline after history.emitter) (used : history.emitter ≠
        .fresh history.emitter.sessionId) :
      StepEffect host history (.emit call) { history with emitter := after }
  | emitted {call : EmitCall} {after : TimelineEmitter} {event : TimelineEvent}
      (sessionId : after.sessionId = history.emitter.sessionId) (seq : after.seq = event.seq)
      (stamped : event.seq = history.emitter.seq + 1) (epoch : event.epoch = host.epoch)
      (buffer : after.buffer = evict (pushed history.emitter.buffer call event)) :
      StepEffect host history (.emit call)
        { emitter := after
          emitted := history.emitted ++
            [⟨event, !call.isStreamingDelta event.payload⟩] }

theorem admitSignal_fresh_isSome (sessionId : String) (call : EmitCall) :
    (TimelineEmitter.fresh sessionId).admitSignal host call ≠ none := by
  unfold admitSignal
  split
  · dsimp only
    split
    · rw [if_neg (by simp [TimelineEmitter.fresh])]
      exact Option.some_ne_none _
    · exact Option.some_ne_none _
  · rw [if_neg (by simp [TimelineEmitter.fresh])]
    exact Option.some_ne_none _
  · rw [if_neg (by simp [TimelineEmitter.fresh])]
    exact Option.some_ne_none _
  · exact Option.some_ne_none _

theorem recentUserMsg_of_dropped {emitter : TimelineEmitter} {call : EmitCall}
    (dropped : emitter.admitPayload host call = none) : emitter.recentUserMsg ≠ none := by
  intro nothing
  unfold admitPayload at dropped
  rw [nothing] at dropped
  split at dropped
  · dsimp only at dropped
    split at dropped
    · cases dropped
    · cases dropped
  · cases dropped
  · cases dropped

theorem recentUserMsg_kept {emitter signalled : TimelineEmitter} {call : EmitCall}
    (admitted : emitter.admitSignal host call = some signalled) :
    (signalled.resetOnActivity call).recentUserMsg = emitter.recentUserMsg := by
  have kept : signalled.recentUserMsg = emitter.recentUserMsg := by
    unfold admitSignal at admitted
    split at admitted
    · dsimp only at admitted
      split at admitted
      · split at admitted
        · cases admitted
        · cases admitted
          rfl
      · cases admitted
        rfl
    · split at admitted
      · cases admitted
      · cases admitted
        rfl
    · split at admitted
      · cases admitted
      · cases admitted
        rfl
    · cases admitted
      rfl
  unfold resetOnActivity
  split
  · exact kept
  · exact kept

theorem next_effect (host : EmitHost) (history : TimelineHistory) (step : TimelineStep) :
    StepEffect host history step (history.next host step) := by
  cases step with
  | forgetSession => exact .forgotten
  | emit call =>
    have effect := emit_effect host history.emitter call
    unfold TimelineHistory.next
    dsimp only
    generalize history.emitter.emit host call = done at effect
    cases effect with
    | repeated known =>
      refine .quiet ⟨rfl, rfl, rfl⟩ fun unused => ?_
      rw [unused] at known
      exact admitSignal_fresh_isSome _ call known
    | @dropped signalled fresh message again same =>
      have reset : SameTimeline (signalled.resetOnActivity call) signalled :=
        resetOnActivity_same
      refine .quiet ⟨reset.sessionId.trans same.sessionId, reset.seq.trans same.seq,
        reset.buffer.trans same.buffer⟩ fun unused => ?_
      refine recentUserMsg_of_dropped again ?_
      rw [recentUserMsg_kept fresh, unused]
      rfl
    | @emitted signalled admitted payload fresh passed same =>
      refine .emitted ?_ rfl ?_ rfl ?_
      · exact same.sessionId
      · exact congrArg (· + 1) same.seq
      · rw [record_buffer, same.buffer]

theorem Buffered.next (buffered : Buffered history) (step : TimelineStep) :
    Buffered (history.next host step) := by
  have effect := next_effect host history step
  generalize history.next host step = after at effect
  cases effect with
  | forgotten =>
    intro held member
    cases member
  | quiet same used =>
    intro held member
    rw [show _ = history.emitter.buffer from same.buffer] at member
    exact buffered held member
  | @emitted call after event sessionId seq stamped epoch kept =>
    intro held member
    dsimp only at member ⊢
    rw [kept] at member
    have earlier : ∀ {existing}, existing ∈ history.emitter.buffer → Revises held existing →
        ∃ origin ∈ history.emitted ++ [⟨event, !call.isStreamingDelta event.payload⟩],
          Revises held origin.event := by
      intro existing existingMember revises
      obtain ⟨origin, originMember, originRevises⟩ := buffered existing existingMember
      exact ⟨origin, List.mem_append_left _ originMember, revises.trans originRevises⟩
    rcases mem_pushed (mem_evict member) with old | new | ⟨existing, existingMember, revises⟩
    · exact earlier old (.refl held)
    · exact ⟨_, List.mem_append_right _ (List.mem_singleton_self _), new⟩
    · exact earlier existingMember revises

end ImCodes.Timeline
