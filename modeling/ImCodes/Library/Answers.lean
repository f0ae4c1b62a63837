import Mathlib.Data.List.Basic

/-!
# Requests and answers in a trace

A request that stands in a trace of events is answered if an answer stands after it. While a trace
grows, a request may also be pending, by the place it has in the trace.
-/

set_option autoImplicit false

namespace ImCodes.Library

variable {Event : Type}

def AnsweredOr (pending : Nat → Prop) (request answer : Event) (trace : List Event) : Prop :=
  ∀ earlier later, trace = earlier ++ request :: later → answer ∈ later ∨ pending earlier.length

def Answered (request answer : Event) (trace : List Event) : Prop :=
  ∀ earlier later, trace = earlier ++ request :: later → answer ∈ later

variable {pending stillPending : Nat → Prop} {request answer : Event} {trace more : List Event}

theorem answeredOr_nil : AnsweredOr pending request answer [] := by
  intro earlier later split
  cases List.append_eq_nil_iff.mp split.symm |>.2

theorem AnsweredOr.answered (held : AnsweredOr pending request answer trace)
    (none : ∀ place, ¬ pending place) : Answered request answer trace := by
  intro earlier later split
  exact (held earlier later split).resolve_right (none _)

theorem AnsweredOr.mono (held : AnsweredOr pending request answer trace)
    (kept : ∀ earlier later, trace = earlier ++ request :: later → pending earlier.length →
      answer ∈ later ∨ stillPending earlier.length) :
    AnsweredOr stillPending request answer trace := by
  intro earlier later split
  rcases held earlier later split with answered | waits
  · exact Or.inl answered
  · exact kept earlier later split waits

/-- A trace grows: what was pending still is, or is answered by what comes; a request among what
comes is answered there, or pending. -/
theorem AnsweredOr.append (held : AnsweredOr pending request answer trace)
    (kept : ∀ place, pending place → answer ∈ more ∨ stillPending place)
    (fresh : ∀ before after, more = before ++ request :: after →
      answer ∈ after ∨ stillPending (trace.length + before.length)) :
    AnsweredOr stillPending request answer (trace ++ more) := by
  intro earlier later split
  rcases List.append_eq_append_iff.mp split with
    ⟨before, isEarlier, isMore⟩ | ⟨rest, isTrace, isLater⟩
  · rw [isEarlier, List.length_append]
    exact fresh before later isMore
  · cases rest with
    | nil =>
      rw [List.append_nil] at isTrace
      have isFresh := fresh [] later (by simpa using isLater.symm)
      simpa [isTrace] using isFresh
    | cons first rest =>
      rw [List.cons_append] at isLater
      obtain ⟨isRequest, isRest⟩ := List.cons.inj isLater
      rw [← isRequest] at isTrace
      rw [isRest]
      rcases held earlier rest isTrace with answered | waits
      · exact Or.inl (List.mem_append_left _ answered)
      · rcases kept _ waits with answered | waits
        · exact Or.inl (List.mem_append_right _ answered)
        · exact Or.inr waits

end ImCodes.Library
