import ImCodes.Timeline.Window

/-!
# Windows that keep text first

`mergeTimelineEventsWithTextPriority` bounds the text and the detail events of a window apart,
so that a burst of tool results does not push the conversation out of it. The budgets are spent
with `slice(-count)`, which keeps everything where the count is zero.
-/

set_option autoImplicit false

namespace ImCodes.Timeline

open Library TimelineEvent

/-- `textTypes.includes(event.type)`. -/
def isTextEvent (event : TimelineEvent) : Bool :=
  event.type = .userMessage || event.type = .assistantText

/-- `items.slice(-count)`. -/
def sliceLast (count : Nat) (items : List TimelineEvent) : List TimelineEvent :=
  if count = 0 then items else items.drop (items.length - count)

/-- How often the events change from text to detail or back. -/
def transitions : List TimelineEvent → Nat
  | previous :: current :: rest =>
    transitions (current :: rest) + if isTextEvent current ≠ isTextEvent previous then 1 else 0
  | _ => 0

section Budgets

variable (sameObject : TimelineEvent → TimelineEvent → Bool)
  (existing incoming : List TimelineEvent) (maxDetailEvents maxTextEvents maxTotalEvents : Nat)

def mergedWhole : List TimelineEvent :=
  mergeTimelineEvents sameObject existing incoming
    (max (max maxDetailEvents maxTextEvents) (existing.length + incoming.length))

def takesContiguousTail : Bool :=
  let merged := mergedWhole sameObject existing incoming maxDetailEvents maxTextEvents
  maxTotalEvents < merged.length && 2 < transitions merged

/-- `mergeTimelineEventsWithTextPriority`. -/
def mergeTimelineEventsWithTextPriority : List TimelineEvent :=
  let merged := mergedWhole sameObject existing incoming maxDetailEvents maxTextEvents
  let text := sliceLast (min maxTextEvents maxTotalEvents) (merged.filter isTextEvent)
  let detailBudget := maxTotalEvents - text.length
  let detail := sliceLast (min maxDetailEvents detailBudget)
    (merged.filter fun event => !isTextEvent event)
  if takesContiguousTail sameObject existing incoming maxDetailEvents maxTextEvents
      maxTotalEvents then
    sliceLast maxTotalEvents merged
  else
    let retained := sortByTime (text ++ detail)
    if retained = merged then merged else retained

/-- The window is within its budgets, and its text is the newest of the merge. -/
structure RespectsBudgets (result : List TimelineEvent) : Prop where
  total : result.length ≤ maxTotalEvents
  text : takesContiguousTail sameObject existing incoming maxDetailEvents maxTextEvents
    maxTotalEvents = false → (result.filter isTextEvent).length ≤ maxTextEvents
  detail : takesContiguousTail sameObject existing incoming maxDetailEvents maxTextEvents
    maxTotalEvents = false →
    (result.filter fun event => !isTextEvent event).length ≤ maxDetailEvents
  newestText : takesContiguousTail sameObject existing incoming maxDetailEvents maxTextEvents
    maxTotalEvents = false →
    Library.Newest timeKey (min maxTextEvents maxTotalEvents)
      ((mergedWhole sameObject existing incoming maxDetailEvents maxTextEvents).filter isTextEvent)
      (result.filter isTextEvent)

/-- No budget is zero that there is an event to spend on, and a cached array that is returned as
it is has its newest text last. -/
structure BudgetsLeft : Prop where
  tail : takesContiguousTail sameObject existing incoming maxDetailEvents maxTextEvents
    maxTotalEvents = true → maxTotalEvents ≠ 0
  text : takesContiguousTail sameObject existing incoming maxDetailEvents maxTextEvents
    maxTotalEvents = false → min maxTextEvents maxTotalEvents = 0 →
    (mergedWhole sameObject existing incoming maxDetailEvents maxTextEvents).filter isTextEvent = []
  detail : takesContiguousTail sameObject existing incoming maxDetailEvents maxTextEvents
    maxTotalEvents = false →
    min maxDetailEvents (maxTotalEvents - min (min maxTextEvents maxTotalEvents)
      ((mergedWhole sameObject existing incoming maxDetailEvents maxTextEvents).filter
        isTextEvent).length) = 0 →
    (mergedWhole sameObject existing incoming maxDetailEvents maxTextEvents).filter
      (fun event => !isTextEvent event) = []
  order : takesContiguousTail sameObject existing incoming maxDetailEvents maxTextEvents
    maxTotalEvents = false → leavesUnchanged sameObject existing incoming = true →
    CutsByRank timeKey ((existing.filter isTextEvent).length - min maxTextEvents maxTotalEvents)
      (existing.filter isTextEvent)

end Budgets

@[simp] theorem sliceLast_zero (items : List TimelineEvent) : sliceLast 0 items = items := rfl

theorem sliceLast_eq_drop {count : Nat} {items : List TimelineEvent}
    (spends : count = 0 → items = []) : sliceLast count items = items.drop (items.length - count) := by
  unfold sliceLast
  split
  · next zero => simp [spends zero]
  · rfl

theorem length_sliceLast {count : Nat} {items : List TimelineEvent}
    (spends : count = 0 → items = []) :
    (sliceLast count items).length = min count items.length := by
  rw [sliceLast_eq_drop spends, List.length_drop]
  omega

theorem sliceLast_subset {count : Nat} {items : List TimelineEvent} {event : TimelineEvent}
    (member : event ∈ sliceLast count items) : event ∈ items := by
  unfold sliceLast at member
  split at member
  · exact member
  · exact List.mem_of_mem_drop member

section Retained

variable {sameObject : TimelineEvent → TimelineEvent → Bool}
  {existing incoming : List TimelineEvent} {maxDetailEvents maxTextEvents maxTotalEvents : Nat}

theorem retained_perm (apart : takesContiguousTail sameObject existing incoming maxDetailEvents
    maxTextEvents maxTotalEvents = false) :
    let merged := mergedWhole sameObject existing incoming maxDetailEvents maxTextEvents
    let text := sliceLast (min maxTextEvents maxTotalEvents) (merged.filter isTextEvent)
    let detail := sliceLast (min maxDetailEvents (maxTotalEvents - text.length))
      (merged.filter fun event => !isTextEvent event)
    let result := mergeTimelineEventsWithTextPriority sameObject existing incoming maxDetailEvents
      maxTextEvents maxTotalEvents
    result.length = text.length + detail.length ∧ (result.filter isTextEvent).Perm text ∧
      (result.filter fun event => !isTextEvent event).Perm detail := by
  intro merged text detail result
  have texts : ∀ event ∈ text, isTextEvent event = true := by
    intro event member
    exact (List.mem_filter.mp (sliceLast_subset member)).2
  have details : ∀ event ∈ detail, isTextEvent event = false := by
    intro event member
    simpa using (List.mem_filter.mp (sliceLast_subset member)).2
  have whole : result.Perm (text ++ detail) := by
    have same : result = sortByTime (text ++ detail) := by
      change mergeTimelineEventsWithTextPriority _ _ _ _ _ _ = _
      simp only [mergeTimelineEventsWithTextPriority, apart, Bool.false_eq_true, ↓reduceIte]
      split
      · next equal => exact equal.symm
      · rfl
    rw [same]
    exact sortByTime_perm _
  have noText : detail.filter isTextEvent = [] :=
    List.filter_eq_nil_iff.mpr fun event member => by simp [details event member]
  have noDetail : text.filter (fun event => !isTextEvent event) = [] :=
    List.filter_eq_nil_iff.mpr fun event member => by simp [texts event member]
  have allDetail : detail.filter (fun event => !isTextEvent event) = detail :=
    List.filter_eq_self.mpr fun event member => by simp [details event member]
  refine ⟨by rw [whole.length_eq, List.length_append], ?_, ?_⟩
  · have kept := whole.filter isTextEvent
    rwa [List.filter_append, List.filter_eq_self.mpr texts, noText, List.append_nil] at kept
  · have kept := whole.filter fun event => !isTextEvent event
    rwa [List.filter_append, noDetail, allDetail, List.nil_append] at kept

theorem texts_cut_iff :
    CutsByRank timeKey
      (((mergedWhole sameObject existing incoming maxDetailEvents maxTextEvents).filter
        isTextEvent).length - min maxTextEvents maxTotalEvents)
      ((mergedWhole sameObject existing incoming maxDetailEvents maxTextEvents).filter
        isTextEvent) ↔
    (leavesUnchanged sameObject existing incoming = true →
      CutsByRank timeKey ((existing.filter isTextEvent).length - min maxTextEvents maxTotalEvents)
        (existing.filter isTextEvent)) := by
  cases unchanged : leavesUnchanged sameObject existing incoming with
  | true => simp [mergedWhole, mergeTimelineEvents, unchanged]
  | false =>
    have sorted := mergeTimelineEvents_sorted unchanged
      (max (max maxDetailEvents maxTextEvents) (existing.length + incoming.length))
    simp only [Bool.false_eq_true, false_implies, iff_true]
    exact cutsByRank_of_sorted (sorted.filter isTextEvent)

end Retained

/-- A window respects its budgets exactly if none of them is used up before there is something
to spend it on. -/
theorem text_priority_budgets_iff (sameObject : TimelineEvent → TimelineEvent → Bool)
    (existing incoming : List TimelineEvent)
    (maxDetailEvents maxTextEvents maxTotalEvents : Nat) :
    RespectsBudgets sameObject existing incoming maxDetailEvents maxTextEvents maxTotalEvents
        (mergeTimelineEventsWithTextPriority sameObject existing incoming maxDetailEvents
          maxTextEvents maxTotalEvents) ↔
      BudgetsLeft sameObject existing incoming maxDetailEvents maxTextEvents maxTotalEvents := by
  cases branch : takesContiguousTail sameObject existing incoming maxDetailEvents maxTextEvents
      maxTotalEvents with
  | true =>
    have window : mergeTimelineEventsWithTextPriority sameObject existing incoming
        maxDetailEvents maxTextEvents maxTotalEvents = sliceLast maxTotalEvents
          (mergedWhole sameObject existing incoming maxDetailEvents maxTextEvents) := by
      simp only [mergeTimelineEventsWithTextPriority, branch, ↓reduceIte]
    have longer : maxTotalEvents <
        (mergedWhole sameObject existing incoming maxDetailEvents maxTextEvents).length := by
      simp only [takesContiguousTail, Bool.and_eq_true, decide_eq_true_eq] at branch
      exact branch.1
    rw [window]
    constructor
    · intro respects
      constructor
      · intro _ zero
        have total := respects.total
        rw [zero, sliceLast_zero] at total
        omega
      all_goals
        intro apart
        rw [branch] at apart
        cases apart
    · intro left
      constructor
      · rw [sliceLast, if_neg (left.tail branch), List.length_drop]
        omega
      all_goals
        intro apart
        rw [branch] at apart
        cases apart
  | false =>
    obtain ⟨size, text, detail⟩ := retained_perm branch
    constructor
    · intro respects
      have total := respects.total
      have textBound := respects.text branch
      have detailBound := respects.detail branch
      rw [text.length_eq] at textBound
      rw [detail.length_eq] at detailBound
      rw [size] at total
      have spends : min maxTextEvents maxTotalEvents = 0 →
          (mergedWhole sameObject existing incoming maxDetailEvents maxTextEvents).filter
            isTextEvent = [] := by
        intro zero
        rw [zero, sliceLast_zero] at textBound total
        exact List.length_eq_zero_iff.mp (by omega)
      constructor
      · intro apart
        rw [branch] at apart
        cases apart
      · exact fun _ => spends
      · intro _ zero
        rw [← length_sliceLast spends] at zero
        rw [zero, sliceLast_zero] at detailBound total
        exact List.length_eq_zero_iff.mp (by omega)
      · intro _
        rw [sliceLast_eq_drop spends] at text
        exact texts_cut_iff.mp ((newest_drop_iff text).mp (respects.newestText branch))
    · intro left
      have spends := left.text branch
      have textSize := length_sliceLast spends
      have detailSpends := left.detail branch
      rw [← textSize] at detailSpends
      have detailSize := length_sliceLast detailSpends
      constructor
      · rw [size, textSize] at *
        omega
      · intro _
        rw [text.length_eq, textSize]
        omega
      · intro _
        rw [detail.length_eq, detailSize]
        omega
      · intro _
        rw [sliceLast_eq_drop spends] at text
        exact (newest_drop_iff text).mpr (texts_cut_iff.mpr (left.order branch))

private def burstEvent (id : String) (type : TimelineEventType) (ts : Int) : TimelineEvent :=
  { windowText id ts with type := type, payload := [] }

/-- One text spends the whole budget, and every detail event is kept beside it. -/
theorem spent_budget_keeps_details :
    (mergeTimelineEventsWithTextPriority (fun _ _ => false) [burstEvent "call" .toolCall 10]
      [burstEvent "reply" .assistantText 1] 1 1 1).map TimelineEvent.eventId =
      ["reply", "call"] ∧
    ¬ RespectsBudgets (fun _ _ => false) [burstEvent "call" .toolCall 10]
      [burstEvent "reply" .assistantText 1] 1 1 1
      (mergeTimelineEventsWithTextPriority (fun _ _ => false) [burstEvent "call" .toolCall 10]
        [burstEvent "reply" .assistantText 1] 1 1 1) := by
  refine ⟨by decide +kernel, fun respects => ?_⟩
  exact absurd respects.total (by decide +kernel)

end ImCodes.Timeline
