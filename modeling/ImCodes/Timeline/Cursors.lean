import ImCodes.Timeline.Buffer

/-!
# Sequence cursors

A cursor names an emission by epoch and sequence number, and every reader takes what
comes after it to be what was emitted after it. That holds as long as the counter is not
started again within an epoch, as it is for a session that is stopped and comes back.
-/

set_option autoImplicit false

namespace ImCodes.Timeline

open Library TimelineEmitter

/-- No reader keeps the event from one who has everything up to the cursor. -/
structure Admits (host : EmitHost) (history : TimelineHistory) (cursor event : TimelineEvent) :
    Prop where
  file : ∀ tailLines : Nat → List (Option TimelineEvent),
    history.emitter.coversFrom cursor.seq = false → some event ∈ tailLines 1000 →
      event ∈ (history.emitter.replay host tailLines cursor.seq).events
  buffer : ∀ tailLines : Nat → List (Option TimelineEvent),
    (∀ line, some line ∈ tailLines 1000 → line.epoch = host.epoch →
      ∃ origin ∈ history.emitted, line = origin.event) →
    ∀ held ∈ history.emitter.buffer, Revises held event →
      ∃ shown ∈ (history.emitter.replay host tailLines cursor.seq).events, Revises shown event
  projection : ∀ (afterTs : Option Int) (limit : Int) (rows : List ProjectedRow),
    ∀ row ∈ rows, row.event = event →
      (rows.filter fun row =>
        RangeQuery.clauses ⟨afterTs, some cursor.seq, some cursor.epoch, none⟩ row.event).length ≤
          RangeQuery.boundedLimit limit →
      event ∈ RangeQuery.history ⟨afterTs, some cursor.seq, some cursor.epoch, none⟩ limit rows

/-- Emissions have keys of their own, and a cursor admits all settled ones after it. -/
structure CursorsValid (host : EmitHost) (history : TimelineHistory) : Prop where
  distinct : history.emitted.Pairwise fun left right =>
    cursorKey left.event ≠ cursorKey right.event
  admitted : ∀ earlier cursor later, history.emitted = earlier ++ cursor :: later →
    ∀ settled ∈ later, settled.stored = true → Admits host history cursor.event settled.event

def ContinuesCounter (history : TimelineHistory) : TimelineStep → Prop
  | .emit _ => history.emitted = [] ∨ history.emitter.seq ≠ 0
  | .forgetSession => True

variable {host : EmitHost} {history : TimelineHistory}

/-! ## Every run -/

/-- A counter at 0 is that of a fresh session, and counting begins at 1. -/
structure Counted (host : EmitHost) (history : TimelineHistory) : Prop where
  nonneg : 0 ≤ history.emitter.seq
  unused : history.emitter.seq = 0 → history.emitter = .fresh history.emitter.sessionId
  first : ∀ event rest, history.emitted = event :: rest →
    cursorKey event.event = (host.epoch, 1)
  started : history.emitted = [] → history.emitter.seq = 0

theorem Counted.next (counted : Counted host history) (step : TimelineStep) :
    Counted host (history.next host step) := by
  have effect := next_effect host history step
  generalize history.next host step = after at effect
  cases effect with
  | forgotten => exact ⟨le_rfl, fun _ => rfl, counted.first, fun _ => rfl⟩
  | quiet same used =>
    have running : history.emitter.seq ≠ 0 := fun zero => used (counted.unused zero)
    refine ⟨?_, fun zero => ?_, counted.first, fun none => ?_⟩
    · exact same.seq ▸ counted.nonneg
    · exact absurd (same.seq.symm.trans zero) running
    · exact same.seq.trans (counted.started none)
  | @emitted call after event sessionId seq stamped epoch buffer =>
    have positive : 0 < after.seq := by
      rw [seq, stamped]
      exact Int.lt_add_one_of_le counted.nonneg
    refine ⟨positive.le, fun zero => absurd zero positive.ne', fun head rest split => ?_,
      fun none => by simp at none⟩
    dsimp only at split
    cases emitted : history.emitted with
    | nil =>
      rw [emitted, List.nil_append] at split
      cases split
      simp [cursorKey, epoch, stamped, counted.started emitted]
    | cons earlier others =>
      rw [emitted, List.cons_append] at split
      cases split
      exact counted.first _ _ emitted

theorem distinct_of_next {step : TimelineStep}
    (distinct : (history.next host step).emitted.Pairwise fun left right =>
      cursorKey left.event ≠ cursorKey right.event) :
    history.emitted.Pairwise fun left right => cursorKey left.event ≠ cursorKey right.event := by
  have effect := next_effect host history step
  generalize history.next host step = after at effect distinct
  cases effect with
  | forgotten => exact distinct
  | quiet => exact distinct
  | emitted => exact (List.pairwise_append.mp distinct).1

theorem distinct_of_run {steps : List TimelineStep}
    (distinct : (run (TimelineHistory.next host) history steps).emitted.Pairwise
      fun left right => cursorKey left.event ≠ cursorKey right.event) :
    history.emitted.Pairwise fun left right => cursorKey left.event ≠ cursorKey right.event := by
  induction steps generalizing history with
  | nil => exact distinct
  | cons step rest ih => exact distinct_of_next (ih distinct)

theorem continues_of_distinct (counted : Counted host history) {step : TimelineStep}
    (distinct : (history.next host step).emitted.Pairwise fun left right =>
      cursorKey left.event ≠ cursorKey right.event) : ContinuesCounter history step := by
  have effect := next_effect host history step
  generalize history.next host step = after at effect distinct
  cases effect with
  | forgotten => trivial
  | quiet same used => exact .inr fun zero => used (counted.unused zero)
  | @emitted call after event sessionId seq stamped epoch buffer =>
    cases emitted : history.emitted with
    | nil => exact .inl emitted
    | cons first rest =>
      refine .inr fun zero => ?_
      have clash := (List.pairwise_append.mp distinct).2.2 first (by simp [emitted]) _
        (List.mem_singleton_self _)
      refine clash ?_
      rw [counted.first first rest emitted]
      simp [cursorKey, epoch, stamped, zero]

theorem meets_of_distinct (counted : Counted host history) {steps : List TimelineStep}
    (distinct : (run (TimelineHistory.next host) history steps).emitted.Pairwise
      fun left right => cursorKey left.event ≠ cursorKey right.event) :
    Meets (TimelineHistory.next host) ContinuesCounter history steps := by
  induction steps generalizing history with
  | nil => trivial
  | cons step rest ih =>
    exact ⟨continues_of_distinct counted (distinct_of_run distinct),
      ih (counted.next step) distinct⟩

/-! ## Runs that never start the counter again -/

/-- Emissions are numbered upwards, up to the counter while there is one. -/
structure Ascending (host : EmitHost) (history : TimelineHistory) : Prop where
  upwards : history.emitted.Pairwise fun left right => left.event.seq < right.event.seq
  counter : history.emitter.seq ≠ 0 → ∀ earlier ∈ history.emitted,
    earlier.event.seq ≤ history.emitter.seq
  epoch : ∀ earlier ∈ history.emitted, earlier.event.epoch = host.epoch

theorem Ascending.next (ascending : Ascending host history) {step : TimelineStep}
    (continues : ContinuesCounter history step) : Ascending host (history.next host step) := by
  have effect := next_effect host history step
  generalize history.next host step = after at effect
  cases effect with
  | forgotten => exact ⟨ascending.upwards, fun counting => absurd rfl counting, ascending.epoch⟩
  | quiet same used =>
    refine ⟨ascending.upwards, fun counting earlier member => ?_, ascending.epoch⟩
    dsimp only at counting ⊢
    rw [same.seq] at counting ⊢
    exact ascending.counter counting earlier member
  | @emitted call after event sessionId seq stamped epoch buffer =>
    have below : ∀ earlier ∈ history.emitted, earlier.event.seq < event.seq := by
      intro earlier member
      rcases continues with none | counting
      · rw [none] at member
        cases member
      · rw [stamped]
        exact Int.lt_add_one_of_le (ascending.counter counting earlier member)
    constructor
    · refine List.pairwise_append.mpr ⟨ascending.upwards, List.pairwise_singleton _ _, ?_⟩
      intro earlier member last lastMember
      rw [List.mem_singleton.mp lastMember]
      exact below earlier member
    · intro _ earlier member
      dsimp only at member ⊢
      rw [seq]
      rcases List.mem_append.mp member with old | new
      · exact (below earlier old).le
      · rw [List.mem_singleton.mp new]
    · intro earlier member
      rcases List.mem_append.mp member with old | new
      · exact ascending.epoch earlier old
      · rw [List.mem_singleton.mp new]
        exact epoch

theorem Ascending.distinct (ascending : Ascending host history) :
    history.emitted.Pairwise fun left right => cursorKey left.event ≠ cursorKey right.event :=
  ascending.upwards.imp fun below same => below.ne (congrArg Prod.snd same)

theorem Ascending.unique (ascending : Ascending host history) {left right : EmittedEvent}
    (leftMember : left ∈ history.emitted) (rightMember : right ∈ history.emitted)
    (same : cursorKey left.event = cursorKey right.event) : left = right :=
  List.inj_on_of_nodup_map (List.pairwise_map.mpr ascending.distinct) leftMember rightMember same

theorem RangeQuery.mem_history {query : RangeQuery} {limit : Int} {rows : List ProjectedRow}
    {row : ProjectedRow} (member : row ∈ rows) (inRange : query.clauses row.event = true)
    (fits : (rows.filter fun row => query.clauses row.event).length ≤ boundedLimit limit) :
    row.event ∈ query.history limit rows := by
  unfold RangeQuery.history
  dsimp only
  rw [List.take_of_length_le (by rwa [List.length_insertionSort])]
  refine List.mem_map.mpr ⟨row, List.mem_reverse.mpr ?_, rfl⟩
  exact (List.perm_insertionSort _ _).mem_iff.mpr (List.mem_filter.mpr ⟨member, inRange⟩)

theorem Ascending.admits (ascending : Ascending host history) (buffered : Buffered history)
    {cursor settled : EmittedEvent} (cursorMember : cursor ∈ history.emitted)
    (member : settled ∈ history.emitted) (after : cursor.event.seq < settled.event.seq) :
    Admits host history cursor.event settled.event := by
  have epoch := ascending.epoch settled member
  constructor
  · intro tailLines slow held
    exact replay_of_file slow held epoch after
  · intro tailLines lines held heldMember revises
    have key := revises.cursorKey
    have heldAfter : cursor.event.seq < held.seq := by
      rw [show held.seq = settled.event.seq from congrArg Prod.snd key]
      exact after
    obtain ⟨shown, found, same, source⟩ := @replay_of_buffer host _ tailLines _ held heldMember
      heldAfter
    refine ⟨shown, found, ?_⟩
    have own : ∀ origin ∈ history.emitted, Revises shown origin.event →
        Revises shown settled.event := by
      intro origin originMember originRevises
      have equal := ascending.unique originMember member
        (originRevises.cursorKey.symm.trans (same.trans key))
      rwa [equal] at originRevises
    rcases source with fromBuffer | fromFile
    · obtain ⟨origin, originMember, originRevises⟩ := buffered shown fromBuffer
      exact own origin originMember originRevises
    · have shownEpoch : shown.epoch = host.epoch :=
        (congrArg Prod.fst (same.trans key)).trans epoch
      obtain ⟨origin, originMember, rfl⟩ := lines shown fromFile shownEpoch
      exact own origin originMember (.refl _)
  · intro afterTs limit rows row rowMember sameEvent fits
    rw [← sameEvent]
    refine RangeQuery.mem_history rowMember ?_ fits
    simp [RangeQuery.clauses, sameEvent, epoch, ascending.epoch cursor cursorMember, after]

section FixedRestart

private def textCall (text : String) : Int → EmitCall :=
  plainEmitCall .assistantText [("text", .str text)]

end FixedRestart

end ImCodes.Timeline
