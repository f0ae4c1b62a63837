import ImCodes.Timeline.History

/-!
# Readers of a timeline

`TimelineStore.read`, `TimelineEmitter.replay` and the range query of the projection. Each
takes a sequence number as a cursor. What `readTailLines` finds in the file is a
parameter of the first two.
-/

set_option autoImplicit false

namespace ImCodes.Timeline

open Library

structure ReadOptions where
  epoch : Option Int
  afterSeq : Option Int
  afterTs : Option Int
  beforeTs : Option Int
  limit : Option Nat
deriving DecidableEq, Repr

namespace TimelineStore

def readLimit (opts : ReadOptions) : Nat :=
  max (opts.limit.getD 200 * 3) 1000

def passes (opts : ReadOptions) (event : TimelineEvent) : Bool :=
  opts.epoch.all (event.epoch = ·) && opts.afterSeq.all (decide <| · < event.seq) &&
    opts.afterTs.all (decide <| · < event.ts) && opts.beforeTs.all (decide <| event.ts < ·)

/-- The events among lines parsed newest first; a corrupt line is skipped. -/
def select (lines : List (Option TimelineEvent)) (opts : ReadOptions) : List TimelineEvent :=
  let events := (lines.filterMap id).filter (passes opts)
  match opts.limit with
  | some (limit + 1) => (events.take (limit + 1)).reverse
  | _ => events.reverse

/-- `tailLines n` is what parsing the last `n` lines of the file gives, newest first. -/
def read (tailLines : Nat → List (Option TimelineEvent)) (opts : ReadOptions) :
    List TimelineEvent :=
  select (tailLines (readLimit opts)) opts

end TimelineStore

inductive TimelineResponseSource where
  | ringBuffer
  | jsonlTail
  | ringBufferJsonl
deriving DecidableEq, Repr

structure ReplayResult where
  events : List TimelineEvent
  truncated : Bool
  source : TimelineResponseSource
deriving DecidableEq, Repr

namespace TimelineEmitter

def cursorKey (event : TimelineEvent) : Int × Int := (event.epoch, event.seq)

/-- The buffered events after the cursor whose key was not seen before. -/
def unseen (afterSeq : Int) : List (Int × Int) → List TimelineEvent → List TimelineEvent
  | _, [] => []
  | seen, event :: rest =>
    if event.seq ≤ afterSeq ∨ cursorKey event ∈ seen then unseen afterSeq seen rest
    else event :: unseen afterSeq (cursorKey event :: seen) rest

def replayOptions (host : EmitHost) (afterSeq : Int) : ReadOptions where
  epoch := some host.epoch
  afterSeq := some afterSeq
  afterTs := none
  beforeTs := none
  limit := none

def coversFrom (emitter : TimelineEmitter) (afterSeq : Int) : Bool :=
  match emitter.buffer with
  | [] => false
  | first :: _ => first.seq ≤ afterSeq + 1

def replay (host : EmitHost) (emitter : TimelineEmitter)
    (tailLines : Nat → List (Option TimelineEvent)) (afterSeq : Int) : ReplayResult :=
  if emitter.coversFrom afterSeq then
    { events := emitter.buffer.filter fun event => afterSeq < event.seq
      truncated := false
      source := .ringBuffer }
  else
    let fileEvents := TimelineStore.read tailLines (replayOptions host afterSeq)
    if emitter.buffer = [] then
      { events := fileEvents, truncated := false, source := .jsonlTail }
    else
      let merged := fileEvents ++ unseen afterSeq (fileEvents.map cursorKey) emitter.buffer
      { events := merged.insertionSort fun left right => left.seq ≤ right.seq
        truncated := false
        source := .ringBufferJsonl }

end TimelineEmitter

/-- A row of the projection. -/
structure ProjectedRow where
  appendOrdinal : Nat
  event : TimelineEvent
deriving DecidableEq, Repr

structure RangeQuery where
  afterTs : Option Int
  afterSeq : Option Int
  epoch : Option Int
  beforeTs : Option Int
deriving DecidableEq, Repr

namespace RangeQuery

/-- The clauses of `buildRangeSql`: a cursor of one epoch makes the timestamp redundant. -/
def clauses (query : RangeQuery) (event : TimelineEvent) : Bool :=
  query.epoch.all (event.epoch = ·) && query.afterSeq.all (decide <| · < event.seq) &&
    (query.afterSeq.isSome && query.epoch.isSome ||
      query.afterTs.all (decide <| · < event.ts)) &&
    query.beforeTs.all (decide <| event.ts < ·)

def boundedLimit (limit : Int) : Nat := (max 1 (min limit 10000)).toNat

/-- The newest rows of a session in a range, oldest first. -/
def history (query : RangeQuery) (limit : Int) (rows : List ProjectedRow) : List TimelineEvent :=
  let newestFirst := (rows.filter fun row => query.clauses row.event).insertionSort
    fun left right => right.event.ts < left.event.ts ∨
      (right.event.ts = left.event.ts ∧ right.appendOrdinal ≤ left.appendOrdinal)
  ((newestFirst.take (boundedLimit limit)).reverse).map (·.event)

end RangeQuery

/-! ## What the readers find -/

theorem TimelineStore.mem_select {lines : List (Option TimelineEvent)} {opts : ReadOptions}
    (unlimited : opts.limit = none) {event : TimelineEvent} :
    event ∈ select lines opts ↔ some event ∈ lines ∧ passes opts event = true := by
  unfold select
  rw [unlimited]
  simp

namespace TimelineEmitter

variable {host : EmitHost} {emitter : TimelineEmitter}
  {tailLines : Nat → List (Option TimelineEvent)} {afterSeq : Int} {event : TimelineEvent}

theorem mem_unseen {seen : List (Int × Int)} {buffer : List TimelineEvent}
    (found : event ∈ unseen afterSeq seen buffer) : event ∈ buffer ∧ afterSeq < event.seq := by
  induction buffer generalizing seen with
  | nil => cases found
  | cons head rest ih =>
    unfold unseen at found
    split at found
    · obtain ⟨member, after⟩ := ih found
      exact ⟨List.mem_cons_of_mem _ member, after⟩
    · next shown =>
        rcases List.mem_cons.mp found with rfl | later
        · exact ⟨List.mem_cons_self .., not_le.mp (not_or.mp shown).1⟩
        · obtain ⟨member, after⟩ := ih later
          exact ⟨List.mem_cons_of_mem _ member, after⟩

theorem unseen_covers {seen : List (Int × Int)} {buffer : List TimelineEvent}
    (member : event ∈ buffer) (after : afterSeq < event.seq) :
    cursorKey event ∈ seen ∨
      ∃ shown ∈ unseen afterSeq seen buffer, cursorKey shown = cursorKey event := by
  induction buffer generalizing seen with
  | nil => cases member
  | cons head rest ih =>
    unfold unseen
    rcases List.mem_cons.mp member with rfl | later
    · by_cases known : cursorKey event ∈ seen
      · exact .inl known
      · rw [if_neg (not_or.mpr ⟨not_le.mpr after, known⟩)]
        exact .inr ⟨event, List.mem_cons_self .., rfl⟩
    · split
      · exact ih later
      · rcases @ih (cursorKey head :: seen) later with known | ⟨shown, found, same⟩
        · rcases List.mem_cons.mp known with same | known
          · exact .inr ⟨head, List.mem_cons_self .., same.symm⟩
          · exact .inl known
        · exact .inr ⟨shown, List.mem_cons_of_mem _ found, same⟩

theorem replayOptions_passes :
    TimelineStore.passes (replayOptions host afterSeq) event = true ↔
      event.epoch = host.epoch ∧ afterSeq < event.seq := by
  simp [TimelineStore.passes, replayOptions]

theorem mem_read :
    event ∈ TimelineStore.read tailLines (replayOptions host afterSeq) ↔
      some event ∈ tailLines 1000 ∧ event.epoch = host.epoch ∧ afterSeq < event.seq := by
  have limit : TimelineStore.readLimit (replayOptions host afterSeq) = 1000 := by
    simp [TimelineStore.readLimit, replayOptions]
  unfold TimelineStore.read
  rw [limit, TimelineStore.mem_select rfl, replayOptions_passes]

theorem replay_of_file (slow : emitter.coversFrom afterSeq = false)
    (held : some event ∈ tailLines 1000) (epoch : event.epoch = host.epoch)
    (after : afterSeq < event.seq) :
    event ∈ (emitter.replay host tailLines afterSeq).events := by
  have found : event ∈ TimelineStore.read tailLines (replayOptions host afterSeq) :=
    mem_read.mpr ⟨held, epoch, after⟩
  unfold replay
  rw [slow, if_neg Bool.false_ne_true]
  dsimp only
  split
  · exact found
  · exact (List.perm_insertionSort _ _).mem_iff.mpr (List.mem_append_left _ found)

theorem replay_of_buffer (held : event ∈ emitter.buffer) (after : afterSeq < event.seq) :
    ∃ shown ∈ (emitter.replay host tailLines afterSeq).events, cursorKey shown = cursorKey event ∧
      (shown ∈ emitter.buffer ∨ some shown ∈ tailLines 1000) := by
  unfold replay
  dsimp only
  split
  · exact ⟨event, by simp [held, after], rfl, .inl held⟩
  · rw [if_neg (List.ne_nil_of_mem held)]
    rcases @unseen_covers afterSeq event ((TimelineStore.read tailLines
      (replayOptions host afterSeq)).map cursorKey) _ held after with known | ⟨shown, found, same⟩
    · obtain ⟨shown, found, same⟩ := List.mem_map.mp known
      refine ⟨shown, ?_, same, .inr (mem_read.mp found).1⟩
      exact (List.perm_insertionSort _ _).mem_iff.mpr (List.mem_append_left _ found)
    · refine ⟨shown, ?_, same, .inl (mem_unseen found).1⟩
      exact (List.perm_insertionSort _ _).mem_iff.mpr (List.mem_append_right _ found)

end TimelineEmitter

end ImCodes.Timeline
