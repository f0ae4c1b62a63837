import ImCodes.Library.JsonSyntax
import ImCodes.Library.Retention
import ImCodes.Library.Sorting

/-!
# Compaction of a timeline log

A session's log has one event a line. `truncate` reads it line by line, keeps the newest
conversation lines and beside them the newest others, and writes the log anew. The lines it
reads are those of `readline`, which ends a line at more than the line feeds the log is
written with.
-/

set_option autoImplicit false

namespace ImCodes.Timeline

open Library

abbrev LogLine := List Char

def lineFeed : Char := Char.ofNat 0x0A

def carriageReturn : Char := Char.ofNat 0x0D

/-- The characters `readline` ends a line at. -/
def endsLine (c : Char) : Bool :=
  c.toNat ∈ [0x0A, 0x0D, 0x2028, 0x2029]

/-- The lines of a text from within one. A line feed right after a carriage return goes with
it. -/
def readFrom (afterReturn : Bool) (line : LogLine) : List Char → List LogLine
  | [] => if line = [] then [] else [line]
  | c :: rest =>
    if afterReturn = true ∧ c = lineFeed then readFrom false line rest
    else if endsLine c then line :: readFrom (c = carriageReturn) [] rest
    else readFrom false (line ++ [c]) rest

/-- The lines `readline` gives that are not empty. -/
def readLines (text : List Char) : List LogLine :=
  (readFrom false [] text).filter fun line => line ≠ []

def conversationRetentionTypes : List String :=
  ["user.message", "assistant.text", "ask.question", "peer_audit.result", "delegation.reply",
    "memory.compression"]

def lineType (line : LogLine) : String :=
  (((Json.parse (String.ofList line)).bind (Json.field? "type")).bind Json.asString?).getD ""

def isConversation (line : LogLine) : Bool :=
  lineType line ∈ conversationRetentionTypes

structure RetainedTimelineLine where
  ordinal : Nat
  line : LogLine
deriving Repr, DecidableEq

structure LineSelection where
  total : Nat := 0
  conversation : List RetainedTimelineLine := []
  auxiliary : List RetainedTimelineLine := []

/-- One line of the reading loop. -/
def LineSelection.next (keepLast : Nat) (selection : LineSelection) (line : LogLine) :
    LineSelection :=
  let total := selection.total + 1
  let retained : RetainedTimelineLine := ⟨total, line⟩
  if isConversation line then
    { selection with
      total
      conversation := pushBounded keepLast selection.conversation retained }
  else
    { selection with
      total
      auxiliary := pushBounded keepLast selection.auxiliary retained }

/-- `selectRetainedTimelineLines`: the lines to keep, where there are too many. -/
def selectRetainedTimelineLines (keepLast : Nat) (text : List Char) : Option (List LogLine) :=
  let selection := (readLines text).foldl (LineSelection.next keepLast) {}
  if selection.total ≤ keepLast then none
  else
    let protectedTail := lastItems keepLast selection.conversation
    let auxiliaryBudget := keepLast - protectedTail.length
    let selected :=
      if 0 < auxiliaryBudget then protectedTail ++ lastItems auxiliaryBudget selection.auxiliary
      else protectedTail
    some ((selected.insertionSort fun left right => left.ordinal ≤ right.ordinal).map (·.line))

def logText (lines : List LogLine) : List Char :=
  lines.flatMap fun line => line ++ [lineFeed]

/-- `truncateOne` on the text of the file. -/
def truncateOne (keepLast : Nat) (text : List Char) : List Char :=
  match selectRetainedTimelineLines keepLast text with
  | none => text
  | some kept => [lineFeed].intercalate kept ++ [lineFeed]

/-- A log as it was written: each line ends at the first line feed after it. -/
structure TimelineLog where
  lines : List LogLine
  oneLine : ∀ line ∈ lines, lineFeed ∉ line

namespace TimelineLog

/-- The log of events appended one by one, each as its JSON text. -/
def ofEvents (numberText : Rat → String)
    (numbers : ∀ value, ∀ c ∈ (numberText value).toList, 0x20 ≤ c.toNat) (events : List Json) :
    TimelineLog where
  lines := events.map (Json.text numberText)
  oneLine := by
    intro line member feed
    obtain ⟨event, _, rfl⟩ := List.mem_map.mp member
    have visible := Json.visible_of_mem_text numbers event lineFeed feed
    exact absurd visible (by decide)

def text (log : TimelineLog) : List Char := logText log.lines

def written (log : TimelineLog) : List LogLine :=
  log.lines.filter fun line => line ≠ []

/-- Compaction keeps exactly the lines it should. -/
structure Compacts (log : TimelineLog) (keepLast : Nat) : Prop where
  short : log.written.length ≤ keepLast → truncateOne keepLast log.text = log.text
  long : keepLast < log.written.length →
    truncateOne keepLast log.text = logText (newestOf isConversation keepLast log.written)
  again : truncateOne keepLast (truncateOne keepLast log.text) = truncateOne keepLast log.text

def ReadsAsWritten (log : TimelineLog) : Prop :=
  (log.written.length ≤ 1 ∧ (readLines log.text).length ≤ 1) ∨
    ((readLines log.text).length = log.written.length ∧
      dropOldest isConversation (readLines log.text) = dropOldest isConversation log.written)

end TimelineLog

/-! ## Reading -/

def Unbroken (line : LogLine) : Prop := ∀ c ∈ line, endsLine c = false

theorem readFrom_unbroken (text : List Char) (afterReturn : Bool) {line : LogLine}
    (unbroken : Unbroken line) : ∀ found ∈ readFrom afterReturn line text, Unbroken found := by
  induction text generalizing afterReturn line with
  | nil =>
    intro found member
    unfold readFrom at member
    split at member
    · cases member
    · exact List.mem_singleton.mp member ▸ unbroken
  | cons c rest ih =>
    intro found member
    unfold readFrom at member
    split at member
    · exact ih false unbroken found member
    · split at member
      · rcases List.mem_cons.mp member with rfl | later
        · exact unbroken
        · exact ih _ (by intro other inside; cases inside) found later
      · next keeps =>
          refine ih false ?_ found member
          intro other inside
          rcases List.mem_append.mp inside with before | last
          · exact unbroken other before
          · rw [List.mem_singleton.mp last]
            simpa using keeps

theorem readLines_unbroken {text : List Char} {line : LogLine} (member : line ∈ readLines text) :
    Unbroken line ∧ line ≠ [] := by
  obtain ⟨found, visible⟩ := List.mem_filter.mp member
  exact ⟨readFrom_unbroken text false (by intro c inside; cases inside) line found,
    by simpa using visible⟩

theorem readFrom_append {line : LogLine} (unbroken : Unbroken line) (before rest : List Char) :
    readFrom false before (line ++ lineFeed :: rest) = (before ++ line) :: readFrom false [] rest := by
  induction line generalizing before with
  | nil =>
    have ends : endsLine lineFeed = true := by decide
    have plain : ¬lineFeed = carriageReturn := by decide
    simp [readFrom, ends, plain]
  | cons c line ih =>
    have keeps : endsLine c = false := unbroken c List.mem_cons_self
    have unbrokenLine : Unbroken line := fun other member =>
      unbroken other (List.mem_cons_of_mem _ member)
    simp [readFrom, keeps, ih unbrokenLine]

theorem readLines_logText {lines : List LogLine} (unbroken : ∀ line ∈ lines, Unbroken line) :
    readLines (logText lines) = lines.filter fun line => line ≠ [] := by
  have read : readFrom false [] (logText lines) = lines := by
    induction lines with
    | nil => rfl
    | cons line rest ih =>
      have shape : logText (line :: rest) = line ++ lineFeed :: logText rest := by
        simp [logText]
      rw [shape, readFrom_append (unbroken line List.mem_cons_self), List.nil_append,
        ih fun other member => unbroken other (List.mem_cons_of_mem _ member)]
  rw [readLines, read]

theorem line_unique {line other rest others : List Char} (oneLine : lineFeed ∉ line)
    (oneLineOther : lineFeed ∉ other)
    (same : line ++ lineFeed :: rest = other ++ lineFeed :: others) :
    line = other ∧ rest = others := by
  induction line generalizing other with
  | nil =>
    cases other with
    | nil => exact ⟨rfl, by simpa using same⟩
    | cons c other =>
      simp only [List.nil_append, List.cons_append, List.cons.injEq] at same
      exact absurd (same.1 ▸ List.mem_cons_self) oneLineOther
  | cons c line ih =>
    cases other with
    | nil =>
      simp only [List.nil_append, List.cons_append, List.cons.injEq] at same
      exact absurd (same.1 ▸ List.mem_cons_self) oneLine
    | cons d other =>
      simp only [List.cons_append, List.cons.injEq] at same
      obtain ⟨lineSame, restSame⟩ := ih (fun inside => oneLine (List.mem_cons_of_mem _ inside))
        (fun inside => oneLineOther (List.mem_cons_of_mem _ inside)) same.2
      exact ⟨by rw [same.1, lineSame], restSame⟩

theorem logText_injective {left right : List LogLine} (oneLine : ∀ line ∈ left, lineFeed ∉ line)
    (oneLineRight : ∀ line ∈ right, lineFeed ∉ line) (same : logText left = logText right) :
    left = right := by
  induction left generalizing right with
  | nil =>
    cases right with
    | nil => rfl
    | cons line rest => simp [logText] at same
  | cons line rest ih =>
    cases right with
    | nil => simp [logText] at same
    | cons other others =>
      have parts : line ++ lineFeed :: logText rest = other ++ lineFeed :: logText others := by
        simpa [logText] using same
      obtain ⟨lineSame, restSame⟩ := line_unique (oneLine line List.mem_cons_self)
        (oneLineRight other List.mem_cons_self) parts
      have others_ := ih (fun next member => oneLine next (List.mem_cons_of_mem _ member))
        (fun next member => oneLineRight next (List.mem_cons_of_mem _ member)) restSame
      rw [lineSame, others_]

/-! ## Selecting -/

def numbered (start : Nat) (lines : List LogLine) : List RetainedTimelineLine :=
  (lines.zipIdx (start + 1)).map fun (line, ordinal) => ⟨ordinal, line⟩

theorem foldl_next (keepLast : Nat) (lines : List LogLine) (selection : LineSelection) :
    lines.foldl (LineSelection.next keepLast) selection = {
      total := selection.total + lines.length
      conversation := ((numbered selection.total lines).filter fun retained =>
        isConversation retained.line).foldl (pushBounded keepLast) selection.conversation
      auxiliary := ((numbered selection.total lines).filter fun retained =>
        !isConversation retained.line).foldl (pushBounded keepLast) selection.auxiliary } := by
  induction lines generalizing selection with
  | nil => rfl
  | cons line rest ih =>
    rw [List.foldl_cons, ih]
    cases kind : isConversation line <;>
      simp [LineSelection.next, kind, numbered, List.zipIdx_cons, Nat.add_right_comm,
        Nat.add_assoc]

theorem map_line_numbered (start : Nat) (lines : List LogLine) :
    (numbered start lines).map (·.line) = lines := by
  simp [numbered, Function.comp_def, List.zipIdx_map_fst]

theorem numbered_ordered (start : Nat) (lines : List LogLine) :
    (numbered start lines).Pairwise fun first second => first.ordinal < second.ordinal := by
  have ordinals : (numbered start lines).map (·.ordinal) =
      List.range' (start + 1) lines.length := by
    simp [numbered, Function.comp_def, List.zipIdx_map_snd]
  exact List.pairwise_map.mp (ordinals ▸ List.pairwise_lt_range')

theorem insertionSort_ordinals {selected ordered : List RetainedTimelineLine}
    (same : selected.Perm ordered)
    (increasing : ordered.Pairwise fun first second => first.ordinal < second.ordinal) :
    selected.insertionSort (fun left right => left.ordinal ≤ right.ordinal) = ordered := by
  have sorted : (selected.insertionSort fun left right => left.ordinal ≤ right.ordinal).Pairwise
      fun first second => first.ordinal ≤ second.ordinal :=
    pairwise_insertionSort_of_rank RetainedTimelineLine.ordinal
      (List.pairwise_of_forall fun first second => Iff.rfl)
  refine List.Perm.eq_of_pairwise ?_ sorted (increasing.imp fun less => Nat.le_of_lt less)
    ((List.perm_insertionSort _ selected).trans same)
  intro first second selectedFirst orderedSecond below above
  have distinct : (ordered.map (·.ordinal)).Nodup :=
    List.pairwise_map.mpr (increasing.imp fun less => Nat.ne_of_lt less)
  exact List.inj_on_of_nodup_map distinct
    (same.mem_iff.mp ((List.perm_insertionSort _ selected).mem_iff.mp selectedFirst))
    orderedSecond (Nat.le_antisymm below above)

theorem selectRetainedTimelineLines_eq (keepLast : Nat) (text : List Char) :
    selectRetainedTimelineLines keepLast text =
      if (readLines text).length ≤ keepLast then none
      else some (newestOf isConversation keepLast (readLines text)) := by
  have selection := foldl_next keepLast (readLines text) {}
  simp only [Nat.zero_add] at selection
  generalize ordinals : numbered 0 (readLines text) = lines at selection
  have linesRead : lines.map (·.line) = readLines text := by
    rw [← ordinals, map_line_numbered]
  have increasing : lines.Pairwise fun first second => first.ordinal < second.ordinal :=
    ordinals ▸ numbered_ordered 0 _
  have conversations : (readLines text).countP isConversation =
      (lines.filter fun retained => isConversation retained.line).length := by
    rw [← linesRead, List.countP_map, List.countP_eq_length_filter]
    rfl
  unfold selectRetainedTimelineLines
  simp only [selection]
  have appended : ∀ (limit : Nat) (kept others : List RetainedTimelineLine),
      (if 0 < limit then kept ++ lastItems limit others else kept) =
        kept ++ lastItems limit others := by
    intro limit kept others
    cases limit <;> simp
  split
  · rfl
  · rw [lastItems_pushBounded le_rfl, lastItems_pushBounded (Nat.sub_le _ _), length_lastItems,
      appended, newestOf, ← linesRead, ← keepNewest_map, linesRead, conversations]
    congr 2
    refine insertionSort_ordinals ?_ (increasing.sublist keepNewest_sublist)
    rw [← lastItems_min keepLast]
    exact keepNewest_perm.symm

/-! ## Compacting -/

theorem intercalate_logText {lines : List LogLine} (some_ : lines ≠ []) :
    [lineFeed].intercalate lines ++ [lineFeed] = logText lines := by
  induction lines with
  | nil => exact absurd rfl some_
  | cons line rest ih =>
    cases rest with
    | nil => simp [logText, List.intercalate]
    | cons next rest =>
      have later := ih (List.cons_ne_nil next rest)
      simp only [List.intercalate, List.intersperse_cons_cons, List.flatten_cons, logText,
        List.flatMap_cons, List.append_assoc] at later ⊢
      rw [← later]

theorem truncateOne_eq {keepLast : Nat} (positive : 1 ≤ keepLast) (text : List Char) :
    truncateOne keepLast text =
      if (readLines text).length ≤ keepLast then text
      else logText (newestOf isConversation keepLast (readLines text)) := by
  rw [truncateOne, selectRetainedTimelineLines_eq]
  split
  · next unselected =>
      split at unselected
      · next few => rw [if_pos few]
      · cases unselected
  · next kept selected =>
      split at selected
      · cases selected
      · next many =>
          obtain rfl := Option.some.inj selected
          rw [if_neg many]
          refine intercalate_logText (List.ne_nil_of_length_pos ?_)
          rw [length_newestOf]
          omega

theorem readLines_newestOf (keepLast : Nat) (text : List Char) :
    readLines (logText (newestOf isConversation keepLast (readLines text))) =
      newestOf isConversation keepLast (readLines text) := by
  have found : ∀ line ∈ newestOf isConversation keepLast (readLines text),
      Unbroken line ∧ line ≠ [] :=
    fun line member => readLines_unbroken (keepNewest_sublist.subset member)
  rw [readLines_logText fun line member => (found line member).1]
  exact List.filter_eq_self.mpr fun line member => by simpa using (found line member).2

theorem truncateOne_truncateOne {keepLast : Nat} (positive : 1 ≤ keepLast) (text : List Char) :
    truncateOne keepLast (truncateOne keepLast text) = truncateOne keepLast text := by
  rw [truncateOne_eq positive text]
  split
  · next few => rw [truncateOne_eq positive text, if_pos few]
  · rw [truncateOne_eq positive, readLines_newestOf, length_newestOf, if_pos (by omega)]

namespace TimelineLog

variable (log : TimelineLog)

theorem oneLine_newestOf (keepLast : Nat) :
    ∀ line ∈ newestOf isConversation keepLast log.written, lineFeed ∉ line :=
  fun line member => log.oneLine line (List.mem_filter.mp (keepNewest_sublist.subset member)).1

/-- The reader finds the lines of every log that only line feeds break. -/
theorem readsAsWritten_of_unbroken (unbroken : ∀ line ∈ log.lines, Unbroken line) :
    log.ReadsAsWritten := by
  have same : readLines log.text = log.written := readLines_logText unbroken
  exact .inr (by simp [same])

theorem compacts_iff {keepLast : Nat} (positive : 1 ≤ keepLast) :
    log.Compacts keepLast ↔
      (log.written.length ≤ keepLast ↔ (readLines log.text).length ≤ keepLast) ∧
        (keepLast < log.written.length →
          newestOf isConversation keepLast (readLines log.text) =
            newestOf isConversation keepLast log.written) := by
  have shrinks : ∀ {lines : List LogLine}, (∀ line ∈ lines, lineFeed ∉ line) →
      log.text = logText lines → log.lines = lines :=
    fun oneLine same => logText_injective log.oneLine oneLine same
  constructor
  · intro compacts
    have enough : keepLast < log.written.length → keepLast < (readLines log.text).length := by
      intro many
      by_contra few
      have same := compacts.long many
      rw [truncateOne_eq positive, if_pos (Nat.le_of_not_lt few)] at same
      have lines := congrArg List.length (shrinks (log.oneLine_newestOf keepLast) same)
      rw [length_newestOf] at lines
      have visible : log.written.length ≤ log.lines.length := List.length_filter_le _ _
      omega
    refine ⟨⟨fun few => ?_, fun few => ?_⟩, fun many => ?_⟩
    · by_contra past
      have same := compacts.short few
      rw [truncateOne_eq positive, if_neg past] at same
      have found := congrArg (fun text => (readLines text).length) same
      simp only [readLines_newestOf, length_newestOf] at found
      omega
    · by_contra past
      have := enough (Nat.lt_of_not_le past)
      omega
    · have same := compacts.long many
      rw [truncateOne_eq positive, if_neg (Nat.not_le_of_lt (enough many))] at same
      exact logText_injective
        (fun line member feed => by
          have unbroken := (readLines_unbroken (keepNewest_sublist.subset member)).1 _ feed
          exact absurd unbroken (by decide))
        (log.oneLine_newestOf keepLast) same
  · rintro ⟨counts, same⟩
    constructor
    · intro few
      rw [truncateOne_eq positive, if_pos (counts.mp few)]
    · intro many
      rw [truncateOne_eq positive, if_neg fun few => Nat.not_lt_of_le (counts.mpr few) many,
        same many]
    · exact truncateOne_truncateOne positive log.text

/-- Compaction keeps exactly the right lines of a log, whatever the limit, if and only if the
reader finds in it the lines that were written. -/
theorem compacts_iff_readsAsWritten :
    (∀ keepLast, 1 ≤ keepLast → log.Compacts keepLast) ↔ log.ReadsAsWritten := by
  constructor
  · intro compacts
    by_cases few : log.written.length ≤ 1 ∧ (readLines log.text).length ≤ 1
    · exact .inl few
    · right
      have counts := fun keepLast positive =>
        ((log.compacts_iff positive).mp (compacts keepLast positive)).1
      have sameCount : (readLines log.text).length = log.written.length := by
        have atWritten := counts (max log.written.length 1) (by omega)
        have atRead := counts (max (readLines log.text).length 1) (by omega)
        omega
      refine ⟨sameCount, ?_⟩
      have dropped := ((log.compacts_iff (by omega)).mp
        (compacts (log.written.length - 1) (by omega))).2 (by omega)
      rw [newestOf_pred, ← sameCount, newestOf_pred] at dropped
      exact dropped
  · intro reads keepLast positive
    rw [log.compacts_iff positive]
    rcases reads with few | ⟨sameCount, dropped⟩
    · exact ⟨by omega, fun many => by omega⟩
    · refine ⟨by omega, fun many => ?_⟩
      rw [← newestOf_dropOldest (sameCount ▸ many), dropped, newestOf_dropOldest many]

/-- An answer with a line separator in it, as the only event of a session. -/
def separatedLog : TimelineLog :=
  ofEvents Json.integerText Json.visible_of_mem_integerText [.obj [
    ("eventId", .str "e1"), ("sessionId", .str "deck_main"), ("ts", .num 1), ("seq", .num 1),
    ("epoch", .num 1), ("source", .str "daemon"), ("confidence", .str "high"),
    ("type", .str "assistant.text"),
    ("payload", .obj [("text", .str "first\u2028second"), ("streaming", .bool false)])]]

/-- The only line of a log is cut in two, and its end is kept. -/
theorem separatedLog_is_cut :
    ¬∀ (log : TimelineLog) (keepLast : Nat), 1 ≤ keepLast → log.Compacts keepLast := by
  intro compacts
  have short := (compacts separatedLog 1 (by decide)).short (by decide)
  exact absurd short (by decide +kernel)

end TimelineLog

end ImCodes.Timeline
