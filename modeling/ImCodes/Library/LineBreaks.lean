import Mathlib.Data.List.Basic

/-!
# Line breaks

A text is broken into lines that end in a line feed, with or without a carriage return before it,
and a last line that does not. Breaking a text loses nothing, and lines that have been put together
are broken where they were put together.
-/

set_option autoImplicit false

namespace ImCodes.Library

inductive LineBreak where
  | lf
  | crlf
deriving Repr, DecidableEq

def LineBreak.chars : LineBreak → List Char
  | .lf => ['\n']
  | .crlf => ['\r', '\n']

/-- Lines with their breaks, and a last line without. -/
structure BrokenText where
  ended : List (List Char × LineBreak)
  last : List Char
deriving Repr, DecidableEq

namespace BrokenText

def lines (broken : BrokenText) : List (List Char) := broken.ended.map (·.1) ++ [broken.last]

def pieces (broken : BrokenText) : List (List Char × Option LineBreak) :=
  (broken.ended.map fun (line, ending) => (line, some ending)) ++ [(broken.last, none)]

def endings (broken : BrokenText) : List (Option LineBreak) :=
  broken.ended.map (fun piece => some piece.2) ++ [none]

def chars (broken : BrokenText) : List Char :=
  broken.ended.flatMap (fun (line, ending) => line ++ ending.chars) ++ broken.last

def startLine (ending : LineBreak) (broken : BrokenText) : BrokenText :=
  { broken with ended := ([], ending) :: broken.ended }

/-- A character more on the first line. -/
def consChar (c : Char) (broken : BrokenText) : BrokenText :=
  match broken.ended with
  | [] => { broken with last := c :: broken.last }
  | (line, ending) :: rest => { broken with ended := (c :: line, ending) :: rest }

end BrokenText

/-- The text split at `\r?\n`. -/
def breakLines : List Char → BrokenText
  | [] => ⟨[], []⟩
  | '\n' :: rest => (breakLines rest).startLine .lf
  | '\r' :: '\n' :: rest => (breakLines rest).startLine .crlf
  | c :: rest => (breakLines rest).consChar c

/-- Whether the text has a carriage return right before a line feed. -/
def hasCrlf : List Char → Bool
  | [] => false
  | '\r' :: '\n' :: _ => true
  | _ :: rest => hasCrlf rest

/-- Lines that break where they are said to: none holds a line feed, and a carriage return before
a line feed belongs to the break. -/
structure BrokenText.Proper (broken : BrokenText) : Prop where
  plain : ∀ line ∈ broken.lines, '\n' ∉ line
  whole : ∀ line, (line, LineBreak.lf) ∈ broken.ended → line.getLast? ≠ some '\r'

namespace BrokenText

theorem lines_startLine (ending : LineBreak) (broken : BrokenText) :
    (broken.startLine ending).lines = [] :: broken.lines := by
  simp [lines, startLine]

theorem pieces_eq_zip (broken : BrokenText) :
    broken.pieces = broken.lines.zip broken.endings := by
  obtain ⟨ended, last⟩ := broken
  induction ended with
  | nil => rfl
  | cons piece rest ih =>
    simp only [pieces, lines, endings, List.map_cons, List.cons_append, List.zip_cons_cons]
      at ih ⊢
    rw [ih]

theorem lines_ne_nil (broken : BrokenText) : broken.lines ≠ [] := by
  simp [lines]

end BrokenText

open BrokenText

private theorem proper_startLine {broken : BrokenText} (proper : broken.Proper)
    (ending : LineBreak) : (broken.startLine ending).Proper := by
  constructor
  · intro line member
    rw [lines_startLine] at member
    cases member with
    | head => simp
    | tail _ later => exact proper.plain line later
  · intro line member
    cases member with
    | head => simp
    | tail _ later => exact proper.whole line later

private theorem proper_consChar {broken : BrokenText} (proper : broken.Proper) {c : Char}
    (plain : c ≠ '\n') (whole : c = '\r' → broken.ended.head? ≠ some ([], .lf)) :
    (broken.consChar c).Proper := by
  obtain ⟨ended, last⟩ := broken
  cases ended with
  | nil =>
    constructor
    · intro line member
      have same : line = c :: last := by simpa [lines, consChar] using member
      have kept := proper.plain last (by simp [lines])
      simp [same, plain.symm, kept]
    · intro line member
      cases member
  | cons piece rest =>
    obtain ⟨first, ending⟩ := piece
    constructor
    · intro line member
      simp only [lines, consChar, List.map_cons, List.cons_append, List.mem_cons] at member
      rcases member with same | later
      · have kept := proper.plain first (by simp [lines])
        simp [same, plain.symm, kept]
      · exact proper.plain line (by
          simp only [lines, List.map_cons, List.cons_append, List.mem_cons]
          exact .inr later)
    · intro line member
      simp only [consChar, List.mem_cons, Prod.mk.injEq] at member
      rcases member with ⟨same, isLf⟩ | later
      · cases first with
        | nil =>
          subst same
          intro returned
          simp only [List.getLast?_singleton, Option.some.injEq] at returned
          exact whole returned (by rw [← isLf]; rfl)
        | cons head tail =>
          rw [same, List.getLast?_cons_cons]
          exact proper.whole (head :: tail) (isLf ▸ List.mem_cons_self)
      · exact proper.whole line (List.mem_cons_of_mem _ later)

/-- A text starts with an empty line and a line feed only if it starts with a line feed. -/
private theorem ended_head_breakLines {text : List Char}
    (started : (breakLines text).ended.head? = some ([], .lf)) :
    ∃ rest, text = '\n' :: rest := by
  fun_cases breakLines text with
  | case1 => simp [breakLines] at started
  | case2 rest => exact ⟨rest, rfl⟩
  | case3 rest => simp [breakLines, startLine] at started
  | case4 c rest other apart =>
    rw [breakLines] at started
    · unfold consChar at started
      split at started
      · rename_i empty
        simp [empty] at started
      · simp at started
    · exact other
    · exact apart

theorem proper_breakLines (text : List Char) : (breakLines text).Proper := by
  fun_induction breakLines text with
  | case1 => exact ⟨by simp [lines], by simp⟩
  | case2 rest ih => exact proper_startLine ih .lf
  | case3 rest ih => exact proper_startLine ih .crlf
  | case4 c rest other apart ih =>
    refine proper_consChar ih (fun same => other same) ?_
    intro returned started
    obtain ⟨later, same⟩ := ended_head_breakLines started
    exact apart later returned same

/-! ## Putting lines together -/

private theorem breakLines_append_break {line : List Char} {ending : LineBreak}
    (plain : '\n' ∉ line) (whole : ending = .lf → line.getLast? ≠ some '\r') (rest : List Char) :
    breakLines (line ++ ending.chars ++ rest) =
      { breakLines rest with ended := (line, ending) :: (breakLines rest).ended } := by
  induction line with
  | nil =>
    cases ending with
    | lf => simp [LineBreak.chars, breakLines, startLine]
    | crlf => simp [LineBreak.chars, breakLines, startLine]
  | cons c line ih =>
    have other : c ≠ '\n' := fun same => plain (same ▸ List.mem_cons_self)
    have later : '\n' ∉ line := fun member => plain (List.mem_cons_of_mem _ member)
    have inner := ih later (by
      intro isLf returned
      cases line with
      | nil => simp at returned
      | cons next line =>
        apply whole isLf
        rw [List.getLast?_cons_cons, returned])
    have apart : ∀ tail, c = '\r' → line ++ ending.chars ++ rest ≠ '\n' :: tail := by
      intro tail returned starts
      cases line with
      | nil =>
        cases ending with
        | lf => exact whole rfl (by simp [returned])
        | crlf => simp [LineBreak.chars] at starts
      | cons next line =>
        simp only [List.cons_append, List.cons.injEq] at starts
        exact later (starts.1 ▸ List.mem_cons_self)
    simp only [List.cons_append]
    rw [breakLines.eq_4 c _ other (fun tail returned => apart tail returned), inner]
    rfl

private theorem breakLines_last {line : List Char} (plain : '\n' ∉ line) :
    breakLines line = ⟨[], line⟩ := by
  induction line with
  | nil => rfl
  | cons c line ih =>
    have other : c ≠ '\n' := fun same => plain (same ▸ List.mem_cons_self)
    have later : '\n' ∉ line := fun member => plain (List.mem_cons_of_mem _ member)
    rw [breakLines.eq_4 c line other, ih later]
    · rfl
    · intro tail returned starts
      exact later (starts ▸ List.mem_cons_self)

/-- Lines that have been put together are broken where they were put together. -/
theorem breakLines_chars {broken : BrokenText} (proper : broken.Proper) :
    breakLines broken.chars = broken := by
  obtain ⟨ended, last⟩ := broken
  induction ended with
  | nil =>
    have plain := proper.plain last (by simp [lines])
    simpa [chars] using breakLines_last plain
  | cons piece rest ih =>
    obtain ⟨line, ending⟩ := piece
    have inner : breakLines (chars ⟨rest, last⟩) = ⟨rest, last⟩ := by
      apply ih
      constructor
      · intro other member
        exact proper.plain other (by
          simp only [lines, List.map_cons, List.cons_append, List.mem_cons]
          exact .inr member)
      · intro other member
        exact proper.whole other (List.mem_cons_of_mem _ member)
    have together : chars ⟨(line, ending) :: rest, last⟩ =
        line ++ ending.chars ++ chars ⟨rest, last⟩ := by
      simp [chars]
    rw [together, breakLines_append_break (proper.plain line (by simp [lines])), inner]
    intro isLf
    exact proper.whole line (isLf ▸ List.mem_cons_self)

/-- The lines put together with one kind of break. -/
def joined (ending : LineBreak) : List (List Char) → BrokenText
  | [] => ⟨[], []⟩
  | [line] => ⟨[], line⟩
  | line :: next :: rest =>
    { joined ending (next :: rest) with
      ended := (line, ending) :: (joined ending (next :: rest)).ended }

section
variable {ending : LineBreak} {lines : List (List Char)}

theorem lines_joined (nonempty : lines ≠ []) : (joined ending lines).lines = lines := by
  induction lines with
  | nil => exact absurd rfl nonempty
  | cons line rest ih =>
    cases rest with
    | nil => rfl
    | cons next rest =>
      have inner := ih (List.cons_ne_nil _ _)
      simp only [BrokenText.lines] at inner
      simp only [joined, BrokenText.lines, List.map_cons, List.cons_append, inner]

theorem ended_joined :
    (joined ending lines).ended = lines.dropLast.map fun line => (line, ending) := by
  induction lines with
  | nil => rfl
  | cons line rest ih =>
    cases rest with
    | nil => rfl
    | cons next rest => simp [joined, ih]

theorem endings_joined : (joined ending lines).endings =
    List.replicate (lines.length - 1) (some ending) ++ [none] := by
  simp [endings, ended_joined, Function.comp_def, List.map_const']

theorem chars_joined : (joined ending lines).chars = ending.chars.intercalate lines := by
  induction lines with
  | nil => rfl
  | cons line rest ih =>
    cases rest with
    | nil => simp [joined, BrokenText.chars]
    | cons next rest =>
      rw [List.intercalate_cons_cons, ← ih]
      simp [joined, BrokenText.chars]

/-- Lines without line feeds break where they are joined, unless a carriage return before a bare
line feed becomes part of the break. -/
theorem proper_joined (plain : ∀ line ∈ lines, '\n' ∉ line)
    (whole : ending = .lf → ∀ line ∈ lines.dropLast, line.getLast? ≠ some '\r') :
    (joined ending lines).Proper := by
  constructor
  · intro line member
    by_cases nonempty : lines = []
    · subst nonempty
      simp only [joined, BrokenText.lines, List.map_nil, List.nil_append, List.mem_singleton]
        at member
      simp [member]
    · rw [lines_joined nonempty] at member
      exact plain line member
  · intro line member
    rw [ended_joined, List.mem_map] at member
    obtain ⟨other, among, same⟩ := member
    cases same
    exact whole rfl _ among

end

theorem hasCrlf_eq (text : List Char) :
    hasCrlf text = (breakLines text).ended.any fun piece => piece.2 = .crlf := by
  fun_induction breakLines text with
  | case1 => rfl
  | case2 rest ih => simp [hasCrlf, startLine, ih]
  | case3 rest ih => simp [hasCrlf, startLine]
  | case4 c rest other apart ih =>
    have same : hasCrlf (c :: rest) = hasCrlf rest := by
      rw [hasCrlf]
      exact fun tail returned starts => apart tail returned starts
    rw [same, ih]
    unfold consChar
    split
    · rename_i empty
      simp [empty]
    · rename_i line ending later started
      simp [started]

end ImCodes.Library
