import ImCodes.Library.LineBreaks

/-!
# Unified diffs

A diff is read line by line, each line classified by its first characters, with one counter for
the lines of the old file and one for those of the new. Texts are lists of characters, and line
numbers are exact integers.
-/

set_option autoImplicit false

namespace ImCodes.Files

open Library

abbrev Line := List Char

structure UnifiedDiffHunk where
  oldStart : Nat
  oldLines : Nat
  newStart : Nat
  newLines : Nat
  header : Line
deriving DecidableEq

inductive UnifiedDiffLineKind
  | file
  | hunk
  | add
  | del
  | ctx
deriving DecidableEq

structure UnifiedDiffParsedLine where
  kind : UnifiedDiffLineKind
  text : Line
  oldLineNumber : Option Int := none
  newLineNumber : Option Int := none
  hunk : Option UnifiedDiffHunk := none
deriving DecidableEq

/-! ## The pattern of a hunk header -/

def afterLiteral (literal : String) (chars : Line) : Option Line :=
  if literal.toList.isPrefixOf chars then some (chars.drop literal.toList.length) else none

/-- `(\d+)`, read as a number, and what follows. -/
def matchNumber (chars : Line) : Option (Nat × Line) :=
  let digits := chars.takeWhile Char.isDigit
  if digits = [] then none
  else some (Nat.ofDigitChars 10 digits 0, chars.dropWhile Char.isDigit)

/-- `(\d+)(?:,(\d+))?`, the second number being 1 where it is absent, and what follows. -/
def matchRange (chars : Line) : Option ((Nat × Nat) × Line) :=
  match matchNumber chars with
  | none => none
  | some (start, ',' :: rest) =>
    match matchNumber rest with
    | some (count, rest) => some ((start, count), rest)
    | none => some ((start, 1), ',' :: rest)
  | some (start, rest) => some ((start, 1), rest)

/-- What `.` does not match. -/
def isLineTerminator (c : Char) : Bool :=
  decide (c = '\n' ∨ c = '\r' ∨ c = Char.ofNat 0x2028 ∨ c = Char.ofNat 0x2029)

/-- `line.match(HUNK_RE)`, as the hunk that is made of it. -/
def matchHunk (line : Line) : Option UnifiedDiffHunk := do
  let rest ← afterLiteral "@@ -" line
  let ((oldStart, oldLines), rest) ← matchRange rest
  let rest ← afterLiteral " +" rest
  let ((newStart, newLines), rest) ← matchRange rest
  let rest ← afterLiteral " @@" rest
  if rest.any isLineTerminator then none
  else some ⟨oldStart, oldLines, newStart, newLines, line⟩

/-! ## Reading a diff -/

/-- `diff.replace(/\r\n/g, '\n')`. -/
def replaceCrlf : List Char → List Char
  | [] => []
  | '\r' :: '\n' :: rest => '\n' :: replaceCrlf rest
  | c :: rest => c :: replaceCrlf rest

structure Counters where
  oldLine : Int
  newLine : Int

def startsWith (line : Line) (start : String) : Bool := start.toList.isPrefixOf line

def isFileLine (line : Line) : Bool :=
  startsWith line "diff " || startsWith line "index " || startsWith line "---" ||
    startsWith line "+++" || startsWith line "old mode" || startsWith line "new mode"

/-- One round of the loop. -/
def parseLine (counters : Counters) (line : Line) : Counters × UnifiedDiffParsedLine :=
  if isFileLine line then (counters, { kind := .file, text := line })
  else if startsWith line "@@" then
    match matchHunk line with
    | some hunk =>
      (⟨hunk.oldStart - 1, hunk.newStart - 1⟩,
        { kind := .hunk, text := line, hunk := some hunk })
    | none => (counters, { kind := .hunk, text := line })
  else if startsWith line "+" then
    let newLine := counters.newLine + 1
    ({ counters with newLine }, { kind := .add, text := line.drop 1, newLineNumber := some newLine })
  else if startsWith line "-" then
    let oldLine := counters.oldLine + 1
    ({ counters with oldLine }, { kind := .del, text := line.drop 1, oldLineNumber := some oldLine })
  else
    let oldLine := counters.oldLine + 1
    let newLine := counters.newLine + 1
    (⟨oldLine, newLine⟩,
      { kind := .ctx
        text := if startsWith line " " then line.drop 1 else line
        oldLineNumber := some oldLine
        newLineNumber := some newLine })

/-- The loop over the lines; an empty last line is passed over. -/
def parseLines : Counters → List Line → List UnifiedDiffParsedLine
  | _, [] => []
  | counters, line :: rest =>
    if rest = [] ∧ line = [] then []
    else (parseLine counters line).2 :: parseLines (parseLine counters line).1 rest

def parseUnifiedDiff (diff : List Char) : List UnifiedDiffParsedLine :=
  parseLines ⟨0, 0⟩ ((replaceCrlf diff).splitOn '\n')

def extractUnifiedDiffHunks (diff : List Char) : List UnifiedDiffHunk :=
  (parseUnifiedDiff diff).filterMap fun line => if line.kind = .hunk then line.hunk else none

/-! ## Reading a rendered diff

A diff is rendered from files and hunks, every line ended by a line feed. What each line of a
body should be read as is compared with what the parser makes of it: the exact condition is local
to the lines and the hunk headers.
-/

abbrev PlainLine := { line : Line // '\n' ∉ line }

abbrev HeaderLine := { line : Line // '\n' ∉ line ∧ startsWith line "@@" = false }

inductive BodyLine
  | ctx (text : PlainLine)
  | add (text : PlainLine)
  | del (text : PlainLine)
  | noNewline

namespace BodyLine

def chars : BodyLine → Line
  | ctx text => ' ' :: text.val
  | add text => '+' :: text.val
  | del text => '-' :: text.val
  | noNewline => "\\ No newline at end of file".toList

theorem chars_ctx (text : PlainLine) : (ctx text).chars = ' ' :: text.val := rfl

theorem chars_add (text : PlainLine) : (add text).chars = '+' :: text.val := rfl

theorem chars_del (text : PlainLine) : (del text).chars = '-' :: text.val := rfl

def isOld : BodyLine → Bool
  | ctx _ => true
  | add _ => false
  | del _ => true
  | noNewline => false

def isNew : BodyLine → Bool
  | ctx _ => true
  | add _ => true
  | del _ => false
  | noNewline => false

end BodyLine

/-- A hunk; a count of one may be left out of its header. -/
structure DiffHunk where
  oldStart : Nat
  newStart : Nat
  shortOld : Bool
  shortNew : Bool
  sectionText : Option PlainLine
  body : List BodyLine

def rangeText (start count : Nat) (short : Bool) : Line :=
  Nat.toDigits 10 start ++
    if short = true ∧ count = 1 then [] else ',' :: Nat.toDigits 10 count

namespace DiffHunk

def oldLines (hunk : DiffHunk) : Nat := hunk.body.countP BodyLine.isOld

def newLines (hunk : DiffHunk) : Nat := hunk.body.countP BodyLine.isNew

def sectionChars (hunk : DiffHunk) : Line :=
  match hunk.sectionText with
  | none => []
  | some text => ' ' :: text.val

def header (hunk : DiffHunk) : Line :=
  "@@ -".toList ++ (rangeText hunk.oldStart hunk.oldLines hunk.shortOld ++
    (" +".toList ++ (rangeText hunk.newStart hunk.newLines hunk.shortNew ++
      (" @@".toList ++ hunk.sectionChars))))

def lines (hunk : DiffHunk) : List Line := hunk.header :: hunk.body.map BodyLine.chars

def record (hunk : DiffHunk) : UnifiedDiffHunk :=
  ⟨hunk.oldStart, hunk.oldLines, hunk.newStart, hunk.newLines, hunk.header⟩

end DiffHunk

structure DiffFile where
  header : List HeaderLine
  hunks : List DiffHunk

def DiffFile.lines (file : DiffFile) : List Line :=
  file.header.map Subtype.val ++ file.hunks.flatMap DiffHunk.lines

def endLines (lines : List Line) : List Char := lines.flatMap fun line => line ++ ['\n']

def render (diff : List DiffFile) : List Char := endLines (diff.flatMap DiffFile.lines)

/-- What the lines of a body are to be read as, given the numbers of the next old and the next
new line; nothing is said about markers. -/
def expectedBody (old new : Int) : List BodyLine → List (Option UnifiedDiffParsedLine)
  | [] => []
  | .ctx text :: rest =>
    some { kind := .ctx, text := text.val, oldLineNumber := some old, newLineNumber := some new }
      :: expectedBody (old + 1) (new + 1) rest
  | .add text :: rest =>
    some { kind := .add, text := text.val, newLineNumber := some new }
      :: expectedBody old (new + 1) rest
  | .del text :: rest =>
    some { kind := .del, text := text.val, oldLineNumber := some old }
      :: expectedBody (old + 1) new rest
  | .noNewline :: rest => none :: expectedBody old new rest

def DiffHunk.expected (hunk : DiffHunk) : List (Option UnifiedDiffParsedLine) :=
  none :: expectedBody hunk.oldStart hunk.newStart hunk.body

def DiffFile.expected (file : DiffFile) : List (Option UnifiedDiffParsedLine) :=
  file.header.map (fun _ => none) ++ file.hunks.flatMap DiffHunk.expected

def Agrees (expected : Option UnifiedDiffParsedLine) (parsed : UnifiedDiffParsedLine) : Prop :=
  ∀ line, expected = some line → parsed = line

/-- The parser reads a rendered diff right. -/
structure ReadRight (diff : List DiffFile) : Prop where
  /-- Line by line, every body line has its kind, its text and its numbers. -/
  lines : List.Forall₂ Agrees (diff.flatMap DiffFile.expected) (parseUnifiedDiff (render diff))
  hunks : extractUnifiedDiffHunks (render diff) =
    (diff.flatMap DiffFile.hunks).map DiffHunk.record

/-- No carriage return at the end, and no text that looks like a file header. -/
def BodyLine.Clear : BodyLine → Prop
  | ctx text => text.val.getLast? ≠ some '\r'
  | add text => text.val.getLast? ≠ some '\r' ∧ startsWith text.val "++" = false
  | del text => text.val.getLast? ≠ some '\r' ∧ startsWith text.val "--" = false
  | noNewline => True

/-- Clear lines, and nothing but markers after a marker. -/
def ClearBody : List BodyLine → Prop
  | [] => True
  | .noNewline :: rest => ∀ line ∈ rest, line = .noNewline
  | line :: rest => line.Clear ∧ ClearBody rest

def DiffHunk.ClearHeader (hunk : DiffHunk) : Prop := hunk.sectionChars.any isLineTerminator = false

/-! ## The lines of a rendered diff -/

def withoutCr (line : Line) : Line :=
  if line.getLast? = some '\r' then line.dropLast else line

private theorem lines_consChar (c : Char) (broken : BrokenText) :
    (broken.consChar c).lines = broken.lines.modifyHead (List.cons c) := by
  obtain ⟨ended, last⟩ := broken
  cases ended with
  | nil => rfl
  | cons piece rest => rfl

theorem splitOn_replaceCrlf (text : List Char) :
    (replaceCrlf text).splitOn '\n' = (breakLines text).lines := by
  fun_induction breakLines text with
  | case1 => rfl
  | case2 rest ih =>
    rw [BrokenText.lines_startLine, ← ih]
    simp [replaceCrlf, List.splitOn_cons_eq_if_modifyHead]
  | case3 rest ih =>
    rw [BrokenText.lines_startLine, ← ih]
    simp [replaceCrlf, List.splitOn_cons_eq_if_modifyHead]
  | case4 c rest other apart ih =>
    rw [lines_consChar, ← ih, replaceCrlf.eq_3 c rest apart,
      List.splitOn_cons_eq_if_modifyHead, if_neg (by simpa using other)]

private def pieceOf (line : Line) : Line × LineBreak :=
  if line.getLast? = some '\r' then (line.dropLast, .crlf) else (line, .lf)

private theorem pieceOf_chars (line : Line) :
    (pieceOf line).1 ++ (pieceOf line).2.chars = line ++ ['\n'] := by
  unfold pieceOf
  split
  · next returns =>
      obtain ⟨before, rfl⟩ := List.getLast?_eq_some_iff.mp returns
      simp [LineBreak.chars]
  · rfl

private theorem pieceOf_fst (line : Line) : (pieceOf line).1 = withoutCr line := by
  unfold pieceOf withoutCr
  split <;> rfl

theorem splitOn_endLines {lines : List Line} (plain : ∀ line ∈ lines, '\n' ∉ line) :
    (replaceCrlf (endLines lines)).splitOn '\n' = lines.map withoutCr ++ [[]] := by
  have chars : endLines lines = BrokenText.chars ⟨lines.map pieceOf, []⟩ := by
    simp only [endLines, BrokenText.chars, List.flatMap_map, pieceOf_chars, List.append_nil]
  have proper : BrokenText.Proper ⟨lines.map pieceOf, []⟩ := by
    constructor
    · intro line isLine
      simp only [BrokenText.lines, List.map_map, List.mem_append, List.mem_map,
        Function.comp_apply, List.mem_singleton] at isLine
      rcases isLine with ⟨rendered, isRendered, rfl⟩ | rfl
      · rw [pieceOf_fst, withoutCr]
        split
        · exact fun inside => plain rendered isRendered (List.dropLast_subset _ inside)
        · exact plain rendered isRendered
      · simp
    · intro line isEnded
      obtain ⟨rendered, _, isPiece⟩ := List.mem_map.mp isEnded
      unfold pieceOf at isPiece
      split at isPiece
      · cases isPiece
      · next returns =>
          cases isPiece
          exact returns
  rw [splitOn_replaceCrlf, chars, breakLines_chars proper]
  simp [BrokenText.lines, pieceOf_fst]

/-! ## Parsing in pieces -/

def parsedOf : Counters → List Line → List UnifiedDiffParsedLine
  | _, [] => []
  | counters, line :: rest => (parseLine counters line).2 :: parsedOf (parseLine counters line).1 rest

def countersAfter (counters : Counters) (lines : List Line) : Counters :=
  lines.foldl (fun counters line => (parseLine counters line).1) counters

theorem parseLines_ended (counters : Counters) (lines : List Line) :
    parseLines counters (lines ++ [[]]) = parsedOf counters lines := by
  induction lines generalizing counters with
  | nil => simp [parseLines, parsedOf]
  | cons line rest ih =>
    rw [List.cons_append, parseLines, if_neg (by simp), ih]
    rfl

theorem parsedOf_append (counters : Counters) (first second : List Line) :
    parsedOf counters (first ++ second) =
      parsedOf counters first ++ parsedOf (countersAfter counters first) second := by
  induction first generalizing counters with
  | nil => rfl
  | cons line rest ih =>
    simp only [List.cons_append, parsedOf, ih]
    rfl

@[simp] theorem length_parsedOf (counters : Counters) (lines : List Line) :
    (parsedOf counters lines).length = lines.length := by
  induction lines generalizing counters with
  | nil => rfl
  | cons line rest ih => simp [parsedOf, ih]

def hunkIn (line : Line) : Option UnifiedDiffHunk :=
  if isFileLine line then none else if startsWith line "@@" then matchHunk line else none

theorem hunk_of_parseLine (counters : Counters) (line : Line) :
    (if (parseLine counters line).2.kind = .hunk then (parseLine counters line).2.hunk else none) =
      hunkIn line := by
  unfold parseLine hunkIn
  split
  · rfl
  · split
    · cases matchHunk line <;> rfl
    · split
      · rfl
      · split <;> rfl

theorem hunks_of_parsedOf (counters : Counters) (lines : List Line) :
    ((parsedOf counters lines).filterMap fun line =>
      if line.kind = .hunk then line.hunk else none) = lines.filterMap hunkIn := by
  induction lines generalizing counters with
  | nil => rfl
  | cons line rest ih =>
    rw [parsedOf, List.filterMap_cons, List.filterMap_cons, ih, hunk_of_parseLine]

/-! ## The header of a hunk -/

theorem afterLiteral_append (literal : String) (rest : Line) :
    afterLiteral literal (literal.toList ++ rest) = some rest := by
  unfold afterLiteral
  rw [if_pos (List.isPrefixOf_iff_prefix.mpr (List.prefix_append _ _)), List.drop_left]

theorem matchNumber_append (number : Nat) {rest : Line}
    (ends : ∀ c, rest.head? = some c → c.isDigit = false) :
    matchNumber (Nat.toDigits 10 number ++ rest) = some (number, rest) := by
  have digits : ∀ c ∈ Nat.toDigits 10 number, c.isDigit = true := by
    intro c isDigit
    exact Nat.isDigit_of_mem_toDigits (by omega) (by omega) isDigit
  have restStops : rest.takeWhile Char.isDigit = [] ∧ rest.dropWhile Char.isDigit = rest := by
    cases rest with
    | nil => exact ⟨rfl, rfl⟩
    | cons c later =>
      have notDigit : c.isDigit = false := ends c rfl
      simp [notDigit]
  have taken : (Nat.toDigits 10 number ++ rest).takeWhile Char.isDigit = Nat.toDigits 10 number := by
    rw [List.takeWhile_append_of_pos digits, restStops.1, List.append_nil]
  have dropped : (Nat.toDigits 10 number ++ rest).dropWhile Char.isDigit = rest := by
    rw [List.dropWhile_append_of_pos digits, restStops.2]
  unfold matchNumber
  simp only [taken, dropped, Nat.toDigits_ne_nil, if_false, Nat.ofDigitChars_ten_toDigits]

theorem matchRange_rangeText (start count : Nat) (short : Bool) {rest : Line}
    (spaced : rest.head? = some ' ') :
    matchRange (rangeText start count short ++ rest) = some ((start, count), rest) := by
  obtain ⟨later, rfl⟩ : ∃ later, rest = ' ' :: later := by
    cases rest with
    | nil => cases spaced
    | cons c later =>
      cases spaced
      exact ⟨later, rfl⟩
  have spaceEnds : ∀ c, (' ' :: later).head? = some c → c.isDigit = false := by
    intro c isHead
    cases isHead
    decide
  have commaEnds : ∀ c, (',' :: (Nat.toDigits 10 count ++ ' ' :: later)).head? = some c →
      c.isDigit = false := by
    intro c isHead
    cases isHead
    decide
  by_cases left : short = true ∧ count = 1
  · rw [rangeText, if_pos left, List.append_nil, matchRange, matchNumber_append start spaceEnds,
      left.2]
    rfl
  · rw [rangeText, if_neg left, List.append_assoc, List.cons_append, matchRange,
      matchNumber_append start commaEnds]
    change (match matchNumber (Nat.toDigits 10 count ++ ' ' :: later) with
      | some (count, rest) => some ((start, count), rest)
      | none => some ((start, 1), ',' :: (Nat.toDigits 10 count ++ ' ' :: later))) = _
    rw [matchNumber_append count spaceEnds]

def DiffHunk.headerStart (hunk : DiffHunk) : Line :=
  "@@ -".toList ++ (rangeText hunk.oldStart hunk.oldLines hunk.shortOld ++
    (" +".toList ++ (rangeText hunk.newStart hunk.newLines hunk.shortNew ++ " @@".toList)))

theorem DiffHunk.header_eq (hunk : DiffHunk) :
    hunk.header = hunk.headerStart ++ hunk.sectionChars := by
  simp [DiffHunk.header, DiffHunk.headerStart]

theorem matchHunk_headerStart (hunk : DiffHunk) (rest : Line) :
    matchHunk (hunk.headerStart ++ rest) =
      if rest.any isLineTerminator then none
      else some { hunk.record with header := hunk.headerStart ++ rest } := by
  have whole : hunk.headerStart ++ rest = "@@ -".toList ++
      (rangeText hunk.oldStart hunk.oldLines hunk.shortOld ++ (" +".toList ++
        (rangeText hunk.newStart hunk.newLines hunk.shortNew ++ (" @@".toList ++ rest)))) := by
    simp [DiffHunk.headerStart]
  unfold matchHunk
  rw [whole, afterLiteral_append]
  simp only [bind, Option.bind]
  rw [matchRange_rangeText _ _ _ rfl]
  simp only [afterLiteral_append]
  rw [matchRange_rangeText _ _ _ rfl]
  simp only [afterLiteral_append]
  rfl

theorem withoutCr_append {start rest : Line} (ends : start.getLast? ≠ some '\r') :
    withoutCr (start ++ rest) = start ++ withoutCr rest := by
  cases rest with
  | nil => simp [withoutCr, ends]
  | cons c later =>
    have last : (start ++ c :: later).getLast? = (c :: later).getLast? := by
      rw [List.getLast?_append_of_ne_nil _ (List.cons_ne_nil c later)]
    unfold withoutCr
    rw [last]
    split
    · rw [List.dropLast_append_of_ne_nil (List.cons_ne_nil c later)]
    · rfl

theorem withoutCr_header (hunk : DiffHunk) :
    withoutCr hunk.header = hunk.headerStart ++ withoutCr hunk.sectionChars := by
  have ending : hunk.headerStart = ("@@ -".toList ++
      (rangeText hunk.oldStart hunk.oldLines hunk.shortOld ++ (" +".toList ++
        rangeText hunk.newStart hunk.newLines hunk.shortNew))) ++ " @@".toList := by
    simp [DiffHunk.headerStart]
  rw [hunk.header_eq]
  apply withoutCr_append
  rw [ending, List.getLast?_append_of_ne_nil _ (by decide)]
  decide

theorem startsWith_of_head {line : Line} {start : String} {c : Char}
    (first : line.head? = some c) (differs : start.toList.head? ≠ some c)
    (nonempty : start.toList ≠ []) : startsWith line start = false := by
  unfold startsWith
  cases line with
  | nil => cases first
  | cons head rest =>
    cases first
    cases asked : start.toList with
    | nil => exact absurd asked nonempty
    | cons other later =>
      rw [asked] at differs
      have different : other ≠ c := fun same => differs (congrArg some same)
      simp [List.isPrefixOf, different]

theorem isFileLine_of_head {line : Line} {c : Char} (first : line.head? = some c)
    (plain : c ∉ ['d', 'i', '-', '+', 'o', 'n']) : isFileLine line = false := by
  simp only [List.mem_cons, List.not_mem_nil, or_false, not_or] at plain
  obtain ⟨notD, notI, notMinus, notPlus, notO, notN⟩ := plain
  unfold isFileLine
  rw [startsWith_of_head first (by simpa using Ne.symm notD) (by decide),
    startsWith_of_head first (by simpa using Ne.symm notI) (by decide),
    startsWith_of_head first (by simpa using Ne.symm notMinus) (by decide),
    startsWith_of_head first (by simpa using Ne.symm notPlus) (by decide),
    startsWith_of_head first (by simpa using Ne.symm notO) (by decide),
    startsWith_of_head first (by simpa using Ne.symm notN) (by decide)]
  rfl

theorem startsWith_headerStart (hunk : DiffHunk) (rest : Line) :
    isFileLine (hunk.headerStart ++ rest) = false ∧
      startsWith (hunk.headerStart ++ rest) "@@" = true := by
  constructor
  · exact isFileLine_of_head rfl (by decide)
  · rfl

theorem hunkIn_header_iff (hunk : DiffHunk) :
    hunkIn (withoutCr hunk.header) = some hunk.record ↔ hunk.ClearHeader := by
  obtain ⟨notFile, isHeader⟩ := startsWith_headerStart hunk (withoutCr hunk.sectionChars)
  unfold hunkIn DiffHunk.ClearHeader
  rw [withoutCr_header, notFile, isHeader, if_neg Bool.false_ne_true, if_pos rfl,
    matchHunk_headerStart]
  cases returns : decide (hunk.sectionChars.getLast? = some '\r') with
  | true =>
    have ended := of_decide_eq_true returns
    have terminated : hunk.sectionChars.any isLineTerminator = true :=
      List.any_eq_true.mpr ⟨'\r', List.mem_of_getLast? ended, by decide⟩
    have shorter : withoutCr hunk.sectionChars ≠ hunk.sectionChars := by
      rw [withoutCr, if_pos ended]
      intro same
      have lengths := congrArg List.length same
      rw [List.length_dropLast] at lengths
      have nonempty := List.length_pos_of_mem (List.mem_of_getLast? ended)
      omega
    simp only [terminated, Bool.true_eq_false, iff_false]
    intro read
    split at read
    · cases read
    · have headers := congrArg UnifiedDiffHunk.header (Option.some.inj read)
      change _ = hunk.header at headers
      rw [hunk.header_eq] at headers
      exact shorter (List.append_cancel_left headers)
  | false =>
    have same : withoutCr hunk.sectionChars = hunk.sectionChars :=
      if_neg (of_decide_eq_false returns)
    rw [same, ← hunk.header_eq]
    cases hunk.sectionChars.any isLineTerminator with
    | true => simp
    | false => simp [DiffHunk.record]

/-! ## The lines of a body -/

theorem withoutCr_eq_self_iff {line : Line} :
    withoutCr line = line ↔ line.getLast? ≠ some '\r' := by
  unfold withoutCr
  split
  · next returns =>
      simp only [returns, not_true_eq_false, ne_eq, iff_false]
      intro same
      have lengths := congrArg List.length same
      rw [List.length_dropLast] at lengths
      have nonempty := List.length_pos_of_mem (List.mem_of_getLast? returns)
      omega
  · next stays => simp [stays]

theorem withoutCr_cons {c : Char} {rest : Line} (notCr : c ≠ '\r') :
    withoutCr (c :: rest) = c :: withoutCr rest := by
  have cut := @withoutCr_append [c] rest (by simpa using notCr)
  simpa using cut

theorem parseLine_ctx (counters : Counters) (text : Line) :
    parseLine counters (withoutCr (' ' :: text)) =
      (⟨counters.oldLine + 1, counters.newLine + 1⟩,
        { kind := .ctx
          text := withoutCr text
          oldLineNumber := some (counters.oldLine + 1)
          newLineNumber := some (counters.newLine + 1) }) := by
  rw [withoutCr_cons (by decide), parseLine, isFileLine_of_head rfl (by decide),
    startsWith_of_head rfl (by decide) (by decide), startsWith_of_head rfl (by decide) (by decide),
    startsWith_of_head rfl (by decide) (by decide)]
  rfl

theorem parseLine_add (counters : Counters) (text : Line) :
    parseLine counters (withoutCr ('+' :: text)) =
      if startsWith (withoutCr text) "++" then
        (counters, { kind := .file, text := '+' :: withoutCr text })
      else
        ({ counters with newLine := counters.newLine + 1 },
          { kind := .add
            text := withoutCr text
            newLineNumber := some (counters.newLine + 1) }) := by
  have isFile : isFileLine ('+' :: withoutCr text) = startsWith (withoutCr text) "++" := by
    unfold isFileLine
    rw [startsWith_of_head rfl (by decide) (by decide),
      startsWith_of_head rfl (by decide) (by decide),
      startsWith_of_head rfl (by decide) (by decide),
      @startsWith_of_head _ "old mode" _ rfl (by decide) (by decide),
      @startsWith_of_head _ "new mode" _ rfl (by decide) (by decide)]
    simp [startsWith]
  rw [withoutCr_cons (by decide), parseLine, isFile,
    @startsWith_of_head _ "@@" _ rfl (by decide) (by decide)]
  rfl

theorem parseLine_del (counters : Counters) (text : Line) :
    parseLine counters (withoutCr ('-' :: text)) =
      if startsWith (withoutCr text) "--" then
        (counters, { kind := .file, text := '-' :: withoutCr text })
      else
        ({ counters with oldLine := counters.oldLine + 1 },
          { kind := .del
            text := withoutCr text
            oldLineNumber := some (counters.oldLine + 1) }) := by
  have isFile : isFileLine ('-' :: withoutCr text) = startsWith (withoutCr text) "--" := by
    unfold isFileLine
    rw [@startsWith_of_head _ "diff " _ rfl (by decide) (by decide),
      @startsWith_of_head _ "index " _ rfl (by decide) (by decide),
      @startsWith_of_head _ "+++" _ rfl (by decide) (by decide),
      @startsWith_of_head _ "old mode" _ rfl (by decide) (by decide),
      @startsWith_of_head _ "new mode" _ rfl (by decide) (by decide)]
    simp [startsWith]
  rw [withoutCr_cons (by decide), parseLine, isFile,
    @startsWith_of_head _ "@@" _ rfl (by decide) (by decide),
    @startsWith_of_head _ "+" _ rfl (by decide) (by decide)]
  rfl

theorem agrees_none (parsed : UnifiedDiffParsedLine) : Agrees none parsed := by
  intro line impossible
  cases impossible

theorem agrees_some_iff {expected parsed : UnifiedDiffParsedLine} :
    Agrees (some expected) parsed ↔ parsed = expected := by
  simp [Agrees, eq_comm]

def bodyLines (body : List BodyLine) : List Line := (body.map BodyLine.chars).map withoutCr

theorem bodyLines_cons (line : BodyLine) (rest : List BodyLine) :
    bodyLines (line :: rest) = withoutCr line.chars :: bodyLines rest := rfl

theorem parsedOf_noNewline (counters : Counters) (rest : List BodyLine) :
    parsedOf counters (bodyLines (.noNewline :: rest)) =
      (parseLine counters (withoutCr (BodyLine.chars .noNewline))).2 ::
        parsedOf ⟨counters.oldLine + 1, counters.newLine + 1⟩ (bodyLines rest) := by
  rw [bodyLines_cons, parsedOf]
  rfl

theorem agrees_ahead_iff (body : List BodyLine) (counters : Counters) (ahead : Nat) :
    List.Forall₂ Agrees
        (expectedBody (counters.oldLine - ahead) (counters.newLine - ahead) body)
        (parsedOf counters (bodyLines body)) ↔
      ∀ line ∈ body, line = .noNewline := by
  induction body generalizing counters ahead with
  | nil => simp [expectedBody, bodyLines, parsedOf]
  | cons line rest ih =>
    rw [List.forall_mem_cons]
    cases line with
    | ctx text =>
      rw [bodyLines_cons, parsedOf, expectedBody, List.forall₂_cons,
        BodyLine.chars_ctx, parseLine_ctx, agrees_some_iff, UnifiedDiffParsedLine.mk.injEq]
      constructor
      · rintro ⟨⟨_, _, sameOld, _⟩, _⟩
        have impossible := Option.some.inj sameOld
        omega
      · rintro ⟨impossible, _⟩
        cases impossible
    | add text =>
      rw [bodyLines_cons, parsedOf, expectedBody, List.forall₂_cons,
        BodyLine.chars_add, parseLine_add, agrees_some_iff]
      constructor
      · rintro ⟨same, _⟩
        split at same
        · cases congrArg UnifiedDiffParsedLine.kind same
        · have impossible := congrArg UnifiedDiffParsedLine.newLineNumber same
          have numbers := Option.some.inj impossible
          omega
      · rintro ⟨impossible, _⟩
        cases impossible
    | del text =>
      rw [bodyLines_cons, parsedOf, expectedBody, List.forall₂_cons,
        BodyLine.chars_del, parseLine_del, agrees_some_iff]
      constructor
      · rintro ⟨same, _⟩
        split at same
        · cases congrArg UnifiedDiffParsedLine.kind same
        · have impossible := congrArg UnifiedDiffParsedLine.oldLineNumber same
          have numbers := Option.some.inj impossible
          omega
      · rintro ⟨impossible, _⟩
        cases impossible
    | noNewline =>
      rw [expectedBody, parsedOf_noNewline, List.forall₂_cons]
      simp only [agrees_none, true_and]
      have later := ih ⟨counters.oldLine + 1, counters.newLine + 1⟩ (ahead + 1)
      have sameOld : counters.oldLine + 1 - ((ahead + 1 : Nat) : Int) =
          counters.oldLine - ahead := by omega
      have sameNew : counters.newLine + 1 - ((ahead + 1 : Nat) : Int) =
          counters.newLine - ahead := by omega
      dsimp only at later
      rw [sameOld, sameNew] at later
      exact later

theorem agrees_body_iff (body : List BodyLine) (counters : Counters) :
    List.Forall₂ Agrees (expectedBody (counters.oldLine + 1) (counters.newLine + 1) body)
        (parsedOf counters (bodyLines body)) ↔ ClearBody body := by
  induction body generalizing counters with
  | nil => simp [expectedBody, bodyLines, parsedOf, ClearBody]
  | cons line rest ih =>
    cases line with
    | ctx text =>
      rw [bodyLines_cons, parsedOf, expectedBody, List.forall₂_cons,
        BodyLine.chars_ctx, parseLine_ctx, agrees_some_iff, ClearBody, BodyLine.Clear, ← withoutCr_eq_self_iff]
      · simp only [UnifiedDiffParsedLine.mk.injEq, true_and, and_true]
        exact and_congr Iff.rfl (ih ⟨counters.oldLine + 1, counters.newLine + 1⟩)
      · simp
    | add text =>
      rw [bodyLines_cons, parsedOf, expectedBody, List.forall₂_cons,
        BodyLine.chars_add, parseLine_add, agrees_some_iff, ClearBody, BodyLine.Clear, ← withoutCr_eq_self_iff]
      · cases looksLikeFile : startsWith (withoutCr text.val) "++" with
        | true =>
          constructor
          · rintro ⟨same, _⟩
            cases congrArg UnifiedDiffParsedLine.kind same
          · rintro ⟨⟨same, plain⟩, _⟩
            rw [same, plain] at looksLikeFile
            cases looksLikeFile
        | false =>
          have later := ih { counters with newLine := counters.newLine + 1 }
          constructor
          · rintro ⟨same, reads⟩
            have sameText : withoutCr text.val = text.val :=
              congrArg UnifiedDiffParsedLine.text same
            rw [sameText] at looksLikeFile
            exact ⟨⟨sameText, looksLikeFile⟩, later.mp reads⟩
          · rintro ⟨⟨sameText, _⟩, clear⟩
            refine ⟨?_, later.mpr clear⟩
            rw [sameText]
            rfl
      · simp
    | del text =>
      rw [bodyLines_cons, parsedOf, expectedBody, List.forall₂_cons,
        BodyLine.chars_del, parseLine_del, agrees_some_iff, ClearBody, BodyLine.Clear, ← withoutCr_eq_self_iff]
      · cases looksLikeFile : startsWith (withoutCr text.val) "--" with
        | true =>
          constructor
          · rintro ⟨same, _⟩
            cases congrArg UnifiedDiffParsedLine.kind same
          · rintro ⟨⟨same, plain⟩, _⟩
            rw [same, plain] at looksLikeFile
            cases looksLikeFile
        | false =>
          have later := ih { counters with oldLine := counters.oldLine + 1 }
          constructor
          · rintro ⟨same, reads⟩
            have sameText : withoutCr text.val = text.val :=
              congrArg UnifiedDiffParsedLine.text same
            rw [sameText] at looksLikeFile
            exact ⟨⟨sameText, looksLikeFile⟩, later.mp reads⟩
          · rintro ⟨⟨sameText, _⟩, clear⟩
            refine ⟨?_, later.mpr clear⟩
            rw [sameText]
            rfl
      · simp
    | noNewline =>
      rw [expectedBody, parsedOf_noNewline, List.forall₂_cons, ClearBody]
      have later := agrees_ahead_iff rest ⟨counters.oldLine + 1, counters.newLine + 1⟩ 0
      simpa [agrees_none] using later

/-! ## Whole diffs -/

private theorem forall₂_append_iff {Left Right : Type} {related : Left → Right → Prop}
    {first second : List Left} {other another : List Right}
    (fits : first.length = other.length) :
    List.Forall₂ related (first ++ second) (other ++ another) ↔
      List.Forall₂ related first other ∧ List.Forall₂ related second another := by
  induction first generalizing other with
  | nil =>
    cases List.length_eq_zero_iff.mp fits.symm
    simp
  | cons head rest ih =>
    cases other with
    | nil => cases fits
    | cons next later =>
      rw [List.cons_append, List.cons_append, List.forall₂_cons, List.forall₂_cons,
        ih (Nat.succ.inj fits), and_assoc]

theorem agrees_blocks_iff {Block : Type} {expected : Block → List (Option UnifiedDiffParsedLine)}
    {lines : Block → List Line} {Clear : Block → Prop} {blocks : List Block}
    (fits : ∀ block, (expected block).length = (lines block).length)
    (each : ∀ block ∈ blocks, ∀ counters,
      List.Forall₂ Agrees (expected block) (parsedOf counters (lines block)) ↔ Clear block)
    (counters : Counters) :
    List.Forall₂ Agrees (blocks.flatMap expected) (parsedOf counters (blocks.flatMap lines)) ↔
      ∀ block ∈ blocks, Clear block := by
  induction blocks generalizing counters with
  | nil => simp [parsedOf]
  | cons block rest ih =>
    rw [List.flatMap_cons, List.flatMap_cons, parsedOf_append, forall₂_append_iff (by simp [fits]),
      each block (by simp), ih fun later isLater => each later (by simp [isLater]),
      List.forall_mem_cons]

@[simp] theorem length_expectedBody (old new : Int) (body : List BodyLine) :
    (expectedBody old new body).length = body.length := by
  induction body generalizing old new with
  | nil => rfl
  | cons line rest ih => cases line <;> simp [expectedBody, ih]

theorem counters_of_hunkIn {line : Line} {hunk : UnifiedDiffHunk} (read : hunkIn line = some hunk)
    (counters : Counters) :
    (parseLine counters line).1 = ⟨hunk.oldStart - 1, hunk.newStart - 1⟩ := by
  unfold hunkIn at read
  unfold parseLine
  split at read
  · cases read
  · next notFile =>
      split at read
      · next isHeader =>
          rw [if_neg notFile, if_pos isHeader, read]
      · cases read

def DiffHunk.splitLines (hunk : DiffHunk) : List Line := hunk.lines.map withoutCr

def DiffFile.splitLines (file : DiffFile) : List Line := file.lines.map withoutCr

theorem agrees_hunk_iff {hunk : DiffHunk} (clear : hunk.ClearHeader) (counters : Counters) :
    List.Forall₂ Agrees hunk.expected (parsedOf counters hunk.splitLines) ↔
      ClearBody hunk.body := by
  have read := (hunkIn_header_iff hunk).mpr clear
  have body := agrees_body_iff hunk.body ⟨hunk.oldStart - 1, hunk.newStart - 1⟩
  simp only [Int.sub_add_cancel] at body
  rw [DiffHunk.expected, DiffHunk.splitLines, DiffHunk.lines, List.map_cons, parsedOf,
    List.forall₂_cons, counters_of_hunkIn read, ← body]
  exact and_iff_right (agrees_none _)

theorem DiffFile.splitLines_eq (file : DiffFile) :
    file.splitLines = (file.header.map Subtype.val).map withoutCr ++
      file.hunks.flatMap DiffHunk.splitLines := by
  simp only [DiffFile.splitLines, DiffFile.lines, List.map_append, List.map_flatMap]
  rfl

private theorem agrees_header (header : List HeaderLine) (counters : Counters) :
    List.Forall₂ Agrees (header.map fun _ => none)
      (parsedOf counters ((header.map Subtype.val).map withoutCr)) := by
  induction header generalizing counters with
  | nil => exact .nil
  | cons line rest ih => exact .cons (agrees_none _) (ih _)

theorem length_hunk_expected (hunk : DiffHunk) :
    hunk.expected.length = hunk.splitLines.length := by
  simp [DiffHunk.expected, DiffHunk.splitLines, DiffHunk.lines]

theorem length_file_expected (file : DiffFile) :
    file.expected.length = file.splitLines.length := by
  rw [file.splitLines_eq, DiffFile.expected, List.length_append, List.length_append,
    List.length_flatMap, List.length_flatMap, funext length_hunk_expected]
  simp

theorem agrees_file_iff {file : DiffFile} (clear : ∀ hunk ∈ file.hunks, hunk.ClearHeader)
    (counters : Counters) :
    List.Forall₂ Agrees file.expected (parsedOf counters file.splitLines) ↔
      ∀ hunk ∈ file.hunks, ClearBody hunk.body := by
  have hunks := agrees_blocks_iff length_hunk_expected
    (fun hunk isHunk counters => agrees_hunk_iff (clear hunk isHunk) counters)
    (countersAfter counters ((file.header.map Subtype.val).map withoutCr))
  rw [file.splitLines_eq, DiffFile.expected, parsedOf_append, forall₂_append_iff (by simp), hunks]
  exact and_iff_right (agrees_header file.header counters)

private theorem rangeText_plain (start count : Nat) (short : Bool) :
    '\n' ∉ rangeText start count short := by
  have digits : ∀ number, '\n' ∉ Nat.toDigits 10 number := by
    intro number isDigit
    have decimal := Nat.isDigit_of_mem_toDigits (by omega) (by omega) isDigit
    cases decimal
  unfold rangeText
  split
  · simpa using digits start
  · simp only [List.mem_append, List.mem_cons, not_or]
    exact ⟨digits start, by decide, digits count⟩

private theorem header_plain (hunk : DiffHunk) : '\n' ∉ hunk.header := by
  have sectionPlain : '\n' ∉ hunk.sectionChars := by
    unfold DiffHunk.sectionChars
    cases hunk.sectionText with
    | none => simp
    | some text => simpa using text.property
  simp only [DiffHunk.header, List.mem_append, not_or]
  exact ⟨by decide, rangeText_plain _ _ _, by decide, rangeText_plain _ _ _, by decide,
    sectionPlain⟩

private theorem chars_plain (line : BodyLine) : '\n' ∉ line.chars := by
  cases line with
  | ctx text => simpa [BodyLine.chars_ctx] using text.property
  | add text => simpa [BodyLine.chars_add] using text.property
  | del text => simpa [BodyLine.chars_del] using text.property
  | noNewline => decide

theorem lines_plain {diff : List DiffFile} {line : Line}
    (isLine : line ∈ diff.flatMap DiffFile.lines) : '\n' ∉ line := by
  obtain ⟨file, _, inFile⟩ := List.mem_flatMap.mp isLine
  rcases List.mem_append.mp inFile with inHeader | inHunks
  · obtain ⟨header, _, rfl⟩ := List.mem_map.mp inHeader
    exact header.property.1
  · obtain ⟨hunk, _, inHunk⟩ := List.mem_flatMap.mp inHunks
    rcases List.mem_cons.mp inHunk with rfl | inBody
    · exact header_plain hunk
    · obtain ⟨bodyLine, _, rfl⟩ := List.mem_map.mp inBody
      exact chars_plain bodyLine

theorem parseUnifiedDiff_render (diff : List DiffFile) :
    parseUnifiedDiff (render diff) = parsedOf ⟨0, 0⟩ (diff.flatMap DiffFile.splitLines) := by
  rw [parseUnifiedDiff, render, splitOn_endLines fun line => lines_plain, parseLines_ended,
    List.map_flatMap]
  rfl

private theorem hunkIn_of_plain_start {line : Line} (plain : startsWith line "@@" = false) :
    hunkIn line = none := by
  unfold hunkIn
  rw [plain]
  split <;> rfl

private theorem hunkIn_header (line : HeaderLine) : hunkIn (withoutCr line.val) = none := by
  apply hunkIn_of_plain_start
  rw [← Bool.not_eq_true]
  intro starts
  have isPrefix : withoutCr line.val <+: line.val := by
    unfold withoutCr
    split
    · exact List.dropLast_prefix _
    · exact List.prefix_refl _
  have whole : startsWith line.val "@@" = true :=
    List.isPrefixOf_iff_prefix.mpr ((List.isPrefixOf_iff_prefix.mp starts).trans isPrefix)
  rw [line.property.2] at whole
  cases whole

private theorem hunkIn_body (line : BodyLine) : hunkIn (withoutCr line.chars) = none := by
  apply hunkIn_of_plain_start
  cases line with
  | ctx text =>
    rw [BodyLine.chars_ctx, withoutCr_cons (by decide)]
    exact startsWith_of_head rfl (by decide) (by decide)
  | add text =>
    rw [BodyLine.chars_add, withoutCr_cons (by decide)]
    exact startsWith_of_head rfl (by decide) (by decide)
  | del text =>
    rw [BodyLine.chars_del, withoutCr_cons (by decide)]
    exact startsWith_of_head rfl (by decide) (by decide)
  | noNewline => decide

theorem hunks_of_hunk (hunk : DiffHunk) :
    hunk.splitLines.filterMap hunkIn = (hunkIn (withoutCr hunk.header)).toList := by
  have body : ((hunk.body.map BodyLine.chars).map withoutCr).filterMap hunkIn = [] := by
    rw [List.filterMap_eq_nil_iff]
    intro line isLine
    obtain ⟨rendered, isRendered, rfl⟩ := List.mem_map.mp isLine
    obtain ⟨bodyLine, _, rfl⟩ := List.mem_map.mp isRendered
    exact hunkIn_body bodyLine
  rw [DiffHunk.splitLines, DiffHunk.lines, List.map_cons, List.filterMap_cons, body]
  cases hunkIn (withoutCr hunk.header) <;> rfl

theorem hunks_of_file (file : DiffFile) :
    file.splitLines.filterMap hunkIn =
      file.hunks.filterMap fun hunk => hunkIn (withoutCr hunk.header) := by
  have header : ((file.header.map Subtype.val).map withoutCr).filterMap hunkIn = [] := by
    rw [List.filterMap_eq_nil_iff]
    intro line isLine
    obtain ⟨rendered, isRendered, rfl⟩ := List.mem_map.mp isLine
    obtain ⟨headerLine, _, rfl⟩ := List.mem_map.mp isRendered
    exact hunkIn_header headerLine
  rw [file.splitLines_eq, List.filterMap_append, header, List.nil_append, List.filterMap_flatMap,
    funext hunks_of_hunk]
  exact (List.filterMap_eq_flatMap_toList _ _).symm

theorem extractUnifiedDiffHunks_render_iff (diff : List DiffFile) :
    extractUnifiedDiffHunks (render diff) = (diff.flatMap DiffFile.hunks).map DiffHunk.record ↔
      ∀ file ∈ diff, ∀ hunk ∈ file.hunks, hunk.ClearHeader := by
  rw [extractUnifiedDiffHunks, parseUnifiedDiff_render, hunks_of_parsedOf, List.filterMap_flatMap,
    funext hunks_of_file, ← List.filterMap_flatMap, List.filterMap_eq_map_iff_forall_eq_some]
  simp only [hunkIn_header_iff, List.mem_flatMap]
  constructor
  · intro all file isFile hunk isHunk
    exact all hunk ⟨file, isFile, isHunk⟩
  · rintro all hunk ⟨file, isFile, isHunk⟩
    exact all file isFile hunk isHunk

/-- A rendered diff is read right exactly if no section text holds a line terminator, no deleted
text starts with `--` and no added one with `++`, no text ends in a carriage return, and nothing
but markers follows a marker in its hunk. -/
theorem parseUnifiedDiff_readRight_iff (diff : List DiffFile) :
    ReadRight diff ↔
      ∀ file ∈ diff, ∀ hunk ∈ file.hunks, hunk.ClearHeader ∧ ClearBody hunk.body := by
  have bodies : (∀ file ∈ diff, ∀ hunk ∈ file.hunks, hunk.ClearHeader) →
      (List.Forall₂ Agrees (diff.flatMap DiffFile.expected) (parseUnifiedDiff (render diff)) ↔
        ∀ file ∈ diff, ∀ hunk ∈ file.hunks, ClearBody hunk.body) := by
    intro clear
    rw [parseUnifiedDiff_render]
    exact agrees_blocks_iff length_file_expected
      (fun file isFile counters => agrees_file_iff (clear file isFile) counters) ⟨0, 0⟩
  constructor
  · intro ⟨lines, hunks⟩ file isFile hunk isHunk
    have clear := (extractUnifiedDiffHunks_render_iff diff).mp hunks
    exact ⟨clear file isFile hunk isHunk, (bodies clear).mp lines file isFile hunk isHunk⟩
  · intro clear
    have headers : ∀ file ∈ diff, ∀ hunk ∈ file.hunks, hunk.ClearHeader :=
      fun file isFile hunk isHunk => (clear file isFile hunk isHunk).1
    exact ⟨(bodies headers).mpr fun file isFile hunk isHunk => (clear file isFile hunk isHunk).2,
      (extractUnifiedDiffHunks_render_iff diff).mpr headers⟩

section FixedDiff

/-- A hunk that deletes a comment of two dashes. -/
private def deletedComment : DiffHunk where
  oldStart := 1
  newStart := 1
  shortOld := false
  shortNew := false
  sectionText := none
  body := [.del ⟨"-- note".toList, by decide⟩, .ctx ⟨"rest".toList, by decide⟩]

/-- A deleted comment is read as the header of a file, and the line after it is misnumbered. -/
theorem parseUnifiedDiff_deleted_comment :
    let diff := [(⟨[], [deletedComment]⟩ : DiffFile)]
    diff.flatMap DiffFile.expected =
        [none,
          some { kind := .del, text := "-- note".toList, oldLineNumber := some 1 },
          some
            { kind := .ctx
              text := "rest".toList
              oldLineNumber := some 2
              newLineNumber := some 1 }] ∧
      (parseUnifiedDiff (render diff)).drop 1 =
        [{ kind := .file, text := "--- note".toList },
          { kind := .ctx
            text := "rest".toList
            oldLineNumber := some 1
            newLineNumber := some 1 }] ∧
      ¬ReadRight diff := by
  have expected : [(⟨[], [deletedComment]⟩ : DiffFile)].flatMap DiffFile.expected =
      [none,
        some { kind := .del, text := "-- note".toList, oldLineNumber := some 1 },
        some
          { kind := .ctx
            text := "rest".toList
            oldLineNumber := some 2
            newLineNumber := some 1 }] := by
    decide +kernel
  have parsed : (parseUnifiedDiff (render [⟨[], [deletedComment]⟩])).drop 1 =
      [{ kind := .file, text := "--- note".toList },
        { kind := .ctx
          text := "rest".toList
          oldLineNumber := some 1
          newLineNumber := some 1 }] := by
    decide +kernel
  refine ⟨expected, parsed, ?_⟩
  intro right
  have lines := right.lines
  rw [expected] at lines
  cases all : parseUnifiedDiff (render [⟨[], [deletedComment]⟩]) with
  | nil =>
    rw [all] at lines
    cases lines
  | cons first rest =>
    rw [all] at lines parsed
    rw [List.drop_one, List.tail_cons] at parsed
    rw [parsed] at lines
    have second := (List.forall₂_cons.mp (List.forall₂_cons.mp lines).2).1
    cases agrees_some_iff.mp second

end FixedDiff

end ImCodes.Files
