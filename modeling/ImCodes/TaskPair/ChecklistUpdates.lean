import ImCodes.Library.LineBreaks
import ImCodes.TaskPair.Types

/-!
# Checklists of a brief

The items of a brief's checklist, one a line: read from the text, and set in the text. Lines inside
a fenced block are examples, and there are two rules for what a fenced block is: the checklist's own
and the one that all scanners of markers share.
-/

set_option autoImplicit false

namespace ImCodes.TaskPair

open Library

/-! ## Fences -/

def backtick : Char := Char.ofNat 0x60

/-- Three or more of a fence character in a row, and how many. -/
def fenceRun : List Char → Option (Char × Nat)
  | [] => none
  | c :: rest =>
    let length := ((c :: rest).takeWhile (· = c)).length
    if (c = backtick ∨ c = '~') ∧ 3 ≤ length then some (c, length) else none

structure MarkdownFenceState where
  delimiter : Char
  length : Nat
deriving Repr, DecidableEq

def isBlank (c : Char) : Bool := c = ' ' || c = '\t'

def markdownFenceOpen (line : List Char) : Option MarkdownFenceState :=
  if 3 < (line.takeWhile isBlank).length then none
  else (fenceRun (line.dropWhile isBlank)).map fun (delimiter, length) => ⟨delimiter, length⟩

/-- `advanceMarkdownFence`: the fence after a line, and whether the line is part of a block. -/
def advanceMarkdownFence (line : List Char) (fence : Option MarkdownFenceState) :
    Option MarkdownFenceState × Bool :=
  match fence, markdownFenceOpen line with
  | some opened, some found =>
    if found.delimiter = opened.delimiter ∧ opened.length ≤ found.length then (none, true)
    else (some opened, true)
  | some opened, none => (some opened, true)
  | none, some found => (some found, true)
  | none, none => (none, false)

/-- Which lines are part of a fenced block. -/
def fencedLines (fence : Option MarkdownFenceState) : List (List Char) → List Bool
  | [] => []
  | line :: rest =>
    (advanceMarkdownFence line fence).2 :: fencedLines (advanceMarkdownFence line fence).1 rest

def checklistFence (line : List Char) : Option Char :=
  (fenceRun (line.dropWhile isWhiteSpace)).map (·.1)

/-- A fence line opens a fence, or closes one of its character, however long either is. -/
def toggleFence (fence : Option Char) (c : Char) : Option Char :=
  match fence with
  | none => some c
  | some opened => if c = opened then none else some opened

/-! ## Items -/

/-- A line of a checklist in its parts. -/
structure ChecklistMatch where
  head : List Char
  implemented : Char
  audited : Option Char
  text : List Char
deriving Repr, DecidableEq

def matchBox : List Char → Option (Char × List Char)
  | '[' :: c :: ']' :: rest => if c = ' ' ∨ c = 'x' ∨ c = 'X' then some (c, rest) else none
  | _ => none

/-- The second box, which may be left out. -/
def matchAudited (chars : List Char) : Option Char × List Char :=
  match matchBox chars with
  | some (second, rest) => (some second, rest)
  | none => (none, chars)

def isLineTerminator (c : Char) : Bool := c.toNat ∈ [0x0A, 0x0D, 0x2028, 0x2029]

/-- `CHECKLIST_RE`. -/
def matchChecklist (line : List Char) : Option ChecklistMatch :=
  match line.dropWhile isWhiteSpace with
  | '-' :: afterDash =>
    let blanks := afterDash.takeWhile isWhiteSpace
    match matchBox (afterDash.dropWhile isWhiteSpace) with
    | none => none
    | some (implemented, afterFirst) =>
      let (audited, afterBoxes) := matchAudited afterFirst
      let text := afterBoxes.dropWhile isWhiteSpace
      if blanks = [] ∨ afterBoxes.takeWhile isWhiteSpace = [] ∨ text.any isLineTerminator then
        none
      else some ⟨line.takeWhile isWhiteSpace ++ '-' :: blanks, implemented, audited, text⟩
  | _ => none

structure TaskPairChecklistItem where
  index : Nat
  line : Nat
  text : String
  implemented : Bool
  audited : Bool
  hasAuditBox : Bool
deriving Repr, DecidableEq

def isSet (box : Char) : Bool := box.toLower = 'x'

def ChecklistMatch.item (parts : ChecklistMatch) (index line : Nat) : TaskPairChecklistItem where
  index := index
  line := line
  text := String.ofList parts.text
  implemented := isSet parts.implemented
  audited := parts.audited.any isSet
  hasAuditBox := parts.audited.isSome

/-- The items from a line on, given the fence open there and how many items came before. -/
def checklistItems (fence : Option Char) (index line : Nat) :
    List (List Char) → List TaskPairChecklistItem
  | [] => []
  | chars :: rest =>
    match checklistFence chars with
    | some c => checklistItems (toggleFence fence c) index (line + 1) rest
    | none =>
      match fence, matchChecklist chars with
      | none, some parts =>
        parts.item (index + 1) line :: checklistItems fence (index + 1) (line + 1) rest
      | _, _ => checklistItems fence index (line + 1) rest

def parseTaskPairChecklist (markdown : String) : List TaskPairChecklistItem :=
  checklistItems none 0 0 (breakLines markdown.toList).lines

/-! ## Updates -/

def boxMark (checked : Bool) : Char := if checked then 'x' else ' '

def boxChars (box : Char) : List Char := ['[', box, ']']

def ChecklistMatch.chars (parts : ChecklistMatch) : List Char :=
  parts.head ++ boxChars parts.implemented ++ (parts.audited.elim [] boxChars) ++ ' ' :: parts.text

def ChecklistMatch.withBox (parts : ChecklistMatch) (box : TaskPairChecklistBox) (checked : Bool) :
    ChecklistMatch :=
  match box with
  | .implemented => { parts with implemented := boxMark checked }
  | .audited => { parts with audited := some (boxMark checked) }

section
variable (indexes : List Nat) (box : TaskPairChecklistBox) (checked : Bool)

/-- The lines with an item's box set, if the item is wanted. -/
def updateItem (lines : List (List Char)) (item : TaskPairChecklistItem) : List (List Char) :=
  if item.index ∈ indexes then
    match lines[item.line]?.bind matchChecklist with
    | some parts => lines.set item.line (parts.withBox box checked).chars
    | none => lines
  else lines

end

def updateTaskPairChecklist (markdown : String) (indexes : List Nat) (box : TaskPairChecklistBox)
    (checked : Bool) : String :=
  if indexes = [] then markdown
  else
    let newline := if hasCrlf markdown.toList then LineBreak.crlf else .lf
    let lines := (parseTaskPairChecklist markdown).foldl (updateItem indexes box checked)
      (breakLines markdown.toList).lines
    String.ofList (newline.chars.intercalate lines)

/-! ## Updates of a checklist

Reading a checklist and updating one walk the text on their own. An update sets the box of the
items it selects, and reading the new text finds the same items. What it may change besides are
line breaks, and what it may take for items are lines of a fenced block.
-/

/-! ## A line and its parts -/

namespace ChecklistMatch

/-- Parts that a line has been matched into. -/
structure Proper (parts : ChecklistMatch) : Prop where
  head : ∃ indent blanks, parts.head = indent ++ '-' :: blanks ∧ blanks ≠ [] ∧
    (∀ c ∈ indent, isWhiteSpace c = true) ∧ (∀ c ∈ blanks, isWhiteSpace c = true)
  implemented : parts.implemented = ' ' ∨ parts.implemented = 'x' ∨ parts.implemented = 'X'
  audited : ∀ box, parts.audited = some box → box = ' ' ∨ box = 'x' ∨ box = 'X'
  text : parts.text.head?.any isWhiteSpace = false
  oneLine : parts.text.any isLineTerminator = false

theorem Proper.withBox {parts : ChecklistMatch} (proper : parts.Proper)
    (box : TaskPairChecklistBox) (checked : Bool) : (parts.withBox box checked).Proper := by
  have mark : boxMark checked = ' ' ∨ boxMark checked = 'x' ∨ boxMark checked = 'X' := by
    cases checked
    · exact .inl rfl
    · exact .inr (.inl rfl)
  cases box with
  | implemented => exact ⟨proper.head, mark, proper.audited, proper.text, proper.oneLine⟩
  | audited =>
    refine ⟨proper.head, proper.implemented, ?_, proper.text, proper.oneLine⟩
    intro box same
    cases same
    exact mark

end ChecklistMatch

private theorem takeWhile_white {blanks rest : List Char}
    (white : ∀ c ∈ blanks, isWhiteSpace c = true) (dark : rest.head?.any isWhiteSpace = false) :
    (blanks ++ rest).takeWhile isWhiteSpace = blanks ∧
      (blanks ++ rest).dropWhile isWhiteSpace = rest := by
  rw [List.takeWhile_append_of_pos white, List.dropWhile_append_of_pos white]
  cases rest with
  | nil => simp
  | cons c rest =>
    have dark : isWhiteSpace c = false := by simpa using dark
    simp [dark]

private theorem matchBox_boxChars {c : Char} (box : c = ' ' ∨ c = 'x' ∨ c = 'X')
    (rest : List Char) : matchBox (boxChars c ++ rest) = some (c, rest) := by
  simp [boxChars, matchBox, box]

private theorem head_dropWhile (chars : List Char) :
    (chars.dropWhile isWhiteSpace).head?.any isWhiteSpace = false := by
  cases rest : chars.dropWhile isWhiteSpace with
  | nil => rfl
  | cons c tail =>
    have dark := List.head_dropWhile_not isWhiteSpace
      (show chars.dropWhile isWhiteSpace ≠ [] by simp [rest])
    simpa [rest] using dark

private theorem matchBox_box {chars rest : List Char} {c : Char}
    (found : matchBox chars = some (c, rest)) : c = ' ' ∨ c = 'x' ∨ c = 'X' := by
  unfold matchBox at found
  split at found
  · split at found
    · rename_i box
      cases found
      exact box
    · cases found
  · cases found

private theorem matchAudited_box {chars : List Char} {c : Char}
    (found : (matchAudited chars).1 = some c) : c = ' ' ∨ c = 'x' ∨ c = 'X' := by
  unfold matchAudited at found
  split at found
  · rename_i second rest isSecond
    cases found
    exact matchBox_box isSecond
  · cases found

theorem proper_matchChecklist {line : List Char} {parts : ChecklistMatch}
    (found : matchChecklist line = some parts) : parts.Proper := by
  unfold matchChecklist at found
  split at found
  · rename_i afterDash dashed
    dsimp only at found
    split at found
    · cases found
    · rename_i implemented afterFirst first
      split at found
      · cases found
      · rename_i accepted
        simp only [not_or] at accepted
        obtain ⟨blanks, -, plain⟩ := accepted
        cases found
        refine ⟨⟨_, _, rfl, blanks, ?_, ?_⟩, matchBox_box first,
          fun box audited => matchAudited_box audited, head_dropWhile _, by simpa using plain⟩
        · exact fun c member => List.mem_takeWhile_imp member
        · exact fun c member => List.mem_takeWhile_imp member
  · cases found

private theorem dash_dark : isWhiteSpace '-' = false := by decide

private theorem bracket_dark : isWhiteSpace '[' = false := by decide

private theorem space_white : isWhiteSpace ' ' = true := by decide

theorem matchChecklist_chars {parts : ChecklistMatch} (proper : parts.Proper) :
    matchChecklist parts.chars = some parts := by
  obtain ⟨⟨indent, blanks, head, nonempty, whiteIndent, whiteBlanks⟩, implemented, audited, text,
    oneLine⟩ := proper
  let boxes := boxChars parts.implemented ++
    (parts.audited.elim [] boxChars ++ ' ' :: parts.text)
  have chars : parts.chars = indent ++ '-' :: (blanks ++ boxes) := by
    simp [boxes, ChecklistMatch.chars, head]
  obtain ⟨isIndent, afterIndent⟩ := @takeWhile_white indent ('-' :: (blanks ++ boxes)) whiteIndent
    (by simp [dash_dark])
  obtain ⟨isBlanks, afterBlanks⟩ := @takeWhile_white blanks boxes whiteBlanks
    (by simp [boxes, boxChars, bracket_dark])
  obtain ⟨isSpace, afterSpace⟩ := @takeWhile_white [' '] parts.text (by simp [space_white]) text
  have first : matchBox boxes = some (parts.implemented,
      parts.audited.elim [] boxChars ++ ' ' :: parts.text) := matchBox_boxChars implemented _
  have second : matchAudited (parts.audited.elim [] boxChars ++ ' ' :: parts.text) =
      (parts.audited, [' '] ++ parts.text) := by
    cases isSecond : parts.audited with
    | none => simp [matchAudited, matchBox]
    | some box => simp [matchAudited, matchBox_boxChars (audited box isSecond)]
  rw [matchChecklist, chars, afterIndent, isIndent]
  simp only [isBlanks, afterBlanks, first, second, isSpace, afterSpace, oneLine]
  rw [if_neg (by simp [nonempty]), ← head]

/-! ## Items are no fences -/

private theorem checklistFence_dash {indent rest : List Char}
    (white : ∀ c ∈ indent, isWhiteSpace c = true) :
    checklistFence (indent ++ '-' :: rest) = none := by
  have afterIndent := (@takeWhile_white indent ('-' :: rest) white (by simp [dash_dark])).2
  rw [checklistFence, afterIndent]
  simp [fenceRun, backtick]

theorem checklistFence_of_match {line : List Char} {parts : ChecklistMatch}
    (found : matchChecklist line = some parts) : checklistFence line = none := by
  unfold matchChecklist at found
  split at found
  · next afterDash dashed => simp [checklistFence, dashed, fenceRun, backtick]
  · cases found

theorem checklistFence_chars {parts : ChecklistMatch} (proper : parts.Proper) :
    checklistFence parts.chars = none := by
  obtain ⟨indent, blanks, head, -, white, -⟩ := proper.head
  rw [ChecklistMatch.chars, head]
  simpa using checklistFence_dash white

private theorem not_mem_of_lineTerminator {c : Char} {chars : List Char}
    (terminator : isLineTerminator c = true) (oneLine : chars.any isLineTerminator = false) :
    c ∉ chars := by
  intro member
  rw [List.any_eq_false] at oneLine
  exact oneLine c member terminator

theorem chars_oneLine {parts : ChecklistMatch} (proper : parts.Proper)
    (plain : '\n' ∉ parts.head) :
    '\n' ∉ parts.chars ∧ parts.chars.getLast? ≠ some '\r' := by
  have feedless : '\n' ∉ parts.text := not_mem_of_lineTerminator (by decide) proper.oneLine
  have returnless : '\r' ∉ parts.text := not_mem_of_lineTerminator (by decide) proper.oneLine
  have boxPlain : ∀ box : Char, box = ' ' ∨ box = 'x' ∨ box = 'X' → '\n' ∉ boxChars box := by
    intro box isBox
    rcases isBox with rfl | rfl | rfl <;> decide
  constructor
  · have second : '\n' ∉ parts.audited.elim [] boxChars := by
      cases isSecond : parts.audited with
      | none => simp
      | some box => exact boxPlain box (proper.audited box isSecond)
    simp [ChecklistMatch.chars, plain, boxPlain _ proper.implemented, second, feedless]
  · intro returned
    rw [ChecklistMatch.chars, List.getLast?_append_cons] at returned
    cases isText : parts.text with
    | nil =>
      rw [isText] at returned
      simp at returned
    | cons c rest =>
      rw [isText, List.getLast?_cons_cons] at returned
      exact returnless (isText ▸ List.mem_of_getLast? returned)

theorem head_matchChecklist {line : List Char} {parts : ChecklistMatch}
    (found : matchChecklist line = some parts) : ∀ c ∈ parts.head, c ∈ line := by
  unfold matchChecklist at found
  split at found
  · rename_i afterDash dashed
    have whole : line = line.takeWhile isWhiteSpace ++ '-' :: afterDash := by
      rw [← dashed, List.takeWhile_append_dropWhile]
    dsimp only at found
    split at found
    · cases found
    · split at found
      · cases found
      · cases found
        intro c member
        rw [whole]
        simp only [List.mem_append, List.mem_cons] at member ⊢
        rcases member with before | dash | blank
        · exact .inl before
        · exact .inr (.inl dash)
        · exact .inr (.inr ((List.takeWhile_prefix _).subset blank))
  · cases found

/-! ## One walk over the lines -/

/-- The number and the parts of each line that is an item, given the fence open before the lines
and how many items came before. -/
def itemNumbers (fence : Option Char) (index : Nat) :
    List (List Char) → List (Option (Nat × ChecklistMatch))
  | [] => []
  | chars :: rest =>
    match checklistFence chars with
    | some c => none :: itemNumbers (toggleFence fence c) index rest
    | none =>
      match fence, matchChecklist chars with
      | none, some parts => some (index + 1, parts) :: itemNumbers fence (index + 1) rest
      | _, _ => none :: itemNumbers fence index rest

/-- The items of lines that have been numbered, from a line on. -/
def numberedItems (line : Nat) :
    List (Option (Nat × ChecklistMatch)) → List TaskPairChecklistItem
  | [] => []
  | some (index, parts) :: rest => parts.item index line :: numberedItems (line + 1) rest
  | none :: rest => numberedItems (line + 1) rest

/-- What a line is to a reader with a fence open or not. -/
inductive LineKind (fence : Option Char) (chars : List Char) : Prop where
  | fence (c : Char) (found : checklistFence chars = some c) : LineKind fence chars
  | item (parts : ChecklistMatch) (plain : checklistFence chars = none) (outside : fence = none)
      (found : matchChecklist chars = some parts) : LineKind fence chars
  | text (plain : checklistFence chars = none)
      (other : ∀ parts, fence = none → matchChecklist chars ≠ some parts) : LineKind fence chars

section
variable (fence : Option Char) (index : Nat) (chars : List Char) (rest : List (List Char))

theorem lineKind : LineKind fence chars := by
  cases found : checklistFence chars with
  | some c => exact .fence c found
  | none =>
    cases fence with
    | some c => exact .text found (by simp)
    | none =>
      cases isItem : matchChecklist chars with
      | some parts => exact .item parts found rfl isItem
      | none => exact .text found (by simp [isItem])

variable {fence chars}

theorem itemNumbers_fence {c : Char} (found : checklistFence chars = some c) :
    itemNumbers fence index (chars :: rest) =
      none :: itemNumbers (toggleFence fence c) index rest := by
  simp only [itemNumbers, found]

theorem itemNumbers_item {parts : ChecklistMatch} (plain : checklistFence chars = none)
    (found : matchChecklist chars = some parts) :
    itemNumbers none index (chars :: rest) =
      some (index + 1, parts) :: itemNumbers none (index + 1) rest := by
  simp only [itemNumbers, plain, found]

theorem itemNumbers_text (plain : checklistFence chars = none)
    (other : ∀ parts, fence = none → matchChecklist chars ≠ some parts) :
    itemNumbers fence index (chars :: rest) = none :: itemNumbers fence index rest := by
  simp only [itemNumbers, plain]

end

theorem checklistItems_eq (fence : Option Char) (index line : Nat) (lines : List (List Char)) :
    checklistItems fence index line lines = numberedItems line (itemNumbers fence index lines) := by
  induction lines generalizing fence index line with
  | nil => rfl
  | cons chars rest ih =>
    cases lineKind fence chars with
    | fence c found =>
      rw [itemNumbers_fence index rest found]
      simp only [checklistItems, found, numberedItems, ih]
    | item parts plain outside found =>
      subst outside
      rw [itemNumbers_item index rest plain found]
      simp only [checklistItems, plain, found, numberedItems, ih]
    | text plain other =>
      rw [itemNumbers_text index rest plain other]
      have passed : checklistItems fence index line (chars :: rest) =
          checklistItems fence index (line + 1) rest := by
        simp only [checklistItems, plain]
      rw [passed, ih, numberedItems]

section
variable (indexes : List Nat) (box : TaskPairChecklistBox) (checked : Bool)

/-- A line with its box set, if it is an item that is wanted. -/
def markLine (chars : List Char) : Option (Nat × ChecklistMatch) → List Char
  | some (index, parts) =>
    if index ∈ indexes then (parts.withBox box checked).chars else chars
  | none => chars

@[simp] theorem markLine_none (chars : List Char) :
    markLine indexes box checked chars none = chars := rfl

def markNumber : Nat × ChecklistMatch → Nat × ChecklistMatch
  | (index, parts) => (index, if index ∈ indexes then parts.withBox box checked else parts)

def markLines (fence : Option Char) (index : Nat) (lines : List (List Char)) : List (List Char) :=
  List.zipWith (markLine indexes box checked) lines (itemNumbers fence index lines)

private theorem markLine_item {chars : List Char} {parts : ChecklistMatch}
    (plain : checklistFence chars = none) (found : matchChecklist chars = some parts)
    (index : Nat) :
    checklistFence (markLine indexes box checked chars (some (index, parts))) = none ∧
      matchChecklist (markLine indexes box checked chars (some (index, parts))) =
        some (markNumber indexes box checked (index, parts)).2 := by
  simp only [markLine, markNumber]
  split
  · have proper := (proper_matchChecklist found).withBox box checked
    exact ⟨checklistFence_chars proper, matchChecklist_chars proper⟩
  · exact ⟨plain, found⟩

theorem itemNumbers_markLines (fence : Option Char) (index : Nat) (lines : List (List Char)) :
    itemNumbers fence index (markLines indexes box checked fence index lines) =
      (itemNumbers fence index lines).map (Option.map (markNumber indexes box checked)) := by
  induction lines generalizing fence index with
  | nil => rfl
  | cons chars rest ih =>
    unfold markLines at ih ⊢
    cases lineKind fence chars with
    | fence c found =>
      rw [itemNumbers_fence index rest found, List.zipWith_cons_cons, markLine_none,
        itemNumbers_fence index _ found, ih]
      rfl
    | item parts plain outside found =>
      subst outside
      obtain ⟨stays, kept⟩ := markLine_item indexes box checked plain found (index + 1)
      rw [itemNumbers_item index rest plain found, List.zipWith_cons_cons,
        itemNumbers_item index _ stays kept, ih]
      rfl
    | text plain other =>
      rw [itemNumbers_text index rest plain other, List.zipWith_cons_cons, markLine_none,
        itemNumbers_text index _ plain other, ih]
      rfl

theorem foldl_updateItem (fence : Option Char) (index : Nat) (before lines : List (List Char)) :
    (checklistItems fence index before.length lines).foldl (updateItem indexes box checked)
      (before ++ lines) = before ++ markLines indexes box checked fence index lines := by
  induction lines generalizing fence index before with
  | nil => simp [checklistItems, markLines]
  | cons chars rest ih =>
    have next : ∀ (fence : Option Char) (index : Nat) (written : List Char),
        (numberedItems (before.length + 1) (itemNumbers fence index rest)).foldl
          (updateItem indexes box checked) (before ++ written :: rest) =
        before ++ written :: List.zipWith (markLine indexes box checked) rest
          (itemNumbers fence index rest) := by
      intro fence index written
      have inner := ih fence index (before ++ [written])
      rw [checklistItems_eq] at inner
      simpa [markLines] using inner
    rw [checklistItems_eq, markLines]
    cases lineKind fence chars with
    | fence c found =>
      rw [itemNumbers_fence index rest found]
      exact next _ _ _
    | item parts plain outside found =>
      subst outside
      have here : (before ++ chars :: rest)[before.length]?.bind matchChecklist =
          some parts := by
        simp [found]
      have set : ∀ written, (before ++ chars :: rest).set before.length written =
          before ++ written :: rest := by
        intro written
        simp
      have updated : updateItem indexes box checked (before ++ chars :: rest)
          (parts.item (index + 1) before.length) =
            before ++ markLine indexes box checked chars (some (index + 1, parts)) :: rest := by
        unfold updateItem
        simp only [ChecklistMatch.item, here, set, markLine]
        split <;> rfl
      rw [itemNumbers_item index rest plain found, numberedItems, List.foldl_cons, updated]
      exact next _ _ _
    | text plain other =>
      rw [itemNumbers_text index rest plain other]
      exact next _ _ _

/-! ## Setting boxes twice -/

theorem withBox_withBox (parts : ChecklistMatch) :
    (parts.withBox box checked).withBox box checked = parts.withBox box checked := by
  cases box <;> rfl

theorem withBox_comm (parts : ChecklistMatch) {other : TaskPairChecklistBox}
    (different : box ≠ other) (otherChecked : Bool) : (parts.withBox box checked).withBox other otherChecked =
      (parts.withBox other otherChecked).withBox box checked := by
  cases box <;> cases other
  · exact absurd rfl different
  · rfl
  · rfl
  · exact absurd rfl different

end

private theorem zipWith_twice {α β : Type} (first second : α → β → α) (change : β → β)
    (left : List α) (right : List β) :
    List.zipWith second (List.zipWith first left right) (right.map change) =
      List.zipWith (fun a b => second (first a b) (change b)) left right := by
  induction left generalizing right with
  | nil => rfl
  | cons a left ih =>
    cases right with
    | nil => rfl
    | cons b right => simp [ih]

private theorem markLines_twice (indexes others : List Nat) (box other : TaskPairChecklistBox)
    (checked otherChecked : Bool) (lines : List (List Char)) :
    markLines others other otherChecked none 0 (markLines indexes box checked none 0 lines) =
      List.zipWith (fun chars number => markLine others other otherChecked
        (markLine indexes box checked chars number)
        (number.map (markNumber indexes box checked))) lines (itemNumbers none 0 lines) := by
  conv_lhs => rw [markLines, itemNumbers_markLines]
  exact zipWith_twice _ _ _ _ _

theorem markLines_idem (indexes : List Nat) (box : TaskPairChecklistBox) (checked : Bool)
    (lines : List (List Char)) :
    markLines indexes box checked none 0 (markLines indexes box checked none 0 lines) =
      markLines indexes box checked none 0 lines := by
  rw [markLines_twice, markLines]
  congr 1
  funext chars number
  cases number with
  | none => rfl
  | some numbered =>
    obtain ⟨index, parts⟩ := numbered
    by_cases wanted : index ∈ indexes
    · simp [markLine, markNumber, wanted, withBox_withBox]
    · simp [markLine, markNumber, wanted]

theorem markLines_comm {indexes others : List Nat} {box other : TaskPairChecklistBox}
    (apart : (∀ index ∈ indexes, index ∉ others) ∨ box ≠ other) (checked otherChecked : Bool)
    (lines : List (List Char)) :
    markLines others other otherChecked none 0 (markLines indexes box checked none 0 lines) =
      markLines indexes box checked none 0 (markLines others other otherChecked none 0 lines) := by
  rw [markLines_twice, markLines_twice]
  congr 1
  funext chars number
  cases number with
  | none => rfl
  | some numbered =>
    obtain ⟨index, parts⟩ := numbered
    by_cases first : index ∈ indexes
    · by_cases second : index ∈ others
      · have different : box ≠ other := by
          rcases apart with disjoint | different
          · exact absurd second (disjoint index first)
          · exact different
        simp [markLine, markNumber, first, second, withBox_comm box checked parts different]
      · simp [markLine, markNumber, first, second]
    · simp [markLine, markNumber, first]

/-! ## Numbers and lines -/

@[simp] theorem length_itemNumbers (fence : Option Char) (index : Nat) (lines : List (List Char)) :
    (itemNumbers fence index lines).length = lines.length := by
  induction lines generalizing fence index with
  | nil => rfl
  | cons chars rest ih =>
    cases lineKind fence chars with
    | fence c found => simp [itemNumbers_fence index rest found, ih]
    | item parts plain outside found =>
      subst outside
      simp [itemNumbers_item index rest plain found, ih]
    | text plain other => simp [itemNumbers_text index rest plain other, ih]

@[simp] theorem length_markLines (indexes : List Nat) (box : TaskPairChecklistBox) (checked : Bool)
    (lines : List (List Char)) :
    (markLines indexes box checked none 0 lines).length = lines.length := by
  simp [markLines]

/-- The characters of the fence lines before a line, as the checklist reads them: however far
indented, and however long. -/
def fencesBefore (lines : List (List Char)) (line : Nat) : List Char :=
  (lines.take line).filterMap checklistFence

/-- Of these fences each that opens a block is followed by one of its character, up to the end. -/
inductive AllClosed : List Char → Prop
  | nil : AllClosed []
  | block {c inside rest} : c ∉ inside → AllClosed rest → AllClosed (c :: (inside ++ c :: rest))

theorem foldl_toggle_iff (opened : Char) (fences : List Char) :
    fences.foldl toggleFence (some opened) = none ↔ ∃ inside rest,
      fences = inside ++ opened :: rest ∧ opened ∉ inside ∧
        rest.foldl toggleFence none = none := by
  induction fences with
  | nil => simp
  | cons c later ih =>
    rw [List.foldl_cons, toggleFence]
    split
    · next same =>
        subst same
        constructor
        · exact fun closed => ⟨[], later, rfl, List.not_mem_nil, closed⟩
        · rintro ⟨inside, rest, split_, fresh, closed⟩
          cases inside with
          | nil =>
            cases split_
            exact closed
          | cons first inside =>
            cases split_
            exact absurd List.mem_cons_self fresh
    · next different =>
        rw [ih]
        constructor
        · rintro ⟨inside, rest, rfl, fresh, closed⟩
          exact ⟨c :: inside, rest, rfl, by simp [fresh, Ne.symm different], closed⟩
        · rintro ⟨inside, rest, split_, fresh, closed⟩
          cases inside with
          | nil =>
            cases split_
            exact absurd rfl different
          | cons first inside =>
            cases split_
            exact ⟨inside, rest, rfl, fun member => fresh (List.mem_cons_of_mem _ member), closed⟩

theorem allClosed_iff (fences : List Char) :
    AllClosed fences ↔ fences.foldl toggleFence none = none := by
  constructor
  · intro closed
    induction closed with
    | nil => rfl
    | @block c inside rest fresh _ ih =>
      exact (foldl_toggle_iff c _).mpr ⟨inside, rest, rfl, fresh, ih⟩
  · intro closed
    induction length : fences.length using Nat.strongRecOn generalizing fences with
    | ind _ ih =>
      cases fences with
      | nil => exact .nil
      | cons c later =>
        obtain ⟨inside, rest, rfl, fresh, rest_⟩ := (foldl_toggle_iff c later).mp closed
        refine .block fresh (ih rest.length ?_ rest rest_ rfl)
        rw [← length, List.length_cons, List.length_append, List.length_cons]
        omega

theorem getElem?_fencedLines (fence : Option MarkdownFenceState) {lines : List (List Char)}
    {i : Nat} {chars : List Char} (isLine : lines[i]? = some chars) :
    ∃ inside, (fencedLines fence lines)[i]? = some inside := by
  induction lines generalizing fence i with
  | nil => simp at isLine
  | cons line rest ih =>
    cases i with
    | zero => exact ⟨_, rfl⟩
    | succ i => exact ih _ (by simpa using isLine)

theorem itemNumbers_iff (fence : Option Char) (index : Nat) (lines : List (List Char)) (i : Nat)
    (parts : ChecklistMatch) :
    (∃ number, (itemNumbers fence index lines)[i]? = some (some (number, parts))) ↔
      ∃ chars, lines[i]? = some chars ∧ matchChecklist chars = some parts ∧
        (fencesBefore lines i).foldl toggleFence fence = none := by
  unfold fencesBefore
  induction lines generalizing fence index i with
  | nil => simp [itemNumbers]
  | cons chars rest ih =>
    cases lineKind fence chars with
    | fence c found =>
      rw [itemNumbers_fence index rest found]
      cases i with
      | zero =>
        have noItem : ∀ parts, matchChecklist chars ≠ some parts := by
          intro parts matched
          rw [checklistFence_of_match matched] at found
          cases found
        simp [noItem]
      | succ i => simpa [found] using ih _ _ i
    | item own plain outside found =>
      subst outside
      rw [itemNumbers_item index rest plain found]
      cases i with
      | zero => simp [found]
      | succ i => simpa [plain] using ih _ _ i
    | text plain other =>
      rw [itemNumbers_text index rest plain other]
      cases i with
      | zero =>
        cases fence with
        | some c => simp
        | none => simp [other parts rfl]
      | succ i => simpa [plain] using ih _ _ i

theorem mem_numberedItems (line : Nat) (numbers : List (Option (Nat × ChecklistMatch)))
    (item : TaskPairChecklistItem) :
    item ∈ numberedItems line numbers ↔
      ∃ (i index : Nat) (parts : ChecklistMatch), numbers[i]? = some (some (index, parts)) ∧
        item = parts.item index (line + i) := by
  induction numbers generalizing line with
  | nil => simp [numberedItems]
  | cons number rest ih =>
    cases number with
    | none =>
      rw [numberedItems, ih]
      constructor
      · intro found
        obtain ⟨i, index, parts, isItem, same⟩ := found
        exact ⟨i + 1, index, parts, by simpa using isItem, by rw [same]; congr 1; omega⟩
      · intro found
        obtain ⟨i, index, parts, isItem, same⟩ := found
        cases i with
        | zero => simp at isItem
        | succ i => exact ⟨i, index, parts, by simpa using isItem, by rw [same]; congr 1; omega⟩
    | some numbered =>
      obtain ⟨index, parts⟩ := numbered
      rw [numberedItems, List.mem_cons, ih]
      constructor
      · intro found
        rcases found with here | ⟨i, index, parts, isItem, same⟩
        · exact ⟨0, index, parts, rfl, here⟩
        · exact ⟨i + 1, index, parts, by simpa using isItem, by rw [same]; congr 1; omega⟩
      · intro found
        obtain ⟨i, other, others, isItem, same⟩ := found
        cases i with
        | zero =>
          simp only [List.getElem?_cons_zero, Option.some.injEq, Prod.mk.injEq] at isItem
          obtain ⟨rfl, rfl⟩ := isItem
          exact .inl same
        | succ i =>
          exact .inr ⟨i, other, others, by simpa using isItem, by rw [same]; congr 1; omega⟩

/-! ## The updated text -/

def TaskPairChecklistItem.withBox (item : TaskPairChecklistItem) (box : TaskPairChecklistBox)
    (checked : Bool) : TaskPairChecklistItem :=
  match box with
  | .implemented => { item with implemented := checked }
  | .audited => { item with audited := checked, hasAuditBox := true }

def newlineOf (markdown : String) : LineBreak :=
  if hasCrlf markdown.toList then .crlf else .lf

def linesOf (markdown : String) : List (List Char) := (breakLines markdown.toList).lines

section
variable (markdown : String) {indexes : List Nat} (box : TaskPairChecklistBox) (checked : Bool)

private theorem item_withBox (parts : ChecklistMatch) (index line : Nat) :
    (parts.withBox box checked).item index line = (parts.item index line).withBox box checked := by
  have mark : isSet (boxMark checked) = checked := by cases checked <;> decide
  cases box with
  | implemented => simp [ChecklistMatch.withBox, ChecklistMatch.item,
      TaskPairChecklistItem.withBox, mark]
  | audited => simp [ChecklistMatch.withBox, ChecklistMatch.item,
      TaskPairChecklistItem.withBox, mark]

private theorem numberedItems_map (line : Nat) (numbers : List (Option (Nat × ChecklistMatch))) :
    numberedItems line (numbers.map (Option.map (markNumber indexes box checked))) =
      (numberedItems line numbers).map fun item =>
        if item.index ∈ indexes then item.withBox box checked else item := by
  induction numbers generalizing line with
  | nil => rfl
  | cons number rest ih =>
    cases number with
    | none => exact ih (line + 1)
    | some numbered =>
      obtain ⟨index, parts⟩ := numbered
      simp only [List.map_cons, Option.map_some, markNumber, numberedItems, ih]
      congr 1
      by_cases wanted : index ∈ indexes
      · have wantedItem : (parts.item index line).index ∈ indexes := wanted
        rw [if_pos wanted, if_pos wantedItem, item_withBox]
      · have unwantedItem : (parts.item index line).index ∉ indexes := wanted
        rw [if_neg wanted, if_neg unwantedItem]

theorem update_eq (nonempty : indexes ≠ []) :
    updateTaskPairChecklist markdown indexes box checked =
      String.ofList ((newlineOf markdown).chars.intercalate
        (markLines indexes box checked none 0 (linesOf markdown))) := by
  have lines := foldl_updateItem indexes box checked none 0 [] (linesOf markdown)
  simp only [List.nil_append, List.length_nil] at lines
  rw [updateTaskPairChecklist, if_neg nonempty]
  dsimp only
  rw [parseTaskPairChecklist, show (breakLines markdown.toList).lines = linesOf markdown from rfl,
    lines]
  rfl

private theorem markLines_line {line : List Char} {i : Nat}
    (found : (markLines indexes box checked none 0 (linesOf markdown))[i]? = some line) :
    ∃ chars, (linesOf markdown)[i]? = some chars ∧
      (line = chars ∨ '\n' ∉ line ∧ line.getLast? ≠ some '\r') := by
  have proper := proper_breakLines markdown.toList
  rw [markLines, List.getElem?_zipWith] at found
  split at found
  · rename_i chars number isLine isNumber
    refine ⟨chars, isLine, ?_⟩
    cases number with
    | none => exact .inl (Option.some.inj found).symm
    | some numbered =>
      obtain ⟨index, parts⟩ := numbered
      simp only [markLine, Option.some.injEq] at found
      split at found
      · obtain ⟨other, isOther, matched, -⟩ :=
          (itemNumbers_iff none 0 (linesOf markdown) i parts).mp ⟨index, isNumber⟩
        have headPlain : '\n' ∉ parts.head := fun member =>
          proper.plain other (List.mem_of_getElem? isOther)
            (head_matchChecklist matched '\n' member)
        have written := chars_oneLine ((proper_matchChecklist matched).withBox box checked)
          (by cases box <;> exact headPlain)
        exact .inr (found ▸ written)
      · exact .inl found.symm
  · cases found

private theorem markLines_proper :
    (joined (newlineOf markdown)
      (markLines indexes box checked none 0 (linesOf markdown))).Proper := by
  have proper := proper_breakLines markdown.toList
  apply proper_joined
  · intro line member
    obtain ⟨i, found⟩ := List.getElem?_of_mem member
    obtain ⟨chars, isLine, rfl | written⟩ := markLines_line markdown box checked found
    · exact proper.plain line (List.mem_of_getElem? isLine)
    · exact written.1
  · intro isLf line member
    obtain ⟨i, found⟩ := List.getElem?_of_mem member
    rw [List.getElem?_dropLast] at found
    split at found
    · rename_i early
      obtain ⟨chars, isLine, rfl | written⟩ := markLines_line markdown box checked found
      · -- Without a carriage return before any line feed, the line ended with a bare one.
        have feeds : (breakLines markdown.toList).ended.any (fun piece => piece.2 = .crlf) =
            false := by
          rw [← hasCrlf_eq]
          unfold newlineOf at isLf
          split at isLf
          · cases isLf
          · rename_i bare
            simpa using bare
        have among : line ∈ (breakLines markdown.toList).ended.map (·.1) := by
          have bound : i < (breakLines markdown.toList).ended.length := by
            simpa [linesOf, BrokenText.lines] using early
          rw [linesOf, BrokenText.lines, List.getElem?_append_left (by simpa using bound)] at isLine
          exact List.mem_of_getElem? isLine
        obtain ⟨⟨_, ending⟩, isEnded, rfl⟩ := List.mem_map.mp among
        rw [List.any_eq_false] at feeds
        have other := feeds _ isEnded
        cases ending with
        | crlf => simp at other
        | lf => exact proper.whole _ isEnded
      · exact written.2
    · cases found

theorem linesOf_ne_nil : linesOf markdown ≠ [] := BrokenText.lines_ne_nil _

theorem breakLines_update (nonempty : indexes ≠ []) :
    breakLines (updateTaskPairChecklist markdown indexes box checked).toList =
      joined (newlineOf markdown) (markLines indexes box checked none 0 (linesOf markdown)) := by
  rw [update_eq markdown box checked nonempty, String.toList_ofList, ← chars_joined]
  exact breakLines_chars (markLines_proper markdown box checked)

private theorem markLines_ne_nil :
    markLines indexes box checked none 0 (linesOf markdown) ≠ [] := by
  rw [ne_eq, ← List.length_eq_zero_iff, length_markLines, List.length_eq_zero_iff]
  exact linesOf_ne_nil markdown

theorem linesOf_update (nonempty : indexes ≠ []) :
    linesOf (updateTaskPairChecklist markdown indexes box checked) =
      markLines indexes box checked none 0 (linesOf markdown) := by
  rw [linesOf, breakLines_update markdown box checked nonempty,
    lines_joined (markLines_ne_nil markdown box checked)]

theorem newlineOf_update (nonempty : indexes ≠ []) :
    newlineOf (updateTaskPairChecklist markdown indexes box checked) = newlineOf markdown := by
  have after : hasCrlf (updateTaskPairChecklist markdown indexes box checked).toList =
      hasCrlf markdown.toList := by
    rw [hasCrlf_eq, breakLines_update markdown box checked nonempty, ended_joined, List.any_map]
    cases crlf : hasCrlf markdown.toList with
    | false => simp [newlineOf, crlf]
    | true =>
      have ended : (breakLines markdown.toList).ended ≠ [] := by
        intro empty
        rw [hasCrlf_eq, empty] at crlf
        cases crlf
      have more : (markLines indexes box checked none 0 (linesOf markdown)).dropLast ≠ [] := by
        rw [ne_eq, ← List.length_eq_zero_iff, List.length_dropLast, length_markLines]
        simpa [linesOf, BrokenText.lines] using ended
      simpa [newlineOf, crlf, List.any_eq_true] using List.exists_mem_of_ne_nil _ more
  simp only [newlineOf, after]

end

/-! ## What an update keeps -/

def piecesOf (markdown : String) : List (List Char × Option LineBreak) :=
  (breakLines markdown.toList).pieces

def IsSelected (markdown : String) (indexes : List Nat) (line : Nat) : Prop :=
  ∃ item ∈ parseTaskPairChecklist markdown, item.index ∈ indexes ∧ item.line = line

/-- What an update of a checklist keeps. -/
structure ChecklistKept (markdown : String) (indexes : List Nat) (box : TaskPairChecklistBox)
    (checked : Bool) : Prop where
  items : parseTaskPairChecklist (updateTaskPairChecklist markdown indexes box checked) =
    (parseTaskPairChecklist markdown).map fun item =>
      if item.index ∈ indexes then item.withBox box checked else item
  lines : ∀ line, ¬ IsSelected markdown indexes line →
    (piecesOf (updateTaskPairChecklist markdown indexes box checked))[line]? =
      (piecesOf markdown)[line]?
  idempotent : updateTaskPairChecklist (updateTaskPairChecklist markdown indexes box checked)
    indexes box checked = updateTaskPairChecklist markdown indexes box checked
  commutes : ∀ (others : List Nat) (other : TaskPairChecklistBox) (otherChecked : Bool),
    (∀ index ∈ indexes, index ∉ others) ∨ box ≠ other →
    updateTaskPairChecklist (updateTaskPairChecklist markdown indexes box checked) others other
        otherChecked =
      updateTaskPairChecklist (updateTaskPairChecklist markdown others other otherChecked) indexes
        box checked
  authored : ∀ item ∈ parseTaskPairChecklist markdown,
    (fencedLines none (linesOf markdown))[item.line]? = some false

/-- At a line that has the form of an item and is part of a fenced block, the fence lines before
it leave a block open to the checklist too. -/
def FencesAgree (markdown : String) : Prop :=
  ∀ (line : Nat) (chars : List Char) (parts : ChecklistMatch),
    (linesOf markdown)[line]? = some chars → matchChecklist chars = some parts →
    (fencedLines none (linesOf markdown))[line]? = some true →
    ¬ AllClosed (fencesBefore (linesOf markdown) line)

def BreaksAgree (markdown : String) (indexes : List Nat) : Prop :=
  indexes = [] ∨ (hasCrlf markdown.toList = true → ∀ (line : Nat) (chars : List Char),
    (piecesOf markdown)[line]? = some (chars, some .lf) → IsSelected markdown indexes line)

section
variable (markdown : String) (indexes : List Nat) (box : TaskPairChecklistBox) (checked : Bool)

theorem parse_eq : parseTaskPairChecklist markdown =
    numberedItems 0 (itemNumbers none 0 (linesOf markdown)) :=
  checklistItems_eq none 0 0 (linesOf markdown)

theorem parse_update :
    parseTaskPairChecklist (updateTaskPairChecklist markdown indexes box checked) =
      (parseTaskPairChecklist markdown).map fun item =>
        if item.index ∈ indexes then item.withBox box checked else item := by
  by_cases nonempty : indexes = []
  · subst nonempty
    simp [updateTaskPairChecklist]
  · rw [parse_eq, linesOf_update markdown box checked nonempty, itemNumbers_markLines, parse_eq]
    exact numberedItems_map box checked 0 _

theorem update_idem :
    updateTaskPairChecklist (updateTaskPairChecklist markdown indexes box checked) indexes box
      checked = updateTaskPairChecklist markdown indexes box checked := by
  by_cases nonempty : indexes = []
  · subst nonempty
    rfl
  · rw [update_eq _ box checked nonempty, newlineOf_update markdown box checked nonempty,
      linesOf_update markdown box checked nonempty, markLines_idem,
      ← update_eq markdown box checked nonempty]

theorem update_comm {others : List Nat} {other : TaskPairChecklistBox} (otherChecked : Bool)
    (apart : (∀ index ∈ indexes, index ∉ others) ∨ box ≠ other) :
    updateTaskPairChecklist (updateTaskPairChecklist markdown indexes box checked) others other
        otherChecked =
      updateTaskPairChecklist (updateTaskPairChecklist markdown others other otherChecked) indexes
        box checked := by
  by_cases nonempty : indexes = []
  · subst nonempty
    rfl
  · by_cases more : others = []
    · subst more
      rfl
    · rw [update_eq _ other otherChecked more, newlineOf_update markdown box checked nonempty,
        linesOf_update markdown box checked nonempty, update_eq _ box checked nonempty,
        newlineOf_update markdown other otherChecked more,
        linesOf_update markdown other otherChecked more, markLines_comm apart]

theorem linesOf_unselected {line : Nat} (unselected : ¬ IsSelected markdown indexes line) :
    (markLines indexes box checked none 0 (linesOf markdown))[line]? =
      (linesOf markdown)[line]? := by
  rw [markLines, List.getElem?_zipWith]
  cases isLine : (linesOf markdown)[line]? with
  | none => rfl
  | some chars =>
    cases isNumber : (itemNumbers none 0 (linesOf markdown))[line]? with
    | none =>
      have bound := (List.getElem?_eq_some_iff.mp isLine).1
      rw [List.getElem?_eq_none_iff, length_itemNumbers] at isNumber
      omega
    | some number =>
      cases number with
      | none => rfl
      | some numbered =>
        obtain ⟨index, parts⟩ := numbered
        have unwanted : index ∉ indexes := by
          intro wanted
          apply unselected
          refine ⟨parts.item index line, ?_, wanted, rfl⟩
          rw [parse_eq, mem_numberedItems]
          exact ⟨line, index, parts, isNumber, by simp⟩
        simp [markLine, unwanted]

private theorem ending_eq {i : Nat} {ending : LineBreak}
    (found : (breakLines markdown.toList).endings[i]? = some (some ending))
    (bare : hasCrlf markdown.toList = true → ending ≠ .lf) : ending = newlineOf markdown := by
  cases crlf : hasCrlf markdown.toList with
  | true =>
    cases ending with
    | lf => exact absurd rfl (bare crlf)
    | crlf => simp [newlineOf, crlf]
  | false =>
    have isBare : newlineOf markdown = .lf := by simp [newlineOf, crlf]
    rw [BrokenText.endings] at found
    have member := List.mem_of_getElem? found
    simp only [List.mem_append, List.mem_map, List.mem_singleton, reduceCtorEq, or_false]
      at member
    obtain ⟨piece, isEnded, same⟩ := member
    rw [hasCrlf_eq, List.any_eq_false] at crlf
    have other := crlf piece isEnded
    cases ending with
    | lf => exact isBare.symm
    | crlf => simp [Option.some.inj same] at other

private theorem pieces_update (nonempty : indexes ≠ []) :
    piecesOf (updateTaskPairChecklist markdown indexes box checked) =
      (markLines indexes box checked none 0 (linesOf markdown)).zip
        (List.replicate ((linesOf markdown).length - 1) (some (newlineOf markdown)) ++ [none]) := by
  rw [piecesOf, breakLines_update markdown box checked nonempty, BrokenText.pieces_eq_zip,
    lines_joined (markLines_ne_nil markdown box checked), endings_joined, length_markLines]

theorem lines_iff : (∀ line, ¬ IsSelected markdown indexes line →
      (piecesOf (updateTaskPairChecklist markdown indexes box checked))[line]? =
        (piecesOf markdown)[line]?) ↔ BreaksAgree markdown indexes := by
  by_cases nonempty : indexes = []
  · subst nonempty
    simp [updateTaskPairChecklist, BreaksAgree]
  · rw [pieces_update markdown indexes box checked nonempty, piecesOf, BrokenText.pieces_eq_zip,
      BreaksAgree, piecesOf, BrokenText.pieces_eq_zip]
    simp only [nonempty, false_or]
    have ended : (linesOf markdown).length - 1 = (breakLines markdown.toList).ended.length := by
      simp [linesOf, BrokenText.lines]
    constructor
    · intro kept crlf line chars isPiece
      by_contra unselected
      have same := kept line unselected
      rw [isPiece, List.getElem?_zip_eq_some] at same
      have member := List.mem_of_getElem? same.2
      simp [newlineOf, crlf] at member
    · intro agree line unselected
      simp only [List.zip, List.getElem?_zipWith,
        linesOf_unselected markdown indexes box checked unselected]
      cases isLine : (linesOf markdown)[line]? with
      | none =>
        rw [linesOf] at isLine
        rw [isLine]
      | some chars =>
        have again := isLine
        rw [linesOf] at again
        rw [again]
        by_cases early : line < (breakLines markdown.toList).ended.length
        · have isEnding : (breakLines markdown.toList).endings[line]? =
              some (some (breakLines markdown.toList).ended[line].2) := by
            rw [BrokenText.endings, List.getElem?_append_left (by simpa using early)]
            simp [early]
          have isNewline : (List.replicate ((linesOf markdown).length - 1)
              (some (newlineOf markdown)) ++ [none])[line]? =
                some (some (newlineOf markdown)) := by
            rw [ended, List.getElem?_append_left (by simpa using early)]
            simp [early]
          have same := ending_eq markdown isEnding (by
            intro crlf isLf
            refine unselected (agree crlf line chars ?_)
            rw [List.getElem?_zip_eq_some]
            exact ⟨again, by rw [isEnding, isLf]⟩)
          rw [isEnding, isNewline, same]
        · have last : line = (breakLines markdown.toList).ended.length := by
            have bound := (List.getElem?_eq_some_iff.mp again).1
            simp only [BrokenText.lines, List.length_append, List.length_map,
              List.length_singleton] at bound
            omega
          have isEnding : (breakLines markdown.toList).endings[line]? = some none := by
            simp [BrokenText.endings, last]
          have isNewline : (List.replicate ((linesOf markdown).length - 1)
              (some (newlineOf markdown)) ++ [none])[line]? = some none := by
            simp [ended, last]
          rw [isEnding, isNewline]

theorem authored_iff : (∀ item ∈ parseTaskPairChecklist markdown,
      (fencedLines none (linesOf markdown))[item.line]? = some false) ↔ FencesAgree markdown := by
  constructor
  · intro authored line chars parts isLine matched fenced closed
    obtain ⟨index, isNumber⟩ := (itemNumbers_iff none 0 (linesOf markdown) line parts).mpr
      ⟨chars, isLine, matched, (allClosed_iff _).mp closed⟩
    have item : parts.item index line ∈ parseTaskPairChecklist markdown := by
      rw [parse_eq, mem_numberedItems]
      exact ⟨line, index, parts, isNumber, by simp⟩
    have outside := authored _ item
    rw [show (parts.item index line).line = line from rfl, fenced] at outside
    cases outside
  · intro agree item member
    rw [parse_eq, mem_numberedItems] at member
    obtain ⟨line, index, parts, isNumber, rfl⟩ := member
    obtain ⟨chars, isLine, matched, outside⟩ :=
      (itemNumbers_iff none 0 (linesOf markdown) line parts).mp ⟨index, isNumber⟩
    obtain ⟨fenced, isFenced⟩ := getElem?_fencedLines none isLine
    rw [show (parts.item index (0 + line)).line = line from Nat.zero_add line, isFenced]
    cases fenced with
    | false => rfl
    | true =>
      exact absurd ((allClosed_iff _).mpr outside) (agree line chars parts isLine matched isFenced)

theorem checklist_kept_iff :
    ChecklistKept markdown indexes box checked ↔
      FencesAgree markdown ∧ BreaksAgree markdown indexes := by
  constructor
  · intro kept
    exact ⟨(authored_iff markdown).mp kept.authored,
      (lines_iff markdown indexes box checked).mp kept.lines⟩
  · intro agree
    exact {
      items := parse_update markdown indexes box checked
      lines := (lines_iff markdown indexes box checked).mpr agree.2
      idempotent := update_idem markdown indexes box checked
      commutes := fun others other otherChecked apart =>
        update_comm markdown indexes box checked otherChecked apart
      authored := (authored_iff markdown).mpr agree.1 }

end

section FixedRuns

def shownBlock : String :=
  String.ofList (List.replicate 4 backtick ++ '\n' :: (List.replicate 3 backtick ++
    '\n' :: "- [ ] example".toList))

/-- The item of an example is taken for one of the brief. -/
theorem checklist_takes_example : ¬ ChecklistKept shownBlock [1] .implemented true := by
  intro kept
  have item : (parseTaskPairChecklist shownBlock).head?.any fun item =>
      (fencedLines none (linesOf shownBlock))[item.line]? = some true := by
    decide +kernel
  cases found : (parseTaskPairChecklist shownBlock).head? with
  | none => simp [found] at item
  | some first =>
    have fenced : (fencedLines none (linesOf shownBlock))[first.line]? = some true := by
      simpa [found] using item
    have authored := kept.authored first (List.mem_of_head? found)
    rw [fenced] at authored
    cases authored

end FixedRuns

end ImCodes.TaskPair
