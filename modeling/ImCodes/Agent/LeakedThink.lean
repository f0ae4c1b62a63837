import Mathlib.Data.List.Basic

/-!
# Stripping leaked thinking

Some endpoints leak their thinking into the text, between `<think>` and `</think>`. What is
shown of a text, complete or still streaming, is compared with a scanner that reads from left to
right. Texts are UTF-16 code units; the host's lower-casing is a parameter, of which `LowerCase`
says what is used.
-/

set_option autoImplicit false

namespace ImCodes.Agent.LeakedThink

abbrev Units := List Nat

/-- `<think>`. -/
def openTag : Units := [0x3C, 0x74, 0x68, 0x69, 0x6E, 0x6B, 0x3E]

/-- `</think>`. -/
def closeTag : Units := [0x3C, 0x2F, 0x74, 0x68, 0x69, 0x6E, 0x6B, 0x3E]

def asciiLower (unit : Nat) : Nat :=
  if 0x41 ≤ unit ∧ unit ≤ 0x5A then unit + 0x20 else unit

def startsWith (tag text : Units) : Bool :=
  tag.isPrefixOf (text.map asciiLower)

/-- How many units come before the first closing tag. -/
def closingAt : Units → Option Nat
  | [] => none
  | unit :: rest =>
    if startsWith closeTag (unit :: rest) then some 0 else (closingAt rest).map (· + 1)

/-- The length of the match of `COMPLETE_THINK` at the start of the text. -/
def completeThink (text : Units) : Option Nat :=
  if startsWith openTag text then (closingAt (text.drop 7)).map (· + 15) else none

/-- `text.replace(COMPLETE_THINK, '')`, with so many units of a match still to be passed. -/
def removeComplete : Nat → Units → Units
  | _, [] => []
  | skip + 1, _ :: rest => removeComplete skip rest
  | 0, unit :: rest =>
    match completeThink (unit :: rest) with
    | some length => removeComplete (length - 1) rest
    | none => unit :: removeComplete 0 rest

/-- The whole text is a match of `TRAILING_FORMING_OPEN`. -/
def isForming (text : Units) : Bool :=
  decide (2 ≤ text.length) && (text.map asciiLower).isPrefixOf (openTag.take 6)

/-- `out.replace(TRAILING_FORMING_OPEN, '')`. -/
def dropForming : Units → Units
  | [] => []
  | unit :: rest => if isForming (unit :: rest) then [] else unit :: dropForming rest

def lastIndexOf (needle : Units) : Units → Option Nat
  | [] => none
  | unit :: rest =>
    match lastIndexOf needle rest with
    | some place => some (place + 1)
    | none => if needle.isPrefixOf (unit :: rest) then some 0 else none

def stripLeakedThink (toLowerCase : Units → Units) (text : Units) : Units :=
  if text = [] ∨ 0x3C ∉ text then text
  else
    let out := removeComplete 0 text
    match lastIndexOf openTag (toLowerCase out) with
    | some start => dropForming (out.take start)
    | none => dropForming out

/-- What lower-casing does to code units. It is context dependent only in letters that stay
beyond ASCII. -/
inductive LowerCase : Units → Units → Prop
  | nil : LowerCase [] []
  | ascii {unit text lowered} : unit < 0x80 → LowerCase text lowered →
      LowerCase (unit :: text) (asciiLower unit :: lowered)
  /-- U+0130 becomes an `i` and a combining dot. -/
  | dottedI {text lowered} : LowerCase text lowered →
      LowerCase (0x130 :: text) (0x69 :: 0x307 :: lowered)
  /-- The Kelvin sign becomes a `k`. -/
  | kelvin {text lowered} : LowerCase text lowered →
      LowerCase (0x212A :: text) (0x6B :: lowered)
  | other {unit text lower lowered} : 0x80 ≤ unit → unit ≠ 0x130 → unit ≠ 0x212A →
      0x80 ≤ lower → LowerCase text lowered → LowerCase (unit :: text) (lower :: lowered)

/-! ## The scanner -/

/-- What a scanner keeps that drops everything from an opening tag to the next closing tag, or
to the end; so many units of a tag are still to be passed, and it is inside a block or not. -/
def scan : Nat → Bool → Units → Units
  | _, _, [] => []
  | skip + 1, inside, _ :: rest => scan skip inside rest
  | 0, false, unit :: rest =>
    if startsWith openTag (unit :: rest) then scan 6 true rest else unit :: scan 0 false rest
  | 0, true, unit :: rest =>
    if startsWith closeTag (unit :: rest) then scan 7 false rest else scan 0 true rest

def kept (text : Units) : Units := scan 0 false text

/-! ## Where the two agree -/

/-- A text read from left to right: what stands outside its blocks, and what starts at an opening
tag that is never closed. -/
inductive LaidOut : Units → Units → Units → Prop
  | done : LaidOut [] [] []
  | unclosed {text} : startsWith openTag text = true → closingAt (text.drop 7) = none →
      LaidOut text [] text
  | block {text place outside unclosed} : startsWith openTag text = true →
      closingAt (text.drop 7) = some place →
      LaidOut (text.drop (place + 15)) outside unclosed → LaidOut text outside unclosed
  | outside {unit rest outside unclosed} : startsWith openTag (unit :: rest) = false →
      LaidOut rest outside unclosed → LaidOut (unit :: rest) (unit :: outside) unclosed

def lowerUnit (unit : Nat) : Nat :=
  if unit = 0x212A then 0x6B else asciiLower unit

/-- An opening tag, its letters read through lower-casing. -/
def OpensAt (text : Units) (place : Nat) : Prop :=
  openTag <+: (text.drop place).map lowerUnit

def EndsPartly (text : Units) : Prop :=
  ∃ start, isForming (text.drop start) = true

/-- No other opening comes after the unclosed one, and the letters U+0130 before it, each of
which moves the cut by one, are none or move it into the tag, where the rest of it is dropped as
a trailing partial tag. -/
def CutsUnclosed (outside unclosed : Units) : Prop :=
  (∀ place, OpensAt unclosed place → place = 0) ∧
    (outside.count 0x130 = 0 ∨
      2 ≤ outside.count 0x130 ∧ outside.count 0x130 ≤ 6 ∧ ¬ EndsPartly outside)

/-- Where nothing is unclosed, an opening tag that is left is cut at only if the letters U+0130
before it move the cut to the end of the text, or into or to the trailing partial tag. -/
def CutsNothing (outside : Units) : Prop :=
  ∀ place, OpensAt outside place → (∀ later, OpensAt outside later → later ≤ place) →
    outside.length ≤ place + (outside.take place).count 0x130 ∨
      ∃ start, isForming (outside.drop start) = true ∧
        (start + 2 ≤ place + (outside.take place).count 0x130 ∨
          start = place + (outside.take place).count 0x130 ∧ ¬ EndsPartly (outside.take start))

def TagsReadAlike (text : Units) : Prop :=
  ∃ outside unclosed, LaidOut text outside unclosed ∧
    (unclosed ≠ [] → CutsUnclosed outside unclosed) ∧ (unclosed = [] → CutsNothing outside)

/-! ## Removing the complete blocks -/

@[simp] theorem removeComplete_nil {skip : Nat} : removeComplete skip [] = [] := by
  cases skip <;> rfl

@[simp] theorem scan_nil {skip : Nat} {inside : Bool} : scan skip inside [] = [] := by
  cases skip <;> cases inside <;> rfl

@[simp] theorem closingAt_nil : closingAt [] = none := rfl

theorem scan_inside {unit : Nat} {rest : Units} : scan 0 true (unit :: rest) =
    if startsWith closeTag (unit :: rest) then scan 7 false rest else scan 0 true rest := rfl

theorem scan_outside {unit : Nat} {rest : Units} : scan 0 false (unit :: rest) =
    if startsWith openTag (unit :: rest) then scan 6 true rest
    else unit :: scan 0 false rest := rfl

theorem scan_inside_of_closing {text : Units} {place : Nat} (closes : closingAt text = some place) :
    scan 0 true text = scan (place + 8) false text := by
  induction text generalizing place with
  | nil => cases closes
  | cons unit rest ih =>
    rw [closingAt] at closes
    rw [scan_inside]
    split at closes
    · next here =>
        cases closes
        rw [if_pos here]
        rfl
    · next notHere =>
        obtain ⟨before, found, rfl⟩ := Option.map_eq_some_iff.mp closes
        rw [if_neg notHere, ih found, Nat.add_right_comm]
        rfl

theorem scan_inside_of_unclosed {text : Units} (unclosed : closingAt text = none) :
    scan 0 true text = [] := by
  induction text with
  | nil => rfl
  | cons unit rest ih =>
    rw [closingAt] at unclosed
    rw [scan_inside]
    split at unclosed
    · cases unclosed
    · next notHere =>
        rw [if_neg notHere]
        exact ih (Option.map_eq_none_iff.mp unclosed)

theorem scan_drop {text : Units} {inside : Bool} (skip : Nat) :
    scan skip inside text = scan 0 inside (text.drop skip) := by
  induction text generalizing skip with
  | nil => simp
  | cons unit rest ih =>
    cases skip with
    | zero => rfl
    | succ skip => exact ih skip

theorem removeComplete_drop {text : Units} (skip : Nat) :
    removeComplete skip text = removeComplete 0 (text.drop skip) := by
  induction text generalizing skip with
  | nil => simp
  | cons unit rest ih =>
    cases skip with
    | zero => rfl
    | succ skip => exact ih skip

theorem closingAt_drop_eq_none {text : Units} (unclosed : closingAt text = none) (passed : Nat) :
    closingAt (text.drop passed) = none := by
  induction text generalizing passed with
  | nil => simp
  | cons unit rest ih =>
    cases passed with
    | zero => exact unclosed
    | succ passed =>
      rw [closingAt] at unclosed
      split at unclosed
      · cases unclosed
      · exact ih (Option.map_eq_none_iff.mp unclosed) passed

theorem removeComplete_of_none {text : Units}
    (incomplete : ∀ passed, completeThink (text.drop passed) = none) :
    removeComplete 0 text = text := by
  induction text with
  | nil => rfl
  | cons unit rest ih =>
    have here : completeThink (unit :: rest) = none := incomplete 0
    rw [removeComplete, here]
    dsimp only
    rw [ih fun passed => incomplete (passed + 1)]

theorem length_of_startsWith {tag text : Units} (starts : startsWith tag text = true) :
    tag.length ≤ text.length := by
  have isPrefix := (List.isPrefixOf_iff_prefix.mp starts).length_le
  simpa using isPrefix

theorem scan_opening {text : Units} (opens : startsWith openTag text = true) :
    scan 0 false text = scan 0 true (text.drop 7) := by
  cases text with
  | nil => cases opens
  | cons unit rest =>
    rw [scan_outside, if_pos opens]
    exact scan_drop 6

theorem exists_laidOut (text : Units) : ∃ outside unclosed, LaidOut text outside unclosed := by
  induction length : text.length using Nat.strongRecOn generalizing text with
  | ind _ ih =>
    subst length
    cases text with
    | nil => exact ⟨_, _, .done⟩
    | cons unit rest =>
      cases opens : startsWith openTag (unit :: rest) with
      | false =>
        obtain ⟨outside, unclosed, laidOut⟩ := ih _ (Nat.lt_succ_self _) rest rfl
        exact ⟨_, _, .outside opens laidOut⟩
      | true =>
        cases closes : closingAt ((unit :: rest).drop 7) with
        | none => exact ⟨_, _, .unclosed opens closes⟩
        | some place =>
          have shorter : ((unit :: rest).drop (place + 15)).length < (unit :: rest).length := by
            rw [List.length_drop, List.length_cons]
            omega
          obtain ⟨outside, unclosed, laidOut⟩ := ih _ shorter _ rfl
          exact ⟨_, _, .block opens closes laidOut⟩

/-- What is left once the complete blocks are removed, and what the scanner keeps. -/
theorem LaidOut.reads {text outside unclosed : Units} (laidOut : LaidOut text outside unclosed) :
    removeComplete 0 text = outside ++ unclosed ∧ kept text = outside ∧
      (unclosed = [] ∨ startsWith openTag unclosed = true) := by
  unfold kept
  induction laidOut with
  | done => exact ⟨rfl, rfl, .inl rfl⟩
  | @unclosed text opens closes =>
    have incomplete : ∀ passed, completeThink (text.drop passed) = none := by
      intro passed
      have further := closingAt_drop_eq_none closes passed
      rw [List.drop_drop, Nat.add_comm, ← List.drop_drop] at further
      rw [completeThink, further]
      split <;> rfl
    refine ⟨removeComplete_of_none incomplete, ?_, .inr opens⟩
    rw [scan_opening opens, scan_inside_of_unclosed closes]
  | @block text place outside unclosed opens closes _ ih =>
    obtain ⟨removed, keeps, shape⟩ := ih
    refine ⟨?_, ?_, shape⟩
    · cases text with
      | nil => cases opens
      | cons unit rest =>
        have complete : completeThink (unit :: rest) = some (place + 15) := by
          rw [completeThink, if_pos opens, closes]
          rfl
        rw [removeComplete, complete, ← removed]
        exact removeComplete_drop (place + 14)
    · rw [scan_opening opens, scan_inside_of_closing closes, scan_drop, List.drop_drop, ← keeps]
      congr 2
      omega
  | @outside unit rest outside unclosed notOpening _ ih =>
    obtain ⟨removed, keeps, shape⟩ := ih
    refine ⟨?_, ?_, shape⟩
    · have incomplete : completeThink (unit :: rest) = none := by
        simp [completeThink, notOpening]
      rw [removeComplete, incomplete]
      exact congrArg (unit :: ·) removed
    · rw [scan_outside, if_neg (Bool.eq_false_iff.mp notOpening), keeps]

theorem tagsReadAlike_iff {text outside unclosed : Units}
    (laidOut : LaidOut text outside unclosed) : TagsReadAlike text ↔
      (unclosed ≠ [] → CutsUnclosed outside unclosed) ∧
        (unclosed = [] → CutsNothing outside) := by
  constructor
  · rintro ⟨other, alsoUnclosed, alsoLaidOut, reads⟩
    have sameOutside : other = outside := alsoLaidOut.reads.2.1.symm.trans laidOut.reads.2.1
    subst sameOutside
    have sameUnclosed := alsoLaidOut.reads.1.symm.trans laidOut.reads.1
    rw [List.append_cancel_left sameUnclosed] at reads
    exact reads
  · exact fun reads => ⟨outside, unclosed, laidOut, reads⟩

/-! ## Dropping a trailing partial tag -/

/-- Where the text ends once its trailing partial tag is dropped. -/
def EndsAt (text : Units) (place : Nat) : Prop :=
  isForming (text.drop place) = true ∨
    place = text.length ∧ ∀ start, isForming (text.drop start) = false

theorem isForming_cons {unit : Nat} {rest : Units} (forming : isForming (unit :: rest) = true) :
    unit = 0x3C ∧ 0x3C ∉ rest := by
  have isPrefix := List.isPrefixOf_iff_prefix.mp (Bool.and_eq_true_iff.mp forming).2
  rw [List.map_cons] at isPrefix
  obtain ⟨front, letters⟩ := List.cons_prefix_cons.mp
    (show asciiLower unit :: rest.map asciiLower <+: 0x3C :: [0x74, 0x68, 0x69, 0x6E, 0x6B]
      from isPrefix)
  constructor
  · unfold asciiLower at front
    split at front <;> omega
  · intro inside
    have isLetter := letters.subset (List.mem_map_of_mem inside)
    simp [asciiLower] at isLetter

@[simp] theorem isForming_nil : isForming [] = false := rfl

theorem isForming_length {text : Units} (forming : isForming text = true) :
    2 ≤ text.length ∧ text.length ≤ 6 := by
  obtain ⟨long, isPrefix⟩ := Bool.and_eq_true_iff.mp forming
  have short := (List.isPrefixOf_iff_prefix.mp isPrefix).length_le
  rw [List.length_map] at short
  exact ⟨of_decide_eq_true long, short⟩

theorem isForming_take {text : Units} (forming : isForming text = true) {units : Nat}
    (long : 2 ≤ units) : isForming (text.take units) = true := by
  have isPrefix := List.isPrefixOf_iff_prefix.mp (Bool.and_eq_true_iff.mp forming).2
  refine Bool.and_eq_true_iff.mpr ⟨decide_eq_true ?_, List.isPrefixOf_iff_prefix.mpr ?_⟩
  · have longText := (isForming_length forming).1
    rw [List.length_take]
    omega
  · rw [List.map_take]
    exact (List.take_prefix _ _).trans isPrefix

theorem EndsAt.le_length {text : Units} {place : Nat} (ends : EndsAt text place) :
    place ≤ text.length := by
  rcases ends with forming | ⟨atEnd, _⟩
  · by_contra beyond
    rw [List.drop_eq_nil_of_le (by omega)] at forming
    cases forming
  · exact Nat.le_of_eq atEnd

theorem exists_endsAt (text : Units) : ∃ place, EndsAt text place := by
  by_cases forms : ∃ start, isForming (text.drop start) = true
  · obtain ⟨start, forming⟩ := forms
    exact ⟨start, Or.inl forming⟩
  · refine ⟨text.length, Or.inr ⟨rfl, ?_⟩⟩
    intro start
    rw [← Bool.not_eq_true]
    exact fun forming => forms ⟨start, forming⟩

theorem dropForming_eq_take {text : Units} {place : Nat} (ends : EndsAt text place) :
    dropForming text = text.take place := by
  induction text generalizing place with
  | nil => simp [dropForming]
  | cons unit rest ih =>
    rw [dropForming]
    cases here : isForming (unit :: rest) with
    | true =>
      have atStart : place = 0 := by
        rcases ends with forming | ⟨_, nowhere⟩
        · cases place with
          | zero => rfl
          | succ before =>
            rw [List.drop_succ_cons] at forming
            cases later : rest.drop before with
            | nil =>
              rw [later] at forming
              cases forming
            | cons next after =>
              rw [later] at forming
              have isLater : next ∈ rest := List.mem_of_mem_drop (later ▸ List.mem_cons_self)
              rw [(isForming_cons forming).1] at isLater
              exact absurd isLater (isForming_cons here).2
        · have notHere := nowhere 0
          rw [List.drop_zero, here] at notHere
          cases notHere
      simp [atStart]
    | false =>
      rw [if_neg Bool.false_ne_true]
      cases place with
      | zero =>
        rcases ends with forming | ⟨atEnd, _⟩
        · rw [List.drop_zero, here] at forming
          cases forming
        · cases atEnd
      | succ before =>
        rw [List.take_succ_cons, ih]
        rcases ends with forming | ⟨atEnd, nowhere⟩
        · exact Or.inl forming
        · exact Or.inr ⟨Nat.succ.inj atEnd, fun start => nowhere (start + 1)⟩

theorem dropForming_take_eq_iff {text : Units} {first second : Nat} :
    dropForming (text.take first) = dropForming (text.take second) ↔
      ∃ place, EndsAt (text.take first) place ∧ EndsAt (text.take second) place := by
  constructor
  · intro same
    obtain ⟨place, ends⟩ := exists_endsAt (text.take first)
    obtain ⟨other, endsToo⟩ := exists_endsAt (text.take second)
    rw [dropForming_eq_take ends, dropForming_eq_take endsToo] at same
    have lengths := congrArg List.length same
    rw [List.length_take_of_le ends.le_length, List.length_take_of_le endsToo.le_length] at lengths
    exact ⟨place, ends, lengths ▸ endsToo⟩
  · intro ⟨place, ends, endsToo⟩
    have short := ends.le_length
    have shortToo := endsToo.le_length
    rw [List.length_take] at short shortToo
    rw [dropForming_eq_take ends, dropForming_eq_take endsToo, List.take_take, List.take_take]
    congr 1
    omega

theorem not_endsPartly_iff {text : Units} :
    ¬ EndsPartly text ↔ ∀ start, isForming (text.drop start) = false := by
  simp [EndsPartly]

theorem dropForming_take_iff {text : Units} {place : Nat} :
    dropForming (text.take place) = dropForming text ↔
      text.length ≤ place ∨ ∃ start, isForming (text.drop start) = true ∧
        (start + 2 ≤ place ∨ start = place ∧ ¬ EndsPartly (text.take start)) := by
  have atPlaces := @dropForming_take_eq_iff text place text.length
  rw [List.take_length] at atPlaces
  rw [atPlaces]
  constructor
  · rintro ⟨last, ends, endsToo⟩
    by_cases whole : text.length ≤ place
    · exact .inl whole
    · have cut : (text.take place).length = place := List.length_take_of_le (by omega)
      have before := ends.le_length
      rcases endsToo with forming | ⟨atEnd, _⟩
      · refine .inr ⟨last, forming, ?_⟩
        rcases ends with formingToo | ⟨atCut, nowhere⟩
        · have long := (isForming_length formingToo).1
          rw [List.length_drop, cut] at long
          exact .inl (by omega)
        · rw [cut] at atCut
          subst atCut
          exact .inr ⟨rfl, not_endsPartly_iff.mpr nowhere⟩
      · omega
  · rintro (whole | ⟨start, forming, into | ⟨rfl, nowhere⟩⟩)
    · rw [List.take_of_length_le whole]
      obtain ⟨last, ends⟩ := exists_endsAt text
      exact ⟨last, ends, ends⟩
    · refine ⟨start, .inl ?_, .inl forming⟩
      rw [List.drop_take]
      exact isForming_take forming (by omega)
    · refine ⟨start, .inr ⟨?_, not_endsPartly_iff.mp nowhere⟩, .inl forming⟩
      have short := (show EndsAt text start from .inl forming).le_length
      rw [List.length_take_of_le short]

theorem isForming_opening {text : Units} (opens : startsWith openTag text = true) (units : Nat) :
    isForming (text.take units) = true ↔ 2 ≤ units ∧ units ≤ 6 := by
  have long : 7 ≤ text.length := length_of_startsWith opens
  constructor
  · intro forming
    have bounds := isForming_length forming
    rw [List.length_take] at bounds
    omega
  · rintro ⟨atLeast, atMost⟩
    refine Bool.and_eq_true_iff.mpr ⟨decide_eq_true ?_, List.isPrefixOf_iff_prefix.mpr ?_⟩
    · rw [List.length_take]
      omega
    · rw [List.map_take]
      have tag : openTag.take 6 <+: text.map asciiLower :=
        (List.take_prefix _ _).trans (List.isPrefixOf_iff_prefix.mp opens)
      refine List.prefix_of_prefix_length_le (List.take_prefix _ _) tag ?_
      rw [List.length_take, List.length_take]
      change min units _ ≤ 6
      omega

theorem opening_bracket {unit : Nat} {rest : Units}
    (opens : startsWith openTag (unit :: rest) = true) :
    unit = 0x3C ∧ 0x3C ∉ rest.take 6 := by
  have whole := List.isPrefixOf_iff_prefix.mp opens
  have tag : (unit :: rest.take 6).map asciiLower = openTag := by
    rw [List.prefix_iff_eq_take.mp whole, ← List.map_take]
    rfl
  obtain ⟨front, letters⟩ := List.cons.inj tag
  constructor
  · unfold asciiLower at front
    split at front <;> omega
  · intro inside
    have isLetter : asciiLower 0x3C ∈ (rest.take 6).map asciiLower := List.mem_map_of_mem inside
    rw [letters] at isLetter
    revert isLetter
    decide

theorem dropForming_append_iff {outside unclosed : Units}
    (opens : startsWith openTag unclosed = true) (units : Nat) :
    dropForming ((outside ++ unclosed).take (outside.length + units)) = dropForming outside ↔
      units = 0 ∨ 2 ≤ units ∧ units ≤ 6 ∧ ¬ EndsPartly outside := by
  have long : 7 ≤ unclosed.length := length_of_startsWith opens
  have atPlaces := @dropForming_take_eq_iff (outside ++ unclosed) (outside.length + units)
    outside.length
  rw [List.take_left] at atPlaces
  rw [atPlaces, List.take_length_add_append]
  constructor
  · rintro ⟨last, ends, endsToo⟩
    by_cases nothing : units = 0
    · exact .inl nothing
    have before := endsToo.le_length
    rcases ends with forming | ⟨atEnd, _⟩
    · rw [List.drop_append_of_le_length before] at forming
      cases rest : outside.drop last with
      | nil =>
        have atEnd : last = outside.length := by
          have after := List.drop_eq_nil_iff.mp rest
          omega
        rw [rest, List.nil_append, isForming_opening opens] at forming
        refine .inr ⟨forming.1, forming.2, not_endsPartly_iff.mpr ?_⟩
        rcases endsToo with formingToo | ⟨_, nowhere⟩
        · rw [rest] at formingToo
          cases formingToo
        · exact nowhere
      | cons unit later =>
        -- The tag's bracket would be inside the partial tag.
        rw [rest, List.cons_append] at forming
        cases unclosed with
        | nil => cases opens
        | cons bracket tag =>
          obtain ⟨more, rfl⟩ := Nat.exists_eq_succ_of_ne_zero nothing
          have isBracket := (opening_bracket opens).1
          subst isBracket
          exact absurd (List.mem_append_right later List.mem_cons_self) (isForming_cons forming).2
    · rw [List.length_append, List.length_take] at atEnd
      omega
  · rintro (rfl | ⟨atLeast, atMost, nowhere⟩)
    · obtain ⟨last, ends⟩ := exists_endsAt outside
      exact ⟨last, by simpa using ends, ends⟩
    · refine ⟨outside.length, .inl ?_, .inr ⟨rfl, not_endsPartly_iff.mp nowhere⟩⟩
      rw [List.drop_left]
      exact (isForming_opening opens units).mpr ⟨atLeast, atMost⟩

/-! ## The last opening tag -/

theorem lastIndexOf_cases {needle : Units} (nonempty : needle ≠ []) (text : Units) :
    (lastIndexOf needle text = none ∧ ∀ place, ¬ needle <+: text.drop place) ∨
      ∃ place, lastIndexOf needle text = some place ∧ needle <+: text.drop place ∧
        ∀ later, needle <+: text.drop later → later ≤ place := by
  induction text with
  | nil =>
    refine .inl ⟨rfl, fun place found => nonempty ?_⟩
    rwa [List.drop_nil, List.prefix_nil] at found
  | cons unit rest ih =>
    rw [lastIndexOf]
    rcases ih with ⟨isNone, nowhere⟩ | ⟨place, isPlace, found, isLast⟩
    · rw [isNone]
      dsimp only
      split
      · next here =>
          refine .inr ⟨0, rfl, List.isPrefixOf_iff_prefix.mp here, fun later found => ?_⟩
          cases later with
          | zero => exact Nat.le_refl 0
          | succ later => exact absurd found (nowhere later)
      · next notHere =>
          refine .inl ⟨rfl, fun place found => ?_⟩
          cases place with
          | zero => exact notHere (List.isPrefixOf_iff_prefix.mpr found)
          | succ place => exact nowhere place found
    · rw [isPlace]
      refine .inr ⟨place + 1, rfl, found, fun later foundLater => ?_⟩
      cases later with
      | zero => exact Nat.zero_le _
      | succ later => exact Nat.succ_le_succ (isLast later foundLater)

def lastOpening (text : Units) : Option Nat :=
  lastIndexOf openTag (text.map lowerUnit)

theorem lastOpening_cases (text : Units) :
    (lastOpening text = none ∧ ∀ place, ¬ OpensAt text place) ∨
      ∃ place, lastOpening text = some place ∧ OpensAt text place ∧
        ∀ later, OpensAt text later → later ≤ place := by
  unfold lastOpening OpensAt
  simp only [List.map_drop]
  exact lastIndexOf_cases (List.cons_ne_nil _ _) _

/-- A tag of ASCII letters whose last one is no `i`. -/
def Plain : Units → Prop
  | [] => True
  | [last] => last < 0x80 ∧ last ≠ 0x69
  | first :: second :: rest => first < 0x80 ∧ Plain (second :: rest)

theorem Plain.head {first : Nat} {rest : Units} (plain : Plain (first :: rest)) : first < 0x80 := by
  cases rest with
  | nil => exact plain.1
  | cons second rest => exact plain.1

theorem Plain.tail {first : Nat} {rest : Units} (plain : Plain (first :: rest)) : Plain rest := by
  cases rest with
  | nil => trivial
  | cons second rest => exact plain.2

theorem plain_openTag : Plain openTag := by
  simp [openTag, Plain]

theorem prefix_lowerCase_iff {tag text lowered : Units} (plain : Plain tag)
    (lowers : LowerCase text lowered) : tag <+: lowered ↔ tag <+: text.map lowerUnit := by
  induction lowers generalizing tag with
  | nil => exact Iff.rfl
  | @ascii unit text lowered small _ ih =>
    have same : lowerUnit unit = asciiLower unit := if_neg (by omega)
    cases tag with
    | nil => simp
    | cons first rest =>
      rw [List.map_cons, List.cons_prefix_cons, List.cons_prefix_cons, same, ih plain.tail]
  | @dottedI text lowered _ ih =>
    cases tag with
    | nil => simp
    | cons first rest =>
      have notDotted : first ≠ lowerUnit 0x130 := by
        have small := plain.head
        have stays : lowerUnit 0x130 = 0x130 := by decide
        omega
      rw [List.map_cons, List.cons_prefix_cons, List.cons_prefix_cons]
      constructor
      · rintro ⟨rfl, later⟩
        cases rest with
        | nil => exact absurd rfl plain.2
        | cons second rest =>
          have isDot := (List.cons_prefix_cons.mp later).1
          have small := plain.tail.head
          omega
      · rintro ⟨isDotted, _⟩
        exact absurd isDotted notDotted
  | @kelvin text lowered _ ih =>
    cases tag with
    | nil => simp
    | cons first rest =>
      rw [List.map_cons, List.cons_prefix_cons, List.cons_prefix_cons, ih plain.tail]
      rfl
  | @other unit text lower lowered large _ notKelvin largeToo _ ih =>
    cases tag with
    | nil => simp
    | cons first rest =>
      have small := plain.head
      have same : lowerUnit unit = unit := by
        rw [lowerUnit, if_neg notKelvin, asciiLower, if_neg (by omega)]
      rw [List.map_cons, List.cons_prefix_cons, List.cons_prefix_cons, same]
      constructor
      · rintro ⟨isLower, _⟩
        omega
      · rintro ⟨isUnit, _⟩
        omega

private theorem lastIndexOf_lower_cons {unit lower : Nat} {text lowered : Units}
    (notDotted : unit ≠ 0x130) (lowers : LowerCase (unit :: text) (lower :: lowered))
    (ih : lastIndexOf openTag lowered =
      (lastOpening text).map fun place => place + (text.take place).count 0x130) :
    lastIndexOf openTag (lower :: lowered) =
      (lastOpening (unit :: text)).map fun place =>
        place + ((unit :: text).take place).count 0x130 := by
  have starts := prefix_lowerCase_iff plain_openTag lowers
  rw [← List.isPrefixOf_iff_prefix, ← List.isPrefixOf_iff_prefix, ← Bool.eq_iff_iff,
    List.map_cons] at starts
  unfold lastOpening at ih ⊢
  rw [List.map_cons, lastIndexOf, lastIndexOf, ih, starts]
  cases lastIndexOf openTag (text.map lowerUnit) with
  | some place =>
    simp only [Option.map_some, List.take_succ_cons, List.count_cons_of_ne notDotted]
    congr 1
    omega
  | none =>
    simp only [Option.map_none]
    split <;> simp

theorem lastIndexOf_lowerCase {text lowered : Units} (lowers : LowerCase text lowered) :
    lastIndexOf openTag lowered =
      (lastOpening text).map fun place => place + (text.take place).count 0x130 := by
  induction lowers with
  | nil => rfl
  | @ascii unit text lowered small later ih =>
    exact lastIndexOf_lower_cons (by omega) (.ascii small later) ih
  | @dottedI text lowered later ih =>
    have notHere : ∀ {first rest}, first ≠ 0x3C → openTag.isPrefixOf (first :: rest) = false := by
      intro first rest differs
      rw [← Bool.not_eq_true, List.isPrefixOf_iff_prefix]
      intro isPrefix
      exact differs (List.cons_prefix_cons.mp isPrefix).1.symm
    unfold lastOpening at ih ⊢
    rw [List.map_cons, lastIndexOf, lastIndexOf, lastIndexOf, ih, notHere (by decide),
      notHere (by decide), notHere (by decide)]
    cases lastIndexOf openTag (text.map lowerUnit) with
    | some place =>
      simp only [Option.map_some, List.take_succ_cons, List.count_cons_self]
      congr 1
      omega
    | none => rfl
  | @kelvin text lowered later ih =>
    exact lastIndexOf_lower_cons (by decide) (.kelvin later) ih
  | @other unit text lower lowered large notDotted notKelvin largeToo later ih =>
    exact lastIndexOf_lower_cons notDotted (.other large notDotted notKelvin largeToo later) ih

/-! ## The whole function -/

theorem prefix_lowerUnit {tag text : Units} (plain : Plain tag)
    (starts : startsWith tag text = true) : tag <+: text.map lowerUnit := by
  unfold startsWith at starts
  rw [List.isPrefixOf_iff_prefix] at starts
  induction text generalizing tag with
  | nil => exact starts
  | cons unit rest ih =>
    cases tag with
    | nil => exact List.nil_prefix
    | cons first later =>
      rw [List.map_cons, List.cons_prefix_cons] at starts ⊢
      refine ⟨?_, ih plain.tail starts.2⟩
      have small := plain.head
      rw [starts.1] at small ⊢
      have notKelvin : unit ≠ 0x212A := by
        rintro rfl
        exact absurd small (by decide)
      rw [lowerUnit, if_neg notKelvin]

theorem lowerUnit_eq_bracket {unit : Nat} (isBracket : lowerUnit unit = 0x3C) : unit = 0x3C := by
  unfold lowerUnit asciiLower at isBracket
  split at isBracket
  · omega
  · split at isBracket <;> omega

theorem OpensAt.bracket {text : Units} {place : Nat} (opens : OpensAt text place) :
    ∃ later, text.drop place = 0x3C :: later := by
  unfold OpensAt at opens
  cases rest : text.drop place with
  | nil =>
    rw [rest] at opens
    cases List.prefix_nil.mp opens
  | cons unit later =>
    rw [rest, List.map_cons] at opens
    rw [lowerUnit_eq_bracket (List.cons_prefix_cons.mp opens).1.symm]
    exact ⟨later, rfl⟩

/-- Two opening tags do not overlap. -/
theorem OpensAt.apart {text : Units} {place : Nat} (opens : OpensAt text place)
    (first : startsWith openTag text = true) : place = 0 ∨ 7 ≤ place := by
  obtain ⟨later, atPlace⟩ := opens.bracket
  cases text with
  | nil => cases first
  | cons unit rest =>
    cases place with
    | zero => exact .inl rfl
    | succ before =>
      refine .inr (Nat.le_of_not_lt fun near => (opening_bracket first).2 ?_)
      rw [List.drop_succ_cons] at atPlace
      have split_ : rest.take 6 = rest.take before ++ (rest.drop before).take (6 - before) := by
        rw [← List.take_add]
        congr 1
        omega
      obtain ⟨more, isMore⟩ := Nat.exists_eq_succ_of_ne_zero (show 6 - before ≠ 0 by omega)
      rw [split_, atPlace, isMore]
      exact List.mem_append_right _ List.mem_cons_self

theorem strip_of_no_bracket {text : Units} (none_ : 0x3C ∉ text) :
    removeComplete 0 text = text ∧ lastOpening text = none ∧ dropForming text = text := by
  have noOpening : ∀ place, ¬ OpensAt text place := by
    intro place opens
    obtain ⟨later, atPlace⟩ := opens.bracket
    exact none_ (List.mem_of_mem_drop (atPlace ▸ List.mem_cons_self))
  have noTag : ∀ passed, startsWith openTag (text.drop passed) = false := by
    intro passed
    rw [← Bool.not_eq_true]
    exact fun starts => noOpening passed (prefix_lowerUnit plain_openTag starts)
  refine ⟨removeComplete_of_none fun passed => by simp [completeThink, noTag], ?_, ?_⟩
  · rcases lastOpening_cases text with ⟨isNone, _⟩ | ⟨place, _, opens, _⟩
    · exact isNone
    · exact absurd opens (noOpening place)
  · have ends : EndsAt text text.length := by
      refine Or.inr ⟨rfl, ?_⟩
      intro start
      rw [← Bool.not_eq_true]
      intro forming
      cases rest : text.drop start with
      | nil =>
        rw [rest] at forming
        cases forming
      | cons unit later =>
        rw [rest] at forming
        have isUnit : unit ∈ text := List.mem_of_mem_drop (rest ▸ List.mem_cons_self)
        rw [(isForming_cons forming).1] at isUnit
        exact none_ isUnit
    rw [dropForming_eq_take ends, List.take_length]

theorem stripLeakedThink_eq {toLowerCase : Units → Units}
    (lowers : ∀ text, LowerCase text (toLowerCase text)) (text : Units) :
    stripLeakedThink toLowerCase text =
      match lastOpening (removeComplete 0 text) with
      | some place =>
        dropForming ((removeComplete 0 text).take
          (place + ((removeComplete 0 text).take place).count 0x130))
      | none => dropForming (removeComplete 0 text) := by
  unfold stripLeakedThink
  dsimp only
  rw [lastIndexOf_lowerCase (lowers _)]
  split
  · next fast =>
      have noBracket : 0x3C ∉ text := by
        rcases fast with rfl | absent
        · simp
        · exact absent
      obtain ⟨same, noTag, whole⟩ := strip_of_no_bracket noBracket
      rw [same, noTag, whole]
  · cases lastOpening (removeComplete 0 text) <;> rfl

theorem opensAt_append {outside unclosed : Units} (place : Nat) :
    OpensAt (outside ++ unclosed) (outside.length + place) ↔ OpensAt unclosed place := by
  rw [OpensAt, List.drop_length_add_append, OpensAt]

/-- The code shows what the scanner keeps exactly if the tags of the text read alike from both
ends. -/
theorem stripLeakedThink_eq_scan_iff (toLowerCase : Units → Units)
    (lowers : ∀ text, LowerCase text (toLowerCase text)) (text : Units) :
    stripLeakedThink toLowerCase text = dropForming (kept text) ↔ TagsReadAlike text := by
  obtain ⟨outside, unclosed, laidOut⟩ := exists_laidOut text
  obtain ⟨removed, keeps, shape⟩ := laidOut.reads
  rw [stripLeakedThink_eq lowers, tagsReadAlike_iff laidOut, removed, keeps]
  rcases shape with rfl | opens
  · rw [List.append_nil]
    simp only [ne_eq, not_true_eq_false, false_implies, true_and, forall_const]
    rcases lastOpening_cases outside with ⟨isNone, nowhere⟩ | ⟨place, isPlace, opens, isLast⟩
    · rw [isNone]
      simp [CutsNothing, nowhere]
    · rw [isPlace]
      refine dropForming_take_iff.trans ?_
      constructor
      · intro cuts other opensToo isLastToo
        rw [Nat.le_antisymm (isLast other opensToo) (isLastToo place opens)]
        exact cuts
      · exact fun cuts => cuts place opens isLast
  · have nonempty : unclosed ≠ [] := by
      rintro rfl
      cases opens
    have opensHere : OpensAt unclosed 0 := prefix_lowerUnit plain_openTag opens
    simp only [ne_eq, nonempty, not_false_eq_true, forall_const, false_implies, and_true]
    rcases lastOpening_cases (outside ++ unclosed) with
      ⟨_, nowhere⟩ | ⟨place, isPlace, opensAt, isLast⟩
    · exact absurd ((opensAt_append 0).mpr opensHere) (nowhere _)
    have behind : outside.length ≤ place := isLast _ ((opensAt_append 0).mpr opensHere)
    obtain ⟨further, rfl⟩ := Nat.exists_eq_add_of_le behind
    rw [opensAt_append] at opensAt
    have isLastOf : ∀ later, OpensAt unclosed later → later ≤ further := by
      intro later opensLater
      exact Nat.le_of_add_le_add_left (isLast _ ((opensAt_append later).mpr opensLater))
    rw [isPlace]
    dsimp only
    rw [List.take_length_add_append, List.count_append, Nat.add_assoc,
      dropForming_append_iff opens]
    unfold CutsUnclosed
    rcases opensAt.apart opens with rfl | far
    · have noOther : ∀ later, OpensAt unclosed later → later = 0 :=
        fun later opensLater => Nat.le_zero.mp (isLastOf later opensLater)
      rw [List.take_zero, List.count_nil, Nat.add_zero, Nat.zero_add]
      exact ⟨fun cuts => ⟨noOther, cuts⟩, And.right⟩
    · constructor
      · omega
      · intro cuts
        have atStart := cuts.1 further opensAt
        omega

/-- A block that is never closed is kept up to its last opening tag. -/
theorem stripLeakedThink_shows_thinking :
    let text := "<think>a<think>b".toList.map Char.toNat
    stripLeakedThink (List.map asciiLower) text = "<think>a".toList.map Char.toNat ∧
      dropForming (kept text) = [] := by
  decide +kernel

private theorem lowerCase_flatMap (text : Units) :
    LowerCase text (text.flatMap fun unit =>
      if unit = 0x130 then [0x69, 0x307] else [lowerUnit unit]) := by
  induction text with
  | nil => exact .nil
  | cons unit rest ih =>
    rw [List.flatMap_cons]
    by_cases dotted : unit = 0x130
    · rw [if_pos dotted, dotted]
      exact .dottedI ih
    · rw [if_neg dotted]
      by_cases kelvin : unit = 0x212A
      · rw [kelvin]
        exact .kelvin ih
      · rw [lowerUnit, if_neg kelvin]
        by_cases small : unit < 0x80
        · exact .ascii small ih
        · refine .other (by omega) dotted kelvin ?_ ih
          rw [asciiLower, if_neg (by omega)]
          omega

/-- The law for a text whose blocks are all closed. -/
theorem stripLeakedThink_closed :
    let lower := fun text : Units => text.flatMap fun unit =>
      if unit = 0x130 then [0x69, 0x307] else [lowerUnit unit]
    let text := "x<think>a</think>b".toList.map Char.toNat
    stripLeakedThink lower text = dropForming (kept text) ↔ TagsReadAlike text :=
  stripLeakedThink_eq_scan_iff _ lowerCase_flatMap _

end ImCodes.Agent.LeakedThink
