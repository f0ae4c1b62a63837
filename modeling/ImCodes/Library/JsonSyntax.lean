import ImCodes.Library.Json
import ImCodes.Library.UriComponent

/-!
# JSON as text

`JSON.stringify` without indentation and `JSON.parse`, and that parsing gives back what was
written. How a number is written is the language's: `numberText` gives the text of one.
-/

set_option autoImplicit false

namespace ImCodes.Library

namespace Json

/-! ## Writing -/

def quote : Char := Char.ofNat 0x22

def backslash : Char := Char.ofNat 0x5C

def shortEscapes : List (Char × Char) :=
  [(Char.ofNat 0x08, 'b'), (Char.ofNat 0x09, 't'), (Char.ofNat 0x0A, 'n'),
    (Char.ofNat 0x0C, 'f'), (Char.ofNat 0x0D, 'r')]

def lowerHexDigit (value : Nat) : Char := Char.ofNat (if value < 10 then 48 + value else 87 + value)

def escapeChar (c : Char) : List Char :=
  if c = quote ∨ c = backslash then [backslash, c]
  else
    match shortEscapes.find? fun escape => escape.1 = c with
    | some escape => [backslash, escape.2]
    | none =>
      if c.toNat < 0x20 then
        [backslash, 'u', '0', '0', lowerHexDigit (c.toNat / 16), lowerHexDigit (c.toNat % 16)]
      else [c]

def stringText (value : String) : List Char :=
  quote :: (value.toList.flatMap escapeChar ++ [quote])

mutual

def text (numberText : Rat → String) : Json → List Char
  | .null => ['n', 'u', 'l', 'l']
  | .bool true => ['t', 'r', 'u', 'e']
  | .bool false => ['f', 'a', 'l', 's', 'e']
  | .num value => (numberText value).toList
  | .str value => stringText value
  | .arr items => '[' :: (itemsText numberText items ++ [']'])
  | .obj members => '{' :: (membersText numberText members ++ ['}'])

def itemsText (numberText : Rat → String) : List Json → List Char
  | [] => []
  | [item] => text numberText item
  | item :: rest => text numberText item ++ ',' :: itemsText numberText rest

def membersText (numberText : Rat → String) : List (String × Json) → List Char
  | [] => []
  | [(name, value)] => stringText name ++ ':' :: text numberText value
  | (name, value) :: rest =>
    stringText name ++ ':' :: (text numberText value ++ ',' :: membersText numberText rest)

end

def stringify (numberText : Rat → String) (value : Json) : String :=
  String.ofList (text numberText value)

theorem visible_of_mem_escapeChar {c escaped : Char} (member : escaped ∈ escapeChar c) :
    0x20 ≤ escaped.toNat := by
  have digits : ∀ value < 16, 0x20 ≤ (lowerHexDigit value).toNat := by decide
  have letters : ∀ escape ∈ shortEscapes, 0x20 ≤ escape.2.toNat := by decide
  have fixed : 0x20 ≤ backslash.toNat ∧ 0x20 ≤ quote.toNat ∧ 0x20 ≤ 'u'.toNat ∧
      0x20 ≤ '0'.toNat := by decide
  unfold escapeChar at member
  split at member
  · next special =>
      simp only [List.mem_cons, List.not_mem_nil, or_false] at member
      rcases special with rfl | rfl <;> rcases member with rfl | rfl <;> simp [fixed]
  · split at member
    · next escape found =>
        simp only [List.mem_cons, List.not_mem_nil, or_false] at member
        rcases member with rfl | rfl
        · exact fixed.1
        · exact letters escape (List.mem_of_find?_eq_some found)
    · split at member
      · next control =>
          simp only [List.mem_cons, List.not_mem_nil, or_false] at member
          rcases member with rfl | rfl | rfl | rfl | rfl | rfl
          · exact fixed.1
          · exact fixed.2.2.1
          · exact fixed.2.2.2
          · exact fixed.2.2.2
          · exact digits _ (by omega)
          · exact digits _ (by omega)
      · next plain =>
          rw [List.mem_singleton.mp member]
          omega

theorem visible_of_mem_stringText {value : String} {c : Char} (member : c ∈ stringText value) :
    0x20 ≤ c.toNat := by
  have quoted : 0x20 ≤ quote.toNat := by decide
  simp only [stringText, List.mem_cons, List.mem_append, List.mem_flatMap, List.not_mem_nil,
    or_false] at member
  rcases member with rfl | ⟨_, _, escaped⟩ | rfl
  · exact quoted
  · exact visible_of_mem_escapeChar escaped
  · exact quoted

section Visible

variable {numberText : Rat → String}

mutual

/-- A JSON text has no control characters, when no number's text has one. -/
theorem visible_of_mem_text (numbers : ∀ value, ∀ c ∈ (numberText value).toList, 0x20 ≤ c.toNat)
    (value : Json) (c : Char) (member : c ∈ text numberText value) : 0x20 ≤ c.toNat := by
  have signs : ∀ sign ∈ ['[', ']', '{', '}'], 0x20 ≤ sign.toNat := by simp
  have visibleWords : (∀ sign ∈ ['n', 'u', 'l', 'l'], 0x20 ≤ sign.toNat) ∧
      (∀ sign ∈ ['t', 'r', 'u', 'e'], 0x20 ≤ sign.toNat) ∧
        ∀ sign ∈ ['f', 'a', 'l', 's', 'e'], 0x20 ≤ sign.toNat := by simp
  cases value with
  | null => exact visibleWords.1 c member
  | bool flag =>
    cases flag
    · exact visibleWords.2.2 c member
    · exact visibleWords.2.1 c member
  | num number => exact numbers number c member
  | str content => exact visible_of_mem_stringText member
  | arr items =>
    simp only [text, List.mem_cons, List.mem_append, List.not_mem_nil, or_false] at member
    rcases member with rfl | inside | rfl
    · exact signs _ (by decide)
    · exact visible_of_mem_itemsText numbers items c inside
    · exact signs _ (by decide)
  | obj members =>
    simp only [text, List.mem_cons, List.mem_append, List.not_mem_nil, or_false] at member
    rcases member with rfl | inside | rfl
    · exact signs _ (by decide)
    · exact visible_of_mem_membersText numbers members c inside
    · exact signs _ (by decide)

theorem visible_of_mem_itemsText
    (numbers : ∀ value, ∀ c ∈ (numberText value).toList, 0x20 ≤ c.toNat) (items : List Json)
    (c : Char) (member : c ∈ itemsText numberText items) : 0x20 ≤ c.toNat := by
  have comma : 0x20 ≤ ','.toNat := by decide
  match items with
  | [] => cases member
  | [item] => exact visible_of_mem_text numbers item c member
  | item :: next :: rest =>
    simp only [itemsText, List.mem_append, List.mem_cons] at member
    rcases member with first | rfl | later
    · exact visible_of_mem_text numbers item c first
    · exact comma
    · exact visible_of_mem_itemsText numbers (next :: rest) c later

theorem visible_of_mem_membersText
    (numbers : ∀ value, ∀ c ∈ (numberText value).toList, 0x20 ≤ c.toNat)
    (members : List (String × Json)) (c : Char)
    (member : c ∈ membersText numberText members) : 0x20 ≤ c.toNat := by
  have comma : 0x20 ≤ ','.toNat := by decide
  have colon : 0x20 ≤ ':'.toNat := by decide
  match members with
  | [] => cases member
  | [(name, value)] =>
    simp only [membersText, List.mem_append, List.mem_cons] at member
    rcases member with named | rfl | inside
    · exact visible_of_mem_stringText named
    · exact colon
    · exact visible_of_mem_text numbers value c inside
  | (name, value) :: next :: rest =>
    simp only [membersText, List.mem_append, List.mem_cons] at member
    rcases member with named | rfl | inside | rfl | later
    · exact visible_of_mem_stringText named
    · exact colon
    · exact visible_of_mem_text numbers value c inside
    · exact comma
    · exact visible_of_mem_membersText numbers (next :: rest) c later

end

end Visible

/-! ## Reading -/

def isBlank (c : Char) : Bool := c.toNat ∈ [0x20, 0x09, 0x0A, 0x0D]

def skipBlanks (chars : List Char) : List Char := chars.dropWhile isBlank

def hexValue (digits : List Char) : Option Nat :=
  digits.foldlM (fun value digit => (hexValue? digit).map (value * 16 + ·)) 0

def isHighSurrogate (code : Nat) : Bool := 0xD800 ≤ code ∧ code < 0xDC00

def isLowSurrogate (code : Nat) : Bool := 0xDC00 ≤ code ∧ code < 0xE000

def shortEscape? (letter : Char) : Option Char :=
  if letter = quote ∨ letter = backslash ∨ letter = '/' then some letter
  else (shortEscapes.find? fun escape => escape.2 = letter).map (·.1)

/-- A text up to its closing quote; half a surrogate pair has no text here. -/
def stringBody : List Char → Option (List Char × List Char)
  | [] => none
  | c :: rest =>
    if c = quote then some ([], rest)
    else if c = backslash then
      match rest with
      | 'u' :: a :: b :: d :: e :: after =>
        (hexValue [a, b, d, e]).bind fun code =>
          if isHighSurrogate code then
            match after with
            | s :: 'u' :: f :: g :: h :: i :: more =>
              if s = backslash then
                (hexValue [f, g, h, i]).bind fun low =>
                  if isLowSurrogate low then
                    let both := 0x10000 + (code - 0xD800) * 0x400 + (low - 0xDC00)
                    (stringBody more).map fun body => (Char.ofNat both :: body.1, body.2)
                  else none
              else none
            | _ => none
          else if isLowSurrogate code then none
          else (stringBody after).map fun body => (Char.ofNat code :: body.1, body.2)
      | letter :: after =>
        (shortEscape? letter).bind fun c =>
          (stringBody after).map fun body => (c :: body.1, body.2)
      | [] => none
    else if c.toNat < 0x20 then none
    else (stringBody rest).map fun body => (c :: body.1, body.2)

def isNumeralChar (c : Char) : Bool := c.isDigit || c ∈ ['+', '-', '.', 'e', 'E']

def digitsOf (chars : List Char) : Nat := Nat.ofDigitChars 10 chars 0

/-- The digits after a point, and what comes after them. -/
def fractionOf : List Char → Option (Rat × List Char)
  | '.' :: rest =>
    let digits := rest.takeWhile Char.isDigit
    if digits = [] then none
    else some ((digitsOf digits : Rat) / 10 ^ digits.length, rest.dropWhile Char.isDigit)
  | chars => some (0, chars)

/-- The exponent a numeral ends with. -/
def exponentOf : List Char → Option Int
  | [] => some 0
  | c :: rest =>
    let digits := if rest.head? = some '-' ∨ rest.head? = some '+' then rest.tail else rest
    if (c = 'e' ∨ c = 'E') ∧ digits ≠ [] ∧ digits.all Char.isDigit then
      some (if rest.head? = some '-' then -(digitsOf digits : Int) else digitsOf digits)
    else none

/-- What a numeral denotes. -/
def numeralValue (numeral : List Char) : Option Rat :=
  let unsigned := if numeral.head? = some '-' then numeral.tail else numeral
  let whole := unsigned.takeWhile Char.isDigit
  if whole = [] ∨ (whole.head? = some '0' ∧ 1 < whole.length) then none
  else
    (fractionOf (unsigned.dropWhile Char.isDigit)).bind fun fraction =>
      (exponentOf fraction.2).map fun exponent =>
        let size := ((digitsOf whole : Rat) + fraction.1) * 10 ^ exponent
        if numeral.head? = some '-' then -size else size

def words : List (List Char × Json) :=
  [(['n', 'u', 'l', 'l'], .null), (['t', 'r', 'u', 'e'], .bool true),
    (['f', 'a', 'l', 's', 'e'], .bool false)]

/-- A value that is neither a text nor made of others. -/
def parseScalar (chars : List Char) : Option (Json × List Char) :=
  match words.find? fun word => word.1.isPrefixOf chars with
  | some word => some (word.2, chars.drop word.1.length)
  | none =>
    (numeralValue (chars.takeWhile isNumeralChar)).map fun value =>
      (.num value, chars.dropWhile isNumeralChar)

def ofMembers (members : List (String × Json)) : Json :=
  .obj (members.foldl (fun kept member => setMember member.1 member.2 kept) [])

mutual

/-- The value a text begins with and what comes after it. -/
def parseValue : Nat → List Char → Option (Json × List Char)
  | 0, _ => none
  | fuel + 1, chars =>
    match skipBlanks chars with
    | [] => none
    | c :: rest =>
      if c = quote then
        (stringBody rest).map fun body => (.str (String.ofList body.1), body.2)
      else if c = '[' then
        match skipBlanks rest with
        | ']' :: after => some (.arr [], after)
        | _ => (parseItems fuel rest).map fun parsed => (.arr parsed.1, parsed.2)
      else if c = '{' then
        match skipBlanks rest with
        | '}' :: after => some (.obj [], after)
        | _ => (parseMembers fuel rest).map fun parsed => (ofMembers parsed.1, parsed.2)
      else parseScalar (c :: rest)

def parseItems : Nat → List Char → Option (List Json × List Char)
  | 0, _ => none
  | fuel + 1, chars =>
    (parseValue fuel chars).bind fun parsed =>
      match skipBlanks parsed.2 with
      | ',' :: more => (parseItems fuel more).map fun items => (parsed.1 :: items.1, items.2)
      | ']' :: after => some ([parsed.1], after)
      | _ => none

def parseMembers : Nat → List Char → Option (List (String × Json) × List Char)
  | 0, _ => none
  | fuel + 1, chars =>
    match skipBlanks chars with
    | c :: rest =>
      if c = quote then
        (stringBody rest).bind fun name =>
          match skipBlanks name.2 with
          | ':' :: value =>
            (parseValue fuel value).bind fun parsed =>
              match skipBlanks parsed.2 with
              | ',' :: more =>
                (parseMembers fuel more).map fun members =>
                  ((String.ofList name.1, parsed.1) :: members.1, members.2)
              | '}' :: after => some ([(String.ofList name.1, parsed.1)], after)
              | _ => none
          | _ => none
      else none
    | [] => none

end

/-- `none` where the source throws. No value takes more steps than its text has characters. -/
def parse (source : String) : Option Json :=
  (parseValue (source.length + 1) source.toList).bind fun parsed =>
    if skipBlanks parsed.2 = [] then some parsed.1 else none

/-! ## What was written is read back -/

theorem stringBody_quote (rest : List Char) : stringBody (quote :: rest) = some ([], rest) := by
  rw [stringBody.eq_def]
  simp

theorem stringBody_plain {c : Char} (plain : ¬(c = quote ∨ c = backslash))
    (printed : ¬c.toNat < 0x20) (rest : List Char) :
    stringBody (c :: rest) = (stringBody rest).map fun body => (c :: body.1, body.2) := by
  obtain ⟨unquoted, unescaped⟩ := not_or.mp plain
  conv_lhs => rw [stringBody.eq_def]
  simp [unquoted, unescaped, printed]

theorem stringBody_escapeChar (c : Char) (rest : List Char) :
    stringBody (escapeChar c ++ rest) =
      (stringBody rest).map fun body => (c :: body.1, body.2) := by
  unfold escapeChar
  split
  · rename_i special
    rcases special with rfl | rfl <;> simp [stringBody, shortEscape?, quote, backslash]
  · rename_i plain
    split
    · rename_i escape found
      have member := List.mem_of_find?_eq_some found
      have isChar : escape.1 = c := by simpa using List.find?_some found
      subst isChar
      simp only [shortEscapes, List.mem_cons, List.not_mem_nil, or_false] at member
      rcases member with rfl | rfl | rfl | rfl | rfl <;>
        simp [stringBody, shortEscape?, shortEscapes, quote, backslash]
    · split
      · rename_i control
        have digits : ∀ value < 16, hexValue? (lowerHexDigit value) = some value := by decide
        have high := digits (c.toNat / 16) (by omega)
        have low := digits (c.toNat % 16) (by omega)
        have zero : hexValue? '0' = some 0 := rfl
        have code : hexValue ['0', '0', lowerHexDigit (c.toNat / 16),
            lowerHexDigit (c.toNat % 16)] = some c.toNat := by
          simp only [hexValue, List.foldlM_cons, List.foldlM_nil, zero, high, low,
            Option.map_some, Option.bind_eq_bind, Option.bind_some, Option.pure_def,
            Option.some.injEq]
          omega
        have plainCode : isHighSurrogate c.toNat = false ∧ isLowSurrogate c.toNat = false := by
          simp [isHighSurrogate, isLowSurrogate]
          omega
        have different : backslash ≠ quote := by decide
        simp only [List.cons_append, List.nil_append, stringBody, different, if_false, if_true,
          code, Option.bind_some, plainCode, Bool.false_eq_true, Char.ofNat_toNat]
      · rename_i printed
        exact stringBody_plain plain printed rest

theorem stringBody_escaped (chars rest : List Char) :
    stringBody (chars.flatMap escapeChar ++ quote :: rest) = some (chars, rest) := by
  induction chars with
  | nil => exact stringBody_quote rest
  | cons c chars ih => simp [stringBody_escapeChar, ih]

/-- A number whose text is read back. -/
structure ReadsBack (numberText : Rat → String) (value : Rat) : Prop where
  chars : ∀ c ∈ (numberText value).toList, isNumeralChar c = true
  value : numeralValue (numberText value).toList = some value

mutual

/-- Every number is read back, and no object has a name twice. -/
def Printable (numberText : Rat → String) : Json → Prop
  | .num value => ReadsBack numberText value
  | .arr items => PrintableItems numberText items
  | .obj members => (members.map (·.1)).Nodup ∧ PrintableMembers numberText members
  | _ => True

def PrintableItems (numberText : Rat → String) : List Json → Prop
  | [] => True
  | item :: rest => Printable numberText item ∧ PrintableItems numberText rest

def PrintableMembers (numberText : Rat → String) : List (String × Json) → Prop
  | [] => True
  | (_, value) :: rest => Printable numberText value ∧ PrintableMembers numberText rest

end

def EndsNumeral (rest : List Char) : Prop := ∀ c more, rest = c :: more → isNumeralChar c = false

theorem endsNumeral_cons {c : Char} (other : isNumeralChar c = false) (more : List Char) :
    EndsNumeral (c :: more) := by
  intro first later same
  cases same
  exact other

theorem isBlank_of_isNumeralChar {c : Char} (numeral : isNumeralChar c = true) :
    isBlank c = false := by
  by_contra blank
  have codes : c.toNat = 0x20 ∨ c.toNat = 0x09 ∨ c.toNat = 0x0A ∨ c.toNat = 0x0D := by
    rw [Bool.not_eq_false] at blank
    simpa only [isBlank, decide_eq_true_eq, List.mem_cons, List.not_mem_nil, or_false] using blank
  rcases codes with code | code | code | code <;>
    (have same := congrArg Char.ofNat code; rw [Char.ofNat_toNat] at same; subst same;
      revert numeral; decide)

section
variable {numberText : Rat → String}

theorem numeral_ne_nil {value : Rat} (reads : ReadsBack numberText value) :
    (numberText value).toList ≠ [] := by
  intro empty
  have value := reads.value
  rw [empty] at value
  simp [numeralValue] at value

/-- The text of a value begins with a character that is no blank and no closing bracket. -/
theorem text_head {value : Json} (printable : Printable numberText value) :
    ∃ c more, text numberText value = c :: more ∧ isBlank c = false ∧ c ≠ ']' := by
  cases value with
  | null => exact ⟨_, _, rfl, by decide, by decide⟩
  | bool truth => cases truth <;> exact ⟨_, _, rfl, by decide, by decide⟩
  | num value =>
    have nonempty := numeral_ne_nil printable
    have chars := printable.chars
    cases written : (numberText value).toList with
    | nil => exact absurd written nonempty
    | cons c more =>
      have numeral := chars c (by simp [written])
      refine ⟨c, more, written, isBlank_of_isNumeralChar numeral, ?_⟩
      rintro rfl
      revert numeral
      decide
  | str value => exact ⟨_, _, rfl, by decide, by decide⟩
  | arr items => exact ⟨_, _, rfl, by decide, by decide⟩
  | obj members => exact ⟨_, _, rfl, by decide, by decide⟩

theorem skipBlanks_of_head {c : Char} {more : List Char} (visible : isBlank c = false) :
    skipBlanks (c :: more) = c :: more := by
  simp [skipBlanks, visible]

theorem skipBlanks_sign {c : Char} (sign : c ∈ [quote, ':', ',', '}']) (more : List Char) :
    skipBlanks (c :: more) = c :: more := by
  apply skipBlanks_of_head
  simp only [List.mem_cons, List.not_mem_nil, or_false] at sign
  rcases sign with rfl | rfl | rfl | rfl <;> rfl

theorem parseScalar_number {value : Rat} (reads : ReadsBack numberText value) {rest : List Char}
    (ends : EndsNumeral rest) :
    parseScalar ((numberText value).toList ++ rest) = some (.num value, rest) := by
  have taken : ((numberText value).toList ++ rest).takeWhile isNumeralChar =
      (numberText value).toList := by
    rw [List.takeWhile_append_of_pos reads.chars]
    cases rest with
    | nil => simp
    | cons c more => simp [ends c more rfl]
  have dropped : ((numberText value).toList ++ rest).dropWhile isNumeralChar = rest := by
    rw [List.dropWhile_append_of_pos reads.chars]
    cases rest with
    | nil => simp
    | cons c more => simp [ends c more rfl]
  have noWord : (words.find? fun word =>
      word.1.isPrefixOf ((numberText value).toList ++ rest)) = none := by
    have nonempty := numeral_ne_nil reads
    have chars := reads.chars
    cases written : (numberText value).toList with
    | nil => exact absurd written nonempty
    | cons c more =>
      have numeral := chars c (by simp [written])
      have letters : ∀ letter ∈ ['n', 't', 'f'], letter ≠ c := by
        intro letter member
        rintro rfl
        simp only [List.mem_cons, List.not_mem_nil, or_false] at member
        rcases member with rfl | rfl | rfl <;> (revert numeral; decide)
      simp only [List.mem_cons, List.not_mem_nil, or_false, forall_eq_or_imp, forall_eq]
        at letters
      simp [words, letters]
  simp [parseScalar, noWord, taken, dropped, reads.value]

theorem parseScalar_word (word : List Char × Json) (member : word ∈ words) (rest : List Char) :
    parseScalar (word.1 ++ rest) = some (word.2, rest) := by
  simp only [words, List.mem_cons, List.not_mem_nil, or_false] at member
  rcases member with rfl | rfl | rfl <;> simp [parseScalar, words]

theorem setMember_fresh {name : String} {value : Json} {members : List (String × Json)}
    (fresh : name ∉ members.map (·.1)) :
    setMember name value members = members ++ [(name, value)] := by
  induction members with
  | nil => rfl
  | cons member rest ih =>
    simp only [List.map_cons, List.mem_cons, not_or] at fresh
    simp [setMember, Ne.symm fresh.1, ih fresh.2]

theorem ofMembers_distinct {members : List (String × Json)}
    (distinct : (members.map (·.1)).Nodup) : ofMembers members = .obj members := by
  have grows : ∀ kept : List (String × Json), ((kept ++ members).map (·.1)).Nodup →
      members.foldl (fun kept member => setMember member.1 member.2 kept) kept =
        kept ++ members := by
    clear distinct
    intro kept distinct
    induction members generalizing kept with
    | nil => simp
    | cons member rest ih =>
      have fresh : member.1 ∉ kept.map (·.1) := by
        rw [List.map_append, List.map_cons, List.nodup_append] at distinct
        intro old
        exact distinct.2.2 _ old _ (by simp) rfl
      rw [List.foldl_cons, setMember_fresh fresh, ih]
      · simp
      · simpa using distinct
  simpa [ofMembers] using grows [] (by simpa using distinct)

theorem endsNumeral_of_mem {c : Char} (member : c ∈ [',', ']', '}']) (more : List Char) :
    EndsNumeral (c :: more) := by
  apply endsNumeral_cons
  simp only [List.mem_cons, List.not_mem_nil, or_false] at member
  rcases member with rfl | rfl | rfl <;> rfl

theorem stringBody_stringText (value : String) (rest : List Char) :
    stringBody (value.toList.flatMap escapeChar ++ [quote] ++ rest) =
      some (value.toList, rest) := by
  rw [List.append_assoc]
  exact stringBody_escaped value.toList rest

theorem parseValue_scalar {source rest : List Char} {value : Json} {fuel : Nat} {c : Char}
    {more : List Char} (written : source = c :: more) (visible : isBlank c = false)
    (open_ : c ≠ quote ∧ c ≠ '[' ∧ c ≠ '{')
    (scalar : parseScalar (source ++ rest) = some (value, rest)) :
    parseValue (fuel + 1) (source ++ rest) = some (value, rest) := by
  subst written
  rw [List.cons_append] at scalar ⊢
  simp [parseValue, skipBlanks_of_head visible, open_, scalar]

mutual

theorem parseValue_text (value : Json) (printable : Printable numberText value) (fuel : Nat)
    (rest : List Char) (enough : (text numberText value).length ≤ fuel)
    (ends : EndsNumeral rest) :
    parseValue fuel (text numberText value ++ rest) = some (value, rest) := by
  obtain ⟨first, others, head, visible, -⟩ := text_head printable
  cases fuel with
  | zero => simp [head] at enough
  | succ fuel =>
    cases value with
    | null =>
      exact parseValue_scalar rfl (by decide) (by decide)
        (parseScalar_word (['n', 'u', 'l', 'l'], .null) (by simp [words]) rest)
    | bool truth =>
      cases truth with
      | true =>
        exact parseValue_scalar rfl (by decide) (by decide)
          (parseScalar_word (['t', 'r', 'u', 'e'], .bool true) (by simp [words]) rest)
      | false =>
        exact parseValue_scalar rfl (by decide) (by decide)
          (parseScalar_word (['f', 'a', 'l', 's', 'e'], .bool false) (by simp [words])
            rest)
    | num number =>
      have numeral : isNumeralChar first = true :=
        printable.chars first (by rw [show (numberText number).toList = _ from head]; simp)
      apply parseValue_scalar head visible _ (parseScalar_number printable ends)
      refine ⟨?_, ?_, ?_⟩ <;> (rintro rfl; revert numeral; decide)
    | str value =>
      simp only [text, stringText, List.cons_append, parseValue,
        skipBlanks_of_head (show isBlank quote = false by decide), if_true,
        stringBody_stringText, Option.map_some, String.ofList_toList]
    | arr items =>
      have unquoted : '[' ≠ quote := by decide
      simp only [text, List.cons_append, parseValue,
        skipBlanks_of_head (show isBlank '[' = false by decide), unquoted, if_false, if_true]
      cases items with
      | nil => simp [itemsText, skipBlanks, isBlank]
      | cons item items =>
        have enough : (itemsText numberText (item :: items)).length + 1 ≤ fuel := by
          simp only [text, List.length_cons, List.length_append, List.length_nil] at enough
          omega
        have parsed := parseItems_text item items printable fuel rest enough
        obtain ⟨c, more, begins, visible, inside⟩ := text_head printable.1
        have starts : ∃ more, itemsText numberText (item :: items) ++ [']'] ++ rest =
            c :: more := by
          cases items <;> simp [itemsText, begins]
        obtain ⟨later, starts⟩ := starts
        rw [show itemsText numberText (item :: items) ++ ']' :: rest =
          itemsText numberText (item :: items) ++ [']'] ++ rest by simp, starts] at parsed
        rw [starts, skipBlanks_of_head visible]
        split
        · rename_i same
          exact absurd (List.cons.inj same).1 inside
        · rw [parsed]
          rfl
    | obj members =>
      have unquoted : '{' ≠ quote ∧ '{' ≠ '[' := by decide
      simp only [text, List.cons_append, parseValue,
        skipBlanks_of_head (show isBlank '{' = false by decide), unquoted, if_false,
        if_true]
      cases members with
      | nil => simp [membersText, skipBlanks, isBlank]
      | cons member members =>
        obtain ⟨name, value⟩ := member
        have enough : (membersText numberText ((name, value) :: members)).length + 1 ≤
            fuel := by
          simp only [text, List.length_cons, List.length_append, List.length_nil] at enough
          omega
        have parsed := parseMembers_text name value members printable.2 fuel rest enough
        have starts : ∃ more, membersText numberText ((name, value) :: members) ++
            ['}'] ++ rest = quote :: more := by
          cases members <;> simp [membersText, stringText]
        obtain ⟨later, starts⟩ := starts
        rw [show membersText numberText ((name, value) :: members) ++ '}' :: rest =
          membersText numberText ((name, value) :: members) ++ ['}'] ++ rest by simp,
          starts] at parsed
        rw [starts, skipBlanks_of_head (by decide)]
        have inside : quote ≠ '}' := by decide
        split
        · rename_i same
          exact absurd (List.cons.inj same).1 inside
        · rw [parsed, Option.map_some, ofMembers_distinct printable.1]
termination_by fuel

theorem parseItems_text (item : Json) (items : List Json)
    (printable : PrintableItems numberText (item :: items)) (fuel : Nat) (rest : List Char)
    (enough : (itemsText numberText (item :: items)).length + 1 ≤ fuel) :
    parseItems fuel (itemsText numberText (item :: items) ++ ']' :: rest) =
      some (item :: items, rest) := by
  cases fuel with
  | zero => cases enough
  | succ fuel =>
    cases items with
    | nil =>
      have parsed := parseValue_text item printable.1 fuel (']' :: rest)
        (by simpa [itemsText] using enough) (endsNumeral_of_mem (by simp) rest)
      simp [parseItems, itemsText, parsed, skipBlanks, isBlank]
    | cons second items =>
      have room : (text numberText item).length ≤ fuel ∧
          (itemsText numberText (second :: items)).length + 1 ≤ fuel := by
        simp only [itemsText, List.length_append, List.length_cons] at enough ⊢
        omega
      have parsed := parseValue_text item printable.1 fuel
        (',' :: (itemsText numberText (second :: items) ++ ']' :: rest)) room.1
        (endsNumeral_of_mem (by simp) _)
      have others := parseItems_text second items printable.2 fuel rest room.2
      simp [parseItems, itemsText, parsed, others, skipBlanks, isBlank]
termination_by fuel

theorem parseMembers_text (name : String) (value : Json) (members : List (String × Json))
    (printable : PrintableMembers numberText ((name, value) :: members)) (fuel : Nat)
    (rest : List Char)
    (enough : (membersText numberText ((name, value) :: members)).length + 1 ≤ fuel) :
    parseMembers fuel (membersText numberText ((name, value) :: members) ++ '}' :: rest) =
      some ((name, value) :: members, rest) := by
  cases fuel with
  | zero => cases enough
  | succ fuel =>
    have named : ∀ more, stringBody (name.toList.flatMap escapeChar ++ quote :: more) =
        some (name.toList, more) := stringBody_escaped name.toList
    have skips : (∀ more, skipBlanks (quote :: more) = quote :: more) ∧
        (∀ more, skipBlanks (':' :: more) = ':' :: more) ∧
        (∀ more, skipBlanks (',' :: more) = ',' :: more) ∧
        ∀ more, skipBlanks ('}' :: more) = '}' :: more := by
      refine ⟨?_, ?_, ?_, ?_⟩ <;> exact skipBlanks_sign (by simp)
    cases members with
    | nil =>
      have room : (text numberText value).length ≤ fuel := by
        simp only [membersText, List.length_append, List.length_cons] at enough
        omega
      have parsed := parseValue_text value printable.1 fuel ('}' :: rest) room
        (endsNumeral_of_mem (by simp) rest)
      simp [parseMembers, membersText, stringText, skips, named, parsed]
    | cons second members =>
      obtain ⟨secondName, secondValue⟩ := second
      have room : (text numberText value).length ≤ fuel ∧
          (membersText numberText ((secondName, secondValue) :: members)).length + 1 ≤
            fuel := by
        simp only [membersText, List.length_append, List.length_cons] at enough ⊢
        omega
      have parsed := parseValue_text value printable.1 fuel
        (',' :: (membersText numberText ((secondName, secondValue) :: members) ++
          '}' :: rest)) room.1 (endsNumeral_of_mem (by simp) _)
      have others := parseMembers_text secondName secondValue members printable.2 fuel rest
        room.2
      simp [parseMembers, membersText, stringText, skips, named, parsed, others]
termination_by fuel

end

theorem parse_stringify {value : Json} (printable : Printable numberText value) :
    parse (stringify numberText value) = some value := by
  have parsed := parseValue_text value printable ((text numberText value).length + 1) []
    (Nat.le_succ _) (by intro c more same; cases same)
  rw [List.append_nil] at parsed
  rw [parse, stringify, String.toList_ofList, String.length_ofList, parsed]
  rfl

end

/-! ## Natural numbers -/

def integerText (value : Rat) : String := toString value.num

theorem visible_of_mem_integerText (value : Rat) (c : Char)
    (member : c ∈ (integerText value).toList) : 0x20 ≤ c.toNat := by
  have digits : ∀ (number : Nat) (c : Char), c ∈ (toString number).toList → 0x20 ≤ c.toNat := by
    intro number c member
    have digit := Nat.isDigit_of_mem_toDigits (by omega) (by omega)
      (show c ∈ Nat.toDigits 10 number by simpa using member)
    have bounds : 48 ≤ c.toNat := by
      simp only [Char.isDigit, ge_iff_le, Bool.and_eq_true, decide_eq_true_eq] at digit
      exact digit.1
    omega
  unfold integerText at member
  cases number : value.num with
  | ofNat magnitude =>
    rw [number] at member
    exact digits magnitude c member
  | negSucc magnitude =>
    rw [number] at member
    have parts : c ∈ ("-" ++ toString (magnitude + 1)).toList := member
    rw [String.toList_append, List.mem_append] at parts
    rcases parts with sign | rest
    · rw [List.mem_singleton.mp sign]
      decide
    · exact digits _ c rest

theorem toDigits_head (value : Nat) (leading : (Nat.toDigits 10 value).head? = some '0') :
    (Nat.toDigits 10 value).length = 1 := by
  induction value using Nat.strongRecOn with
  | ind value ih =>
    by_cases small : value < 10
    · rw [Nat.toDigits_of_lt_base small]
      rfl
    · have split := @Nat.toDigits_of_base_le 10 value (by omega) (by omega)
      rw [split] at leading ⊢
      have nonempty : Nat.toDigits 10 (value / 10) ≠ [] := Nat.toDigits_ne_nil
      rw [List.head?_append_of_ne_nil _ nonempty] at leading
      have one := ih (value / 10) (by omega) leading
      -- A single digit 0 in front would make the number smaller than the base.
      have zero : value / 10 = 0 := by
        obtain ⟨digit, single⟩ := List.length_eq_one_iff.mp one
        rw [single] at leading
        have isZero : digit = '0' := by simpa using leading
        have value := @Nat.ofDigitChars_toDigits 10 (value / 10) (by omega) (by omega)
        rw [single, isZero] at value
        simpa [Nat.ofDigitChars_cons] using value.symm
      omega

theorem readsBack_natural (value : Nat) : ReadsBack integerText (value : Rat) := by
  have written : (integerText (value : Rat)).toList = Nat.toDigits 10 value := by
    have same : integerText (value : Rat) = toString value := by
      rw [integerText, Rat.num_natCast]
      rfl
    rw [same]
    simp
  have digits : ∀ c ∈ Nat.toDigits 10 value, c.isDigit = true := by
    intro c member
    exact Nat.isDigit_of_mem_toDigits (by omega) (by omega) member
  constructor
  · rw [written]
    intro c member
    simp [isNumeralChar, digits c member]
  · rw [written]
    have unsigned : (Nat.toDigits 10 value).head? ≠ some '-' := by
      intro sign
      have member := List.mem_of_head? sign
      exact absurd (digits '-' member) (by decide)
    have whole : (Nat.toDigits 10 value).takeWhile Char.isDigit = Nat.toDigits 10 value := by
      simpa using @List.takeWhile_append_of_pos _ Char.isDigit _ [] digits
    have nothing : (Nat.toDigits 10 value).dropWhile Char.isDigit = [] := by
      simpa using @List.dropWhile_append_of_pos _ Char.isDigit _ [] digits
    have wellFormed : ¬(Nat.toDigits 10 value = [] ∨
        ((Nat.toDigits 10 value).head? = some '0' ∧ 1 < (Nat.toDigits 10 value).length)) := by
      rintro (empty | ⟨leading, long⟩)
      · exact Nat.toDigits_ne_nil empty
      · rw [toDigits_head value leading] at long
        omega
    have denotes := @Nat.ofDigitChars_toDigits 10 value (by omega) (by omega)
    simp only [numeralValue, unsigned, if_false, whole, wellFormed, nothing, fractionOf,
      Option.bind_some, exponentOf, Option.map_some, digitsOf, denotes]
    rw [Rat.add_zero, Rat.zpow_zero, Rat.mul_one]

end Json

end ImCodes.Library
