import ImCodes.Library.Text

/-!
# Numerals, lists and words in text

`Number.parseInt` in base ten, the comma separated lists of attribute values, and the
search for a word in either case.
-/

set_option autoImplicit false

namespace ImCodes.Library

def infiniteFrom : Nat := 2 ^ 1024 - 2 ^ 970

def digitsValue (digits : List Char) : Nat :=
  digits.foldl (fun value digit => value * 10 + (digit.toNat - '0'.toNat)) 0

/-- `Number.parseInt(text, 10)` where that is a finite number. -/
def parseInt (text : String) : Option Int :=
  let chars := text.toList.dropWhile isWhiteSpace
  let negative := chars.head? = some '-'
  let unsigned := if chars.head? = some '-' ∨ chars.head? = some '+' then chars.tail else chars
  let digits := unsigned.takeWhile Char.isDigit
  if digits = [] ∨ infiniteFrom ≤ digitsValue digits then none
  else if negative then some (-(digitsValue digits)) else some (digitsValue digits)

/-- `text.split(',')`. -/
def splitCommas (text : String) : List String :=
  (text.toList.splitOn ',').map String.ofList

def isWordChar (c : Char) : Bool := c.isAlphanum || c = '_'

/-- Whether the text has a word in it, given what came before; the word is in lower case. -/
def mentionsWord (word : List Char) (afterWordChar : Bool) : List Char → Bool
  | [] => false
  | c :: rest =>
    (!afterWordChar && ((c :: rest).take word.length).map foldAsciiCase = word &&
      !(((c :: rest).drop word.length).head?.any isWordChar)) ||
    mentionsWord word (isWordChar c) rest

theorem repr_injective {number other : Nat} (same : number.repr.toList = other.repr.toList) :
    number = other := by
  have digits : Nat.toDigits 10 number = Nat.toDigits 10 other := by simpa using same
  have value := congrArg (fun digits => Nat.ofDigitChars 10 digits 0) digits
  simpa [Nat.ofDigitChars_toDigits] using value

end ImCodes.Library
