import Mathlib.Data.List.DropRight
import Mathlib.Data.List.Sort
import Mathlib.Data.String.Basic

/-!
# Host-language text and numbers

The string and number primitives the modelled programs take from their host:
`String.prototype.trim`, truthiness, UTF-16 order, the SQL `LIKE` operator and
the non-finite numbers. A lone surrogate is not a Lean character, so strings are
those made of Unicode scalar values.
-/

set_option autoImplicit false

namespace ImCodes.Library

/-- White space and line terminators, as `String.prototype.trim` removes them. -/
def isWhiteSpace (c : Char) : Bool :=
  c.toNat ∈ [0x09, 0x0A, 0x0B, 0x0C, 0x0D, 0x20, 0xA0, 0x1680, 0x2000, 0x2001, 0x2002,
    0x2003, 0x2004, 0x2005, 0x2006, 0x2007, 0x2008, 0x2009, 0x200A, 0x2028, 0x2029,
    0x202F, 0x205F, 0x3000, 0xFEFF]

def trimChars (chars : List Char) : List Char :=
  (chars.dropWhile isWhiteSpace).rdropWhile isWhiteSpace

def trim (text : String) : String :=
  String.ofList (trimChars text.toList)

def truthy (text : Option String) : Option String :=
  text.filter fun value => value ≠ ""

/-- `value?.trim() || undefined`. -/
def trimmed (text : Option String) : Option String :=
  truthy (text.map trim)

@[simp] theorem truthy_eq_some_iff {text : Option String} {value : String} :
    truthy text = some value ↔ text = some value ∧ value ≠ "" := by
  simp [truthy, Option.filter_eq_some_iff]

theorem truthy_some {value : String} (nonempty : value ≠ "") :
    truthy (some value) = some value :=
  truthy_eq_some_iff.mpr ⟨rfl, nonempty⟩

theorem dropWhile_rdropWhile_head {chars : List Char}
    (clean : chars.dropWhile isWhiteSpace = chars) :
    (chars.rdropWhile isWhiteSpace).dropWhile isWhiteSpace = chars.rdropWhile isWhiteSpace := by
  cases kept : chars.rdropWhile isWhiteSpace with
  | nil => rfl
  | cons head rest =>
    have isPrefix : head :: rest <+: chars := kept ▸ List.rdropWhile_prefix isWhiteSpace chars
    obtain ⟨tail, rfl⟩ := isPrefix
    have plain : isWhiteSpace head = false := by
      cases white : isWhiteSpace head with
      | false => rfl
      | true =>
        have shorter := congrArg List.length clean
        simp only [List.cons_append, List.dropWhile_cons, white, ↓reduceIte,
          List.length_cons] at shorter
        have bound := (List.dropWhile_sublist (l := rest ++ tail) isWhiteSpace).length_le
        omega
    simp only [List.dropWhile_cons, plain, Bool.false_eq_true, ↓reduceIte]

theorem trimChars_idem (chars : List Char) : trimChars (trimChars chars) = trimChars chars := by
  unfold trimChars
  rw [dropWhile_rdropWhile_head (List.dropWhile_idempotent isWhiteSpace chars)]
  exact List.rdropWhile_idempotent isWhiteSpace _

@[simp] theorem trim_trim (text : String) : trim (trim text) = trim text := by
  simp only [trim, String.toList_ofList, trimChars_idem]

theorem trimmed_eq_some {text : Option String} {value : String}
    (found : trimmed text = some value) : trim value = value ∧ value ≠ "" := by
  simp only [trimmed, truthy_eq_some_iff, Option.map_eq_some_iff] at found
  obtain ⟨⟨raw, _, rfl⟩, nonempty⟩ := found
  exact ⟨trim_trim raw, nonempty⟩

theorem trimmed_of_clean {value : String} (clean : trim value = value) (nonempty : value ≠ "") :
    trimmed (some value) = some value := by
  simp [trimmed, clean, nonempty]

/-- UTF-16 code units, the order in which the host compares strings. -/
def utf16 (text : String) : List Nat :=
  text.toList.flatMap fun c =>
    if c.toNat < 0x10000 then [c.toNat]
    else [0xD800 + (c.toNat - 0x10000) / 0x400, 0xDC00 + (c.toNat - 0x10000) % 0x400]

/-- `Array.prototype.sort` without a comparator. -/
def sortByUtf16 (texts : List String) : List String :=
  texts.insertionSort fun left right => ¬ utf16 right < utf16 left

def foldAsciiCase (c : Char) : Char :=
  if 'A' ≤ c ∧ c ≤ 'Z' then Char.ofNat (c.toNat + 32) else c

def likeChars : List Char → List Char → Bool
  | [], text => text.isEmpty
  | p :: pattern, text =>
    if p = '%' then text.tails.any (likeChars pattern)
    else match text with
      | [] => false
      | c :: rest => (p = '_' || foldAsciiCase p = foldAsciiCase c) && likeChars pattern rest

/-- `text LIKE pattern`: `%` and `_` are wildcards, ASCII letters match in either case. -/
def like (pattern text : String) : Bool :=
  likeChars pattern.toList text.toList

/-- A number as it arrives off the wire. Fractions are not used by any caller. -/
inductive JsNumber where
  | finite (value : Int)
  | infinity
  | negInfinity
  | nan
deriving DecidableEq, Repr

namespace JsNumber

def isFinite : JsNumber → Bool
  | .finite _ => true
  | _ => false

/-- The host's `<`: every comparison with NaN is false. -/
def lt : JsNumber → JsNumber → Bool
  | .finite left, .finite right => left < right
  | .negInfinity, .finite _ | .negInfinity, .infinity | .finite _, .infinity => true
  | _, _ => false

/-- `Math.max`: NaN is contagious. -/
def max : JsNumber → JsNumber → JsNumber
  | .nan, _ | _, .nan => .nan
  | .infinity, _ | _, .infinity => .infinity
  | .negInfinity, other => other
  | other, .negInfinity => other
  | .finite left, .finite right => .finite (Max.max left right)

instance : Std.Commutative max where
  comm left right := by cases left <;> cases right <;> simp [max, Int.max_comm]

instance : Std.Associative max where
  assoc first second third := by
    cases first <;> cases second <;> cases third <;> simp [max, Int.max_assoc]

instance : Std.IdempotentOp max where
  idempotent number := by cases number <;> simp [max]

end JsNumber

/-- What the host supplies and the source cannot determine: a stream of UUIDs,
of which no two agree, and the collation of `localeCompare`. -/
class Host where
  randomUUID : Nat → String
  randomUUID_injective : Function.Injective randomUUID
  randomUUID_trim : ∀ index, trim (randomUUID index) = randomUUID index
  randomUUID_ne_empty : ∀ index, randomUUID index ≠ ""
  localeCompare : String → String → Int

theorem trimChars_replicate_u (count : Nat) :
    trimChars (List.replicate count 'u') = List.replicate count 'u' := by
  have front : (List.replicate count 'u').dropWhile isWhiteSpace = List.replicate count 'u' := by
    cases count with
    | zero => rfl
    | succ count =>
      rw [List.replicate_succ, List.dropWhile_cons]
      rfl
  unfold trimChars
  rw [front, List.rdropWhile, List.reverse_replicate, front, List.reverse_replicate]

namespace FixedRuns

/-- A host for runs on fixed inputs: the UUIDs `u`, `uu`, `uuu` and so on. -/
scoped instance unaryHost : Host where
  randomUUID index := String.ofList (List.replicate (index + 1) 'u')
  randomUUID_injective left right same := by
    have lengths := congrArg (fun text => text.toList.length) same
    simp only [String.toList_ofList, List.length_replicate] at lengths
    omega
  randomUUID_trim index := by
    simp only [trim, String.toList_ofList, trimChars_replicate_u]
  randomUUID_ne_empty index same := by
    have lengths := congrArg (fun text => text.toList.length) same
    simp at lengths
  localeCompare left right := if left = right then 0 else if left < right then -1 else 1

end FixedRuns

end ImCodes.Library
