import ImCodes.Library.Json
import ImCodes.Library.Text

/-!
# Forms of a JSON value

A value as the host language converts it to a string or a truth value, and with the
members of its objects in a fixed order.
-/

set_option autoImplicit false

namespace ImCodes.Library

/-- The error of a failed read or conversion. -/
structure TypeError where
deriving DecidableEq, Repr

namespace Json

/-- The truthiness of a value. -/
def truthy : Json → Bool
  | .null => false
  | .bool value => value
  | .num value => value ≠ 0
  | .str value => value ≠ ""
  | .arr _ | .obj _ => true

mutual

/-- `String(value)`, given how numbers are written. -/
def toText (numberText : Rat → String) : Json → String
  | .null => "null"
  | .bool value => if value then "true" else "false"
  | .num value => numberText value
  | .str value => value
  | .arr items => String.intercalate "," (itemTexts numberText items)
  | .obj _ => "[object Object]"

/-- The pieces `Array.prototype.join` puts together. -/
def itemTexts (numberText : Rat → String) : List Json → List String
  | [] => []
  | .null :: rest => "" :: itemTexts numberText rest
  | item :: rest => toText numberText item :: itemTexts numberText rest

end

def sortMembers (members : List (String × Json)) : List (String × Json) :=
  members.insertionSort fun left right => ¬ utf16 right.1 < utf16 left.1

mutual

/-- The value with the members of all its objects sorted by name. -/
def sortKeys : Json → Json
  | .arr items => .arr (sortItems items)
  | .obj members => .obj (sortMembers (sortValues members))
  | value => value

def sortItems : List Json → List Json
  | [] => []
  | item :: rest => sortKeys item :: sortItems rest

def sortValues : List (String × Json) → List (String × Json)
  | [] => []
  | (name, value) :: rest => (name, sortKeys value) :: sortValues rest

end

theorem sortKeys_eq_bool {value : Json} {truth : Bool} :
    sortKeys value = .bool truth ↔ value = .bool truth := by
  cases value <;> simp [sortKeys]

theorem find?_orderedInsert (name : String) (member : String × Json)
    (members : List (String × Json)) :
    (members.orderedInsert (fun left right => ¬ utf16 right.1 < utf16 left.1) member).find?
        (fun held => held.1 = name) =
      (member :: members).find? fun held => held.1 = name := by
  induction members with
  | nil => rfl
  | cons head rest ih =>
    rw [List.orderedInsert_cons]
    split
    · rfl
    · next before =>
        rw [List.find?_cons, ih]
        by_cases here : head.1 = name
        · have other : member.1 ≠ name := by
            intro same
            rw [not_not, here, same] at before
            exact lt_irrefl _ before
          simp [here, other]
        · by_cases found : member.1 = name <;> simp [here, found]

theorem find?_sortMembers (name : String) (members : List (String × Json)) :
    (sortMembers members).find? (fun held => held.1 = name) =
      members.find? fun held => held.1 = name := by
  induction members with
  | nil => rfl
  | cons member rest ih =>
    unfold sortMembers at ih ⊢
    rw [List.insertionSort_cons, find?_orderedInsert, List.find?_cons, List.find?_cons, ih]

/-- Sorting keeps which members there are. -/
theorem field?_sortKeys (name : String) (members : List (String × Json)) :
    (sortKeys (.obj members)).field? name =
      ((members.find? fun held => held.1 = name).map (·.2)).map sortKeys := by
  rw [sortKeys, field?, find?_sortMembers]
  induction members with
  | nil => rfl
  | cons member rest ih =>
    obtain ⟨held, value⟩ := member
    rw [sortValues, List.find?_cons, List.find?_cons]
    by_cases here : held = name
    · simp [here]
    · simpa [here] using ih

/-! ## Reading untyped values

A value of unknown shape as the host language reads it: a property of `null` cannot be read, and an
object with a member `toString` of its own has no text, because that member is no function. Every
read and every conversion that can fail does so with a type error.
-/

/-- A property that may be absent, `null` standing for absence as in `value ?? fallback`. -/
def present (value : Option Json) : Option Json := value.filter (· ≠ .null)

def truthy? (value : Option Json) : Option Json := value.filter truthy

mutual

/-- The value can be converted to a string. -/
def hasText : Json → Bool
  | .arr items => itemsHaveText items
  | .obj members => members.all fun member => member.1 ≠ "toString"
  | _ => true

def itemsHaveText : List Json → Bool
  | [] => true
  | item :: rest => hasText item && itemsHaveText rest

end

/-- `String(value)`. -/
def convert (numberText : Rat → String) (value : Json) : Except TypeError String :=
  if value.hasText then .ok (value.toText numberText) else .error ⟨⟩

end Json

end ImCodes.Library
