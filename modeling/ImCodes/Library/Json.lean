import Mathlib.Data.List.Nodup

/-!
# JSON values

Values as `JSON.parse` returns them, objects keeping the order of their members and
numbers being the finite ones.
A text column holding JSON is represented by what parsing it gives.
-/

set_option autoImplicit false

namespace ImCodes.Library

inductive Json where
  | null
  | bool (value : Bool)
  | num (value : Rat)
  | str (value : String)
  | arr (items : List Json)
  | obj (members : List (String × Json))
deriving Repr

namespace Json

mutual

def beq : Json → Json → Bool
  | .null, .null => true
  | .bool left, .bool right => left = right
  | .num left, .num right => left = right
  | .str left, .str right => left = right
  | .arr left, .arr right => beqItems left right
  | .obj left, .obj right => beqMembers left right
  | _, _ => false

def beqItems : List Json → List Json → Bool
  | [], [] => true
  | left :: lefts, right :: rights => beq left right && beqItems lefts rights
  | _, _ => false

def beqMembers : List (String × Json) → List (String × Json) → Bool
  | [], [] => true
  | (leftKey, left) :: lefts, (rightKey, right) :: rights =>
    leftKey = rightKey && beq left right && beqMembers lefts rights
  | _, _ => false

end

mutual

theorem beq_iff (left right : Json) : beq left right = true ↔ left = right := by
  cases left with
  | null => cases right <;> simp [beq]
  | bool value => cases right <;> simp [beq]
  | num value => cases right <;> simp [beq]
  | str value => cases right <;> simp [beq]
  | arr items => cases right <;> simp [beq, beqItems_iff items]
  | obj members => cases right <;> simp [beq, beqMembers_iff members]

theorem beqItems_iff (left right : List Json) : beqItems left right = true ↔ left = right := by
  cases left with
  | nil => cases right <;> simp [beqItems]
  | cons head rest => cases right <;> simp [beqItems, beq_iff head, beqItems_iff rest]

theorem beqMembers_iff (left right : List (String × Json)) :
    beqMembers left right = true ↔ left = right := by
  cases left with
  | nil => cases right <;> simp [beqMembers]
  | cons head rest =>
    obtain ⟨name, value⟩ := head
    cases right with
    | nil => simp [beqMembers]
    | cons other others =>
      obtain ⟨otherName, otherValue⟩ := other
      simp [beqMembers, beq_iff value, beqMembers_iff rest]

end

instance : DecidableEq Json := fun left right =>
  decidable_of_iff (beq left right = true) (beq_iff left right)

/-- `value.name`, absent on anything that is not an object. -/
def field? (name : String) : Json → Option Json
  | .obj members => (members.find? fun member => member.1 = name).map (·.2)
  | _ => none

def isObject : Json → Bool
  | .obj _ => true
  | _ => false

def asString? : Json → Option String
  | .str value => some value
  | _ => none

def eraseMember (name : String) (members : List (String × Json)) : List (String × Json) :=
  members.filter fun member => member.1 ≠ name

/-- Assignment to a property: an existing one keeps its place. -/
def setMember (name : String) (value : Json) :
    List (String × Json) → List (String × Json)
  | [] => [(name, value)]
  | member :: rest =>
    if member.1 = name then (name, value) :: rest
    else member :: setMember name value rest

mutual

/-- `isDeepStrictEqual`: arrays in order, objects member by member in any order. -/
def deepStrictEqual : Json → Json → Bool
  | .arr left, .arr right => deepEqualItems left right
  | .obj left, .obj right =>
    left.length = right.length && deepEqualMembers left right
  | left, right => left = right

def deepEqualItems : List Json → List Json → Bool
  | [], [] => true
  | left :: lefts, right :: rights => deepStrictEqual left right && deepEqualItems lefts rights
  | _, _ => false

def deepEqualMembers : List (String × Json) → List (String × Json) → Bool
  | [], _ => true
  | (name, value) :: rest, others =>
    (match others.find? fun member => member.1 = name with
      | some (_, other) => deepStrictEqual value other
      | none => false) && deepEqualMembers rest others

end

end Json

/-- A text column: what `JSON.parse` makes of it, or the text it throws on. -/
inductive JsonText where
  | malformed (text : String)
  | encoded (value : Json)
deriving Repr, DecidableEq

namespace JsonText

/-- `JSON.parse` in a `try`. -/
def parse? : JsonText → Option Json
  | .malformed _ => none
  | .encoded value => some value

def nonEmpty? (text : JsonText) : Option JsonText :=
  if text = .malformed "" then none else some text

theorem nonEmpty?_eq_some {text shown : JsonText} (found : text.nonEmpty? = some shown) :
    text = shown := by
  unfold nonEmpty? at found
  split at found
  · cases found
  · exact Option.some.inj found

/-- `CASE WHEN json_valid(text) THEN json_extract(text, '$.name') END`, as a string. -/
def extractString? (name : String) (text : JsonText) : Option String :=
  text.parse?.bind fun value => (value.field? name).bind Json.asString?

end JsonText

end ImCodes.Library
