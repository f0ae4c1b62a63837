import Mathlib.Data.Prod.Lex
import ImCodes.Library.Dictionary
import ImCodes.Library.Numerals
import ImCodes.Library.Sorting

/-!
# Objects as maps

An object of the language holds its own properties in the order in which they were made, but it
lists the ones whose names are array indices first, by their numbers. An assignment to
`__proto__` makes no property at all.
-/

set_option autoImplicit false

namespace ImCodes.Library

/-- The number a property name stands for, where it is written as an array index is. -/
def arrayIndex? (name : String) : Option Nat :=
  let digits := name.toList
  if digits ≠ [] ∧ digits.all Char.isDigit = true ∧ (digits = ['0'] ∨ digits.head? ≠ some '0') ∧
      digitsValue digits < 2 ^ 32 - 1 then some (digitsValue digits)
  else none

def isArrayIndex (name : String) : Bool :=
  (arrayIndex? name).isSome

def prototypeName : String := "__proto__"

/-- The names under which every object has something, whatever its own properties are. -/
def inheritedNames : List String :=
  ["constructor", "__defineGetter__", "__defineSetter__", "hasOwnProperty", "__lookupGetter__",
    "__lookupSetter__", "isPrototypeOf", "propertyIsEnumerable", "toString", "valueOf",
    prototypeName, "toLocaleString"]

/-- The own properties of an object, in the order in which they were made. -/
structure PropertyObject (Value : Type) where
  made : Dictionary String Value

namespace PropertyObject

variable {Value : Type}

def empty : PropertyObject Value := ⟨Table.empty⟩

/-- `object[name] = value`, for a value that is an object. -/
def set (object : PropertyObject Value) (name : String) (value : Value) : PropertyObject Value :=
  if name = prototypeName then object else ⟨object.made.put name value⟩

def get? (object : PropertyObject Value) (name : String) : Option Value :=
  object.made.get? name

def hasOwn (object : PropertyObject Value) (name : String) : Bool :=
  (object.get? name).isSome

def indexRank (entry : String × Value) : Lex (Nat × String) :=
  toLex ((arrayIndex? entry.1).getD 0, entry.1)

/-- The entries of an object as they are listed, from the order in which they were made. -/
def inListingOrder (made : List (String × Value)) : List (String × Value) :=
  (made.filter fun entry => isArrayIndex entry.1).insertionSort
      (fun left right => indexRank left ≤ indexRank right) ++
    made.filter fun entry => !isArrayIndex entry.1

def entries (object : PropertyObject Value) : List (String × Value) :=
  inListingOrder object.made.rows

def assign (object : PropertyObject Value) (assigned : List (String × Value)) :
    PropertyObject Value :=
  assigned.foldl (fun object entry => object.set entry.1 entry.2) object

@[simp] theorem get?_empty {name : String} : (empty : PropertyObject Value).get? name = none := rfl

/-! ## Assigning distinct properties -/

theorem set_rows {object : PropertyObject Value} {name : String} {value : Value}
    (named : name ≠ prototypeName) (fresh : name ∉ object.made.keys) :
    (object.set name value).made.rows = object.made.rows ++ [(name, value)] := by
  have isNew : ∀ old, old ∈ object.made → old.1 ≠ name := by
    intro old member same
    exact fresh (List.mem_map.mpr ⟨old, member, same⟩)
  cases accepted : object.made.insert (name, value) with
  | none =>
    obtain ⟨old, member, same⟩ := Table.insert_eq_none_iff.mp accepted
    exact absurd same (isNew old member)
  | some inserted =>
    simp only [set, named, if_false, Dictionary.put, Table.upsert, accepted]
    exact (Table.insert_eq_some accepted).1

theorem assign_rows {object : PropertyObject Value} {assigned : List (String × Value)}
    (named : ∀ entry ∈ assigned, entry.1 ≠ prototypeName)
    (distinct : (object.made.keys ++ assigned.map Prod.fst).Nodup) :
    (object.assign assigned).made.rows = object.made.rows ++ assigned := by
  induction assigned generalizing object with
  | nil => exact (List.append_nil _).symm
  | cons entry rest ih =>
    have fresh : entry.1 ∉ object.made.keys := by
      intro member
      exact (List.nodup_append.mp distinct).2.2 entry.1 member entry.1 (by simp) rfl
    have rows := @set_rows _ object entry.1 entry.2 (named entry (by simp)) fresh
    have keys : (object.set entry.1 entry.2).made.keys = object.made.keys ++ [entry.1] := by
      simp only [Dictionary.keys, rows, List.map_append, List.map_cons, List.map_nil]
    change ((object.set entry.1 entry.2).assign rest).made.rows = _
    rw [ih (fun other member => named other (by simp [member]))
      (by rw [keys]; simpa using distinct), rows]
    simp

theorem assign_empty_rows {assigned : List (String × Value)}
    (named : ∀ entry ∈ assigned, entry.1 ≠ prototypeName)
    (distinct : (assigned.map Prod.fst).Nodup) :
    (empty.assign assigned).made.rows = assigned := by
  rw [assign_rows named (by simpa [empty, Dictionary.keys, Table.empty] using distinct)]
  simp [empty, Table.empty]

theorem assign_filter (object : PropertyObject Value) (assigned : List (String × Value)) :
    object.assign (assigned.filter fun entry => entry.1 ≠ prototypeName) =
      object.assign assigned := by
  unfold assign
  induction assigned generalizing object with
  | nil => rfl
  | cons entry rest ih =>
    by_cases named : entry.1 = prototypeName
    · rw [List.filter_cons_of_neg (by simpa using named), List.foldl_cons, ih]
      simp only [set, if_pos named]
    · rw [List.filter_cons_of_pos (by simpa using named), List.foldl_cons, List.foldl_cons, ih]

/-! ## The listing order -/

theorem inListingOrder_perm (made : List (String × Value)) :
    (inListingOrder made).Perm made := by
  unfold inListingOrder
  refine ((List.perm_insertionSort _ _).append_right _).trans ?_
  exact List.filter_append_perm (fun entry => isArrayIndex entry.1) made

theorem entries_assign_perm {assigned : List (String × Value)}
    (distinct : (assigned.map Prod.fst).Nodup) :
    (empty.assign assigned).entries.Perm
      (assigned.filter fun entry => entry.1 ≠ prototypeName) := by
  rw [← assign_filter]
  unfold entries
  rw [assign_empty_rows]
  · exact inListingOrder_perm _
  · intro entry listed
    simpa using (List.mem_filter.mp listed).2
  · exact distinct.sublist (List.filter_sublist.map Prod.fst)

end PropertyObject

end ImCodes.Library
