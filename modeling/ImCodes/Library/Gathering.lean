import ImCodes.Library.Dictionary
import Mathlib.Data.List.Basic
import Mathlib.Data.List.Induction

/-!
# Combining items in any order and any grouping

A grouping says in which order and with which brackets a binary operation is applied
to a collection of items.
-/

set_option autoImplicit false

namespace ImCodes.Library

inductive Grouping (Item : Type) where
  | single (item : Item)
  | join (left right : Grouping Item)

namespace Grouping

variable {Item : Type}

def items : Grouping Item → List Item
  | .single item => [item]
  | .join left right => left.items ++ right.items

def result (combine : Item → Item → Item) : Grouping Item → Item
  | .single item => item
  | .join left right => combine (left.result combine) (right.result combine)

def extend (grouping : Grouping Item) (rest : List Item) : Grouping Item :=
  rest.foldl (fun state item => .join state (.single item)) grouping

theorem items_extend (grouping : Grouping Item) (rest : List Item) :
    (grouping.extend rest).items = grouping.items ++ rest := by
  induction rest generalizing grouping with
  | nil => exact (List.append_nil _).symm
  | cons item rest ih =>
    refine (ih (.join grouping (.single item))).trans ?_
    simp [items]

theorem result_extend (combine : Item → Item → Item) (grouping : Grouping Item)
    (rest : List Item) :
    (grouping.extend rest).result combine = rest.foldl combine (grouping.result combine) := by
  induction rest generalizing grouping with
  | nil => rfl
  | cons item rest ih => exact ih (.join grouping (.single item))

def OrderIndependent (combine : Item → Item → Item) (same : Item → Item → Prop)
    (collection : List Item) : Prop :=
  ∀ left right : Grouping Item, left.items.Perm collection → right.items.Perm collection →
    same (left.result combine) (right.result combine)

end Grouping

/-! ## Gathering items by key

Items that have a key in common are folded into one, in the order in which they come. What a key
ends with is a fold of its own items only.
-/

namespace Dictionary

variable {Key Item : Type} [DecidableEq Key]

/-- One more item: the first of its key is stored as it is. -/
def gatherOne (key : Item → Key) (merge : Item → Item → Item) (entries : Dictionary Key Item)
    (item : Item) : Dictionary Key Item :=
  match entries.get? (key item) with
  | none => entries.put (key item) item
  | some previous => entries.put (key item) (merge previous item)

def gather (key : Item → Key) (merge : Item → Item → Item) (items : List Item) :
    Dictionary Key Item :=
  items.foldl (gatherOne key merge) Table.empty

variable {key : Item → Key} {merge : Item → Item → Item}

private theorem get?_gatherOne (entries : Dictionary Key Item) (item : Item) (target : Key) :
    (gatherOne key merge entries item).get? target =
      if key item = target then
        some ((entries.get? target).elim item fun previous => merge previous item)
      else entries.get? target := by
  unfold gatherOne
  split
  · next none =>
      rw [get?_put]
      split
      · next same => simp [same ▸ none]
      · rfl
  · next previous found =>
      rw [get?_put]
      split
      · next same => simp [same ▸ found]
      · rfl

/-- A key ends with its items folded. -/
theorem get?_gather (items : List Item) (target : Key) :
    (gather key merge items).get? target =
      match items.filter fun item => key item = target with
      | [] => none
      | first :: rest => some (rest.foldl merge first) := by
  have general : ∀ entries : Dictionary Key Item,
      (items.foldl (gatherOne key merge) entries).get? target =
        match entries.get? target, items.filter fun item => key item = target with
        | none, [] => none
        | none, first :: rest => some (rest.foldl merge first)
        | some previous, rest => some (rest.foldl merge previous) := by
    induction items with
    | nil =>
      intro entries
      cases held : entries.get? target <;> simp [held]
    | cons item rest ih =>
      intro entries
      rw [List.foldl_cons, ih, get?_gatherOne]
      by_cases same : key item = target
      · cases held : entries.get? target <;> simp [same]
      · cases held : entries.get? target <;> simp [same]
  rw [gather, general]
  simp only [get?_empty]
  cases items.filter fun item => key item = target <;> rfl

/-- Every item stored has the key it is stored under, if merging keeps the key. -/
theorem key_of_get?_gather (keeps : ∀ previous item, key item = key previous →
    key (merge previous item) = key previous) {items : List Item} {target : Key} {item : Item}
    (found : (gather key merge items).get? target = some item) : key item = target := by
  rw [get?_gather] at found
  cases own : items.filter fun item => key item = target with
  | nil => simp [own] at found
  | cons first rest =>
    simp only [own, Option.some.injEq] at found
    subst found
    have allKeyed : ∀ other ∈ first :: rest, key other = target := by
      intro other member
      rw [← own] at member
      simpa using (List.mem_filter.mp member).2
    obtain ⟨firstKeyed, restKeyed⟩ := List.forall_mem_cons.mp allKeyed
    clear own allKeyed
    induction rest generalizing first with
    | nil => exact firstKeyed
    | cons next rest ih =>
      obtain ⟨nextKeyed, laterKeyed⟩ := List.forall_mem_cons.mp restKeyed
      have mergedKeyed : key (merge first next) = target :=
        (keeps first next (nextKeyed.trans firstKeyed.symm)).trans firstKeyed
      exact ih _ mergedKeyed laterKeyed

/-- Items of which no two have one key stay what they are, in their order. -/
theorem rows_gather_distinct {items : List Item} (distinct : (items.map key).Nodup) :
    (gather key merge items).rows = items.map fun item => (key item, item) := by
  induction items using List.reverseRecOn with
  | nil => rfl
  | append_singleton items item ih =>
    rw [List.map_append, List.nodup_append] at distinct
    obtain ⟨earlier, -, apart⟩ := distinct
    have fresh : (gather key merge items).get? (key item) = none := by
      rw [get?_gather]
      have noOther : items.filter (fun other => key other = key item) = [] := by
        rw [List.filter_eq_nil_iff]
        intro other member same
        exact apart (key other) (List.mem_map_of_mem member) (key item) (by simp) (by simpa using same)
      rw [noOther]
    have last : gather key merge (items ++ [item]) =
        gatherOne key merge (gather key merge items) item := by
      simp [gather, List.foldl_append]
    rw [last, gatherOne, fresh]
    simp only [rows_put_new fresh, ih earlier, List.map_append, List.map_cons, List.map_nil]

end Dictionary

end ImCodes.Library
