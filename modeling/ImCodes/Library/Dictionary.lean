import ImCodes.Library.Table

/-!
# Dictionaries

A dictionary is a keyed table whose rows are a key beside its value, as the maps of the
standard libraries are. A key is put or erased, and a pass over the entries visits them in
their storage order.
-/

set_option autoImplicit false

namespace ImCodes.Library

abbrev Dictionary (Key Value : Type) := Table (Key × Value) Key Prod.fst

namespace Dictionary

variable {Key Value : Type} [DecidableEq Key]

def get? (entries : Dictionary Key Value) (key : Key) : Option Value :=
  (entries.lookup key).map Prod.snd

def put (entries : Dictionary Key Value) (key : Key) (value : Value) : Dictionary Key Value :=
  entries.upsert (key, value)

def erase (entries : Dictionary Key Value) (key : Key) : Dictionary Key Value :=
  entries.deleteWhere fun entry => decide (entry.1 = key)

def keys (entries : Dictionary Key Value) : List Key :=
  entries.rows.map Prod.fst

theorem get?_eq_some_iff {entries : Dictionary Key Value} {key : Key} {value : Value} :
    entries.get? key = some value ↔ (key, value) ∈ entries := by
  unfold get?
  constructor
  · intro found
    obtain ⟨⟨other, stored⟩, isEntry, same⟩ := Option.map_eq_some_iff.mp found
    obtain ⟨member, isKey⟩ := Table.lookup_eq_some_iff.mp isEntry
    cases isKey
    cases same
    exact member
  · intro member
    rw [Table.lookup_eq_some_iff.mpr ⟨member, rfl⟩]
    rfl

@[simp] theorem get?_empty {key : Key} : get? (Table.empty : Dictionary Key Value) key = none := rfl

@[simp] theorem get?_put {entries : Dictionary Key Value} {key other : Key} {value : Value} :
    (entries.put key value).get? other = if key = other then some value else entries.get? other := by
  unfold get? put
  rw [Table.lookup_upsert]
  split <;> rfl

@[simp] theorem get?_erase {entries : Dictionary Key Value} {key other : Key} :
    (entries.erase key).get? other = if other = key then none else entries.get? other := by
  unfold get? erase
  rw [Table.lookup_deleteWhere]
  cases found : entries.lookup other with
  | none => simp
  | some entry =>
    obtain ⟨stored, value⟩ := entry
    have isOther : stored = other := (Table.lookup_eq_some_iff.mp found).2
    subst isOther
    by_cases same : stored = key
    · simp [same]
    · simp [same]

/-- A key that is new comes last. -/
theorem rows_put_new {entries : Dictionary Key Value} {key : Key} {value : Value}
    (isNew : entries.get? key = none) :
    (entries.put key value).rows = entries.rows ++ [(key, value)] := by
  cases accepted : entries.insert (key, value) with
  | none =>
    obtain ⟨⟨other, stored⟩, member, same⟩ := Table.insert_eq_none_iff.mp accepted
    have found : entries.get? key = some stored := get?_eq_some_iff.mpr (by
      cases same
      exact member)
    rw [isNew] at found
    cases found
  | some inserted =>
    simp only [put, Table.upsert, accepted]
    exact (Table.insert_eq_some accepted).1

theorem length_put_le (entries : Dictionary Key Value) (key : Key) (value : Value) :
    (entries.put key value).rows.length ≤ entries.rows.length + 1 := by
  unfold put Table.upsert
  split
  · next inserted accepted =>
      rw [(Table.insert_eq_some accepted).1, List.length_append]
      exact Nat.le_refl _
  · rw [List.length_map]
    exact Nat.le_succ _

/-- What is erased, and the rest. -/
theorem rows_erase_perm {entries : Dictionary Key Value} {key : Key} {value : Value}
    (found : entries.get? key = some value) :
    entries.rows.Perm ((key, value) :: (entries.erase key).rows) := by
  have member : (key, value) ∈ entries.rows := get?_eq_some_iff.mp found
  have distinct := entries.unique
  change entries.rows.Perm ((key, value) :: entries.rows.filter fun entry =>
    !decide (entry.1 = key))
  generalize entries.rows = rows at member distinct
  induction rows with
  | nil => cases member
  | cons entry rest ih =>
    obtain ⟨fresh, later⟩ := List.nodup_cons.mp distinct
    by_cases same : entry.1 = key
    · have isEntry : (key, value) = entry := by
        rcases List.mem_cons.mp member with isEntry | isLater
        · exact isEntry
        · exact absurd (List.mem_map_of_mem isLater) (same ▸ fresh)
      subst isEntry
      rw [List.filter_cons_of_neg (by simp)]
      refine List.Perm.of_eq (congrArg _ (List.filter_eq_self.mpr fun other isOther => ?_).symm)
      have listed : other.1 ∈ rest.map Prod.fst := List.mem_map_of_mem isOther
      have differs : other.1 ≠ key := fun isKey => fresh (isKey ▸ listed)
      simpa using differs
    · have isLater : (key, value) ∈ rest := by
        rcases List.mem_cons.mp member with isEntry | isLater
        · exact absurd (congrArg Prod.fst isEntry).symm same
        · exact isLater
      rw [List.filter_cons_of_pos (by simpa using same)]
      exact ((ih isLater later).cons entry).trans (List.Perm.swap _ _ _)

theorem mem_keys_iff {entries : Dictionary Key Value} {key : Key} :
    key ∈ entries.keys ↔ ∃ value, entries.get? key = some value := by
  simp only [get?_eq_some_iff, keys, List.mem_map, Prod.exists, exists_and_right, exists_eq_right]
  rfl

/-- A pass over distinct entries whose every round touches its own key alone updates each of
these keys once. -/
private theorem get?_foldl {Item : Type}
    {round : Dictionary Key Value → Key × Item → Dictionary Key Value}
    {update : Key → Item → Option Value → Option Value}
    (own : ∀ entries key item other, (round entries (key, item)).get? other =
      if other = key then update key item (entries.get? key) else entries.get? other)
    {items : List (Key × Item)} (distinct : (items.map Prod.fst).Nodup)
    (entries : Dictionary Key Value) (key : Key) :
    (items.foldl round entries).get? key =
      match items.find? fun entry => decide (entry.1 = key) with
      | some entry => update key entry.2 (entries.get? key)
      | none => entries.get? key := by
  induction items generalizing entries with
  | nil => rfl
  | cons first rest ih =>
    obtain ⟨visited, item⟩ := first
    obtain ⟨fresh, later⟩ := List.nodup_cons.mp distinct
    rw [List.foldl_cons, ih later]
    by_cases same : visited = key
    · subst same
      have notLater : rest.find? (fun entry => decide (entry.1 = visited)) = none := by
        rw [List.find?_eq_none]
        intro entry isLater isVisited
        exact fresh (List.mem_map.mpr ⟨entry, isLater, of_decide_eq_true isVisited⟩)
      simp [notLater, own]
    · have others : (round entries (visited, item)).get? key = entries.get? key := by
        rw [own, if_neg (Ne.symm same)]
      simp [same, others]

/-- A pass over the entries of a dictionary whose every round touches its own key alone updates
each of its keys once. -/
theorem get?_foldl_rows {Item : Type}
    {round : Dictionary Key Value → Key × Item → Dictionary Key Value}
    {update : Key → Item → Option Value → Option Value}
    (own : ∀ entries key item other, (round entries (key, item)).get? other =
      if other = key then update key item (entries.get? key) else entries.get? other)
    (source : Dictionary Key Item) (entries : Dictionary Key Value) (key : Key) :
    (source.rows.foldl round entries).get? key =
      match source.get? key with
      | some item => update key item (entries.get? key)
      | none => entries.get? key := by
  rw [get?_foldl own source.unique]
  unfold get? Table.lookup
  cases source.rows.find? fun entry => decide (entry.1 = key) <;> rfl

omit [DecidableEq Key] in
theorem keys_nodup (entries : Dictionary Key Value) : entries.keys.Nodup :=
  entries.unique

end Dictionary

end ImCodes.Library
