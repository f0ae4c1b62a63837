import Mathlib.Data.List.Nodup

/-!
# Keyed tables

A table holds its rows in storage order together with the proof that no two of
them share a primary key. The statements of a relational store (`DELETE`,
`UPDATE`, the three forms of `INSERT`) are operations on it, and each comes with
its membership law. Nothing here depends on what the rows mean.
-/

set_option autoImplicit false

namespace ImCodes.Library

structure Table (Row Key : Type) (key : Row → Key) where
  rows : List Row
  unique : (rows.map key).Nodup

namespace Table

variable {Row Key : Type} {key : Row → Key}

def empty : Table Row Key key := ⟨[], List.nodup_nil⟩

instance : Membership Row (Table Row Key key) := ⟨fun table row => row ∈ table.rows⟩

instance [DecidableEq Row] (row : Row) (table : Table Row Key key) : Decidable (row ∈ table) :=
  inferInstanceAs (Decidable (row ∈ table.rows))

/-- `SELECT ... WHERE`, in storage order. -/
def select (table : Table Row Key key) (p : Row → Bool) : List Row :=
  table.rows.filter p

/-- `SELECT 1 ... WHERE ... LIMIT 1`. -/
def holds (table : Table Row Key key) (p : Row → Bool) : Bool :=
  table.rows.any p

/-- The `changes` count of a statement whose `WHERE` clause is `p`. -/
def changes (table : Table Row Key key) (p : Row → Bool) : Nat :=
  table.rows.countP p

def deleteWhere (table : Table Row Key key) (p : Row → Bool) : Table Row Key key where
  rows := table.rows.filter fun row => !p row
  unique := (List.filter_sublist.map key).nodup table.unique

def updateWhere (table : Table Row Key key) (p : Row → Bool) (update : Row → Row)
    (keeps : ∀ row, key (update row) = key row) : Table Row Key key where
  rows := table.rows.map fun row => if p row then update row else row
  unique := by
    have sameKeys : (table.rows.map fun row => if p row then update row else row).map key =
        table.rows.map key := by
      rw [List.map_map]
      apply List.map_congr_left
      intro row _
      simp only [Function.comp_apply]
      split
      · exact keeps row
      · rfl
    rw [sameKeys]
    exact table.unique

theorem ext_rows {left right : Table Row Key key} (same : left.rows = right.rows) :
    left = right := by
  cases left
  cases right
  cases same
  rfl

theorem eq_of_key {table : Table Row Key key} {left right : Row}
    (leftMember : left ∈ table) (rightMember : right ∈ table)
    (same : key left = key right) : left = right :=
  List.inj_on_of_nodup_map table.unique leftMember rightMember same

@[simp] theorem not_mem_empty {row : Row} : ¬ row ∈ (empty : Table Row Key key) :=
  List.not_mem_nil

theorem mem_select {table : Table Row Key key} {p : Row → Bool} {row : Row} :
    row ∈ table.select p ↔ row ∈ table ∧ p row = true :=
  List.mem_filter

theorem select_pairwise (table : Table Row Key key) (p : Row → Bool) :
    (table.select p).Pairwise fun left right => key left ≠ key right :=
  (List.pairwise_map.mp table.unique).sublist List.filter_sublist

theorem holds_iff {table : Table Row Key key} {p : Row → Bool} :
    table.holds p = true ↔ ∃ row, row ∈ table ∧ p row = true :=
  List.any_eq_true

theorem holds_eq_false_iff {table : Table Row Key key} {p : Row → Bool} :
    table.holds p = false ↔ ∀ row, row ∈ table → p row = false := by
  simp only [holds, List.any_eq_false, Bool.not_eq_true]
  rfl

theorem changes_eq_zero_iff {table : Table Row Key key} {p : Row → Bool} :
    table.changes p = 0 ↔ ∀ row, row ∈ table → p row = false := by
  simp only [changes, List.countP_eq_zero, Bool.not_eq_true]
  rfl

@[simp] theorem mem_deleteWhere {table : Table Row Key key} {p : Row → Bool} {row : Row} :
    row ∈ table.deleteWhere p ↔ row ∈ table ∧ p row = false := by
  change row ∈ table.rows.filter _ ↔ row ∈ table.rows ∧ _
  simp only [List.mem_filter, Bool.not_eq_true']

@[simp] theorem mem_updateWhere {table : Table Row Key key} {p : Row → Bool}
    {update : Row → Row} {keeps : ∀ row, key (update row) = key row} {row : Row} :
    row ∈ table.updateWhere p update keeps ↔
      ∃ old, old ∈ table ∧ (if p old then update old else old) = row :=
  List.mem_map

theorem updateWhere_eq_self {table : Table Row Key key} {p : Row → Bool}
    {update : Row → Row} {keeps : ∀ row, key (update row) = key row}
    (untouched : ∀ row, row ∈ table → p row = false) :
    table.updateWhere p update keeps = table := by
  apply ext_rows
  change table.rows.map _ = table.rows
  conv_rhs => rw [← List.map_id table.rows]
  apply List.map_congr_left
  intro row member
  rw [untouched row member]
  rfl

section Keyed

variable [DecidableEq Key]

/-- `SELECT ... WHERE <primary key> = ?`. -/
def lookup (table : Table Row Key key) (target : Key) : Option Row :=
  table.rows.find? fun row => decide (key row = target)

/-- `INSERT`, failing on a primary-key conflict. -/
def insert (table : Table Row Key key) (row : Row) : Option (Table Row Key key) :=
  if fresh : key row ∈ table.rows.map key then none
  else some {
    rows := table.rows ++ [row]
    unique := by
      rw [List.map_append]
      refine List.nodup_append.mpr ⟨table.unique, List.nodup_singleton _, ?_⟩
      intro before member after singleton same
      have : after = key row := List.mem_singleton.mp singleton
      exact fresh (this ▸ same ▸ member) }

/-- `INSERT OR IGNORE`. -/
def insertOrIgnore (table : Table Row Key key) (row : Row) : Table Row Key key :=
  (table.insert row).getD table

/-- `INSERT OR REPLACE`: the conflicting row goes, the new one is stored last. -/
def insertOrReplace (table : Table Row Key key) (row : Row) : Table Row Key key where
  rows := (table.rows.filter fun old => !decide (key old = key row)) ++ [row]
  unique := by
    rw [List.map_append]
    refine List.nodup_append.mpr
      ⟨(List.filter_sublist.map key).nodup table.unique, List.nodup_singleton _, ?_⟩
    intro before member after singleton same
    obtain ⟨old, kept, rfl⟩ := List.mem_map.mp member
    have isNew : after = key row := List.mem_singleton.mp singleton
    have different := (List.mem_filter.mp kept).2
    simp only [same, isNew, decide_true, Bool.not_true, Bool.false_eq_true] at different

/-- `INSERT ... ON CONFLICT DO UPDATE` of every column: the row takes the place of
the one it conflicts with. -/
def upsert (table : Table Row Key key) (row : Row) : Table Row Key key :=
  match table.insert row with
  | some inserted => inserted
  | none => {
      rows := table.rows.map fun old => if key old = key row then row else old
      unique := by
        have sameKeys : (table.rows.map fun old => if key old = key row then row else old).map key =
            table.rows.map key := by
          rw [List.map_map]
          apply List.map_congr_left
          intro old _
          simp only [Function.comp_apply]
          split
          · next same => exact same.symm
          · rfl
        rw [sameKeys]
        exact table.unique }

theorem lookup_eq_some_iff {table : Table Row Key key} {target : Key} {row : Row} :
    table.lookup target = some row ↔ row ∈ table ∧ key row = target := by
  constructor
  · intro found
    exact ⟨List.mem_of_find?_eq_some found, by simpa using List.find?_some found⟩
  · rintro ⟨member, rfl⟩
    cases found : table.lookup (key row) with
    | none =>
      have absent := List.find?_eq_none.mp found row member
      simp at absent
    | some other =>
      have otherMember : other ∈ table := List.mem_of_find?_eq_some found
      have sameKey : key other = key row := by simpa using List.find?_some found
      rw [eq_of_key otherMember member sameKey]

theorem lookup_eq_none_iff {table : Table Row Key key} {target : Key} :
    table.lookup target = none ↔ ∀ row, row ∈ table → key row ≠ target := by
  simp only [lookup, List.find?_eq_none, decide_eq_true_eq]
  rfl

theorem lookup_of_mem {table : Table Row Key key} {row : Row} (member : row ∈ table) :
    table.lookup (key row) = some row :=
  lookup_eq_some_iff.mpr ⟨member, rfl⟩

theorem insert_eq_none_iff {table : Table Row Key key} {row : Row} :
    table.insert row = none ↔ ∃ old, old ∈ table ∧ key old = key row := by
  unfold insert
  split
  · next conflict =>
      obtain ⟨old, member, same⟩ := List.mem_map.mp conflict
      exact ⟨fun _ => ⟨old, member, same⟩, fun _ => rfl⟩
  · next fresh =>
      constructor
      · intro impossible
        cases impossible
      · rintro ⟨old, member, same⟩
        exact False.elim (fresh (same ▸ List.mem_map_of_mem member))

theorem insert_eq_some {table inserted : Table Row Key key} {row : Row}
    (accepted : table.insert row = some inserted) :
    inserted.rows = table.rows ++ [row] ∧ ∀ old, old ∈ table → key old ≠ key row := by
  unfold insert at accepted
  split at accepted
  · cases accepted
  · next fresh =>
      cases accepted
      refine ⟨rfl, ?_⟩
      intro old member same
      exact fresh (same ▸ List.mem_map_of_mem member)

theorem mem_insert {table inserted : Table Row Key key} {row other : Row}
    (accepted : table.insert row = some inserted) :
    other ∈ inserted ↔ other ∈ table ∨ other = row := by
  change other ∈ inserted.rows ↔ other ∈ table.rows ∨ other = row
  rw [(insert_eq_some accepted).1, List.mem_append, List.mem_singleton]

theorem mem_insertOrIgnore_of_mem {table : Table Row Key key} {row other : Row}
    (member : other ∈ table) : other ∈ table.insertOrIgnore row := by
  unfold insertOrIgnore
  cases accepted : table.insert row with
  | none => exact member
  | some inserted => exact (mem_insert accepted).mpr (.inl member)

theorem mem_insertOrIgnore {table : Table Row Key key} {row other : Row} :
    other ∈ table.insertOrIgnore row ↔
      other ∈ table ∨ (other = row ∧ ∀ old, old ∈ table → key old ≠ key row) := by
  unfold insertOrIgnore
  cases accepted : table.insert row with
  | none =>
    obtain ⟨old, member, same⟩ := insert_eq_none_iff.mp accepted
    constructor
    · exact Or.inl
    · rintro (kept | ⟨_, fresh⟩)
      · exact kept
      · exact False.elim (fresh old member same)
  | some inserted =>
    simp only [Option.getD_some, mem_insert accepted]
    constructor
    · rintro (kept | isNew)
      · exact .inl kept
      · exact .inr ⟨isNew, fun _ member => (insert_eq_some accepted).2 _ member⟩
    · rintro (kept | ⟨isNew, _⟩)
      · exact .inl kept
      · exact .inr isNew

@[simp] theorem mem_insertOrReplace {table : Table Row Key key} {row other : Row} :
    other ∈ table.insertOrReplace row ↔ (other ∈ table ∧ key other ≠ key row) ∨ other = row := by
  change other ∈ (table.rows.filter _) ++ [row] ↔ (other ∈ table.rows ∧ _) ∨ _
  simp only [List.mem_append, List.mem_filter, List.mem_singleton, Bool.not_eq_true',
    decide_eq_false_iff_not, ne_eq]

@[simp] theorem mem_upsert {table : Table Row Key key} {row other : Row} :
    other ∈ table.upsert row ↔ (other ∈ table ∧ key other ≠ key row) ∨ other = row := by
  unfold upsert
  cases accepted : table.insert row with
  | some inserted =>
    simp only [mem_insert accepted]
    constructor
    · rintro (kept | isNew)
      · exact .inl ⟨kept, (insert_eq_some accepted).2 other kept⟩
      · exact .inr isNew
    · rintro (⟨kept, _⟩ | isNew)
      · exact .inl kept
      · exact .inr isNew
  | none =>
    obtain ⟨conflict, conflictMember, conflictKey⟩ := insert_eq_none_iff.mp accepted
    change other ∈ table.rows.map _ ↔ _
    rw [List.mem_map]
    constructor
    · rintro ⟨old, member, rfl⟩
      split
      · exact .inr rfl
      · next different => exact .inl ⟨member, different⟩
    · rintro (⟨kept, different⟩ | rfl)
      · exact ⟨other, kept, if_neg different⟩
      · exact ⟨conflict, conflictMember, if_pos conflictKey⟩

theorem lookup_eq_of_mem_iff {table other : Table Row Key key} {target : Key}
    (same : ∀ row, key row = target → (row ∈ table ↔ row ∈ other)) :
    table.lookup target = other.lookup target := by
  cases found : other.lookup target with
  | none =>
    rw [lookup_eq_none_iff] at found ⊢
    intro row member sameKey
    exact found row ((same row sameKey).mp member) sameKey
  | some row =>
    rw [lookup_eq_some_iff] at found ⊢
    exact ⟨(same row found.2).mpr found.1, found.2⟩

private theorem filter_key {rows : List Row} (distinct : (rows.map key).Nodup) (target : Key) :
    (rows.filter fun row => decide (key row = target)) =
      (rows.find? fun row => decide (key row = target)).toList := by
  induction rows with
  | nil => rfl
  | cons row rest ih =>
    obtain ⟨fresh, restDistinct⟩ := List.nodup_cons.mp distinct
    by_cases found : key row = target
    · have nothing : (rest.filter fun row => decide (key row = target)) = [] := by
        apply List.filter_eq_nil_iff.mpr
        intro other member same
        have sameKey : key other = key row := (of_decide_eq_true same).trans found.symm
        exact fresh (sameKey ▸ List.mem_map_of_mem member)
      simp [found, nothing]
    · simp [found, ih restDistinct]

theorem select_key (table : Table Row Key key) (target : Key) :
    (table.select fun row => decide (key row = target)) = (table.lookup target).toList :=
  filter_key table.unique target

theorem select_eq_singleton {table : Table Row Key key} {p : Row → Bool} {row : Row}
    (member : row ∈ table) (selected : p row = true)
    (only : ∀ other, other ∈ table → p other = true → key other = key row) :
    table.select p = [row] := by
  have byKey : table.select p = table.select fun other => decide (key other = key row) := by
    apply List.filter_congr
    intro other isOther
    by_cases sameKey : key other = key row
    · rw [eq_of_key isOther member sameKey, selected]
      simp
    · have refused : p other ≠ true := fun chosen => sameKey (only other isOther chosen)
      simp [refused, sameKey]
  rw [byKey, select_key, lookup_of_mem member]
  rfl

theorem lookup_upsert {table : Table Row Key key} {row : Row} {target : Key} :
    (table.upsert row).lookup target =
      if key row = target then some row else table.lookup target := by
  split
  · next same =>
      exact lookup_eq_some_iff.mpr ⟨mem_upsert.mpr (.inr rfl), same⟩
  · next different =>
      apply lookup_eq_of_mem_iff
      intro other isTarget
      rw [mem_upsert]
      constructor
      · rintro (⟨kept, _⟩ | rfl)
        · exact kept
        · exact False.elim (different isTarget)
      · intro kept
        exact .inl ⟨kept, fun same => different (same.symm.trans isTarget)⟩

theorem lookup_updateWhere {table : Table Row Key key} {p : Row → Bool} {update : Row → Row}
    {keeps : ∀ row, key (update row) = key row} {target : Key} :
    (table.updateWhere p update keeps).lookup target =
      (table.lookup target).map fun row => if p row then update row else row := by
  have sameKey : ∀ row, key (if p row then update row else row) = key row := by
    intro row
    split
    · exact keeps row
    · rfl
  cases found : table.lookup target with
  | none =>
    rw [lookup_eq_none_iff] at found
    apply lookup_eq_none_iff.mpr
    intro row member isTarget
    obtain ⟨old, oldMember, rfl⟩ := mem_updateWhere.mp member
    exact found old oldMember (sameKey old ▸ isTarget)
  | some row =>
    obtain ⟨member, rfl⟩ := lookup_eq_some_iff.mp found
    exact lookup_eq_some_iff.mpr ⟨mem_updateWhere.mpr ⟨row, member, rfl⟩, sameKey row⟩

theorem lookup_deleteWhere {table : Table Row Key key} {p : Row → Bool} {target : Key} :
    (table.deleteWhere p).lookup target = (table.lookup target).filter fun row => !p row := by
  cases found : table.lookup target with
  | none =>
    rw [lookup_eq_none_iff] at found
    exact lookup_eq_none_iff.mpr fun row member => found row (mem_deleteWhere.mp member).1
  | some row =>
    obtain ⟨member, rfl⟩ := lookup_eq_some_iff.mp found
    cases gone : p row with
    | false =>
      rw [Option.filter_some, gone]
      exact lookup_eq_some_iff.mpr ⟨mem_deleteWhere.mpr ⟨member, gone⟩, rfl⟩
    | true =>
      rw [Option.filter_some, gone]
      apply lookup_eq_none_iff.mpr
      intro other kept same
      obtain ⟨otherMember, stays⟩ := mem_deleteWhere.mp kept
      rw [eq_of_key otherMember member same, gone] at stays
      cases stays

theorem lookup_insertOrIgnore_fresh {table : Table Row Key key} {target : Key}
    (absent : table.lookup target = none) {row : Row} (isTarget : key row = target) :
    (table.insertOrIgnore row).lookup target = some row := by
  subst isTarget
  exact lookup_eq_some_iff.mpr
    ⟨mem_insertOrIgnore.mpr (.inr ⟨rfl, lookup_eq_none_iff.mp absent⟩), rfl⟩

theorem lookup_insertOrIgnore_other {table : Table Row Key key} {row : Row} {target : Key}
    (other : key row ≠ target) :
    (table.insertOrIgnore row).lookup target = table.lookup target := by
  apply lookup_eq_of_mem_iff
  intro found isTarget
  rw [mem_insertOrIgnore]
  constructor
  · rintro (kept | ⟨rfl, _⟩)
    · exact kept
    · exact False.elim (other isTarget)
  · exact Or.inl

theorem holds_key_deleteWhere {table : Table Row Key key} {p : Row → Bool} {row : Row}
    (member : row ∈ table) :
    ((table.deleteWhere p).holds fun other => decide (key other = key row)) = !p row := by
  rw [Bool.eq_iff_iff, holds_iff, Bool.not_eq_true']
  constructor
  · rintro ⟨other, kept, same⟩
    obtain ⟨otherMember, stays⟩ := mem_deleteWhere.mp kept
    rwa [eq_of_key otherMember member (of_decide_eq_true same)] at stays
  · intro stays
    exact ⟨row, mem_deleteWhere.mpr ⟨member, stays⟩, decide_eq_true rfl⟩

end Keyed

end Table

end ImCodes.Library
