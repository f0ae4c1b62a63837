import Mathlib.Data.List.Induction

/-!
# Keeping the newest of two classes

A log is cut to a number of items: the newest items of a preferred class, and beside them the
newest others that still fit. `newestOf` says which items stay; `pushBounded` is a buffer that
keeps enough of a stream to answer that.
-/

set_option autoImplicit false

namespace ImCodes.Library

variable {Item : Type}

def lastItems (count : Nat) (items : List Item) : List Item :=
  items.drop (items.length - count)

theorem length_lastItems (count : Nat) (items : List Item) :
    (lastItems count items).length = min count items.length := by
  rw [lastItems, List.length_drop]
  omega

theorem lastItems_min (count : Nat) (items : List Item) :
    lastItems (min count items.length) items = lastItems count items := by
  unfold lastItems
  congr 1
  omega

@[simp] theorem lastItems_zero (items : List Item) : lastItems 0 items = [] := by
  simp [lastItems]

def pushBounded (limit : Nat) (buffer : List Item) (item : Item) : List Item :=
  let pushed := buffer ++ [item]
  if limit * 2 < pushed.length then pushed.drop (pushed.length - limit) else pushed

/-- The buffer is an end of the stream, and all of it unless it is long enough. -/
theorem foldl_pushBounded (limit : Nat) (items : List Item) :
    ∃ older, items = older ++ items.foldl (pushBounded limit) [] ∧
      (older = [] ∨ limit ≤ (items.foldl (pushBounded limit) []).length) := by
  induction items using List.reverseRecOn with
  | nil => exact ⟨[], rfl, .inl rfl⟩
  | append_singleton before item ih =>
    obtain ⟨older, parts, long⟩ := ih
    rw [List.foldl_append, List.foldl_cons, List.foldl_nil]
    generalize before.foldl (pushBounded limit) [] = buffer at parts long
    simp only [pushBounded]
    split
    · next past =>
        refine ⟨older ++ (buffer ++ [item]).take ((buffer ++ [item]).length - limit), ?_, ?_⟩
        · rw [List.append_assoc, List.take_append_drop, parts, List.append_assoc]
        · right
          rw [List.length_drop]
          omega
    · refine ⟨older, by rw [parts, List.append_assoc], ?_⟩
      rcases long with nothing | enough
      · exact .inl nothing
      · right
        rw [List.length_append]
        omega

theorem lastItems_pushBounded {limit count : Nat} (within : count ≤ limit) (items : List Item) :
    lastItems count (items.foldl (pushBounded limit) []) = lastItems count items := by
  obtain ⟨older, parts, long⟩ := foldl_pushBounded limit items
  generalize items.foldl (pushBounded limit) [] = buffer at parts long
  subst parts
  unfold lastItems
  rcases long with nothing | enough
  · subst nothing
    rfl
  · have behind : (older ++ buffer).length - count = older.length + (buffer.length - count) := by
      rw [List.length_append]
      omega
    rw [behind, ← List.drop_drop, List.drop_left]

section Budgets

variable (preferred : Item → Bool)

/-- The items that have fewer of their class after them than the budget of the class. -/
def keepNewest (budget others : Nat) : List Item → List Item
  | [] => []
  | item :: rest =>
    if preferred item then
      if rest.countP preferred < budget then item :: keepNewest budget others rest
      else keepNewest budget others rest
    else
      if rest.countP (fun other => !preferred other) < others then
        item :: keepNewest budget others rest
      else keepNewest budget others rest

def newestOf (limit : Nat) (items : List Item) : List Item :=
  keepNewest preferred (min limit (items.countP preferred))
    (limit - min limit (items.countP preferred)) items

def dropOldest (items : List Item) : List Item :=
  if items.any fun item => !preferred item then items.eraseP fun item => !preferred item
  else items.tail

variable {preferred} {budget others limit : Nat} {items : List Item}

theorem keepNewest_sublist : (keepNewest preferred budget others items).Sublist items := by
  induction items with
  | nil => exact .slnil
  | cons item rest ih =>
    simp only [keepNewest]
    split <;> split
    · exact ih.cons_cons item
    · exact ih.cons item
    · exact ih.cons_cons item
    · exact ih.cons item

theorem keepNewest_eq_self (fits : items.countP preferred ≤ budget)
    (othersFit : items.countP (fun item => !preferred item) ≤ others) :
    keepNewest preferred budget others items = items := by
  induction items with
  | nil => rfl
  | cons item rest ih =>
    rw [List.countP_cons] at fits othersFit
    have restKept := ih (by omega) (by omega)
    cases isPreferred : preferred item with
    | true =>
      have room : rest.countP preferred < budget := by
        simp only [isPreferred, ↓reduceIte] at fits
        omega
      simp [keepNewest, isPreferred, room, restKept]
    | false =>
      have room : rest.countP (fun other => !preferred other) < others := by
        simp only [isPreferred, Bool.not_false, ↓reduceIte] at othersFit
        omega
      simp [keepNewest, isPreferred, room, restKept]

theorem lastItems_cons (count : Nat) (item : Item) (rest : List Item) :
    lastItems count (item :: rest) =
      if rest.length < count then item :: lastItems count rest else lastItems count rest := by
  unfold lastItems
  split
  · next room =>
      have all : (item :: rest).length - count = 0 := by
        rw [List.length_cons]
        omega
      rw [all, Nat.sub_eq_zero_of_le (Nat.le_of_lt room)]
      rfl
  · next full =>
      have shifted : (item :: rest).length - count = rest.length - count + 1 := by
        rw [List.length_cons]
        omega
      rw [shifted, List.drop_succ_cons]

/-- What is kept are the last items of each class. -/
theorem keepNewest_perm :
    (keepNewest preferred budget others items).Perm
      (lastItems budget (items.filter preferred) ++
        lastItems others (items.filter fun item => !preferred item)) := by
  induction items with
  | nil => simp [keepNewest, lastItems]
  | cons item rest ih =>
    cases isPreferred : preferred item with
    | true =>
      simp only [keepNewest, isPreferred, ↓reduceIte, List.filter_cons, Bool.not_true,
        Bool.false_eq_true, lastItems_cons, ← List.countP_eq_length_filter]
      split
      · exact ih.cons item
      · exact ih
    | false =>
      simp only [keepNewest, isPreferred, Bool.false_eq_true, ↓reduceIte, List.filter_cons,
        Bool.not_false, lastItems_cons, ← List.countP_eq_length_filter]
      split
      · exact (ih.cons item).trans List.perm_middle.symm
      · exact ih

theorem keepNewest_map {Other : Type} {image : Other → Item} {others' : List Other} :
    (keepNewest (fun item => preferred (image item)) budget others others').map image =
      keepNewest preferred budget others (others'.map image) := by
  induction others' with
  | nil => rfl
  | cons item rest ih =>
    simp only [keepNewest, List.map_cons, List.countP_map, Function.comp_def]
    split <;> split <;> simp [ih]

theorem countP_not (items : List Item) :
    items.countP preferred + items.countP (fun item => !preferred item) = items.length := by
  induction items with
  | nil => rfl
  | cons item rest ih =>
    rw [List.countP_cons, List.countP_cons, List.length_cons]
    cases preferred item <;> simp <;> omega

theorem length_newestOf (items : List Item) :
    (newestOf preferred limit items).length = min limit items.length := by
  have total := @countP_not _ preferred items
  unfold newestOf
  rw [keepNewest_perm.length_eq, List.length_append, lastItems, lastItems, List.length_drop,
    List.length_drop, ← List.countP_eq_length_filter, ← List.countP_eq_length_filter]
  omega

theorem newestOf_eq_self (fits : items.length ≤ limit) : newestOf preferred limit items = items := by
  have total := @countP_not _ preferred items
  exact keepNewest_eq_self (by omega) (by omega)

theorem length_dropOldest (items : List Item) :
    (dropOldest preferred items).length = items.length - 1 := by
  unfold dropOldest
  split
  · next some_ =>
      obtain ⟨item, member, other⟩ := List.any_eq_true.mp some_
      exact List.length_eraseP_of_mem member other
  · rw [List.length_tail]

theorem keepNewest_eraseP (past : others < items.countP fun item => !preferred item) :
    keepNewest preferred budget others (items.eraseP fun item => !preferred item) =
      keepNewest preferred budget others items := by
  induction items with
  | nil => rfl
  | cons item rest ih =>
    cases isPreferred : preferred item with
    | true =>
      rw [List.countP_cons_of_neg (by simp [isPreferred])] at past
      have kept : (rest.eraseP fun item => !preferred item).countP preferred =
          rest.countP preferred := by
        clear ih past
        induction rest with
        | nil => rfl
        | cons next rest inner =>
          cases isNext : preferred next <;> simp [isNext, inner]
      rw [List.eraseP_cons_of_neg (by simp [isPreferred])]
      simp [keepNewest, isPreferred, kept, ih past]
    | false =>
      rw [List.countP_cons_of_pos (by simp [isPreferred])] at past
      have gone : ¬rest.countP (fun other => !preferred other) < others := by omega
      rw [List.eraseP_cons_of_pos (by simp [isPreferred])]
      simp [keepNewest, isPreferred, gone]

/-- The item that goes first is in no smaller selection. -/
theorem newestOf_dropOldest (past : limit < items.length) :
    newestOf preferred limit (dropOldest preferred items) = newestOf preferred limit items := by
  have total := @countP_not _ preferred items
  unfold dropOldest
  split
  · next some_ =>
      have kept : (items.eraseP fun item => !preferred item).countP preferred =
          items.countP preferred := by
        clear past total some_
        induction items with
        | nil => rfl
        | cons next rest inner => cases isNext : preferred next <;> simp [isNext, inner]
      obtain ⟨item, member, other⟩ := List.any_eq_true.mp some_
      have positive : 0 < items.countP fun item => !preferred item :=
        List.countP_pos_iff.mpr ⟨item, member, other⟩
      unfold newestOf
      rw [kept]
      exact keepNewest_eraseP (by omega)
  · next none_ =>
      have all : items.countP (fun item => !preferred item) = 0 := by
        apply List.countP_eq_zero.mpr
        intro item member other
        exact none_ (List.any_eq_true.mpr ⟨item, member, other⟩)
      cases items with
      | nil => rfl
      | cons item rest =>
        have isPreferred : preferred item = true := by
          cases found : preferred item
          · rw [List.countP_cons_of_pos (by simp [found])] at all
            omega
          · rfl
        have first : (item :: rest).countP preferred = rest.countP preferred + 1 :=
          List.countP_cons_of_pos isPreferred
        have budgets : min limit ((item :: rest).countP preferred) = limit ∧
            min limit (rest.countP preferred) = limit := by omega
        unfold newestOf
        rw [budgets.1, List.tail_cons, budgets.2]
        have full : ¬rest.countP preferred < limit := by omega
        simp [keepNewest, isPreferred, full]

theorem newestOf_pred (items : List Item) :
    newestOf preferred (items.length - 1) items = dropOldest preferred items := by
  by_cases empty : items = []
  · subst empty
    rfl
  · have positive := List.length_pos_iff.mpr empty
    rw [← newestOf_dropOldest (by omega), newestOf_eq_self (Nat.le_of_eq (length_dropOldest items))]

end Budgets

end ImCodes.Library
