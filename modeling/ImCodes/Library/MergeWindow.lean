import ImCodes.Library.Sorting
import Mathlib.Data.Multiset.Fold

/-!
# Windows on a merge

A base list and a sorted list of fresh items are merged by rank with two pointers, and the
merge is cut to its last items. The base need not be sorted. These lemmas give the place of
every item in the merge from the two lists, and say when the cut keeps the items of the
highest rank.
-/

set_option autoImplicit false

namespace ImCodes.Library

/-- A predicate that only an initial part of a list can satisfy is satisfied at least by the
items up to one that does. -/
theorem succ_le_countP {Item : Type} {test : Item → Bool} {items : List Item} {index : Nat}
    {item : Item} (found : items[index]? = some item)
    (holds : ∀ before other, before ≤ index → items[before]? = some other → test other = true) :
    index + 1 ≤ items.countP test := by
  induction items generalizing index with
  | nil => simp at found
  | cons head rest ih =>
    have first : test head = true := holds 0 head (Nat.zero_le _) rfl
    rw [List.countP_cons_of_pos first]
    cases index with
    | zero => omega
    | succ index =>
      have later := ih (by simpa using found) fun before other bound isOther =>
        holds (before + 1) other (by omega) (by simpa using isOther)
      omega

theorem countP_le_of_forall {Item : Type} {test : Item → Bool} {items : List Item} {index : Nat}
    (fails : ∀ after other, index ≤ after → items[after]? = some other → test other = false) :
    items.countP test ≤ index := by
  induction items generalizing index with
  | nil => simp
  | cons head rest ih =>
    cases index with
    | zero =>
      have none_ : (head :: rest).countP test = 0 := by
        apply List.countP_eq_zero.mpr
        intro other member
        obtain ⟨after, isOther⟩ := List.getElem?_of_mem member
        simp [fails after other (Nat.zero_le _) isOther]
      omega
    | succ index =>
      have later := @ih index fun after other bound isOther =>
        fails (after + 1) other (by omega) (by simpa using isOther)
      rw [List.countP_cons]
      split <;> omega

theorem takeWhile_length_le {Item : Type} {test : Item → Bool} {items : List Item} {index : Nat}
    {item : Item} (found : items[index]? = some item) (fails : test item = false) :
    (items.takeWhile test).length ≤ index := by
  induction items generalizing index with
  | nil => simp
  | cons head rest ih =>
    cases index with
    | zero =>
      have same : head = item := by simpa using found
      subst same
      simp [fails]
    | succ index =>
      have later := ih (by simpa using found)
      rw [List.takeWhile_cons]
      split
      · simpa using later
      · simp

theorem lt_takeWhile_length {Item : Type} {test : Item → Bool} {items : List Item} {index : Nat}
    {item : Item} (found : items[index]? = some item)
    (holds : ∀ before other, before ≤ index → items[before]? = some other → test other = true) :
    index < (items.takeWhile test).length := by
  induction items generalizing index with
  | nil => simp at found
  | cons head rest ih =>
    rw [List.takeWhile_cons_of_pos (holds 0 head (Nat.zero_le _) rfl), List.length_cons]
    cases index with
    | zero => omega
    | succ index =>
      have later := ih (by simpa using found) fun before other bound isOther =>
        holds (before + 1) other (by omega) (by simpa using isOther)
      omega

section Ranked

variable {Item Rank : Type} [LinearOrder Rank] (rank : Item → Rank)

def Newest (count : Nat) (items window : List Item) : Prop :=
  window.length = min count items.length ∧
    ∃ older, items.Perm (older ++ window) ∧
      ∀ before ∈ older, ∀ after ∈ window, rank before ≤ rank after

def CutsByRank (cut : Nat) (items : List Item) : Prop :=
  ∀ before ∈ items.take cut, ∀ after ∈ items.drop cut, rank before ≤ rank after

variable {rank}

theorem Newest.perm {count : Nat} {items others window : List Item} (same : items.Perm others)
    (newest : Newest rank count items window) : Newest rank count others window := by
  obtain ⟨size, older, parts, apart⟩ := newest
  exact ⟨by rw [size, same.length_eq], older, same.symm.trans parts, apart⟩

theorem Newest.of_perm_window {count : Nat} {items window others : List Item}
    (same : window.Perm others) (newest : Newest rank count items window) :
    Newest rank count items others := by
  obtain ⟨size, older, parts, apart⟩ := newest
  refine ⟨by rw [← same.length_eq, size], older, parts.trans (same.append_left older), ?_⟩
  intro before isOlder after kept
  exact apart before isOlder after (same.mem_iff.mpr kept)

/-- The newest of a window and what arrives are the newest of everything before the window and
what arrives. -/
theorem Newest.merge {count : Nat} {items arrived window merged : List Item}
    (held : Newest rank count items window)
    (newest : Newest rank count (window ++ arrived) merged) :
    Newest rank count (items ++ arrived) merged := by
  obtain ⟨size, older, parts, apart⟩ := held
  obtain ⟨mergedSize, dropped, mergedParts, mergedApart⟩ := newest
  have whole := parts.length_eq
  rw [List.length_append] at mergedSize whole
  refine ⟨by rw [mergedSize, List.length_append]; omega, older ++ dropped, ?_, ?_⟩
  · have moved := (parts.append_right arrived).trans
      (List.append_assoc older window arrived ▸ mergedParts.append_left older)
    rwa [← List.append_assoc] at moved
  · intro before isBefore after kept
    rcases List.mem_append.mp isBefore with isOlder | isDropped
    · by_contra below
      rw [not_le] at below
      -- Then the whole window is above `after` and still there, beside `after`: one too many.
      have above : window.countP (fun item => decide (rank after < rank item)) =
          window.length := by
        rw [List.countP_eq_length]
        intro item member
        exact decide_eq_true (below.trans_le (apart before isOlder item member))
      have nothing : dropped.countP (fun item => decide (rank after < rank item)) = 0 := by
        rw [List.countP_eq_zero]
        intro item member
        simpa using mergedApart item member after kept
      have fewer : merged.countP (fun item => decide (rank after < rank item)) <
          merged.length := by
        apply Nat.lt_of_le_of_ne List.countP_le_length
        rw [List.countP_eq_length]
        intro all
        simpa using all after kept
      have counts := mergedParts.countP_eq fun item => decide (rank after < rank item)
      rw [List.countP_append, List.countP_append, above, nothing] at counts
      have present := List.length_pos_of_mem isOlder
      omega
    · exact mergedApart before isDropped after kept

theorem Newest.unique {count : Nat} {items others window other : List Item}
    (same : items.Perm others) (distinct : (items.map rank).Nodup)
    (left : Newest rank count items window) (right : Newest rank count others other)
    (sorted : window.Pairwise fun before after => rank before ≤ rank after)
    (otherSorted : other.Pairwise fun before after => rank before ≤ rank after) :
    window = other := by
  have ordered : ∀ {older kept : List Item},
      (∀ before ∈ older, ∀ after ∈ kept, rank before ≤ rank after) →
      kept.Pairwise (fun before after => rank before ≤ rank after) →
      ((older.insertionSort fun before after => rank before ≤ rank after) ++ kept).Pairwise
        fun before after => rank before ≤ rank after := by
    intro older kept apart keptSorted
    refine List.pairwise_append.mpr ⟨?_, keptSorted, ?_⟩
    · exact pairwise_insertionSort_of_rank rank (List.pairwise_of_forall fun _ _ => Iff.rfl)
    · intro before isBefore after isAfter
      exact apart before ((List.mem_insertionSort _).mp isBefore) after isAfter
  obtain ⟨size, older, parts, apart⟩ := left
  obtain ⟨otherSize, otherOlder, otherParts, otherApart⟩ := right
  have sortedParts := parts.trans ((List.perm_insertionSort
    (fun before after => rank before ≤ rank after) older).symm.append_right window)
  have otherSortedParts := otherParts.trans ((List.perm_insertionSort
    (fun before after => rank before ≤ rank after) otherOlder).symm.append_right other)
  have equal := List.Perm.eq_of_pairwise (by
      intro first second isFirst isSecond below above
      have firstItem := sortedParts.mem_iff.mpr isFirst
      have secondItem := same.mem_iff.mpr (otherSortedParts.mem_iff.mpr isSecond)
      exact List.inj_on_of_nodup_map distinct firstItem secondItem (le_antisymm below above))
    (ordered apart sorted) (ordered otherApart otherSorted)
    (sortedParts.symm.trans (same.trans otherSortedParts))
  exact (List.append_inj' equal (by rw [size, otherSize, same.length_eq])).2

/-- The last items of a list are its newest ones exactly where the cut is one by rank. -/
theorem newest_drop_iff {count : Nat} {items window : List Item}
    (same : window.Perm (items.drop (items.length - count))) :
    Newest rank count items window ↔ CutsByRank rank (items.length - count) items := by
  constructor
  · intro newest
    obtain ⟨_, older, parts, apart⟩ := newest.of_perm_window same
    have dropped : older.Perm (items.take (items.length - count)) := by
      apply (List.perm_append_right_iff (items.drop (items.length - count))).mp
      rw [List.take_append_drop]
      exact parts.symm
    intro before isBefore after isAfter
    exact apart before (dropped.mem_iff.mpr isBefore) after isAfter
  · intro cuts
    apply Newest.of_perm_window same.symm
    refine ⟨?_, items.take (items.length - count), ?_, cuts⟩
    · rw [List.length_drop]
      omega
    · rw [List.take_append_drop]

theorem cutsByRank_of_sorted {items : List Item} {cut : Nat}
    (sorted : items.Pairwise fun before after => rank before ≤ rank after) :
    CutsByRank rank cut items := by
  rw [← List.take_append_drop cut items] at sorted
  exact (List.pairwise_append.mp sorted).2.2

/-! ## The merge -/

variable (rank)

/-- The merge with two pointers: the base goes first among equals. -/
def mergeByRank : List Item → List Item → List Item
  | [], fresh => fresh
  | item :: rest, fresh => place item (mergeByRank rest) fresh
where
  place (item : Item) (next : List Item → List Item) : List Item → List Item
  | [] => item :: next []
  | other :: others =>
    if rank item ≤ rank other then item :: next (other :: others)
    else other :: place item next others

theorem mergeByRank_cons (item other : Item) (rest others : List Item) :
    mergeByRank rank (item :: rest) (other :: others) =
      if rank item ≤ rank other then item :: mergeByRank rank rest (other :: others)
      else other :: mergeByRank rank (item :: rest) others := rfl

theorem mergeByRank_nil (base : List Item) : mergeByRank rank base [] = base := by
  induction base with
  | nil => rfl
  | cons item rest ih =>
    change item :: mergeByRank rank rest [] = item :: rest
    rw [ih]

theorem mergeByRank_perm (base fresh : List Item) :
    (mergeByRank rank base fresh).Perm (base ++ fresh) := by
  induction base generalizing fresh with
  | nil => exact .refl fresh
  | cons item rest ih =>
    induction fresh with
    | nil => rw [mergeByRank_nil, List.append_nil]
    | cons other others inner =>
      rw [mergeByRank_cons]
      split
      · exact (ih (other :: others)).cons item
      · exact (inner.cons other).trans List.perm_middle.symm

def basePlace (base fresh : List Item) (index : Nat) : Nat :=
  index + fresh.countP fun item => (base.take (index + 1)).any fun before => rank item < rank before

def freshPlace (base : List Item) (index : Nat) (item : Item) : Nat :=
  index + (base.takeWhile fun before => rank before ≤ rank item).length

variable {rank}

theorem basePlace_fresh_cons {item other : Item} {rest others : List Item}
    (above : ¬rank item ≤ rank other) (index : Nat) :
    basePlace rank (item :: rest) (other :: others) index =
      basePlace rank (item :: rest) others index + 1 := by
  have counted : ((item :: rest).take (index + 1)).any
      (fun before => decide (rank other < rank before)) = true := by
    simp only [List.take_succ_cons, List.any_cons, Bool.or_eq_true, decide_eq_true_eq]
    exact .inl (not_le.mp above)
  unfold basePlace
  rw [@List.countP_cons_of_pos _ (fun item' => ((item :: rest).take (index + 1)).any
    fun before => decide (rank item' < rank before)) _ _ counted]
  omega

theorem basePlace_base_cons {item : Item} {rest fresh : List Item}
    (below : ∀ other ∈ fresh, rank item ≤ rank other) (index : Nat) :
    basePlace rank (item :: rest) fresh (index + 1) = basePlace rank rest fresh index + 1 := by
  have same : fresh.countP (fun other => ((item :: rest).take (index + 1 + 1)).any
      fun before => decide (rank other < rank before)) =
      fresh.countP fun other => (rest.take (index + 1)).any
        fun before => decide (rank other < rank before) := by
    apply List.countP_congr
    intro other member
    have notBefore : ¬rank other < rank item := not_lt.mpr (below other member)
    simp [notBefore]
  unfold basePlace
  rw [same]
  omega

theorem freshPlace_base_cons {item other : Item} {rest : List Item}
    (below : rank item ≤ rank other) (index : Nat) :
    freshPlace rank (item :: rest) index other = freshPlace rank rest index other + 1 := by
  unfold freshPlace
  rw [List.takeWhile_cons_of_pos (by simpa using below), List.length_cons]
  omega

/-- Every item of the merge stands at its place. -/
theorem mergeByRank_places {base fresh : List Item}
    (sorted : fresh.Pairwise fun before after => rank before ≤ rank after) :
    (∀ index item, base[index]? = some item →
      (mergeByRank rank base fresh)[basePlace rank base fresh index]? = some item) ∧
    (∀ index item, fresh[index]? = some item →
      (mergeByRank rank base fresh)[freshPlace rank base index item]? = some item) := by
  induction base generalizing fresh with
  | nil =>
    constructor
    · intro index item found
      simp at found
    · intro index item found
      simpa [mergeByRank, freshPlace] using found
  | cons item rest ih =>
    induction fresh with
    | nil =>
      constructor
      · intro index found isFound
        simpa [mergeByRank_nil, basePlace] using isFound
      · intro index found isFound
        simp at isFound
    | cons other others inner =>
      obtain ⟨least, sortedOthers⟩ := List.pairwise_cons.mp sorted
      rw [mergeByRank_cons]
      by_cases first : rank item ≤ rank other
      · rw [if_pos first]
        have below : ∀ later ∈ other :: others, rank item ≤ rank later := by
          intro later member
          rcases List.mem_cons.mp member with rfl | behind
          · exact first
          · exact first.trans (least later behind)
        obtain ⟨ofBase, ofFresh⟩ := ih sorted
        constructor
        · intro index found isFound
          cases index with
          | zero =>
            have none_ : (other :: others).countP (fun later =>
                ((item :: rest).take 1).any fun before =>
                  decide (rank later < rank before)) = 0 := by
              apply List.countP_eq_zero.mpr
              intro later member
              simpa using below later member
            rw [basePlace, none_]
            simpa using isFound
          | succ index =>
            rw [basePlace_base_cons below, List.getElem?_cons_succ]
            exact ofBase index found (by simpa using isFound)
        · intro index found isFound
          rw [freshPlace_base_cons (below found (List.mem_of_getElem? isFound)),
            List.getElem?_cons_succ]
          exact ofFresh index found isFound
      · rw [if_neg first]
        obtain ⟨ofBase, ofFresh⟩ := inner sortedOthers
        constructor
        · intro index found isFound
          rw [basePlace_fresh_cons first, List.getElem?_cons_succ]
          exact ofBase index found isFound
        · intro index found isFound
          cases index with
          | zero =>
            have same : other = found := by simpa using isFound
            subst same
            simp [freshPlace, first]
          | succ index =>
            have shifted : freshPlace rank (item :: rest) (index + 1) found =
                freshPlace rank (item :: rest) index found + 1 := by
              unfold freshPlace
              omega
            rw [shifted, List.getElem?_cons_succ]
            exact ofFresh index found (by simpa using isFound)

/-- Every place of the merge is that of an item. -/
theorem mergeByRank_placed {base fresh : List Item}
    (sorted : fresh.Pairwise fun before after => rank before ≤ rank after) {place : Nat}
    {item : Item} (found : (mergeByRank rank base fresh)[place]? = some item) :
    (∃ index, base[index]? = some item ∧ basePlace rank base fresh index = place) ∨
    (∃ index, fresh[index]? = some item ∧ freshPlace rank base index item = place) := by
  induction base generalizing fresh place with
  | nil => exact .inr ⟨place, found, by simp [freshPlace]⟩
  | cons first rest ih =>
    induction fresh generalizing place with
    | nil =>
      rw [mergeByRank_nil] at found
      exact .inl ⟨place, found, by simp [basePlace]⟩
    | cons other others inner =>
      obtain ⟨least, sortedOthers⟩ := List.pairwise_cons.mp sorted
      rw [mergeByRank_cons] at found
      by_cases leads : rank first ≤ rank other
      · rw [if_pos leads] at found
        have below : ∀ later ∈ other :: others, rank first ≤ rank later := by
          intro later member
          rcases List.mem_cons.mp member with rfl | behind
          · exact leads
          · exact leads.trans (least later behind)
        cases place with
        | zero =>
          have none_ : (other :: others).countP (fun later =>
              ((first :: rest).take 1).any fun before =>
                decide (rank later < rank before)) = 0 := by
            apply List.countP_eq_zero.mpr
            intro later member
            simpa using below later member
          exact .inl ⟨0, by simpa using found, by rw [basePlace, none_]⟩
        | succ place =>
          rcases ih sorted (by simpa using found) with ⟨index, isItem, at_⟩ |
            ⟨index, isItem, at_⟩
          · refine .inl ⟨index + 1, by simpa using isItem, ?_⟩
            rw [basePlace_base_cons below, at_]
          · refine .inr ⟨index, isItem, ?_⟩
            rw [freshPlace_base_cons (below item (List.mem_of_getElem? isItem)), at_]
      · rw [if_neg leads] at found
        cases place with
        | zero =>
          have same : other = item := by simpa using found
          subst same
          exact .inr ⟨0, rfl, by simp [freshPlace, leads]⟩
        | succ place =>
          rcases inner sortedOthers (by simpa using found) with ⟨index, isItem, at_⟩ |
            ⟨index, isItem, at_⟩
          · exact .inl ⟨index, isItem, by rw [basePlace_fresh_cons leads, at_]⟩
          · refine .inr ⟨index + 1, by simpa using isItem, ?_⟩
            unfold freshPlace at at_ ⊢
            omega

/-! ## The cut of a merge -/

variable (rank)

/-- No base item that the cut keeps is older than what the merge has put before it and the cut
drops: a base item before it, or a fresh item that ranks below such a base item. -/
def KeepsBehind (base fresh : List Item) (cut : Nat) : Prop :=
  ∀ index item, base[index]? = some item → cut ≤ basePlace rank base fresh index →
    (∀ earlier before, earlier < index → base[earlier]? = some before →
      basePlace rank base fresh earlier < cut → rank before ≤ rank item) ∧
    (∀ arrival new, fresh[arrival]? = some new → freshPlace rank base arrival new < cut →
      (∃ before ∈ base.take index, rank new < rank before) → rank new ≤ rank item)

variable {rank} {base fresh : List Item}

theorem basePlace_mono {earlier index : Nat} (before : earlier ≤ index) :
    basePlace rank base fresh earlier ≤ basePlace rank base fresh index := by
  have counted : fresh.countP (fun item => (base.take (earlier + 1)).any
      fun other => decide (rank item < rank other)) ≤
      fresh.countP fun item => (base.take (index + 1)).any
        fun other => decide (rank item < rank other) := by
    apply List.countP_mono_left
    intro item _ found
    obtain ⟨other, member, above⟩ := List.any_eq_true.mp found
    have inside : other ∈ base.take (index + 1) :=
      (List.take_sublist_take_left (by omega)).subset member
    exact List.any_eq_true.mpr ⟨other, inside, above⟩
  unfold basePlace
  omega

theorem freshPlace_mono {earlier index : Nat} {first second : Item} (before : earlier ≤ index)
    (below : rank first ≤ rank second) :
    freshPlace rank base earlier first ≤ freshPlace rank base index second := by
  have longer : (base.takeWhile fun other => decide (rank other ≤ rank first)).length ≤
      (base.takeWhile fun other => decide (rank other ≤ rank second)).length := by
    induction base with
    | nil => simp
    | cons item rest ih =>
      by_cases taken : rank item ≤ rank first
      · rw [List.takeWhile_cons_of_pos (by simpa using taken),
          List.takeWhile_cons_of_pos (by simpa using taken.trans below)]
        simpa using ih
      · rw [List.takeWhile_cons_of_neg (by simpa using taken)]
        simp
  unfold freshPlace
  omega

theorem le_of_sorted (sorted : fresh.Pairwise fun before after => rank before ≤ rank after)
    {earlier index : Nat} {first second : Item} (isFirst : fresh[earlier]? = some first)
    (isSecond : fresh[index]? = some second) (before : earlier ≤ index) :
    rank first ≤ rank second := by
  obtain ⟨inFirst, rfl⟩ := List.getElem?_eq_some_iff.mp isFirst
  obtain ⟨inSecond, rfl⟩ := List.getElem?_eq_some_iff.mp isSecond
  rcases Nat.lt_or_eq_of_le before with strictly | same
  · exact List.pairwise_iff_getElem.mp sorted earlier index inFirst inSecond strictly
  · subst same
    exact le_rfl

/-- A base item that stands before a fresh one does not rank above it. -/
theorem le_of_basePlace_lt (sorted : fresh.Pairwise fun before after => rank before ≤ rank after)
    {index arrival : Nat} {item new : Item} (isItem : base[index]? = some item)
    (isNew : fresh[arrival]? = some new)
    (before : basePlace rank base fresh index < freshPlace rank base arrival new) :
    rank item ≤ rank new := by
  by_contra above
  have short := @takeWhile_length_le _ (fun other => decide (rank other ≤ rank new)) _ _ _ isItem
    (by simpa using above)
  have inside : item ∈ base.take (index + 1) := by
    apply List.mem_of_getElem? (i := index)
    rw [List.getElem?_take, if_pos (Nat.lt_succ_self index), isItem]
  have counted : arrival + 1 ≤ fresh.countP fun other => (base.take (index + 1)).any
      fun found => decide (rank other < rank found) := by
    apply succ_le_countP isNew
    intro earlier other bound isOther
    have below := (le_of_sorted sorted isOther isNew bound).trans_lt (not_le.mp above)
    exact List.any_eq_true.mpr ⟨item, inside, by simpa using below⟩
  unfold basePlace freshPlace at before
  omega

/-- A fresh item that stands before an older base item is older than a base item before it. -/
theorem exists_above_of_freshPlace_lt
    (sorted : fresh.Pairwise fun before after => rank before ≤ rank after)
    {index arrival : Nat} {item new : Item} (isItem : base[index]? = some item)
    (isNew : fresh[arrival]? = some new) (above : rank item < rank new)
    (before : freshPlace rank base arrival new < basePlace rank base fresh index) :
    ∃ found ∈ base.take index, rank new < rank found := by
  by_contra none_
  have upTo : ∀ found ∈ base.take (index + 1), rank found ≤ rank new := by
    intro found member
    rw [List.take_add_one, isItem] at member
    rcases List.mem_append.mp member with earlier | last
    · exact not_lt.mp fun beyond => none_ ⟨found, earlier, beyond⟩
    · have same : found = item := by simpa using last
      exact same ▸ above.le
  have taken := @lt_takeWhile_length _ (fun other => decide (rank other ≤ rank new)) _ _ _ isItem
    (by
      intro earlier other bound isOther
      have inside : other ∈ base.take (index + 1) := by
        apply List.mem_of_getElem? (i := earlier)
        rw [List.getElem?_take, if_pos (by omega), isOther]
      simpa using upTo other inside)
  have counted : fresh.countP (fun other => (base.take (index + 1)).any
      fun found => decide (rank other < rank found)) ≤ arrival := by
    apply countP_le_of_forall
    intro later other bound isOther
    have beyond := le_of_sorted sorted isNew isOther bound
    apply List.any_eq_false.mpr
    intro found member
    simpa using (upTo found member).trans beyond
  unfold basePlace freshPlace at before
  omega

/-- Where a merge may be cut without dropping an item that ranks above a kept one. -/
theorem mergeByRank_cutsByRank_iff
    (sorted : fresh.Pairwise fun before after => rank before ≤ rank after) (cut : Nat) :
    CutsByRank rank cut (mergeByRank rank base fresh) ↔ KeepsBehind rank base fresh cut := by
  obtain ⟨ofBase, ofFresh⟩ := @mergeByRank_places _ _ _ rank base fresh sorted
  have inTake : ∀ {place item}, (mergeByRank rank base fresh)[place]? = some item → place < cut →
      item ∈ (mergeByRank rank base fresh).take cut := by
    intro place item found before
    apply List.mem_of_getElem? (i := place)
    rw [List.getElem?_take, if_pos before, found]
  have inDrop : ∀ {place item}, (mergeByRank rank base fresh)[place]? = some item → cut ≤ place →
      item ∈ (mergeByRank rank base fresh).drop cut := by
    intro place item found after
    apply List.mem_of_getElem? (i := place - cut)
    rw [List.getElem?_drop, Nat.add_sub_cancel' after, found]
  constructor
  · intro cuts index item isItem kept
    have isKept := inDrop (ofBase index item isItem) kept
    constructor
    · intro earlier before _ isBefore dropped
      exact cuts before (inTake (ofBase earlier before isBefore) dropped) item isKept
    · intro arrival new isNew dropped _
      exact cuts new (inTake (ofFresh arrival new isNew) dropped) item isKept
  · intro keeps before isBefore after isAfter
    obtain ⟨low, foundBefore⟩ := List.getElem?_of_mem isBefore
    rw [List.getElem?_take] at foundBefore
    split at foundBefore
    · next dropped =>
        obtain ⟨offset, foundAfter⟩ := List.getElem?_of_mem isAfter
        rw [List.getElem?_drop] at foundAfter
        rcases mergeByRank_placed sorted foundAfter with ⟨index, isItem, at_⟩ | ⟨index, isItem, at_⟩
        · rcases mergeByRank_placed sorted foundBefore with ⟨earlier, isEarlier, low_⟩ |
            ⟨arrival, isNew, low_⟩
          · have ordered : earlier < index := by
              by_contra later
              have mono := @basePlace_mono _ _ _ rank base fresh _ _ (not_lt.mp later)
              omega
            exact (keeps index after isItem (by omega)).1 earlier before ordered isEarlier (by omega)
          · by_contra above
            have found := exists_above_of_freshPlace_lt sorted isItem isNew (not_le.mp above)
              (by omega)
            exact above ((keeps index after isItem (by omega)).2 arrival before isNew (by omega)
              found)
        · rcases mergeByRank_placed sorted foundBefore with ⟨earlier, isEarlier, low_⟩ |
            ⟨arrival, isNew, low_⟩
          · exact le_of_basePlace_lt sorted isEarlier isItem (by omega)
          · by_contra above
            have ordered : index ≤ arrival := by
              by_contra later
              exact above (le_of_sorted sorted isNew isItem (by omega))
            have mono := @freshPlace_mono _ _ _ rank base _ _ _ _ ordered (not_le.mp above).le
            omega
    · cases foundBefore

/-- A sorted base may be cut anywhere. -/
theorem keepsBehind_of_sorted
    (sorted : base.Pairwise fun before after => rank before ≤ rank after) (cut : Nat) :
    KeepsBehind rank base fresh cut := by
  intro index item isItem _
  constructor
  · intro earlier before ordered isBefore _
    exact le_of_sorted sorted isBefore isItem ordered.le
  · intro arrival new isNew _ ⟨before, member, above⟩
    obtain ⟨earlier, found⟩ := List.getElem?_of_mem member
    rw [List.getElem?_take] at found
    split at found
    · next ordered => exact above.le.trans (le_of_sorted sorted found isItem ordered.le)
    · cases found

end Ranked

/-- A fold that forgets order and repetition depends on what there is. -/
theorem foldl_eq_of_mem_iff {Item : Type} [DecidableEq Item] {op : Item → Item → Item}
    [Std.Commutative op] [Std.Associative op] [Std.IdempotentOp op] (start : Item)
    {left right : List Item} (same : ∀ item, item ∈ left ↔ item ∈ right) :
    left.foldl op start = right.foldl op start := by
  have members : (left : Multiset Item).dedup = (right : Multiset Item).dedup :=
    Multiset.dedup_ext.mpr fun item => same item
  rw [← Multiset.coe_fold_l, ← Multiset.coe_fold_l, ← Multiset.fold_dedup_idem op, members,
    Multiset.fold_dedup_idem op]

end ImCodes.Library
