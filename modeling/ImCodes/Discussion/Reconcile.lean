import ImCodes.Library.Text
import Mathlib.Data.List.Nodup

/-!
# The discussion bar and the live list

A live list of the daemon is merged into the entries of the bar: an entry is matched by request
id and then by id, a matched entry takes the id and the fields of its item, some unmatched
entries are kept, and the items that are new to the bar are appended. An object is the values of
its keys; `pending` is read as a truth value only.
-/

set_option autoImplicit false

namespace ImCodes.Discussion

open Library

variable {Value : Type}

structure DiscussionEntry (Value : Type) where
  id : String
  requestId : Option String
  pending : Bool
  state : Option String
  fields : String → Option Value

/-- The authoritative fields of a message, as far as they are present. -/
structure DiscussionPatch (Value : Type) where
  id : Option String
  requestId : Option String
  state : Option String
  fields : String → Option Value

/-- An item of `discussion.list`. -/
structure LiveItem (Value : Type) where
  id : String
  requestId : Option String
  state : Option String
  fields : String → Option Value

def LiveItem.patch (item : LiveItem Value) : DiscussionPatch Value where
  id := some item.id
  requestId := item.requestId
  state := item.state
  fields := item.fields

def isTerminalDiscussionState (state : Option String) : Bool :=
  decide (state = some "done" ∨ state = some "failed")

def DiscussionPatch.regresses (patch : DiscussionPatch Value) (existing : DiscussionEntry Value) :
    Bool :=
  isTerminalDiscussionState existing.state && patch.state.isSome &&
    !isTerminalDiscussionState patch.state

def reconcileDiscussionEntry (existing : DiscussionEntry Value) (patch : DiscussionPatch Value) :
    DiscussionEntry Value :=
  if patch.regresses existing then existing
  else
    { id := patch.id.getD existing.id
      requestId := patch.requestId.or existing.requestId
      pending :=
        if patch.id.isSome ∨ patch.state.isSome then false else existing.pending
      state := patch.state.or existing.state
      fields := fun key => (patch.fields key).or (existing.fields key) }

def liveByReq (liveItems : List (LiveItem Value)) (requestId : String) : Option (LiveItem Value) :=
  liveItems.reverse.find? fun item => decide (item.requestId = some requestId)

def liveById (liveItems : List (LiveItem Value)) (id : String) : Option (LiveItem Value) :=
  liveItems.reverse.find? fun item => decide (item.id = id)

def liveFor (liveItems : List (LiveItem Value)) (d : DiscussionEntry Value) :
    Option (LiveItem Value) :=
  ((truthy d.requestId).bind (liveByReq liveItems)).or (liveById liveItems d.id)

/-- What the pass over the entries pushes for one of them. -/
def settle (liveItems : List (LiveItem Value)) (d : DiscussionEntry Value) :
    Option (DiscussionEntry Value) :=
  match liveFor liveItems d with
  | some live => some (reconcileDiscussionEntry d live.patch)
  | none =>
    if d.pending || isTerminalDiscussionState d.state || d.id.startsWith "p2p_" then some d
    else none

def consumed (prev : List (DiscussionEntry Value)) (liveItems : List (LiveItem Value))
    (item : LiveItem Value) : Bool :=
  prev.any fun d => decide ((liveFor liveItems d).map LiveItem.id = some item.id)

def known (prev : List (DiscussionEntry Value)) (item : LiveItem Value) : Bool :=
  prev.any fun d =>
    decide (d.id = item.id) || (item.requestId.isSome && decide (d.requestId = item.requestId))

def reconcileClassicList (prev : List (DiscussionEntry Value))
    (liveItems : List (LiveItem Value)) (makeEntry : LiveItem Value → DiscussionEntry Value) :
    List (DiscussionEntry Value) :=
  prev.filterMap (settle liveItems) ++
    (liveItems.filter fun item => !consumed prev liveItems item && !known prev item).map makeEntry

/-! ## One card for each discussion -/

def Matches (d : DiscussionEntry Value) (item : LiveItem Value) : Prop :=
  d.id = item.id ∨
    ∃ requestId, requestId ≠ "" ∧ d.requestId = some requestId ∧ item.requestId = some requestId

/-- What is promised of a reconciliation. -/
structure OneCardEach (prev : List (DiscussionEntry Value)) (liveItems : List (LiveItem Value))
    (makeEntry : LiveItem Value → DiscussionEntry Value) : Prop where
  distinct : ((reconcileClassicList prev liveItems makeEntry).map DiscussionEntry.id).Nodup
  preserved : ∀ d ∈ prev,
    d.pending = true ∨ isTerminalDiscussionState d.state = true ∨ d.id.startsWith "p2p_" = true →
    (∀ item ∈ liveItems, ¬Matches d item) → d ∈ reconcileClassicList prev liveItems makeEntry
  carded : ∀ item ∈ liveItems,
    ((reconcileClassicList prev liveItems makeEntry).map DiscussionEntry.id).count item.id = 1
  monotone : ∀ d ∈ prev, isTerminalDiscussionState d.state = true →
    ∃ after ∈ reconcileClassicList prev liveItems makeEntry, settle liveItems d = some after ∧
      isTerminalDiscussionState after.state = true
  settled : reconcileClassicList (reconcileClassicList prev liveItems makeEntry) liveItems
    makeEntry = reconcileClassicList prev liveItems makeEntry

/-- The entry has everything the item says, and is not pending. -/
structure ShowsItem (entry : DiscussionEntry Value) (item : LiveItem Value) : Prop where
  id : entry.id = item.id
  requestId : entry.requestId = item.requestId
  pending : entry.pending = false
  state : ∀ state, item.state = some state → entry.state = some state
  fields : ∀ key value, item.fields key = some value → entry.fields key = some value

def Finished (liveItems : List (LiveItem Value)) (d : DiscussionEntry Value) : Prop :=
  ∃ live, liveFor liveItems d = some live ∧ live.patch.regresses d = true

def BecomesCard (liveItems : List (LiveItem Value)) (d : DiscussionEntry Value)
    (item : LiveItem Value) : Prop :=
  (liveFor liveItems d = some item ∧ item.patch.regresses d = false) ∨
    (d.id = item.id ∧ Finished liveItems d)

def IsNew (prev : List (DiscussionEntry Value)) (item : LiveItem Value) : Prop :=
  ∀ d ∈ prev, d.id ≠ item.id ∧ (item.requestId.isSome → d.requestId ≠ item.requestId)

/-- A card of the item in this state is not drawn to another item by its request id. -/
def Stays (liveItems : List (LiveItem Value)) (item : LiveItem Value) (state : Option String) :
    Prop :=
  ∀ requestId other, item.requestId = some requestId → requestId ≠ "" →
    liveByReq liveItems requestId = some other → other ≠ item →
    isTerminalDiscussionState state = true ∧ other.state.isSome = true ∧
      isTerminalDiscussionState other.state = false

/-- The item is new, or exactly one entry becomes its card; and the card stays with it. -/
def GetsCard (prev : List (DiscussionEntry Value)) (liveItems : List (LiveItem Value))
    (makeEntry : LiveItem Value → DiscussionEntry Value) (item : LiveItem Value) : Prop :=
  (IsNew prev item ∧ Stays liveItems item (makeEntry item).state) ∨
    ∃ d ∈ prev, BecomesCard liveItems d item ∧
      (∀ other ∈ prev, BecomesCard liveItems other item → other = d) ∧
      (Finished liveItems d ∨ Stays liveItems item (item.state.or d.state))

/-! ## The matches of an entry -/

section Matching

variable {liveItems : List (LiveItem Value)} {item live : LiveItem Value}
  {d : DiscussionEntry Value}

theorem liveByReq_eq_some {requestId : String}
    (found : liveByReq liveItems requestId = some item) :
    item ∈ liveItems ∧ item.requestId = some requestId := by
  constructor
  · exact List.mem_reverse.mp (List.mem_of_find?_eq_some found)
  · simpa using List.find?_some found

theorem liveByReq_isSome {requestId : String} (isItem : item ∈ liveItems)
    (carries : item.requestId = some requestId) :
    ∃ other, liveByReq liveItems requestId = some other := by
  rw [← Option.isSome_iff_exists, liveByReq, List.find?_isSome]
  exact ⟨item, List.mem_reverse.mpr isItem, by simpa using carries⟩

theorem liveById_eq_some {id : String} (found : liveById liveItems id = some item) :
    item ∈ liveItems ∧ item.id = id := by
  constructor
  · exact List.mem_reverse.mp (List.mem_of_find?_eq_some found)
  · simpa using List.find?_some found

theorem eq_of_id (distinct : (liveItems.map LiveItem.id).Nodup) (isItem : item ∈ liveItems)
    (isLive : live ∈ liveItems) (same : live.id = item.id) : live = item :=
  List.inj_on_of_nodup_map distinct isLive isItem same

theorem liveById_of_mem (distinct : (liveItems.map LiveItem.id).Nodup)
    (isItem : item ∈ liveItems) : liveById liveItems item.id = some item := by
  cases found : liveById liveItems item.id with
  | some other =>
    obtain ⟨isOther, same⟩ := liveById_eq_some found
    rw [eq_of_id distinct isItem isOther same]
  | none =>
    have unmatched := List.find?_eq_none.mp found item (List.mem_reverse.mpr isItem)
    simp at unmatched

theorem liveFor_eq_some (found : liveFor liveItems d = some item) :
    item ∈ liveItems ∧ Matches d item := by
  rw [liveFor, Option.or_eq_some_iff] at found
  rcases found with byReq | ⟨_, byId⟩
  · obtain ⟨requestId, asked, named⟩ := Option.bind_eq_some_iff.mp byReq
    obtain ⟨present, nonempty⟩ := truthy_eq_some_iff.mp asked
    obtain ⟨isItem, carries⟩ := liveByReq_eq_some named
    exact ⟨isItem, Or.inr ⟨requestId, nonempty, present, carries⟩⟩
  · obtain ⟨isItem, same⟩ := liveById_eq_some byId
    exact ⟨isItem, Or.inl same.symm⟩

theorem liveFor_isSome (distinct : (liveItems.map LiveItem.id).Nodup) (isItem : item ∈ liveItems)
    (matched : Matches d item) : ∃ other, liveFor liveItems d = some other := by
  rw [← Option.isSome_iff_exists, liveFor, Option.isSome_or, Bool.or_eq_true]
  rcases matched with sameId | ⟨requestId, nonempty, present, carries⟩
  · right
    rw [sameId, liveById_of_mem distinct isItem]
    rfl
  · left
    obtain ⟨other, found⟩ := liveByReq_isSome isItem carries
    rw [truthy_eq_some_iff.mpr ⟨present, nonempty⟩, Option.bind_some, found]
    rfl

end Matching

/-! ## The cards after a pass -/

section Cards

variable {liveItems : List (LiveItem Value)} {item : LiveItem Value} {d : DiscussionEntry Value}
  {patch : DiscussionPatch Value}

theorem reconcile_of_regresses (regresses : patch.regresses d = true) :
    reconcileDiscussionEntry d patch = d := by
  rw [reconcileDiscussionEntry, if_pos regresses]

theorem reconcile_item_id (forward : item.patch.regresses d = false) :
    (reconcileDiscussionEntry d item.patch).id = item.id := by
  rw [reconcileDiscussionEntry, forward]
  rfl

theorem reconcile_terminal (terminal : isTerminalDiscussionState d.state = true) :
    isTerminalDiscussionState (reconcileDiscussionEntry d patch).state = true := by
  unfold reconcileDiscussionEntry
  split
  · exact terminal
  · next forward =>
      cases stated : patch.state with
      | none => simpa [stated] using terminal
      | some state => simpa [DiscussionPatch.regresses, terminal, stated] using forward

theorem settle_of_match (found : liveFor liveItems d = some item) :
    settle liveItems d = some (reconcileDiscussionEntry d item.patch) := by
  simp only [settle, found]

theorem settle_id_iff (distinct : (liveItems.map LiveItem.id).Nodup) (isItem : item ∈ liveItems) :
    (settle liveItems d).map DiscussionEntry.id = some item.id ↔
      BecomesCard liveItems d item := by
  unfold BecomesCard Finished
  cases found : liveFor liveItems d with
  | none =>
    have differs : d.id ≠ item.id := by
      intro same
      obtain ⟨other, foundToo⟩ := liveFor_isSome distinct isItem (d := d) (Or.inl same)
      rw [found] at foundToo
      cases foundToo
    simp [settle, found, differs]
  | some live =>
    obtain ⟨isLive, _⟩ := liveFor_eq_some found
    simp only [settle_of_match found, Option.map_some, Option.some.injEq]
    cases regresses : live.patch.regresses d with
    | true =>
      rw [reconcile_of_regresses regresses]
      constructor
      · intro same
        exact Or.inr ⟨same, live, rfl, regresses⟩
      · rintro (⟨same, forward⟩ | ⟨same, _⟩)
        · rw [same, forward] at regresses
          cases regresses
        · exact same
    | false =>
      rw [reconcile_item_id regresses]
      constructor
      · intro same
        have isSame := eq_of_id distinct isItem isLive same
        exact Or.inl ⟨isSame, isSame ▸ regresses⟩
      · rintro (⟨same, _⟩ | ⟨_, other, same, back⟩)
        · rw [same]
        · cases same
          rw [regresses] at back
          cases back

end Cards

/-! ## Counting the cards of an item -/

private theorem countP_eq_one_iff {Item : Type} {test : Item → Bool} {items : List Item}
    (distinct : items.Nodup) :
    items.countP test = 1 ↔
      ∃ item ∈ items, test item = true ∧ ∀ other ∈ items, test other = true → other = item := by
  rw [List.countP_eq_length_filter, List.length_eq_one_iff]
  constructor
  · intro ⟨item, only⟩
    have isOnly : ∀ other, other ∈ items.filter test ↔ other = item := by simp [only]
    refine ⟨item, (List.mem_filter.mp ((isOnly item).mpr rfl)).1,
      (List.mem_filter.mp ((isOnly item).mpr rfl)).2, ?_⟩
    intro other isOther passes
    exact (isOnly other).mp (List.mem_filter.mpr ⟨isOther, passes⟩)
  · intro ⟨item, isItem, passes, only⟩
    refine ⟨item, (List.perm_singleton.mp ?_)⟩
    rw [List.perm_ext_iff_of_nodup (distinct.filter test) (List.nodup_singleton item)]
    intro other
    simp only [List.mem_filter, List.mem_singleton]
    constructor
    · intro ⟨isOther, passesToo⟩
      exact only other isOther passesToo
    · rintro rfl
      exact ⟨isItem, passes⟩

section Counting

variable {prev : List (DiscussionEntry Value)} {liveItems : List (LiveItem Value)}
  {makeEntry : LiveItem Value → DiscussionEntry Value} {item : LiveItem Value}
  {d : DiscussionEntry Value}

theorem known_eq_false_iff : known prev item = false ↔ IsNew prev item := by
  unfold known IsNew
  rw [List.any_eq_false]
  simp only [Bool.or_eq_true, decide_eq_true_eq, Bool.and_eq_true, not_or, not_and, ne_eq]

theorem known_of_matches (isEntry : d ∈ prev) (matched : Matches d item) :
    known prev item = true := by
  unfold known
  rw [List.any_eq_true]
  refine ⟨d, isEntry, ?_⟩
  rcases matched with sameId | ⟨requestId, _, present, carries⟩
  · simp [sameId]
  · simp [present, carries]

theorem appended_eq (distinct : (liveItems.map LiveItem.id).Nodup) :
    (liveItems.filter fun item => !consumed prev liveItems item && !known prev item) =
      liveItems.filter fun item => !known prev item := by
  apply List.filter_congr
  intro item isItem
  cases isKnown : known prev item with
  | true => simp
  | false =>
    simp only [Bool.not_false, Bool.and_true, Bool.not_eq_true']
    rw [consumed, List.any_eq_false]
    intro d isEntry matched
    obtain ⟨live, found, same⟩ := Option.map_eq_some_iff.mp (of_decide_eq_true matched)
    obtain ⟨isLive, matches_⟩ := liveFor_eq_some found
    have isSame := eq_of_id distinct isItem isLive same
    rw [known_of_matches isEntry (isSame ▸ matches_)] at isKnown
    cases isKnown

theorem mem_reconcileClassicList (distinct : (liveItems.map LiveItem.id).Nodup) :
    d ∈ reconcileClassicList prev liveItems makeEntry ↔
      (∃ before ∈ prev, settle liveItems before = some d) ∨
        ∃ item ∈ liveItems, IsNew prev item ∧ makeEntry item = d := by
  simp only [reconcileClassicList, appended_eq distinct, List.mem_append, List.mem_filterMap,
    List.mem_map, List.mem_filter, Bool.not_eq_true', known_eq_false_iff, and_assoc]

theorem count_id (distinct : (liveItems.map LiveItem.id).Nodup)
    (named : ∀ item ∈ liveItems, (makeEntry item).id = item.id) (id : String) :
    ((reconcileClassicList prev liveItems makeEntry).map DiscussionEntry.id).count id =
      prev.countP (fun d => decide ((settle liveItems d).map DiscussionEntry.id = some id)) +
        ((liveItems.filter fun item => !known prev item).map LiveItem.id).count id := by
  have names : ((liveItems.filter fun item => !known prev item).map
      (DiscussionEntry.id ∘ makeEntry)) =
      (liveItems.filter fun item => !known prev item).map LiveItem.id :=
    List.map_congr_left fun item isNew => named item (List.mem_filter.mp isNew).1
  rw [reconcileClassicList, appended_eq distinct, List.map_append, List.count_append, List.map_map,
    names, List.map_filterMap, List.count_filterMap]
  simp only [beq_eq_decide]

theorem BecomesCard.matches (becomes : BecomesCard liveItems d item) : Matches d item := by
  rcases becomes with ⟨found, _⟩ | ⟨sameId, _⟩
  · exact (liveFor_eq_some found).2
  · exact Or.inl sameId

theorem IsNew.not_matches (isNew : IsNew prev item) (isEntry : d ∈ prev) : ¬Matches d item := by
  intro matched
  have isKnown := known_of_matches isEntry matched
  rw [known_eq_false_iff.mpr isNew] at isKnown
  cases isKnown

theorem carded_iff (distinctEntries : (prev.map DiscussionEntry.id).Nodup)
    (distinct : (liveItems.map LiveItem.id).Nodup)
    (named : ∀ item ∈ liveItems, (makeEntry item).id = item.id) (isItem : item ∈ liveItems) :
    ((reconcileClassicList prev liveItems makeEntry).map DiscussionEntry.id).count item.id = 1 ↔
      IsNew prev item ∨ ∃ d ∈ prev, BecomesCard liveItems d item ∧
        ∀ other ∈ prev, BecomesCard liveItems other item → other = d := by
  have newIds : ((liveItems.filter fun item => !known prev item).map LiveItem.id).Nodup :=
    distinct.sublist (List.filter_sublist.map LiveItem.id)
  have becoming := @countP_eq_one_iff _
    (fun d => decide ((settle liveItems d).map DiscussionEntry.id = some item.id)) prev
    (List.Nodup.of_map _ distinctEntries)
  simp only [decide_eq_true_eq, settle_id_iff distinct isItem] at becoming
  rw [count_id distinct named, ← becoming, newIds.count]
  cases isKnown : known prev item with
  | true =>
    have notNew : ¬IsNew prev item := by
      rw [← known_eq_false_iff, isKnown]
      simp
    have notAppended :
        item.id ∉ (liveItems.filter fun item => !known prev item).map LiveItem.id := by
      intro listed
      obtain ⟨other, isOther, same⟩ := List.mem_map.mp listed
      obtain ⟨isLive, unknown⟩ := List.mem_filter.mp isOther
      rw [eq_of_id distinct isItem isLive same, isKnown] at unknown
      cases unknown
    simp [notNew, notAppended]
  | false =>
    have isNew : IsNew prev item := known_eq_false_iff.mp isKnown
    have appended :
        item.id ∈ (liveItems.filter fun item => !known prev item).map LiveItem.id :=
      List.mem_map_of_mem (List.mem_filter.mpr ⟨isItem, by simp [isKnown]⟩)
    have none_ : prev.countP
        (fun d => decide ((settle liveItems d).map DiscussionEntry.id = some item.id)) = 0 := by
      rw [List.countP_eq_zero]
      intro d isEntry becomes
      rw [decide_eq_true_eq, settle_id_iff distinct isItem] at becomes
      exact isNew.not_matches isEntry becomes.matches
    rw [none_, if_pos appended]
    simp [isNew]

theorem id_of_settle {after : DiscussionEntry Value} (passed : settle liveItems d = some after)
    (unlisted : after.id ∉ liveItems.map LiveItem.id) : after = d := by
  cases found : liveFor liveItems d with
  | none =>
    simp only [settle, found] at passed
    split at passed
    · cases passed
      rfl
    · cases passed
  | some live =>
    rw [settle_of_match found, Option.some.injEq] at passed
    cases regresses : live.patch.regresses d with
    | true => rw [← passed, reconcile_of_regresses regresses]
    | false =>
      rw [← passed, reconcile_item_id regresses] at unlisted
      exact absurd (List.mem_map_of_mem (liveFor_eq_some found).1) unlisted

theorem distinct_of_carded (distinctEntries : (prev.map DiscussionEntry.id).Nodup)
    (distinct : (liveItems.map LiveItem.id).Nodup)
    (named : ∀ item ∈ liveItems, (makeEntry item).id = item.id)
    (carded : ∀ item ∈ liveItems,
      ((reconcileClassicList prev liveItems makeEntry).map DiscussionEntry.id).count item.id = 1) :
    ((reconcileClassicList prev liveItems makeEntry).map DiscussionEntry.id).Nodup := by
  rw [List.nodup_iff_count_le_one]
  intro id
  by_cases listed : id ∈ liveItems.map LiveItem.id
  · obtain ⟨item, isItem, rfl⟩ := List.mem_map.mp listed
    exact (carded item isItem).le
  · have noneNew : ((liveItems.filter fun item => !known prev item).map LiveItem.id).count id = 0 :=
      List.count_eq_zero.mpr fun isNew =>
        listed ((List.filter_sublist.map LiveItem.id).subset isNew)
    rw [count_id distinct named, noneNew, Nat.add_zero]
    have own : prev.countP
        (fun d => decide ((settle liveItems d).map DiscussionEntry.id = some id)) ≤
        prev.countP (fun d => d.id == id) := by
      apply List.countP_mono_left
      intro d _ passed
      obtain ⟨after, isPassed, isId⟩ := Option.map_eq_some_iff.mp (of_decide_eq_true passed)
      rw [beq_iff_eq, ← isId, id_of_settle isPassed (isId ▸ listed)]
    have once := List.nodup_iff_count_le_one.mp distinctEntries id
    rw [List.count_eq_countP, List.countP_map] at once
    exact own.trans once

end Counting

/-! ## A second pass -/

section SecondPass

variable {prev : List (DiscussionEntry Value)} {liveItems : List (LiveItem Value)}
  {makeEntry : LiveItem Value → DiscussionEntry Value} {item : LiveItem Value}
  {d entry : DiscussionEntry Value} {patch : DiscussionPatch Value}

theorem reconcile_twice :
    reconcileDiscussionEntry (reconcileDiscussionEntry d patch) patch =
      reconcileDiscussionEntry d patch := by
  cases regresses : patch.regresses (reconcileDiscussionEntry d patch) with
  | true => exact reconcile_of_regresses regresses
  | false =>
    cases before : patch.regresses d with
    | true => rw [reconcile_of_regresses before, reconcile_of_regresses before]
    | false =>
      have sameFields : (fun key => (patch.fields key).or ((patch.fields key).or
          (d.fields key))) = fun key => (patch.fields key).or (d.fields key) := by
        funext key
        cases patch.fields key <;> rfl
      rw [reconcileDiscussionEntry, regresses]
      rw [reconcileDiscussionEntry, before]
      cases patch.id <;> cases patch.requestId <;> cases patch.state <;> simp [sameFields]

theorem reconcile_of_showsItem (shows_ : ShowsItem entry item) :
    reconcileDiscussionEntry entry item.patch = entry := by
  unfold reconcileDiscussionEntry
  split
  · rfl
  · have sameState : item.state.or entry.state = entry.state := by
      cases stated : item.state with
      | none => rfl
      | some state => rw [Option.some_or, shows_.state state stated]
    have sameFields : (fun key => (item.fields key).or (entry.fields key)) = entry.fields := by
      funext key
      cases stated : item.fields key with
      | none => rfl
      | some value => rw [Option.some_or, shows_.fields key value stated]
    simp [LiveItem.patch, ← shows_.id, ← shows_.requestId, sameState, sameFields, ← shows_.pending]

theorem settle_card_iff (distinct : (liveItems.map LiveItem.id).Nodup) (isItem : item ∈ liveItems)
    (sameId : entry.id = item.id) (mirrors : reconcileDiscussionEntry entry item.patch = entry)
    (asks : entry.requestId = item.requestId ∨
      item.requestId = none ∧ (truthy entry.requestId).bind (liveByReq liveItems) = none) :
    settle liveItems entry = some entry ↔ Stays liveItems item entry.state := by
  cases drawn : (truthy entry.requestId).bind (liveByReq liveItems) with
  | none =>
    have found : liveFor liveItems entry = some item := by
      rw [liveFor, drawn, Option.none_or, sameId, liveById_of_mem distinct isItem]
    have stays : Stays liveItems item entry.state := by
      intro requestId other carries nonempty named
      rcases asks with same | ⟨absent, _⟩
      · rw [same, truthy_eq_some_iff.mpr ⟨carries, nonempty⟩, Option.bind_some, named] at drawn
        cases drawn
      · rw [absent] at carries
        cases carries
    simp [settle_of_match found, mirrors, stays]
  | some other =>
    have found : liveFor liveItems entry = some other := by
      rw [liveFor, drawn, Option.some_or]
    obtain ⟨requestId, asked, named⟩ := Option.bind_eq_some_iff.mp drawn
    obtain ⟨present, nonempty⟩ := truthy_eq_some_iff.mp asked
    have carries : item.requestId = some requestId := by
      rcases asks with same | ⟨_, undrawn⟩
      · rw [← same, present]
      · rw [drawn] at undrawn
        cases undrawn
    rw [settle_of_match found, Option.some.injEq]
    by_cases isSame : other = item
    · subst isSame
      have stays : Stays liveItems other entry.state := by
        intro asking drawer carriesToo _ namedToo differs
        rw [carries, Option.some.injEq] at carriesToo
        rw [← carriesToo, named, Option.some.injEq] at namedToo
        exact absurd namedToo.symm differs
      simp [mirrors, stays]
    · constructor
      · intro same
        cases regresses : other.patch.regresses entry with
        | true =>
          intro asking drawer carriesToo _ namedToo _
          rw [carries, Option.some.injEq] at carriesToo
          rw [← carriesToo, named, Option.some.injEq] at namedToo
          subst namedToo
          simpa [DiscussionPatch.regresses, LiveItem.patch, and_assoc] using regresses
        | false =>
          have moved : other.id = item.id := by
            rw [← reconcile_item_id regresses, same, sameId]
          exact absurd (eq_of_id distinct isItem (liveFor_eq_some found).1 moved) isSame
      · intro stays
        have finished := stays requestId other carries nonempty named isSame
        apply reconcile_of_regresses
        simpa [DiscussionPatch.regresses, LiveItem.patch, and_assoc] using finished

theorem settle_merged_iff (distinct : (liveItems.map LiveItem.id).Nodup)
    (found : liveFor liveItems d = some item) (forward : item.patch.regresses d = false) :
    settle liveItems (reconcileDiscussionEntry d item.patch) =
        some (reconcileDiscussionEntry d item.patch) ↔
      Stays liveItems item (item.state.or d.state) := by
  have isItem := (liveFor_eq_some found).1
  have state : (reconcileDiscussionEntry d item.patch).state = item.state.or d.state := by
    rw [reconcileDiscussionEntry, forward]
    rfl
  have requestId : (reconcileDiscussionEntry d item.patch).requestId =
      item.requestId.or d.requestId := by
    rw [reconcileDiscussionEntry, forward]
    rfl
  rw [← state]
  apply settle_card_iff distinct isItem (reconcile_item_id forward) reconcile_twice
  rw [requestId]
  cases carries : item.requestId with
  | some _ => exact Or.inl rfl
  | none =>
    right
    refine ⟨rfl, ?_⟩
    rw [Option.none_or]
    cases drawn : (truthy d.requestId).bind (liveByReq liveItems) with
    | none => rfl
    | some other =>
      obtain ⟨_, _, named⟩ := Option.bind_eq_some_iff.mp drawn
      rw [liveFor, drawn, Option.some_or, Option.some.injEq] at found
      rw [← found, (liveByReq_eq_some named).2] at carries
      cases carries

theorem settled_iff (distinct : (liveItems.map LiveItem.id).Nodup)
    (carded : ∀ item ∈ liveItems, (prev.map DiscussionEntry.id).count item.id = 1) :
    reconcileClassicList prev liveItems makeEntry = prev ↔
      ∀ entry ∈ prev, settle liveItems entry = some entry := by
  have noneNew : (liveItems.filter fun item => !known prev item) = [] := by
    rw [List.filter_eq_nil_iff]
    intro item isItem
    have listed : item.id ∈ prev.map DiscussionEntry.id :=
      List.count_pos_iff.mp (by rw [carded item isItem]; exact Nat.one_pos)
    obtain ⟨entry, isEntry, sameId⟩ := List.mem_map.mp listed
    simp [known_of_matches isEntry (Or.inl sameId)]
  have unchanged := @List.filterMap_eq_map_iff_forall_eq_some _ _ (settle liveItems) id prev
  rw [reconcileClassicList, appended_eq distinct, noneNew, List.map_nil, List.append_nil]
  simpa using unchanged

end SecondPass

section Main

variable {prev : List (DiscussionEntry Value)} {liveItems : List (LiveItem Value)}
  {makeEntry : LiveItem Value → DiscussionEntry Value} {item : LiveItem Value}
  {d : DiscussionEntry Value}

private theorem preserved_of_unmatched
    (kept : d.pending = true ∨ isTerminalDiscussionState d.state = true ∨
      d.id.startsWith "p2p_" = true)
    (unmatched : ∀ item ∈ liveItems, ¬Matches d item) : settle liveItems d = some d := by
  cases found : liveFor liveItems d with
  | some item =>
    obtain ⟨isItem, matched⟩ := liveFor_eq_some found
    exact absurd matched (unmatched item isItem)
  | none =>
    simp only [settle, found]
    rw [if_pos]
    simpa [or_assoc] using kept

private theorem settle_terminal (terminal : isTerminalDiscussionState d.state = true) :
    ∃ after, settle liveItems d = some after ∧ isTerminalDiscussionState after.state = true := by
  cases found : liveFor liveItems d with
  | some item => exact ⟨_, settle_of_match found, reconcile_terminal terminal⟩
  | none =>
    refine ⟨d, ?_, terminal⟩
    simp [settle, found, terminal]

private theorem stays_of_settled (distinct : (liveItems.map LiveItem.id).Nodup)
    (makes : ∀ item ∈ liveItems, ShowsItem (makeEntry item) item)
    (settled : ∀ entry ∈ reconcileClassicList prev liveItems makeEntry,
      settle liveItems entry = some entry)
    (isItem : item ∈ liveItems)
    (carded : IsNew prev item ∨ ∃ d ∈ prev, BecomesCard liveItems d item ∧
      ∀ other ∈ prev, BecomesCard liveItems other item → other = d) :
    GetsCard prev liveItems makeEntry item := by
  rcases carded with isNew | ⟨d, isEntry, becomes, only⟩
  · left
    refine ⟨isNew, ?_⟩
    have again := settled (makeEntry item)
      ((mem_reconcileClassicList distinct).mpr (Or.inr ⟨item, isItem, isNew, rfl⟩))
    have shows_ := makes item isItem
    exact (settle_card_iff distinct isItem shows_.id (reconcile_of_showsItem shows_)
      (Or.inl shows_.requestId)).mp again
  · right
    refine ⟨d, isEntry, becomes, only, ?_⟩
    rcases becomes with ⟨found, forward⟩ | ⟨_, finished⟩
    · right
      have again := settled (reconcileDiscussionEntry d item.patch)
        ((mem_reconcileClassicList distinct).mpr (Or.inl ⟨d, isEntry, settle_of_match found⟩))
      exact (settle_merged_iff distinct found forward).mp again
    · exact Or.inl finished

private theorem settled_of_stays (distinct : (liveItems.map LiveItem.id).Nodup)
    (makes : ∀ item ∈ liveItems, ShowsItem (makeEntry item) item)
    (cards : ∀ item ∈ liveItems, GetsCard prev liveItems makeEntry item)
    (entry : DiscussionEntry Value)
    (isCard : entry ∈ reconcileClassicList prev liveItems makeEntry) :
    settle liveItems entry = some entry := by
  rcases (mem_reconcileClassicList distinct).mp isCard with
    ⟨d, isEntry, passed⟩ | ⟨item, isItem, isNew, rfl⟩
  · cases found : liveFor liveItems d with
    | none =>
      have same : entry = d := by
        simp only [settle, found] at passed
        split at passed
        · cases passed
          rfl
        · cases passed
      rw [same] at passed ⊢
      exact passed
    | some item =>
      have isItem := (liveFor_eq_some found).1
      rw [settle_of_match found, Option.some.injEq] at passed
      cases forward : item.patch.regresses d with
      | true =>
        rw [reconcile_of_regresses forward] at passed
        rw [← passed, settle_of_match found, reconcile_of_regresses forward]
      | false =>
        rw [← passed, settle_merged_iff distinct found forward]
        have becomes : BecomesCard liveItems d item := Or.inl ⟨found, forward⟩
        rcases cards item isItem with ⟨isNew, _⟩ | ⟨card, _, _, only, finished | stays⟩
        · exact absurd becomes.matches (isNew.not_matches isEntry)
        · obtain ⟨live, foundToo, back⟩ := finished
          rw [← only d isEntry becomes, found, Option.some.injEq] at foundToo
          rw [← foundToo, ← only d isEntry becomes, forward] at back
          cases back
        · rw [only d isEntry becomes]
          exact stays
  · have shows_ := makes item isItem
    apply (settle_card_iff distinct isItem shows_.id (reconcile_of_showsItem shows_)
      (Or.inl shows_.requestId)).mpr
    rcases cards item isItem with ⟨_, stays⟩ | ⟨d, isEntry, becomes, _⟩
    · exact stays
    · exact absurd becomes.matches (isNew.not_matches isEntry)

/-- A reconciliation keeps one card for each discussion exactly if each live item is new to the
bar or is taken up by exactly one entry, and no other item draws its card away. -/
theorem reconcileClassicList_oneCardEach_iff
    (distinctEntries : (prev.map DiscussionEntry.id).Nodup)
    (distinct : (liveItems.map LiveItem.id).Nodup)
    (makes : ∀ item ∈ liveItems, ShowsItem (makeEntry item) item) :
    OneCardEach prev liveItems makeEntry ↔
      ∀ item ∈ liveItems, GetsCard prev liveItems makeEntry item := by
  have named : ∀ item ∈ liveItems, (makeEntry item).id = item.id :=
    fun item isItem => (makes item isItem).id
  constructor
  · intro holds item isItem
    apply stays_of_settled distinct makes ((settled_iff distinct holds.carded).mp holds.settled)
      isItem
    exact (carded_iff distinctEntries distinct named isItem).mp (holds.carded item isItem)
  · intro cards
    have carded : ∀ item ∈ liveItems,
        ((reconcileClassicList prev liveItems makeEntry).map DiscussionEntry.id).count item.id =
          1 := by
      intro item isItem
      rw [carded_iff distinctEntries distinct named isItem]
      rcases cards item isItem with ⟨isNew, _⟩ | ⟨d, isEntry, becomes, only, _⟩
      · exact Or.inl isNew
      · exact Or.inr ⟨d, isEntry, becomes, only⟩
    refine ⟨distinct_of_carded distinctEntries distinct named carded, ?_, carded, ?_, ?_⟩
    · intro d isEntry kept unmatched
      rw [mem_reconcileClassicList distinct]
      exact Or.inl ⟨d, isEntry, preserved_of_unmatched kept unmatched⟩
    · intro d isEntry terminal
      obtain ⟨after, passed, stillTerminal⟩ := @settle_terminal _ liveItems d terminal
      exact ⟨after, (mem_reconcileClassicList distinct).mpr (Or.inl ⟨d, isEntry, passed⟩), passed,
        stillTerminal⟩
    · exact (settled_iff distinct carded).mpr (settled_of_stays distinct makes cards)

end Main

section FixedLists

private def card (id : String) (requestId : Option String) (pending : Bool) (state : String) :
    DiscussionEntry Unit :=
  ⟨id, requestId, pending, some state, fun _ => none⟩

private def entryOf (item : LiveItem Unit) : DiscussionEntry Unit :=
  ⟨item.id, item.requestId, false, item.state, item.fields⟩

private theorem entryOf_showsItem (item : LiveItem Unit) : ShowsItem (entryOf item) item :=
  ⟨rfl, rfl, rfl, fun _ stated => stated, fun _ _ stated => stated⟩

/-- The card that was inserted at the click and one that has the discussion's id already both
end under that id. -/
theorem reconcileClassicList_two_cards :
    let prev := [card "pending_r" (some "r") true "setup", card "d" none false "running"]
    let liveItems := [(⟨"d", some "r", some "running", fun _ => none⟩ : LiveItem Unit)]
    (prev.map DiscussionEntry.id).Nodup ∧ (prev.filterMap DiscussionEntry.requestId).Nodup ∧
      (liveItems.map LiveItem.id).Nodup ∧
      (reconcileClassicList prev liveItems entryOf).map DiscussionEntry.id = ["d", "d"] := by
  decide +kernel

private def clickedBar : List (DiscussionEntry Unit) :=
  [card "pending_r" (some "r") true "setup", card "e" none false "running"]

private def listedItems : List (LiveItem Unit) :=
  [⟨"d", some "r", some "running", fun _ => none⟩, ⟨"e", none, some "done", fun _ => none⟩]

/-- The law for the entry inserted at the click and another, and the items of both. -/
theorem reconcileClassicList_one_card :
    OneCardEach clickedBar listedItems entryOf ↔
      ∀ item ∈ listedItems, GetsCard clickedBar listedItems entryOf item :=
  reconcileClassicList_oneCardEach_iff (by decide) (by decide)
    fun item _ => entryOf_showsItem item

end FixedLists

end ImCodes.Discussion
