import ImCodes.Workflow.AcceptedDrafts

/-!
# One contract for drafts in any order

The order in which a draft holds its nodes, edges, variables and the members of its objects is not
in the compiled workflow: what is searched is found in any order, and what is listed is sorted. So
accepted drafts that differ in it have one contract, and one hash.
-/

set_option autoImplicit false

namespace ImCodes.Workflow

open Library Library.Json

/-! ## Drafts in another order -/

def SameList (left right : List Json) : Prop :=
  ∃ moved, left.Perm moved ∧ List.Forall₂ Agree moved right

/-- Values that agree, or arrays whose items do in another order. -/
inductive SameItems : Json → Json → Prop
  | agree {left right : Json} (agree : Agree left right) : SameItems left right
  | moved {left right : List Json} (same : SameList left right) : SameItems (.arr left) (.arr right)

def SameMember (name : String) (left right : Json) : Prop :=
  if name ∈ ["nodes", "edges", "variables"] then SameItems left right else Agree left right

/-- The same draft but for the order of nodes, edges, variables and members. -/
inductive Reordered : Json → Json → Prop
  | obj {left right : List (String × Json)} (distinct : (left.map Prod.fst).Nodup)
      (names : (left.map Prod.fst).Perm (right.map Prod.fst))
      (values : ∀ name leftValue rightValue, (name, leftValue) ∈ left →
        (name, rightValue) ∈ right → SameMember name leftValue rightValue) :
      Reordered (.obj left) (.obj right)

/-- A comparison that sorts: it has a direction, and it goes on. -/
structure Collates (compare : String → String → Int) : Prop where
  swap : ∀ first second, compare first second ≤ 0 ↔ 0 ≤ compare second first
  trans : ∀ first second third, compare first second ≤ 0 → compare second third ≤ 0 →
    compare first third ≤ 0

def TellsApart (compare : String → String → Int) (name : String) (items : List Json) : Prop :=
  ∀ item ∈ items, ∀ other ∈ items,
    compare (textOf (item.field? name)) (textOf (other.field? name)) = 0 →
      textOf (item.field? name) = textOf (other.field? name)

structure Distinguishable (host : Host) (draft : Json) : Prop where
  nodes : TellsApart host.localeCompare "id" (nodesOf draft)
  edges : TellsApart host.localeCompare "id" (edgesOf draft)
  definitions : TellsApart host.localeCompare "name" (variablesOf draft)

/-! ## Values read of agreeing ones -/

section
variable {left right : Option Json}

theorem textOf_eq_of_agree (agree : Option.Rel Agree left right) : textOf left = textOf right := by
  cases agree with
  | none => rfl
  | some agree =>
    cases agree with
    | same => rfl
    | arr => rfl
    | obj => rfl

theorem agree_getD (agree : Option.Rel Agree left right) (fallback : Json) :
    Agree (left.getD fallback) (right.getD fallback) := by
  cases agree with
  | none => exact .same _
  | some agree => exact agree

theorem sameList_refl (items : List Json) : SameList items items :=
  ⟨items, .refl _, List.forall₂_same.mpr fun item _ => .same item⟩

theorem sameList_of_agree (agree : Option.Rel Agree left right) :
    List.Forall₂ Agree (itemsOf left) (itemsOf right) := by
  cases agree with
  | none => exact .nil
  | @some left right agree =>
    cases agree with
    | same value =>
      exact List.forall₂_same.mpr fun item _ => .same item
    | arr sizes items => exact Agree.arr_iff.mp (.arr sizes items)
    | obj => exact .nil

theorem sameList_of_sameItems (same : Option.Rel SameItems left right) :
    SameList (itemsOf left) (itemsOf right) := by
  cases same with
  | none => exact sameList_refl []
  | some same =>
    cases same with
    | agree agree => exact ⟨_, .refl _, sameList_of_agree (.some agree)⟩
    | moved same => exact same

end

theorem IsText.field?_eq {left right : Json} {name : String} (isText : IsText left name)
    (agree : Agree left right) : left.field? name = right.field? name := by
  obtain ⟨text, isField⟩ := isText
  rw [isField, agree_eq_str_iff (agree.field? name) |>.mp isField]

namespace SameList

variable {left right : List Json}

theorem map_perm (same : SameList left right) {Value : Type} {image : Json → Value}
    (alike : ∀ item ∈ left, ∀ other, Agree item other → image item = image other) :
    (left.map image).Perm (right.map image) := by
  obtain ⟨moved, perm, agree⟩ := same
  have sameImages : moved.map image = right.map image := by
    have alikeMoved : ∀ item ∈ moved, ∀ other, Agree item other → image item = image other :=
      fun item listed => alike item (perm.mem_iff.mpr listed)
    clear perm alike
    induction agree with
    | nil => rfl
    | cons agree _ ih =>
      rw [List.map_cons, List.map_cons, alikeMoved _ List.mem_cons_self _ agree,
        ih fun item listed => alikeMoved item (List.mem_cons_of_mem _ listed)]
  exact sameImages ▸ perm.map image

theorem filter (same : SameList left right) {keeps keepsOther : Json → Bool}
    (alike : ∀ item ∈ left, ∀ other, Agree item other → keeps item = keepsOther other) :
    SameList (left.filter keeps) (right.filter keepsOther) := by
  obtain ⟨moved, perm, agree⟩ := same
  refine ⟨moved.filter keeps, perm.filter keeps, ?_⟩
  have alikeMoved : ∀ item ∈ moved, ∀ other, Agree item other → keeps item = keepsOther other :=
    fun item listed => alike item (perm.mem_iff.mpr listed)
  clear perm alike
  induction agree with
  | nil => exact .nil
  | @cons item other rest others agree _ ih =>
    have later := ih fun item listed => alikeMoved item (List.mem_cons_of_mem _ listed)
    have first := alikeMoved item List.mem_cons_self other agree
    rw [List.filter_cons, List.filter_cons, ← first]
    split
    · exact .cons agree later
    · exact later

theorem filterMap_perm (same : SameList left right) {Value : Type} {image : Json → Option Value}
    (alike : ∀ item other, Agree item other → image item = image other) :
    (left.filterMap image).Perm (right.filterMap image) := by
  have images := same.map_perm fun item _ => alike item
  have reduced := images.filterMap id
  rwa [List.filterMap_map, List.filterMap_map] at reduced

theorem nil_iff (same : SameList left right) : left = [] ↔ right = [] := by
  obtain ⟨moved, perm, agree⟩ := same
  rw [← List.length_eq_zero_iff, ← List.length_eq_zero_iff, perm.length_eq, agree.length_eq]

end SameList

/-! ## Sorting -/

theorem sortByUtf16_eq_of_perm {left right : List String} (same : left.Perm right) :
    sortByUtf16 left = sortByUtf16 right := by
  apply insertionSort_eq_of_perm _ _ _ same
  · intro first second
    rw [not_lt, not_lt]
    exact le_total _ _
  · intro first second third before after
    rw [not_lt] at before after ⊢
    exact before.trans after
  · intro first _ second _ before after
    rw [not_lt] at before after
    exact Utf16.utf16_injective (le_antisymm before after)

theorem sortByName_agree {host : Host} (collates : Collates host.localeCompare) {name : String}
    {left right : List Json} (identified : Identified name left)
    (apart : TellsApart host.localeCompare name left) (same : SameList left right) :
    List.Forall₂ Agree (sortByName host name left) (sortByName host name right) := by
  obtain ⟨moved, perm, agree⟩ := same
  have sorted : sortByName host name left = sortByName host name moved := by
    apply insertionSort_eq_of_perm _ _ _ perm
    · intro first second
      by_cases before : host.localeCompare (textOf (first.field? name))
          (textOf (second.field? name)) ≤ 0
      · exact .inl before
      · right
        rw [collates.swap]
        omega
    · intro first second third
      exact collates.trans _ _ _
    · intro first isFirst second isSecond before after
      rw [collates.swap] at after
      have tied := apart first isFirst second isSecond (le_antisymm before after)
      exact List.inj_on_of_nodup_map identified.distinct isFirst isSecond tied
  rw [sorted]
  apply forall₂_insertionSort _ agree
  intro first first' second second' firstAgree secondAgree
  rw [textOf_eq_of_agree (firstAgree.field? name), textOf_eq_of_agree (secondAgree.field? name)]

/-! ## Nodes -/

section Nodes

variable {host : Host} {draft other : Json}

theorem isText_of_idOf {nodes : List Json} (texts : ∀ node ∈ nodes, IsText node "id") {id : Json}
    (known : id ∈ nodes.map idOf) : ∃ text, id = .str text := by
  obtain ⟨node, listed, rfl⟩ := List.mem_map.mp known
  obtain ⟨text, isField⟩ := texts node listed
  exact ⟨text, by rw [idOf, isField]; rfl⟩

theorem isText_of_getD {value : Json} {name text : String}
    (isText : (value.field? name).getD .null = .str text) : IsText value name := by
  cases isField : value.field? name with
  | none =>
    rw [isField] at isText
    cases isText
  | some found =>
    rw [isField] at isText
    exact ⟨text, isText ▸ isField⟩

theorem fromNode_eq (wellFormed : WellFormedDraft host draft) {edge : Json}
    (listed : edge ∈ edgesOf draft) {edge' : Json} (agree : Agree edge edge') :
    fromNode edge = fromNode edge' := by
  obtain ⟨text, isText⟩ :=
    isText_of_idOf wellFormed.nodeIds.texts (wellFormed.endpoints edge listed).1
  rw [fromNode, fromNode, (isText_of_getD isText).field?_eq agree]

theorem toNode_eq (wellFormed : WellFormedDraft host draft) {edge : Json}
    (listed : edge ∈ edgesOf draft) {edge' : Json} (agree : Agree edge edge') :
    toNode edge = toNode edge' := by
  obtain ⟨text, isText⟩ :=
    isText_of_idOf wellFormed.nodeIds.texts (wellFormed.endpoints edge listed).2
  rw [toNode, toNode, (isText_of_getD isText).field?_eq agree]

theorem idOf_eq {node node' : Json} (isText : IsText node "id") (agree : Agree node node') :
    idOf node = idOf node' := by
  rw [idOf, idOf, isText.field?_eq agree]

theorem decide_field?_eq {value value' : Json} (agree : Agree value value') (name text : String) :
    decide (value.field? name = some (.str text)) = decide (value'.field? name = some (.str text)) :=
  decide_eq_decide.mpr (agree_eq_str_iff (agree.field? name))

theorem outgoing_sameList (wellFormed : WellFormedDraft host draft)
    (same : SameList (edgesOf draft) (edgesOf other)) (kind : String) {node node' : Json}
    (isText : IsText node "id") (agree : Agree node node') :
    SameList (outgoing kind node (edgesOf draft)) (outgoing kind node' (edgesOf other)) := by
  apply same.filter
  intro edge listed edge' edgeAgree
  rw [fromNode_eq wellFormed listed edgeAgree, idOf_eq isText agree, isEdgeKind, isEdgeKind,
    decide_field?_eq edgeAgree]

theorem agree_bind {left right : Option Json} (agree : Option.Rel Agree left right)
    (name : String) :
    Option.Rel Agree (left.bind (·.field? name)) (right.bind (·.field? name)) := by
  cases agree with
  | none => exact .none
  | some agree => exact agree.field? name

theorem markerOf_eq {left right : Option Json} (agree : Option.Rel Agree left right) :
    markerOf left = markerOf right := by
  cases agree with
  | none => rfl
  | some agree =>
    cases agree with
    | same => rfl
    | arr => rfl
    | obj => rfl

theorem routingMarkers_eq {left right : List Json} (same : SameList left right) :
    routingMarkers left = routingMarkers right := by
  apply sortByUtf16_eq_of_perm
  apply same.filterMap_perm
  intro edge edge' agree
  exact markerOf_eq (agree_bind (agree.field? "condition") "equals")

theorem deriveRoutingAuthority_eq (wellFormed : WellFormedDraft host draft)
    (same : SameList (edgesOf draft) (edgesOf other)) {node node' : Json}
    (isText : IsText node "id") (agree : Agree node node') :
    deriveRoutingAuthority node (edgesOf draft) = deriveRoutingAuthority node' (edgesOf other) := by
  have conditional := outgoing_sameList wellFormed same "conditional" isText agree
  unfold deriveRoutingAuthority
  simp only [conditional.nil_iff, routingMarkers_eq conditional,
    agree_eq_str_iff (agree.field? "nodeKind")]

abbrev MembersAgree (left right : List (String × Json)) : Prop :=
  List.Forall₂ (fun left right => left.1 = right.1 ∧ Agree left.2 right.2) left right

theorem toList_agree {left right : Option Json} (agree : Option.Rel Agree left right)
    (name : String) :
    MembersAgree (left.map fun value => (name, value)).toList
      (right.map fun value => (name, value)).toList := by
  cases agree with
  | none => exact .nil
  | some agree => exact .cons ⟨rfl, agree⟩ .nil

theorem carried_agree {node node' : Json} (agree : Agree node node') (name : String) :
    MembersAgree (carried name node) (carried name node') :=
  toList_agree (agree_truthy? (agree.field? name)) name

theorem carried_names (node : Json) (name : String) :
    ((carried name node).map Prod.fst).Sublist [name] := by
  unfold carried
  cases truthy? (node.field? name) with
  | none => exact List.nil_sublist _
  | some value => exact List.Sublist.refl _

theorem compileNode_distinct (node : Json) (edges : List Json) :
    ∀ members, compileNode node edges = .obj members → (members.map Prod.fst).Nodup := by
  rintro members isObject
  cases isObject
  have within : List.Sublist _ (["id"] ++ ["title"] ++ ["nodeKind", "preset"] ++ ["dispatchStyle"] ++
      ["permissionScope"] ++ ["promptAppend"] ++ ["summaryPromptOverride"] ++
      ["routingAuthority"] ++ ["script"] ++ ["logic"] ++ ["artifacts"]) :=
    (((((((((((List.Sublist.refl ["id"]).append (carried_names node "title")).append
      (List.Sublist.refl ["nodeKind", "preset"])).append (carried_names node "dispatchStyle")).append
      (List.Sublist.refl ["permissionScope"])).append (carried_names node "promptAppend")).append
      (carried_names node "summaryPromptOverride")).append
      (List.Sublist.refl ["routingAuthority"])).append (carried_names node "script")).append
      (carried_names node "logic")).append (List.Sublist.refl ["artifacts"]))
  simp only [List.map_append, List.map_cons, List.map_nil]
  exact within.nodup (by decide)

theorem compileNode_agree (wellFormed : WellFormedDraft host draft)
    (same : SameList (edgesOf draft) (edgesOf other)) {node node' : Json}
    (isText : IsText node "id") (agree : Agree node node') :
    Agree (compileNode node (edgesOf draft)) (compileNode node' (edgesOf other)) := by
  apply Agree.obj_of_forall₂ (compileNode_distinct node _ _ rfl)
  have one : ∀ {name : String} {left right : Json}, Agree left right →
      MembersAgree [(name, left)] [(name, right)] := fun agree => .cons ⟨rfl, agree⟩ .nil
  have authority : Agree (routingAuthority node (edgesOf draft))
      (routingAuthority node' (edgesOf other)) := by
    unfold routingAuthority
    rw [deriveRoutingAuthority_eq wellFormed same isText agree]
    exact agree_getD (agree_present (agree.field? "routingAuthority")) _
  have artifacts : Agree (.arr (itemsOf (node.field? "artifacts")))
      (.arr (itemsOf (node'.field? "artifacts"))) :=
    Agree.arr_iff.mpr (sameList_of_agree (agree.field? "artifacts"))
  refine List.rel_append (List.rel_append (List.rel_append (List.rel_append (List.rel_append
    (List.rel_append (List.rel_append (List.rel_append (List.rel_append (List.rel_append
      (one (agree_getD (agree.field? "id") _)) (carried_agree agree _)) ?_)
      (carried_agree agree _)) (one (agree_getD (agree_present (agree.field? _)) _)))
      (carried_agree agree _)) (carried_agree agree _)) (one authority))
      (carried_agree agree _)) (carried_agree agree _)) (one artifacts)
  exact .cons ⟨rfl, agree_getD (agree.field? "nodeKind") _⟩
    (one (agree_getD (agree.field? "preset") _))

end Nodes

/-! ## Loop budgets -/

theorem entries_sortedRecord_perm {input : List (String × Json)}
    (distinct : (input.map Prod.fst).Nodup) :
    (PropertyObject.empty.assign (sortMembers input)).entries.Perm
      (input.filter fun entry => entry.1 ≠ prototypeName) := by
  have sorted : (sortMembers input).Perm input := List.perm_insertionSort _ input
  exact (PropertyObject.entries_assign_perm ((sorted.map Prod.fst).nodup_iff.mpr distinct)).trans
    (sorted.filter _)

theorem map_fst_filter (input : List (String × Json)) :
    (input.filter fun entry => entry.1 ≠ prototypeName).map Prod.fst =
      (input.map Prod.fst).filter (· ≠ prototypeName) := by
  rw [List.filter_map]
  rfl

theorem sortedRecord_agree {left right : List (String × Json)}
    (distinct : (left.map Prod.fst).Nodup)
    (names : (left.map Prod.fst).Perm (right.map Prod.fst))
    (values : ∀ name leftValue rightValue, (name, leftValue) ∈ left →
      (name, rightValue) ∈ right → Agree leftValue rightValue) :
    Agree (sortedRecord left) (sortedRecord right) := by
  have fromLeft := entries_sortedRecord_perm distinct
  have fromRight := entries_sortedRecord_perm (names.nodup_iff.mp distinct)
  have leftNames := fromLeft.map Prod.fst
  have rightNames := fromRight.map Prod.fst
  rw [map_fst_filter] at leftNames rightNames
  apply Agree.obj
  · exact leftNames.nodup_iff.mpr (distinct.filter _)
  · exact leftNames.trans ((names.filter _).trans rightNames.symm)
  · intro name leftValue rightValue isLeft isRight
    exact values name leftValue rightValue (List.mem_filter.mp (fromLeft.mem_iff.mp isLeft)).1
      (List.mem_filter.mp (fromRight.mem_iff.mp isRight)).1

theorem mem_indexed {items : List Json} {name : String} {item : Json} :
    (name, item) ∈ indexed items ↔ ∃ index : Nat, toString index = name ∧
      items[index]? = some item := by
  unfold indexed
  rw [List.mem_map]
  constructor
  · rintro ⟨⟨item, index⟩, listed, same⟩
    cases same
    exact ⟨index, rfl, List.mem_zipIdx_iff_getElem?.mp listed⟩
  · rintro ⟨index, rfl, isItem⟩
    exact ⟨(item, index), List.mem_zipIdx_iff_getElem?.mpr isItem, rfl⟩

theorem map_fst_indexed (items : List Json) :
    (indexed items).map Prod.fst = (List.range items.length).map toString := by
  unfold indexed
  rw [List.map_map, List.range_eq_range', ← List.zipIdx_map_snd 0 items, List.map_map]
  rfl

theorem indexed_distinct (items : List Json) : ((indexed items).map Prod.fst).Nodup := by
  rw [map_fst_indexed]
  apply List.Nodup.map _ List.nodup_range
  intro number other same
  exact repr_injective (congrArg String.toList same)

theorem loopBudgets_agree {left right : Option Json} (agree : Option.Rel Agree left right) :
    Agree (sortedRecord ((left.map listedProperties).getD []))
      (sortedRecord ((right.map listedProperties).getD [])) := by
  cases agree with
  | none => exact .same _
  | some agree =>
    cases agree with
    | same => exact .same _
    | obj distinct names values => exact sortedRecord_agree distinct names values
    | @arr left right sizes items =>
      apply sortedRecord_agree (indexed_distinct left)
      · change ((indexed left).map Prod.fst).Perm ((indexed right).map Prod.fst)
        rw [map_fst_indexed, map_fst_indexed, sizes]
      · intro name leftItem rightItem isLeft isRight
        obtain ⟨index, rfl, leftThere⟩ := mem_indexed.mp isLeft
        obtain ⟨other, same, rightThere⟩ := mem_indexed.mp isRight
        cases repr_injective (congrArg String.toList same)
        exact items index _ _ leftThere rightThere

/-! ## Contracts -/

theorem any_eq_of_agree {left right : List Json} (agree : List.Forall₂ Agree left right)
    {test : Json → Bool} (alike : ∀ item other, Agree item other → test item = test other) :
    left.any test = right.any test := by
  induction agree with
  | nil => rfl
  | cons agree _ ih => rw [List.any_cons, List.any_cons, alike _ _ agree, ih]

theorem deriveRequiredCapabilities_eq {left right : List Json}
    (agree : List.Forall₂ Agree left right) :
    deriveRequiredCapabilities left = deriveRequiredCapabilities right := by
  have interpreters : left.any usesInterpreter = right.any usesInterpreter := by
    apply any_eq_of_agree agree
    intro node node' agree
    rw [usesInterpreter, usesInterpreter, isKind, isKind, decide_field?_eq agree,
      decide_eq_decide.mpr (agree_eq_str_iff (agree_bind (agree.field? "script") "commandKind"))]
  have openspec : left.any hasOpenspecArtifact = right.any hasOpenspecArtifact := by
    apply any_eq_of_agree agree
    intro node node' agree
    apply any_eq_of_agree (sameList_of_agree (agree.field? "artifacts"))
    intro artifact artifact' agree
    exact decide_field?_eq agree _ _
  have scripts : left.any (isKind "script") = right.any (isKind "script") :=
    any_eq_of_agree agree fun _ _ agree => decide_field?_eq agree _ _
  unfold deriveRequiredCapabilities
  rw [interpreters, openspec, scripts,
    any_eq_of_agree agree fun _ _ agree => decide_field?_eq agree "permissionScope" _]

theorem soleOf_eq_of_perm {left right : List Json} (same : left.Perm right) :
    soleOf left = soleOf right := by
  cases left with
  | nil => rw [List.nil_perm.mp same]
  | cons first rest =>
    cases rest with
    | nil => rw [List.singleton_perm.mp same]
    | cons second rest =>
      have sizes := same.length_eq
      cases right with
      | nil => cases sizes
      | cons other others =>
        cases others with
        | nil => cases sizes
        | cons => rfl

section Contracts

variable {host : Host} {draft other : Json}

theorem Reordered.sameList (reordered : Reordered draft other) {name : String}
    (listed : name ∈ ["nodes", "edges", "variables"]) :
    SameList (itemsOf (draft.field? name)) (itemsOf (other.field? name)) := by
  cases reordered with
  | obj distinct names values =>
    have same := rel_field? distinct names values name
    have isItems : SameMember name = SameItems := by
      funext left right
      exact if_pos listed
    rw [isItems] at same
    exact sameList_of_sameItems same

theorem Reordered.agree (reordered : Reordered draft other) {name : String}
    (notListed : name ∉ ["nodes", "edges", "variables"]) :
    Option.Rel Agree (draft.field? name) (other.field? name) := by
  cases reordered with
  | obj distinct names values =>
    have same := rel_field? distinct names values name
    have isAgree : SameMember name = Agree := by
      funext left right
      exact if_neg notListed
    rwa [isAgree] at same

theorem findRootNodeId_agree (wellFormed : WellFormedDraft host draft)
    (reordered : Reordered draft other) :
    Option.Rel Agree (findRootNodeId draft) (findRootNodeId other) := by
  have ids : ((nodesOf draft).map idOf).Perm ((nodesOf other).map idOf) :=
    (reordered.sameList (by simp)).map_perm fun node listed node' agree =>
      idOf_eq (wellFormed.nodeIds.texts node listed) agree
  have targets : ((edgesOf draft).map toNode).Perm ((edgesOf other).map toNode) :=
    (reordered.sameList (by simp)).map_perm fun edge listed edge' agree =>
      toNode_eq wellFormed listed agree
  have roots : (((nodesOf draft).map idOf).filter fun id =>
      !((edgesOf draft).map toNode).contains id).Perm
        (((nodesOf other).map idOf).filter fun id =>
          !((edgesOf other).map toNode).contains id) := by
    have sameTest : (fun id : Json => !((edgesOf draft).map toNode).contains id) =
        fun id => !((edgesOf other).map toNode).contains id := by
      funext id
      rw [List.contains_eq_mem, List.contains_eq_mem, decide_eq_decide.mpr targets.mem_iff]
    rw [sameTest]
    exact ids.filter _
  have given := agree_truthy? (reordered.agree (by simp : "rootNodeId" ∉ _))
  unfold findRootNodeId
  generalize truthy? (draft.field? "rootNodeId") = left at given
  generalize truthy? (other.field? "rootNodeId") = right at given
  cases given with
  | some agree => exact .some agree
  | none =>
    dsimp only
    rw [soleOf_eq_of_perm roots]
    exact rel_agree_refl _

theorem rootNodeIdOf_agree (wellFormed : WellFormedDraft host draft)
    (reordered : Reordered draft other) :
    Option.Rel Agree (rootNodeIdOf draft) (rootNodeIdOf other) := by
  have given := agree_present (reordered.agree (by simp : "rootNodeId" ∉ _))
  unfold rootNodeIdOf
  generalize present (draft.field? "rootNodeId") = left at given
  generalize present (other.field? "rootNodeId") = right at given
  cases given with
  | some agree => exact .some agree
  | none => exact findRootNodeId_agree wellFormed reordered

theorem forall₂_map {left right : List Json} (agree : List.Forall₂ Agree left right)
    {image imageOther : Json → Json}
    (alike : ∀ item ∈ left, ∀ other, Agree item other → Agree (image item) (imageOther other)) :
    List.Forall₂ Agree (left.map image) (right.map imageOther) := by
  induction agree with
  | nil => exact .nil
  | cons agree _ ih =>
    exact .cons (alike _ List.mem_cons_self _ agree)
      (ih fun item listed => alike item (List.mem_cons_of_mem _ listed))

theorem contractInput_agree (collates : Collates host.localeCompare)
    (staticPolicy : P2pStaticPolicy) (wellFormed : WellFormedDraft host draft)
    (distinguishable : Distinguishable host draft) (reordered : Reordered draft other) :
    MembersAgree (contractInput host draft staticPolicy) (contractInput host other staticPolicy) := by
  have sortedNodes := sortByName_agree collates wellFormed.nodeIds distinguishable.nodes
    (reordered.sameList (by simp))
  have sortedEdges := sortByName_agree collates wellFormed.edgeIds distinguishable.edges
    (reordered.sameList (by simp))
  have sortedVariables := sortByName_agree collates wellFormed.variableNames
    distinguishable.definitions (reordered.sameList (by simp))
  have nodes : List.Forall₂ Agree
      ((sortByName host "id" (nodesOf draft)).map (compileNode · (edgesOf draft)))
      ((sortByName host "id" (nodesOf other)).map (compileNode · (edgesOf other))) := by
    apply forall₂_map sortedNodes
    intro node listed node' agree
    have isNode := (List.perm_insertionSort _ _).mem_iff.mp listed
    exact compileNode_agree wellFormed (reordered.sameList (by simp))
      (wellFormed.nodeIds.texts node isNode) agree
  unfold contractInput
  refine .cons ⟨rfl, .same _⟩ (.cons ⟨rfl, ?_⟩ (.cons ⟨rfl, ?_⟩ (.cons ⟨rfl, ?_⟩ (.cons ⟨rfl, ?_⟩
    (.cons ⟨rfl, ?_⟩ (.cons ⟨rfl, ?_⟩ (.cons ⟨rfl, ?_⟩ (.cons ⟨rfl, .same _⟩ .nil))))))))
  · exact agree_getD (reordered.agree (by simp)) _
  · exact agree_getD (rootNodeIdOf_agree wellFormed reordered) _
  · exact Agree.arr_iff.mpr nodes
  · exact Agree.arr_iff.mpr sortedEdges
  · exact Agree.arr_iff.mpr sortedVariables
  · exact loopBudgets_agree (agree_present (reordered.agree (by simp)))
  · rw [deriveRequiredCapabilities_eq nodes]
    exact .same _

theorem contractInput_distinct (host : Host) (draft : Json) (staticPolicy : P2pStaticPolicy) :
    ((contractInput host draft staticPolicy).map Prod.fst).Nodup := by
  change ["schemaVersion", "workflowId", "rootNodeId", "nodes", "edges", "variables", "loopBudgets",
    "derivedRequiredCapabilities", "staticPolicyHash"].Nodup
  decide

theorem compiledWorkflow_agree (collates : Collates host.localeCompare)
    (staticPolicy : P2pStaticPolicy) (wellFormed : WellFormedDraft host draft)
    (distinguishable : Distinguishable host draft) (reordered : Reordered draft other) :
    Agree (compiledWorkflow host draft staticPolicy) (compiledWorkflow host other staticPolicy) := by
  have members := contractInput_agree collates staticPolicy wellFormed distinguishable reordered
  have contract := Agree.obj_of_forall₂ (contractInput_distinct host draft staticPolicy) members
  have distinct : ((contractInput host draft staticPolicy ++ [("diagnostics", Json.arr []),
      ("workflowContractHash", .str (stableHash (stableStringify host.numberText
        (.obj (contractInput host draft staticPolicy)))))]).map Prod.fst).Nodup := by
    change ["schemaVersion", "workflowId", "rootNodeId", "nodes", "edges", "variables",
      "loopBudgets", "derivedRequiredCapabilities", "staticPolicyHash", "diagnostics",
      "workflowContractHash"].Nodup
    decide
  apply Agree.obj_of_forall₂ distinct
  rw [stableStringify_eq_of_agree host.numberText contract]
  exact List.rel_append members (.cons ⟨rfl, .same _⟩ (.cons ⟨rfl, .same _⟩ .nil))

end Contracts

/-- What is accepted is safely looped, and the order of a draft is not in what it is compiled to. -/
theorem compileP2pWorkflowDraft_looped_canonical (host : Host) (staticPolicy : P2pStaticPolicy) :
    (∀ draft workflow diagnostics,
      compileP2pWorkflowDraft host draft staticPolicy = .ok (.accepted workflow diagnostics) →
        SafelyLooped host draft workflow) ∧
    ∀ draft other workflow otherWorkflow diagnostics otherDiagnostics,
      compileP2pWorkflowDraft host draft staticPolicy = .ok (.accepted workflow diagnostics) →
      compileP2pWorkflowDraft host other staticPolicy =
        .ok (.accepted otherWorkflow otherDiagnostics) →
      Collates host.localeCompare → Distinguishable host draft → Reordered draft other →
        Agree workflow otherWorkflow ∧
          workflow.field? "workflowContractHash" =
            otherWorkflow.field? "workflowContractHash" := by
  constructor
  · intro draft workflow diagnostics accepted
    obtain ⟨wellFormed, rfl⟩ := wellFormed_of_accepted accepted
    exact safelyLooped_of_wellFormed staticPolicy wellFormed
  · intro draft other workflow otherWorkflow diagnostics otherDiagnostics accepted otherAccepted
      collates distinguishable reordered
    obtain ⟨wellFormed, rfl⟩ := wellFormed_of_accepted accepted
    obtain ⟨-, rfl⟩ := wellFormed_of_accepted otherAccepted
    have agree := compiledWorkflow_agree collates staticPolicy wellFormed distinguishable reordered
    have isHash : IsText (compiledWorkflow host draft staticPolicy) "workflowContractHash" :=
      ⟨stableHash (stableStringify host.numberText (.obj (contractInput host draft staticPolicy))),
        rfl⟩
    exact ⟨agree, isHash.field?_eq agree⟩

/-! ## A review that goes back -/

section FixedDrafts

private def unitCompare (first second : String) : Int :=
  if utf16 first < utf16 second then -1 else if utf16 second < utf16 first then 1 else 0

private theorem collates_unitCompare : Collates unitCompare where
  swap first second := by
    unfold unitCompare
    rcases lt_trichotomy (utf16 first) (utf16 second) with before | same | after
    · simp [before, before.not_gt]
    · simp [same]
    · simp [after, after.not_gt]
  trans first second third before after := by
    have notAfter : ∀ first second, unitCompare first second ≤ 0 ↔ utf16 first ≤ utf16 second := by
      intro first second
      unfold unitCompare
      rcases lt_trichotomy (utf16 first) (utf16 second) with before | same | after
      · simp [before, before.le]
      · simp [same]
      · simp [after, after.not_gt]
    rw [notAfter] at before after ⊢
    exact before.trans after

private theorem tellsApart_unitCompare (name : String) (items : List Json) :
    TellsApart unitCompare name items := by
  intro item _ other _ tied
  unfold unitCompare at tied
  split at tied
  · cases tied
  · next notBefore =>
      split at tied
      · cases tied
      · next notAfter =>
          exact Utf16.utf16_injective (le_antisymm (not_lt.mp notAfter) (not_lt.mp notBefore))

private def plainHost : Host where
  numberText := integerText
  localeCompare := unitCompare
  inherits _ name := inheritedNames.contains name

private def plainPolicy : P2pStaticPolicy where
  maxNodes := 64
  maxEdges := 128
  maxLoopBudget := 8
  allowedExecutables := []
  allowInterpreterScripts := false
  allowOpenSpecArtifacts := false
  allowImplementationPermission := false
  maxPromptAppendBytes := 16 * 1024
  maxAdvancedRuns := 2
  maxScripts := 4

private def reviewNode (id : String) : Json :=
  .obj [("id", .str id), ("nodeKind", .str "llm"), ("preset", .str "review")]

private def plainEdge (id source target : String) : Json :=
  .obj [("id", .str id), ("fromNodeId", .str source), ("toNodeId", .str target),
    ("edgeKind", .str "default")]

private def reworkEdge : Json :=
  .obj [("id", .str "rework"), ("fromNodeId", .str "check"), ("toNodeId", .str "write"),
    ("edgeKind", .str "conditional"),
    ("condition", .obj [("kind", .str "verdict_marker_equals"), ("equals", .str "REWORK")])]

private def reviewOf (nodes edges : List Json) (budgets : List (String × Json)) :
    List (String × Json) :=
  [("schemaVersion", .num 1), ("id", .str "review"), ("nodes", .arr nodes),
    ("edges", .arr edges), ("loopBudgets", .obj budgets)]

private def review : List (String × Json) :=
  reviewOf [reviewNode "start", reviewNode "write", reviewNode "check"]
    [plainEdge "begin" "start" "write", plainEdge "hand" "write" "check", reworkEdge]
    [("hand", .num 1), ("rework", .num 2)]

private def reviewAgain : List (String × Json) :=
  reviewOf [reviewNode "start", reviewNode "check", reviewNode "write"]
    [plainEdge "begin" "start" "write", reworkEdge, plainEdge "hand" "write" "check"]
    [("rework", .num 2), ("hand", .num 1)]

private theorem budgets_agree :
    Agree (.obj [("hand", .num 1), ("rework", .num 2)])
      (.obj [("rework", .num 2), ("hand", .num 1)]) := by
  apply Agree.obj
  · decide
  · exact List.Perm.swap "rework" "hand" []
  intro name left right isLeft isRight
  simp only [List.mem_cons, Prod.mk.injEq, List.not_mem_nil, or_false] at isLeft isRight
  rcases isLeft with ⟨rfl, rfl⟩ | ⟨rfl, rfl⟩
  · rcases isRight with ⟨same, -⟩ | ⟨-, rfl⟩
    · exact absurd same (by decide)
    · exact Agree.same _
  · rcases isRight with ⟨-, rfl⟩ | ⟨same, -⟩
    · exact Agree.same _
    · exact absurd same (by decide)

private theorem sameList_swap (first second third : Json) :
    SameItems (.arr [first, second, third]) (.arr [first, third, second]) :=
  .moved ⟨[first, third, second], .cons first (.swap third second []),
    List.forall₂_same.mpr fun item _ => Agree.same item⟩

private theorem reordered_review : Reordered (.obj review) (.obj reviewAgain) := by
  have distinct : (review.map Prod.fst).Nodup := by decide
  have members : List.Forall₂ (fun left right : String × Json =>
      left.1 = right.1 ∧ SameMember left.1 left.2 right.2) review reviewAgain :=
    .cons ⟨rfl, Agree.same _⟩ (.cons ⟨rfl, Agree.same _⟩ (.cons ⟨rfl, sameList_swap _ _ _⟩
      (.cons ⟨rfl, sameList_swap _ _ _⟩ (.cons ⟨rfl, budgets_agree⟩ .nil))))
  obtain ⟨names, values⟩ := members_of_forall₂ distinct members
  exact .obj distinct names values

private def accepts (draft : Json) : Bool :=
  match compileP2pWorkflowDraft plainHost draft plainPolicy with
  | .ok (.accepted _ _) => true
  | _ => false

private theorem exists_of_accepts {draft : Json} (isAccepted : accepts draft = true) :
    ∃ workflow diagnostics,
      compileP2pWorkflowDraft plainHost draft plainPolicy = .ok (.accepted workflow diagnostics) := by
  unfold accepts at isAccepted
  split at isAccepted
  · next workflow diagnostics compiled => exact ⟨workflow, diagnostics, compiled⟩
  · cases isAccepted

theorem compileP2pWorkflowDraft_looped_canonical_review :
    ∃ workflow otherWorkflow diagnostics otherDiagnostics,
      compileP2pWorkflowDraft plainHost (.obj review) plainPolicy =
        .ok (.accepted workflow diagnostics) ∧
      compileP2pWorkflowDraft plainHost (.obj reviewAgain) plainPolicy =
        .ok (.accepted otherWorkflow otherDiagnostics) ∧
      SafelyLooped plainHost (.obj review) workflow ∧ Agree workflow otherWorkflow := by
  have isAccepted : accepts (.obj review) = true := by decide +kernel
  have otherIsAccepted : accepts (.obj reviewAgain) = true := by decide +kernel
  obtain ⟨workflow, diagnostics, accepted⟩ := exists_of_accepts isAccepted
  obtain ⟨otherWorkflow, otherDiagnostics, otherAccepted⟩ := exists_of_accepts otherIsAccepted
  have apart : Distinguishable plainHost (.obj review) :=
    ⟨tellsApart_unitCompare _ _, tellsApart_unitCompare _ _, tellsApart_unitCompare _ _⟩
  obtain ⟨looped, canonical⟩ := compileP2pWorkflowDraft_looped_canonical plainHost plainPolicy
  exact ⟨workflow, otherWorkflow, diagnostics, otherDiagnostics, accepted, otherAccepted,
    looped _ _ _ accepted, (canonical _ _ _ _ _ _ accepted otherAccepted collates_unitCompare apart
      reordered_review).1⟩

end FixedDrafts

end ImCodes.Workflow
