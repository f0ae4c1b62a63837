import Mathlib.Data.Rat.Defs
import ImCodes.Library.Outcomes
import ImCodes.Workflow.Compiler

/-!
# What is accepted

An accepted draft has distinct ids that are texts, edges between its nodes, a root that reaches all
of them and a budget for every edge that leads back. So every cycle has a budget.
-/

set_option autoImplicit false

namespace ImCodes.Workflow

open Library Library.Json Relation

/-! ## No errors -/

section
variable {diagnostics others : List P2pWorkflowDiagnostic} {diagnostic : P2pWorkflowDiagnostic}

theorem noErrors_iff :
    noErrors diagnostics = true ↔ ∀ diagnostic ∈ diagnostics, diagnostic.severity ≠ .error := by
  simp [noErrors, List.any_eq_false]

theorem noErrors_append :
    noErrors (diagnostics ++ others) = true ↔
      noErrors diagnostics = true ∧ noErrors others = true := by
  simp [noErrors_iff, or_imp, forall_and]

theorem noErrors_report {fault : Bool} (isError : diagnostic.severity = .error)
    (passed : noErrors (report fault diagnostic) = true) : fault = false := by
  rw [noErrors_iff] at passed
  cases isFault : fault with
  | false => rfl
  | true => exact absurd isError (passed diagnostic (mem_report.mpr ⟨isFault, rfl⟩))

theorem noErrors_flatMap {Item : Type} {items : List Item}
    {faults : Item → List P2pWorkflowDiagnostic} :
    noErrors (items.flatMap faults) = true ↔ ∀ item ∈ items, noErrors (faults item) = true := by
  simp only [noErrors_iff, List.mem_flatMap]
  constructor
  · intro passed item listed diagnostic isFault
    exact passed diagnostic ⟨item, listed, isFault⟩
  · rintro passed diagnostic ⟨item, listed, isFault⟩
    exact passed item listed diagnostic isFault

theorem noErrors_singleton (isError : diagnostic.severity = .error) :
    noErrors [diagnostic] = false := by
  simp [noErrors, isError]

theorem noErrors_reportEach {Item : Type} {items : List Item}
    {validate : Item → String → List P2pWorkflowDiagnostic} {path : String}
    (passed : noErrors (reportEach validate path items) = true) :
    ∀ item ∈ items, ∃ place, noErrors (validate item place) = true := by
  intro item listed
  obtain ⟨index, inside, rfl⟩ := List.mem_iff_getElem.mp listed
  refine ⟨_, noErrors_flatMap.mp passed (items[index], index) ?_⟩
  exact List.mem_zipIdx_iff_getElem?.mpr (List.getElem?_eq_getElem inside)

end

/-! ## The shape of a draft -/

def IsText (value : Json) (name : String) : Prop := ∃ text, value.field? name = some (.str text)

theorem isText_of_isVisibleText {value : Json} {name : String}
    (visible : isVisibleText (value.field? name) = true) : IsText value name := by
  unfold isVisibleText at visible
  split at visible
  · next text isField => exact ⟨text, isField⟩
  · cases visible

/-- Ids of items that are told apart. -/
structure Identified (name : String) (items : List Json) : Prop where
  texts : ∀ item ∈ items, IsText item name
  distinct : (items.map fun item => textOf (item.field? name)).Nodup

theorem distinct_of_itemFaults {path summary : String}
    {faults : Json → List P2pWorkflowDiagnostic} {seen items : List Json}
    (passed : noErrors (itemFaults path summary faults seen items) = true) :
    (items.map idOf).Nodup ∧ (∀ item ∈ items, idOf item ∉ seen) ∧
      ∀ item ∈ items, noErrors (faults item) = true := by
  induction items generalizing seen with
  | nil => exact ⟨List.nodup_nil, nofun, nofun⟩
  | cons item rest ih =>
    rw [itemFaults, noErrors_append, noErrors_append] at passed
    obtain ⟨⟨ofSeen, ofItem⟩, ofRest⟩ := passed
    have isNew := noErrors_report rfl ofSeen
    rw [List.contains_eq_mem, decide_eq_false_iff_not] at isNew
    obtain ⟨distinct, unseen, passed⟩ := ih ofRest
    refine ⟨?_, ?_, ?_⟩
    · rw [List.map_cons, List.nodup_cons]
      refine ⟨?_, distinct⟩
      intro again
      obtain ⟨other, listed, same⟩ := List.mem_map.mp again
      exact unseen other listed (same ▸ List.mem_cons_self)
    · intro other listed
      rcases List.mem_cons.mp listed with rfl | later
      · exact isNew
      · exact fun isSeen => unseen other later (List.mem_cons_of_mem _ isSeen)
    · intro other listed
      rcases List.mem_cons.mp listed with rfl | later
      · exact ofItem
      · exact passed other later

theorem identified_of_distinct {items : List Json} (texts : ∀ item ∈ items, IsText item "id")
    (distinct : (items.map idOf).Nodup) : Identified "id" items where
  texts
  distinct := by
    rw [List.nodup_map_iff_inj_on (List.Nodup.of_map _ distinct)]
    intro item listed other otherListed same
    apply List.inj_on_of_nodup_map distinct listed otherListed
    obtain ⟨text, isText⟩ := texts item listed
    obtain ⟨otherText, isOther⟩ := texts other otherListed
    rw [isText, isOther] at same
    rw [idOf, idOf, isText, isOther, show text = otherText from same]

/-- What the compiler relies on in a draft that it accepted. -/
structure WellFormedDraft (host : Host) (draft : Json) : Prop where
  isObject : draft.isObject = true
  nodes : draft.field? "nodes" = some (.arr (nodesOf draft))
  edges : draft.field? "edges" = some (.arr (edgesOf draft))
  definitions : draft.field? "variables" = none ∨
    draft.field? "variables" = some (.arr (variablesOf draft))
  nodeIds : Identified "id" (nodesOf draft)
  edgeIds : Identified "id" (edgesOf draft)
  variableNames : Identified "name" (variablesOf draft)
  endpoints : ∀ edge ∈ edgesOf draft, fromNode edge ∈ (nodesOf draft).map idOf ∧
    toNode edge ∈ (nodesOf draft).map idOf
  rooted : ∃ root, rootNodeIdOf draft = some root ∧
    ∀ node ∈ nodesOf draft, idOf node ∈ collectReachable root (edgesOf draft)
  outgoing : ∀ node ∈ nodesOf draft, noErrors (outgoingFaults node (edgesOf draft)) = true
  budgets : ∀ edge ∈ edgesOf draft, noErrors (edgeBudgetFaults host draft edge) = true

theorem nodes_of_validateNodes {nodes : Option Json} (passed : noErrors (validateNodes nodes) = true) :
    nodes = some (.arr (itemsOf nodes)) ∧ ∀ node ∈ itemsOf nodes, IsText node "id" := by
  unfold validateNodes at passed
  split at passed
  · next node rest =>
      refine ⟨rfl, ?_⟩
      intro item listed
      obtain ⟨place, ofNode⟩ := noErrors_reportEach passed item listed
      unfold validateNodeDraft at ofNode
      dsimp only at ofNode
      split at ofNode
      · rw [noErrors_singleton rfl] at ofNode
        cases ofNode
      · simp only [noErrors_append] at ofNode
        have visible := noErrors_report rfl ofNode.1.1.1.1.1.1.1.1.1
        exact isText_of_isVisibleText (by simpa using visible)
  · rw [noErrors_singleton rfl] at passed
    cases passed

theorem edges_of_validateEdges {edges : Option Json} (passed : noErrors (validateEdges edges) = true) :
    edges = some (.arr (itemsOf edges)) ∧ ∀ edge ∈ itemsOf edges, IsText edge "id" := by
  unfold validateEdges at passed
  split at passed
  · next edges =>
      refine ⟨rfl, ?_⟩
      intro item listed
      obtain ⟨place, ofEdge⟩ := noErrors_reportEach passed item listed
      unfold validateEdgeDraft at ofEdge
      dsimp only at ofEdge
      split at ofEdge
      · rw [noErrors_singleton rfl] at ofEdge
        cases ofEdge
      · simp only [noErrors_append] at ofEdge
        have ofId := noErrors_flatMap.mp ofEdge.1.1 "id" (by simp)
        exact isText_of_isVisibleText (by simpa using noErrors_report rfl ofId)
  · rw [noErrors_singleton rfl] at passed
    cases passed

theorem names_of_validateVariablesFrom {numberText : Rat → String} {index : Nat}
    {seen definitions : List Json}
    (passed : noErrors (validateVariablesFrom numberText index seen definitions) = true) :
    (∀ definition ∈ definitions, IsText definition "name" ∧
        (definition.field? "name").getD .null ∉ seen) ∧
      (definitions.map fun definition => textOf (definition.field? "name")).Nodup := by
  induction definitions generalizing index seen with
  | nil => exact ⟨nofun, List.nodup_nil⟩
  | cons definition rest ih =>
    rw [validateVariablesFrom, noErrors_append] at passed
    obtain ⟨ofFirst, ofRest⟩ := passed
    unfold validateVariable at ofFirst ofRest
    dsimp only at ofFirst ofRest
    split at ofFirst
    · rw [noErrors_singleton rfl] at ofFirst
      cases ofFirst
    · next isRecord =>
        rw [if_neg isRecord] at ofRest
        rw [noErrors_append] at ofFirst
        have ofName := ofFirst.1
        split at ofName
        · rw [noErrors_singleton rfl] at ofName
          cases ofName
        · next isName =>
            split at ofName
            · rw [noErrors_singleton rfl] at ofName
              cases ofName
            · next isNew =>
                rw [if_neg isName, if_neg isNew] at ofRest
                have isText : IsText definition "name" := by
                  cases isField : definition.field? "name" with
                  | none => simp [isField, isVariableName] at isName
                  | some name =>
                    cases name with
                    | str text => exact ⟨text, isField⟩
                    | _ => simp [isField, isVariableName] at isName
                obtain ⟨text, isField⟩ := isText
                simp only [isField, Option.getD_some] at isNew ofRest
                obtain ⟨texts, distinct⟩ := ih ofRest
                constructor
                · intro other listed
                  rcases List.mem_cons.mp listed with rfl | later
                  · refine ⟨⟨text, isField⟩, ?_⟩
                    rw [isField, Option.getD_some]
                    simpa using isNew
                  · obtain ⟨isText, unseen⟩ := texts other later
                    exact ⟨isText, fun isSeen => unseen (List.mem_append_left _ isSeen)⟩
                · rw [List.map_cons, List.nodup_cons]
                  refine ⟨?_, distinct⟩
                  intro again
                  obtain ⟨other, later, same⟩ := List.mem_map.mp again
                  obtain ⟨⟨otherText, isOther⟩, unseen⟩ := texts other later
                  rw [isField, isOther] at same
                  apply unseen
                  rw [isOther, show otherText = text from same]
                  simp

theorem variables_of_validateVariables {numberText : Rat → String} {definitions : Option Json}
    (passed : noErrors (validateVariables numberText definitions) = true) :
    (definitions = none ∨ definitions = some (.arr (itemsOf definitions))) ∧
      Identified "name" (itemsOf definitions) := by
  unfold validateVariables at passed
  split at passed
  · exact ⟨.inl rfl, nofun, List.nodup_nil⟩
  · next definitions =>
      rw [validateP2pWorkflowVariables, noErrors_append] at passed
      obtain ⟨texts, distinct⟩ := names_of_validateVariablesFrom passed.2
      exact ⟨.inr rfl, fun definition listed => (texts definition listed).1, distinct⟩
  · rw [noErrors_singleton rfl] at passed
    cases passed

theorem outgoing_of_validateNodeGraph {host : Host} {edges nodes : List Json}
    {faults : List P2pWorkflowDiagnostic}
    (validated : validateNodeGraph host edges nodes = .ok faults)
    (passed : noErrors faults = true) :
    ∀ node ∈ nodes, noErrors (outgoingFaults node edges) = true := by
  induction nodes generalizing faults with
  | nil => exact nofun
  | cons node rest ih =>
    obtain ⟨ofLogic, -, validated⟩ := ok_of_bind validated
    obtain ⟨others, ofRest, validated⟩ := ok_of_bind validated
    cases validated
    rw [noErrors_append, noErrors_append] at passed
    intro other listed
    rcases List.mem_cons.mp listed with rfl | later
    · exact passed.1.2
    · exact ih ofRest passed.2 other later

theorem wellFormed_of_accepted {host : Host} {draft workflow : Json}
    {staticPolicy : P2pStaticPolicy} {diagnostics : List P2pWorkflowDiagnostic}
    (accepted : compileP2pWorkflowDraft host draft staticPolicy =
      .ok (.accepted workflow diagnostics)) :
    WellFormedDraft host draft ∧ workflow = compiledWorkflow host draft staticPolicy := by
  unfold compileP2pWorkflowDraft at accepted
  dsimp only at accepted
  split at accepted
  · cases accepted
  · next isValid =>
      obtain ⟨ofGraph, validated, accepted⟩ := ok_of_bind accepted
      split at accepted
      · next passed =>
          cases accepted
          refine ⟨?_, rfl⟩
          simp only [noErrors_append] at passed
          obtain ⟨⟨⟨⟨ofDraft, -⟩, ofGraph⟩, -⟩, ofBudgets⟩ := passed
          unfold validateP2pWorkflowDraft at ofDraft isValid
          split at ofDraft
          · rw [noErrors_singleton rfl] at ofDraft
            cases ofDraft
          · next isObject =>
              split at ofDraft
              · rw [noErrors_singleton rfl] at ofDraft
                cases ofDraft
              · simp only [noErrors_append] at ofDraft
                obtain ⟨⟨⟨⟨-, ofNodes⟩, ofEdges⟩, ofVariables⟩, -⟩ := ofDraft
                obtain ⟨nodes, nodeTexts⟩ := nodes_of_validateNodes ofNodes
                obtain ⟨edges, edgeTexts⟩ := edges_of_validateEdges ofEdges
                obtain ⟨definitions, names⟩ := variables_of_validateVariables ofVariables
                obtain ⟨nodeFaults, ofEach, validated⟩ := ok_of_bind validated
                cases validated
                simp only [noErrors_append] at ofGraph
                obtain ⟨⟨⟨⟨⟨-, nodesApart⟩, edgesApart⟩, ofRoot⟩, passedEach⟩, ofReach⟩ := ofGraph
                obtain ⟨distinctNodes, -, -⟩ := distinct_of_itemFaults nodesApart
                obtain ⟨distinctEdges, -, ofEndpoints⟩ := distinct_of_itemFaults edgesApart
                refine ⟨by simpa using isObject, nodes, edges, definitions,
                  identified_of_distinct nodeTexts distinctNodes,
                  identified_of_distinct edgeTexts distinctEdges, names, ?_, ?_,
                  outgoing_of_validateNodeGraph ofEach passedEach, ?_⟩
                · intro edge listed
                  have known := noErrors_report rfl (ofEndpoints edge listed)
                  simpa only [Bool.or_eq_false_iff, Bool.not_eq_false', List.contains_eq_mem,
                    decide_eq_true_eq] using known
                · unfold rootFaults at ofRoot
                  unfold reachFaults at ofReach
                  cases isRoot : truthy? (rootNodeIdOf draft) with
                  | none =>
                    rw [isRoot] at ofRoot
                    rw [noErrors_singleton rfl] at ofRoot
                    cases ofRoot
                  | some root =>
                    rw [isRoot] at ofReach
                    refine ⟨root, (Option.filter_eq_some_iff.mp isRoot).1, ?_⟩
                    intro node listed
                    have reached := noErrors_report rfl (noErrors_flatMap.mp ofReach node listed)
                    simpa only [Bool.not_eq_false', List.contains_eq_mem, decide_eq_true_eq]
                      using reached
                · exact noErrors_flatMap.mp (noErrors_append.mp ofBudgets).1
      · cases accepted

/-! ## Safe loops -/

/-- Cycles have budgets, all nodes are reached, and no node has a choice between edges of a kind. -/
structure SafelyLooped (host : Host) (draft workflow : Json) : Prop where
  budgeted : ∀ walk : List Json, (∀ edge ∈ walk, edge ∈ edgesOf draft) →
    ClosedWalk fromNode toNode walk →
      ∃ edge ∈ walk, ∃ budget : Nat, loopBudget host draft edge = .own (.num budget)
  rooted : ∃ root, workflow.field? "rootNodeId" = some root ∧ ∀ node ∈ nodesOf draft,
    ReflTransGen (Joins fromNode toNode (edgesOf draft)) root (idOf node)
  oneDefault : ∀ node ∈ nodesOf draft, (outgoing "default" node (edgesOf draft)).length ≤ 1
  oneConditional : ∀ node ∈ nodesOf draft, (outgoing "conditional" node (edgesOf draft)).length ≤ 1

theorem exists_nat_of_isLoopBudget {budget : PropertyRead} (isBudget : isLoopBudget budget = true) :
    ∃ count : Nat, budget = .own (.num count) := by
  cases budget with
  | own value =>
    cases value with
    | num value =>
      simp only [isLoopBudget, isCount, Option.all_none, Bool.and_true, Bool.and_eq_true,
        decide_eq_true_eq] at isBudget
      obtain ⟨isInteger, notNegative⟩ := isBudget
      refine ⟨value.num.toNat, ?_⟩
      have whole : ((value.num.toNat : Int) : Rat) = value := by
        rw [Int.toNat_of_nonneg (Rat.num_nonneg.mpr notNegative)]
        exact (Rat.den_eq_one_iff value).mp isInteger
      exact congrArg (fun value => PropertyRead.own (.num value)) whole.symm
    | _ => cases isBudget
  | _ => cases isBudget

theorem nodeOrder_isSome {nodes : List Json} {id : Json} (listed : id ∈ nodes.map idOf) :
    (nodeOrder nodes id).isSome = true := by
  obtain ⟨node, isNode, rfl⟩ := List.mem_map.mp listed
  obtain ⟨index, inside, rfl⟩ := List.mem_iff_getElem.mp isNode
  rw [nodeOrder, Option.isSome_map, List.find?_isSome]
  refine ⟨(nodes[index], index), List.mem_reverse.mpr ?_, decide_eq_true rfl⟩
  exact List.mem_zipIdx_iff_getElem?.mpr (List.getElem?_eq_getElem inside)

theorem budget_of_backward {host : Host} {draft edge : Json}
    (wellFormed : WellFormedDraft host draft) (listed : edge ∈ edgesOf draft)
    (backward : (nodeOrder (nodesOf draft) (toNode edge)).getD 0 ≤
      (nodeOrder (nodesOf draft) (fromNode edge)).getD 0) :
    ∃ budget : Nat, loopBudget host draft edge = .own (.num budget) := by
  obtain ⟨fromKnown, toKnown⟩ := wellFormed.endpoints edge listed
  obtain ⟨fromIndex, isFrom⟩ := Option.isSome_iff_exists.mp (nodeOrder_isSome fromKnown)
  obtain ⟨toIndex, isTo⟩ := Option.isSome_iff_exists.mp (nodeOrder_isSome toKnown)
  rw [isFrom, isTo, Option.getD_some, Option.getD_some] at backward
  have passed := wellFormed.budgets edge listed
  simp only [edgeBudgetFaults, isFrom, isTo, noErrors_append] at passed
  have isGiven := noErrors_report rfl passed.1
  have isBudget := noErrors_report rfl passed.2
  have given : loopBudget host draft edge ≠ .undefined := by
    intro missing
    simp [missing, backward] at isGiven
  apply exists_nat_of_isLoopBudget
  simpa [given] using isBudget

theorem safelyLooped_of_wellFormed {host : Host} {draft : Json} (staticPolicy : P2pStaticPolicy)
    (wellFormed : WellFormedDraft host draft) :
    SafelyLooped host draft (compiledWorkflow host draft staticPolicy) where
  budgeted := by
    intro walk listed isClosed
    obtain ⟨edge, onWalk, backward⟩ :=
      isClosed.exists_descent fun id => (nodeOrder (nodesOf draft) id).getD 0
    exact ⟨edge, onWalk, budget_of_backward wellFormed (listed edge onWalk) backward⟩
  rooted := by
    obtain ⟨root, isRoot, reached⟩ := wellFormed.rooted
    refine ⟨root, ?_, fun node listed => mem_saturate_iff.mp (reached node listed)⟩
    simp [compiledWorkflow, contractInput, field?, isRoot]
  oneDefault := by
    intro node listed
    have passed := wellFormed.outgoing node listed
    rw [outgoingFaults, noErrors_append] at passed
    simpa using noErrors_report rfl passed.1
  oneConditional := by
    intro node listed
    have passed := wellFormed.outgoing node listed
    rw [outgoingFaults, noErrors_append] at passed
    have ofConditional := passed.2
    split at ofConditional
    · next none => simp [none]
    · rw [noErrors_append, noErrors_append] at ofConditional
      simpa using noErrors_report rfl ofConditional.1.1

end ImCodes.Workflow
