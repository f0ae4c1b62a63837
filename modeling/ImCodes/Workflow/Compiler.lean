import ImCodes.Library.EdgeWalks
import ImCodes.Workflow.DraftValidation
import ImCodes.Workflow.Policy

/-!
# Compiling a workflow

A draft is a value that a user made. It is accepted if its nodes and edges make a graph that can
run, and the compiled workflow holds them in the order of their ids, with a hash of all of it.
-/

set_option autoImplicit false

namespace ImCodes.Workflow

open Library Library.Json

/-- What the compiler takes from its host. -/
structure Host where
  numberText : Rat → String
  localeCompare : String → String → Int
  /-- The prototypes of a value have a member of this name. -/
  inherits : Json → String → Bool

inductive P2pWorkflowCompileResult
  | accepted (workflow : Json) (diagnostics : List P2pWorkflowDiagnostic)
  | rejected (diagnostics : List P2pWorkflowDiagnostic)
deriving DecidableEq

/-! ## Reading a draft -/

def nodesOf (draft : Json) : List Json := itemsOf (draft.field? "nodes")

def edgesOf (draft : Json) : List Json := itemsOf (draft.field? "edges")

def variablesOf (draft : Json) : List Json := itemsOf (draft.field? "variables")

def idOf (value : Json) : Json := (value.field? "id").getD .null

def idText (value : Json) : String := textOf (value.field? "id")

def fromNode (edge : Json) : Json := (edge.field? "fromNodeId").getD .null

def toNode (edge : Json) : Json := (edge.field? "toNodeId").getD .null

def isEdgeKind (kind : String) (edge : Json) : Bool := edge.field? "edgeKind" = some (.str kind)

def outgoing (kind : String) (node : Json) (edges : List Json) : List Json :=
  edges.filter fun edge => fromNode edge = idOf node && isEdgeKind kind edge

def hasOpenspecArtifact (node : Json) : Bool :=
  (itemsOf (node.field? "artifacts")).any isOpenspecArtifact

/-! ## Properties by any name -/

/-- A text, unit by unit. Half of a pair is no text of its own. -/
def unitTexts (text : String) : List String :=
  text.toList.flatMap fun c =>
    if c.toNat < 0x10000 then [String.singleton c]
    else [String.singleton (Char.ofNat 0xFFFD), String.singleton (Char.ofNat 0xFFFD)]

def indexed (items : List Json) : List (String × Json) :=
  items.zipIdx.map fun (item, index) => (toString index, item)

/-- The properties that `Object.keys` lists, with their values. -/
def listedProperties : Json → List (String × Json)
  | .obj members => members
  | .arr items => indexed items
  | .str text => indexed ((unitTexts text).map .str)
  | _ => []

/-- The own property that is not listed. -/
def lengthProperty : Json → List (String × Json)
  | .arr items => [("length", .num items.length)]
  | .str text => [("length", .num (unitTexts text).length)]
  | _ => []

/-- What reading a property gives. What prototypes have is never a number. -/
inductive PropertyRead
  | undefined
  | inherited
  | own (value : Json)
deriving DecidableEq

/-- `value?.[name]` -/
def readProperty (host : Host) (value : Option Json) (name : String) : PropertyRead :=
  match present value with
  | none => .undefined
  | some value =>
    match (listedProperties value ++ lengthProperty value).find? fun member => member.1 = name with
    | some member => .own member.2
    | none => if host.inherits value name then .inherited else .undefined

/-- `draft.loopBudgets?.[edge.id]` -/
def loopBudget (host : Host) (draft edge : Json) : PropertyRead :=
  readProperty host (draft.field? "loopBudgets") (idText edge)

/-! ## Routing -/

def markerOf : Option Json → Option String
  | some (.str equals) => if equals = "" then none else some equals
  | _ => none

def routingMarkers (conditionalEdges : List Json) : List String :=
  sortByUtf16 (conditionalEdges.filterMap fun edge =>
    markerOf ((edge.field? "condition").bind (·.field? "equals")))

def deriveRoutingAuthority (node : Json) (edges : List Json) : Json :=
  let conditionalEdges := outgoing "conditional" node edges
  let markers := Json.arr ((routingMarkers conditionalEdges).map .str)
  if conditionalEdges = [] then .obj [("kind", .str "none")]
  else if node.field? "nodeKind" = some (.str "script") then
    .obj [("kind", .str "script_routing_key"), ("allowedKeys", markers)]
  else if node.field? "nodeKind" = some (.str "logic") then
    .obj [("kind", .str "logic_marker"), ("allowedMarkers", markers)]
  else .obj [("kind", .str "audit_verdict_marker"), ("allowedMarkers", markers)]

/-- `node.routingAuthority ?? deriveRoutingAuthority(node, edges)` -/
def routingAuthority (node : Json) (edges : List Json) : Json :=
  (present (node.field? "routingAuthority")).getD (deriveRoutingAuthority node edges)

/-! ## The graph -/

def graphFault (fieldPath : Option String) (summary : String) : P2pWorkflowDiagnostic :=
  makeP2pWorkflowDiagnostic .invalidWorkflowGraph .compile fieldPath summary

/-- The items whose ids were seen before, and what else is wrong with each. -/
def itemFaults (path summary : String) (faults : Json → List P2pWorkflowDiagnostic) :
    List Json → List Json → List P2pWorkflowDiagnostic
  | _, [] => []
  | seen, item :: rest =>
    report (seen.contains (idOf item)) (graphFault (path ++ "." ++ idText item) summary) ++
      faults item ++ itemFaults path summary faults (idOf item :: seen) rest

def soleOf : List Json → Option Json
  | [root] => some root
  | _ => none

def findRootNodeId (draft : Json) : Option Json :=
  match truthy? (draft.field? "rootNodeId") with
  | some rootNodeId => some rootNodeId
  | none =>
    let targets := (edgesOf draft).map toNode
    soleOf (((nodesOf draft).map idOf).filter fun id => !targets.contains id)

/-- `draft.rootNodeId ?? findRootNodeId(draft)` -/
def rootNodeIdOf (draft : Json) : Option Json :=
  (present (draft.field? "rootNodeId")).orElse fun _ => findRootNodeId draft

def collectReachable (rootNodeId : Json) (edges : List Json) : List Json :=
  saturate fromNode toNode edges (edges.length + 1) [rootNodeId]

def logicFaults (host : Host) (node : Json) : Except TypeError (List P2pWorkflowDiagnostic) :=
  let path := "nodes." ++ idText node ++ ".logic"
  if node.field? "nodeKind" = some (.str "logic") then
    match truthy? (node.field? "logic") with
    | none => .ok [graphFault path "Logic node MUST declare a `logic` contract."]
    | some logic => do
      let issues ← validateP2pLogicContract host.numberText logic path
      return issues.map fun issue => graphFault issue.fieldPath issue.summary
  else
    .ok (report (node.field? "logic").isSome
      (graphFault path "Only nodeKind: 'logic' nodes may declare a `logic` contract."))

/-- What is wrong with the edges that leave a node. -/
def outgoingFaults (node : Json) (edges : List Json) : List P2pWorkflowDiagnostic :=
  let path := "nodes." ++ idText node
  let conditionalOutgoing := outgoing "conditional" node edges
  report (1 < (outgoing "default" node edges).length)
      (graphFault path "Multiple default edges are not supported.") ++
    if conditionalOutgoing = [] then []
    else
      report (1 < conditionalOutgoing.length)
        (graphFault path ("Multiple conditional outgoing edges (" ++
          toString conditionalOutgoing.length ++
          ") are not supported in v1; declare at most one per node.")) ++
      report ((routingAuthority node edges).field? "kind" = some (.str "none"))
        (makeP2pWorkflowDiagnostic .invalidRoutingAuthority .compile
          (path ++ ".routingAuthority")) ++
      conditionalOutgoing.flatMap fun edge =>
        report (truthy? (edge.field? "condition")).isNone
          (makeP2pWorkflowDiagnostic .invalidEdgeCondition .compile
            ("edges." ++ idText edge ++ ".condition"))

def validateNodeGraph (host : Host) (edges : List Json) :
    List Json → Except TypeError (List P2pWorkflowDiagnostic)
  | [] => .ok []
  | node :: rest => do
    let ofLogic ← logicFaults host node
    let others ← validateNodeGraph host edges rest
    return ofLogic ++ outgoingFaults node edges ++ others

def openspecFaults (nodes : List Json) : List P2pWorkflowDiagnostic :=
  let openspecNodeIds := (nodes.filter hasOpenspecArtifact).map idText
  report (1 < openspecNodeIds.length)
    (graphFault none ("At most one node may declare an openspec_convention artifact contract per " ++
      "workflow (found: " ++ String.intercalate ", " openspecNodeIds ++ ")."))

def endpointFaults (nodes : List Json) (edge : Json) : List P2pWorkflowDiagnostic :=
  let nodeIds := nodes.map idOf
  report (!nodeIds.contains (fromNode edge) || !nodeIds.contains (toNode edge))
    (graphFault ("edges." ++ idText edge) "Edge points to missing node.")

def rootFaults (draft : Json) : List P2pWorkflowDiagnostic :=
  match truthy? (rootNodeIdOf draft) with
  | none => [graphFault "rootNodeId" "Workflow must have exactly one root."]
  | some rootNodeId =>
    report (!((nodesOf draft).map idOf).contains rootNodeId)
      (graphFault "rootNodeId" "Workflow must have exactly one root.")

def reachFaults (draft : Json) : List P2pWorkflowDiagnostic :=
  match truthy? (rootNodeIdOf draft) with
  | none => []
  | some rootNodeId =>
    let reachable := collectReachable rootNodeId (edgesOf draft)
    (nodesOf draft).flatMap fun node =>
      report (!reachable.contains (idOf node))
        (graphFault ("nodes." ++ idText node) "Unreachable node.")

def validateGraphShape (host : Host) (draft : Json) :
    Except TypeError (List P2pWorkflowDiagnostic) := do
  let ofNodes ← validateNodeGraph host (edgesOf draft) (nodesOf draft)
  return openspecFaults (nodesOf draft) ++
    itemFaults "nodes" "Duplicate node id." (fun _ => []) [] (nodesOf draft) ++
    itemFaults "edges" "Duplicate edge id." (endpointFaults (nodesOf draft)) [] (edgesOf draft) ++
    rootFaults draft ++ ofNodes ++ reachFaults draft

/-! ## Loop budgets -/

def nodeOrder (nodes : List Json) (id : Json) : Option Nat :=
  (nodes.zipIdx.reverse.find? fun (node, _) => idOf node = id).map Prod.snd

def isLoopBudget : PropertyRead → Bool
  | .own value => isCount none value
  | _ => false

def edgeBudgetFaults (host : Host) (draft edge : Json) : List P2pWorkflowDiagnostic :=
  let path := "loopBudgets." ++ idText edge
  let budget := loopBudget host draft edge
  match nodeOrder (nodesOf draft) (fromNode edge), nodeOrder (nodesOf draft) (toNode edge) with
  | some fromIndex, some toIndex =>
    report (toIndex ≤ fromIndex && budget = .undefined)
        (graphFault path "Backward edges require edge-scoped loop budgets.") ++
      report (budget ≠ .undefined && !isLoopBudget budget)
        (graphFault path "Loop budget must be a non-negative integer.")
  | _, _ => []

/-- `draft.loopBudgets ?? {}` -/
def loopBudgetsOf (draft : Json) : List (String × Json) :=
  ((present (draft.field? "loopBudgets")).map listedProperties).getD []

def validateLoopBudgets (host : Host) (draft : Json) : List P2pWorkflowDiagnostic :=
  (edgesOf draft).flatMap (edgeBudgetFaults host draft) ++
    (loopBudgetsOf draft).flatMap fun (budget : String × Json) =>
      report (!(edgesOf draft).any fun edge => idOf edge = .str budget.1)
        (graphFault ("loopBudgets." ++ budget.1) "Loop budgets must be keyed by edge id.")

/-! ## The compiled workflow -/

def carried (name : String) (node : Json) : List (String × Json) :=
  ((truthy? (node.field? name)).map fun value => (name, value)).toList

def compileNode (node : Json) (edges : List Json) : Json :=
  .obj ([("id", idOf node)] ++ carried "title" node ++
    [("nodeKind", (node.field? "nodeKind").getD .null),
      ("preset", (node.field? "preset").getD .null)] ++
    carried "dispatchStyle" node ++
    [("permissionScope", (present (node.field? "permissionScope")).getD (.str "analysis_only"))] ++
    carried "promptAppend" node ++ carried "summaryPromptOverride" node ++
    [("routingAuthority", routingAuthority node edges)] ++
    carried "script" node ++ carried "logic" node ++
    [("artifacts", .arr (itemsOf (node.field? "artifacts")))])

def isKind (kind : String) (node : Json) : Bool := node.field? "nodeKind" = some (.str kind)

def usesInterpreter (node : Json) : Bool :=
  isKind "script" node &&
    ((node.field? "script").bind (·.field? "commandKind")) = some (.str "interpreter")

def deriveRequiredCapabilities (nodes : List Json) : List String :=
  sortByUtf16 (["p2p.workflow.v1"] ++
    report (nodes.any (isKind "script")) "p2p.workflow.script.argv.v1" ++
    report (nodes.any usesInterpreter) "p2p.workflow.script.interpreter.v1" ++
    report (nodes.any hasOpenspecArtifact) "p2p.workflow.openspec-artifacts.v1" ++
    report (nodes.any fun node => node.field? "permissionScope" = some (.str "implementation"))
      "p2p.workflow.implementation.v1")

def sortByName (host : Host) (name : String) (values : List Json) : List Json :=
  values.insertionSort fun left right =>
    host.localeCompare (textOf (left.field? name)) (textOf (right.field? name)) ≤ 0

def sortedRecord (input : List (String × Json)) : Json :=
  .obj (PropertyObject.empty.assign (sortMembers input)).entries

/-- What the hash of a workflow is made of. -/
def contractInput (host : Host) (draft : Json) (staticPolicy : P2pStaticPolicy) :
    List (String × Json) :=
  let nodes := (sortByName host "id" (nodesOf draft)).map (compileNode · (edgesOf draft))
  [("schemaVersion", .num 1), ("workflowId", idOf draft),
    ("rootNodeId", (rootNodeIdOf draft).getD .null),
    ("nodes", .arr nodes),
    ("edges", .arr (sortByName host "id" (edgesOf draft))),
    ("variables", .arr (sortByName host "name" (variablesOf draft))),
    ("loopBudgets", sortedRecord (loopBudgetsOf draft)),
    ("derivedRequiredCapabilities", .arr ((deriveRequiredCapabilities nodes).map .str)),
    ("staticPolicyHash", .str (hashP2pStaticPolicy host.numberText staticPolicy))]

def compiledWorkflow (host : Host) (draft : Json) (staticPolicy : P2pStaticPolicy) : Json :=
  let contract := contractInput host draft staticPolicy
  .obj (contract ++ [("diagnostics", .arr []),
    ("workflowContractHash", .str (stableHash (stableStringify host.numberText (.obj contract))))])

def sizeFaults (draft : Json) (staticPolicy : P2pStaticPolicy) : List P2pWorkflowDiagnostic :=
  report (staticPolicy.maxNodes < (nodesOf draft).length ||
      staticPolicy.maxEdges < (edgesOf draft).length)
    (graphFault none "Workflow exceeds static policy size limits.")

def compileP2pWorkflowDraft (host : Host) (draft : Json) (staticPolicy : P2pStaticPolicy) :
    Except TypeError P2pWorkflowCompileResult :=
  let draftValidation := validateP2pWorkflowDraft host.numberText draft
  if !draftValidation.1 then .ok (.rejected draftValidation.2)
  else do
    let ofGraph ← validateGraphShape host draft
    let diagnostics := draftValidation.2 ++ sizeFaults draft staticPolicy ++ ofGraph ++
      validateP2pWorkflowVariables host.numberText (variablesOf draft) ++
      validateLoopBudgets host draft
    return if noErrors diagnostics then
        .accepted (compiledWorkflow host draft staticPolicy) diagnostics
      else .rejected diagnostics

end ImCodes.Workflow
