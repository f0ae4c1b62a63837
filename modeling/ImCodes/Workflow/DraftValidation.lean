import ImCodes.Workflow.Contracts

/-!
# What a draft of a workflow must be

The shape of a draft: its nodes, edges, variables and start context, each fault with the path of the
field it is in. Whether the edges make a graph that can run is not asked here.
-/

set_option autoImplicit false

namespace ImCodes.Workflow

open Library Library.Json

/-! ## Variables -/

def isP2pWorkflowVariableValue : Option Json → Bool
  | some (.str _) | some (.num _) | some (.bool _) => true
  | some (.arr items) => items.all isString
  | _ => false

/-- `VARIABLE_NAME_RE` -/
def isVariableName : Json → Bool
  | .str name =>
    isIdentifier Char.isLower (fun c => c.isLower || c.isDigit || c = '_') 64 name
  | _ => false

def validateVariable (numberText : Rat → String) (seen : List Json) (definition : Json)
    (fieldPath : String) : List P2pWorkflowDiagnostic × List Json :=
  let make (path : String) (summary : Option String) :=
    makeP2pWorkflowDiagnostic .invalidWorkflowVariable .compile path summary
  if !definition.isObject then ([make fieldPath none], seen)
  else
    let name := (definition.field? "name").getD .null
    let ofName :=
      if !isVariableName name then ([make (fieldPath ++ ".name") none], seen)
      else if seen.contains name then
        ([make (fieldPath ++ ".name") (some "Duplicate workflow variable.")], seen)
      else ([], seen ++ [name])
    let value := definition.field? "value"
    let ofValue :=
      if !isP2pWorkflowVariableValue value then [make (fieldPath ++ ".value") none]
      else
        report (8 * 1024 < byteLength (stringify numberText (value.getD .null)))
          (make (fieldPath ++ ".value") (some "Workflow variable exceeds byte limit."))
    (ofName.1 ++ ofValue, ofName.2)

def validateVariablesFrom (numberText : Rat → String) :
    Nat → List Json → List Json → List P2pWorkflowDiagnostic
  | _, _, [] => []
  | index, seen, definition :: rest =>
    let first :=
      validateVariable numberText seen definition ("variables[" ++ toString index ++ "]")
    first.1 ++ validateVariablesFrom numberText (index + 1) first.2 rest

def validateP2pWorkflowVariables (numberText : Rat → String) (input : List Json) :
    List P2pWorkflowDiagnostic :=
  report (64 < input.length)
      (makeP2pWorkflowDiagnostic .invalidWorkflowVariable .compile none
        (some "Too many workflow variables.")) ++
    validateVariablesFrom numberText 0 [] input

/-! ## Nodes -/

def nodeKinds : List String := ["llm", "logic", "script"]

def presetKeys : List String :=
  ["brainstorm", "discuss", "audit", "review", "plan", "openspec_propose", "proposal_audit",
    "implementation", "implementation_audit", "custom"]

def isOpenspecArtifact (artifact : Json) : Bool :=
  artifact.field? "convention" = some (.str "openspec_convention")

def itemsOf : Option Json → List Json
  | some (.arr items) => items
  | _ => []

def quoted (text : String) : String := "'" ++ text ++ "'"

/-- What of the kind, the preset and the scope does not go together: the field and why. -/
def combinationFaults (node : Json) : List (Option String × String) :=
  let scope := (present (node.field? "permissionScope")).getD (.str "analysis_only")
  if !isOneOf (node.field? "nodeKind") nodeKinds || !isOneOf (node.field? "preset") presetKeys ||
      !isOneOf (some scope) permissionScopes then []
  else
    let nodeKind := textOf (node.field? "nodeKind")
    let preset := textOf (node.field? "preset")
    let scope := textOf (some scope)
    let artifacts := itemsOf (node.field? "artifacts")
    if nodeKind = "logic" then
      report (preset ≠ "custom")
          (some "preset", "logic node requires preset='custom' (got " ++ quoted preset ++ ").") ++
        report (scope ≠ "analysis_only")
          (some "permissionScope",
            "logic node requires permissionScope='analysis_only' (got " ++ quoted scope ++ ").")
    else if nodeKind = "script" then
      report (preset ≠ "custom")
        (some "preset", "script node requires preset='custom' (got " ++ quoted preset ++ ").")
    else if preset = "audit" ∨ preset = "proposal_audit" ∨ preset = "implementation_audit" then
      report (scope ≠ "analysis_only")
        (some "permissionScope", "preset " ++ quoted preset ++
          " requires permissionScope='analysis_only' (got " ++ quoted scope ++ ").")
    else if preset = "openspec_propose" then
      if scope ≠ "artifact_generation" then
        [(some "permissionScope",
          "preset 'openspec_propose' requires permissionScope='artifact_generation' (got " ++
            quoted scope ++ ").")]
      else
        report (!artifacts.any isOpenspecArtifact)
          (some "artifacts",
            "preset 'openspec_propose' requires an artifact with convention='openspec_convention'.")
    else if preset = "implementation" then
      report (scope ≠ "implementation")
        (some "permissionScope",
          "preset 'implementation' requires permissionScope='implementation' (got " ++
            quoted scope ++ ").")
    else if scope = "analysis_only" then []
    else if scope = "artifact_generation" then
      report (artifacts.length = 0)
        (some "artifacts",
          "permissionScope='artifact_generation' requires at least one artifact contract.")
    else
      [(none, "Invalid nodeKind/preset/permissionScope combination: " ++ nodeKind ++ "/" ++ preset ++
        "/" ++ scope ++ ".")]

def validateNodeCombination (node : Json) (fieldPath : String) : List P2pWorkflowDiagnostic :=
  (combinationFaults node).map fun (subPath, summary) =>
    makeP2pWorkflowDiagnostic .invalidWorkflowGraph .compile
      (match subPath with
        | some subPath => fieldPath ++ "." ++ subPath
        | none => fieldPath) (some summary)

/-- `P2P_WORKFLOW_MAX_PROMPT_APPEND_BYTES` -/
def maxPromptAppendBytes : Nat := 16 * 1024

def validateArtifacts (artifacts : Option Json) (fieldPath : String) : List P2pWorkflowDiagnostic :=
  match artifacts with
  | none => []
  | some (.arr artifacts) => reportEach validateP2pArtifactContract fieldPath artifacts
  | some _ => [makeP2pWorkflowDiagnostic .unsafeArtifactPath .compile fieldPath]

def validateNodeDraft (node : Json) (fieldPath : String) : List P2pWorkflowDiagnostic :=
  let graph (path : String) := makeP2pWorkflowDiagnostic .invalidWorkflowGraph .compile path
  if !node.isObject then [graph fieldPath]
  else
    report (!isVisibleText (node.field? "id")) (graph (fieldPath ++ ".id")) ++
    report (!isOneOf (node.field? "nodeKind") nodeKinds) (graph (fieldPath ++ ".nodeKind")) ++
    report (!isOneOf (node.field? "preset") presetKeys) (graph (fieldPath ++ ".preset")) ++
    report (!undefinedOr (node.field? "dispatchStyle") fun value =>
      isOneOf (some value) ["single_main", "multi_dispatch"])
      (graph (fieldPath ++ ".dispatchStyle")) ++
    report (!undefinedOr (node.field? "permissionScope") fun value =>
      isOneOf (some value) permissionScopes) (graph (fieldPath ++ ".permissionScope")) ++
    validateNodeCombination node fieldPath ++
    report (maxPromptAppendBytes < byteLength (textOf (node.field? "promptAppend")))
      (makeP2pWorkflowDiagnostic .invalidPromptAppend .compile (fieldPath ++ ".promptAppend")) ++
    report (maxPromptAppendBytes < byteLength (textOf (node.field? "summaryPromptOverride")))
      (makeP2pWorkflowDiagnostic .invalidPromptAppend .compile
        (fieldPath ++ ".summaryPromptOverride")) ++
    (if node.field? "nodeKind" = some (.str "script") then
      validateP2pScriptNodeContract (node.field? "script") (fieldPath ++ ".script")
    else
      report (node.field? "script").isSome
        (makeP2pWorkflowDiagnostic .invalidScriptContract .compile (fieldPath ++ ".script"))) ++
    validateArtifacts (node.field? "artifacts") (fieldPath ++ ".artifacts")

/-! ## Edges -/

/-- The path of what is wrong with a condition, if anything is. -/
def conditionFault (input : Option Json) (fieldPath : String) : Option String :=
  match input with
  | some (.obj members) =>
    let condition := Json.obj members
    if !isOneOf (condition.field? "kind")
        ["routing_key_equals", "verdict_marker_equals", "logic_marker_equals"] then
      some (fieldPath ++ ".kind")
    else if textOf (condition.field? "equals") = "" then some (fieldPath ++ ".equals")
    else none
  | _ => some fieldPath

def validateEdgeCondition (input : Option Json) (fieldPath : String) : List P2pWorkflowDiagnostic :=
  (conditionFault input fieldPath).toList.map fun path =>
    makeP2pWorkflowDiagnostic .invalidEdgeCondition .compile path

def validateEdgeDraft (edge : Json) (fieldPath : String) : List P2pWorkflowDiagnostic :=
  let graph (path : String) := makeP2pWorkflowDiagnostic .invalidWorkflowGraph .compile path
  if !edge.isObject then [graph fieldPath]
  else
    (["id", "fromNodeId", "toNodeId"].flatMap fun key =>
      report (!isVisibleText (edge.field? key)) (graph (fieldPath ++ "." ++ key))) ++
    report (!isOneOf (edge.field? "edgeKind") ["default", "conditional"])
      (graph (fieldPath ++ ".edgeKind")) ++
    if edge.field? "edgeKind" = some (.str "conditional") then
      validateEdgeCondition (edge.field? "condition") (fieldPath ++ ".condition")
    else []

/-! ## Start context -/

def isHexPrefix : Option Json → Bool
  | some (.str text) =>
    8 ≤ text.length && text.length ≤ 64 && text.toList.all fun c =>
      c.isDigit || ('a' ≤ c && c ≤ 'f') || ('A' ≤ c && c ≤ 'F')
  | _ => false

def isCountField (value : Option Json) : Bool := value.any (isCount none)

def validateDiscussionOffset (input : Json) (fieldPath : String) : List P2pWorkflowDiagnostic :=
  let make (path : String) := makeP2pWorkflowDiagnostic .missingContextSource .bind path
  if !input.isObject then [make fieldPath]
  else
    report (!isCountField (input.field? "byteOffset")) (make (fieldPath ++ ".byteOffset")) ++
    report (!isHexPrefix (input.field? "sha256Prefix")) (make (fieldPath ++ ".sha256Prefix")) ++
    report (!isCountField (input.field? "sizeAtOffset")) (make (fieldPath ++ ".sizeAtOffset"))

def isRelativePath : Json → Bool
  | .str path => isP2pArtifactRelativePath path
  | _ => false

def isFailOrSkip (value : Json) : Bool := isOneOf (some value) ["fail", "skip"]

def validateSource (seen : List Json) (source : Json) (sourcePath : String) :
    List P2pWorkflowDiagnostic × List Json :=
  let missing (path : String) := makeP2pWorkflowDiagnostic .missingContextSource .bind path
  if !source.isObject then ([missing sourcePath], seen)
  else
    let id := (source.field? "id").getD .null
    let isNew := isVisibleText (some id) && byteLength (textOf (some id)) ≤ 4 * 1024 &&
      !seen.contains id
    let fits := undefinedOr (source.field? "maxBytes") (isCount (some (512 * 1024)))
    let hasPath :=
      if source.field? "kind" = some (.str "file_reference") then
        (source.field? "path").any isRelativePath
      else undefinedOr (source.field? "path") isRelativePath
    (report (!isOneOf (source.field? "kind") ["current_prompt", "associated_discussion_file",
        "recent_discussion_history", "file_reference"]) (missing (sourcePath ++ ".kind")) ++
      report (!isNew) (missing (sourcePath ++ ".id")) ++
      report (!fits)
        (makeP2pWorkflowDiagnostic .contextSourceTooLarge .bind (sourcePath ++ ".maxBytes")) ++
      report (!undefinedOr (source.field? "missingBehavior") isFailOrSkip)
        (missing (sourcePath ++ ".missingBehavior")) ++
      report (!undefinedOr (source.field? "binaryBehavior") isFailOrSkip)
        (missing (sourcePath ++ ".binaryBehavior")) ++
      report (!undefinedOr (source.field? "order") isInteger) (missing (sourcePath ++ ".order")) ++
      report (!hasPath)
        (makeP2pWorkflowDiagnostic .unsafeArtifactPath .bind (sourcePath ++ ".path")) ++
      (match source.field? "discussionOffset" with
        | none => []
        | some offset => validateDiscussionOffset offset (sourcePath ++ ".discussionOffset")),
      if isNew then seen ++ [id] else seen)

def validateSourcesFrom (fieldPath : String) :
    Nat → List Json → List Json → List P2pWorkflowDiagnostic
  | _, _, [] => []
  | index, seen, source :: rest =>
    let first := validateSource seen source (fieldPath ++ ".sources[" ++ toString index ++ "]")
    first.1 ++ validateSourcesFrom fieldPath (index + 1) first.2 rest

def validateP2pWorkflowStartContext (input : Json) (fieldPath : String) :
    List P2pWorkflowDiagnostic :=
  match input.field? "sources" with
  | some (.arr sources) =>
    report (!undefinedOr (input.field? "maxTotalBytes") (isCount (some (1024 * 1024))))
      (makeP2pWorkflowDiagnostic .contextSourceTooLarge .bind (fieldPath ++ ".maxTotalBytes")) ++
    validateSourcesFrom fieldPath 0 [] sources
  | _ => [makeP2pWorkflowDiagnostic .missingContextSource .bind fieldPath]

/-! ## Drafts -/

def noErrors (diagnostics : List P2pWorkflowDiagnostic) : Bool :=
  !diagnostics.any fun diagnostic => diagnostic.severity = .error

def validateNodes (nodes : Option Json) : List P2pWorkflowDiagnostic :=
  match nodes with
  | some (.arr (node :: rest)) => reportEach validateNodeDraft "nodes" (node :: rest)
  | _ => [makeP2pWorkflowDiagnostic .invalidWorkflowGraph .compile "nodes"]

def validateEdges (edges : Option Json) : List P2pWorkflowDiagnostic :=
  match edges with
  | some (.arr edges) => reportEach validateEdgeDraft "edges" edges
  | _ => [makeP2pWorkflowDiagnostic .invalidWorkflowGraph .compile "edges"]

def validateVariables (numberText : Rat → String) (definitions : Option Json) :
    List P2pWorkflowDiagnostic :=
  match definitions with
  | none => []
  | some (.arr definitions) => validateP2pWorkflowVariables numberText definitions
  | some _ => [makeP2pWorkflowDiagnostic .invalidWorkflowVariable .compile "variables"]

/-- What is reported of a draft, and whether it passes. -/
def validateP2pWorkflowDraft (numberText : Rat → String) (input : Json) :
    Bool × List P2pWorkflowDiagnostic :=
  if !input.isObject then
    (false, [makeP2pWorkflowDiagnostic .invalidWorkflowGraph .compile none
      (some "Draft must be an object.")])
  else if input.field? "schemaVersion" ≠ some (.num 1) then
    (false, [makeP2pWorkflowDiagnostic .unsupportedSchemaVersion .compile "schemaVersion"])
  else
    let diagnostics :=
      report (!isVisibleText (input.field? "id"))
        (makeP2pWorkflowDiagnostic .invalidWorkflowGraph .compile "id") ++
      validateNodes (input.field? "nodes") ++
      validateEdges (input.field? "edges") ++
      validateVariables numberText (input.field? "variables") ++
      (match input.field? "startContext" with
        | none => []
        | some context => validateP2pWorkflowStartContext context "startContext")
    (noErrors diagnostics, diagnostics)

end ImCodes.Workflow
