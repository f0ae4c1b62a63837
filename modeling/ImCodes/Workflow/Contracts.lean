import ImCodes.Library.JsonForms
import ImCodes.Library.JsonSyntax
import ImCodes.Library.PropertyObjects

/-!
# What the nodes of a workflow declare

The contracts of scripts, artifacts and logic rules, with what is reported of each that is not
well formed.
-/

set_option autoImplicit false

namespace ImCodes.Workflow

open Library Library.Json

/-! ## Reports -/

/-- The codes that compiling reports, and those that only warn. -/
inductive P2pWorkflowDiagnosticCode
  | unsupportedSchemaVersion | invalidWorkflowGraph | invalidRoutingAuthority
  | invalidEdgeCondition | invalidWorkflowVariable | invalidPromptAppend | missingContextSource
  | contextSourceTooLarge | unsafeArtifactPath | invalidScriptContract
  | artifactIdentityCollisionResolved | staticPolicyMismatchRecompiled
  | privateProjectionFieldDropped | legacyProgressSnapshotSanitized
deriving DecidableEq, Repr

def P2pWorkflowDiagnosticCode.text : P2pWorkflowDiagnosticCode → String
  | .unsupportedSchemaVersion => "unsupported_schema_version"
  | .invalidWorkflowGraph => "invalid_workflow_graph"
  | .invalidRoutingAuthority => "invalid_routing_authority"
  | .invalidEdgeCondition => "invalid_edge_condition"
  | .invalidWorkflowVariable => "invalid_workflow_variable"
  | .invalidPromptAppend => "invalid_prompt_append"
  | .missingContextSource => "missing_context_source"
  | .contextSourceTooLarge => "context_source_too_large"
  | .unsafeArtifactPath => "unsafe_artifact_path"
  | .invalidScriptContract => "invalid_script_contract"
  | .artifactIdentityCollisionResolved => "artifact_identity_collision_resolved"
  | .staticPolicyMismatchRecompiled => "static_policy_mismatch_recompiled"
  | .privateProjectionFieldDropped => "private_projection_field_dropped"
  | .legacyProgressSnapshotSanitized => "legacy_progress_snapshot_sanitized"

inductive P2pWorkflowDiagnosticPhase
  | compile | bind
deriving DecidableEq, Repr

inductive P2pWorkflowDiagnosticSeverity
  | info | warning | error
deriving DecidableEq, Repr

structure P2pWorkflowDiagnostic where
  code : P2pWorkflowDiagnosticCode
  phase : P2pWorkflowDiagnosticPhase
  severity : P2pWorkflowDiagnosticSeverity
  messageKey : String
  fieldPath : Option String
  summary : Option String
deriving DecidableEq, Repr

/-- `WARNING_CODES` -/
def warningCodes : List P2pWorkflowDiagnosticCode :=
  [.artifactIdentityCollisionResolved, .staticPolicyMismatchRecompiled,
    .privateProjectionFieldDropped, .legacyProgressSnapshotSanitized]

def makeP2pWorkflowDiagnostic (code : P2pWorkflowDiagnosticCode)
    (phase : P2pWorkflowDiagnosticPhase) (fieldPath : Option String)
    (summary : Option String := none) : P2pWorkflowDiagnostic where
  code
  phase
  severity := if warningCodes.contains code then .warning else .error
  messageKey := "p2p.workflow.diagnostics." ++ code.text
  fieldPath
  summary

def report {Report : Type} (fault : Bool) (diagnostic : Report) : List Report :=
  if fault then [diagnostic] else []

@[simp] theorem mem_report {Report : Type} {fault : Bool} {diagnostic other : Report} :
    other ∈ report fault diagnostic ↔ fault = true ∧ other = diagnostic := by
  unfold report
  split
  · next isFault => simp [isFault]
  · next noFault => simp [noFault]

def reportEach {Item Report : Type} (validate : Item → String → List Report) (path : String)
    (items : List Item) : List Report :=
  items.zipIdx.flatMap fun (item, index) => validate item (path ++ "[" ++ toString index ++ "]")

/-! ## Values -/

/-- `isOneOf(value, values)` -/
def isOneOf (value : Option Json) (values : List String) : Bool :=
  match value with
  | some (.str text) => values.contains text
  | _ => false

/-- `Number.isInteger(value)` -/
def isInteger : Json → Bool
  | .num value => value.den = 1
  | _ => false

def isCount (limit : Option Nat) : Json → Bool
  | .num value => value.den = 1 && 0 ≤ value && limit.all fun (limit : Nat) => value ≤ limit
  | _ => false

def undefinedOr (value : Option Json) (test : Json → Bool) : Bool := value.all test

def isString : Json → Bool
  | .str _ => true
  | _ => false

def isVisibleText : Option Json → Bool
  | some (.str text) => trim text ≠ ""
  | _ => false

def byteLength (text : String) : Nat := text.utf8ByteSize

def textOf : Option Json → String
  | some (.str text) => text
  | _ => ""

def isIdentifier (first further : Char → Bool) (limit : Nat) (text : String) : Bool :=
  match text.toList with
  | [] => false
  | c :: rest => first c && rest.all further && rest.length < limit

def isVisibleAscii (text : String) : Bool :=
  text.toList.all fun c => 0x21 ≤ c.toNat && c.toNat ≤ 0x7e

/-! ## Scripts -/

/-- `DEFAULT_P2P_SCRIPT_CAPS` -/
def defaultP2pScriptCaps : PropertyObject Rat :=
  PropertyObject.empty.assign [("stdinBytes", 64 * 1024), ("stdoutBytes", 256 * 1024),
    ("stderrBytes", 128 * 1024), ("machineOutputBytes", 128 * 1024)]

def setScriptCap (caps : PropertyObject Rat) (entry : String × Json) : Option (PropertyObject Rat) :=
  if caps.hasOwn entry.1 || inheritedNames.contains entry.1 then
    match entry.2 with
    | .num value => if isCount none (.num value) then some (caps.set entry.1 value) else none
    | _ => none
  else none

def normalizeScriptCaps : Option Json → Option (PropertyObject Rat)
  | none => some defaultP2pScriptCaps
  | some (.obj members) => members.foldlM setScriptCap defaultP2pScriptCaps
  | some _ => none

def isSafeEnvironmentName : Json → Bool
  | .str text =>
    isIdentifier (fun c => c.isUpper || c = '_') (fun c => c.isUpper || c.isDigit || c = '_') 128
      text
  | _ => false

/-- The path of what is wrong with a script, if anything is. -/
def scriptFault (input : Json) (fieldPath : String) : Option String :=
  let commandKind := (present (input.field? "commandKind")).getD (.str "argv")
  if commandKind ≠ .str "argv" ∧ commandKind ≠ .str "interpreter" then
    some (fieldPath ++ ".commandKind")
  else
    match input.field? "argv" with
    | some (.arr (.str program :: rest)) =>
      if program = "" ∨ rest.any (!isString ·) then some (fieldPath ++ ".argv")
      else if commandKind = .str "interpreter" ∧ textOf (input.field? "interpreter") = "" then
        some (fieldPath ++ ".interpreter")
      else
        match normalizeScriptCaps (input.field? "caps") with
        | none => some (fieldPath ++ ".caps")
        | some caps =>
          if (caps.get? "stdinBytes").getD 0 < byteLength (textOf (input.field? "stdin")) then
            some (fieldPath ++ ".stdin")
          else
            match input.field? "envAllowlist", input.field? "timeoutMs" with
            | some (.arr names), timeoutMs =>
              if names.any (!isSafeEnvironmentName ·) then some (fieldPath ++ ".envAllowlist")
              else timeoutFault timeoutMs
            | _, timeoutMs => timeoutFault timeoutMs
    | _ => some (fieldPath ++ ".argv")
where
  timeoutFault : Option Json → Option String
    | none => none
    | some (.num value) =>
      if value.den = 1 ∧ 0 < value then none else some (fieldPath ++ ".timeoutMs")
    | some _ => some (fieldPath ++ ".timeoutMs")

def validateP2pScriptNodeContract (input : Option Json) (fieldPath : String) :
    List P2pWorkflowDiagnostic :=
  let fault :=
    match input with
    | some (.obj members) => scriptFault (.obj members) fieldPath
    | _ => some fieldPath
  fault.toList.map fun path => makeP2pWorkflowDiagnostic .invalidScriptContract .compile path

/-! ## Artifacts -/

def pathSegments (path : String) : List (List Char) := path.toList.splitOn '/'

def hasDriveLetter (path : String) : Bool :=
  match path.toList with
  | letter :: ':' :: _ => letter.isAlpha
  | _ => false

def isP2pArtifactRelativePath (path : String) : Bool :=
  path ≠ "" && !path.toList.contains (Char.ofNat 0) && !path.startsWith "/" &&
    !path.startsWith "~" && !path.toList.contains (Char.ofNat 0x5C) && !hasDriveLetter path &&
    !path.startsWith "//" &&
    (pathSegments path).all fun segment => segment ≠ [] && segment ≠ ['.'] && segment ≠ ['.', '.']

def getP2pArtifactPathDepth (path : String) : Nat :=
  ((pathSegments path).filter (· ≠ [])).length

def permissionScopes : List String := ["analysis_only", "artifact_generation", "implementation"]

def isArtifactPath : Json → Bool
  | .str path => isP2pArtifactRelativePath path && getP2pArtifactPathDepth path ≤ 8
  | _ => false

def validateP2pArtifactContract (input : Json) (fieldPath : String) : List P2pWorkflowDiagnostic :=
  let make (path : String) := makeP2pWorkflowDiagnostic .unsafeArtifactPath .compile path
  if !input.isObject then [make fieldPath]
  else
    report (!isOneOf (input.field? "convention") ["none", "explicit_paths", "openspec_convention"])
      (make (fieldPath ++ ".convention")) ++
    report (!undefinedOr (input.field? "permissionScope") fun value =>
      isOneOf (some value) permissionScopes) (make (fieldPath ++ ".permissionScope")) ++
    report (!undefinedOr (input.field? "symlinkPolicy") fun value =>
      isOneOf (some value) ["reject_all", "allow_existing_under_root"])
      (make (fieldPath ++ ".symlinkPolicy")) ++
    match input.field? "paths" with
    | some (.arr paths) =>
      if paths.length = 0 ∨ 200 < paths.length then [make (fieldPath ++ ".paths")]
      else
        reportEach (fun path place => report (!isArtifactPath path) (make place))
          (fieldPath ++ ".paths") paths
    | _ => [make (fieldPath ++ ".paths")]

/-! ## Logic -/

structure LogicValidationDiagnostic where
  fieldPath : String
  summary : String
deriving DecidableEq, Repr

def isValidMarker (value : String) : Bool :=
  (utf16 value).length ≠ 0 && (utf16 value).length ≤ 128 && isVisibleAscii value

/-- `PROTOTYPE_POLLUTION_KEYS` -/
def prototypePollutionKeys : List String := ["__proto__", "constructor", "prototype"]

def isMarker : Option Json → Bool
  | some (.str text) => isValidMarker text
  | _ => false

def isConditionName : Option Json → Bool
  | some (.str name) =>
    (utf16 name).length ≤ 64 &&
      isIdentifier (fun c => c.isAlpha || c = '_') (fun c => c.isAlphanum || c = '_') 64
        name &&
      !prototypePollutionKeys.contains name
  | _ => false

def isCompared : Option Json → Bool
  | some (.str text) => (utf16 text).length ≤ 128
  | _ => false

/-- The condition of a rule. What it names as its kind becomes part of a text. -/
def validateCondition (numberText : Rat → String) (cond : Json) (path : String) :
    Except TypeError (List LogicValidationDiagnostic) :=
  if !isOneOf (cond.field? "kind") ["variable_equals", "variable_present", "variable_truthy"] then do
    let kind ← (match cond.field? "kind" with
      | none => .ok "undefined"
      | some kind => convert numberText kind)
    return [⟨path ++ ".if.kind", "Unsupported condition kind: " ++ kind ++ "."⟩]
  else
    return report (!isConditionName (cond.field? "name"))
        ⟨path ++ ".if.name", "name must be a non-empty identifier (≤64 chars, " ++
          "[A-Za-z_][A-Za-z0-9_]*) and not a prototype-pollution key."⟩ ++
      report (cond.field? "kind" = some (.str "variable_equals") && !isCompared (cond.field? "equals"))
        ⟨path ++ ".if.equals", "equals must be a string ≤128 bytes."⟩

def validateRule (numberText : Rat → String) (rule : Json) (path : String) :
    Except TypeError (List LogicValidationDiagnostic) :=
  if !rule.isObject then .ok [⟨path, "Rule must be an object."⟩]
  else do
    let emit := report (!isMarker (rule.field? "emit"))
      ⟨path ++ ".emit", "emit must be visible-ASCII (1–128 bytes)."⟩
    match rule.field? "if" with
    | none => return emit
    | some cond =>
      if !cond.isObject then
        return emit ++ [⟨path ++ ".if", "if clause must be an object when present."⟩]
      else do
        let condition ← validateCondition numberText cond path
        return emit ++ condition

def validateRules (numberText : Rat → String) (path : String) :
    Nat → List Json → Except TypeError (List LogicValidationDiagnostic)
  | _, [] => .ok []
  | index, rule :: rest => do
    let first ← validateRule numberText rule (path ++ "[" ++ toString index ++ "]")
    let others ← validateRules numberText path (index + 1) rest
    return first ++ others

def validateP2pLogicContract (numberText : Rat → String) (contract : Json) (basePath : String) :
    Except TypeError (List LogicValidationDiagnostic) :=
  if !contract.isObject then .ok [⟨basePath, "Logic contract must be an object."⟩]
  else
    match contract.field? "rules" with
    | some (.arr rules) => do
      let ofRules ← validateRules numberText (basePath ++ ".rules") 0 rules
      return report (32 < rules.length)
          ⟨basePath ++ ".rules", "Logic node may declare at most 32 rules."⟩ ++
        report (!isMarker (contract.field? "default"))
          ⟨basePath ++ ".default", "default marker must be visible-ASCII (1–128 bytes)."⟩ ++
        ofRules
    | _ => .ok [⟨basePath ++ ".rules", "rules must be an array."⟩]

end ImCodes.Workflow
