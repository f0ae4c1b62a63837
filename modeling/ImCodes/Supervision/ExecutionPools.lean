import ImCodes.Library.Gathering
import ImCodes.Library.Json
import ImCodes.Library.Text
import ImCodes.Library.UriComponent
import Mathlib.Algebra.Order.Floor.Ring
import Mathlib.Data.Rat.Floor

/-!
# Execution pools

A pool lists the runtimes that pairs may be staffed with. What a client sends of one is
normalized: entries that do not name a runtime are dropped, those of one capability become one
entry, and the roles they name are merged.
-/

set_option autoImplicit false

namespace ImCodes.Supervision

open Library

inductive SupervisionExecutionPoolKind
  | primary | economy
deriving DecidableEq

inductive SupervisionExecutionPoolRole
  | executor | auditor | both
deriving DecidableEq

inductive RuntimeType
  | process | transport
deriving DecidableEq

structure SupervisionExecutionConfig where
  capabilityId : String
  agentType : String
  providerFamily : String
  runtimeType : RuntimeType
  model : String
  ccPresetId : Option String
  role : Option SupervisionExecutionPoolRole
deriving DecidableEq

structure SupervisionExecutionPoolControls where
  maxConcurrency : Nat
  maxSpawned : Nat
  leaseMs : Nat
  changeBudget : Nat
  auditHeadroomPerProviderFamily : Nat
deriving DecidableEq

structure SupervisionExecutionPoolDefinition where
  configs : List SupervisionExecutionConfig
  controls : SupervisionExecutionPoolControls
deriving DecidableEq

/-- `supervisionExecutionConfigRole`. -/
def SupervisionExecutionConfig.effectiveRole (config : SupervisionExecutionConfig) :
    SupervisionExecutionPoolRole :=
  config.role.getD .both

def SupervisionExecutionConfig.withoutRole (config : SupervisionExecutionConfig) :
    SupervisionExecutionConfig :=
  { config with role := none }

def defaultSupervisionExecutionPoolControls :
    SupervisionExecutionPoolKind → SupervisionExecutionPoolControls
  | .primary => ⟨4, 2, 30 * 60000, 200, 1⟩
  | .economy => ⟨4, 2, 15 * 60000, 40, 1⟩

/-! ## Models -/

/-- `String.prototype.includes`. -/
def includes (text part : String) : Bool :=
  text.toList.tails.any part.toList.isPrefixOf

def claudeCodeFamily : List String :=
  ["claude-code-sdk", "claude-code-cli-sdk", "claude-code"]

def claudeCodeModelIds : List String := ["fable", "opus[1M]", "sonnet", "haiku"]

def supervisionDefaultExcludedDevelopmentModels : List String :=
  ["haiku", "gpt-5.4-mini", "gpt-5.3-codex-spark", "gemini-2.5-flash", "gemini-2.0-flash-exp",
    "gemini-1.5-flash", "o4-mini", "deepseek-v4-flash-free", "minimax-m2.5", "minimax-m2.7"]

def sharedContextRuntimeBackends : List String :=
  ["claude-code-sdk", "codex-sdk", "qwen", "openclaw"]

def isClaudeCodeFamily (value : String) : Bool := claudeCodeFamily.contains value

/-- `normalizeSharedContextRuntimeBackend`. -/
def normalizeSharedContextRuntimeBackend (value : String) : Option String :=
  let trimmed := trim value
  if sharedContextRuntimeBackends.contains trimmed then some trimmed else none

def doesSharedContextBackendSupportPresets (backend : Option String) : Bool :=
  backend = some "qwen" || backend = some "claude-code-sdk" || backend = some "codex-sdk"

section Host

-- How the host turns a text to lower case.
variable (toLowerCase : String → String)

def normalizeClaudeCodeModelId (value : String) : Option String :=
  let trimmed := trim value
  if trimmed = "" then none
  else if trimmed = "opus" then some "opus[1M]"
  else if claudeCodeModelIds.contains trimmed then some trimmed
  else
    let lower := toLowerCase trimmed
    if includes lower "fable" || includes lower "mythos" then some "fable"
    else if includes lower "opus" then some "opus[1M]"
    else if includes lower "sonnet" then some "sonnet"
    else if includes lower "haiku" then some "haiku"
    else none

def normalizeSupervisionExecutionModel (agentType model : String) : String :=
  let trimmed := trim model
  if trimmed = "" || !isClaudeCodeFamily agentType then trimmed
  else (normalizeClaudeCodeModelId toLowerCase trimmed).getD trimmed

def isExcludedDevelopmentModel (model : String) : Bool :=
  let normalized := toLowerCase (trim model)
  includes normalized "27b" || supervisionDefaultExcludedDevelopmentModels.contains normalized

/-! ## Configs -/

def RuntimeType.name : RuntimeType → String
  | .process => "process"
  | .transport => "transport"

/-- `buildSupervisionExecutionCapabilityIdForModel`, which throws on a preset that the agent cannot
have. -/
def buildSupervisionExecutionCapabilityIdForModel (agentType providerFamily : String)
    (runtimeType : RuntimeType) (model : String) (ccPresetId : Option String) :
    Except String String :=
  match ccPresetId with
  | none => .ok ("supervision-exec-v1:" ++ runtimeType.name ++ ":" ++ agentType ++ ":" ++
      providerFamily ++ ":" ++ model)
  | some preset =>
    if !doesSharedContextBackendSupportPresets (normalizeSharedContextRuntimeBackend agentType) ||
        preset = "" || trim preset ≠ preset then
      .error "invalid_supervision_execution_cc_preset"
    else .ok ("supervision-exec-v1-cc-preset:" ++ runtimeType.name ++ ":" ++ agentType ++ ":" ++
      providerFamily ++ ":" ++ encodeURIComponent preset ++ ":" ++ model)

/-- `text`: a string that is not empty and has no white space around it. -/
def text (value : Option Json) : Option String :=
  (value.bind Json.asString?).filter fun value => trim value = value ∧ value ≠ ""

def readRuntimeType (value : Option Json) : Option RuntimeType :=
  if value = some (.str "process") then some .process
  else if value = some (.str "transport") then some .transport
  else none

/-- A role is kept only if it names one of the two: `both` is what none means. -/
def readRole (value : Option Json) : Option SupervisionExecutionPoolRole :=
  if value = some (.str "executor") then some .executor
  else if value = some (.str "auditor") then some .auditor
  else none

def normalizeSupervisionExecutionConfig (source : Json) : Option SupervisionExecutionConfig := do
  let agentType ← text (source.field? "agentType")
  let providerFamily ← text (source.field? "providerFamily")
  let model ← text (source.field? "model")
  let runtimeType ← readRuntimeType (source.field? "runtimeType")
  let ccPresetId := text (source.field? "ccPresetId")
  let backend := normalizeSharedContextRuntimeBackend agentType
  if (source.field? "ccPresetId").isSome ∧
      (ccPresetId.isNone ∨ !doesSharedContextBackendSupportPresets backend) then none
  else
    let canonical := normalizeSupervisionExecutionModel toLowerCase agentType model
    let expected ← (buildSupervisionExecutionCapabilityIdForModel agentType providerFamily
      runtimeType canonical ccPresetId).toOption
    let literalExpected ← (if canonical = model then some expected
      else (buildSupervisionExecutionCapabilityIdForModel agentType providerFamily runtimeType
        model ccPresetId).toOption : Option String)
    if source.field? "capabilityId" ≠ some (.str expected) ∧
        source.field? "capabilityId" ≠ some (.str literalExpected) then none
    else some ⟨expected, agentType, providerFamily, runtimeType, canonical, ccPresetId,
      readRole (source.field? "role")⟩

/-! ## Pools -/

/-- The role of two entries of one capability: roles that conflict are widened to both. -/
def mergedRole (previousRole itemRole : Option SupervisionExecutionPoolRole) :
    Option SupervisionExecutionPoolRole :=
  if previousRole.isNone then itemRole
  else if itemRole.isNone then previousRole
  else if previousRole = itemRole then previousRole
  else some .both

/-- What is stored for a capability that comes again: the entry that came, with the merged role
unless that is `both`, which is not written. -/
def mergeDuplicate (previous item : SupervisionExecutionConfig) : SupervisionExecutionConfig :=
  let merged := mergedRole previous.role item.role
  if merged = none ∨ merged = some .both then { item with role := none }
  else { item with role := merged }

def positive (value : Option Json) (fallback : Nat) : Nat :=
  match value with
  | some (.num number) => if 0 < ⌊number⌋ then ⌊number⌋.toNat else fallback
  | _ => fallback

/-- `Array.isArray(source.configs) ? source.configs : []`. -/
def listedConfigs (source : Json) : List Json :=
  match source.field? "configs" with
  | some (.arr items) => items
  | _ => []

def poolEligibleConfigs (kind : SupervisionExecutionPoolKind) (configs : List Json) :
    List SupervisionExecutionConfig :=
  let configs := configs.filterMap (normalizeSupervisionExecutionConfig toLowerCase)
  if kind = .primary then
    configs.filter fun item => !isExcludedDevelopmentModel toLowerCase item.model
  else configs

def byCapability (items : List SupervisionExecutionConfig) :
    Dictionary String SupervisionExecutionConfig :=
  Dictionary.gather SupervisionExecutionConfig.capabilityId mergeDuplicate items

def normalizeControls (controls : Json) (kind : SupervisionExecutionPoolKind) :
    SupervisionExecutionPoolControls :=
  let defaults := defaultSupervisionExecutionPoolControls kind
  { maxConcurrency := positive (controls.field? "maxConcurrency") defaults.maxConcurrency
    maxSpawned := positive (controls.field? "maxSpawned") defaults.maxSpawned
    leaseMs := positive (controls.field? "leaseMs") defaults.leaseMs
    changeBudget := positive (controls.field? "changeBudget") defaults.changeBudget
    auditHeadroomPerProviderFamily :=
      positive (controls.field? "auditHeadroomPerProviderFamily")
        defaults.auditHeadroomPerProviderFamily }

def normalizePool (source : Json) (kind : SupervisionExecutionPoolKind) :
    SupervisionExecutionPoolDefinition where
  configs := (byCapability (poolEligibleConfigs toLowerCase kind (listedConfigs source))).rows.map
    Prod.snd
  controls := normalizeControls ((source.field? "controls").getD .null) kind

end Host

/-! ## Pools as values -/

def SupervisionExecutionPoolRole.name : SupervisionExecutionPoolRole → String
  | .executor => "executor"
  | .auditor => "auditor"
  | .both => "both"

def SupervisionExecutionConfig.toJson (config : SupervisionExecutionConfig) : Json :=
  .obj ([("capabilityId", .str config.capabilityId), ("agentType", .str config.agentType),
    ("providerFamily", .str config.providerFamily), ("runtimeType", .str config.runtimeType.name),
    ("model", .str config.model)] ++
    (config.ccPresetId.map fun preset => ("ccPresetId", Json.str preset)).toList ++
    (config.role.map fun role => ("role", Json.str role.name)).toList)

def SupervisionExecutionPoolControls.toJson (controls : SupervisionExecutionPoolControls) : Json :=
  .obj [("maxConcurrency", .num controls.maxConcurrency), ("maxSpawned", .num controls.maxSpawned),
    ("leaseMs", .num controls.leaseMs), ("changeBudget", .num controls.changeBudget),
    ("auditHeadroomPerProviderFamily", .num controls.auditHeadroomPerProviderFamily)]

def SupervisionExecutionPoolDefinition.toJson (pool : SupervisionExecutionPoolDefinition) : Json :=
  .obj [("configs", .arr (pool.configs.map SupervisionExecutionConfig.toJson)),
    ("controls", pool.controls.toJson)]

end ImCodes.Supervision
