import ImCodes.Library.JoinedFields
import ImCodes.Supervision.PoolRoles

/-!
# Capacity plans

Work for a pool is given to a session that runs, if one of the candidates is what its capability
names; else a new session is asked for, within the limits of the pool.
-/

set_option autoImplicit false

namespace ImCodes.Supervision

open Library

/-- What is observed of a session, as far as it is known. -/
structure SupervisionObservedExecutionIdentity where
  sessionName : Option String
  sessionInstanceId : Option String
  runtimeEpoch : Option String
  agentType : Option String
  providerFamily : Option String
  runtimeType : Option RuntimeType
  model : Option String
  ccPresetId : Option String
deriving DecidableEq

inductive SupervisionExecutionEligibilityReason
  | excludedSession | excludedModel | unknownModel | identityMismatch
deriving DecidableEq

structure SupervisionExecutionCapacityCandidate where
  config : SupervisionExecutionConfig
  actual : Option SupervisionObservedExecutionIdentity
  available : Bool
  limited : Bool
  staleRuntime : Bool
deriving DecidableEq

structure SupervisionExecutionSpawnRequest where
  idempotencyKey : String
  pool : SupervisionExecutionPoolKind
  selectedConfig : SupervisionExecutionConfig
  parentSessionName : String
  parentRunId : String
  parentStage : String
  leaseExpiresAt : Int
deriving DecidableEq

inductive BlockedReason
  | poolExhausted | maxConcurrency | maxSpawned | auditHeadroom | noSelectedConfig
deriving DecidableEq

inductive SupervisionExecutionCapacityPlan
  | reuse (candidate : SupervisionExecutionCapacityCandidate)
  | spawn (request : SupervisionExecutionSpawnRequest) (idempotentReplay : Bool)
  | blocked (reason : BlockedReason)
deriving DecidableEq

structure ProviderCapacity where
  total : Int
  inUse : Int

structure CapacityInput where
  pool : SupervisionExecutionPoolKind
  definition : SupervisionExecutionPoolDefinition
  candidates : List SupervisionExecutionCapacityCandidate
  activeAssignments : Nat
  activeSpawned : Nat
  providerCapacity : Dictionary String ProviderCapacity
  parentSessionName : String
  parentRunId : String
  parentStage : String
  idempotencyKey : String
  now : Int
  existingSpawnRequest : Option SupervisionExecutionSpawnRequest
  excludedSessionNames : Option (List String)

def supervisionDefaultExcludedDevelopmentSessions : List String := []

section Host

variable (toLowerCase : String → String)

/-- The single observed-identity gate. -/
def evaluateSupervisionObservedIdentity (config : SupervisionExecutionConfig)
    (actual : SupervisionObservedExecutionIdentity) (pool : SupervisionExecutionPoolKind)
    (excludedSessionNames : Option (List String)) :
    Except SupervisionExecutionEligibilityReason Unit :=
  let observedSessionName := (actual.sessionName.map trim).getD ""
  let excluded := excludedSessionNames.getD supervisionDefaultExcludedDevelopmentSessions
  let observed := (truthy actual.model).getD ""
  if observedSessionName = "" then .error .identityMismatch
  else if excluded.contains observedSessionName then .error .excludedSession
  else if observed = "" then .error .unknownModel
  else if pool = .primary ∧ isExcludedDevelopmentModel toLowerCase observed then
    .error .excludedModel
  else if truthy actual.sessionInstanceId = none ∨ truthy actual.runtimeEpoch = none ∨
      truthy actual.agentType = none ∨ truthy actual.providerFamily = none ∨
      actual.runtimeType = none then .error .identityMismatch
  else
    match normalizeSupervisionExecutionConfig toLowerCase config.toJson with
    | none => .error .identityMismatch
    | some canonicalConfig =>
      let agentType := actual.agentType.getD ""
      let observedModel := normalizeSupervisionExecutionModel toLowerCase agentType observed
      let observedPreset := text (actual.ccPresetId.map Json.str)
      let observedBackend := normalizeSharedContextRuntimeBackend agentType
      if actual.ccPresetId.isSome ∧
          (observedPreset = none ∨ !doesSharedContextBackendSupportPresets observedBackend) then
        .error .identityMismatch
      else if some canonicalConfig.agentType ≠ actual.agentType ∨
          some canonicalConfig.providerFamily ≠ actual.providerFamily ∨
          some canonicalConfig.runtimeType ≠ actual.runtimeType ∨
          canonicalConfig.model ≠ observedModel ∨
          canonicalConfig.ccPresetId ≠ observedPreset then .error .identityMismatch
      else .ok ()

def canonicalByCapability (configs : List SupervisionExecutionConfig) :
    Dictionary String SupervisionExecutionConfig :=
  Dictionary.gather SupervisionExecutionConfig.capabilityId (fun _ config => config) configs

def isReusable (input : CapacityInput) (candidate : SupervisionExecutionCapacityCandidate) : Bool :=
  match (canonicalByCapability input.definition.configs).get? candidate.config.capabilityId with
  | none => false
  | some canonical =>
    match candidate.actual with
    | none => false
    | some actual =>
      if !candidate.available || candidate.limited || candidate.staleRuntime then false
      else
        (evaluateSupervisionObservedIdentity toLowerCase canonical actual input.pool
          input.excludedSessionNames).isOk

def planSupervisionExecutionCapacity (input : CapacityInput) : SupervisionExecutionCapacityPlan :=
  match input.candidates.find? (isReusable toLowerCase input) with
  | some reusable => .reuse reusable
  | none =>
    match input.existingSpawnRequest.filter (·.idempotencyKey = input.idempotencyKey) with
    | some request => .spawn request true
    | none =>
      if input.definition.configs.length = 0 then .blocked .noSelectedConfig
      else if input.definition.controls.maxConcurrency ≤ input.activeAssignments then
        .blocked .maxConcurrency
      else if input.definition.controls.maxSpawned ≤ input.activeSpawned then
        .blocked .maxSpawned
      else
        let hasRoom (config : SupervisionExecutionConfig) : Bool :=
          match input.providerCapacity.get? config.providerFamily with
          | none => false
          | some capacity =>
            (input.definition.controls.auditHeadroomPerProviderFamily : Int) <
              capacity.total - capacity.inUse
        match input.definition.configs.find? hasRoom with
        | none => .blocked .auditHeadroom
        | some selectedConfig =>
          .spawn
            { idempotencyKey := input.idempotencyKey
              pool := input.pool
              selectedConfig
              parentSessionName := input.parentSessionName
              parentRunId := input.parentRunId
              parentStage := input.parentStage
              leaseExpiresAt := input.now + input.definition.controls.leaseMs } false

end Host

/-! ## Capability ids

A capability id names one runtime as long as no text is moved from one of its fields to the next:
the fields are joined with colons, and all but the preset may have colons in them. A session is
reused only for a config that it runs.
-/

variable {toLowerCase : String → String}

/-! ## The fields of an id -/

namespace SupervisionExecutionConfig

/-- The fields that an id is made of. -/
def fields (config : SupervisionExecutionConfig) : List (List Char) :=
  config.agentType.toList :: config.providerFamily.toList ::
    (match config.ccPresetId with
    | none => [config.model.toList]
    | some preset => [(encodeURIComponent preset).toList, config.model.toList])

/-- The configs name one runtime. -/
structure SameRuntime (left right : SupervisionExecutionConfig) : Prop where
  agentType : left.agentType = right.agentType
  providerFamily : left.providerFamily = right.providerFamily
  runtimeType : left.runtimeType = right.runtimeType
  model : left.model = right.model
  ccPresetId : left.ccPresetId = right.ccPresetId

/-- The configs differ by pieces of text that were moved across the colons between their fields. -/
structure Aliased (left right : SupervisionExecutionConfig) : Prop where
  runtimeType : left.runtimeType = right.runtimeType
  preset : left.ccPresetId.isSome = right.ccPresetId.isSome
  recut : Recut ':' left.fields right.fields
  differ : left.fields ≠ right.fields

def idSpace (config : SupervisionExecutionConfig) : List Char :=
  (if config.ccPresetId.isSome then "supervision-exec-v1-cc-preset:".toList
    else "supervision-exec-v1:".toList) ++ config.runtimeType.name.toList

variable {config left right : SupervisionExecutionConfig}

theorem Normal.capabilityId_eq (normal : config.Normal toLowerCase) :
    config.capabilityId.toList = config.idSpace ++ ':' :: joinFields ':' config.fields := by
  have built := normal.capabilityId
  unfold buildSupervisionExecutionCapabilityIdForModel at built
  unfold idSpace fields
  cases preset : config.ccPresetId with
  | none =>
    rw [preset] at built
    rw [← Except.ok.inj built]
    simp [String.toList_append, joinFields]
  | some value =>
    rw [preset] at built
    dsimp only at built
    split at built
    · cases built
    · rw [← Except.ok.inj built]
      simp [String.toList_append, joinFields]

theorem idSpace_inj {leftRest rightRest : List Char}
    (same : left.idSpace ++ ':' :: leftRest = right.idSpace ++ ':' :: rightRest) :
    left.ccPresetId.isSome = right.ccPresetId.isSome ∧ left.runtimeType = right.runtimeType ∧
      leftRest = rightRest := by
  unfold idSpace at same
  cases leftPreset : left.ccPresetId.isSome <;> cases rightPreset : right.ccPresetId.isSome <;>
    cases leftType : left.runtimeType <;> cases rightType : right.runtimeType <;>
      simp_all [RuntimeType.name]

theorem fields_length_eq (preset : left.ccPresetId.isSome = right.ccPresetId.isSome) :
    left.fields.length = right.fields.length := by
  unfold fields
  cases leftPreset : left.ccPresetId <;> cases rightPreset : right.ccPresetId <;> simp_all

theorem encodeURIComponent_inj {left right : String}
    (same : encodeURIComponent left = encodeURIComponent right) : left = right := by
  have decoded := congrArg decodeURIComponent same
  rw [decodeURIComponent_encodeURIComponent, decodeURIComponent_encodeURIComponent] at decoded
  exact Option.some.inj decoded

theorem sameRuntime_of_fields (runtimeType : left.runtimeType = right.runtimeType)
    (preset : left.ccPresetId.isSome = right.ccPresetId.isSome)
    (same : left.fields = right.fields) : SameRuntime left right := by
  unfold fields at same
  cases leftPreset : left.ccPresetId with
  | none =>
    cases rightPreset : right.ccPresetId with
    | none =>
      simp only [leftPreset, rightPreset, List.cons.injEq, String.toList_inj, and_true] at same
      exact ⟨same.1, same.2.1, runtimeType, same.2.2, leftPreset.trans rightPreset.symm⟩
    | some value => simp [leftPreset, rightPreset] at preset
  | some value =>
    cases rightPreset : right.ccPresetId with
    | none => simp [leftPreset, rightPreset] at preset
    | some other =>
      simp only [leftPreset, rightPreset, List.cons.injEq, String.toList_inj, and_true] at same
      have sameValue := encodeURIComponent_inj same.2.2.1
      refine ⟨same.1, same.2.1, runtimeType, same.2.2.2, ?_⟩
      rw [leftPreset, rightPreset, sameValue]

theorem SameRuntime.fields_eq (same : SameRuntime left right) : left.fields = right.fields := by
  unfold fields
  rw [same.agentType, same.providerFamily, same.ccPresetId, same.model]

theorem sameRuntime_of_capabilityId_iff (leftNormal : left.Normal toLowerCase)
    (rightNormal : right.Normal toLowerCase) :
    (left.capabilityId = right.capabilityId → SameRuntime left right) ↔ ¬ Aliased left right := by
  constructor
  · intro identifies aliased
    apply aliased.differ
    refine (identifies ?_).fields_eq
    have spaces : left.idSpace = right.idSpace := by
      unfold idSpace
      rw [aliased.preset, aliased.runtimeType]
    apply String.toList_inj.mp
    rw [leftNormal.capabilityId_eq, rightNormal.capabilityId_eq, spaces,
      aliased.recut.joinFields_eq]
  · intro notAliased same
    have texts := congrArg String.toList same
    rw [leftNormal.capabilityId_eq, rightNormal.capabilityId_eq] at texts
    obtain ⟨preset, runtimeType, joined⟩ := idSpace_inj texts
    have recut := (joinFields_eq_iff_recut (fields_length_eq preset)).mp joined
    by_contra other
    apply notAliased
    exact ⟨runtimeType, preset, recut, fun equal =>
      other (sameRuntime_of_fields runtimeType preset equal)⟩

theorem normalize_toJson_fields {canonical : SupervisionExecutionConfig}
    (found : normalizeSupervisionExecutionConfig toLowerCase config.toJson = some canonical) :
    canonical.agentType = config.agentType ∧ canonical.providerFamily = config.providerFamily ∧
      canonical.runtimeType = config.runtimeType ∧
      canonical.model =
        normalizeSupervisionExecutionModel toLowerCase config.agentType config.model ∧
      canonical.ccPresetId = config.ccPresetId := by
  unfold normalizeSupervisionExecutionConfig at found
  simp only [bind, Option.bind_eq_some_iff] at found
  obtain ⟨agentType, readAgentType, providerFamily, readFamily, model, readModel, runtimeType,
    readRuntime, accepted⟩ := found
  have agentField : config.toJson.field? "agentType" = some (.str config.agentType) :=
    field?_toJson config "agentType"
  have familyField : config.toJson.field? "providerFamily" = some (.str config.providerFamily) :=
    field?_toJson config "providerFamily"
  have modelField : config.toJson.field? "model" = some (.str config.model) :=
    field?_toJson config "model"
  have runtimeField : config.toJson.field? "runtimeType" = some (.str config.runtimeType.name) :=
    field?_toJson config "runtimeType"
  have presetField : config.toJson.field? "ccPresetId" = config.ccPresetId.map Json.str :=
    field?_toJson config "ccPresetId"
  have isAgent := (text_eq_some_iff.mp readAgentType).1
  have isFamily := (text_eq_some_iff.mp readFamily).1
  have isModel := (text_eq_some_iff.mp readModel).1
  rw [agentField, Option.some.injEq, Json.str.injEq] at isAgent
  rw [familyField, Option.some.injEq, Json.str.injEq] at isFamily
  rw [modelField, Option.some.injEq, Json.str.injEq] at isModel
  rw [runtimeField, readRuntimeType_name, Option.some.injEq] at readRuntime
  subst isAgent isFamily isModel readRuntime
  rw [presetField] at accepted
  split at accepted
  · cases accepted
  · next allowed =>
      obtain ⟨expected, -, accepted⟩ := Option.bind_eq_some_iff.mp accepted
      obtain ⟨literal, -, accepted⟩ := Option.bind_eq_some_iff.mp accepted
      split at accepted
      · cases accepted
      · cases accepted
        refine ⟨rfl, rfl, rfl, rfl, ?_⟩
        cases preset : config.ccPresetId with
        | none => rfl
        | some value =>
          cases read : text (some (Json.str value)) with
          | none => simp [preset, read] at allowed
          | some other =>
            have isValue := (text_eq_some_iff.mp read).1
            rw [Option.some.injEq, Json.str.injEq] at isValue
            rw [Option.map_some, read, isValue]

end SupervisionExecutionConfig

/-! ## Reuse -/

/-- The session is observed to run what the config names, with models in their canonical form. -/
structure Runs (toLowerCase : String → String) (actual : SupervisionObservedExecutionIdentity)
    (config : SupervisionExecutionConfig) : Prop where
  agentType : actual.agentType = some config.agentType
  providerFamily : actual.providerFamily = some config.providerFamily
  runtimeType : actual.runtimeType = some config.runtimeType
  model : ∃ observed, actual.model = some observed ∧ observed ≠ "" ∧
    normalizeSupervisionExecutionModel toLowerCase config.agentType observed =
      normalizeSupervisionExecutionModel toLowerCase config.agentType config.model
  ccPresetId : actual.ccPresetId = config.ccPresetId

/-- The candidate is free, and its session is one that runs a config of the pool. -/
structure MayBeReused (toLowerCase : String → String) (input : CapacityInput)
    (candidate : SupervisionExecutionCapacityCandidate) : Prop where
  available : candidate.available = true
  notLimited : candidate.limited = false
  notStale : candidate.staleRuntime = false
  runs : ∃ actual, candidate.actual = some actual ∧
    (∃ name, actual.sessionName = some name ∧ trim name ∉
      input.excludedSessionNames.getD supervisionDefaultExcludedDevelopmentSessions) ∧
    ∃ config ∈ input.definition.configs,
      config.capabilityId = candidate.config.capabilityId ∧ Runs toLowerCase actual config

private theorem passed {Reason : Type} {refused : Prop} [Decidable refused] {reason : Reason}
    {rest : Except Reason Unit} (ok : (if refused then .error reason else rest).isOk = true) :
    ¬ refused ∧ rest.isOk = true := by
  by_cases isRefused : refused
  · rw [if_pos isRefused] at ok
    cases ok
  · rw [if_neg isRefused] at ok
    exact ⟨isRefused, ok⟩

theorem evaluate_ok {config : SupervisionExecutionConfig}
    {actual : SupervisionObservedExecutionIdentity} {pool : SupervisionExecutionPoolKind}
    {excludedSessionNames : Option (List String)}
    (ok : (evaluateSupervisionObservedIdentity toLowerCase config actual pool
      excludedSessionNames).isOk = true) :
    (∃ name, actual.sessionName = some name ∧ trim name ∉
      excludedSessionNames.getD supervisionDefaultExcludedDevelopmentSessions) ∧
      Runs toLowerCase actual config := by
  unfold evaluateSupervisionObservedIdentity at ok
  dsimp only at ok
  obtain ⟨named, ok⟩ := passed ok
  obtain ⟨notExcluded, ok⟩ := passed ok
  obtain ⟨modelSome, ok⟩ := passed ok
  obtain ⟨-, ok⟩ := passed ok
  obtain ⟨-, ok⟩ := passed ok
  split at ok
  · cases ok
  · next canonical found =>
      obtain ⟨presetAllowed, ok⟩ := passed ok
      obtain ⟨same, -⟩ := passed ok
      simp only [not_or, ne_eq, not_not] at same
      obtain ⟨sameAgent, sameFamily, sameType, sameModel, samePreset⟩ := same
      obtain ⟨agentType, providerFamily, runtimeType, model, ccPresetId⟩ :=
        SupervisionExecutionConfig.normalize_toJson_fields found
      constructor
      · cases isNamed : actual.sessionName with
        | none => simp [isNamed] at named
        | some name => exact ⟨name, rfl, by simpa [isNamed] using notExcluded⟩
      · constructor
        · rw [← sameAgent, agentType]
        · rw [← sameFamily, providerFamily]
        · rw [← sameType, runtimeType]
        · cases observed : truthy actual.model with
          | none => simp [observed] at modelSome
          | some value =>
            obtain ⟨isValue, notEmpty⟩ := truthy_eq_some_iff.mp observed
            refine ⟨value, isValue, notEmpty, ?_⟩
            rw [observed, ← sameAgent, agentType, model] at sameModel
            exact sameModel.symm
        · rw [← ccPresetId, samePreset]
          cases observed : actual.ccPresetId with
          | none => rfl
          | some value =>
            cases read : text (some (Json.str value)) with
            | none => simp [observed, read] at presetAllowed
            | some other =>
              have isValue := (text_eq_some_iff.mp read).1
              rw [Option.some.injEq, Json.str.injEq] at isValue
              rw [Option.map_some, read, isValue]

theorem canonicalByCapability_spec {configs : List SupervisionExecutionConfig}
    {capabilityId : String} {config : SupervisionExecutionConfig}
    (found : (canonicalByCapability configs).get? capabilityId = some config) :
    config ∈ configs ∧ config.capabilityId = capabilityId := by
  have isKey := Dictionary.key_of_get?_gather (fun _ _ same => same) found
  refine ⟨?_, isKey⟩
  rw [canonicalByCapability, Dictionary.get?_gather] at found
  have last : ∀ (first : SupervisionExecutionConfig) (rest : List SupervisionExecutionConfig),
      rest.foldl (fun _ config => config) first ∈ first :: rest := by
    intro first rest
    induction rest generalizing first with
    | nil => exact List.mem_cons_self
    | cons next rest ih => exact List.mem_cons_of_mem _ (ih next)
  split at found
  · cases found
  · next first rest own =>
      have isLast := last first rest
      rw [Option.some.inj found, ← own] at isLast
      exact List.mem_of_mem_filter isLast

theorem mayBeReused_of_plan {input : CapacityInput}
    {candidate : SupervisionExecutionCapacityCandidate}
    (reused : planSupervisionExecutionCapacity toLowerCase input = .reuse candidate) :
    MayBeReused toLowerCase input candidate := by
  have isFound : input.candidates.find? (isReusable toLowerCase input) = some candidate := by
    unfold planSupervisionExecutionCapacity at reused
    dsimp only at reused
    split at reused
    · next other found =>
        cases reused
        exact found
    · repeat' split at reused
      all_goals cases reused
  have reusable := List.find?_some isFound
  unfold isReusable at reusable
  split at reusable
  · cases reusable
  · next config found =>
      split at reusable
      · cases reusable
      · next actual observed =>
          split at reusable
          · cases reusable
          · next free =>
              obtain ⟨listed, isKey⟩ := canonicalByCapability_spec found
              obtain ⟨named, runs⟩ := evaluate_ok reusable
              simp only [Bool.or_eq_true, Bool.not_eq_eq_eq_not, Bool.not_true, not_or,
                Bool.not_eq_true, Bool.not_eq_false] at free
              exact ⟨free.1.1, free.1.2, free.2, actual, observed, named, config, listed, isKey,
                runs⟩

/-- A capability id identifies one runtime exactly if no text was moved across the colons between
the fields of the entries; a session is reused only for what it runs either way. -/
theorem capability_identifies_iff (toLowerCase : String → String) {leftSource rightSource : Json}
    {left right : SupervisionExecutionConfig}
    (leftAccepted : normalizeSupervisionExecutionConfig toLowerCase leftSource = some left)
    (rightAccepted : normalizeSupervisionExecutionConfig toLowerCase rightSource = some right)
    (input : CapacityInput) :
    ((left.capabilityId = right.capabilityId → left.SameRuntime right) ∧
      ∀ candidate, planSupervisionExecutionCapacity toLowerCase input = .reuse candidate →
        MayBeReused toLowerCase input candidate) ↔ ¬ left.Aliased right := by
  rw [SupervisionExecutionConfig.sameRuntime_of_capabilityId_iff
    (normalizeSupervisionExecutionConfig_normal leftAccepted)
    (normalizeSupervisionExecutionConfig_normal rightAccepted)]
  exact and_iff_left fun candidate reused => mayBeReused_of_plan reused

section FixedEntries

private def asciiLower (value : String) : String :=
  String.ofList (value.toList.map Char.toLower)

private def codexSource (capabilityId providerFamily model : String) : Json :=
  .obj [("capabilityId", .str capabilityId), ("agentType", .str "codex-sdk"),
    ("providerFamily", .str providerFamily), ("runtimeType", .str "transport"),
    ("model", .str model)]

private def codexRuntime (providerFamily model : String) : SupervisionExecutionConfig :=
  ⟨"supervision-exec-v1:transport:codex-sdk:" ++ providerFamily ++ ":" ++ model, "codex-sdk",
    providerFamily, .transport, model, none, none⟩

private def codexSession (name model : String) : SupervisionExecutionCapacityCandidate where
  config := codexRuntime "openai" "gpt-6-sol"
  actual := some ⟨some name, some "i1", some "e1", some "codex-sdk", some "openai",
    some .transport, some model, none⟩
  available := true
  limited := false
  staleRuntime := false

private def idlePool : CapacityInput where
  pool := .primary
  definition := ⟨[codexRuntime "openai" "gpt-6-sol"], ⟨4, 2, 1800000, 200, 1⟩⟩
  candidates := [codexSession "first" "gpt-6-luna", codexSession "second" "gpt-6-sol"]
  activeAssignments := 0
  activeSpawned := 0
  providerCapacity := Table.empty
  parentSessionName := "brain"
  parentRunId := "run"
  parentStage := "stage"
  idempotencyKey := "key"
  now := 0
  existingSpawnRequest := none
  excludedSessionNames := none

/-- Entries of two models of one provider have ids of their own, and of two sessions of one entry
the one is reused that runs its model. -/
theorem capability_identifies_models :
    ((codexRuntime "openai" "gpt-6-sol").capabilityId =
        (codexRuntime "openai" "gpt-6-luna").capabilityId →
      (codexRuntime "openai" "gpt-6-sol").SameRuntime (codexRuntime "openai" "gpt-6-luna")) ∧
    planSupervisionExecutionCapacity asciiLower idlePool =
      .reuse (codexSession "second" "gpt-6-sol") ∧
    MayBeReused asciiLower idlePool (codexSession "second" "gpt-6-sol") := by
  have identifies := (@capability_identifies_iff asciiLower
    (codexSource "supervision-exec-v1:transport:codex-sdk:openai:gpt-6-sol" "openai" "gpt-6-sol")
    (codexSource "supervision-exec-v1:transport:codex-sdk:openai:gpt-6-luna" "openai"
      "gpt-6-luna") (codexRuntime "openai" "gpt-6-sol") (codexRuntime "openai" "gpt-6-luna")
    (by decide +kernel) (by decide +kernel) idlePool).mpr
      fun aliased => absurd aliased.recut.joinFields_eq (by decide +kernel)
  have reused : planSupervisionExecutionCapacity asciiLower idlePool =
      .reuse (codexSession "second" "gpt-6-sol") := by decide +kernel
  exact ⟨identifies.1, reused, identifies.2 _ reused⟩

/-- A model with a colon has the id of a model without it, of a provider whose family goes on with
what stands before the colon. -/
theorem capability_of_two_models :
    normalizeSupervisionExecutionConfig asciiLower
        (codexSource "supervision-exec-v1:transport:codex-sdk:ollama:qwen3:8b" "ollama"
          "qwen3:8b") = some (codexRuntime "ollama" "qwen3:8b") ∧
      normalizeSupervisionExecutionConfig asciiLower
        (codexSource "supervision-exec-v1:transport:codex-sdk:ollama:qwen3:8b" "ollama:qwen3"
          "8b") = some (codexRuntime "ollama:qwen3" "8b") ∧
      ¬ ((codexRuntime "ollama" "qwen3:8b").capabilityId =
          (codexRuntime "ollama:qwen3" "8b").capabilityId →
        (codexRuntime "ollama" "qwen3:8b").SameRuntime (codexRuntime "ollama:qwen3" "8b")) := by
  refine ⟨by decide +kernel, by decide +kernel, ?_⟩
  intro identifies
  exact absurd (identifies (by decide +kernel)).model (by decide)

end FixedEntries

end ImCodes.Supervision
