import ImCodes.Supervision.ExecutionPools

/-!
# Roles of pool entries

The entries of one capability are merged pairwise, and a conflict is kept as no role at all, which
is also what an entry has that names none. So two entries that disagree are widened to both, and a
third narrows them again: the result is what the entries say, whatever their order, exactly if those
of each capability agree or only two of them name a role.
-/

set_option autoImplicit false

namespace ImCodes.Supervision

open Library

variable {toLowerCase : String → String}

/-! ## Well-formed configs -/

def Clean (value : String) : Prop := trim value = value ∧ value ≠ ""

theorem text_eq_some_iff {value : Option Json} {read : String} :
    text value = some read ↔ value = some (.str read) ∧ Clean read := by
  unfold text Clean
  simp only [Option.filter_eq_some_iff, Option.bind_eq_some_iff, decide_eq_true_eq]
  constructor
  · rintro ⟨⟨json, rfl, isString⟩, clean⟩
    cases json <;> simp [Json.asString?] at isString
    exact ⟨by rw [isString], clean⟩
  · rintro ⟨rfl, clean⟩
    exact ⟨⟨.str read, rfl, rfl⟩, clean⟩

private theorem normalizeClaudeCodeModelId_mem {value canonical : String}
    (found : normalizeClaudeCodeModelId toLowerCase value = some canonical) :
    canonical ∈ claudeCodeModelIds := by
  unfold normalizeClaudeCodeModelId at found
  dsimp only at found
  split at found
  · cases found
  · split at found
    · cases found
      decide
    · split at found
      · next listed =>
          cases found
          simpa using listed
      · repeat' split at found
        all_goals
          cases found
          try decide

variable (toLowerCase) in
private theorem normalizeClaudeCodeModelId_canonical {canonical : String}
    (listed : canonical ∈ claudeCodeModelIds) :
    normalizeClaudeCodeModelId toLowerCase canonical = some canonical ∧ Clean canonical := by
  simp only [claudeCodeModelIds, List.mem_cons, List.not_mem_nil, or_false] at listed
  rcases listed with rfl | rfl | rfl | rfl
  all_goals
    constructor
    · rfl
    · constructor
      · decide
      · decide

private theorem normalizeModel_plain {agentType model : String} (clean : Clean model)
    (other : isClaudeCodeFamily agentType = false) :
    normalizeSupervisionExecutionModel toLowerCase agentType model = model := by
  simp [normalizeSupervisionExecutionModel, clean.1, other]

private theorem normalizeModel_family {agentType model : String} (clean : Clean model)
    (family : isClaudeCodeFamily agentType = true) :
    normalizeSupervisionExecutionModel toLowerCase agentType model =
      (normalizeClaudeCodeModelId toLowerCase model).getD model := by
  simp [normalizeSupervisionExecutionModel, clean.1, clean.2, family]

variable (toLowerCase) in
private theorem normalizeModel_clean (agentType : String) {model : String} (clean : Clean model) :
    Clean (normalizeSupervisionExecutionModel toLowerCase agentType model) ∧
      normalizeSupervisionExecutionModel toLowerCase agentType
        (normalizeSupervisionExecutionModel toLowerCase agentType model) =
      normalizeSupervisionExecutionModel toLowerCase agentType model := by
  cases family : isClaudeCodeFamily agentType with
  | false =>
    rw [normalizeModel_plain clean family]
    exact ⟨clean, normalizeModel_plain clean family⟩
  | true =>
    rw [normalizeModel_family clean family]
    cases found : normalizeClaudeCodeModelId toLowerCase model with
    | none =>
      refine ⟨clean, ?_⟩
      rw [Option.getD_none, normalizeModel_family clean family, found, Option.getD_none]
    | some canonical =>
      have listed := normalizeClaudeCodeModelId_mem found
      obtain ⟨again, cleanCanonical⟩ :=
        normalizeClaudeCodeModelId_canonical toLowerCase listed
      refine ⟨cleanCanonical, ?_⟩
      rw [Option.getD_some, normalizeModel_family cleanCanonical family, again,
        Option.getD_some]

/-- What a normalized config is like. -/
structure SupervisionExecutionConfig.Normal (toLowerCase : String → String)
    (config : SupervisionExecutionConfig) : Prop where
  agentType : Clean config.agentType
  providerFamily : Clean config.providerFamily
  model : Clean config.model
  canonical : normalizeSupervisionExecutionModel toLowerCase config.agentType config.model =
    config.model
  preset : ∀ preset, config.ccPresetId = some preset → Clean preset ∧
    doesSharedContextBackendSupportPresets (normalizeSharedContextRuntimeBackend config.agentType)
  capabilityId : buildSupervisionExecutionCapabilityIdForModel config.agentType
    config.providerFamily config.runtimeType config.model config.ccPresetId =
      .ok config.capabilityId
  role : config.role ≠ some .both

private theorem readRole_ne_both (value : Option Json) : readRole value ≠ some .both := by
  unfold readRole
  repeat' split
  all_goals simp

private theorem toOption_eq_some {result : Except String String} {value : String}
    (found : result.toOption = some value) : result = .ok value := by
  cases result with
  | error _ => cases found
  | ok other => exact congrArg Except.ok (Option.some.inj found)

theorem normalizeSupervisionExecutionConfig_normal {source : Json}
    {config : SupervisionExecutionConfig}
    (normalized : normalizeSupervisionExecutionConfig toLowerCase source = some config) :
    config.Normal toLowerCase := by
  unfold normalizeSupervisionExecutionConfig at normalized
  simp only [bind, Option.bind_eq_some_iff] at normalized
  obtain ⟨agentType, readAgentType, providerFamily, readFamily, model, readModel, runtimeType, -,
    accepted⟩ := normalized
  have cleanAgent := (text_eq_some_iff.mp readAgentType).2
  have cleanFamily := (text_eq_some_iff.mp readFamily).2
  have cleanModel := (text_eq_some_iff.mp readModel).2
  split at accepted
  · cases accepted
  · next allowed =>
      obtain ⟨expected, isExpected, accepted⟩ := Option.bind_eq_some_iff.mp accepted
      obtain ⟨literal, -, accepted⟩ := Option.bind_eq_some_iff.mp accepted
      split at accepted
      · cases accepted
      · cases accepted
        have canonical := normalizeModel_clean toLowerCase agentType cleanModel
        constructor
        · exact cleanAgent
        · exact cleanFamily
        · exact canonical.1
        · exact canonical.2
        · intro preset isPreset
          have isRead : text (source.field? "ccPresetId") = some preset := isPreset
          have present : (source.field? "ccPresetId").isSome := by
            rw [(text_eq_some_iff.mp isRead).1]
            rfl
          simp only [present, isRead, Option.isNone_some, true_and, false_or, Bool.false_eq_true,
            Bool.not_eq_eq_eq_not] at allowed
          exact ⟨(text_eq_some_iff.mp isRead).2, by simpa using allowed⟩
        · exact toOption_eq_some isExpected
        · exact readRole_ne_both _

namespace SupervisionExecutionConfig

variable (config : SupervisionExecutionConfig)

private theorem field?_member (name key : String) (value : Json) (rest : List (String × Json)) :
    (Json.obj ((key, value) :: rest)).field? name =
      if name = key then some value else (Json.obj rest).field? name := by
  unfold Json.field?
  by_cases same : name = key
  · simp [same]
  · simp [same, Ne.symm same]

theorem field?_toJson (name : String) : config.toJson.field? name =
    if name = "capabilityId" then some (.str config.capabilityId)
    else if name = "agentType" then some (.str config.agentType)
    else if name = "providerFamily" then some (.str config.providerFamily)
    else if name = "runtimeType" then some (.str config.runtimeType.name)
    else if name = "model" then some (.str config.model)
    else if name = "ccPresetId" then config.ccPresetId.map Json.str
    else if name = "role" then config.role.map fun role => Json.str role.name
    else none := by
  have noMember : (Json.obj []).field? name = none := rfl
  unfold toJson
  cases config.ccPresetId with
  | none =>
    cases config.role with
    | none =>
      simp only [Option.map_none, Option.toList_none, List.append_nil, field?_member, noMember,
        ite_self]
    | some role =>
      simp only [Option.map_none, Option.map_some, Option.toList_none, Option.toList_some,
        List.append_nil, List.cons_append, List.nil_append, field?_member, noMember]
      grind
  | some preset =>
    cases config.role with
    | none =>
      simp only [Option.map_none, Option.map_some, Option.toList_none, Option.toList_some,
        List.append_nil, List.cons_append, List.nil_append, field?_member, noMember, ite_self]
    | some role =>
      simp only [Option.map_some, Option.toList_some, List.cons_append, List.nil_append,
        field?_member, noMember]

theorem readRuntimeType_name (runtimeType : RuntimeType) :
    readRuntimeType (some (.str runtimeType.name)) = some runtimeType := by
  cases runtimeType <;> rfl

private theorem readRole_name {role : Option SupervisionExecutionPoolRole}
    (notBoth : role ≠ some .both) :
    readRole (role.map fun role => Json.str role.name) = role := by
  cases role with
  | none => rfl
  | some role =>
    cases role with
    | executor => rfl
    | auditor => rfl
    | both => exact absurd rfl notBoth

variable {config}

theorem Normal.normalize_toJson (normal : config.Normal toLowerCase) :
    normalizeSupervisionExecutionConfig toLowerCase config.toJson = some config := by
  have readAgentType : text (config.toJson.field? "agentType") = some config.agentType :=
    text_eq_some_iff.mpr ⟨field?_toJson config "agentType", normal.agentType⟩
  have readFamily : text (config.toJson.field? "providerFamily") = some config.providerFamily :=
    text_eq_some_iff.mpr ⟨field?_toJson config "providerFamily", normal.providerFamily⟩
  have readModel : text (config.toJson.field? "model") = some config.model :=
    text_eq_some_iff.mpr ⟨field?_toJson config "model", normal.model⟩
  have readRuntime : readRuntimeType (config.toJson.field? "runtimeType") =
      some config.runtimeType := by
    rw [field?_toJson]
    exact readRuntimeType_name _
  have presetField : config.toJson.field? "ccPresetId" = config.ccPresetId.map Json.str :=
    field?_toJson config "ccPresetId"
  have readPreset : text (config.toJson.field? "ccPresetId") = config.ccPresetId := by
    rw [presetField]
    cases held : config.ccPresetId with
    | none => rfl
    | some preset => exact text_eq_some_iff.mpr ⟨rfl, (normal.preset preset held).1⟩
  have readsRole : readRole (config.toJson.field? "role") = config.role := by
    rw [field?_toJson]
    exact readRole_name normal.role
  have idField : config.toJson.field? "capabilityId" = some (.str config.capabilityId) :=
    field?_toJson config "capabilityId"
  have allowed : ¬ ((config.toJson.field? "ccPresetId").isSome ∧ (config.ccPresetId.isNone ∨
      !doesSharedContextBackendSupportPresets
        (normalizeSharedContextRuntimeBackend config.agentType))) := by
    rw [presetField]
    cases held : config.ccPresetId with
    | none => simp
    | some preset => simp [(normal.preset preset held).2]
  unfold normalizeSupervisionExecutionConfig
  simp only [readAgentType, readFamily, readModel, readRuntime, readPreset, readsRole, bind,
    Option.bind_some, if_neg allowed, normal.canonical, normal.capabilityId, Except.toOption,
    if_true, idField, ne_eq, not_true_eq_false, false_and, if_false]

end SupervisionExecutionConfig

/-! ## Merging roles -/

def keptRole (held item : Option SupervisionExecutionPoolRole) :
    Option SupervisionExecutionPoolRole :=
  (mergedRole held item).filter fun role => role ≠ .both

theorem mergeDuplicate_eq (previous item : SupervisionExecutionConfig) :
    mergeDuplicate previous item = { item with role := keptRole previous.role item.role } := by
  unfold mergeDuplicate keptRole
  cases mergedRole previous.role item.role with
  | none => rfl
  | some role => cases role <;> rfl

theorem keptRole_ne_both (held item : Option SupervisionExecutionPoolRole) :
    keptRole held item ≠ some .both := by
  intro isBoth
  simp [keptRole, Option.filter_eq_some_iff] at isBoth

private theorem keptRole_none {held : Option SupervisionExecutionPoolRole}
    (notBoth : held ≠ some .both) : keptRole held none = held := by
  cases held with
  | none => rfl
  | some role =>
    cases role with
    | executor => rfl
    | auditor => rfl
    | both => exact absurd rfl notBoth

private theorem none_keptRole {item : Option SupervisionExecutionPoolRole}
    (notBoth : item ≠ some .both) : keptRole none item = item := by
  cases item with
  | none => rfl
  | some role =>
    cases role with
    | executor => rfl
    | auditor => rfl
    | both => exact absurd rfl notBoth

private theorem keptRole_self {role : SupervisionExecutionPoolRole} (notBoth : role ≠ .both) :
    keptRole (some role) (some role) = some role := by
  cases role with
  | executor => rfl
  | auditor => rfl
  | both => exact absurd rfl notBoth

private theorem keptRole_conflict {held item : SupervisionExecutionPoolRole} (differ : held ≠ item) :
    keptRole (some held) (some item) = none := by
  cases held <;> cases item <;> first | rfl | exact absurd rfl differ

def heldRole (named : List SupervisionExecutionPoolRole) : Option SupervisionExecutionPoolRole :=
  named.foldl (fun held role => keptRole held (some role)) none

def RolesSettle (named : List SupervisionExecutionPoolRole) : Prop :=
  (∀ left ∈ named, ∀ right ∈ named, left = right) ∨ named.length = 2

private theorem foldl_keptRole_agree {role : SupervisionExecutionPoolRole} (notBoth : role ≠ .both)
    {named : List SupervisionExecutionPoolRole} (agree : ∀ other ∈ named, other = role) :
    named.foldl (fun held role => keptRole held (some role)) (some role) = some role := by
  induction named with
  | nil => rfl
  | cons first rest ih =>
    obtain ⟨isRole, later⟩ := List.forall_mem_cons.mp agree
    subst isRole
    rw [List.foldl_cons, keptRole_self notBoth]
    exact ih later

private theorem heldRole_agree {role : SupervisionExecutionPoolRole} (notBoth : role ≠ .both)
    {named : List SupervisionExecutionPoolRole} (some_ : named ≠ [])
    (agree : ∀ other ∈ named, other = role) : heldRole named = some role := by
  cases named with
  | nil => exact absurd rfl some_
  | cons first rest =>
    obtain ⟨isRole, later⟩ := List.forall_mem_cons.mp agree
    subst isRole
    have held : keptRole none (some first) = some first := none_keptRole (by simpa using notBoth)
    rw [heldRole, List.foldl_cons, held]
    exact foldl_keptRole_agree notBoth later

theorem heldRole_eq_some_iff {named : List SupervisionExecutionPoolRole}
    (plain : .both ∉ named) (settle : RolesSettle named) {role : SupervisionExecutionPoolRole} :
    heldRole named = some role ↔ role ∈ named ∧ ∀ other ∈ named, other = role := by
  constructor
  · intro held
    rcases settle with agree | two
    · cases named with
      | nil => cases held
      | cons first rest =>
        have allFirst : ∀ other ∈ first :: rest, other = first :=
          fun other member => agree other member first List.mem_cons_self
        have notBoth : first ≠ .both := fun isBoth => plain (isBoth ▸ List.mem_cons_self)
        rw [heldRole_agree notBoth (List.cons_ne_nil _ _) allFirst] at held
        cases held
        exact ⟨List.mem_cons_self, allFirst⟩
    · obtain ⟨first, second, rfl⟩ := List.length_eq_two.mp two
      by_cases same : first = second
      · subst same
        have notBoth : first ≠ .both := fun isBoth => plain (isBoth ▸ List.mem_cons_self)
        rw [heldRole_agree notBoth (List.cons_ne_nil _ _) (by simp)] at held
        cases held
        simp
      · have notBoth : first ≠ .both := fun isBoth => plain (isBoth ▸ List.mem_cons_self)
        have firstHeld : keptRole none (some first) = some first :=
          none_keptRole (by simpa using notBoth)
        simp only [heldRole, List.foldl_cons, List.foldl_nil, firstHeld,
          keptRole_conflict same] at held
        cases held
  · rintro ⟨member, agree⟩
    have notBoth : role ≠ .both := fun isBoth => plain (isBoth ▸ member)
    exact heldRole_agree notBoth (List.ne_nil_of_mem member) agree

theorem heldRole_narrowed {first second : List SupervisionExecutionPoolRole}
    {role other : SupervisionExecutionPoolRole} (differ : other ≠ role) (notBoth : role ≠ .both)
    (otherNotBoth : other ≠ .both) (some_ : first ≠ []) (firstOther : ∀ named ∈ first, named = other)
    (secondRole : ∀ named ∈ second, named = role) (twice : 2 ≤ second.length) :
    heldRole (first ++ second) = some role := by
  match second, twice, secondRole with
  | once :: again :: rest, _, secondRole =>
    obtain ⟨onceRole, laterRole⟩ := List.forall_mem_cons.mp secondRole
    obtain ⟨againRole, restRole⟩ := List.forall_mem_cons.mp laterRole
    subst onceRole
    subst againRole
    have firstHeld := heldRole_agree otherNotBoth some_ firstOther
    have fromNone : keptRole none (some again) = some again :=
      none_keptRole (by simpa using notBoth)
    rw [heldRole] at firstHeld ⊢
    rw [List.foldl_append, firstHeld, List.foldl_cons, List.foldl_cons,
      keptRole_conflict differ, fromNone]
    exact foldl_keptRole_agree notBoth restRole

/-! ## Merging entries -/

/-- The roles that the entries of a capability name. -/
def namedRoles (capabilityId : String) (items : List SupervisionExecutionConfig) :
    List SupervisionExecutionPoolRole :=
  (items.filter fun item => item.capabilityId = capabilityId).filterMap
    SupervisionExecutionConfig.role

private theorem mem_namedRoles {capabilityId : String} {items : List SupervisionExecutionConfig}
    {role : SupervisionExecutionPoolRole} :
    role ∈ namedRoles capabilityId items ↔
      ∃ item ∈ items, item.capabilityId = capabilityId ∧ item.role = some role := by
  simp [namedRoles, List.mem_filterMap, List.mem_filter, and_assoc]

private theorem role_foldl {rest : List SupervisionExecutionConfig}
    {first : SupervisionExecutionConfig} (plain : first.role ≠ some .both) :
    (rest.foldl mergeDuplicate first).role =
      (rest.filterMap SupervisionExecutionConfig.role).foldl
        (fun held role => keptRole held (some role)) first.role := by
  induction rest generalizing first with
  | nil => rfl
  | cons next rest ih =>
    rw [List.foldl_cons, mergeDuplicate_eq, ih (keptRole_ne_both _ _)]
    cases named : next.role with
    | none => rw [List.filterMap_cons_none named, keptRole_none plain]
    | some role => rw [List.filterMap_cons_some named, List.foldl_cons]

private theorem role_merged {first : SupervisionExecutionConfig}
    {rest : List SupervisionExecutionConfig} (plain : first.role ≠ some .both) :
    (rest.foldl mergeDuplicate first).role =
      heldRole ((first :: rest).filterMap SupervisionExecutionConfig.role) := by
  rw [role_foldl plain]
  cases named : first.role with
  | none =>
    rw [List.filterMap_cons_none named]
    rfl
  | some role =>
    rw [List.filterMap_cons_some named, heldRole, List.foldl_cons, none_keptRole (named ▸ plain)]

private theorem withoutRole_merged {first last : SupervisionExecutionConfig}
    {rest : List SupervisionExecutionConfig} :
    ((rest ++ [last]).foldl mergeDuplicate first).withoutRole = last.withoutRole := by
  rw [List.foldl_append, List.foldl_cons, List.foldl_nil, mergeDuplicate_eq]
  rfl

private theorem eq_of_withoutRole {left right : SupervisionExecutionConfig}
    (runtime : left.withoutRole = right.withoutRole) (role : left.role = right.role) :
    left = right := by
  cases left
  cases right
  simp only [SupervisionExecutionConfig.withoutRole, SupervisionExecutionConfig.mk.injEq] at runtime
  simp_all

private theorem capabilityId_mergeDuplicate (previous item : SupervisionExecutionConfig) :
    (mergeDuplicate previous item).capabilityId = item.capabilityId := by
  rw [mergeDuplicate_eq]

def merged (items : List SupervisionExecutionConfig) : List SupervisionExecutionConfig :=
  (byCapability items).rows.map Prod.snd

theorem mem_merged {items : List SupervisionExecutionConfig} {member : SupervisionExecutionConfig} :
    member ∈ merged items ↔ ∃ first rest,
      (items.filter fun item => item.capabilityId = member.capabilityId) = first :: rest ∧
        member = rest.foldl mergeDuplicate first := by
  have keeps : ∀ previous item : SupervisionExecutionConfig,
      item.capabilityId = previous.capabilityId →
        (mergeDuplicate previous item).capabilityId = previous.capabilityId :=
    fun previous item same => (capabilityId_mergeDuplicate previous item).trans same
  have stored : member ∈ merged items ↔
      (byCapability items).get? member.capabilityId = some member := by
    unfold merged
    rw [List.mem_map]
    constructor
    · rintro ⟨⟨key, value⟩, entry, rfl⟩
      have found : (byCapability items).get? key = some value :=
        Dictionary.get?_eq_some_iff.mpr entry
      have isKey : value.capabilityId = key := Dictionary.key_of_get?_gather keeps found
      exact isKey ▸ found
    · intro found
      exact ⟨_, Dictionary.get?_eq_some_iff.mp found, rfl⟩
  rw [stored, byCapability, Dictionary.get?_gather]
  cases items.filter fun item => item.capabilityId = member.capabilityId with
  | nil => simp
  | cons first rest =>
    constructor
    · intro found
      exact ⟨first, rest, rfl, (Option.some.inj found).symm⟩
    · rintro ⟨other, others, same, isMember⟩
      cases same
      exact congrArg some isMember.symm

theorem capabilities_nodup (items : List SupervisionExecutionConfig) :
    ((merged items).map SupervisionExecutionConfig.capabilityId).Nodup := by
  have keeps : ∀ previous item : SupervisionExecutionConfig,
      item.capabilityId = previous.capabilityId →
        (mergeDuplicate previous item).capabilityId = previous.capabilityId :=
    fun previous item same => (capabilityId_mergeDuplicate previous item).trans same
  have sameKeys : (merged items).map SupervisionExecutionConfig.capabilityId =
      (byCapability items).keys := by
    unfold merged Dictionary.keys
    rw [List.map_map]
    apply List.map_congr_left
    intro entry member
    exact Dictionary.key_of_get?_gather keeps (Dictionary.get?_eq_some_iff.mpr member)
  rw [sameKeys]
  exact Dictionary.keys_nodup _

private theorem exists_merged {items : List SupervisionExecutionConfig}
    {item : SupervisionExecutionConfig} (listed : item ∈ items) :
    ∃ member ∈ merged items, member.capabilityId = item.capabilityId := by
  have own : item ∈ items.filter fun other => other.capabilityId = item.capabilityId :=
    List.mem_filter.mpr ⟨listed, by simp⟩
  cases entries : items.filter fun other => other.capabilityId = item.capabilityId with
  | nil => simp [entries] at own
  | cons first rest =>
    have allOwn : ∀ other ∈ first :: rest, other.capabilityId = item.capabilityId := by
      intro other member
      rw [← entries] at member
      simpa using (List.mem_filter.mp member).2
    have isOwn : (rest.foldl mergeDuplicate first).capabilityId = item.capabilityId := by
      rcases List.eq_nil_or_concat rest with rfl | ⟨earlier, last, rfl⟩
      · exact allOwn first List.mem_cons_self
      · rw [List.concat_eq_append, List.foldl_append, List.foldl_cons, List.foldl_nil,
          capabilityId_mergeDuplicate]
        exact allOwn last (by simp)
    refine ⟨_, mem_merged.mpr ⟨first, rest, ?_, rfl⟩, isOwn⟩
    rw [isOwn]
    exact entries

private theorem merged_spec {items : List SupervisionExecutionConfig}
    (plain : ∀ item ∈ items, item.role ≠ some .both) {member : SupervisionExecutionConfig}
    (listed : member ∈ merged items) :
    member.role = heldRole (namedRoles member.capabilityId items) ∧
      ∃ item ∈ items, item.capabilityId = member.capabilityId ∧
        member.withoutRole = item.withoutRole := by
  obtain ⟨first, rest, own, isMerged⟩ := mem_merged.mp listed
  have ofItems : ∀ item ∈ first :: rest,
      item ∈ items ∧ item.capabilityId = member.capabilityId := by
    intro item isOwn
    rw [← own] at isOwn
    simpa using List.mem_filter.mp isOwn
  have firstPlain := plain first (ofItems first List.mem_cons_self).1
  constructor
  · rw [namedRoles, own, ← role_merged firstPlain, ← isMerged]
  · rcases List.eq_nil_or_concat rest with rfl | ⟨earlier, last, rfl⟩
    · have isFirst : member = first := isMerged
      exact ⟨first, (ofItems first (by simp)).1, (ofItems first (by simp)).2, by rw [isFirst]⟩
    · rw [List.concat_eq_append] at isMerged ofItems
      have isLast : last ∈ first :: (earlier ++ [last]) := by simp
      refine ⟨last, (ofItems last isLast).1, (ofItems last isLast).2, ?_⟩
      rw [isMerged, withoutRole_merged]

/-! ## Pools -/

variable (toLowerCase)

theorem normalizePool_configs (source : Json) (kind : SupervisionExecutionPoolKind) :
    (normalizePool toLowerCase source kind).configs =
      merged (poolEligibleConfigs toLowerCase kind (listedConfigs source)) := rfl

/-- What is left of one entry of a list: a config that the pool may have. -/
def poolEligibleConfig (kind : SupervisionExecutionPoolKind) (entry : Json) :
    Option SupervisionExecutionConfig :=
  (normalizeSupervisionExecutionConfig toLowerCase entry).filter fun item =>
    kind ≠ .primary || !isExcludedDevelopmentModel toLowerCase item.model

theorem poolEligibleConfigs_eq (kind : SupervisionExecutionPoolKind) (entries : List Json) :
    poolEligibleConfigs toLowerCase kind entries =
      entries.filterMap (poolEligibleConfig toLowerCase kind) := by
  unfold poolEligibleConfigs poolEligibleConfig
  cases kind with
  | primary => simp [List.filter_filterMap]
  | economy =>
    simp only [reduceCtorEq, if_false, ne_eq, not_false_eq_true, decide_true, Bool.true_or]
    apply List.filterMap_congr
    intro entry _
    cases normalizeSupervisionExecutionConfig toLowerCase entry <;> rfl

variable {toLowerCase}

private theorem normal_of_eligible {kind : SupervisionExecutionPoolKind} {entry : Json}
    {config : SupervisionExecutionConfig}
    (eligible : poolEligibleConfig toLowerCase kind entry = some config) :
    config.Normal toLowerCase :=
  normalizeSupervisionExecutionConfig_normal (Option.filter_eq_some_iff.mp eligible).1

private theorem plain_of_eligible {kind : SupervisionExecutionPoolKind} {entries : List Json} :
    ∀ item ∈ poolEligibleConfigs toLowerCase kind entries, item.role ≠ some .both := by
  intro item listed
  rw [poolEligibleConfigs_eq, List.mem_filterMap] at listed
  obtain ⟨entry, -, eligible⟩ := listed
  exact (normal_of_eligible eligible).role

private theorem eligible_toJson {kind : SupervisionExecutionPoolKind} {entry : Json}
    {config member : SupervisionExecutionConfig}
    (eligible : poolEligibleConfig toLowerCase kind entry = some config)
    (sameRuntime : member.withoutRole = config.withoutRole) (plain : member.role ≠ some .both) :
    poolEligibleConfig toLowerCase kind member.toJson = some member := by
  obtain ⟨read, allowed⟩ := Option.filter_eq_some_iff.mp eligible
  have normal := normal_of_eligible eligible
  have isMember : member = { config with role := member.role } := by
    apply eq_of_withoutRole
    · exact sameRuntime
    · rfl
  have memberNormal : member.Normal toLowerCase := by
    rw [isMember]
    exact ⟨normal.agentType, normal.providerFamily, normal.model, normal.canonical, normal.preset,
      normal.capabilityId, plain⟩
  have sameModel : member.model = config.model := by rw [isMember]
  exact Option.filter_eq_some_iff.mpr ⟨memberNormal.normalize_toJson, by rw [sameModel]; exact allowed⟩

private theorem merged_distinct {items : List SupervisionExecutionConfig}
    (distinct : (items.map SupervisionExecutionConfig.capabilityId).Nodup) :
    merged items = items := by
  unfold merged byCapability
  rw [Dictionary.rows_gather_distinct distinct, List.map_map]
  exact List.map_id _

private theorem positive_stable (value : Option Json) {fallback : Nat} (isPositive : 0 < fallback) :
    positive (some (.num (positive value fallback : Nat))) fallback = positive value fallback := by
  have result : 0 < positive value fallback := by
    unfold positive
    split
    · split
      · omega
      · exact isPositive
    · exact isPositive
  generalize positive value fallback = number at result
  unfold positive
  simp only [Int.floor_natCast, Nat.cast_pos, Int.toNat_natCast]
  rw [if_pos result]

private theorem merged_readable {kind : SupervisionExecutionPoolKind} {entries : List Json}
    {member : SupervisionExecutionConfig}
    (listed : member ∈ merged (poolEligibleConfigs toLowerCase kind entries)) :
    poolEligibleConfig toLowerCase kind member.toJson = some member := by
  obtain ⟨isRole, item, isItem, -, runtime⟩ := merged_spec plain_of_eligible listed
  rw [poolEligibleConfigs_eq, List.mem_filterMap] at isItem
  obtain ⟨entry, -, eligible⟩ := isItem
  have plain : member.role ≠ some .both := by
    rw [isRole]
    unfold heldRole
    rcases List.eq_nil_or_concat (namedRoles member.capabilityId
        (poolEligibleConfigs toLowerCase kind entries)) with none | ⟨earlier, last, named⟩
    · simp [none]
    · rw [named, List.concat_eq_append, List.foldl_append, List.foldl_cons, List.foldl_nil]
      exact keptRole_ne_both _ _
  exact eligible_toJson eligible runtime plain

private theorem normalizeControls_stable (controls : Json) (kind : SupervisionExecutionPoolKind) :
    normalizeControls (normalizeControls controls kind).toJson kind =
      normalizeControls controls kind := by
  have defaults : 0 < (defaultSupervisionExecutionPoolControls kind).maxConcurrency ∧
      0 < (defaultSupervisionExecutionPoolControls kind).maxSpawned ∧
      0 < (defaultSupervisionExecutionPoolControls kind).leaseMs ∧
      0 < (defaultSupervisionExecutionPoolControls kind).changeBudget ∧
      0 < (defaultSupervisionExecutionPoolControls kind).auditHeadroomPerProviderFamily := by
    cases kind <;> decide
  obtain ⟨concurrency, spawned, lease, budget, headroom⟩ := defaults
  unfold SupervisionExecutionPoolControls.toJson
  rw [normalizeControls]
  simp only [Json.field?, List.find?_cons, decide_true, Option.map_some, String.reduceEq,
    decide_false]
  unfold normalizeControls
  simp only [positive_stable _ concurrency, positive_stable _ spawned, positive_stable _ lease,
    positive_stable _ budget, positive_stable _ headroom]

theorem normalizePool_stable (source : Json) (kind : SupervisionExecutionPoolKind) :
    normalizePool toLowerCase (normalizePool toLowerCase source kind).toJson kind =
      normalizePool toLowerCase source kind := by
  generalize isPool : normalizePool toLowerCase source kind = pool
  have readable : ∀ member ∈ pool.configs,
      poolEligibleConfig toLowerCase kind member.toJson = some member := by
    intro member listed
    rw [← isPool, normalizePool_configs] at listed
    exact merged_readable listed
  have distinct : (pool.configs.map SupervisionExecutionConfig.capabilityId).Nodup := by
    rw [← isPool, normalizePool_configs]
    exact capabilities_nodup _
  have listed : listedConfigs pool.toJson =
      pool.configs.map SupervisionExecutionConfig.toJson := rfl
  have configs : (normalizePool toLowerCase pool.toJson kind).configs = pool.configs := by
    rw [normalizePool_configs, listed, poolEligibleConfigs_eq, List.filterMap_map]
    have same : pool.configs.filterMap (poolEligibleConfig toLowerCase kind ∘
        SupervisionExecutionConfig.toJson) = pool.configs.filterMap some :=
      List.filterMap_congr readable
    rw [same, List.filterMap_some, merged_distinct distinct]
  have controls : (normalizePool toLowerCase pool.toJson kind).controls = pool.controls := by
    have written : (pool.toJson.field? "controls").getD .null = pool.controls.toJson := rfl
    rw [normalizePool, written, ← isPool, normalizePool]
    exact normalizeControls_stable _ kind
  cases result : normalizePool toLowerCase pool.toJson kind with
  | mk members limits =>
    rw [result] at configs controls
    cases pool
    simp_all

/-! ## The roles of a pool -/

/-- One entry for each capability, with a role exactly if that is the one its entries name. -/
structure RolesOfEntries (entries members : List SupervisionExecutionConfig) : Prop where
  single : (members.map SupervisionExecutionConfig.capabilityId).Nodup
  capabilities : ∀ capabilityId, (∃ member ∈ members, member.capabilityId = capabilityId) ↔
    ∃ entry ∈ entries, entry.capabilityId = capabilityId
  role : ∀ member ∈ members, ∀ role, role ≠ .both → (member.effectiveRole = role ↔
    role ∈ namedRoles member.capabilityId entries ∧
      ∀ named ∈ namedRoles member.capabilityId entries, named = role)

/-- A pool is what its entries say, in whatever order they come, and stays what it is. -/
structure PoolLaw (toLowerCase : String → String) (kind : SupervisionExecutionPoolKind)
    (source : Json) : Prop where
  roles : RolesOfEntries (poolEligibleConfigs toLowerCase kind (listedConfigs source))
    (normalizePool toLowerCase source kind).configs
  anyOrder : ∀ other, (listedConfigs other).Perm (listedConfigs source) → ∀ member,
    member ∈ (normalizePool toLowerCase other kind).configs ↔
      member ∈ (normalizePool toLowerCase source kind).configs
  stable : normalizePool toLowerCase (normalizePool toLowerCase source kind).toJson kind =
    normalizePool toLowerCase source kind

/-- The entries of a capability name one runtime, and their roles agree or are just two. -/
structure Unambiguous (entries : List SupervisionExecutionConfig) : Prop where
  runtime : ∀ left ∈ entries, ∀ right ∈ entries, left.capabilityId = right.capabilityId →
    left.withoutRole = right.withoutRole
  roles : ∀ capabilityId, RolesSettle (namedRoles capabilityId entries)

private theorem perm_namedRoles {items others : List SupervisionExecutionConfig}
    (perm : items.Perm others) (capabilityId : String) :
    (namedRoles capabilityId items).Perm (namedRoles capabilityId others) :=
  (perm.filter _).filterMap _

private theorem RolesSettle.perm {named others : List SupervisionExecutionPoolRole}
    (settle : RolesSettle named) (perm : named.Perm others) : RolesSettle others := by
  rcases settle with agree | two
  · left
    intro left isLeft right isRight
    exact agree left (perm.mem_iff.mpr isLeft) right (perm.mem_iff.mpr isRight)
  · right
    rw [← perm.length_eq, two]

private theorem Unambiguous.perm {items others : List SupervisionExecutionConfig}
    (unambiguous : Unambiguous items) (perm : items.Perm others) : Unambiguous others := by
  constructor
  · intro left isLeft right isRight
    exact unambiguous.runtime left (perm.mem_iff.mpr isLeft) right (perm.mem_iff.mpr isRight)
  · intro capabilityId
    exact (unambiguous.roles capabilityId).perm (perm_namedRoles perm capabilityId)

private theorem plain_namedRoles {items : List SupervisionExecutionConfig}
    (plain : ∀ item ∈ items, item.role ≠ some .both) (capabilityId : String) :
    .both ∉ namedRoles capabilityId items := by
  intro isBoth
  obtain ⟨item, listed, -, named⟩ := mem_namedRoles.mp isBoth
  exact plain item listed named

private theorem effectiveRole_eq_iff {config : SupervisionExecutionConfig}
    {role : SupervisionExecutionPoolRole} (notBoth : role ≠ .both) :
    config.effectiveRole = role ↔ config.role = some role := by
  unfold SupervisionExecutionConfig.effectiveRole
  cases config.role with
  | none => simp [Ne.symm notBoth]
  | some held => simp

private theorem Unambiguous.rolesOfEntries {items : List SupervisionExecutionConfig}
    (plain : ∀ item ∈ items, item.role ≠ some .both) (unambiguous : Unambiguous items) :
    RolesOfEntries items (merged items) := by
  constructor
  · exact capabilities_nodup items
  · intro capabilityId
    constructor
    · rintro ⟨member, listed, rfl⟩
      obtain ⟨-, item, isItem, same, -⟩ := merged_spec plain listed
      exact ⟨item, isItem, same⟩
    · rintro ⟨item, isItem, rfl⟩
      exact exists_merged isItem
  · intro member listed role notBoth
    rw [effectiveRole_eq_iff notBoth, (merged_spec plain listed).1]
    exact heldRole_eq_some_iff (plain_namedRoles plain _) (unambiguous.roles _)

private theorem Unambiguous.mem_merged_of_perm {items others : List SupervisionExecutionConfig}
    (plain : ∀ item ∈ items, item.role ≠ some .both) (unambiguous : Unambiguous items)
    (perm : items.Perm others) {member : SupervisionExecutionConfig}
    (listed : member ∈ merged items) : member ∈ merged others := by
  have otherPlain : ∀ item ∈ others, item.role ≠ some .both :=
    fun item isOther => plain item (perm.mem_iff.mpr isOther)
  obtain ⟨isRole, item, isItem, same, runtime⟩ := merged_spec plain listed
  obtain ⟨other, otherListed, sameCapability⟩ := exists_merged (perm.mem_iff.mp isItem)
  obtain ⟨otherRole, entry, isEntry, entrySame, otherRuntime⟩ := merged_spec otherPlain otherListed
  have otherId : other.capabilityId = member.capabilityId := sameCapability.trans same
  have sameRuntime : member.withoutRole = other.withoutRole := by
    rw [runtime, otherRuntime]
    apply unambiguous.runtime item isItem entry (perm.mem_iff.mpr isEntry)
    rw [same, entrySame, otherId]
  have sameRole : member.role = other.role := by
    rw [isRole, otherRole, otherId]
    have perms := perm_namedRoles perm member.capabilityId
    have settle := unambiguous.roles member.capabilityId
    ext role
    rw [heldRole_eq_some_iff (plain_namedRoles plain _) settle,
      heldRole_eq_some_iff (plain_namedRoles otherPlain _) (settle.perm perms)]
    simp only [perms.mem_iff]
  rw [eq_of_withoutRole sameRuntime sameRole]
  exact otherListed

private theorem perm_eligible {kind : SupervisionExecutionPoolKind} {entries others : List Json}
    (perm : entries.Perm others) :
    (poolEligibleConfigs toLowerCase kind entries).Perm
      (poolEligibleConfigs toLowerCase kind others) := by
  rw [poolEligibleConfigs_eq, poolEligibleConfigs_eq]
  exact perm.filterMap _

private theorem Unambiguous.poolLaw {kind : SupervisionExecutionPoolKind} {source : Json}
    (unambiguous : Unambiguous (poolEligibleConfigs toLowerCase kind (listedConfigs source))) :
    PoolLaw toLowerCase kind source := by
  constructor
  · exact unambiguous.rolesOfEntries plain_of_eligible
  · intro other perm member
    have perms := @perm_eligible toLowerCase kind _ _ perm
    constructor
    · intro listed
      exact (unambiguous.perm perms.symm).mem_merged_of_perm plain_of_eligible perms listed
    · intro listed
      exact unambiguous.mem_merged_of_perm plain_of_eligible perms.symm listed
  · exact normalizePool_stable source kind

private def pool (entries : List Json) : Json := .obj [("configs", .arr entries)]

private theorem listedConfigs_pool (entries : List Json) :
    listedConfigs (pool entries) = entries := rfl

private theorem merged_of_last (earlier : List SupervisionExecutionConfig)
    (last : SupervisionExecutionConfig) :
    ∃ member ∈ merged (earlier ++ [last]), member.capabilityId = last.capabilityId ∧
      member.withoutRole = last.withoutRole := by
  obtain ⟨member, listed, same⟩ := exists_merged
    (show last ∈ earlier ++ [last] from List.mem_append_right _ List.mem_cons_self)
  refine ⟨member, listed, same, ?_⟩
  obtain ⟨first, rest, own, isMerged⟩ := mem_merged.mp listed
  rw [same, List.filter_append, List.filter_cons_of_pos (by simp), List.filter_nil] at own
  rw [isMerged]
  rcases List.eq_nil_or_concat rest with rfl | ⟨before, final, rfl⟩
  · obtain ⟨-, isLast⟩ := List.append_inj' (own.trans (List.nil_append _).symm) rfl
    cases isLast
    rfl
  · rw [List.concat_eq_append, ← List.cons_append] at own
    obtain ⟨-, isLast⟩ := List.append_inj' own rfl
    cases isLast
    rw [List.concat_eq_append, withoutRole_merged]

private theorem PoolLaw.runtime_kept {kind : SupervisionExecutionPoolKind} {source : Json}
    (law : PoolLaw toLowerCase kind source) {item : SupervisionExecutionConfig}
    (listed : item ∈ poolEligibleConfigs toLowerCase kind (listedConfigs source)) :
    ∃ member ∈ (normalizePool toLowerCase source kind).configs,
      member.capabilityId = item.capabilityId ∧ member.withoutRole = item.withoutRole := by
  rw [poolEligibleConfigs_eq, List.mem_filterMap] at listed
  obtain ⟨entry, isEntry, eligible⟩ := listed
  have perm : ((listedConfigs source).erase entry ++ [entry]).Perm (listedConfigs source) :=
    (List.perm_append_singleton _ _).trans (List.perm_cons_erase isEntry).symm
  have lastCome : poolEligibleConfigs toLowerCase kind
      (listedConfigs (pool ((listedConfigs source).erase entry ++ [entry]))) =
        ((listedConfigs source).erase entry).filterMap (poolEligibleConfig toLowerCase kind) ++
          [item] := by
    rw [listedConfigs_pool, poolEligibleConfigs_eq, List.filterMap_append,
      List.filterMap_cons_some eligible, List.filterMap_nil]
  obtain ⟨member, isMember, same, runtime⟩ := merged_of_last
    (((listedConfigs source).erase entry).filterMap (poolEligibleConfig toLowerCase kind)) item
  rw [← lastCome, ← normalizePool_configs] at isMember
  exact ⟨member, (law.anyOrder (pool _) perm member).mp isMember, same, runtime⟩

private theorem eq_of_capability {members : List SupervisionExecutionConfig}
    (single : (members.map SupervisionExecutionConfig.capabilityId).Nodup)
    {left right : SupervisionExecutionConfig} (isLeft : left ∈ members) (isRight : right ∈ members)
    (same : left.capabilityId = right.capabilityId) : left = right :=
  List.inj_on_of_nodup_map single isLeft isRight same

/-- The entries of a capability that name a role, in the list they come from. -/
private def roleOfEntry (toLowerCase : String → String) (kind : SupervisionExecutionPoolKind)
    (capabilityId : String) (entry : Json) : Option SupervisionExecutionPoolRole :=
  (poolEligibleConfig toLowerCase kind entry).bind fun item =>
    if item.capabilityId = capabilityId then item.role else none

private theorem namedRoles_eligible (kind : SupervisionExecutionPoolKind) (capabilityId : String)
    (entries : List Json) :
    namedRoles capabilityId (poolEligibleConfigs toLowerCase kind entries) =
      entries.filterMap (roleOfEntry toLowerCase kind capabilityId) := by
  rw [poolEligibleConfigs_eq]
  induction entries with
  | nil => rfl
  | cons entry rest ih =>
    unfold namedRoles at ih ⊢
    cases eligible : poolEligibleConfig toLowerCase kind entry with
    | none =>
      rw [List.filterMap_cons_none eligible, ih,
        List.filterMap_cons_none (by simp [roleOfEntry, eligible])]
    | some item =>
      rw [List.filterMap_cons_some eligible]
      by_cases same : item.capabilityId = capabilityId
      · rw [List.filter_cons_of_pos (by simpa using same)]
        cases named : item.role with
        | none =>
          rw [List.filterMap_cons_none named, ih,
            List.filterMap_cons_none (by simp [roleOfEntry, eligible, same, named])]
        | some role =>
          have read : roleOfEntry toLowerCase kind capabilityId entry = some role := by
            simp [roleOfEntry, eligible, same, named]
          rw [List.filterMap_cons_some named, ih, List.filterMap_cons_some read]
      · rw [List.filter_cons_of_neg (by simpa using same), ih,
          List.filterMap_cons_none (by simp [roleOfEntry, eligible, same])]

private theorem count_named {named : List SupervisionExecutionPoolRole} (plain : .both ∉ named) :
    named.count .executor + named.count .auditor = named.length := by
  induction named with
  | nil => rfl
  | cons first rest ih =>
    have later := ih fun member => plain (List.mem_cons_of_mem _ member)
    cases first with
    | executor =>
      rw [List.count_cons_self, List.count_cons_of_ne (by decide), List.length_cons]
      omega
    | auditor =>
      rw [List.count_cons_of_ne (by decide), List.count_cons_self, List.length_cons]
      omega
    | both => exact absurd List.mem_cons_self plain

private theorem twice_of_not_settle {named : List SupervisionExecutionPoolRole}
    (plain : .both ∉ named) (unsettled : ¬ RolesSettle named) :
    ∃ role other : SupervisionExecutionPoolRole, role ≠ .both ∧ other ≠ .both ∧ other ≠ role ∧
      2 ≤ named.count role ∧ other ∈ named := by
  unfold RolesSettle at unsettled
  push Not at unsettled
  obtain ⟨⟨left, isLeft, right, isRight, differ⟩, notTwo⟩ := unsettled
  have counts := count_named plain
  have both : .executor ∈ named ∧ .auditor ∈ named := by
    cases left <;> cases right <;>
      first
      | exact absurd rfl differ
      | exact absurd isLeft plain
      | exact absurd isRight plain
      | exact ⟨isLeft, isRight⟩
      | exact ⟨isRight, isLeft⟩
  have executors := List.count_pos_iff.mpr both.1
  have auditors := List.count_pos_iff.mpr both.2
  by_cases more : 2 ≤ named.count .executor
  · exact ⟨.executor, .auditor, by decide, by decide, by decide, more, both.2⟩
  · exact ⟨.auditor, .executor, by decide, by decide, by decide, by omega, both.1⟩

private theorem PoolLaw.rolesSettle {kind : SupervisionExecutionPoolKind} {source : Json}
    (law : PoolLaw toLowerCase kind source) (capabilityId : String) :
    RolesSettle (namedRoles capabilityId
      (poolEligibleConfigs toLowerCase kind (listedConfigs source))) := by
  by_contra unsettled
  have plain := plain_namedRoles
    (@plain_of_eligible toLowerCase kind (listedConfigs source)) capabilityId
  obtain ⟨role, other, notBoth, otherNotBoth, differ, twice, comes⟩ :=
    twice_of_not_settle plain unsettled
  let names : Json → Bool := fun entry =>
    roleOfEntry toLowerCase kind capabilityId entry = some other
  let ordered : List Json :=
    (listedConfigs source).filter names ++ (listedConfigs source).filter fun entry => !names entry
  have perm : ordered.Perm (listedConfigs source) := List.filter_append_perm names _
  have perms : (namedRoles capabilityId
      (poolEligibleConfigs toLowerCase kind ordered)).Perm (namedRoles capabilityId
        (poolEligibleConfigs toLowerCase kind (listedConfigs source))) :=
    perm_namedRoles (perm_eligible perm) capabilityId
  have split := @namedRoles_eligible toLowerCase kind capabilityId ordered
  rw [List.filterMap_append] at split
  -- The entries that name the other role come first, and the rest of those that name one after.
  generalize isFirst : ((listedConfigs source).filter names).filterMap
    (roleOfEntry toLowerCase kind capabilityId) = first at split
  generalize isSecond : ((listedConfigs source).filter fun entry => !names entry).filterMap
    (roleOfEntry toLowerCase kind capabilityId) = second at split
  have firstOther : ∀ named ∈ first, named = other := by
    intro named member
    rw [← isFirst, List.mem_filterMap] at member
    obtain ⟨entry, isEntry, isNamed⟩ := member
    have isOther : roleOfEntry toLowerCase kind capabilityId entry = some other := by
      simpa [names] using (List.mem_filter.mp isEntry).2
    exact Option.some.inj (isNamed.symm.trans isOther)
  have secondNotOther : ∀ named ∈ second, named ≠ other := by
    intro named member isOther
    rw [← isSecond, List.mem_filterMap] at member
    obtain ⟨entry, isEntry, isNamed⟩ := member
    have notNamed : roleOfEntry toLowerCase kind capabilityId entry ≠ some other := by
      simpa [names] using (List.mem_filter.mp isEntry).2
    exact notNamed (isNamed.trans (congrArg some isOther))
  rw [split] at perms
  have secondRole : ∀ named ∈ second, named = role := by
    intro named member
    have notNamed := secondNotOther named member
    have notBothNamed : named ≠ .both := fun isBoth =>
      plain (perms.mem_iff.mp (List.mem_append_right _ (isBoth ▸ member)))
    cases named <;> cases role <;> cases other <;> simp_all
  have some_ : first ≠ [] := by
    have member := perms.mem_iff.mpr comes
    rcases List.mem_append.mp member with isMember | later
    · exact List.ne_nil_of_mem isMember
    · exact absurd rfl (secondNotOther other later)
  have secondTwice : 2 ≤ second.length := by
    have counted := perms.count_eq role
    have noneFirst : first.count role = 0 :=
      List.count_eq_zero.mpr fun member => differ (firstOther role member).symm
    rw [List.count_append, noneFirst, Nat.zero_add] at counted
    rw [← counted] at twice
    exact twice.trans List.count_le_length
  have held := heldRole_narrowed differ notBoth otherNotBoth some_ firstOther secondRole secondTwice
  obtain ⟨item, isItem, itemId, -⟩ := mem_namedRoles.mp comes
  obtain ⟨member, isMember, memberId⟩ := exists_merged
    ((@perm_eligible toLowerCase kind _ _ perm).mem_iff.mpr isItem)
  have memberRole := (merged_spec plain_of_eligible isMember).1
  rw [memberId, itemId, split, held] at memberRole
  have inPool := (law.anyOrder (pool ordered) perm member).mp isMember
  have effective := (effectiveRole_eq_iff notBoth).mpr memberRole
  have agree := ((law.roles.role member inPool role notBoth).mp effective).2
  rw [memberId, itemId] at agree
  exact differ (agree other comes)

/-- Normalizing a pool is order independent and idempotent, with the roles that the entries name,
exactly if no capability is named by entries that are ambiguous. -/
theorem poolLaw_iff (toLowerCase : String → String) (kind : SupervisionExecutionPoolKind)
    (source : Json) :
    PoolLaw toLowerCase kind source ↔
      Unambiguous (poolEligibleConfigs toLowerCase kind (listedConfigs source)) := by
  constructor
  · intro law
    constructor
    · intro left isLeft right isRight same
      obtain ⟨member, isMember, memberId, runtime⟩ := law.runtime_kept isLeft
      obtain ⟨other, isOther, otherId, otherRuntime⟩ := law.runtime_kept isRight
      have isSame : member = other := eq_of_capability law.roles.single isMember isOther
        (memberId.trans (same.trans otherId.symm))
      rw [← runtime, ← otherRuntime, isSame]
    · exact law.rolesSettle
  · exact Unambiguous.poolLaw

section FixedRuns

private def asciiLowerCase (value : String) : String :=
  String.ofList (value.toList.map Char.toLower)

private def codexEntry (role : String) : Json :=
  .obj [("capabilityId", .str "supervision-exec-v1:transport:codex-sdk:openai:gpt-6-sol"),
    ("agentType", .str "codex-sdk"), ("providerFamily", .str "openai"),
    ("runtimeType", .str "transport"), ("model", .str "gpt-6-sol"), ("role", .str role)]

private def thriceListed : Json :=
  pool [codexEntry "executor", codexEntry "auditor", codexEntry "executor"]

private def codexConfig (role : SupervisionExecutionPoolRole) : SupervisionExecutionConfig :=
  ⟨"supervision-exec-v1:transport:codex-sdk:openai:gpt-6-sol", "codex-sdk", "openai", .transport,
    "gpt-6-sol", none, some role⟩

/-- An executor, an auditor and an executor of one capability become an executor. -/
theorem conflict_narrowed :
    (normalizePool asciiLowerCase thriceListed .primary).configs = [codexConfig .executor] ∧
      ¬ PoolLaw asciiLowerCase .primary thriceListed := by
  have configs : (normalizePool asciiLowerCase thriceListed .primary).configs =
      [codexConfig .executor] := by decide +kernel
  have named : SupervisionExecutionPoolRole.auditor ∈
      namedRoles (codexConfig .executor).capabilityId
        (poolEligibleConfigs asciiLowerCase .primary (listedConfigs thriceListed)) := by
    decide +kernel
  constructor
  · exact configs
  · intro law
    have member : codexConfig .executor ∈
        (normalizePool asciiLowerCase thriceListed .primary).configs := by
      rw [configs]
      exact List.mem_cons_self
    have agree := ((law.roles.role _ member .executor (by decide)).mp rfl).2
    exact absurd (agree .auditor named) (by decide)

end FixedRuns

end ImCodes.Supervision
