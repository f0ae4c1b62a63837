import ImCodes.Library.JsonSyntax
import ImCodes.Library.Text
import Mathlib.Algebra.GroupWithZero.Nat

/-!
# Memory namespaces

A memory handle is registered under a namespace: a scope and the identities it needs. The
module has the scope policies, the two keys a namespace is compared and stored under, and
its text in a column.
-/

set_option autoImplicit false

namespace ImCodes.Memory

open ImCodes.Library

inductive MemoryScope where
  | userPrivate
  | personal
  | projectShared
  | workspaceShared
  | orgShared
deriving Repr, DecidableEq

namespace MemoryScope

def text : MemoryScope → String
  | userPrivate => "user_private"
  | personal => "personal"
  | projectShared => "project_shared"
  | workspaceShared => "workspace_shared"
  | orgShared => "org_shared"

/-- `isMemoryScope`, with the scope it finds. -/
def ofText? (value : String) : Option MemoryScope :=
  [userPrivate, personal, projectShared, workspaceShared, orgShared].find? fun scope =>
    scope.text = value

@[simp] theorem ofText?_text (scope : MemoryScope) : ofText? scope.text = some scope := by
  cases scope <;> decide

theorem text_injective {left right : MemoryScope} (same : left.text = right.text) :
    left = right := by
  have found := congrArg ofText? same
  simpa using found

end MemoryScope

/-- The identity fields that a scope requires or forbids. -/
inductive MemoryScopeIdentityField where
  | userId
  | projectId
  | workspaceId
  | orgId
deriving Repr, DecidableEq

def MemoryScopeIdentityField.text : MemoryScopeIdentityField → String
  | userId => "user_id"
  | projectId => "project_id"
  | workspaceId => "workspace_id"
  | orgId => "org_id"

structure MemoryScopePolicy where
  requiredIdentityFields : List MemoryScopeIdentityField
  forbiddenIdentityFields : List MemoryScopeIdentityField

open MemoryScopeIdentityField in
def memoryScopePolicies : MemoryScope → MemoryScopePolicy
  | .userPrivate => ⟨[userId], [workspaceId, orgId]⟩
  | .personal => ⟨[userId, projectId], [workspaceId, orgId]⟩
  | .projectShared => ⟨[projectId], []⟩
  | .workspaceShared => ⟨[workspaceId], []⟩
  | .orgShared => ⟨[orgId], []⟩

structure ContextNamespace where
  scope : MemoryScope
  projectId : Option String := none
  userId : Option String := none
  workspaceId : Option String := none
  enterpriseId : Option String := none
  localTenant : Option String := none
  canonicalRepoId : Option String := none
deriving Repr, DecidableEq

def legacyDaemonLocalUserId : String := "daemon-local"

namespace ContextNamespace

def identityField (namespace_ : ContextNamespace) : MemoryScopeIdentityField → Option String
  | .userId => namespace_.userId
  | .projectId => namespace_.projectId
  | .workspaceId => namespace_.workspaceId
  | .orgId => namespace_.enterpriseId

def hasIdentityField (namespace_ : ContextNamespace) (field : MemoryScopeIdentityField) : Bool :=
  (trimmed (namespace_.identityField field)).isSome

/-- `validateMemoryScopeIdentity`: why the identities do not fit the scope, if they do not. -/
def validateMemoryScopeIdentity (namespace_ : ContextNamespace) : Except String Unit :=
  let policy := memoryScopePolicies namespace_.scope
  let missing := policy.requiredIdentityFields.filter fun field => !namespace_.hasIdentityField field
  let forbidden := policy.forbiddenIdentityFields.filter namespace_.hasIdentityField
  if missing ≠ [] then
    .error ("Missing required identity field(s) for " ++ namespace_.scope.text ++ ": " ++
      ", ".intercalate (missing.map (·.text)))
  else if forbidden ≠ [] then
    .error ("Forbidden identity field(s) for " ++ namespace_.scope.text ++ ": " ++
      ", ".intercalate (forbidden.map (·.text)))
  else .ok ()

/-- Fill in the implicit owner of owner-private memory. -/
def normalizeDaemonLocalMemoryNamespace (namespace_ : ContextNamespace) : ContextNamespace :=
  if (trimmed namespace_.userId).isSome then namespace_
  else if namespace_.scope = .personal ∨ namespace_.scope = .userPrivate then
    { namespace_ with userId := some legacyDaemonLocalUserId }
  else namespace_

def keyFields (namespace_ : ContextNamespace) : List String :=
  [namespace_.scope.text, namespace_.userId.getD "", namespace_.projectId.getD "",
    namespace_.workspaceId.getD "", namespace_.enterpriseId.getD ""]

end ContextNamespace

def nul : Char := Char.ofNat 0

/-- `namespaceKey`: what namespaces are compared by in memory. -/
def namespaceKey : Option ContextNamespace → String
  | none => ""
  | some namespace_ => String.ofList ([nul].intercalate (namespace_.keyFields.map String.toList))

/-- `namespaceStorageKey`: the key of a stored row. -/
def namespaceStorageKey : Option ContextNamespace → String
  | none => ""
  | some namespace_ =>
    Json.stringify Json.integerText (.arr (namespace_.keyFields.map Json.str))

namespace ContextNamespace

/-! ## The namespace as a value -/

def optionalMember (name : String) (value : Option String) : List (String × Json) :=
  value.toList.map fun text => (name, .str text)

/-- The members `JSON.stringify` writes: those that are not undefined. -/
def toJson (namespace_ : ContextNamespace) : Json :=
  .obj (("scope", .str namespace_.scope.text) ::
    (optionalMember "projectId" namespace_.projectId ++
      optionalMember "userId" namespace_.userId ++
      optionalMember "workspaceId" namespace_.workspaceId ++
      optionalMember "enterpriseId" namespace_.enterpriseId ++
      optionalMember "localTenant" namespace_.localTenant ++
      optionalMember "canonicalRepoId" namespace_.canonicalRepoId))

/-- An identity field of a record: a string, or not there at all. -/
def identityText? (name : String) (record : Json) : Option (Option String) :=
  match record.field? name with
  | none => some none
  | some (.str text) => some (some text)
  | some _ => none

/-- The record as a namespace, where its scope is known and its fields are strings. -/
def ofJson? (record : Json) : Option ContextNamespace := do
  let scope ← ((record.field? "scope").bind Json.asString?).bind MemoryScope.ofText?
  let projectId ← identityText? "projectId" record
  let userId ← identityText? "userId" record
  let workspaceId ← identityText? "workspaceId" record
  let enterpriseId ← identityText? "enterpriseId" record
  let localTenant ← identityText? "localTenant" record
  let canonicalRepoId ← identityText? "canonicalRepoId" record
  some { scope, projectId, userId, workspaceId, enterpriseId, localTenant, canonicalRepoId }

end ContextNamespace

structure DecodedNamespace where
  namespace_ : Option ContextNamespace
  /-- The namespace as the record had it, where its owner was filled in. -/
  preBackfillNamespace : Option ContextNamespace := none
deriving Repr, DecidableEq

/-- `decodeNamespace`: nothing where the value cannot be fully validated. -/
def decodeNamespace : Option Json → Option DecodedNamespace
  | none => some { namespace_ := none }
  | some raw => do
    let rawNamespace ← ContextNamespace.ofJson? raw
    let namespace_ := rawNamespace.normalizeDaemonLocalMemoryNamespace
    match namespace_.validateMemoryScopeIdentity with
    | .error _ => none
    | .ok _ =>
      some {
        namespace_ := some namespace_
        preBackfillNamespace := if namespace_ ≠ rawNamespace then some rawNamespace else none }

namespace ContextNamespace

/-- The namespace a loader files a row of this namespace under, if it takes the row. -/
def loaded? (namespace_ : ContextNamespace) : Option ContextNamespace :=
  match namespace_.normalizeDaemonLocalMemoryNamespace.validateMemoryScopeIdentity with
  | .error _ => none
  | .ok _ => some namespace_.normalizeDaemonLocalMemoryNamespace

theorem ofJson?_toJson (namespace_ : ContextNamespace) :
    ofJson? namespace_.toJson = some namespace_ := by
  obtain ⟨scope, projectId, userId, workspaceId, enterpriseId, localTenant, canonicalRepoId⟩ :=
    namespace_
  cases projectId <;> cases userId <;> cases workspaceId <;> cases enterpriseId <;>
    cases localTenant <;> cases canonicalRepoId <;>
    simp [ofJson?, toJson, identityText?, optionalMember, Json.field?, Json.asString?]

theorem printable_toJson (namespace_ : ContextNamespace) :
    Json.Printable Json.integerText namespace_.toJson := by
  obtain ⟨scope, projectId, userId, workspaceId, enterpriseId, localTenant, canonicalRepoId⟩ :=
    namespace_
  cases projectId <;> cases userId <;> cases workspaceId <;> cases enterpriseId <;>
    cases localTenant <;> cases canonicalRepoId <;>
    simp [toJson, optionalMember, Json.Printable, Json.PrintableMembers]

theorem validate_congr {left right : ContextNamespace} (scope : left.scope = right.scope)
    (fields : ∀ field, left.hasIdentityField field = right.hasIdentityField field) :
    left.validateMemoryScopeIdentity = right.validateMemoryScopeIdentity := by
  have same : left.hasIdentityField = right.hasIdentityField := funext fields
  simp only [validateMemoryScopeIdentity, scope, same]

theorem trimmed_getD (value : Option String) : trimmed (some (value.getD "")) = trimmed value := by
  cases value with
  | none => decide
  | some text => rfl

theorem scope_eq_of_keyFields {left right : ContextNamespace}
    (same : left.keyFields = right.keyFields) : left.scope = right.scope := by
  simp only [keyFields, List.cons.injEq] at same
  exact MemoryScope.text_injective same.1

theorem hasIdentityField_of_keyFields {left right : ContextNamespace}
    (same : left.keyFields = right.keyFields) (field : MemoryScopeIdentityField) :
    left.hasIdentityField field = right.hasIdentityField field := by
  simp only [keyFields, List.cons.injEq, and_true] at same
  obtain ⟨_, user, project, workspace, enterprise⟩ := same
  unfold hasIdentityField
  cases field with
  | userId =>
    simp only [identityField]
    rw [← trimmed_getD left.userId, user, trimmed_getD]
  | projectId =>
    simp only [identityField]
    rw [← trimmed_getD left.projectId, project, trimmed_getD]
  | workspaceId =>
    simp only [identityField]
    rw [← trimmed_getD left.workspaceId, workspace, trimmed_getD]
  | orgId =>
    simp only [identityField]
    rw [← trimmed_getD left.enterpriseId, enterprise, trimmed_getD]

theorem normalize_keyFields {left right : ContextNamespace}
    (same : left.keyFields = right.keyFields) :
    left.normalizeDaemonLocalMemoryNamespace.keyFields =
      right.normalizeDaemonLocalMemoryNamespace.keyFields := by
  have scope := scope_eq_of_keyFields same
  have owner := hasIdentityField_of_keyFields same .userId
  simp only [hasIdentityField, identityField] at owner
  simp only [normalizeDaemonLocalMemoryNamespace, owner, scope]
  split
  · exact same
  · split
    · simp only [keyFields, List.cons.injEq, and_true] at same
      simp [keyFields, same]
    · exact same

theorem normalize_idem (namespace_ : ContextNamespace) :
    namespace_.normalizeDaemonLocalMemoryNamespace.normalizeDaemonLocalMemoryNamespace =
      namespace_.normalizeDaemonLocalMemoryNamespace := by
  by_cases owned : (trimmed namespace_.userId).isSome
  · simp [normalizeDaemonLocalMemoryNamespace, owned]
  · by_cases ownerPrivate : namespace_.scope = .personal ∨ namespace_.scope = .userPrivate
    · have filled : (trimmed (some legacyDaemonLocalUserId)).isSome = true := by decide
      simp [normalizeDaemonLocalMemoryNamespace, owned, ownerPrivate, filled]
    · simp [normalizeDaemonLocalMemoryNamespace, owned, ownerPrivate]

theorem loaded?_idem {namespace_ kept : ContextNamespace}
    (found : namespace_.loaded? = some kept) : kept.loaded? = some kept := by
  unfold loaded? at found
  split at found
  · cases found
  · next valid =>
      obtain rfl : namespace_.normalizeDaemonLocalMemoryNamespace = kept := Option.some.inj found
      simp only [loaded?, normalize_idem, valid]

theorem loaded?_keyFields {left right : ContextNamespace}
    (same : left.keyFields = right.keyFields) :
    left.loaded?.map keyFields = right.loaded?.map keyFields := by
  have filed := normalize_keyFields same
  have valid := validate_congr (scope_eq_of_keyFields filed) (hasIdentityField_of_keyFields filed)
  unfold loaded?
  rw [valid]
  split
  · rfl
  · simp only [Option.map_some, filed]

theorem decodeNamespace_toJson (namespace_ : ContextNamespace) :
    decodeNamespace (some namespace_.toJson) = namespace_.loaded?.map fun kept => {
      namespace_ := some kept
      preBackfillNamespace := if kept ≠ namespace_ then some namespace_ else none } := by
  simp only [decodeNamespace, ofJson?_toJson, Option.bind_eq_bind, Option.bind_some, loaded?]
  split
  · rfl
  · rfl

theorem parse_toJson (namespace_ : ContextNamespace) :
    Json.parse (Json.stringify Json.integerText namespace_.toJson) = some namespace_.toJson :=
  Json.parse_stringify (printable_toJson namespace_)

end ContextNamespace

/-! ## The two keys -/

theorem printableItems_texts (texts : List String) :
    Json.PrintableItems Json.integerText (texts.map Json.str) := by
  induction texts with
  | nil => trivial
  | cons text rest ih => exact ⟨trivial, ih⟩

theorem parse_storageKey (namespace_ : ContextNamespace) :
    Json.parse (namespaceStorageKey (some namespace_)) =
      some (.arr (namespace_.keyFields.map Json.str)) := by
  apply Json.parse_stringify
  exact printableItems_texts namespace_.keyFields

theorem keyFields_of_storageKey {left right : ContextNamespace}
    (same : namespaceStorageKey (some left) = namespaceStorageKey (some right)) :
    left.keyFields = right.keyFields := by
  have parsed := parse_storageKey left
  rw [same, parse_storageKey, Option.some.injEq, Json.arr.injEq] at parsed
  have injective : Function.Injective Json.str := fun _ _ equal => Json.str.inj equal
  exact (List.map_injective_iff.mpr injective parsed).symm

theorem storageKey_ne_empty (namespace_ : ContextNamespace) :
    namespaceStorageKey (some namespace_) ≠ "" := by
  intro empty
  have parsed := parse_storageKey namespace_
  rw [empty] at parsed
  have nothing : Json.parse "" = none := by decide
  rw [nothing] at parsed
  cases parsed

def ContextNamespace.NulFree (namespace_ : ContextNamespace) : Prop :=
  ∀ field ∈ namespace_.keyFields, nul ∉ field.toList

theorem count_intercalate (fields : List (List Char)) (nonempty : fields ≠ []) :
    ([nul].intercalate fields).count nul =
      (fields.map (List.count nul)).sum + (fields.length - 1) := by
  induction fields with
  | nil => exact absurd rfl nonempty
  | cons field rest ih =>
    cases rest with
    | nil => simp
    | cons next rest =>
      have inner := ih (List.cons_ne_nil _ _)
      rw [List.intercalate_cons_cons, List.count_append, List.count_append, inner]
      simp
      omega

theorem keyFields_of_namespaceKey {left right : ContextNamespace} (plain : left.NulFree)
    (same : namespaceKey (some left) = namespaceKey (some right)) :
    left.keyFields = right.keyFields := by
  have joined : [nul].intercalate (left.keyFields.map String.toList) =
      [nul].intercalate (right.keyFields.map String.toList) := String.ofList_injective same
  have plainLeft : ∀ chars ∈ left.keyFields.map String.toList, nul ∉ chars := by
    intro chars member
    obtain ⟨field, isField, rfl⟩ := List.mem_map.mp member
    exact plain field isField
  -- The separators are the only ones, so the other side has none inside a field either.
  have plainRight : ∀ chars ∈ right.keyFields.map String.toList, nul ∉ chars := by
    have counted := congrArg (List.count nul) joined
    rw [count_intercalate _ (by simp [ContextNamespace.keyFields]),
      count_intercalate _ (by simp [ContextNamespace.keyFields])] at counted
    have none_ : ((left.keyFields.map String.toList).map (List.count nul)).sum = 0 := by
      apply List.sum_eq_zero_iff_forall_eq_nat.mpr
      intro total member
      obtain ⟨chars, isField, rfl⟩ := List.mem_map.mp member
      exact List.count_eq_zero.mpr (plainLeft chars isField)
    have lengths : (left.keyFields.map String.toList).length =
        (right.keyFields.map String.toList).length := rfl
    rw [none_, lengths] at counted
    have noneRight : ((right.keyFields.map String.toList).map (List.count nul)).sum = 0 := by omega
    intro chars member
    exact List.count_eq_zero.mp
      (List.sum_eq_zero_iff_forall_eq_nat.mp noneRight _ (List.mem_map_of_mem member))
  have splitLeft := List.splitOn_intercalate nul plainLeft (by simp [ContextNamespace.keyFields])
  have splitRight := List.splitOn_intercalate nul plainRight (by simp [ContextNamespace.keyFields])
  rw [joined, splitRight] at splitLeft
  have injective : Function.Injective String.toList := fun _ _ equal => String.toList_injective equal
  exact List.map_injective_iff.mpr injective splitLeft.symm

theorem namespaceKey_ne_empty (namespace_ : ContextNamespace) :
    namespaceKey (some namespace_) ≠ "" := by
  intro empty
  have count := count_intercalate (namespace_.keyFields.map String.toList)
    (by simp [ContextNamespace.keyFields])
  have chars : [nul].intercalate (namespace_.keyFields.map String.toList) = [] :=
    String.ofList_injective empty
  rw [chars] at count
  simp [ContextNamespace.keyFields] at count

end ImCodes.Memory
