import ImCodes.Memory.ShortRefs

/-!
# Stored rows

A row of a handle is read back as the handle, under the namespace it was written for. Three
generations of keys are accepted beside one another. The keys of one namespace are never taken
for those of another.
-/

set_option autoImplicit false

namespace ImCodes.Memory

open ImCodes.Library

/-! ## The keys of a row -/

/-- The namespace that the columns of a row describe. -/
def rowNamespace? (row : Json) : Option DecodedNamespace :=
  (match visibleText (row.field? "namespaceJson") with
    | none => some none
    | some text => (Json.parse text).map some).bind decodeNamespace

def storedNamespaceKey (row : Json) : String :=
  ((row.field? "namespaceKey").bind Json.asString?).getD ""

def beforeNul (text : String) : String :=
  String.ofList (text.toList.takeWhile (· ≠ nul))

/-- The keys of earlier generations: separated by NUL, cut off at the first NUL, or without the
owner that was filled in later. -/
def IsLegacyKey (stored : String) (decoded : DecodedNamespace) : Prop :=
  stored = namespaceKey decoded.namespace_ ∨
    stored = beforeNul (namespaceKey decoded.namespace_) ∨
    ∃ raw, decoded.preBackfillNamespace = some raw ∧
      (stored = namespaceStorageKey (some raw) ∨ stored = namespaceKey (some raw))

def BelongsTo (stored : String) (namespace_ : Option ContextNamespace) : Prop :=
  stored = namespaceStorageKey namespace_ ∨ stored = namespaceKey namespace_ ∨
    stored = beforeNul (namespaceKey namespace_)

def spaceFields (namespace_ : Option ContextNamespace) : Option (List String) :=
  namespace_.map ContextNamespace.keyFields

/-! ## Telling the keys apart -/

theorem spaceFields_of_storageKey {left right : Option ContextNamespace}
    (same : namespaceStorageKey left = namespaceStorageKey right) :
    spaceFields left = spaceFields right := by
  cases left with
  | none =>
    cases right with
    | none => rfl
    | some right => exact absurd same.symm (storageKey_ne_empty right)
  | some left =>
    cases right with
    | none => exact absurd same (storageKey_ne_empty left)
    | some right => exact congrArg some (keyFields_of_storageKey same)

private theorem scopeText_head (scope : MemoryScope) :
    ∃ c rest, scope.text.toList = c :: rest ∧ c ≠ '[' ∧ nul ∉ scope.text.toList := by
  cases scope with
  | userPrivate => exact ⟨'u', _, rfl, by decide, by decide⟩
  | personal => exact ⟨'p', _, rfl, by decide, by decide⟩
  | projectShared => exact ⟨'p', _, rfl, by decide, by decide⟩
  | workspaceShared => exact ⟨'w', _, rfl, by decide, by decide⟩
  | orgShared => exact ⟨'o', _, rfl, by decide, by decide⟩

private theorem namespaceKey_chars (namespace_ : ContextNamespace) :
    ∃ rest, (namespaceKey (some namespace_)).toList =
      namespace_.scope.text.toList ++ nul :: rest := by
  refine ⟨[nul].intercalate ((namespace_.keyFields.map String.toList).tail), ?_⟩
  simp [namespaceKey, ContextNamespace.keyFields, List.intercalate_cons_cons]

theorem beforeNul_namespaceKey (namespace_ : ContextNamespace) :
    beforeNul (namespaceKey (some namespace_)) = namespace_.scope.text := by
  obtain ⟨rest, chars⟩ := namespaceKey_chars namespace_
  obtain ⟨_, _, _, _, plain⟩ := scopeText_head namespace_.scope
  have kept : ∀ c ∈ namespace_.scope.text.toList, decide (c ≠ nul) = true := by
    intro c member
    have other : c ≠ nul := fun isNul => plain (isNul ▸ member)
    simpa using other
  rw [beforeNul, chars, List.takeWhile_append_of_pos kept]
  simp

private theorem storageKey_head (namespace_ : ContextNamespace) :
    ∃ rest, (namespaceStorageKey (some namespace_)).toList = '[' :: rest := by
  simp [namespaceStorageKey, Json.stringify, Json.text]

theorem storageKey_ne_namespaceKey (left right : ContextNamespace) :
    namespaceStorageKey (some left) ≠ namespaceKey (some right) := by
  intro same
  obtain ⟨rest, storage⟩ := storageKey_head left
  obtain ⟨others, chars⟩ := namespaceKey_chars right
  obtain ⟨c, tail, head, other, -⟩ := scopeText_head right.scope
  rw [same, chars, head] at storage
  exact other (List.cons.inj storage).1

theorem storageKey_ne_scope (left : ContextNamespace) (scope : MemoryScope) :
    namespaceStorageKey (some left) ≠ scope.text := by
  intro same
  obtain ⟨rest, storage⟩ := storageKey_head left
  obtain ⟨c, tail, head, other, -⟩ := scopeText_head scope
  rw [same, head] at storage
  exact other (List.cons.inj storage).1

private theorem storageKey_eq_namespaceKey {left right : Option ContextNamespace}
    (same : namespaceStorageKey left = namespaceKey right) : left = none ∧ right = none := by
  cases left with
  | none =>
    cases right with
    | none => exact ⟨rfl, rfl⟩
    | some right => exact absurd same.symm (namespaceKey_ne_empty right)
  | some left =>
    cases right with
    | none => exact absurd same (storageKey_ne_empty left)
    | some right => exact absurd same (storageKey_ne_namespaceKey left right)

private theorem storageKey_eq_beforeNul {left right : Option ContextNamespace}
    (same : namespaceStorageKey left = beforeNul (namespaceKey right)) :
    left = none ∧ right = none := by
  cases right with
  | none =>
    cases left with
    | none => exact ⟨rfl, rfl⟩
    | some left => exact absurd same (storageKey_ne_empty left)
  | some right =>
    rw [beforeNul_namespaceKey] at same
    cases left with
    | none =>
      obtain ⟨c, rest, chars, -⟩ := scopeText_head right.scope
      rw [← same] at chars
      cases chars
    | some left => exact absurd same (storageKey_ne_scope left right.scope)

theorem spaceFields_of_belongs {stored : String} {namespace_ : ContextNamespace}
    {other : Option ContextNamespace} (current : stored = namespaceStorageKey (some namespace_))
    (belongs : BelongsTo stored other) : spaceFields other = spaceFields (some namespace_) := by
  rcases belongs with same | same | same
  · exact spaceFields_of_storageKey (same.symm.trans current)
  · obtain ⟨spaceless, -⟩ := storageKey_eq_namespaceKey (current.symm.trans same)
    cases spaceless
  · obtain ⟨spaceless, -⟩ := storageKey_eq_beforeNul (current.symm.trans same)
    cases spaceless

/-! ## Reading a row -/

theorem normalizePersisted_eq [LowerCasing] (row : Json) :
    normalizePersistedShortRefRow row = (rowNamespace? row).bind fun decoded =>
      if namespaceKeyAccepted (storedNamespaceKey row) decoded then
        normalizeFields (row.field? "ref") (row.field? "kind") (row.field? "id")
          (decoded.namespace_.map ContextNamespace.toJson) (row.field? "lastSeenAt")
      else none := by
  unfold normalizePersistedShortRefRow rowNamespace?
  cases visibleText (row.field? "namespaceJson") with
  | none => rfl
  | some text =>
    dsimp only
    generalize Json.parse text = parsed
    cases parsed with
    | none => rfl
    | some raw => rfl

theorem namespaceKeyAccepted_iff (stored : String) (decoded : DecodedNamespace) :
    namespaceKeyAccepted stored decoded = true ↔
      stored = namespaceStorageKey decoded.namespace_ ∨ IsLegacyKey stored decoded := by
  have cut : beforeNul (namespaceKey decoded.namespace_) =
      decoded.namespace_.elim "" fun kept => kept.scope.text := by
    cases decoded.namespace_ with
    | none => rfl
    | some kept => exact beforeNul_namespaceKey kept
  rw [IsLegacyKey, cut]
  cases backfilled : decoded.preBackfillNamespace with
  | none => simp [namespaceKeyAccepted, backfilled, or_assoc]
  | some raw => simp [namespaceKeyAccepted, backfilled, or_assoc]

theorem rowNamespace?_loaded {row : Json} {decoded : DecodedNamespace}
    (found : rowNamespace? row = some decoded) :
    loadedNamespace? decoded.namespace_ = some decoded.namespace_ ∧
      ∀ raw, decoded.preBackfillNamespace = some raw →
        loadedNamespace? (some raw) = some decoded.namespace_ := by
  obtain ⟨parsed, -, decodes⟩ := Option.bind_eq_some_iff.mp found
  cases parsed with
  | none =>
    cases decodes
    exact ⟨rfl, fun raw backfilled => by cases backfilled⟩
  | some json =>
    obtain ⟨record, -, checked⟩ := Option.bind_eq_some_iff.mp decodes
    cases valid : record.normalizeDaemonLocalMemoryNamespace.validateMemoryScopeIdentity with
    | error reason => simp [valid] at checked
    | ok accepted =>
      have loaded : loadedNamespace? (some record) =
          some (some record.normalizeDaemonLocalMemoryNamespace) := by
        simp [loadedNamespace?, ContextNamespace.loaded?, valid]
      simp only [valid, Option.some.injEq] at checked
      subst checked
      refine ⟨loadedNamespace?_idem loaded, fun raw backfilled => ?_⟩
      split at backfilled
      · cases backfilled
        exact loaded
      · cases backfilled

private theorem normalizeFields_namespace [LowerCasing] {ref kind id lastSeenAt : Option Json}
    {namespace_ : Option ContextNamespace} {found : String} {entry : MemoryShortRefEntry}
    (loads : loadedNamespace? namespace_ = some namespace_)
    (taken : normalizeFields ref kind id (namespace_.map ContextNamespace.toJson) lastSeenAt =
      some (found, entry)) : entry.namespace_ = namespace_ := by
  have decodes : (decodeNamespace (namespace_.map ContextNamespace.toJson)).map
      (·.namespace_) = some namespace_ := by
    cases namespace_ with
    | none => rfl
    | some kept =>
      simp only [Option.map_some, ContextNamespace.decodeNamespace_toJson, Option.map_map]
      exact loads
  unfold normalizeFields at taken
  obtain ⟨text, -, afterRef⟩ := Option.bind_eq_some_iff.mp taken
  obtain ⟨isKind, -, afterKind⟩ := Option.bind_eq_some_iff.mp afterRef
  obtain ⟨name, -, afterId⟩ := Option.bind_eq_some_iff.mp afterKind
  obtain ⟨decoded, isDecoded, written⟩ := Option.bind_eq_some_iff.mp afterId
  rw [isDecoded] at decodes
  cases written
  exact Option.some.inj decodes

theorem normalizePersisted_accepts [LowerCasing] {row : Json} {ref : String}
    {entry : MemoryShortRefEntry}
    (taken : normalizePersistedShortRefRow row = some (ref, entry)) :
    ∃ decoded, rowNamespace? row = some decoded ∧ entry.namespace_ = decoded.namespace_ ∧
      (storedNamespaceKey row = namespaceStorageKey decoded.namespace_ ∨
        IsLegacyKey (storedNamespaceKey row) decoded) := by
  rw [normalizePersisted_eq] at taken
  obtain ⟨decoded, isDecoded, checked⟩ := Option.bind_eq_some_iff.mp taken
  split at checked
  · rename_i accepted
    exact ⟨decoded, isDecoded,
      normalizeFields_namespace (rowNamespace?_loaded isDecoded).1 checked,
      (namespaceKeyAccepted_iff _ _).mp accepted⟩
  · cases checked

private theorem loaded_spaceFields {left right : Option ContextNamespace}
    (same : spaceFields left = spaceFields right) :
    (loadedNamespace? left).map spaceFields = (loadedNamespace? right).map spaceFields := by
  cases left with
  | none =>
    cases right with
    | none => rfl
    | some right => cases same
  | some left =>
    cases right with
    | none => cases same
    | some right =>
      have filed := ContextNamespace.loaded?_keyFields (Option.some.inj same)
      have lifted := congrArg (Option.map some) filed
      simp only [Option.map_map] at lifted
      simp only [loadedNamespace?, Option.map_map]
      exact lifted

/-! ## What a stored row keeps -/

/-- What holds of the rows of handles. -/
structure KeepsRows [LowerCasing] : Prop where
  /-- A row that was written is read back as the handle it was written for. -/
  roundTrip : ∀ (now : Nat) (ref : String) (entry : MemoryShortRefEntry), CleanRef ref →
    (decodeNamespace (entry.namespace_.map ContextNamespace.toJson)).isSome = true →
    normalizePersistedShortRefRow (toStoreRow now ref entry).toJson =
      (trimmed (some entry.id)).map fun id => (ref, {
        kind := entry.kind
        id
        namespace_ := entry.namespace_.map (·.normalizeDaemonLocalMemoryNamespace)
        lastSeenAt := some (entry.lastSeenAt.getD now) })
  /-- Namespaces that are told apart have keys that are told apart. -/
  injective : ∀ left right : Option ContextNamespace, spaceFields left ≠ spaceFields right →
    namespaceStorageKey left ≠ namespaceStorageKey right
  /-- A row under a key of another namespace is not taken, short of a legacy key of its own. -/
  isolated : ∀ (row : Json) (decoded : DecodedNamespace) (other : Option ContextNamespace),
    rowNamespace? row = some decoded → BelongsTo (storedNamespaceKey row) other →
    spaceFields other ≠ spaceFields decoded.namespace_ →
    ¬ IsLegacyKey (storedNamespaceKey row) decoded → normalizePersistedShortRefRow row = none
  /-- A row that is taken under a current key is filed where rows of that key are filed. -/
  filed : ∀ (row : Json) (ref : String) (entry : MemoryShortRefEntry)
    (other : Option ContextNamespace), normalizePersistedShortRefRow row = some (ref, entry) →
    storedNamespaceKey row = namespaceStorageKey other →
    (loadedNamespace? other).map spaceFields = some (spaceFields entry.namespace_)
  /-- The same holds of a key with separators, where these are in no identity. -/
  filedLegacy : ∀ (row : Json) (ref : String) (entry : MemoryShortRefEntry)
    (other : ContextNamespace), normalizePersistedShortRefRow row = some (ref, entry) →
    other.NulFree → storedNamespaceKey row = namespaceKey (some other) →
    (loadedNamespace? (some other)).map spaceFields = some (spaceFields entry.namespace_)

private theorem stored_roundTrip [LowerCasing] (now : Nat) (ref : String)
    (entry : MemoryShortRefEntry) (clean : CleanRef ref)
    (valid : (decodeNamespace (entry.namespace_.map ContextNamespace.toJson)).isSome = true) :
    normalizePersistedShortRefRow (toStoreRow now ref entry).toJson =
      (trimmed (some entry.id)).map fun id => (ref, {
        kind := entry.kind
        id
        namespace_ := entry.namespace_.map (·.normalizeDaemonLocalMemoryNamespace)
        lastSeenAt := some (entry.lastSeenAt.getD now) }) := by
  have loads : loadedNamespace? entry.namespace_ =
      some (entry.namespace_.map (·.normalizeDaemonLocalMemoryNamespace)) := by
    cases isNamespaced : entry.namespace_ with
    | none => rfl
    | some namespace_ =>
      rw [isNamespaced, Option.map_some, ContextNamespace.decodeNamespace_toJson,
        Option.isSome_map] at valid
      simp only [loadedNamespace?]
      unfold ContextNamespace.loaded? at valid ⊢
      split at valid
      · cases valid
      · rfl
  rw [normalizePersisted_toStoreRow clean.1 clean.2, MemoryShortRefEntry.reloaded?, loads]
  cases trimmed (some entry.id) with
  | none => rfl
  | some id => rfl

private theorem stored_isolated [LowerCasing] {row : Json} {decoded : DecodedNamespace}
    {other : Option ContextNamespace} (isDecoded : rowNamespace? row = some decoded)
    (belongs : BelongsTo (storedNamespaceKey row) other)
    (different : spaceFields other ≠ spaceFields decoded.namespace_)
    (current : ¬ IsLegacyKey (storedNamespaceKey row) decoded) :
    normalizePersistedShortRefRow row = none := by
  cases taken : normalizePersistedShortRefRow row with
  | none => rfl
  | some found =>
    obtain ⟨own, isOwn, -, key | legacy⟩ := normalizePersisted_accepts taken
    · cases isOwn.symm.trans isDecoded
      cases isNamespaced : decoded.namespace_ with
      | none =>
        refine absurd (.inl ?_) current
        rw [key, isNamespaced]
        rfl
      | some namespace_ =>
        rw [isNamespaced] at key different
        exact absurd (spaceFields_of_belongs key belongs) different
    · cases isOwn.symm.trans isDecoded
      exact absurd legacy current

private theorem stored_filed {row : Json} {decoded : DecodedNamespace}
    {other : Option ContextNamespace} (isDecoded : rowNamespace? row = some decoded)
    (own : spaceFields other = spaceFields decoded.namespace_ ∨
      ∃ raw, decoded.preBackfillNamespace = some raw ∧ spaceFields other = spaceFields (some raw)) :
    (loadedNamespace? other).map spaceFields = some (spaceFields decoded.namespace_) := by
  obtain ⟨loads, backfills⟩ := rowNamespace?_loaded isDecoded
  rcases own with same | ⟨raw, backfilled, same⟩
  · rw [loaded_spaceFields same, loads]
    rfl
  · rw [loaded_spaceFields same, backfills raw backfilled]
    rfl

private theorem current_own {stored : String} {decoded : DecodedNamespace}
    {other : Option ContextNamespace} (current : stored = namespaceStorageKey other)
    (accepted : stored = namespaceStorageKey decoded.namespace_ ∨ IsLegacyKey stored decoded) :
    spaceFields other = spaceFields decoded.namespace_ ∨
      ∃ raw, decoded.preBackfillNamespace = some raw ∧
        spaceFields other = spaceFields (some raw) := by
  rcases accepted with same | same | same | ⟨raw, backfilled, same | same⟩
  · exact .inl (spaceFields_of_storageKey (current.symm.trans same))
  · obtain ⟨rfl, spaceless⟩ := storageKey_eq_namespaceKey (current.symm.trans same)
    exact .inl (congrArg spaceFields spaceless).symm
  · obtain ⟨rfl, spaceless⟩ := storageKey_eq_beforeNul (current.symm.trans same)
    exact .inl (congrArg spaceFields spaceless).symm
  · exact .inr ⟨raw, backfilled, spaceFields_of_storageKey (current.symm.trans same)⟩
  · obtain ⟨-, spaceless⟩ := storageKey_eq_namespaceKey (current.symm.trans same)
    cases spaceless

private theorem legacy_own {stored : String} {decoded : DecodedNamespace}
    {other : ContextNamespace} (plain : other.NulFree)
    (legacy : stored = namespaceKey (some other))
    (accepted : stored = namespaceStorageKey decoded.namespace_ ∨ IsLegacyKey stored decoded) :
    spaceFields (some other) = spaceFields decoded.namespace_ ∨
      ∃ raw, decoded.preBackfillNamespace = some raw ∧
        spaceFields (some other) = spaceFields (some raw) := by
  rcases accepted with same | same | same | ⟨raw, backfilled, same | same⟩
  · obtain ⟨-, spaceless⟩ := storageKey_eq_namespaceKey (same.symm.trans legacy)
    cases spaceless
  · cases isNamespaced : decoded.namespace_ with
    | none =>
      rw [isNamespaced] at same
      exact absurd (legacy.symm.trans same) (namespaceKey_ne_empty other)
    | some kept =>
      rw [isNamespaced] at same
      exact .inl (congrArg some (keyFields_of_namespaceKey plain (legacy.symm.trans same)))
  · -- What was cut off at the first separator has none.
    have whole : nul ∈ (namespaceKey (some other)).toList := by
      obtain ⟨rest, chars⟩ := namespaceKey_chars other
      simp [chars]
    rw [← legacy, same, beforeNul, String.toList_ofList] at whole
    have kept := List.mem_takeWhile_imp whole
    simp at kept
  · obtain ⟨spaceless, -⟩ := storageKey_eq_namespaceKey (same.symm.trans legacy)
    cases spaceless
  · exact .inr ⟨raw, backfilled,
      congrArg some (keyFields_of_namespaceKey plain (legacy.symm.trans same))⟩

/-- Stored rows keep their handles, each under its own namespace. -/
theorem stored_rows_kept [LowerCasing] : KeepsRows where
  roundTrip := stored_roundTrip
  injective left right different same := different (spaceFields_of_storageKey same)
  isolated row decoded other isDecoded belongs different current :=
    stored_isolated isDecoded belongs different current
  filed row ref entry other taken current := by
    obtain ⟨decoded, isDecoded, under, accepted⟩ := normalizePersisted_accepts taken
    rw [under]
    exact stored_filed isDecoded (current_own current accepted)
  filedLegacy row ref entry other taken plain legacy := by
    obtain ⟨decoded, isDecoded, under, accepted⟩ := normalizePersisted_accepts taken
    rw [under]
    exact stored_filed isDecoded (legacy_own plain legacy accepted)

section FixedRuns

def tenantSpace (tenant : String) : ContextNamespace where
  scope := .projectShared
  projectId := some "p"
  localTenant := some tenant

/-- Two namespaces that differ in their tenants have one key, and an id is read back without the
blanks around it. -/
theorem stored_rows_lose :
    (tenantSpace "a" ≠ tenantSpace "b" ∧
      namespaceStorageKey (some (tenantSpace "a")) =
        namespaceStorageKey (some (tenantSpace "b"))) ∧
    (@normalizePersistedShortRefRow ⟨fun text => String.ofList (text.toList.map Char.toLower)⟩
      (toStoreRow 0 "obs:a" { kind := .observation, id := " x" }).toJson).map (·.2.id) =
        some "x" := by
  refine ⟨⟨by decide, by decide⟩, by decide⟩

end FixedRuns

end ImCodes.Memory
