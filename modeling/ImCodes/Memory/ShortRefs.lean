import ImCodes.Memory.Namespaces
import ImCodes.Library.Table

/-!
# Memory handles and their rows

A handle names a memory record. What is kept of one is a row, and a row is read back with
everything in it checked again.
-/

set_option autoImplicit false

namespace ImCodes.Memory

open ImCodes.Library

inductive MemoryShortRefKind where
  | projection
  | observation
deriving Repr, DecidableEq

namespace MemoryShortRefKind

def text : MemoryShortRefKind → String
  | projection => "projection"
  | observation => "observation"

/-- `isMemoryShortRefKind`, with the kind it finds. -/
def ofText? (value : String) : Option MemoryShortRefKind :=
  [projection, observation].find? fun kind => kind.text = value

@[simp] theorem ofText?_text (kind : MemoryShortRefKind) : ofText? kind.text = some kind := by
  cases kind <;> decide

end MemoryShortRefKind

/-- What a handle stands for; `lastSeenAt` is in milliseconds of the epoch. -/
structure MemoryShortRefEntry where
  kind : MemoryShortRefKind
  id : String
  namespace_ : Option ContextNamespace := none
  lastSeenAt : Option Nat := none
deriving Repr, DecidableEq

/-! ## Handles -/

/-- The host's lower-casing. -/
class LowerCasing where
  toLowerCase : String → String

def normalizeRef [LowerCasing] (ref : String) : String := LowerCasing.toLowerCase (trim ref)

/-! ## Rows -/

/-- A row of `memory_short_refs`, in the store or in a journal. -/
structure MemoryShortRefStoreRow where
  ref : String
  kind : MemoryShortRefKind
  id : String
  namespaceKey : String
  namespaceJson : Option String
  lastSeenAt : Nat
deriving Repr, DecidableEq

def toStoreRow (now : Nat) (ref : String) (entry : MemoryShortRefEntry) : MemoryShortRefStoreRow where
  ref := ref
  kind := entry.kind
  id := entry.id
  namespaceKey := namespaceStorageKey entry.namespace_
  namespaceJson := entry.namespace_.map fun namespace_ =>
    Json.stringify Json.integerText namespace_.toJson
  lastSeenAt := entry.lastSeenAt.getD now

namespace MemoryShortRefStoreRow

/-- The row as a record: what a journal has of it, and what the store answers with. -/
def toJson (row : MemoryShortRefStoreRow) : Json :=
  .obj [("ref", .str row.ref), ("kind", .str row.kind.text), ("id", .str row.id),
    ("namespaceKey", .str row.namespaceKey),
    ("namespaceJson", (row.namespaceJson.map Json.str).getD .null),
    ("lastSeenAt", .num row.lastSeenAt)]

end MemoryShortRefStoreRow

def millis? : Json → Option Nat
  | .num value => if value.den = 1 ∧ 0 ≤ value.num then some value.num.toNat else none
  | _ => none

/-- `normalizeEntry` on the fields of its record. -/
def normalizeFields [LowerCasing] (ref kind id namespace_ lastSeenAt : Option Json) :
    Option (String × MemoryShortRefEntry) := do
  let ref ← truthy ((ref.bind Json.asString?).map normalizeRef)
  let kind ← (kind.bind Json.asString?).bind MemoryShortRefKind.ofText?
  let id ← trimmed (id.bind Json.asString?)
  let decoded ← decodeNamespace namespace_
  some (ref, {
    kind, id
    namespace_ := decoded.namespace_
    lastSeenAt := lastSeenAt.bind millis? })

/-- The keys a row of the namespace was ever written under. -/
def namespaceKeyAccepted (stored : String) (decoded : DecodedNamespace) : Bool :=
  stored = namespaceStorageKey decoded.namespace_ ||
  stored = namespaceKey decoded.namespace_ ||
  stored = (decoded.namespace_.elim "" fun kept => kept.scope.text) ||
  (decoded.preBackfillNamespace.any fun raw =>
    stored = namespaceStorageKey (some raw) || stored = namespaceKey (some raw))

def visibleText (column : Option Json) : Option String :=
  (column.bind Json.asString?).filter fun text => trim text ≠ ""

/-- `normalizePersistedShortRefRow`. -/
def normalizePersistedShortRefRow [LowerCasing] (row : Json) :
    Option (String × MemoryShortRefEntry) := do
  let parsed ← match visibleText (row.field? "namespaceJson") with
    | none => some none
    | some text => (Json.parse text).map some
  let decoded ← decodeNamespace parsed
  let stored := ((row.field? "namespaceKey").bind Json.asString?).getD ""
  if namespaceKeyAccepted stored decoded then
    normalizeFields (row.field? "ref") (row.field? "kind") (row.field? "id")
      (decoded.namespace_.map ContextNamespace.toJson) (row.field? "lastSeenAt")
  else none

def loadedNamespace? : Option ContextNamespace → Option (Option ContextNamespace)
  | none => some none
  | some namespace_ => namespace_.loaded?.map some

/-- The entry that is read back from a row of this one, if the row is taken. -/
def MemoryShortRefEntry.reloaded? (now : Nat) (entry : MemoryShortRefEntry) :
    Option MemoryShortRefEntry :=
  (trimmed (some entry.id)).bind fun id =>
    (loadedNamespace? entry.namespace_).map fun namespace_ =>
      { kind := entry.kind, id, namespace_, lastSeenAt := some (entry.lastSeenAt.getD now) }

@[simp] theorem millis?_natural (value : Nat) : millis? (.num value) = some value := by
  simp [millis?]

@[simp] theorem visibleText_null : visibleText (some .null) = none := rfl

@[simp] theorem decodeNamespace_none :
    decodeNamespace none = some { namespace_ := none } := rfl

theorem visibleText_namespace (namespace_ : ContextNamespace) :
    visibleText (some (.str (Json.stringify Json.integerText namespace_.toJson))) =
      some (Json.stringify Json.integerText namespace_.toJson) := by
  have visible : trim (Json.stringify Json.integerText namespace_.toJson) ≠ "" := by
    intro blank
    have chars : trimChars (Json.text Json.integerText namespace_.toJson) = [] :=
      String.ofList_injective (by simpa [trim, Json.stringify] using blank)
    cases written : Json.text Json.integerText namespace_.toJson with
    | nil => simp [ContextNamespace.toJson, Json.text] at written
    | cons c rest =>
      have brace : c = '{' := by
        simp only [ContextNamespace.toJson, Json.text, List.cons.injEq] at written
        exact written.1.symm
      have dark : isWhiteSpace c = false := brace ▸ (by decide)
      have kept : (c :: rest).dropWhile isWhiteSpace = c :: rest := by simp [dark]
      rw [written, trimChars, kept, List.rdropWhile_eq_nil_iff] at chars
      rw [chars c List.mem_cons_self] at dark
      cases dark
  simp [visibleText, Json.asString?, Option.filter, visible]

theorem normalizePersisted_toStoreRow [LowerCasing] {ref : String}
    (clean : normalizeRef ref = ref) (nonempty : ref ≠ "") (now : Nat) (entry : MemoryShortRefEntry) :
    normalizePersistedShortRefRow (toStoreRow now ref entry).toJson =
      (entry.reloaded? now).map fun kept => (ref, kept) := by
  have refText : truthy (some (normalizeRef ref)) = some ref := by
    rw [clean, truthy_some nonempty]
  cases isNamespaced : entry.namespace_ with
  | none =>
    cases named : trimmed (some entry.id) <;>
      simp [normalizePersistedShortRefRow, toStoreRow, MemoryShortRefStoreRow.toJson,
        MemoryShortRefEntry.reloaded?, loadedNamespace?, isNamespaced, named, Json.field?,
        Json.asString?, namespaceKeyAccepted, namespaceStorageKey, normalizeFields, refText]
  | some namespace_ =>
    have column := visibleText_namespace namespace_
    cases isKept : namespace_.loaded? with
    | none =>
      simp [normalizePersistedShortRefRow, toStoreRow, MemoryShortRefStoreRow.toJson,
        MemoryShortRefEntry.reloaded?, loadedNamespace?, isNamespaced, Json.field?, column,
        ContextNamespace.parse_toJson, ContextNamespace.decodeNamespace_toJson, isKept]
    | some kept =>
      have again := ContextNamespace.loaded?_idem isKept
      have accepted : namespaceKeyAccepted (namespaceStorageKey (some namespace_)) {
          namespace_ := some kept
          preBackfillNamespace := if kept = namespace_ then none else some namespace_ } =
          true := by
        by_cases same : kept = namespace_
        · simp [namespaceKeyAccepted, same]
        · simp [namespaceKeyAccepted, same]
      cases named : trimmed (some entry.id) <;>
        simp [normalizePersistedShortRefRow, toStoreRow, MemoryShortRefStoreRow.toJson,
          MemoryShortRefEntry.reloaded?, loadedNamespace?, isNamespaced, named, Json.field?, Json.asString?,
          column, ContextNamespace.parse_toJson, ContextNamespace.decodeNamespace_toJson,
          isKept, again, accepted, normalizeFields, refText]

/-! ## What a row stands for -/

/-- A handle as `normalizeRef` leaves it. -/
def CleanRef [LowerCasing] (ref : String) : Prop := normalizeRef ref = ref ∧ ref ≠ ""

theorem loadedNamespace?_idem {namespace_ kept : Option ContextNamespace}
    (found : loadedNamespace? namespace_ = some kept) : loadedNamespace? kept = some kept := by
  cases namespace_ with
  | none =>
    cases found
    rfl
  | some raw =>
    obtain ⟨loaded, isLoaded, rfl⟩ := Option.map_eq_some_iff.mp found
    simp [loadedNamespace?, ContextNamespace.loaded?_idem isLoaded]

end ImCodes.Memory
