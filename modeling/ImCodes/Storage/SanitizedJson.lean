import ImCodes.Library.JsonPlaces
import ImCodes.Library.JsonSyntax
import ImCodes.Library.Outcomes

/-!
# JSON that PostgreSQL can store

A text of PostgreSQL holds no NUL. A value is written by a serializer whose callback replaces the
NULs in strings and names and enforces limits as it goes, and is read again. The serializer calls
back with the holder and the key of each value; the depth of a value is reconstructed from both.
-/

set_option autoImplicit false

namespace ImCodes.Storage

open Library

def postgresJsonMaxDepth : Nat := 64

def postgresJsonMaxNodes : Nat := 100000

structure PostgresJsonSanitizeResult where
  value : Json
  changed : Bool
deriving DecidableEq

/-- What the callbacks count and note. -/
structure Progress where
  nodes : Nat
  changed : Bool

def nul : Char := Char.ofNat 0

/-- `text.replace(/\u0000/g, '\uFFFD')`. -/
def replaceNul (text : String) : String :=
  String.ofList (text.toList.map fun c => if c = nul then Char.ofNat 0xFFFD else c)

def includesNul (text : String) : Bool := decide (nul ∈ text.toList)

/-- The copy of an object under its safe keys, as far as the keys are concerned. -/
def copyKeys (output : List String) : List String → Except String (List String)
  | [] => .ok output
  | originalKey :: rest =>
    if replaceNul originalKey ∉ output then copyKeys (output ++ [replaceNul originalKey]) rest
    else .error "json_key_collision"

def writtenKeys (keys : List String) : Except String (List String) :=
  if keys.all fun key => decide (replaceNul key = key) then .ok keys else copyKeys [] keys

/-- The callback counts its calls. -/
def countNode (progress : Progress) : Except String Progress :=
  if progress.nodes + 1 ≤ postgresJsonMaxNodes then
    .ok { progress with nodes := progress.nodes + 1 }
  else .error "json_too_large"

def checkDepth (depth : Nat) : Except String Unit :=
  if depth < postgresJsonMaxDepth then .ok () else .error "json_too_deep"

def depthOf (key : String) (parentDepth : Nat) : Nat := if key = "" then 0 else parentDepth + 1

mutual

/-- What the serializer writes for a value, calling back on it and on everything below it. -/
def write (key : String) (parentDepth : Nat) :
    Json → Progress → Except String (Json × Progress)
  | .str text, progress => do
    let progress ← countNode progress
    if includesNul text then .ok (.str (replaceNul text), { progress with changed := true })
    else .ok (.str text, progress)
  | .arr items, progress => do
    let progress ← countNode progress
    checkDepth (depthOf key parentDepth)
    let (written, progress) ← writeItems (depthOf key parentDepth) 0 items progress
    .ok (.arr written, progress)
  | .obj members, progress => do
    let progress ← countNode progress
    checkDepth (depthOf key parentDepth)
    let keys := members.map Prod.fst
    let changed := progress.changed || keys.any fun key => decide (replaceNul key ≠ key)
    let _ ← writtenKeys keys
    let (written, progress) ←
      writeMembers (depthOf key parentDepth) members { progress with changed }
    .ok (.obj written, progress)
  | value, progress => do
    let progress ← countNode progress
    .ok (value, progress)

def writeItems (depth index : Nat) :
    List Json → Progress → Except String (List Json × Progress)
  | [], progress => .ok ([], progress)
  | item :: rest, progress => do
    let (written, progress) ← write (toString index) depth item progress
    let (others, progress) ← writeItems depth (index + 1) rest progress
    .ok (written :: others, progress)

def writeMembers (depth : Nat) :
    List (String × Json) → Progress → Except String (List (String × Json) × Progress)
  | [], progress => .ok ([], progress)
  | (key, value) :: rest, progress => do
    let (written, progress) ← write (replaceNul key) depth value progress
    let (others, progress) ← writeMembers depth rest progress
    .ok ((replaceNul key, written) :: others, progress)

end

/-- `numberText` is how the host writes a number. -/
def sanitizePostgresJson (numberText : Rat → String) (value : Json) :
    Except String PostgresJsonSanitizeResult := do
  let (written, progress) ← write "" 0 value ⟨0, false⟩
  match Json.parse (Json.stringify numberText written) with
  | some parsed => .ok ⟨parsed, progress.changed⟩
  | none => .error "SyntaxError"

/-! ## What the sanitizer accepts and returns

The limits that are meant are stated over the tree: how deep its containers stand, how many values
it has, and whether two names of an object become one. The callback's depth starts anew under an
empty name, and this is the only difference.
-/

/-! ## What is meant -/

def isContainer : Json → Bool
  | .arr _ => true
  | .obj _ => true
  | _ => false

def SafeNames : Json → Prop
  | .obj members => (members.map fun member => replaceNul member.1).Nodup
  | _ => True

/-- A string, or a name of an object, has a NUL. -/
def ownNul : Json → Bool
  | .str text => includesNul text
  | .obj members => members.any fun member => includesNul member.1
  | _ => false

def hasNul (value : Json) : Bool := value.values.any ownNul

def replaceNuls (value : Json) : Json := value.mapText replaceNul

def ReachesDepth (placing : Json.Placing) (value : Json) : Prop :=
  ∃ place ∈ Json.places placing 0 value,
    isContainer place.2 = true ∧ postgresJsonMaxDepth ≤ place.1

def TooDeep (value : Json) : Prop := ReachesDepth .nested value

def TooLarge (value : Json) : Prop := postgresJsonMaxNodes < value.values.length

def Collides (value : Json) : Prop := ∃ inner ∈ value.values, ¬SafeNames inner

def byKeys : Json.Placing where
  item depth := depth + 1
  member key depth := depthOf key depth

def DeepByKeys (value : Json) : Prop := ReachesDepth byKeys value

structure SanitizesExactly (numberText : Rat → String) (value : Json) : Prop where
  throws : (∃ message, sanitizePostgresJson numberText value = .error message) ↔
    TooDeep value ∨ TooLarge value ∨ Collides value
  result : ∀ result, sanitizePostgresJson numberText value = .ok result →
    hasNul result.value = false ∧ result.value = replaceNuls value ∧
      result.changed = hasNul value ∧
      sanitizePostgresJson numberText result.value = .ok ⟨result.value, false⟩

/-! ## Replacing NULs in a text -/

theorem includesNul_replaceNul (text : String) : includesNul (replaceNul text) = false := by
  simp only [includesNul, replaceNul, String.toList_ofList, decide_eq_false_iff_not, List.mem_map,
    not_exists, not_and]
  intro c _
  split
  · decide
  · next other => exact other

theorem replaceNul_eq_self_iff {text : String} :
    replaceNul text = text ↔ includesNul text = false := by
  constructor
  · intro same
    rw [← same]
    exact includesNul_replaceNul text
  · intro free
    have absent : nul ∉ text.toList := of_decide_eq_false free
    have same : (text.toList.map fun c => if c = nul then Char.ofNat 0xFFFD else c) =
        text.toList := by
      rw [List.map_congr_left (g := id), List.map_id]
      intro c isChar
      have other : c ≠ nul := fun isNul => absent (isNul ▸ isChar)
      exact if_neg other
    rw [replaceNul, same, String.ofList_toList]

theorem replaceNul_replaceNul (text : String) : replaceNul (replaceNul text) = replaceNul text :=
  replaceNul_eq_self_iff.mpr (includesNul_replaceNul text)

theorem replaceNul_eq_empty_iff {text : String} : replaceNul text = "" ↔ text = "" := by
  rw [← String.toList_inj, ← String.toList_inj, replaceNul, String.toList_ofList]
  simp

@[simp] theorem depthOf_replaceNul (key : String) (depth : Nat) :
    depthOf (replaceNul key) depth = depthOf key depth := by
  simp only [depthOf, replaceNul_eq_empty_iff]

@[simp] theorem depthOf_index (index depth : Nat) :
    depthOf (toString index) depth = depth + 1 := by
  rw [depthOf, if_neg]
  intro isEmpty
  have digits : Nat.toDigits 10 index = [] := by
    rw [← Nat.toList_repr]
    exact congrArg String.toList isEmpty
  exact Nat.toDigits_ne_nil digits

/-! ## What the serializer writes -/

def Sound (place : Nat × Json) : Prop :=
  (isContainer place.2 = true → place.1 < postgresJsonMaxDepth) ∧ SafeNames place.2

def Fits (progress : Progress) (placed : List (Nat × Json)) : Prop :=
  (0 < placed.length → progress.nodes + placed.length ≤ postgresJsonMaxNodes) ∧
    ∀ place ∈ placed, Sound place

def Progress.after (progress : Progress) (placed : List (Nat × Json)) : Progress :=
  ⟨progress.nodes + placed.length, progress.changed || placed.any fun place => ownNul place.2⟩

theorem fits_append {progress : Progress} {first second : List (Nat × Json)} :
    Fits progress (first ++ second) ↔
      Fits progress first ∧ Fits (progress.after first) second := by
  simp only [Fits, Progress.after, List.length_append, List.forall_mem_append]
  constructor
  · rintro ⟨room, soundFirst, soundSecond⟩
    exact ⟨⟨by omega, soundFirst⟩, by omega, soundSecond⟩
  · rintro ⟨⟨roomFirst, soundFirst⟩, room, soundSecond⟩
    exact ⟨by omega, soundFirst, soundSecond⟩

theorem after_append {progress : Progress} {first second : List (Nat × Json)} :
    progress.after (first ++ second) = (progress.after first).after second := by
  simp only [Progress.after, List.length_append, List.any_append, Bool.or_assoc, Nat.add_assoc]

theorem countNode_yields (progress : Progress) :
    Yields (progress.nodes + 1 ≤ postgresJsonMaxNodes)
      { progress with nodes := progress.nodes + 1 } (countNode progress) :=
  (Yields.guarded Yields.pure).congr (and_iff_left trivial)

theorem checkDepth_yields (depth : Nat) :
    Yields (depth < postgresJsonMaxDepth) () (checkDepth depth) :=
  (Yields.guarded Yields.pure).congr (and_iff_left trivial)

theorem copyKeys_yields (output keys : List String) (distinct : output.Nodup) :
    Yields (output ++ keys.map replaceNul).Nodup (output ++ keys.map replaceNul)
      (copyKeys output keys) := by
  induction keys generalizing output with
  | nil =>
    rw [List.map_nil, List.append_nil]
    exact Yields.pure.congr (iff_of_true trivial distinct)
  | cons key rest ih =>
    have together : output ++ (key :: rest).map replaceNul =
        (output ++ [replaceNul key]) ++ rest.map replaceNul := by simp
    by_cases isNew : replaceNul key ∉ output
    · rw [copyKeys, if_pos isNew, together]
      apply ih
      rw [← List.concat_eq_append]
      exact List.Nodup.concat isNew distinct
    · rw [copyKeys, if_neg isNew]
      constructor
      · intro allDistinct
        rw [together] at allDistinct
        have prefix_ := (List.nodup_append.mp allDistinct).1
        have apart := (List.nodup_append.mp prefix_).2.2
        exact absurd (not_not.mp isNew) fun inside =>
          apart _ inside _ (List.mem_singleton_self _) rfl
      · intro _
        exact ⟨_, rfl⟩

theorem writtenKeys_yields {keys : List String} (distinct : keys.Nodup) :
    Yields (keys.map replaceNul).Nodup (keys.map replaceNul) (writtenKeys keys) := by
  unfold writtenKeys
  split
  · next unchanged =>
      have same : keys.map replaceNul = keys := by
        rw [List.map_congr_left (g := id), List.map_id]
        intro key isKey
        exact of_decide_eq_true (List.all_eq_true.mp unchanged key isKey)
      rw [same]
      exact Yields.pure.congr (iff_of_true trivial distinct)
  · exact copyKeys_yields [] keys List.nodup_nil

private theorem leaf_yields {progress : Progress} {depth : Nat} {value : Json}
    (leaf : isContainer value = false) (named : SafeNames value) (free : ownNul value = false) :
    Yields (Fits progress [(depth, value)]) (value, progress.after [(depth, value)])
      (countNode progress >>= fun progress => .ok (value, progress)) := by
  have after : progress.after [(depth, value)] =
      { progress with nodes := progress.nodes + 1 } := by simp [Progress.after, free]
  rw [after]
  refine Yields.congr (Yields.last (countNode_yields progress) rfl) ?_
  simp [Fits, Sound, leaf, named]

private theorem fits_container {progress : Progress} {depth : Nat} {value : Json}
    {placed : List (Nat × Json)} (container : isContainer value = true) :
    Fits progress ((depth, value) :: placed) ↔
      progress.nodes + 1 ≤ postgresJsonMaxNodes ∧ depth < postgresJsonMaxDepth ∧
        SafeNames value ∧ Fits (progress.after [(depth, value)]) placed := by
  rw [← List.singleton_append, fits_append]
  simp [Fits, Sound, container, and_assoc]

private theorem after_cons {progress : Progress} {place : Nat × Json}
    {placed : List (Nat × Json)} :
    progress.after (place :: placed) = (progress.after [place]).after placed :=
  @after_append progress [place] placed

private theorem after_object {progress : Progress} {depth : Nat}
    {members : List (String × Json)} :
    progress.after [(depth, .obj members)] =
      { nodes := progress.nodes + 1
        changed := progress.changed ||
          (members.map Prod.fst).any fun key => decide (replaceNul key ≠ key) } := by
  have noted : ∀ key, decide (replaceNul key ≠ key) = includesNul key := by
    intro key
    cases includes : includesNul key with
    | true =>
      rw [decide_eq_true_iff]
      intro same
      rw [replaceNul_eq_self_iff.mp same] at includes
      cases includes
    | false =>
      rw [decide_eq_false_iff_not, not_not]
      exact replaceNul_eq_self_iff.mpr includes
  simp only [Progress.after, List.length_singleton, List.any_cons, List.any_nil, Bool.or_false,
    ownNul, List.any_map, noted, Function.comp_def]

private theorem nothing_yields {Written : Type} {progress : Progress} :
    Yields (Fits progress []) (([] : List Written), progress.after [])
      (.ok ([], progress) : Except String (List Written × Progress)) := by
  have same : progress.after [] = progress := by simp [Progress.after]
  rw [same]
  exact Yields.congr Yields.pure (by simp [Fits])

section Writing

variable {numberText : Rat → String}

mutual

theorem write_yields (key : String) (parentDepth : Nat) (value : Json)
    (printable : Json.Printable numberText value) (progress : Progress) :
    Yields (Fits progress (Json.places byKeys (depthOf key parentDepth) value))
      (replaceNuls value, progress.after (Json.places byKeys (depthOf key parentDepth) value))
      (write key parentDepth value progress) := by
  cases value with
  | null => exact leaf_yields rfl trivial rfl
  | bool _ => exact leaf_yields rfl trivial rfl
  | num _ => exact leaf_yields rfl trivial rfl
  | str text =>
    cases includes : includesNul text with
    | true =>
      have after : progress.after [(depthOf key parentDepth, .str text)] =
          { nodes := progress.nodes + 1, changed := true } := by
        simp [Progress.after, ownNul, includes]
      change Yields (Fits progress [(depthOf key parentDepth, .str text)])
        (replaceNuls (.str text), progress.after [(depthOf key parentDepth, .str text)]) _
      rw [after]
      refine Yields.congr (Yields.last (countNode_yields progress) ?_) ?_
      · rw [includes]
        rfl
      · simp [Fits, Sound, isContainer, SafeNames]
    | false =>
      have same : replaceNuls (.str text) = .str text :=
        congrArg Json.str (replaceNul_eq_self_iff.mpr includes)
      have whole := @leaf_yields progress (depthOf key parentDepth) (.str text) rfl trivial
        includes
      rw [same, write]
      simp only [includes]
      exact whole
  | arr items =>
    have written := writeItems_yields (depthOf key parentDepth) 0 items printable
      { progress with nodes := progress.nodes + 1 }
    have entered : progress.after [(depthOf key parentDepth, .arr items)] =
        { progress with nodes := progress.nodes + 1 } := by simp [Progress.after, ownNul]
    rw [Json.places, after_cons, fits_container rfl, entered]
    refine Yields.congr (Yields.bind (countNode_yields progress)
      (Yields.bind (checkDepth_yields (depthOf key parentDepth))
        (Yields.last written rfl))) ?_
    simp [SafeNames]
  | obj members =>
    have written := writeMembers_yields (depthOf key parentDepth) members printable.2
      (progress.after [(depthOf key parentDepth, .obj members)])
    have names := writtenKeys_yields printable.1
    rw [Json.places, after_cons, fits_container rfl]
    rw [after_object] at written ⊢
    refine Yields.congr (Yields.bind (countNode_yields progress)
      (Yields.bind (checkDepth_yields (depthOf key parentDepth))
        (Yields.bind names (Yields.last written rfl)))) ?_
    simp [SafeNames, Function.comp_def]

theorem writeItems_yields (depth index : Nat) (items : List Json)
    (printable : Json.PrintableItems numberText items) (progress : Progress) :
    Yields (Fits progress (Json.itemPlaces byKeys depth items))
      (Json.mapItems replaceNul items, progress.after (Json.itemPlaces byKeys depth items))
      (writeItems depth index items progress) := by
  cases items with
  | nil => exact nothing_yields
  | cons item rest =>
    have first := write_yields (toString index) depth item printable.1 progress
    rw [depthOf_index] at first
    have others := writeItems_yields depth (index + 1) rest printable.2
      (progress.after (Json.places byKeys (depth + 1) item))
    rw [Json.itemPlaces, fits_append, after_append]
    exact Yields.bind first (Yields.last others rfl)

theorem writeMembers_yields (depth : Nat) (members : List (String × Json))
    (printable : Json.PrintableMembers numberText members) (progress : Progress) :
    Yields (Fits progress (Json.memberPlaces byKeys depth members))
      (Json.mapMembers replaceNul members,
        progress.after (Json.memberPlaces byKeys depth members))
      (writeMembers depth members progress) := by
  cases members with
  | nil => exact nothing_yields
  | cons member rest =>
    obtain ⟨key, value⟩ := member
    have first := write_yields (replaceNul key) depth value printable.1 progress
    rw [depthOf_replaceNul] at first
    have others := writeMembers_yields depth rest printable.2
      (progress.after (Json.places byKeys (depthOf key depth) value))
    rw [Json.memberPlaces, fits_append, after_append]
    exact Yields.bind first (Yields.last others rfl)

end

mutual

theorem printable_replaceNuls (value : Json) (printable : Json.Printable numberText value)
    {depth : Nat} (safe : ∀ place ∈ Json.places byKeys depth value, SafeNames place.2) :
    Json.Printable numberText (replaceNuls value) := by
  cases value with
  | null => trivial
  | bool _ => trivial
  | num _ => exact printable
  | str _ => trivial
  | arr items =>
    exact printable_replaceItems items printable fun place isPlace =>
      safe place (List.mem_cons_of_mem _ isPlace)
  | obj members =>
    constructor
    · have named : SafeNames (.obj members) := safe (depth, .obj members) List.mem_cons_self
      rw [Json.map_fst_mapMembers]
      exact named
    · exact printable_replaceMembers members printable.2 fun place isPlace =>
        safe place (List.mem_cons_of_mem _ isPlace)

theorem printable_replaceItems (items : List Json)
    (printable : Json.PrintableItems numberText items) {depth : Nat}
    (safe : ∀ place ∈ Json.itemPlaces byKeys depth items, SafeNames place.2) :
    Json.PrintableItems numberText (Json.mapItems replaceNul items) := by
  cases items with
  | nil => trivial
  | cons item rest =>
    exact ⟨printable_replaceNuls item printable.1 fun place isPlace =>
        safe place (List.mem_append_left _ isPlace),
      printable_replaceItems rest printable.2 fun place isPlace =>
        safe place (List.mem_append_right _ isPlace)⟩

theorem printable_replaceMembers (members : List (String × Json))
    (printable : Json.PrintableMembers numberText members) {depth : Nat}
    (safe : ∀ place ∈ Json.memberPlaces byKeys depth members, SafeNames place.2) :
    Json.PrintableMembers numberText (Json.mapMembers replaceNul members) := by
  cases members with
  | nil => trivial
  | cons member rest =>
    obtain ⟨key, value⟩ := member
    exact ⟨printable_replaceNuls value printable.1 fun place isPlace =>
        safe place (List.mem_append_left _ isPlace),
      printable_replaceMembers rest printable.2 fun place isPlace =>
        safe place (List.mem_append_right _ isPlace)⟩

end

/-! ## The whole function -/

def Accepted (value : Json) : Prop := Fits ⟨0, false⟩ (Json.places byKeys 0 value)

theorem hasNul_eq (value : Json) :
    hasNul value = (Json.places byKeys 0 value).any fun place => ownNul place.2 := by
  rw [hasNul, Json.values_eq 0 value, List.any_map]
  rfl

theorem sanitizePostgresJson_yields {value : Json} (printable : Json.Printable numberText value) :
    Yields (Accepted value) ⟨replaceNuls value, hasNul value⟩
      (sanitizePostgresJson numberText value) := by
  have written := write_yields "" 0 value printable ⟨0, false⟩
  constructor
  · intro accepted
    have readable := printable_replaceNuls value printable fun place isPlace =>
      (accepted.2 place isPlace).2
    rw [sanitizePostgresJson, written.ok accepted, hasNul_eq]
    simp only [bind, Except.bind, Json.parse_stringify readable]
    simp [Progress.after, depthOf]
  · intro rejected
    obtain ⟨message, failed⟩ := written.error rejected
    exact ⟨message, by rw [sanitizePostgresJson, failed]; rfl⟩

theorem not_accepted_iff {value : Json} :
    ¬Accepted value ↔ DeepByKeys value ∨ TooLarge value ∨ Collides value := by
  have sameLength : (Json.places byKeys 0 value).length = value.values.length := by
    rw [Json.values_eq 0 value, List.length_map]
  have someValue : 0 < (Json.places byKeys 0 value).length := by
    cases value <;> simp [Json.places]
  have collisions : Collides value ↔
      ∃ place ∈ Json.places byKeys 0 value, ¬SafeNames place.2 := by
    rw [Collides, @Json.values_eq byKeys 0 value]
    simp only [List.mem_map, exists_exists_and_eq_and]
  rw [collisions, Accepted, Fits, sameLength, Nat.zero_add]
  rw [sameLength] at someValue
  constructor
  · intro rejected
    by_contra nothing
    simp only [not_or, DeepByKeys, ReachesDepth, TooLarge, not_exists, not_and] at nothing
    obtain ⟨shallow, small, safe⟩ := nothing
    apply rejected
    refine ⟨fun _ => Nat.le_of_not_lt small, ?_⟩
    intro place isPlace
    exact ⟨fun container => Nat.lt_of_not_le (shallow place isPlace container),
      not_not.mp (safe place isPlace)⟩
  · rintro (⟨place, isPlace, container, deep⟩ | large | ⟨place, isPlace, unsafe_⟩) ⟨small, sound⟩
    · exact absurd ((sound place isPlace).1 container) (Nat.not_lt_of_le deep)
    · exact absurd (small someValue) (Nat.not_le_of_lt large)
    · exact unsafe_ (sound place isPlace).2

theorem byKeys_after : byKeys.after replaceNul = byKeys := by
  simp only [Json.Placing.after, byKeys, depthOf_replaceNul]

theorem places_replaceNuls (value : Json) :
    Json.places byKeys 0 (replaceNuls value) =
      (Json.places byKeys 0 value).map fun place => (place.1, replaceNuls place.2) := by
  rw [replaceNuls, Json.places_mapText, byKeys_after]
  rfl

theorem ownNul_replaceNuls (value : Json) : ownNul (replaceNuls value) = false := by
  cases value with
  | str text => exact includesNul_replaceNul text
  | obj members =>
    change (Json.mapMembers replaceNul members).any (fun member => includesNul member.1) = false
    rw [List.any_eq_false]
    intro member isMember
    have isName := List.mem_map_of_mem (f := Prod.fst) isMember
    rw [Json.map_fst_mapMembers] at isName
    obtain ⟨original, _, same⟩ := List.mem_map.mp isName
    rw [← same, includesNul_replaceNul]
    exact Bool.false_ne_true
  | null => rfl
  | bool _ => rfl
  | num _ => rfl
  | arr _ => rfl

theorem hasNul_replaceNuls (value : Json) : hasNul (replaceNuls value) = false := by
  rw [hasNul_eq, places_replaceNuls, List.any_map, List.any_eq_false]
  intro place _
  rw [Function.comp_apply, ownNul_replaceNuls]
  exact Bool.false_ne_true

theorem replaceNuls_replaceNuls (value : Json) :
    replaceNuls (replaceNuls value) = replaceNuls value := by
  have twice : replaceNul ∘ replaceNul = replaceNul := funext replaceNul_replaceNul
  rw [replaceNuls, replaceNuls, Json.mapText_mapText, twice]

theorem sound_replaceNuls {place : Nat × Json} (sound : Sound place) :
    Sound (place.1, replaceNuls place.2) := by
  obtain ⟨depth, value⟩ := place
  cases value with
  | obj members =>
    refine ⟨sound.1, ?_⟩
    change ((Json.mapMembers replaceNul members).map fun member => replaceNul member.1).Nodup
    have names : ((Json.mapMembers replaceNul members).map fun member => replaceNul member.1) =
        members.map fun member => replaceNul member.1 := by
      have written := congrArg (List.map replaceNul)
        (@Json.map_fst_mapMembers replaceNul members)
      simpa [Function.comp_def, replaceNul_replaceNul] using written
    rw [names]
    exact sound.2
  | str text => exact ⟨sound.1, trivial⟩
  | null => exact sound
  | bool _ => exact sound
  | num _ => exact sound
  | arr items => exact ⟨sound.1, trivial⟩

theorem accepted_replaceNuls {value : Json} (accepted : Accepted value) :
    Accepted (replaceNuls value) := by
  unfold Accepted Fits at accepted ⊢
  rw [places_replaceNuls, List.length_map]
  refine ⟨accepted.1, ?_⟩
  intro place isPlace
  obtain ⟨original, isOriginal, rfl⟩ := List.mem_map.mp isPlace
  exact sound_replaceNuls (accepted.2 original isOriginal)

theorem tooDeep_of_deepByKeys {value : Json} (deep : DeepByKeys value) : TooDeep value := by
  obtain ⟨place, isPlace, container, below⟩ := deep
  have atMost : byKeys.AtMost .nested := by
    constructor
    · intro depth deeper atLeast
      exact Nat.succ_le_succ atLeast
    · intro key depth deeper atLeast
      change depthOf key depth ≤ deeper + 1
      unfold depthOf
      split <;> omega
  obtain ⟨lower, isLower, atLeast⟩ := Json.places_deeper atMost (Nat.le_refl 0) value isPlace
  exact ⟨(lower, place.2), isLower, container, Nat.le_trans below atLeast⟩

/-- The sanitizer does what is meant exactly on the values whose nesting stays below the limit,
or that are rejected for another reason, or that are as deep below an empty name. -/
theorem sanitizePostgresJson_exact_iff (numberText : Rat → String) (value : Json)
    (printable : Json.Printable numberText value) :
    SanitizesExactly numberText value ↔
      (TooDeep value → DeepByKeys value ∨ TooLarge value ∨ Collides value) := by
  have yields := sanitizePostgresJson_yields printable
  constructor
  · intro exact_ deep
    rw [← not_accepted_iff, ← yields.error_iff]
    exact exact_.throws.mpr (Or.inl deep)
  · intro noticed
    constructor
    · rw [yields.error_iff, not_accepted_iff]
      constructor
      · rintro (deep | other)
        · exact Or.inl (tooDeep_of_deepByKeys deep)
        · exact Or.inr other
      · rintro (deep | other)
        · exact noticed deep
        · exact Or.inr other
    · intro result returned
      obtain ⟨accepted, same⟩ := yields.eq_of_ok returned
      have readable := printable_replaceNuls value printable fun place isPlace =>
        (accepted.2 place isPlace).2
      have again := (sanitizePostgresJson_yields readable).ok (accepted_replaceNuls accepted)
      rw [same]
      refine ⟨hasNul_replaceNuls value, rfl, rfl, ?_⟩
      rw [again, replaceNuls_replaceNuls, hasNul_replaceNuls]

end Writing

section FixedTrees

private def underEmptyNames : Nat → Json
  | 0 => .obj []
  | count + 1 => .obj [("", underEmptyNames count)]

private theorem underEmptyNames_deep (count depth : Nat) :
    (depth + count, .obj []) ∈ Json.places .nested depth (underEmptyNames count) := by
  induction count generalizing depth with
  | zero => exact List.mem_cons_self
  | succ count ih =>
    have inside := ih (depth + 1)
    rw [Nat.add_assoc, Nat.add_comm 1] at inside
    exact List.mem_cons_of_mem _ (List.mem_append_left _ inside)

/-- A tree nested deeper than the limit under empty names is accepted as it is. -/
theorem sanitizePostgresJson_underEmptyNames :
    TooDeep (underEmptyNames 64) ∧
      sanitizePostgresJson Json.integerText (underEmptyNames 64) =
        .ok ⟨underEmptyNames 64, false⟩ := by
  constructor
  · exact ⟨_, underEmptyNames_deep 64 0, rfl, by decide⟩
  · decide +kernel

private def withNulls : Json := .obj [("na\x00me", .arr [.str "\x00", .null]), ("", .str "text")]

/-- The law for a tree with characters in a name and in a text that the database does not take. -/
theorem sanitizePostgresJson_exact_shallow :
    SanitizesExactly Json.integerText withNulls ↔
      (TooDeep withNulls → DeepByKeys withNulls ∨ TooLarge withNulls ∨ Collides withNulls) :=
  sanitizePostgresJson_exact_iff _ _
    ⟨by decide, ⟨trivial, trivial, trivial⟩, trivial, trivial⟩

end FixedTrees

end ImCodes.Storage
