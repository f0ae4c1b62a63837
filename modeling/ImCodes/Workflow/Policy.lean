import ImCodes.Library.JsonAgreement
import ImCodes.Library.JsonSyntax
import ImCodes.Library.PropertyObjects
import ImCodes.Library.Utf16

/-!
# Canonical values and their hashes

A value is hashed as the text of its canonical form, whose objects hold their members by name.
Values that agree have one canonical form, and so one hash.
-/

set_option autoImplicit false

namespace ImCodes.Workflow

open Library Library.Json

mutual

/-- The value with its objects made anew, member by member in the order of names. -/
def canonicalize : Json → Json
  | .arr items => .arr (canonicalizeItems items)
  | .obj members =>
    .obj (PropertyObject.empty.assign (sortMembers (canonicalizeMembers members))).entries
  | value => value

def canonicalizeItems : List Json → List Json
  | [] => []
  | item :: rest => canonicalize item :: canonicalizeItems rest

def canonicalizeMembers : List (String × Json) → List (String × Json)
  | [] => []
  | (name, value) :: rest => (name, canonicalize value) :: canonicalizeMembers rest

end

def stableStringify (numberText : Rat → String) (value : Json) : String :=
  stringify numberText (canonicalize value)

def fnv1a64 (units : List Nat) : UInt64 :=
  units.foldl (fun hash unit => (hash ^^^ UInt64.ofNat unit) * 0x100000001b3) 0xcbf29ce484222325

def stableHash (input : String) : String :=
  let digits := Nat.toDigits 16 (fnv1a64 (utf16 input)).toNat
  "fnv1a64:" ++ String.ofList (digits.leftpad 16 '0')

structure P2pStaticPolicy where
  policyVersion : Nat := 1
  maxNodes : Nat
  maxEdges : Nat
  maxLoopBudget : Nat
  allowedExecutables : List String
  allowInterpreterScripts : Bool
  allowOpenSpecArtifacts : Bool
  allowImplementationPermission : Bool
  maxPromptAppendBytes : Nat
  maxAdvancedRuns : Nat
  maxScripts : Nat
  policyHash : Option String := none

/-- The policy without its hash, the programs it allows in order. -/
def canonicalizeP2pStaticPolicy (policy : P2pStaticPolicy) : Json :=
  .obj [("policyVersion", .num policy.policyVersion), ("maxNodes", .num policy.maxNodes),
    ("maxEdges", .num policy.maxEdges), ("maxLoopBudget", .num policy.maxLoopBudget),
    ("allowedExecutables", .arr ((sortByUtf16 policy.allowedExecutables).map .str)),
    ("allowInterpreterScripts", .bool policy.allowInterpreterScripts),
    ("allowOpenSpecArtifacts", .bool policy.allowOpenSpecArtifacts),
    ("allowImplementationPermission", .bool policy.allowImplementationPermission),
    ("maxPromptAppendBytes", .num policy.maxPromptAppendBytes),
    ("concurrency", .obj [("maxAdvancedRuns", .num policy.maxAdvancedRuns),
      ("maxScripts", .num policy.maxScripts)])]

def hashP2pStaticPolicy (numberText : Rat → String) (policy : P2pStaticPolicy) : String :=
  stableHash (stableStringify numberText (canonicalizeP2pStaticPolicy policy))

/-! ## Values that agree -/

theorem canonicalizeItems_eq_map (items : List Json) :
    canonicalizeItems items = items.map canonicalize := by
  induction items with
  | nil => rfl
  | cons item rest ih => rw [canonicalizeItems, ih, List.map_cons]

theorem canonicalizeMembers_eq_map (members : List (String × Json)) :
    canonicalizeMembers members =
      members.map fun member => (member.1, canonicalize member.2) := by
  induction members with
  | nil => rfl
  | cons member rest ih => rw [canonicalizeMembers, ih, List.map_cons]

theorem sortMembers_eq_of_perm {left right : List (String × Json)}
    (distinct : (left.map Prod.fst).Nodup) (same : left.Perm right) :
    sortMembers left = sortMembers right := by
  apply insertionSort_eq_of_perm _ _ _ same
  · intro first second
    rw [not_lt, not_lt]
    exact le_total _ _
  · intro first second third before after
    rw [not_lt] at before after ⊢
    exact before.trans after
  · intro first isFirst second isSecond before after
    rw [not_lt] at before after
    exact List.inj_on_of_nodup_map distinct isFirst isSecond
      (Utf16.utf16_injective (le_antisymm before after))

theorem map_members_perm {left right : List (String × Json)}
    (distinct : (left.map Prod.fst).Nodup)
    (names : (left.map Prod.fst).Perm (right.map Prod.fst)) {image : Json → Json}
    (values : ∀ name leftValue rightValue, (name, leftValue) ∈ left →
      (name, rightValue) ∈ right → image leftValue = image rightValue) :
    (left.map fun member => (member.1, image member.2)).Perm
      (right.map fun member => (member.1, image member.2)) := by
  have sub : ∀ {left right : List (String × Json)},
      (left.map Prod.fst).Perm (right.map Prod.fst) →
      (∀ name leftValue rightValue, (name, leftValue) ∈ left → (name, rightValue) ∈ right →
        image leftValue = image rightValue) →
      ∀ member, member ∈ left.map (fun member => (member.1, image member.2)) →
        member ∈ right.map fun member => (member.1, image member.2) := by
    intro left right names values member listed
    obtain ⟨⟨name, leftValue⟩, isLeft, rfl⟩ := List.mem_map.mp listed
    obtain ⟨⟨_, rightValue⟩, isRight, rfl⟩ := List.mem_map.mp
      (names.mem_iff.mp (List.mem_map_of_mem (f := Prod.fst) isLeft))
    exact List.mem_map.mpr ⟨_, isRight, by rw [values _ _ _ isLeft isRight]⟩
  have distinctImages : ∀ {members : List (String × Json)}, (members.map Prod.fst).Nodup →
      (members.map fun member => (member.1, image member.2)).Nodup := by
    intro members distinct
    apply List.Nodup.of_map Prod.fst
    rw [List.map_map]
    exact distinct
  rw [List.perm_ext_iff_of_nodup (distinctImages distinct)
    (distinctImages (names.nodup_iff.mp distinct))]
  intro member
  constructor
  · exact sub names values member
  · exact sub names.symm (fun name _ _ isRight isLeft => (values name _ _ isLeft isRight).symm)
      member

theorem canonicalize_eq_of_agree {left right : Json} (agree : Agree left right) :
    canonicalize left = canonicalize right := by
  induction agree with
  | same => rfl
  | @arr left right sizes items ih =>
    rw [canonicalize, canonicalize, canonicalizeItems_eq_map, canonicalizeItems_eq_map]
    congr 1
    apply List.ext_getElem
    · simpa using sizes
    · intro index inLeft inRight
      rw [List.length_map] at inLeft inRight
      rw [List.getElem_map, List.getElem_map]
      exact ih index _ _ (List.getElem?_eq_getElem inLeft) (List.getElem?_eq_getElem inRight)
  | obj distinct names values ih =>
    rw [canonicalize, canonicalize, canonicalizeMembers_eq_map, canonicalizeMembers_eq_map]
    rw [sortMembers_eq_of_perm (by rw [List.map_map]; exact distinct)
      (map_members_perm distinct names ih)]

theorem stableStringify_eq_of_agree (numberText : Rat → String) {left right : Json}
    (agree : Agree left right) : stableStringify numberText left = stableStringify numberText right :=
  congrArg (stringify numberText) (canonicalize_eq_of_agree agree)

end ImCodes.Workflow
