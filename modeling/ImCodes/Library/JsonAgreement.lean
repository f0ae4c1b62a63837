import ImCodes.Library.JsonForms

/-!
# Values that agree

Two values agree if they differ at most in the order in which their objects hold their members.
Whatever is read of the one by name agrees with what is read of the other.
-/

set_option autoImplicit false

namespace ImCodes.Library.Json

/-- The same value but for the order of members, at any depth. -/
inductive Agree : Json → Json → Prop
  | same (value : Json) : Agree value value
  | arr {left right : List Json} (sizes : left.length = right.length)
      (items : ∀ (index : Nat) leftItem rightItem, left[index]? = some leftItem →
        right[index]? = some rightItem → Agree leftItem rightItem) : Agree (.arr left) (.arr right)
  | obj {left right : List (String × Json)} (distinct : (left.map Prod.fst).Nodup)
      (names : (left.map Prod.fst).Perm (right.map Prod.fst))
      (values : ∀ name leftValue rightValue, (name, leftValue) ∈ left →
        (name, rightValue) ∈ right → Agree leftValue rightValue) : Agree (.obj left) (.obj right)

/-- A member of an object whose names are distinct is what is read by its name. -/
theorem field?_eq_some_iff {members : List (String × Json)}
    (distinct : (members.map Prod.fst).Nodup) {name : String} {value : Json} :
    (Json.obj members).field? name = some value ↔ (name, value) ∈ members := by
  unfold field?
  rw [Option.map_eq_some_iff]
  constructor
  · rintro ⟨member, found, rfl⟩
    have named : member.1 = name := by simpa using List.find?_some found
    rw [← named]
    exact List.mem_of_find?_eq_some found
  · intro listed
    refine ⟨(name, value), ?_, rfl⟩
    cases found : members.find? fun member => member.1 = name with
    | none =>
      exact absurd (decide_eq_true rfl) (List.find?_eq_none.mp found (name, value) listed)
    | some member =>
      have named : member.1 = name := by simpa using List.find?_some found
      exact congrArg some (List.inj_on_of_nodup_map distinct (List.mem_of_find?_eq_some found)
        listed named)

section
variable {left right : Json}

theorem Agree.arr_iff {lefts rights : List Json} :
    Agree (.arr lefts) (.arr rights) ↔ List.Forall₂ Agree lefts rights := by
  rw [List.forall₂_iff_get]
  constructor
  · intro agree
    cases agree with
    | same => exact ⟨rfl, fun index _ _ => .same _⟩
    | arr sizes items =>
      exact ⟨sizes, fun index inLeft inRight => items index _ _ (List.getElem?_eq_getElem inLeft)
        (List.getElem?_eq_getElem inRight)⟩
  · rintro ⟨sizes, items⟩
    apply Agree.arr sizes
    intro index leftItem rightItem isLeft isRight
    obtain ⟨inLeft, rfl⟩ := List.getElem?_eq_some_iff.mp isLeft
    obtain ⟨inRight, rfl⟩ := List.getElem?_eq_some_iff.mp isRight
    exact items index inLeft inRight

/-- What is read by a name is related as members of that name are. -/
theorem rel_field? {lefts rights : List (String × Json)} {related : String → Json → Json → Prop}
    (distinct : (lefts.map Prod.fst).Nodup)
    (names : (lefts.map Prod.fst).Perm (rights.map Prod.fst))
    (values : ∀ name leftValue rightValue, (name, leftValue) ∈ lefts →
      (name, rightValue) ∈ rights → related name leftValue rightValue) (name : String) :
    Option.Rel (related name) ((Json.obj lefts).field? name) ((Json.obj rights).field? name) := by
  have distinctRight := names.nodup_iff.mp distinct
  cases isLeft : (Json.obj lefts).field? name with
  | some leftValue =>
    have listed := (field?_eq_some_iff distinct).mp isLeft
    obtain ⟨⟨_, rightValue⟩, isMember, rfl⟩ := List.mem_map.mp
      (names.mem_iff.mp (List.mem_map_of_mem (f := Prod.fst) listed))
    rw [(field?_eq_some_iff distinctRight).mpr isMember]
    exact .some (values _ _ _ listed isMember)
  | none =>
    cases isRight : (Json.obj rights).field? name with
    | none => exact .none
    | some rightValue =>
      have isMember := (field?_eq_some_iff distinctRight).mp isRight
      obtain ⟨⟨_, leftValue⟩, listed, rfl⟩ := List.mem_map.mp
        (names.mem_iff.mpr (List.mem_map_of_mem (f := Prod.fst) isMember))
      rw [(field?_eq_some_iff distinct).mpr listed] at isLeft
      cases isLeft

theorem rel_agree_refl (value : Option Json) : Option.Rel Agree value value := by
  cases value with
  | none => exact .none
  | some value => exact .some (.same value)

theorem Agree.field? (agree : Agree left right) (name : String) :
    Option.Rel Agree (left.field? name) (right.field? name) := by
  cases agree with
  | same => exact rel_agree_refl _
  | arr => exact .none
  | obj distinct names values => exact rel_field? distinct names values name

/-- Members of distinct names, related one by one, are related by their names. -/
theorem members_of_forall₂ {lefts rights : List (String × Json)}
    {related : String → Json → Json → Prop} (distinct : (lefts.map Prod.fst).Nodup)
    (members : List.Forall₂ (fun left right => left.1 = right.1 ∧ related left.1 left.2 right.2)
      lefts rights) :
    (lefts.map Prod.fst).Perm (rights.map Prod.fst) ∧
      ∀ name leftValue rightValue, (name, leftValue) ∈ lefts → (name, rightValue) ∈ rights →
        related name leftValue rightValue := by
  have names : lefts.map Prod.fst = rights.map Prod.fst := by
    clear distinct
    induction members with
    | nil => rfl
    | cons isRelated _ ih => rw [List.map_cons, List.map_cons, isRelated.1, ih]
  have partner : ∀ left ∈ lefts, ∃ right ∈ rights,
      left.1 = right.1 ∧ related left.1 left.2 right.2 := by
    clear distinct names
    induction members with
    | nil => exact nofun
    | @cons first other lefts rights isRelated _ ih =>
      intro left listed
      rcases List.mem_cons.mp listed with rfl | later
      · exact ⟨other, List.mem_cons_self, isRelated⟩
      · obtain ⟨right, isRight, isRelated⟩ := ih left later
        exact ⟨right, List.mem_cons_of_mem _ isRight, isRelated⟩
  refine ⟨names ▸ List.Perm.refl _, ?_⟩
  intro name leftValue rightValue isLeft isRight
  obtain ⟨right, isPartner, sameName, isRelated⟩ := partner _ isLeft
  rw [names] at distinct
  have isSame := List.inj_on_of_nodup_map distinct isPartner isRight sameName.symm
  rwa [isSame] at isRelated

theorem Agree.obj_of_forall₂ {lefts rights : List (String × Json)}
    (distinct : (lefts.map Prod.fst).Nodup)
    (members : List.Forall₂ (fun left right => left.1 = right.1 ∧ Agree left.2 right.2)
      lefts rights) : Agree (.obj lefts) (.obj rights) := by
  obtain ⟨names, values⟩ := @members_of_forall₂ lefts rights (fun _ => Agree) distinct members
  exact .obj distinct names values

theorem Agree.truthy (agree : Agree left right) : left.truthy = right.truthy := by
  cases agree with
  | same => rfl
  | arr => rfl
  | obj => rfl

theorem Agree.eq_of_scalar (agree : Agree left right)
    (notArr : ∀ items, left ≠ .arr items) (notObj : ∀ members, left ≠ .obj members) :
    right = left := by
  cases agree with
  | same => rfl
  | arr => exact absurd rfl (notArr _)
  | obj => exact absurd rfl (notObj _)

@[simp] theorem Agree.str_iff {text : String} : Agree (.str text) right ↔ right = .str text :=
  ⟨fun agree => agree.eq_of_scalar nofun nofun, fun same => same ▸ .same _⟩

@[simp] theorem Agree.null_iff : Agree .null right ↔ right = .null :=
  ⟨fun agree => agree.eq_of_scalar nofun nofun, fun same => same ▸ .same _⟩

theorem Agree.symm (agree : Agree left right) : Agree right left := by
  induction agree with
  | same value => exact .same value
  | arr sizes items ih =>
    exact .arr sizes.symm fun index _ _ isRight isLeft => ih index _ _ isLeft isRight
  | obj distinct names values ih =>
    exact .obj (names.nodup_iff.mp distinct) names.symm fun name _ _ isRight isLeft =>
      ih name _ _ isLeft isRight

theorem Agree.eq_str_iff (agree : Agree left right) {text : String} :
    left = .str text ↔ right = .str text := by
  constructor
  · rintro rfl
    exact Agree.str_iff.mp agree
  · rintro rfl
    exact Agree.str_iff.mp agree.symm

theorem Agree.eq_null_iff (agree : Agree left right) : left = .null ↔ right = .null := by
  constructor
  · rintro rfl
    exact Agree.null_iff.mp agree
  · rintro rfl
    exact Agree.null_iff.mp agree.symm

end

/-! ## Properties that may be absent -/

section
variable {left right : Option Json}

theorem agree_filter (agree : Option.Rel Agree left right) {keeps : Json → Bool}
    (alike : ∀ left right, Agree left right → keeps left = keeps right) :
    Option.Rel Agree (left.filter keeps) (right.filter keeps) := by
  cases agree with
  | none => exact .none
  | @some leftValue rightValue agree =>
    rw [Option.filter_some, Option.filter_some, ← alike _ _ agree]
    cases keeps leftValue with
    | true => exact .some agree
    | false => exact .none

theorem agree_present (agree : Option.Rel Agree left right) :
    Option.Rel Agree (present left) (present right) :=
  agree_filter agree fun _ _ agree => decide_eq_decide.mpr (not_congr agree.eq_null_iff)

theorem agree_truthy? (agree : Option.Rel Agree left right) :
    Option.Rel Agree (truthy? left) (truthy? right) :=
  agree_filter agree fun _ _ agree => agree.truthy

theorem agree_eq_str_iff (agree : Option.Rel Agree left right) {text : String} :
    left = some (.str text) ↔ right = some (.str text) := by
  cases agree with
  | none => simp
  | some agree => simpa using agree.eq_str_iff

end

end ImCodes.Library.Json
