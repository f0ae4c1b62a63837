import ImCodes.Library.Json

/-!
# The values of a tree

Every value of a JSON tree with the depth at which a traversal places it, the depth being
computed from the one of its holder, and for a member from its name. The texts of a tree, strings and names alike,
can be rewritten; the places of the values follow.
-/

set_option autoImplicit false

namespace ImCodes.Library.Json

/-- Where a traversal places the items and the members of what it holds. -/
structure Placing where
  item : Nat → Nat
  member : String → Nat → Nat

def Placing.nested : Placing where
  item depth := depth + 1
  member _ depth := depth + 1

mutual

/-- The values of a tree in the order of their texts, each with its depth. -/
def places (placing : Placing) (depth : Nat) : Json → List (Nat × Json)
  | .arr items => (depth, .arr items) :: itemPlaces placing depth items
  | .obj members => (depth, .obj members) :: memberPlaces placing depth members
  | value => [(depth, value)]

def itemPlaces (placing : Placing) (depth : Nat) : List Json → List (Nat × Json)
  | [] => []
  | item :: rest => places placing (placing.item depth) item ++ itemPlaces placing depth rest

def memberPlaces (placing : Placing) (depth : Nat) : List (String × Json) → List (Nat × Json)
  | [] => []
  | (key, value) :: rest =>
    places placing (placing.member key depth) value ++ memberPlaces placing depth rest

end

def values (value : Json) : List Json := (places .nested 0 value).map Prod.snd

mutual

/-- Every string and every name rewritten. -/
def mapText (rewrite : String → String) : Json → Json
  | .str text => .str (rewrite text)
  | .arr items => .arr (mapItems rewrite items)
  | .obj members => .obj (mapMembers rewrite members)
  | value => value

def mapItems (rewrite : String → String) : List Json → List Json
  | [] => []
  | item :: rest => mapText rewrite item :: mapItems rewrite rest

def mapMembers (rewrite : String → String) : List (String × Json) → List (String × Json)
  | [] => []
  | (key, value) :: rest => (rewrite key, mapText rewrite value) :: mapMembers rewrite rest

end

/-! ## Places -/

section Places

variable {placing other : Placing}

mutual

theorem map_snd_places (depth otherDepth : Nat) (value : Json) :
    (places placing depth value).map Prod.snd = (places other otherDepth value).map Prod.snd := by
  cases value with
  | arr items => simp [places, map_snd_itemPlaces depth otherDepth items]
  | obj members => simp [places, map_snd_memberPlaces depth otherDepth members]
  | null => rfl
  | bool _ => rfl
  | num _ => rfl
  | str _ => rfl

theorem map_snd_itemPlaces (depth otherDepth : Nat) (items : List Json) :
    (itemPlaces placing depth items).map Prod.snd =
      (itemPlaces other otherDepth items).map Prod.snd := by
  cases items with
  | nil => rfl
  | cons item rest =>
    simp only [itemPlaces, List.map_append]
    rw [map_snd_places _ (other.item otherDepth) item, map_snd_itemPlaces depth otherDepth rest]

theorem map_snd_memberPlaces (depth otherDepth : Nat) (members : List (String × Json)) :
    (memberPlaces placing depth members).map Prod.snd =
      (memberPlaces other otherDepth members).map Prod.snd := by
  cases members with
  | nil => rfl
  | cons member rest =>
    obtain ⟨key, value⟩ := member
    simp only [memberPlaces, List.map_append]
    rw [map_snd_places _ (other.member key otherDepth) value,
      map_snd_memberPlaces depth otherDepth rest]

end

theorem values_eq (depth : Nat) (value : Json) :
    values value = (places placing depth value).map Prod.snd :=
  map_snd_places 0 depth value

/-- A placing that goes at least as deep everywhere. -/
structure Placing.AtMost (placing other : Placing) : Prop where
  item : ∀ {depth deeper : Nat}, depth ≤ deeper → placing.item depth ≤ other.item deeper
  member : ∀ (key : String) {depth deeper : Nat}, depth ≤ deeper →
    placing.member key depth ≤ other.member key deeper

mutual

theorem places_deeper (atMost : placing.AtMost other) {depth deeper : Nat} (below : depth ≤ deeper)
    (value : Json) {place : Nat × Json} (isPlace : place ∈ places placing depth value) :
    ∃ lower, (lower, place.2) ∈ places other deeper value ∧ place.1 ≤ lower := by
  cases value with
  | arr items =>
    rcases List.mem_cons.mp isPlace with rfl | inside
    · exact ⟨deeper, List.mem_cons_self, below⟩
    · obtain ⟨lower, isLower, atLeast⟩ := itemPlaces_deeper atMost below items inside
      exact ⟨lower, List.mem_cons_of_mem _ isLower, atLeast⟩
  | obj members =>
    rcases List.mem_cons.mp isPlace with rfl | inside
    · exact ⟨deeper, List.mem_cons_self, below⟩
    · obtain ⟨lower, isLower, atLeast⟩ := memberPlaces_deeper atMost below members inside
      exact ⟨lower, List.mem_cons_of_mem _ isLower, atLeast⟩
  | null =>
    cases List.mem_singleton.mp isPlace
    exact ⟨deeper, List.mem_cons_self, below⟩
  | bool _ =>
    cases List.mem_singleton.mp isPlace
    exact ⟨deeper, List.mem_cons_self, below⟩
  | num _ =>
    cases List.mem_singleton.mp isPlace
    exact ⟨deeper, List.mem_cons_self, below⟩
  | str _ =>
    cases List.mem_singleton.mp isPlace
    exact ⟨deeper, List.mem_cons_self, below⟩

theorem itemPlaces_deeper (atMost : placing.AtMost other) {depth deeper : Nat}
    (below : depth ≤ deeper) (items : List Json) {place : Nat × Json}
    (isPlace : place ∈ itemPlaces placing depth items) :
    ∃ lower, (lower, place.2) ∈ itemPlaces other deeper items ∧ place.1 ≤ lower := by
  cases items with
  | nil => cases isPlace
  | cons item rest =>
    rcases List.mem_append.mp isPlace with first | later
    · obtain ⟨lower, isLower, atLeast⟩ := places_deeper atMost (atMost.item below) item first
      exact ⟨lower, List.mem_append_left _ isLower, atLeast⟩
    · obtain ⟨lower, isLower, atLeast⟩ := itemPlaces_deeper atMost below rest later
      exact ⟨lower, List.mem_append_right _ isLower, atLeast⟩

theorem memberPlaces_deeper (atMost : placing.AtMost other) {depth deeper : Nat}
    (below : depth ≤ deeper) (members : List (String × Json)) {place : Nat × Json}
    (isPlace : place ∈ memberPlaces placing depth members) :
    ∃ lower, (lower, place.2) ∈ memberPlaces other deeper members ∧ place.1 ≤ lower := by
  cases members with
  | nil => cases isPlace
  | cons member rest =>
    obtain ⟨key, value⟩ := member
    rcases List.mem_append.mp isPlace with first | later
    · obtain ⟨lower, isLower, atLeast⟩ :=
        places_deeper atMost (atMost.member key below) value first
      exact ⟨lower, List.mem_append_left _ isLower, atLeast⟩
    · obtain ⟨lower, isLower, atLeast⟩ := memberPlaces_deeper atMost below rest later
      exact ⟨lower, List.mem_append_right _ isLower, atLeast⟩

end

end Places

/-! ## Rewriting texts -/

section Rewriting

variable {rewrite : String → String} {placing : Placing}

def Placing.after (placing : Placing) (rewrite : String → String) : Placing where
  item := placing.item
  member key := placing.member (rewrite key)

mutual

/-- Rewritten values stand where they stood. -/
theorem places_mapText (depth : Nat) (value : Json) :
    places placing depth (mapText rewrite value) =
      (places (placing.after rewrite) depth value).map fun place =>
        (place.1, mapText rewrite place.2) := by
  cases value with
  | arr items => simp only [mapText, places, List.map_cons, itemPlaces_mapItems depth items]
  | obj members =>
    simp only [mapText, places, List.map_cons, memberPlaces_mapMembers depth members]
  | str _ => rfl
  | null => rfl
  | bool _ => rfl
  | num _ => rfl

theorem itemPlaces_mapItems (depth : Nat) (items : List Json) :
    itemPlaces placing depth (mapItems rewrite items) =
      (itemPlaces (placing.after rewrite) depth items).map fun place =>
        (place.1, mapText rewrite place.2) := by
  cases items with
  | nil => rfl
  | cons item rest =>
    simp only [mapItems, itemPlaces, List.map_append, places_mapText _ item,
      itemPlaces_mapItems depth rest]
    rfl

theorem memberPlaces_mapMembers (depth : Nat) (members : List (String × Json)) :
    memberPlaces placing depth (mapMembers rewrite members) =
      (memberPlaces (placing.after rewrite) depth members).map fun place =>
        (place.1, mapText rewrite place.2) := by
  cases members with
  | nil => rfl
  | cons member rest =>
    obtain ⟨key, value⟩ := member
    simp only [mapMembers, memberPlaces, List.map_append, places_mapText _ value,
      memberPlaces_mapMembers depth rest]
    rfl

end

mutual

theorem mapText_mapText (again : String → String) (value : Json) :
    mapText again (mapText rewrite value) = mapText (again ∘ rewrite) value := by
  cases value with
  | arr items => simp only [mapText, mapItems_mapItems again items]
  | obj members => simp only [mapText, mapMembers_mapMembers again members]
  | str _ => rfl
  | null => rfl
  | bool _ => rfl
  | num _ => rfl

theorem mapItems_mapItems (again : String → String) (items : List Json) :
    mapItems again (mapItems rewrite items) = mapItems (again ∘ rewrite) items := by
  cases items with
  | nil => rfl
  | cons item rest => simp only [mapItems, mapText_mapText again item, mapItems_mapItems again rest]

theorem mapMembers_mapMembers (again : String → String) (members : List (String × Json)) :
    mapMembers again (mapMembers rewrite members) = mapMembers (again ∘ rewrite) members := by
  cases members with
  | nil => rfl
  | cons member rest =>
    obtain ⟨key, value⟩ := member
    simp only [mapMembers, mapText_mapText again value, mapMembers_mapMembers again rest,
      Function.comp_apply]

end

theorem map_fst_mapMembers (members : List (String × Json)) :
    (mapMembers rewrite members).map Prod.fst = members.map fun member => rewrite member.1 := by
  induction members with
  | nil => rfl
  | cons member rest ih =>
    obtain ⟨key, value⟩ := member
    rw [mapMembers, List.map_cons, List.map_cons, ih]

end Rewriting

end ImCodes.Library.Json
