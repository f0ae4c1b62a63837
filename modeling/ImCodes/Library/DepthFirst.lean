import Mathlib.Data.Finset.Card
import Mathlib.Logic.Relation

/-!
# Graphs without cycles and a search for one

A graph given by the successors of its nodes; a node without an entry is missing. The search
goes through what a list of nodes leads to, depth first, with a frame on its stack for entering
a node and one for leaving it, and fails where it finds a cycle, a missing node, a node it is to
avoid, or more nodes than it may look at.
-/

set_option autoImplicit false

namespace ImCodes.Library

open Relation

variable {Node : Type}

/-! ## Cycles -/

def Acyclic (edge : Node → Node → Prop) : Prop :=
  ∀ node, ¬ TransGen edge node node

def addEdges (edge : Node → Node → Prop) (source : Node) (targets : List Node) :
    Node → Node → Prop :=
  fun node next => edge node next ∨ node = source ∧ next ∈ targets

section
variable {edge : Node → Node → Prop} {source : Node} {targets : List Node}

theorem Acyclic.mono {fewer : Node → Node → Prop} (acyclic : Acyclic edge)
    (sub : ∀ node next, fewer node next → edge node next) : Acyclic fewer := by
  intro node cycle
  exact acyclic node (TransGen.mono sub _ _ cycle)

/-- A path with the new edges is an old one, or goes on from one of them by old edges. -/
private theorem addEdges_path {first last : Node}
    (path : TransGen (addEdges edge source targets) first last) :
    TransGen edge first last ∨ (ReflTransGen (addEdges edge source targets) first source ∧
      ∃ target ∈ targets, ReflTransGen edge target last) := by
  induction path with
  | single step =>
    rcases step with old | ⟨rfl, member⟩
    · exact .inl (.single old)
    · exact .inr ⟨.refl, _, member, .refl⟩
  | tail path step ih =>
    rcases step with old | ⟨rfl, member⟩
    · rcases ih with kept | ⟨toSource, target, member, kept⟩
      · exact .inl (kept.tail old)
      · exact .inr ⟨toSource, target, member, kept.tail old⟩
    · exact .inr ⟨path.to_reflTransGen, _, member, .refl⟩

/-- New edges close a cycle exactly if one of them leads back to their source. -/
theorem addEdges_acyclic_iff (acyclic : Acyclic edge) :
    Acyclic (addEdges edge source targets) ↔
      ∀ target ∈ targets, ¬ ReflTransGen edge target source := by
  constructor
  · intro still target member path
    have old : ∀ node next, edge node next → addEdges edge source targets node next :=
      fun _ _ => .inl
    exact still source (TransGen.head' (.inr ⟨rfl, member⟩) (ReflTransGen.mono old _ _ path))
  · intro apart node cycle
    rcases addEdges_path cycle with old | ⟨toSource, target, member, back⟩
    · exact acyclic node old
    · rcases reflTransGen_iff_eq_or_transGen.mp toSource with rfl | path
      · exact apart target member back
      · rcases addEdges_path path with old | ⟨_, other, otherMember, there⟩
        · exact apart target member (back.trans old.to_reflTransGen)
        · exact apart other otherMember there

end

/-! ## The search -/

def successorEdge (next : Node → Option (List Node)) (node target : Node) : Prop :=
  ∃ successors, next node = some successors ∧ target ∈ successors

structure Frame (Node : Type) where
  id : Node
  exit : Bool
deriving DecidableEq

inductive SearchError where
  | cyclic | tooLarge | missing
deriving DecidableEq, Repr

/-- A search under way: no node is both being visited and done. The first frame is the top of
the stack. -/
structure Search (Node : Type) where
  stack : List (Frame Node)
  visited : Finset Node
  visiting : Finset Node
  apart : Disjoint visiting visited

namespace Search

def size (search : Search Node) : Nat := search.visited.card + search.visiting.card

def push (ids : List Node) (stack : List (Frame Node)) : List (Frame Node) :=
  (ids.map (⟨·, false⟩)).reverse ++ stack

def start (ids : List Node) : Search Node where
  stack := push ids []
  visited := ∅
  visiting := ∅
  apart := Finset.disjoint_empty_left _

def drop (search : Search Node) (rest : List (Frame Node)) : Search Node :=
  { search with stack := rest }

section
variable [DecidableEq Node]

/-- The node's successors are through. -/
def leave (search : Search Node) (id : Node) (rest : List (Frame Node)) : Search Node where
  stack := rest
  visited := insert id search.visited
  visiting := search.visiting.erase id
  apart := by
    rw [Finset.disjoint_insert_right]
    exact ⟨Finset.notMem_erase id _, search.apart.mono_left (Finset.erase_subset id _)⟩

def enter (search : Search Node) (id : Node) (rest : List (Frame Node)) (successors : List Node)
    (fresh : id ∉ search.visited) : Search Node where
  stack := push successors (⟨id, true⟩ :: rest)
  visited := search.visited
  visiting := insert id search.visiting
  apart := by
    rw [Finset.disjoint_insert_left]
    exact ⟨fresh, search.apart⟩

theorem size_leave (search : Search Node) (id : Node) (rest : List (Frame Node)) :
    search.size ≤ (search.leave id rest).size := by
  unfold size leave
  dsimp only
  by_cases open_ : id ∈ search.visiting
  · have fresh : id ∉ search.visited := Finset.disjoint_left.mp search.apart open_
    rw [Finset.card_insert_of_notMem fresh, Finset.card_erase_of_mem open_]
    have positive := Finset.card_pos.mpr ⟨id, open_⟩
    omega
  · rw [Finset.erase_eq_of_notMem open_]
    exact Nat.add_le_add_right (Finset.card_le_card (Finset.subset_insert _ _)) _

theorem size_enter {search : Search Node} {id : Node} {rest : List (Frame Node)}
    {successors : List Node} (fresh : id ∉ search.visited) (unopened : id ∉ search.visiting) :
    (search.enter id rest successors fresh).size = search.size + 1 := by
  unfold size enter
  dsimp only
  rw [Finset.card_insert_of_notMem unopened]
  omega

/-- The search to its end: the nodes it went through, or why it failed. It ends on every graph,
as it enters no node twice and no more nodes than it may. -/
def result (next : Node → Option (List Node)) (avoid : Node) (limit : Nat)
    (search : Search Node) : Except SearchError (Finset Node) :=
  match _framed : search.stack with
  | [] => .ok search.visited
  | ⟨id, true⟩ :: rest => result next avoid limit (search.leave id rest)
  | ⟨id, false⟩ :: rest =>
    if _back : id = avoid ∨ id ∈ search.visiting then .error .cyclic
    else if through : id ∈ search.visited then result next avoid limit (search.drop rest)
    else if _full : limit ≤ search.size then .error .tooLarge
    else
      match next id with
      | none => .error .missing
      | some successors => result next avoid limit (search.enter id rest successors through)
termination_by (limit - search.size, search.stack.length)
decreasing_by
  · have grows := size_leave search id rest
    have shorter : (search.leave id rest).stack.length < search.stack.length := by
      rw [_framed]
      exact Nat.lt_succ_self _
    rcases Nat.lt_or_eq_of_le (Nat.sub_le_sub_left grows limit) with less | same
    · exact Prod.Lex.left _ _ less
    · rw [same]
      exact Prod.Lex.right _ shorter
  · have shorter : (search.drop rest).stack.length < search.stack.length := by
      rw [_framed]
      exact Nat.lt_succ_self _
    exact Prod.Lex.right _ shorter
  · have grows : (search.enter id rest successors through).size = search.size + 1 :=
      size_enter through fun open_ => _back (.inr open_)
    apply Prod.Lex.left
    omega

end

/-! ## What it finds -/

section
variable (next : Node → Option (List Node)) (avoid : Node) (limit : Nat) (roots : List Node)

def Reached (node : Node) : Prop := ∃ root ∈ roots, ReflTransGen (successorEdge next) root node

def Fails : Prop :=
  (∃ node, Reached next roots node ∧ next node = none) ∨
  (∃ nodes : Finset Node, limit < nodes.card ∧ ∀ node ∈ nodes, Reached next roots node) ∨
  ∃ node, Reached next roots node ∧ (node = avoid ∨ TransGen (successorEdge next) node node)

/-- Of the frames under `above`: a node that is still open leads to everything above its frame,
each of its successors is through or above, and it is open once. -/
def Fits (visited : Finset Node) : List Node → List (Frame Node) → Prop
  | _, [] => True
  | above, frame :: rest =>
    (frame.exit = true →
      (∀ node ∈ above, TransGen (successorEdge next) frame.id node) ∧
      (∀ node, successorEdge next frame.id node → node ∈ visited ∨ node ∈ above) ∧
      ⟨frame.id, true⟩ ∉ rest) ∧
    Fits visited (frame.id :: above) rest

/-- What holds of a search under way. -/
structure Sound (search : Search Node) : Prop where
  fits : Fits next search.visited [] search.stack
  opened : ∀ node, node ∈ search.visiting ↔ ⟨node, true⟩ ∈ search.stack
  reached : ∀ frame ∈ search.stack, Reached next roots frame.id
  entered : ∀ node, node ∈ search.visiting ∨ node ∈ search.visited →
    Reached next roots node ∧ node ≠ avoid ∧ (next node).isSome
  covered : ∀ root ∈ roots, root ∈ search.visited ∨ ∃ frame ∈ search.stack, frame.id = root
  closed : ∀ node ∈ search.visited, ∀ target, successorEdge next node target →
    target ∈ search.visited
  uncyclic : ∀ node ∈ search.visited, ¬ TransGen (successorEdge next) node node
  bounded : search.size ≤ limit

end

section
variable {next : Node → Option (List Node)} {avoid : Node} {limit : Nat} {roots : List Node}

theorem Reached.step {node target : Node} (reached : Reached next roots node)
    (edge : successorEdge next node target) : Reached next roots target := by
  obtain ⟨root, member, path⟩ := reached
  exact ⟨root, member, path.tail edge⟩

theorem Fits.mono {visited later : Finset Node} {above fewer : List Node}
    {stack : List (Frame Node)} (grows : visited ⊆ later)
    (led : ∀ node ∈ fewer, ∃ origin ∈ above, ReflTransGen (successorEdge next) origin node)
    (kept : ∀ node ∈ above, node ∈ later ∨ node ∈ fewer)
    (fits : Fits next visited above stack) : Fits next later fewer stack := by
  induction stack generalizing above fewer with
  | nil => trivial
  | cons frame rest ih =>
    obtain ⟨atExit, below⟩ := fits
    constructor
    · intro exits
      obtain ⟨leads, through, once⟩ := atExit exits
      refine ⟨?_, ?_, once⟩
      · intro node member
        obtain ⟨origin, isAbove, path⟩ := led node member
        exact (leads origin isAbove).trans_left path
      · intro node edge
        rcases through node edge with done | isAbove
        · exact .inl (grows done)
        · exact kept node isAbove
    · apply ih _ _ below
      · intro node member
        rcases List.mem_cons.mp member with rfl | older
        · exact ⟨frame.id, by simp, .refl⟩
        · obtain ⟨origin, isAbove, path⟩ := led node older
          exact ⟨origin, by simp [isAbove], path⟩
      · intro node member
        rcases List.mem_cons.mp member with rfl | older
        · simp
        · rcases kept node older with done | still
          · exact .inl done
          · simp [still]

theorem fits_enters {visited : Finset Node} {above ids : List Node} {stack : List (Frame Node)} :
    Fits next visited above (ids.map (⟨·, false⟩) ++ stack) ↔
      Fits next visited (ids.reverse ++ above) stack := by
  induction ids generalizing above with
  | nil => rfl
  | cons id rest ih =>
    simp only [List.map_cons, List.cons_append, Fits, Bool.false_eq_true, false_implies,
      true_and, ih, List.reverse_cons, List.append_assoc, List.cons_append, List.nil_append]

theorem fits_push {visited : Finset Node} {above ids : List Node} {stack : List (Frame Node)} :
    Fits next visited above (push ids stack) ↔ Fits next visited (ids ++ above) stack := by
  unfold push
  rw [← List.map_reverse, fits_enters, List.reverse_reverse]

theorem Fits.leads {visited : Finset Node} {above : List Node} {stack : List (Frame Node)}
    (fits : Fits next visited above stack) {node target : Node}
    (open_ : (⟨node, true⟩ : Frame Node) ∈ stack) (isAbove : target ∈ above) :
    TransGen (successorEdge next) node target := by
  induction stack generalizing above with
  | nil => cases open_
  | cons frame rest ih =>
    rcases List.mem_cons.mp open_ with rfl | below
    · exact (fits.1 rfl).1 target isAbove
    · exact ih fits.2 below (by simp [isAbove])

theorem sound_start : Sound next avoid limit roots (start roots) where
  fits := by
    apply fits_push.mpr
    trivial
  opened node := by simp [start, push]
  reached frame member := by
    obtain ⟨root, isRoot, rfl⟩ : ∃ root ∈ roots, ⟨root, false⟩ = frame := by
      simpa [start, push] using member
    exact ⟨root, isRoot, .refl⟩
  entered node member := by simp [start] at member
  covered root member := by simp [start, push, member]
  closed node member := by simp [start] at member
  uncyclic node member := by simp [start] at member
  bounded := by simp [start, size]

variable {search : Search Node}

/-- A node that is through is passed over. -/
theorem Sound.drop {id : Node} {rest : List (Frame Node)}
    (sound : Sound next avoid limit roots search) (framed : search.stack = ⟨id, false⟩ :: rest)
    (through : id ∈ search.visited) : Sound next avoid limit roots (search.drop rest) where
  fits := by
    have fits := sound.fits
    rw [framed] at fits
    exact fits.2.mono (Finset.Subset.refl _) (by simp) (by simpa [Search.drop] using through)
  opened node := (sound.opened node).trans (by simp [framed, Search.drop])
  reached frame member :=
    sound.reached frame (by simp [framed, show frame ∈ rest from member])
  entered := sound.entered
  covered root member := by
    rcases sound.covered root member with done | ⟨frame, onStack, rfl⟩
    · exact .inl done
    · rw [framed] at onStack
      rcases List.mem_cons.mp onStack with rfl | below
      · exact .inl through
      · exact .inr ⟨frame, below, rfl⟩
  closed := sound.closed
  uncyclic := sound.uncyclic
  bounded := sound.bounded

theorem Sound.complete (sound : Sound next avoid limit roots search)
    (ended : search.stack = []) {node : Node} (reached : Reached next roots node) :
    node ∈ search.visited := by
  obtain ⟨root, member, path⟩ := reached
  induction path with
  | refl => simpa [ended] using sound.covered root member
  | tail _ step ih => exact sound.closed _ ih _ step

variable [DecidableEq Node]

/-- A node is left when its successors are through. -/
theorem Sound.leave {id : Node} {rest : List (Frame Node)}
    (sound : Sound next avoid limit roots search) (framed : search.stack = ⟨id, true⟩ :: rest) :
    Sound next avoid limit roots (search.leave id rest) := by
  have open_ : id ∈ search.visiting := (sound.opened id).mpr (by simp [framed])
  have fresh : id ∉ search.visited := Finset.disjoint_left.mp search.apart open_
  have fits := sound.fits
  rw [framed] at fits
  obtain ⟨-, through, once⟩ := fits.1 rfl
  have closed : ∀ target, successorEdge next id target → target ∈ search.visited := by
    intro target edge
    simpa using through target edge
  constructor
  · apply fits.2.mono (Finset.subset_insert id _)
    · simp
    · simp
  · intro node
    simp only [Search.leave, Finset.mem_erase, sound.opened, framed, List.mem_cons,
      Frame.mk.injEq, and_true]
    constructor
    · intro ⟨different, member⟩
      exact member.resolve_left different
    · intro member
      refine ⟨?_, .inr member⟩
      rintro rfl
      exact once member
  · intro frame member
    exact sound.reached frame (by simp [framed, show frame ∈ rest from member])
  · intro node member
    apply sound.entered
    simp only [Search.leave, Finset.mem_erase, Finset.mem_insert] at member
    rcases member with ⟨-, still⟩ | rfl | done
    · exact .inl still
    · exact .inl open_
    · exact .inr done
  · intro root member
    rcases sound.covered root member with done | ⟨frame, onStack, rfl⟩
    · simp [Search.leave, done]
    · rw [framed] at onStack
      rcases List.mem_cons.mp onStack with rfl | below
      · simp [Search.leave]
      · exact .inr ⟨frame, below, rfl⟩
  · intro node member target edge
    simp only [Search.leave, Finset.mem_insert] at member ⊢
    rcases member with rfl | done
    · exact .inr (closed target edge)
    · exact .inr (sound.closed node done target edge)
  · intro node member cycle
    simp only [Search.leave, Finset.mem_insert] at member
    rcases member with rfl | done
    · obtain ⟨target, edge, back⟩ := TransGen.head'_iff.mp cycle
      -- What is through leads only to what is through, and this node was not.
      have stays : ∀ last, ReflTransGen (successorEdge next) target last →
          last ∈ search.visited := by
        intro last path
        induction path with
        | refl => exact closed target edge
        | tail _ step ih => exact sound.closed _ ih _ step
      exact fresh (stays _ back)
    · exact sound.uncyclic node done cycle
  · have same : (search.leave id rest).size = search.size := by
      unfold size Search.leave
      dsimp only
      rw [Finset.card_insert_of_notMem fresh, Finset.card_erase_of_mem open_]
      have positive := Finset.card_pos.mpr ⟨id, open_⟩
      omega
    rw [same]
    exact sound.bounded

theorem Sound.enter {id : Node} {rest : List (Frame Node)} {successors : List Node}
    (sound : Sound next avoid limit roots search) (framed : search.stack = ⟨id, false⟩ :: rest)
    (unopened : id ∉ search.visiting) (fresh : id ∉ search.visited) (allowed : id ≠ avoid)
    (room : search.size < limit) (found : next id = some successors) :
    Sound next avoid limit roots (search.enter id rest successors fresh) := by
  have idReached : Reached next roots id := sound.reached ⟨id, false⟩ (by simp [framed])
  have edgeTo : ∀ target ∈ successors, successorEdge next id target :=
    fun target member => ⟨successors, found, member⟩
  have fits := sound.fits
  rw [framed] at fits
  constructor
  · apply fits_push.mpr
    constructor
    · intro _
      refine ⟨?_, ?_, ?_⟩
      · intro node member
        exact .single (edgeTo node (by simpa using member))
      · intro node ⟨others, there, member⟩
        rw [found] at there
        cases there
        simp [member]
      · intro onStack
        exact unopened ((sound.opened id).mpr (by simp [framed, onStack]))
    · apply fits.2.mono (Finset.Subset.refl _)
      · intro node member
        refine ⟨id, by simp, ?_⟩
        rcases List.mem_cons.mp member with rfl | below
        · exact .refl
        · exact .single (edgeTo node (by simpa using below))
      · simp
  · intro node
    simp [Search.enter, push, sound.opened, framed]
  · intro frame member
    simp only [Search.enter, push, List.mem_append, List.mem_reverse, List.mem_map,
      List.mem_cons] at member
    rcases member with ⟨target, isSuccessor, rfl⟩ | rfl | below
    · exact idReached.step (edgeTo target isSuccessor)
    · exact idReached
    · exact sound.reached frame (by simp [framed, below])
  · intro node member
    simp only [Search.enter, Finset.mem_insert] at member
    rcases member with (rfl | still) | done
    · exact ⟨idReached, allowed, by simp [found]⟩
    · exact sound.entered node (.inl still)
    · exact sound.entered node (.inr done)
  · intro root member
    rcases sound.covered root member with done | ⟨frame, onStack, rfl⟩
    · exact .inl done
    · rw [framed] at onStack
      right
      rcases List.mem_cons.mp onStack with rfl | below
      · exact ⟨⟨id, true⟩, by simp [Search.enter, push], rfl⟩
      · exact ⟨frame, by simp [Search.enter, push, below], rfl⟩
  · exact sound.closed
  · exact sound.uncyclic
  · rw [size_enter fresh unopened]
    exact room

/-- The search fails exactly if what the roots lead to has a missing node, is too large, holds
the node to avoid or a cycle. -/
theorem Sound.result_iff (sound : Sound next avoid limit roots search) :
    (∃ error, search.result next avoid limit = .error error) ↔
      Fails next avoid limit roots := by
  fun_induction Search.result next avoid limit search with
  | case1 search ended =>
    simp only [reduceCtorEq, exists_false, false_iff]
    rintro (⟨node, reached, missing⟩ | ⟨nodes, large, reached⟩ | ⟨node, reached, bad⟩)
    · have there := (sound.entered node (.inr (sound.complete ended reached))).2.2
      rw [missing] at there
      cases there
    · have inside : nodes ⊆ search.visited :=
        fun node member => sound.complete ended (reached node member)
      have few := Finset.card_le_card inside
      have bounded := sound.bounded
      unfold size at bounded
      omega
    · have done := sound.complete ended reached
      rcases bad with rfl | cycle
      · exact (sound.entered node (.inr done)).2.1 rfl
      · exact sound.uncyclic node done cycle
  | case2 search id rest framed ih => exact ih (sound.leave framed)
  | case3 search id rest framed back =>
    have reached : Reached next roots id := sound.reached ⟨id, false⟩ (by simp [framed])
    have fails : Fails next avoid limit roots := by
      right
      right
      refine ⟨id, reached, back.imp_right ?_⟩
      intro open_
      have fits := sound.fits
      rw [framed] at fits
      have onStack : (⟨id, true⟩ : Frame Node) ∈ rest := by
        simpa [framed] using (sound.opened id).mp open_
      exact fits.2.leads onStack (by simp)
    simp [fails]
  | case4 search id rest framed back through ih => exact ih (sound.drop framed through)
  | case5 search id rest framed back fresh full =>
    have reached : Reached next roots id := sound.reached ⟨id, false⟩ (by simp [framed])
    have fails : Fails next avoid limit roots := by
      right
      left
      have unopened : id ∉ search.visiting := fun open_ => back (.inr open_)
      refine ⟨insert id (search.visiting ∪ search.visited), ?_, ?_⟩
      · rw [Finset.card_insert_of_notMem (by simp [unopened, fresh]),
          Finset.card_union_of_disjoint search.apart]
        unfold size at full
        omega
      · intro node member
        rcases Finset.mem_insert.mp member with rfl | entered
        · exact reached
        · exact (sound.entered node (Finset.mem_union.mp entered)).1
    simp [fails]
  | case6 search id rest framed back fresh full missing =>
    have reached : Reached next roots id := sound.reached ⟨id, false⟩ (by simp [framed])
    have fails : Fails next avoid limit roots := .inl ⟨id, reached, missing⟩
    simp [fails]
  | case7 search id rest framed back fresh full successors found ih =>
    simp only [not_or] at back
    exact ih (sound.enter framed back.2 fresh back.1 (by omega) found)

end

end Search

end ImCodes.Library
