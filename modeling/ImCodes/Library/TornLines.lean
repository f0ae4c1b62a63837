import Mathlib.Data.List.Forall2
import Mathlib.Data.List.Basic

/-!
# Torn lines

A text in which some characters are torn is shown with two or more others in the place of each. The
lines stay the same in number, and a line is shown as it is exactly if nothing in it is torn.
-/

set_option autoImplicit false

namespace ImCodes.Library

def lastLines {β : Type} (count : Nat) (lines : List (List β)) : List (List β) :=
  (lines.filter fun line => !line.isEmpty).reverse.take count

theorem map_lastLines {β γ : Type} (f : β → γ) (count : Nat) (lines : List (List β)) :
    (lastLines count lines).map (List.map f) = lastLines count (lines.map (List.map f)) := by
  have same : (lines.map (List.map f)).filter (fun line => !line.isEmpty) =
      (lines.filter fun line => !line.isEmpty).map (List.map f) := by
    rw [List.filter_map]
    congr 1
    apply List.filter_congr
    intro line _
    cases line <;> rfl
  rw [lastLines, lastLines, same, List.map_take, List.map_reverse]

section
variable {α : Type} [DecidableEq α] {lineEnd : α}

/-! ## Splitting in two steps -/

theorem splitOn_first_free {chars line : List α} {lines : List (List α)}
    (split : chars.splitOn lineEnd = line :: lines) : lineEnd ∉ line := by
  induction chars generalizing line lines with
  | nil =>
    rw [List.splitOn_nil] at split
    cases split
    exact List.not_mem_nil
  | cons c chars ih =>
    rw [List.splitOn_cons_eq_if_modifyHead] at split
    split at split
    · cases split
      exact List.not_mem_nil
    · next other =>
        cases rest : chars.splitOn lineEnd with
        | nil => exact absurd rest (List.splitOn_ne_nil lineEnd chars)
        | cons first others =>
          rw [rest, List.modifyHead_cons] at split
          cases split
          intro member
          rcases List.mem_cons.mp member with same | later
          · exact other (by simp [same])
          · exact ih rest later

/-- What comes before the first line end of a text goes on with what is before the text. -/
theorem splitOn_append {before chars line : List α} {lines : List (List α)}
    (split : chars.splitOn lineEnd = line :: lines) :
    (before ++ chars).splitOn lineEnd = (before ++ line).splitOn lineEnd ++ lines := by
  induction before with
  | nil =>
    rw [List.nil_append, List.nil_append, split,
      List.splitOn_eq_singleton (splitOn_first_free split)]
    rfl
  | cons c before ih =>
    rw [List.cons_append, List.cons_append, List.splitOn_cons_eq_if_modifyHead,
      List.splitOn_cons_eq_if_modifyHead, ih]
    split
    · rfl
    · cases rest : (before ++ line).splitOn lineEnd with
      | nil => exact absurd rest (List.splitOn_ne_nil lineEnd _)
      | cons first others => rfl

theorem splitOn_free_append {before chars : List α} (free : lineEnd ∉ before) :
    (before ++ chars).splitOn lineEnd = (chars.splitOn lineEnd).modifyHead (before ++ ·) := by
  induction before with
  | nil =>
    cases rest : chars.splitOn lineEnd with
    | nil => exact absurd rest (List.splitOn_ne_nil lineEnd _)
    | cons first others => simp [rest]
  | cons c before ih =>
    have other : ¬(c == lineEnd) = true := fun same => free (by simp [eq_of_beq same])
    rw [List.cons_append, List.splitOn_cons_eq_if_modifyHead, if_neg other,
      ih fun member => free (List.mem_cons_of_mem c member)]
    cases rest : chars.splitOn lineEnd with
    | nil => exact absurd rest (List.splitOn_ne_nil lineEnd _)
    | cons first others => rfl

/-! ## Texts with torn characters -/

/-- What is shown of characters of which the marked ones are torn. -/
inductive Shows (lineEnd : α) : List (α × Bool) → List α → Prop
  | nil : Shows lineEnd [] []
  | kept (c : α) {entries : List (α × Bool)} {shown : List α} (rest : Shows lineEnd entries shown) :
      Shows lineEnd ((c, false) :: entries) (c :: shown)
  | torn (c : α) {entries : List (α × Bool)} {shown : List α} (instead : List α)
      (several : 2 ≤ instead.length) (noEnd : lineEnd ∉ instead) (isOther : (c == lineEnd) = false)
      (rest : Shows lineEnd entries shown) :
      Shows lineEnd ((c, true) :: entries) (instead ++ shown)

def markedLines (lineEnd : α) (entries : List (α × Bool)) : List (List (α × Bool)) :=
  entries.splitOnP fun entry => entry.1 == lineEnd

theorem Shows.append {front back : List (α × Bool)} {shownFront shownBack : List α}
    (first : Shows lineEnd front shownFront) (second : Shows lineEnd back shownBack) :
    Shows lineEnd (front ++ back) (shownFront ++ shownBack) := by
  induction first with
  | nil => exact second
  | kept c rest ih => exact .kept c ih
  | torn c instead several noEnd isOther rest ih =>
    rw [List.append_assoc]
    exact .torn c instead several noEnd isOther ih

theorem shows_of_unmarked {chars : List α} :
    Shows lineEnd (chars.map fun c => (c, false)) chars := by
  induction chars with
  | nil => exact .nil
  | cons c chars ih => exact .kept c ih

theorem Shows.isEmpty_eq {entries : List (α × Bool)} {shown : List α}
    (shows : Shows lineEnd entries shown) : entries.isEmpty = shown.isEmpty := by
  cases shows with
  | nil => rfl
  | kept c rest => rfl
  | torn c instead several noEnd isOther rest =>
    cases instead with
    | nil => simp at several
    | cons first others => rfl

theorem Shows.length_le {entries : List (α × Bool)} {shown : List α}
    (shows : Shows lineEnd entries shown) : entries.length ≤ shown.length := by
  induction shows with
  | nil => exact Nat.le_refl 0
  | kept c rest ih => exact Nat.succ_le_succ ih
  | torn c instead several noEnd isOther rest ih =>
    rw [List.length_cons, List.length_append]
    omega

/-- A line is shown as it is exactly if nothing in it is torn. -/
theorem Shows.eq_iff {entries : List (α × Bool)} {shown : List α}
    (shows : Shows lineEnd entries shown) :
    shown = entries.map Prod.fst ↔ ∀ entry ∈ entries, entry.2 = false := by
  induction shows with
  | nil => simp
  | kept c rest ih => simp [ih]
  | torn c instead several noEnd isOther rest ih =>
    constructor
    · intro same
      have sizes := congrArg List.length same
      have atLeast := rest.length_le
      rw [List.length_append, List.map_cons, List.length_cons, List.length_map] at sizes
      omega
    · intro unmarked
      exact absurd (unmarked _ List.mem_cons_self) (by simp)

/-- The lines that are shown are what is shown of the lines. -/
theorem Shows.lines {entries : List (α × Bool)} {shown : List α}
    (shows : Shows lineEnd entries shown) :
    List.Forall₂ (Shows lineEnd) (markedLines lineEnd entries) (shown.splitOn lineEnd) := by
  induction shows with
  | nil => exact .cons .nil .nil
  | @kept c entries shown rest ih =>
    rw [markedLines, List.splitOnP_cons_eq_if_modifyHead, List.splitOn_cons_eq_if_modifyHead]
    rw [markedLines] at ih
    split
    · exact .cons .nil ih
    · generalize shown.splitOn lineEnd = right at ih ⊢
      generalize (entries.splitOnP fun entry => entry.1 == lineEnd) = left at ih ⊢
      cases ih with
      | nil => exact .nil
      | cons first others => exact .cons (.kept c first) others
  | @torn c entries shown instead several noEnd isOther rest ih =>
    rw [markedLines, List.splitOnP_cons_eq_if_modifyHead, splitOn_free_append noEnd,
      if_neg (by simp [isOther])]
    rw [markedLines] at ih
    generalize shown.splitOn lineEnd = right at ih ⊢
    generalize (entries.splitOnP fun entry => entry.1 == lineEnd) = left at ih ⊢
    cases ih with
    | nil => exact .nil
    | cons first others => exact .cons (.torn c instead several noEnd isOther first) others

theorem map_fst_markedLines (entries : List (α × Bool)) :
    (markedLines lineEnd entries).map (List.map Prod.fst) =
      (entries.map Prod.fst).splitOn lineEnd := by
  induction entries with
  | nil => rfl
  | cons entry entries ih =>
    rw [List.map_cons, List.splitOn_cons_eq_if_modifyHead, ← ih, markedLines,
      List.splitOnP_cons_eq_if_modifyHead]
    split
    · rfl
    · rw [markedLines]
      cases entries.splitOnP fun entry => entry.1 == lineEnd <;> rfl

/-! ## The last lines -/

theorem forall₂_lastLines (count : Nat) {entries : List (List (α × Bool))}
    {shown : List (List α)} (shows : List.Forall₂ (Shows lineEnd) entries shown) :
    List.Forall₂ (Shows lineEnd) (lastLines count entries) (lastLines count shown) := by
  have kept : List.Forall₂ (Shows lineEnd) (entries.filter fun line => !line.isEmpty)
      (shown.filter fun line => !line.isEmpty) := by
    induction shows with
    | nil => exact .nil
    | @cons entry line _ _ first others ih =>
      rw [List.filter_cons, List.filter_cons, first.isEmpty_eq]
      split
      · exact .cons first ih
      · exact ih
  exact List.forall₂_take count (List.rel_reverse kept)

/-- The last lines are shown as they are exactly if nothing in them is torn. -/
theorem Shows.lastLines_iff {entries : List (α × Bool)} {shown : List α}
    (shows : Shows lineEnd entries shown) (count : Nat) :
    lastLines count (shown.splitOn lineEnd) =
        lastLines count ((entries.map Prod.fst).splitOn lineEnd) ↔
      ∀ line ∈ lastLines count (markedLines lineEnd entries), ∀ entry ∈ line,
        entry.2 = false := by
  rw [← map_fst_markedLines, ← map_lastLines]
  have byLine := forall₂_lastLines count shows.lines
  generalize lastLines count (markedLines lineEnd entries) = marked at byLine ⊢
  generalize lastLines count (shown.splitOn lineEnd) = lines at byLine ⊢
  induction byLine with
  | nil => simp
  | cons first others ih => simp [ih, first.eq_iff]

end

end ImCodes.Library
