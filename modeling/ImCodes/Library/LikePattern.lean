import ImCodes.Library.Text
import Mathlib.Data.List.Infix

/-!
# Patterns with an open end

`prefix%` as a pattern of the SQL `LIKE` operator: it matches every text that begins with the
prefix, and where the prefix has wildcards or letters, others too.
-/

set_option autoImplicit false

namespace ImCodes.Library

theorem likeChars_open (text : List Char) : likeChars ['%'] text = true := by
  have empty : likeChars [] [] = true := rfl
  simp only [likeChars, ↓reduceIte, List.any_eq_true, List.mem_tails]
  exact ⟨[], List.nil_suffix, empty⟩

theorem likeChars_prefix (start rest : List Char) :
    likeChars (start ++ ['%']) (start ++ rest) = true := by
  induction start with
  | nil => exact likeChars_open rest
  | cons c start ih =>
    simp only [List.cons_append, likeChars]
    split
    · exact List.any_eq_true.mpr
        ⟨start ++ rest, (List.mem_tails _ _).mpr (List.suffix_cons c _), ih⟩
    · simp [ih]

theorem likeChars_head {letter c : Char} {pattern rest : List Char} (plain : letter ≠ '%')
    (single : letter ≠ '_') (accepted : likeChars (letter :: pattern) (c :: rest) = true) :
    foldAsciiCase letter = foldAsciiCase c := by
  simp only [likeChars, plain, single, ↓reduceIte, decide_false, Bool.false_or, Bool.and_eq_true,
    decide_eq_true_eq] at accepted
  exact accepted.1

theorem foldAsciiCase_whiteSpace {c : Char} (white : isWhiteSpace c = true) :
    foldAsciiCase c = c := by
  unfold foldAsciiCase
  refine if_neg ?_
  rintro ⟨low, high⟩
  have above : 65 ≤ c.toNat := UInt32.le_iff_toNat_le.mp low
  have below : c.toNat ≤ 90 := UInt32.le_iff_toNat_le.mp high
  simp only [isWhiteSpace, List.mem_cons, List.not_mem_nil, or_false, decide_eq_true_eq] at white
  omega

/-! ## Trimmed texts -/

theorem prefix_rdropWhile {start text : List Char} {last : Char} (visible : isWhiteSpace last = false)
    (begins : start ++ [last] <+: text) : start ++ [last] <+: text.rdropWhile isWhiteSpace := by
  obtain ⟨rest, rfl⟩ := begins
  induction rest using List.reverseRecOn with
  | nil =>
    rw [List.append_nil, List.rdropWhile_concat_neg _ _ _ (by simp [visible])]
  | append_singleton rest c ih =>
    rw [← List.append_assoc, List.rdropWhile_concat]
    split
    · exact ih
    · exact ⟨rest ++ [c], by simp⟩

/-- A text that begins visibly has the same beginnings once it is trimmed. -/
theorem prefix_trimChars_iff {first last : Char} {start text : List Char}
    (visibleFirst : isWhiteSpace first = false) (visible : isWhiteSpace last = false) :
    first :: start ++ [last] <+: text ↔
      first :: start ++ [last] <+: trimChars text ∧
        text.dropWhile isWhiteSpace = text := by
  unfold trimChars
  constructor
  · intro begins
    have plain : text.dropWhile isWhiteSpace = text := by
      obtain ⟨rest, rfl⟩ := begins
      simp [visibleFirst]
    rw [plain]
    exact ⟨prefix_rdropWhile visible begins, rfl⟩
  · rintro ⟨begins, plain⟩
    rw [plain] at begins
    exact begins.trans (List.rdropWhile_prefix isWhiteSpace text)

end ImCodes.Library
