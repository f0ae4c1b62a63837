import ImCodes.Library.Text
import ImCodes.Library.Utf8

/-!
# UTF-16

The host's strings are sequences of 16-bit units, which need not be text: half of a pair may stand
alone. The units of whole characters are read back as they were written, and a number of units ends
between two characters or within a pair.
-/

set_option autoImplicit false

namespace ImCodes.Library.Utf16

/-- The units of a character: itself, or a high and a low surrogate. -/
def units (c : Char) : List UInt16 :=
  if c.toNat < 0x10000 then [UInt16.ofNat c.toNat]
  else [UInt16.ofNat (0xD800 + (c.toNat - 0x10000) / 0x400),
    UInt16.ofNat (0xDC00 + (c.toNat - 0x10000) % 0x400)]

def encode (text : List Char) : List UInt16 := text.flatMap units

def IsHigh (unit : UInt16) : Prop := 0xD800 ≤ unit.toNat ∧ unit.toNat ≤ 0xDBFF

def IsLow (unit : UInt16) : Prop := 0xDC00 ≤ unit.toNat ∧ unit.toNat ≤ 0xDFFF

instance (unit : UInt16) : Decidable (IsHigh unit) :=
  inferInstanceAs (Decidable (0xD800 ≤ unit.toNat ∧ unit.toNat ≤ 0xDBFF))

instance (unit : UInt16) : Decidable (IsLow unit) :=
  inferInstanceAs (Decidable (0xDC00 ≤ unit.toNat ∧ unit.toNat ≤ 0xDFFF))

def single (unit : UInt16) : Char :=
  if IsHigh unit ∨ IsLow unit then Utf8.replacement else Char.ofNat unit.toNat

def pair (high low : UInt16) : Char :=
  Char.ofNat (0x10000 + (high.toNat - 0xD800) * 0x400 + (low.toNat - 0xDC00))

/-- The text that units are read as, as `Buffer.from` reads a string. -/
def decode : List UInt16 → List Char
  | [] => []
  | [unit] => [single unit]
  | unit :: next :: rest =>
    if IsHigh unit ∧ IsLow next then pair unit next :: decode rest
    else single unit :: decode (next :: rest)

def WellFormed (text : List UInt16) : Prop := encode (decode text) = text

/-- A string without half a pair. -/
structure WholeText where
  units : List UInt16
  wellFormed : WellFormed units

theorem encode_nil : encode [] = [] := rfl

theorem encode_cons (c : Char) (rest : List Char) : encode (c :: rest) = units c ++ encode rest :=
  rfl

theorem encode_append (left right : List Char) :
    encode (left ++ right) = encode left ++ encode right :=
  List.flatMap_append

/-! ## The units of a character -/

/-- How the units of a character are read. -/
inductive IsEncoded (c : Char) : List UInt16 → Prop
  | one {unit : UInt16} (notHigh : ¬ IsHigh unit) (notLow : ¬ IsLow unit)
      (isChar : Char.ofNat unit.toNat = c) : IsEncoded c [unit]
  | two {high low : UInt16} (isHigh : IsHigh high) (isLow : IsLow low)
      (isChar : pair high low = c) : IsEncoded c [high, low]

theorem toNat_high {value : Nat} (valid : value < 0x110000) :
    (UInt16.ofNat (0xD800 + (value - 0x10000) / 0x400)).toNat =
      0xD800 + (value - 0x10000) / 0x400 := by
  rw [UInt16.toNat_ofNat']
  omega

theorem toNat_low (value : Nat) :
    (UInt16.ofNat (0xDC00 + (value - 0x10000) % 0x400)).toNat =
      0xDC00 + (value - 0x10000) % 0x400 := by
  rw [UInt16.toNat_ofNat']
  omega

theorem isEncoded_units (c : Char) : IsEncoded c (units c) := by
  have valid : c.toNat < 0xD800 ∨ 0xDFFF < c.toNat ∧ c.toNat < 0x110000 := c.valid
  have back : Char.ofNat c.toNat = c := Char.ofNat_toNat c
  unfold units
  generalize c.toNat = value at valid back ⊢
  split
  · next small =>
      have same : (UInt16.ofNat value).toNat = value := by
        rw [UInt16.toNat_ofNat']
        omega
      apply IsEncoded.one
      · simp only [IsHigh, same]
        omega
      · simp only [IsLow, same]
        omega
      · rw [same, back]
  · next large =>
      have high := @toNat_high value (by omega)
      have low := toNat_low value
      have whole : 0x10000 + (0xD800 + (value - 0x10000) / 0x400 - 0xD800) * 0x400 +
          (0xDC00 + (value - 0x10000) % 0x400 - 0xDC00) = value := by
        omega
      apply IsEncoded.two
      · simp only [IsHigh, high]
        omega
      · simp only [IsLow, low]
        omega
      · rw [pair, high, low, whole, back]

theorem not_isHigh_of_isLow {unit : UInt16} (isLow : IsLow unit) : ¬ IsHigh unit := by
  unfold IsLow at isLow
  unfold IsHigh
  omega

theorem units_length_pos (c : Char) : 0 < (units c).length := by
  have encoded := isEncoded_units c
  generalize units c = written at encoded ⊢
  cases encoded <;> simp

/-- The last unit of a text is no high surrogate. -/
theorem encode_last {text : List Char} {unit : UInt16} (isLast : (encode text).getLast? = some unit) :
    ¬ IsHigh unit := by
  rcases List.eq_nil_or_concat text with rfl | ⟨before, c, rfl⟩
  · simp [encode] at isLast
  · rw [List.concat_eq_append, encode_append, encode_cons, encode_nil, List.append_nil] at isLast
    have encoded := isEncoded_units c
    generalize units c = written at encoded isLast
    cases encoded with
    | one notHigh notLow isChar =>
      rw [List.getLast?_append] at isLast
      simp only [List.getLast?_singleton, Option.some_or, Option.some.injEq] at isLast
      exact isLast ▸ notHigh
    | two isHigh isLow isChar =>
      rw [List.getLast?_append] at isLast
      simp only [List.getLast?_cons_cons, List.getLast?_singleton, Option.some_or,
        Option.some.injEq] at isLast
      exact isLast ▸ not_isHigh_of_isLow isLow

/-! ## Reading a text back -/

theorem decode_cons_of_not_isHigh {unit : UInt16} (notHigh : ¬ IsHigh unit) (rest : List UInt16) :
    decode (unit :: rest) = single unit :: decode rest := by
  cases rest with
  | nil => rfl
  | cons next rest => rw [decode, if_neg fun both => notHigh both.1]

theorem IsEncoded.decode {c : Char} {written : List UInt16} (encoded : IsEncoded c written)
    (rest : List UInt16) : Utf16.decode (written ++ rest) = c :: Utf16.decode rest := by
  cases encoded with
  | one notHigh notLow isChar =>
    rw [List.singleton_append, decode_cons_of_not_isHigh notHigh, single,
      if_neg fun half => half.elim notHigh notLow, isChar]
  | two isHigh isLow isChar =>
    rw [List.cons_append, List.singleton_append, Utf16.decode, if_pos ⟨isHigh, isLow⟩, isChar]

theorem decode_encode_append (text : List Char) (rest : List UInt16) :
    decode (encode text ++ rest) = text ++ decode rest := by
  induction text with
  | nil => rfl
  | cons c text ih =>
    rw [encode_cons, List.append_assoc, (isEncoded_units c).decode, ih, List.cons_append]

theorem decode_encode (text : List Char) : decode (encode text) = text := by
  simpa [decode] using decode_encode_append text []

theorem encode_injective {left right : List Char} (same : encode left = encode right) :
    left = right := by
  rw [← decode_encode left, same, decode_encode]

/-- The numbers of a text's units. -/
theorem utf16_eq (text : String) : utf16 text = (encode text.toList).map UInt16.toNat := by
  unfold utf16 encode
  rw [List.map_flatMap]
  congr 1
  funext c
  have valid : c.toNat < 0xD800 ∨ 0xDFFF < c.toNat ∧ c.toNat < 0x110000 := c.valid
  unfold units
  generalize c.toNat = value at valid ⊢
  split
  · next small =>
      have same : (UInt16.ofNat value).toNat = value := by
        rw [UInt16.toNat_ofNat']
        omega
      rw [List.map_cons, List.map_nil, same]
  · next large =>
      rw [List.map_cons, List.map_cons, List.map_nil, toNat_high (by omega), toNat_low]

theorem utf16_injective {left right : String} (same : utf16 left = utf16 right) :
    left = right := by
  rw [utf16_eq, utf16_eq] at same
  have units := List.map_injective_iff.mpr (fun _ _ => UInt16.toNat_inj.mp) same
  exact String.toList_injective (encode_injective units)

@[simp] theorem wellFormed_encode (text : List Char) : WellFormed (encode text) := by
  rw [WellFormed, decode_encode]

theorem wellFormed_nil : WellFormed [] := rfl

theorem WellFormed.exists {text : List UInt16} (wellFormed : WellFormed text) :
    ∃ chars, text = encode chars :=
  ⟨decode text, wellFormed.symm⟩

theorem WellFormed.append {left right : List UInt16} (leftWhole : WellFormed left)
    (rightWhole : WellFormed right) : WellFormed (left ++ right) := by
  obtain ⟨leftChars, rfl⟩ := leftWhole.exists
  obtain ⟨rightChars, rfl⟩ := rightWhole.exists
  rw [← encode_append]
  exact wellFormed_encode _

theorem WellFormed.decode_append {left : List UInt16} (leftWhole : WellFormed left)
    (right : List UInt16) : decode (left ++ right) = decode left ++ decode right := by
  obtain ⟨chars, rfl⟩ := leftWhole.exists
  rw [decode_encode_append, decode_encode]

theorem WellFormed.of_append {left right : List UInt16} (leftWhole : WellFormed left)
    (whole : WellFormed (left ++ right)) : WellFormed right := by
  rw [WellFormed, leftWhole.decode_append, encode_append, leftWhole] at whole
  exact List.append_cancel_left whole

theorem prefix_of_encode_prefix {left right : List Char} (isPrefix : encode left <+: encode right) :
    left <+: right := by
  obtain ⟨rest, same⟩ := isPrefix
  refine ⟨decode rest, ?_⟩
  rw [← decode_encode_append, same, decode_encode]

/-! ## Cutting a text -/

/-- A number of units ends between two characters or within a pair. -/
theorem encode_cut {text : List Char} {count : Nat} (inside : count ≤ (encode text).length) :
    (∃ before after, text = before ++ after ∧ (encode before).length = count) ∨
    ∃ before c after high low, text = before ++ c :: after ∧ units c = [high, low] ∧
      IsHigh high ∧ IsLow low ∧ (encode before).length + 1 = count := by
  induction text generalizing count with
  | nil =>
    left
    exact ⟨[], [], rfl, (Nat.le_zero.mp inside).symm⟩
  | cons c text ih =>
    by_cases within : count < (units c).length
    · by_cases none : count = 0
      · left
        exact ⟨[], c :: text, rfl, none.symm⟩
      · right
        have encoded := isEncoded_units c
        generalize written : units c = pieces at encoded within
        cases encoded with
        | one notHigh notLow isChar =>
          rw [List.length_singleton] at within
          omega
        | two isHigh isLow isChar =>
          refine ⟨[], c, text, _, _, rfl, written, isHigh, isLow, ?_⟩
          simp only [List.length_cons, List.length_nil] at within
          rw [encode_nil, List.length_nil]
          omega
    · rw [encode_cons, List.length_append] at inside
      have rest : count - (units c).length ≤ (encode text).length := by omega
      rcases ih rest with
        ⟨before, after, same, size⟩ |
        ⟨before, other, after, high, low, same, written, isHigh, isLow, size⟩
      · left
        refine ⟨c :: before, after, by rw [same, List.cons_append], ?_⟩
        rw [encode_cons, List.length_append]
        omega
      · right
        refine ⟨c :: before, other, after, high, low, by rw [same, List.cons_append], written,
          isHigh, isLow, ?_⟩
        rw [encode_cons, List.length_append]
        omega

/-- A text that is parted in front of anything but a low surrogate is parted between characters. -/
theorem WellFormed.of_append_not_low {left right : List UInt16} (whole : WellFormed (left ++ right))
    (notLow : ∀ unit, right.head? = some unit → ¬ IsLow unit) : WellFormed left := by
  obtain ⟨chars, same⟩ := whole.exists
  have inside : left.length ≤ (encode chars).length := by
    rw [← same, List.length_append]
    omega
  rcases encode_cut inside with
    ⟨before, after, rfl, size⟩ | ⟨before, c, after, high, low, rfl, written, isHigh, isLow, size⟩
  · rw [encode_append] at same
    rw [(List.append_inj same size.symm).1]
    exact wellFormed_encode before
  · exfalso
    rw [encode_append, encode_cons, written, List.cons_append, List.singleton_append] at same
    have parted : left ++ right = (encode before ++ [high]) ++ low :: encode after := by
      rw [same, List.append_assoc, List.singleton_append]
    have sizes : left.length = (encode before ++ [high]).length := by
      rw [List.length_append, List.length_singleton, size]
    have rest := (List.append_inj parted sizes).2
    exact notLow low (by rw [rest]; rfl) isLow

end ImCodes.Library.Utf16
