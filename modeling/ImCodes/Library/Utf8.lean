import Mathlib.Data.List.Basic

/-!
# Decoding UTF-8

The decoder of the encoding standard, which answers every sequence of bytes: what is no character
is replaced. A valid text is read back as it was written, and a character whose bytes are read apart
is replaced on both sides.
-/

set_option autoImplicit false

namespace ImCodes.Library.Utf8

def encode (text : List Char) : List UInt8 := text.flatMap String.utf8EncodeChar

/-- `U+FFFD`. -/
def replacement : Char := Char.ofNat 0xFFFD

/-- A character that is not complete: the bits read, how many bytes are needed, and the bounds of
the next one. -/
structure Pending where
  bits : Nat
  needed : Nat
  low : Nat
  high : Nat
deriving DecidableEq, Repr

/-- The first byte of a character. -/
def lead (byte : UInt8) : List Char × Option Pending :=
  let value := byte.toNat
  if value ≤ 0x7F then ([Char.ofNat value], none)
  else if 0xC2 ≤ value ∧ value ≤ 0xDF then ([], some ⟨value % 0x20, 1, 0x80, 0xBF⟩)
  else if 0xE0 ≤ value ∧ value ≤ 0xEF then
    ([], some ⟨value % 0x10, 2, if value = 0xE0 then 0xA0 else 0x80,
      if value = 0xED then 0x9F else 0xBF⟩)
  else if 0xF0 ≤ value ∧ value ≤ 0xF4 then
    ([], some ⟨value % 8, 3, if value = 0xF0 then 0x90 else 0x80,
      if value = 0xF4 then 0x8F else 0xBF⟩)
  else ([replacement], none)

/-- One byte. A byte that cannot go on with the character starts the next one. -/
def step : Option Pending → UInt8 → List Char × Option Pending
  | none, byte => lead byte
  | some pending, byte =>
    if pending.low ≤ byte.toNat ∧ byte.toNat ≤ pending.high then
      let bits := pending.bits * 0x40 + byte.toNat % 0x40
      if pending.needed = 1 then ([Char.ofNat bits], none)
      else ([], some ⟨bits, pending.needed - 1, 0x80, 0xBF⟩)
    else (replacement :: (lead byte).1, (lead byte).2)

def finish : Option Pending → List Char
  | none => []
  | some _ => [replacement]

def decodeFrom : Option Pending → List UInt8 → List Char
  | pending, [] => finish pending
  | pending, byte :: rest => (step pending byte).1 ++ decodeFrom (step pending byte).2 rest

/-- `buffer.toString('utf-8')`. -/
def decode (bytes : List UInt8) : List Char := decodeFrom none bytes

theorem encode_nil : encode [] = [] := rfl

theorem encode_cons (c : Char) (rest : List Char) :
    encode (c :: rest) = String.utf8EncodeChar c ++ encode rest := rfl

theorem encode_append (left right : List Char) :
    encode (left ++ right) = encode left ++ encode right :=
  List.flatMap_append

theorem encodeChar_length_pos (c : Char) : 0 < (String.utf8EncodeChar c).length :=
  List.length_pos_iff.mpr String.utf8EncodeChar_ne_nil

theorem encodeChar_length_le (c : Char) : (String.utf8EncodeChar c).length ≤ 4 := by
  unfold String.utf8EncodeChar
  dsimp only
  split
  · simp
  · split
    · simp
    · split <;> simp

theorem ofNat_val (c : Char) : Char.ofNat c.val.toNat = c := Char.ofNat_toNat c

private theorem val_valid (c : Char) :
    c.val.toNat < 0xD800 ∨ 0xDFFF < c.val.toNat ∧ c.val.toNat < 0x110000 :=
  c.valid

/-! ## The bytes of a character -/

def IsTail (byte : UInt8) : Prop := 0x80 ≤ byte.toNat ∧ byte.toNat ≤ 0xBF

/-- The bytes with which a pending character is complete. -/
inductive Completes (c : Char) : Pending → List UInt8 → Prop
  | last {pending : Pending} {byte : UInt8} (needed : pending.needed = 1)
      (low : pending.low ≤ byte.toNat) (high : byte.toNat ≤ pending.high) (isTail : IsTail byte)
      (whole : Char.ofNat (pending.bits * 0x40 + byte.toNat % 0x40) = c) :
      Completes c pending [byte]
  | next {pending : Pending} {byte : UInt8} {rest : List UInt8} (needed : pending.needed ≠ 1)
      (low : pending.low ≤ byte.toNat) (high : byte.toNat ≤ pending.high) (isTail : IsTail byte)
      (completes : Completes c
        ⟨pending.bits * 0x40 + byte.toNat % 0x40, pending.needed - 1, 0x80, 0xBF⟩ rest) :
      Completes c pending (byte :: rest)

/-- How the bytes of a character are read. -/
inductive IsEncoded (c : Char) : List UInt8 → Prop
  | one {byte : UInt8} (isLead : lead byte = ([c], none)) : IsEncoded c [byte]
  | more {byte : UInt8} {pending : Pending} {rest : List UInt8}
      (isLead : lead byte = ([], some pending)) (completes : Completes c pending rest) :
      IsEncoded c (byte :: rest)

private theorem tail_toNat (value : Nat) : (UInt8.ofNat (value % 0x40 + 0x80)).toNat =
    value % 0x40 + 0x80 := by
  rw [UInt8.toNat_ofNat']
  omega

private theorem isTail_ofNat (value : Nat) : IsTail (UInt8.ofNat (value % 0x40 + 0x80)) := by
  unfold IsTail
  rw [tail_toNat]
  omega

private theorem tail_mod (value : Nat) : value / 64 * 0x40 + (value % 0x40 + 0x80) % 0x40 = value := by
  omega

private theorem completes_last {c : Char} {value low high : Nat} (isChar : Char.ofNat value = c)
    (lowest : low ≤ value % 0x40 + 0x80) (highest : value % 0x40 + 0x80 ≤ high) :
    Completes c ⟨value / 64, 1, low, high⟩ [UInt8.ofNat (value % 0x40 + 0x80)] := by
  apply Completes.last rfl
  · rw [tail_toNat]
    exact lowest
  · rw [tail_toNat]
    exact highest
  · exact isTail_ofNat value
  · rw [tail_toNat, tail_mod]
    exact isChar

private theorem completes_next {c : Char} {value needed low high : Nat} {rest : List UInt8}
    (completes : Completes c ⟨value, needed, 0x80, 0xBF⟩ rest) (more : needed ≠ 0)
    (lowest : low ≤ value % 0x40 + 0x80) (highest : value % 0x40 + 0x80 ≤ high) :
    Completes c ⟨value / 64, needed + 1, low, high⟩
      (UInt8.ofNat (value % 0x40 + 0x80) :: rest) := by
  apply Completes.next
  · intro one
    exact more (Nat.succ.inj one)
  · rw [tail_toNat]
    exact lowest
  · rw [tail_toNat]
    exact highest
  · exact isTail_ofNat value
  · rw [tail_toNat, tail_mod, Nat.add_sub_cancel]
    exact completes

private theorem lead_three {byte : UInt8} {bits : Nat} (value : byte.toNat = bits + 0xE0)
    (small : bits < 0x10) :
    lead byte = ([], some ⟨bits, 2, if bits = 0 then 0xA0 else 0x80,
      if bits = 13 then 0x9F else 0xBF⟩) := by
  have first : bits + 0xE0 = 0xE0 ↔ bits = 0 := by omega
  have surrogate : bits + 0xE0 = 0xED ↔ bits = 13 := by omega
  have rest : (bits + 0xE0) % 0x10 = bits := by omega
  simp only [lead, value, first, surrogate, rest]
  rw [if_neg (by omega), if_neg (by omega), if_pos (by omega)]

private theorem lead_four {byte : UInt8} {bits : Nat} (value : byte.toNat = bits + 0xF0)
    (small : bits ≤ 4) :
    lead byte = ([], some ⟨bits, 3, if bits = 0 then 0x90 else 0x80,
      if bits = 4 then 0x8F else 0xBF⟩) := by
  have first : bits + 0xF0 = 0xF0 ↔ bits = 0 := by omega
  have final : bits + 0xF0 = 0xF4 ↔ bits = 4 := by omega
  have rest : (bits + 0xF0) % 8 = bits := by omega
  simp only [lead, value, first, final, rest]
  rw [if_neg (by omega), if_neg (by omega), if_neg (by omega), if_pos (by omega)]

theorem isEncoded_encodeChar (c : Char) : IsEncoded c (String.utf8EncodeChar c) := by
  have valid := val_valid c
  have back := ofNat_val c
  unfold String.utf8EncodeChar
  dsimp only
  generalize c.val.toNat = value at valid back ⊢
  split
  · next small =>
      have byte : (UInt8.ofNat value).toNat = value := by
        rw [UInt8.toNat_ofNat']
        omega
      apply IsEncoded.one
      rw [lead, byte, if_pos small, back]
  · have last : ∀ low high, low ≤ value % 0x40 + 0x80 → value % 0x40 + 0x80 ≤ high →
        Completes c ⟨value / 64, 1, low, high⟩ [UInt8.ofNat (value % 0x40 + 0x80)] :=
      fun _ _ => completes_last back
    split
    · next larger small =>
        have byte : (UInt8.ofNat (value / 64 % 0x20 + 0xC0)).toNat = value / 64 + 0xC0 := by
          rw [UInt8.toNat_ofNat']
          omega
        refine IsEncoded.more ?_ (last 0x80 0xBF (by omega) (by omega))
        simp only [lead, byte]
        rw [if_neg (by omega), if_pos (by omega)]
        congr 3
        omega
    · have next : ∀ low high, low ≤ value / 64 % 0x40 + 0x80 →
          value / 64 % 0x40 + 0x80 ≤ high → Completes c ⟨value / 64 / 64, 2, low, high⟩
            [UInt8.ofNat (value / 64 % 0x40 + 0x80), UInt8.ofNat (value % 0x40 + 0x80)] :=
        fun _ _ => completes_next (last 0x80 0xBF (by omega) (by omega)) Nat.one_ne_zero
      split
      · next larger small =>
          have byte : (UInt8.ofNat (value / 4096 % 0x10 + 0xE0)).toNat = value / 64 / 64 + 0xE0 := by
            rw [UInt8.toNat_ofNat']
            omega
          refine IsEncoded.more (lead_three byte (by omega)) (next _ _ ?_ ?_)
          · split <;> omega
          · split <;> omega
      · next larger =>
          have byte : (UInt8.ofNat (value / 262144 % 0x08 + 0xF0)).toNat =
              value / 64 / 64 / 64 + 0xF0 := by
            rw [UInt8.toNat_ofNat']
            omega
          have parts : value / 4096 = value / 64 / 64 := by omega
          rw [parts]
          refine IsEncoded.more (lead_four byte (by omega))
            (completes_next (next 0x80 0xBF (by omega) (by omega)) (by decide) ?_ ?_)
          · split <;> omega
          · split <;> omega

/-- The first byte of a character goes on with none. -/
theorem not_isTail_head {c : Char} {byte : UInt8} {rest : List UInt8}
    (written : String.utf8EncodeChar c = byte :: rest) : ¬ IsTail byte := by
  unfold String.utf8EncodeChar at written
  have valid := val_valid c
  dsimp only at written
  generalize c.val.toNat = value at valid written
  unfold IsTail
  split at written
  · rw [← (List.cons.inj written).1, UInt8.toNat_ofNat']
    omega
  · split at written
    · rw [← (List.cons.inj written).1, UInt8.toNat_ofNat']
      omega
    · split at written
      · rw [← (List.cons.inj written).1, UInt8.toNat_ofNat']
        omega
      · rw [← (List.cons.inj written).1, UInt8.toNat_ofNat']
        omega

/-! ## Reading the bytes of a character -/

section
variable {c : Char} {pending : Pending} {bytes : List UInt8}

theorem decodeFrom_completes (completes : Completes c pending bytes) (rest : List UInt8) :
    decodeFrom (some pending) (bytes ++ rest) = c :: decodeFrom none rest := by
  induction completes with
  | last needed low high isTail whole =>
    simp only [List.cons_append, List.nil_append, decodeFrom, step, if_pos (And.intro low high),
      if_pos needed, whole]
  | next needed low high isTail completes ih =>
    simp only [List.cons_append, decodeFrom, step, if_pos (And.intro low high), if_neg needed,
      List.nil_append, ih]

theorem IsEncoded.decodeFrom (isEncoded : IsEncoded c bytes) (rest : List UInt8) :
    decodeFrom none (bytes ++ rest) = c :: decodeFrom none rest := by
  cases isEncoded with
  | one isLead => simp only [List.cons_append, List.nil_append, decodeFrom, step, isLead]
  | more isLead completes =>
    simp only [List.cons_append, decodeFrom, step, isLead, List.nil_append,
      decodeFrom_completes completes]

theorem decodeFrom_take_completes (completes : Completes c pending bytes) {count : Nat}
    (short : count < bytes.length) :
    decodeFrom (some pending) (bytes.take count) = [replacement] := by
  induction completes generalizing count with
  | last needed low high isTail whole =>
    have none : count = 0 := by simpa using short
    rw [none]
    rfl
  | next needed low high isTail completes ih =>
    cases count with
    | zero => rfl
    | succ count =>
      have shorter := Nat.succ_lt_succ_iff.mp short
      simp only [List.take_succ_cons, decodeFrom, step, if_pos (And.intro low high),
        if_neg needed, List.nil_append, ih shorter]

/-- The first bytes of a character are read as one replacement. -/
theorem IsEncoded.decodeFrom_take (isEncoded : IsEncoded c bytes) {count : Nat}
    (some : 0 < count) (short : count < bytes.length) :
    Utf8.decodeFrom none (bytes.take count) = [replacement] := by
  cases isEncoded with
  | one isLead =>
    rw [List.length_singleton] at short
    omega
  | more isLead completes =>
    cases count with
    | zero => exact absurd some (Nat.lt_irrefl 0)
    | succ count =>
      have shorter := Nat.succ_lt_succ_iff.mp short
      simp only [List.take_succ_cons, Utf8.decodeFrom, step, isLead, List.nil_append,
        decodeFrom_take_completes completes shorter]

/-- What is left of a character is one replacement for each byte. -/
theorem decodeFrom_tails {tails : List UInt8} (areTails : ∀ byte ∈ tails, IsTail byte)
    (rest : List UInt8) :
    decodeFrom none (tails ++ rest) =
      List.replicate tails.length replacement ++ decodeFrom none rest := by
  induction tails with
  | nil => rfl
  | cons byte tails ih =>
    obtain ⟨low, high⟩ := areTails byte List.mem_cons_self
    have isLead : lead byte = ([replacement], none) := by
      simp only [lead]
      rw [if_neg (by omega), if_neg (by omega), if_neg (by omega), if_neg (by omega)]
    simp only [List.cons_append, decodeFrom, step, isLead, List.nil_append,
      ih fun other member => areTails other (List.mem_cons_of_mem _ member),
      List.length_cons, List.replicate_succ]

theorem Completes.isTail (completes : Completes c pending bytes) : ∀ byte ∈ bytes, IsTail byte := by
  induction completes with
  | last needed low high isTail whole =>
    intro other member
    rw [List.mem_singleton.mp member]
    exact isTail
  | next needed low high isTail completes ih =>
    intro other member
    rcases List.mem_cons.mp member with rfl | later
    · exact isTail
    · exact ih other later

theorem IsEncoded.isTail_drop (isEncoded : IsEncoded c bytes) {count : Nat} (some : 0 < count) :
    ∀ byte ∈ bytes.drop count, IsTail byte := by
  cases count with
  | zero => exact absurd some (Nat.lt_irrefl 0)
  | succ count =>
    cases isEncoded with
    | one isLead => simp
    | more isLead completes =>
      intro byte member
      exact completes.isTail byte (List.mem_of_mem_drop member)

end

theorem decodeFrom_encode (text : List Char) (rest : List UInt8) :
    decodeFrom none (encode text ++ rest) = text ++ decodeFrom none rest := by
  induction text with
  | nil => rfl
  | cons c text ih =>
    rw [encode_cons, List.append_assoc, (isEncoded_encodeChar c).decodeFrom, ih,
      List.cons_append]

/-- A number of bytes ends between two characters or within one. -/
theorem encode_cut {text : List Char} {count : Nat} (inside : count ≤ (encode text).length) :
    (∃ before after, text = before ++ after ∧ (encode before).length = count) ∨
    ∃ before c after taken, text = before ++ c :: after ∧ 0 < taken ∧
      taken < (String.utf8EncodeChar c).length ∧ (encode before).length + taken = count := by
  induction text generalizing count with
  | nil =>
    left
    exact ⟨[], [], rfl, (Nat.le_zero.mp inside).symm⟩
  | cons c text ih =>
    by_cases within : count < (String.utf8EncodeChar c).length
    · by_cases none : count = 0
      · left
        exact ⟨[], c :: text, rfl, none.symm⟩
      · right
        exact ⟨[], c, text, count, rfl, Nat.pos_of_ne_zero none, within, Nat.zero_add count⟩
    · rw [encode_cons, List.length_append] at inside
      have rest : count - (String.utf8EncodeChar c).length ≤ (encode text).length := by omega
      rcases ih rest with
        ⟨before, after, same, size⟩ | ⟨before, other, after, taken, same, some, short, size⟩
      · left
        refine ⟨c :: before, after, by rw [same, List.cons_append], ?_⟩
        rw [encode_cons, List.length_append]
        omega
      · right
        refine ⟨c :: before, other, after, taken, by rw [same, List.cons_append], some, short, ?_⟩
        rw [encode_cons, List.length_append]
        omega

theorem decode_encode (text : List Char) : decode (encode text) = text := by
  simpa [decode, decodeFrom, finish] using decodeFrom_encode text []

end ImCodes.Library.Utf8
