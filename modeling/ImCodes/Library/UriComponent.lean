import Mathlib.Data.List.Basic

/-!
# Percent-encoded text

`encodeURIComponent` and `decodeURIComponent`: letters, digits and a few signs stand for
themselves, every other character for the bytes of its UTF-8 form.
-/

set_option autoImplicit false

namespace ImCodes.Library

def hexDigit (value : Nat) : Char := Char.ofNat (if value < 10 then 48 + value else 55 + value)

def hexValue? (c : Char) : Option Nat :=
  if '0' ≤ c ∧ c ≤ '9' then some (c.toNat - 48)
  else if 'A' ≤ c ∧ c ≤ 'F' then some (c.toNat - 55)
  else if 'a' ≤ c ∧ c ≤ 'f' then some (c.toNat - 87)
  else none

theorem hexValue?_hexDigit {value : Nat} (small : value < 16) :
    hexValue? (hexDigit value) = some value := by
  revert value
  decide

def isUriUnreserved (c : Char) : Bool :=
  c.isAlphanum || c ∈ ['-', '_', '.', '!', '~', '*', '(', ')'] || c.toNat = 0x27

def percentByte (byte : UInt8) : List Char :=
  ['%', hexDigit (byte.toNat / 16), hexDigit (byte.toNat % 16)]

def percentChar (c : Char) : List Char :=
  if isUriUnreserved c then [c] else (String.utf8EncodeChar c).flatMap percentByte

def encodeURIComponent (text : String) : String :=
  String.ofList (text.toList.flatMap percentChar)

/-- The bytes of a percent-encoded text; `none` where a `%` has no two hexadecimal digits. -/
def percentBytes : List Char → Option (List UInt8)
  | [] => some []
  | '%' :: high :: low :: rest =>
    (hexValue? high).bind fun high => (hexValue? low).bind fun low =>
      (percentBytes rest).map (UInt8.ofNat (high * 16 + low) :: ·)
  | '%' :: _ => none
  | c :: rest => (percentBytes rest).map (String.utf8EncodeChar c ++ ·)

/-- `none` where the source throws: the bytes must be well-formed UTF-8. -/
def decodeURIComponent (text : String) : Option String :=
  (percentBytes text.toList).bind fun bytes => String.fromUTF8? bytes.toByteArray

/-! ## The round trip -/

theorem percentBytes_plain {c : Char} (plain : c ≠ '%') (rest : List Char) :
    percentBytes (c :: rest) = (percentBytes rest).map (String.utf8EncodeChar c ++ ·) := by
  rw [percentBytes.eq_def]
  split <;> simp_all

theorem percentBytes_byte (byte : UInt8) (rest : List Char) :
    percentBytes (percentByte byte ++ rest) = (percentBytes rest).map (byte :: ·) := by
  have bound := byte.toNat_lt
  have high := @hexValue?_hexDigit (byte.toNat / 16) (by omega)
  have low := @hexValue?_hexDigit (byte.toNat % 16) (by omega)
  have whole : UInt8.ofNat (byte.toNat / 16 * 16 + byte.toNat % 16) = byte := by
    rw [Nat.div_add_mod']
    exact UInt8.ofNat_toNat
  simp only [percentByte, List.cons_append, List.nil_append, percentBytes, high, low,
    Option.bind_some, whole]

theorem percentBytes_bytes (bytes : List UInt8) (rest : List Char) :
    percentBytes (bytes.flatMap percentByte ++ rest) = (percentBytes rest).map (bytes ++ ·) := by
  induction bytes with
  | nil => simp
  | cons byte bytes ih =>
    simp only [List.flatMap_cons, List.append_assoc, percentBytes_byte, ih, Option.map_map]
    rfl

theorem percentBytes_chars (chars : List Char) :
    percentBytes (chars.flatMap percentChar) = some (chars.flatMap String.utf8EncodeChar) := by
  induction chars with
  | nil => rfl
  | cons c rest ih =>
    simp only [List.flatMap_cons, percentChar]
    split
    · rename_i unreserved
      have plain : c ≠ '%' := by
        rintro rfl
        revert unreserved
        decide
      simp [percentBytes_plain plain, ih]
    · simp [percentBytes_bytes, ih]

@[simp] theorem decodeURIComponent_encodeURIComponent (text : String) :
    decodeURIComponent (encodeURIComponent text) = some text := by
  have bytes : (text.toList.flatMap String.utf8EncodeChar).toByteArray = text.toByteArray :=
    String.utf8Encode_toList
  simp [decodeURIComponent, encodeURIComponent, percentBytes_chars, bytes, String.fromUTF8?,
    text.isValidUTF8]
  rfl

/-- An encoded text has none of the characters that are escaped. -/
theorem not_mem_encodeURIComponent {c : Char} (reserved : isUriUnreserved c = false)
    (unhex : ∀ value < 16, hexDigit value ≠ c) (sign : c ≠ '%') (text : String) :
    c ∉ (encodeURIComponent text).toList := by
  simp only [encodeURIComponent, String.toList_ofList, List.mem_flatMap, not_exists, not_and]
  intro source _ member
  unfold percentChar at member
  split at member
  · rename_i unreserved
    rw [List.mem_singleton.mp member, unreserved] at reserved
    cases reserved
  · obtain ⟨byte, _, isDigit⟩ := List.mem_flatMap.mp member
    have bound := byte.toNat_lt
    simp only [percentByte, List.mem_cons, List.not_mem_nil, or_false] at isDigit
    rcases isDigit with isSign | high | low
    · exact sign isSign
    · exact unhex _ (by omega) high.symm
    · exact unhex _ (by omega) low.symm

end ImCodes.Library
