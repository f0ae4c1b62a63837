import ImCodes.Library.Utf16
import Mathlib.Algebra.Order.Ring.Rat
import Mathlib.Data.List.GetD
import Mathlib.Data.Nat.Cast.Order.Ring
import Mathlib.Data.Rat.Defs
import Mathlib.Tactic.Ring

/-!
# Priority-preserving context caps

A system prompt that is over its provider's budget loses the end of the user-authored identity and
nothing else. Where the identity stands is recorded when the prompt is put together, as a span bound
to the identity's hash, and is carried along as texts are joined. Positions count UTF-16 units, while
a budget counts units or UTF-8 bytes.
-/

set_option autoImplicit false

namespace ImCodes.Agent.ContextCap

open Library

/-- How a provider measures its budget. -/
inductive ContextMeasure
  | utf16
  | utf8
deriving DecidableEq, Repr

/-- `SESSION_IDENTITY_BLOCK_OPEN_TAG` -/
def openTag : List UInt16 := Utf16.encode "<imcodes-agent-identity>".toList

/-- `SESSION_IDENTITY_BLOCK_CLOSE_TAG` -/
def closeTag : List UInt16 := Utf16.encode "</imcodes-agent-identity>".toList

/-- `Number.MAX_SAFE_INTEGER` -/
def maxSafeInteger : Nat := 2 ^ 53 - 1

/-- `Number.isSafeInteger` -/
def isSafeInteger (value : Rat) : Bool := value.den = 1 ∧ value.num.natAbs ≤ maxSafeInteger

/-- `Buffer.from(text, 'utf8')` -/
def utf8Bytes (text : List UInt16) : List UInt8 := Utf8.encode (Utf16.decode text)

def measureContext (text : List UInt16) : ContextMeasure → Nat
  | .utf8 => (utf8Bytes text).length
  | .utf16 => text.length

/-- `text.slice(start, end)` for positions within the text. -/
def slice (text : List UInt16) (start stop : Nat) : List UInt16 := (text.take stop).drop start

/-- `text.trimEnd()` -/
def trimEnd (text : List UInt16) : List UInt16 :=
  text.rdropWhile fun unit => isWhiteSpace (Char.ofNat unit.toNat)

/-- A cut in front of a byte `10xxxxxx` backs off to the first byte of its character. -/
def backOff (bytes : List UInt8) : Nat → Nat
  | 0 => 0
  | cut + 1 => if bytes.getD (cut + 1) 0 &&& 0xC0 = 0x80 then backOff bytes cut else cut + 1

/-- The longest prefix of whole characters whose measure is at most `budget`. -/
def prefixWithinBudget (text : List UInt16) (budget : Int) (measure : ContextMeasure) :
    List UInt16 :=
  if budget ≤ 0 then []
  else if measureContext text measure ≤ budget then text
  else
    match measure with
    | .utf16 =>
      let lastKept := text.getD (budget.toNat - 1) 0
      text.take (if 0xD800 ≤ lastKept.toNat ∧ lastKept.toNat ≤ 0xDBFF then budget.toNat - 1
        else budget.toNat)
    | .utf8 =>
      let bytes := utf8Bytes text
      Utf16.encode (Utf8.decode (bytes.take (backOff bytes budget.toNat)))

/-- Where an identity body stands in a text, and the hash of the body. A digest that is not a string
is `none`. -/
structure IdentitySegmentSpan (Digest : Type) where
  start : Rat
  stop : Rat
  sha256 : Option Digest
deriving DecidableEq

/-- A composed prompt and, when it contains one, the structural identity span. -/
structure SpannedText (Digest : Type) where
  text : List UInt16
  identity : Option (IdentitySegmentSpan Digest)

/-- One of the parts that are joined. -/
inductive ContextPart (Digest : Type)
  | absent
  | string (text : List UInt16)
  | spanned (spanned : SpannedText Digest)

section
variable {Digest : Type}

def ContextPart.spanned? : ContextPart Digest → Option (SpannedText Digest)
  | .absent => none
  | .string text => some ⟨text, none⟩
  | .spanned value => some value

def framed (segment : List UInt16) : Bool :=
  openTag.length + closeTag.length ≤ segment.length ∧ openTag <+: segment ∧ closeTag <:+ segment

def bodyStart (segment : List UInt16) : Nat := if framed segment then openTag.length else 0

def bodyEnd (segment : List UInt16) : Nat :=
  if framed segment then segment.length - closeTag.length else segment.length

/-- Shift a span by `offset` units. -/
def offsetIdentitySpan (span : IdentitySegmentSpan Digest) (offset : Nat) :
    IdentitySegmentSpan Digest :=
  ⟨span.start + offset, span.stop + offset, span.sha256⟩

/-- What `joinSpanned` has joined so far. -/
structure Joined (Digest : Type) where
  text : List UInt16
  identity : Option (IdentitySegmentSpan Digest)
  first : Bool

def Joined.add (separator : List UInt16) (joined : Joined Digest) (part : ContextPart Digest) :
    Joined Digest :=
  match part.spanned? with
  | none => joined
  | some spanned =>
    if spanned.text = [] then joined
    else
      let text := if joined.first then joined.text else joined.text ++ separator
      let identity :=
        match joined.identity with
        | some identity => some identity
        | none => spanned.identity.map fun identity => offsetIdentitySpan identity text.length
      ⟨text ++ spanned.text, identity, false⟩

/-- Join parts, carrying the first part's identity span to its position in the result. -/
def joinSpanned (parts : List (ContextPart Digest)) (separator : List UInt16) :
    Option (SpannedText Digest) :=
  let joined := parts.foldl (Joined.add separator) ⟨[], none, true⟩
  if joined.text = [] then none else some ⟨joined.text, joined.identity⟩

variable (sha256 : List UInt8 → Digest)

/-- `sha256Hex`, with the hash of bytes as a parameter. -/
def sha256Hex (text : List UInt16) : Digest := sha256 (utf8Bytes text)

def identitySpanForSegment (segment : List UInt16) : IdentitySegmentSpan Digest :=
  ⟨bodyStart segment, bodyEnd segment,
    some (sha256Hex sha256 (slice segment (bodyStart segment) (bodyEnd segment)))⟩

variable [DecidableEq Digest]

/-- Accept a span only if it is in bounds and still covers the recorded bytes. -/
def verifyIdentitySpan (text : List UInt16) (span : Option (IdentitySegmentSpan Digest)) :
    Option (IdentitySegmentSpan Digest) :=
  match span with
  | none => none
  | some span =>
    if ¬ (isSafeInteger span.start ∧ isSafeInteger span.stop) then none
    else if span.start < 0 ∨ span.stop < span.start ∨ (text.length : Rat) < span.stop then none
    else if some (sha256Hex sha256 (slice text span.start.num.toNat span.stop.num.toNat)) ≠
        span.sha256 then none
    else some span

/-- What is said in place of the text that is dropped: from its measure and the budget. -/
structure PriorityPreservingCapMarkers where
  identityTruncated : Nat → Int → Utf16.WholeText
  contextTruncated : Nat → Int → Utf16.WholeText

/-- Shrink only the verified identity body. There is no result without one, or when even an empty
identity does not fit. -/
def shrinkIdentityBodyToFit (input : SpannedText Digest) (maxUnits : Int) (measure : ContextMeasure)
    (markers : PriorityPreservingCapMarkers) : Option (List UInt16) :=
  match verifyIdentitySpan sha256 input.text input.identity with
  | none => none
  | some span =>
    let before := input.text.take span.start.num.toNat
    let body := slice input.text span.start.num.toNat span.stop.num.toNat
    let after := input.text.drop span.stop.num.toNat
    let marker := (markers.identityTruncated (measureContext body measure) maxUnits).units
    let keep := maxUnits - measureContext before measure - measureContext after measure -
      measureContext marker measure
    if keep < 0 then none
    else some (before ++ trimEnd (prefixWithinBudget body keep measure) ++ marker ++ after)

def capContextPreservingPriority (input : SpannedText Digest) (maxUnits : Int)
    (measure : ContextMeasure) (markers : PriorityPreservingCapMarkers) : List UInt16 :=
  if measureContext input.text measure ≤ maxUnits then input.text
  else
    match shrinkIdentityBodyToFit sha256 input maxUnits measure markers with
    | some identityShrunk => identityShrunk
    | none =>
      let marker :=
        (markers.contextTruncated (measureContext input.text measure) maxUnits).units
      let markerSize := measureContext marker measure
      if maxUnits ≤ markerSize + 16 then prefixWithinBudget input.text maxUnits measure
      else trimEnd (prefixWithinBudget input.text (maxUnits - markerSize) measure) ++ marker

end

/-! ## Capped prompts

However a prompt is put together around an identity segment, the span it carries covers the body of
that segment, and capping it shortens the body and nothing else.
-/

/-! ## The longest prefix -/

/-- `kept` is the longest prefix of whole characters that measures at most `budget`. -/
structure LongestPrefix (measure : ContextMeasure) (budget : Int) (text kept : List UInt16) :
    Prop where
  isPrefix : kept <+: text
  wellFormed : Utf16.WellFormed kept
  fits : (measureContext kept measure : Int) ≤ budget
  longest : ∀ other, other <+: text → Utf16.WellFormed other →
    (measureContext other measure : Int) ≤ budget → other <+: kept

section
variable {measure : ContextMeasure} {text left right : List UInt16} {budget : Int}

theorem measureContext_append (whole : Utf16.WellFormed left) :
    measureContext (left ++ right) measure =
      measureContext left measure + measureContext right measure := by
  cases measure with
  | utf16 => exact List.length_append
  | utf8 =>
    simp only [measureContext, utf8Bytes, whole.decode_append, Utf8.encode_append,
      List.length_append]

@[simp] theorem measureContext_nil : measureContext [] measure = 0 := by
  cases measure <;> rfl

theorem measureContext_encode_singleton_pos (c : Char) :
    0 < measureContext (Utf16.encode [c]) measure := by
  cases measure with
  | utf16 =>
    rw [Utf16.encode_cons, Utf16.encode_nil, List.append_nil]
    exact Utf16.units_length_pos c
  | utf8 =>
    simp only [measureContext, utf8Bytes, Utf16.decode_encode, Utf8.encode_cons,
      Utf8.encode_nil, List.append_nil]
    exact Utf8.encodeChar_length_pos c

theorem longestPrefix_of_next {before after : List Char} {c : Char}
    (fits : (measureContext (Utf16.encode before) measure : Int) ≤ budget)
    (past : budget < measureContext (Utf16.encode before) measure +
      measureContext (Utf16.encode [c]) measure) :
    LongestPrefix measure budget (Utf16.encode (before ++ c :: after)) (Utf16.encode before) where
  isPrefix := ⟨Utf16.encode (c :: after), (Utf16.encode_append before (c :: after)).symm⟩
  wellFormed := Utf16.wellFormed_encode before
  fits := fits
  longest := by
    intro other isPrefix whole otherFits
    obtain ⟨chars, rfl⟩ := whole.exists
    have ofText := Utf16.prefix_of_encode_prefix isPrefix
    rcases List.prefix_or_prefix_of_prefix ofText (List.prefix_append before (c :: after)) with
      shorter | ⟨rest, rfl⟩
    · obtain ⟨rest, rfl⟩ := shorter
      rw [Utf16.encode_append]
      exact List.prefix_append _ _
    · cases rest with
      | nil =>
        simp
      | cons next rest =>
        exfalso
        rw [List.prefix_append_right_inj, List.cons_prefix_cons] at ofText
        rw [ofText.1, List.append_cons, Utf16.encode_append, Utf16.encode_append,
          measureContext_append ((Utf16.wellFormed_encode _).append (Utf16.wellFormed_encode _)),
          measureContext_append (Utf16.wellFormed_encode _)] at otherFits
        omega

theorem and_c0_eq_iff (byte : UInt8) : byte &&& 0xC0 = 0x80 ↔ Utf8.IsTail byte := by
  have all : ∀ value : Fin 256, (UInt8.ofNat value &&& 0xC0 = 0x80 ↔
      0x80 ≤ (UInt8.ofNat value).toNat ∧ (UInt8.ofNat value).toNat ≤ 0xBF) := by
    decide +kernel
  have one := all ⟨byte.toNat, byte.toNat_lt⟩
  rwa [UInt8.ofNat_toNat] at one

theorem backOff_eq {bytes : List UInt8} {lead count : Nat} (before : lead ≤ count)
    (tails : ∀ position, lead < position → position ≤ count → Utf8.IsTail (bytes.getD position 0))
    (isLead : ¬ Utf8.IsTail (bytes.getD lead 0)) : backOff bytes count = lead := by
  induction count with
  | zero => exact (Nat.le_zero.mp before).symm
  | succ count ih =>
    by_cases atLead : lead = count + 1
    · subst atLead
      rw [backOff, if_neg fun tail => isLead ((and_c0_eq_iff _).mp tail)]
    · rw [backOff, if_pos ((and_c0_eq_iff _).mpr (tails (count + 1) (by omega) le_rfl))]
      exact ih (by omega) fun position after inside => tails position after (by omega)

private theorem getD_middle {α : Type} (before middle after : List α) (fallback : α) {index : Nat}
    (inside : index < middle.length) :
    (before ++ (middle ++ after)).getD (before.length + index) fallback =
      middle.getD index fallback := by
  rw [List.getD_append_right _ _ _ _ (Nat.le_add_right _ _), Nat.add_sub_cancel_left,
    List.getD_append _ _ _ _ inside]

private theorem getD_of_getLast? {units : List UInt16} {count : Nat} (size : units.length = count)
    (positive : 0 < count) (rest : List UInt16) :
    units.getLast? = some ((units ++ rest).getD (count - 1) 0) := by
  rw [List.getD_append _ _ _ _ (by omega), List.getLast?_eq_getElem?, size,
    List.getD_eq_getElem?_getD, List.getElem?_eq_getElem (by omega), Option.getD_some]

theorem take_units_longest {chars : List Char} {count : Nat} (positive : 0 < count)
    (past : count < (Utf16.encode chars).length) :
    LongestPrefix .utf16 count (Utf16.encode chars)
      ((Utf16.encode chars).take
        (if 0xD800 ≤ ((Utf16.encode chars).getD (count - 1) 0).toNat ∧
            ((Utf16.encode chars).getD (count - 1) 0).toNat ≤ 0xDBFF then count - 1
          else count)) := by
  rcases Utf16.encode_cut past.le with
    ⟨before, after, rfl, size⟩ | ⟨before, c, after, high, low, rfl, written, isHigh, isLow, size⟩
  · cases after with
    | nil =>
      rw [List.append_nil, size] at past
      exact absurd past (Nat.lt_irrefl count)
    | cons c after =>
      have notHigh := Utf16.encode_last
        (getD_of_getLast? size positive (Utf16.encode (c :: after)))
      unfold Utf16.IsHigh at notHigh
      rw [Utf16.encode_append, if_neg notHigh, List.take_left' size, ← Utf16.encode_append]
      apply longestPrefix_of_next
      · simp only [measureContext, size, le_refl]
      · have next := @measureContext_encode_singleton_pos .utf16 c
        simp only [measureContext, size] at next ⊢
        omega
  · have atHigh : (Utf16.encode (before ++ c :: after)).getD (count - 1) 0 = high := by
      rw [Utf16.encode_append, Utf16.encode_cons, written, ← size, Nat.add_sub_cancel]
      exact @getD_middle _ (Utf16.encode before) [high, low] (Utf16.encode after) 0 0 (by simp)
    have sizeBefore : (Utf16.encode before).length = count - 1 := by omega
    unfold Utf16.IsHigh at isHigh
    have kept : (Utf16.encode (before ++ c :: after)).take (count - 1) = Utf16.encode before := by
      rw [Utf16.encode_append, List.take_left' sizeBefore]
    rw [atHigh, if_pos isHigh, kept]
    apply longestPrefix_of_next
    · simp only [measureContext]
      omega
    · simp only [measureContext, Utf16.encode_cons, Utf16.encode_nil, List.append_nil, written,
        List.length_cons, List.length_nil]
      omega

private theorem not_isTail_at {before after : List Char} {c : Char} :
    ¬ Utf8.IsTail ((Utf8.encode (before ++ c :: after)).getD (Utf8.encode before).length 0) := by
  cases written : String.utf8EncodeChar c with
  | nil => exact absurd written String.utf8EncodeChar_ne_nil
  | cons byte rest =>
    rw [Utf8.encode_append, Utf8.encode_cons, written]
    have atLead := @getD_middle _ (Utf8.encode before) (byte :: rest) (Utf8.encode after) 0 0
      (by simp)
    rw [Nat.add_zero, List.getD_cons_zero] at atLead
    rw [atLead]
    exact Utf8.not_isTail_head written

private theorem isTail_within {before after : List Char} {c : Char} {taken : Nat}
    (positive : 0 < taken) (short : taken < (String.utf8EncodeChar c).length) :
    Utf8.IsTail ((Utf8.encode (before ++ c :: after)).getD ((Utf8.encode before).length + taken)
      0) := by
  rw [Utf8.encode_append, Utf8.encode_cons, getD_middle _ _ _ _ short]
  apply (Utf8.isEncoded_encodeChar c).isTail_drop positive
  rw [List.getD_eq_getElem _ _ short, List.drop_eq_getElem_cons short]
  exact List.mem_cons_self

theorem take_bytes_longest {chars : List Char} {count : Nat}
    (past : count < (Utf8.encode chars).length) :
    LongestPrefix .utf8 count (Utf16.encode chars)
      (Utf16.encode (Utf8.decode
        ((Utf8.encode chars).take (backOff (Utf8.encode chars) count)))) := by
  have cut : ∃ before c after, chars = before ++ c :: after ∧
      (Utf8.encode before).length ≤ count ∧
      count < (Utf8.encode before).length + (String.utf8EncodeChar c).length := by
    rcases Utf8.encode_cut past.le with
      ⟨before, after, same, size⟩ | ⟨before, c, after, taken, same, positive, short, size⟩
    · cases after with
      | nil =>
        rw [same, List.append_nil, size] at past
        exact absurd past (Nat.lt_irrefl count)
      | cons c after =>
        have positive := Utf8.encodeChar_length_pos c
        exact ⟨before, c, after, same, by omega, by omega⟩
    · exact ⟨before, c, after, same, by omega, by omega⟩
  obtain ⟨before, c, after, rfl, atLeast, within⟩ := cut
  have back : backOff (Utf8.encode (before ++ c :: after)) count = (Utf8.encode before).length := by
    apply backOff_eq atLeast
    · intro position afterLead inside
      have tail := @isTail_within before after c (position - (Utf8.encode before).length)
        (by omega) (by omega)
      rwa [Nat.add_sub_cancel' afterLead.le] at tail
    · exact not_isTail_at
  have kept : (Utf8.encode (before ++ c :: after)).take (Utf8.encode before).length =
      Utf8.encode before := by
    rw [Utf8.encode_append, List.take_left' rfl]
  rw [back, kept, Utf8.decode_encode]
  apply longestPrefix_of_next
  · simp only [measureContext, utf8Bytes, Utf16.decode_encode]
    omega
  · simp only [measureContext, utf8Bytes, Utf16.decode_encode, Utf8.encode_cons, Utf8.encode_nil,
      List.append_nil]
    omega

theorem prefixWithinBudget_longest (measure : ContextMeasure) (whole : Utf16.WellFormed text)
    (notNegative : 0 ≤ budget) :
    LongestPrefix measure budget text (prefixWithinBudget text budget measure) := by
  obtain ⟨chars, rfl⟩ := whole.exists
  obtain ⟨count, rfl⟩ := Int.eq_ofNat_of_zero_le notNegative
  unfold prefixWithinBudget
  split
  · next none =>
      have zero : count = 0 := by omega
      subst zero
      cases chars with
      | nil =>
        exact ⟨List.prefix_rfl, Utf16.wellFormed_nil, by simp, fun other isPrefix _ _ => isPrefix⟩
      | cons c chars =>
        have next := @measureContext_encode_singleton_pos measure c
        apply @longestPrefix_of_next _ _ [] chars c
        · simp [Utf16.encode_nil]
        · simp only [Utf16.encode_nil, measureContext_nil]
          omega
  · next some =>
      split
      · next fits => exact ⟨List.prefix_rfl, whole, fits, fun other isPrefix _ _ => isPrefix⟩
      · next past =>
          cases measure with
          | utf16 =>
            simp only [measureContext] at past
            exact take_units_longest (by omega) (by omega)
          | utf8 =>
            simp only [measureContext, utf8Bytes, Utf16.decode_encode] at past ⊢
            exact take_bytes_longest (by omega)

theorem prefixWithinBudget_nonpos (none : budget ≤ 0) : prefixWithinBudget text budget measure = [] :=
  if_pos none

end

/-! ## Joined texts -/

/-- A part without an identity: nothing, a text, or other parts joined. -/
inductive Part
  | absent
  | text (text : Utf16.WholeText)
  | join (parts : List Part) (separator : Utf16.WholeText)

def separated (separator : List UInt16) (texts : List (List UInt16)) : List UInt16 :=
  separator.intercalate (texts.filter (· ≠ []))

mutual

/-- The text that a part stands for. -/
def Part.content : Part → List UInt16
  | .absent => []
  | .text whole => whole.units
  | .join parts separator => separated separator.units (Part.contents parts)

def Part.contents : List Part → List (List UInt16)
  | [] => []
  | part :: parts => part.content :: Part.contents parts

end

/-- A tree of `joinSpanned` calls that has one identity segment, a part of the innermost call. -/
inductive Assembly
  | around (front : List Part) (segment : Utf16.WholeText) (back : List Part)
      (separator : Utf16.WholeText)
  | join (front : List Part) (child : Assembly) (back : List Part) (separator : Utf16.WholeText)

namespace Assembly

def segment : Assembly → Utf16.WholeText
  | .around _ segment _ _ => segment
  | .join _ child _ _ => child.segment

def ahead (separator : List UInt16) (front : List Part) : List UInt16 :=
  ((Part.contents front).filter (· ≠ [])).flatMap (· ++ separator)

def behind (separator : List UInt16) (back : List Part) : List UInt16 :=
  ((Part.contents back).filter (· ≠ [])).flatMap (separator ++ ·)

def before : Assembly → List UInt16
  | .around front _ _ separator => ahead separator.units front
  | .join front child _ separator => ahead separator.units front ++ child.before

def after : Assembly → List UInt16
  | .around _ _ back separator => behind separator.units back
  | .join _ child back separator => child.after ++ behind separator.units back

end Assembly

section
variable {Digest : Type}

def asPart : Option (SpannedText Digest) → ContextPart Digest
  | none => .absent
  | some spanned => .spanned spanned

mutual

/-- The calls of a part. -/
def Part.joined : Part → ContextPart Digest
  | .absent => .absent
  | .text whole => .string whole.units
  | .join parts separator => asPart (joinSpanned (Part.allJoined parts) separator.units)

def Part.allJoined : List Part → List (ContextPart Digest)
  | [] => []
  | part :: parts => part.joined :: Part.allJoined parts

end

/-- The calls of a tree. -/
def Assembly.joined (sha256 : List UInt8 → Digest) : Assembly → Option (SpannedText Digest)
  | .around front segment back separator =>
    joinSpanned (Part.allJoined front ++
      .spanned ⟨segment.units, some (identitySpanForSegment sha256 segment.units)⟩ ::
        Part.allJoined back) separator.units
  | .join front child back separator =>
    joinSpanned (Part.allJoined front ++ asPart (child.joined sha256) :: Part.allJoined back)
      separator.units

def IsPlain (part : ContextPart Digest) (content : List UInt16) : Prop :=
  match part.spanned? with
  | none => content = []
  | some spanned => spanned.text = content ∧ (content ≠ [] → spanned.identity = none)

def Joined.lead (separator : List UInt16) (joined : Joined Digest) : List UInt16 :=
  if joined.first then joined.text else joined.text ++ separator

section
variable {separator : List UInt16} {joined : Joined Digest} {part : ContextPart Digest}
  {content : List UInt16}

theorem add_empty (plain : IsPlain part []) : joined.add separator part = joined := by
  unfold IsPlain at plain
  unfold Joined.add
  cases found : part.spanned? with
  | none => rfl
  | some spanned =>
    rw [found] at plain
    dsimp only at plain ⊢
    rw [if_pos plain.1]

theorem add_text {spanned : SpannedText Digest} (found : part.spanned? = some spanned)
    (some : spanned.text ≠ []) :
    joined.add separator part =
      ⟨joined.lead separator ++ spanned.text,
        match joined.identity with
        | .some identity => .some identity
        | none => spanned.identity.map fun identity =>
          offsetIdentitySpan identity (joined.lead separator).length, false⟩ := by
  unfold Joined.add
  rw [found]
  dsimp only
  rw [if_neg some]
  rfl

theorem add_plain (plain : IsPlain part content) (some : content ≠ []) :
    joined.add separator part = ⟨joined.lead separator ++ content, joined.identity, false⟩ := by
  unfold IsPlain at plain
  cases found : part.spanned? with
  | none =>
    rw [found] at plain
    exact absurd plain some
  | some spanned =>
    rw [found] at plain
    dsimp only at plain
    obtain ⟨rfl, unmarked⟩ := plain
    rw [add_text found some, unmarked some]
    cases joined.identity <;> rfl

theorem lead_add_plain (plain : IsPlain part content) (some : content ≠ []) :
    (joined.add separator part).lead separator = joined.lead separator ++ content ++ separator := by
  rw [add_plain plain some]
  rfl

end

theorem foldl_front {separator : List UInt16} {parts : List (ContextPart Digest)}
    {contents : List (List UInt16)} (plain : List.Forall₂ IsPlain parts contents)
    (joined : Joined Digest) (unmarked : joined.identity = none) :
    (parts.foldl (Joined.add separator) joined).identity = none ∧
      (parts.foldl (Joined.add separator) joined).lead separator =
        joined.lead separator ++ (contents.filter (· ≠ [])).flatMap (· ++ separator) := by
  induction plain generalizing joined with
  | nil => simp [unmarked]
  | @cons part content parts contents isPlain plain ih =>
    rw [List.foldl_cons]
    by_cases empty : content = []
    · subst empty
      rw [add_empty isPlain]
      simpa using ih joined unmarked
    · obtain ⟨stillUnmarked, lead⟩ := ih (joined.add separator part)
        (by rw [add_plain isPlain empty]; exact unmarked)
      refine ⟨stillUnmarked, ?_⟩
      rw [lead, lead_add_plain isPlain empty]
      simp [empty]

theorem foldl_back {separator : List UInt16} {parts : List (ContextPart Digest)}
    {contents : List (List UInt16)} (plain : List.Forall₂ IsPlain parts contents)
    (text : List UInt16) (identity : Option (IdentitySegmentSpan Digest)) :
    parts.foldl (Joined.add separator) ⟨text, identity, false⟩ =
      ⟨text ++ (contents.filter (· ≠ [])).flatMap (separator ++ ·), identity, false⟩ := by
  induction plain generalizing text with
  | nil => simp
  | @cons part content parts contents isPlain plain ih =>
    rw [List.foldl_cons]
    by_cases empty : content = []
    · subst empty
      rw [add_empty isPlain, ih]
      simp
    · rw [add_plain isPlain empty, ih]
      simp [Joined.lead, empty]

theorem intercalate_cons (separator text : List UInt16) (texts : List (List UInt16)) :
    separator.intercalate (text :: texts) = text ++ texts.flatMap (separator ++ ·) := by
  induction texts generalizing text with
  | nil => simp [List.intercalate]
  | cons next texts ih =>
    have rest := ih next
    simp only [List.intercalate] at rest ⊢
    rw [List.intersperse_cons_cons, List.flatten_cons, List.flatten_cons, rest, List.flatMap_cons]
    simp

theorem foldl_plain {separator : List UInt16} {parts : List (ContextPart Digest)}
    {contents : List (List UInt16)} (plain : List.Forall₂ IsPlain parts contents) :
    (parts.foldl (Joined.add separator) ⟨[], none, true⟩).text = separated separator contents ∧
      (parts.foldl (Joined.add separator) ⟨[], none, true⟩).identity = none := by
  induction plain with
  | nil => exact ⟨rfl, rfl⟩
  | @cons part content parts contents isPlain plain ih =>
    rw [List.foldl_cons]
    by_cases empty : content = []
    · subst empty
      rw [add_empty isPlain]
      simpa [separated] using ih
    · rw [add_plain isPlain empty, foldl_back plain]
      simp [Joined.lead, separated, empty, intercalate_cons]

theorem joinSpanned_plain {separator : List UInt16} {parts : List (ContextPart Digest)}
    {contents : List (List UInt16)} (plain : List.Forall₂ IsPlain parts contents) :
    IsPlain (asPart (joinSpanned parts separator)) (separated separator contents) := by
  obtain ⟨text, unmarked⟩ := @foldl_plain Digest separator parts contents plain
  unfold joinSpanned
  dsimp only
  split
  · next empty => exact text.symm.trans empty
  · next some => exact ⟨text, fun _ => unmarked⟩

mutual

theorem Part.joined_plain : (part : Part) → IsPlain (part.joined : ContextPart Digest) part.content
  | .absent => rfl
  | .text _ => ⟨rfl, fun _ => rfl⟩
  | .join parts _ => joinSpanned_plain (Part.allJoined_plain parts)

theorem Part.allJoined_plain : (parts : List Part) →
    List.Forall₂ IsPlain (Part.allJoined parts : List (ContextPart Digest)) (Part.contents parts)
  | [] => .nil
  | part :: parts => .cons part.joined_plain (Part.allJoined_plain parts)

end

theorem joinSpanned_spanned {separator : List UInt16} {front back : List Part}
    {part : ContextPart Digest} {spanned : SpannedText Digest}
    {identity : IdentitySegmentSpan Digest} (found : part.spanned? = some spanned)
    (some : spanned.text ≠ []) (marked : spanned.identity = .some identity) :
    joinSpanned (Part.allJoined front ++ part :: Part.allJoined back) separator =
      .some ⟨Assembly.ahead separator front ++ spanned.text ++ Assembly.behind separator back,
        .some (offsetIdentitySpan identity (Assembly.ahead separator front).length)⟩ := by
  obtain ⟨unmarked, lead⟩ := @foldl_front Digest separator _ _ (Part.allJoined_plain front)
    ⟨[], none, true⟩ rfl
  unfold joinSpanned
  rw [List.foldl_append, List.foldl_cons, add_text found some, unmarked, lead,
    foldl_back (Part.allJoined_plain back), marked]
  dsimp only
  rw [if_neg (by simp [some])]
  rfl

theorem text_ne_nil_of_joined {sha256 : List UInt8 → Digest} {tree : Assembly}
    {joined : SpannedText Digest} (isJoined : tree.joined sha256 = some joined) :
    joined.text ≠ [] := by
  have some : ∀ {parts : List (ContextPart Digest)} {separator : List UInt16},
      joinSpanned parts separator = .some joined → joined.text ≠ [] := by
    intro parts separator result
    unfold joinSpanned at result
    dsimp only at result
    split at result
    · cases result
    · next nonempty =>
        cases result
        exact nonempty
  cases tree with
  | around front segment back separator => exact some isJoined
  | join front child back separator => exact some isJoined

theorem joinSpanned_around_plain {separator content : List UInt16} {front back : List Part}
    {part : ContextPart Digest} (plain : IsPlain part content) :
    IsPlain (asPart (joinSpanned (Part.allJoined front ++ part :: Part.allJoined back) separator))
      (separated separator (Part.contents front ++ content :: Part.contents back)) :=
  joinSpanned_plain <| List.rel_append (Part.allJoined_plain front)
    (.cons plain (Part.allJoined_plain back))

end

theorem wellFormed_flatMap {texts : List (List UInt16)} {piece : List UInt16 → List UInt16}
    (whole : ∀ text ∈ texts, Utf16.WellFormed (piece text)) :
    Utf16.WellFormed (texts.flatMap piece) := by
  induction texts with
  | nil => exact Utf16.wellFormed_nil
  | cons text texts ih =>
    rw [List.flatMap_cons]
    exact (whole text List.mem_cons_self).append
      (ih fun other member => whole other (List.mem_cons_of_mem _ member))

theorem wellFormed_separated {separator : List UInt16} {texts : List (List UInt16)}
    (separatorWhole : Utf16.WellFormed separator) (whole : ∀ text ∈ texts, Utf16.WellFormed text) :
    Utf16.WellFormed (separated separator texts) := by
  have kept : ∀ text ∈ texts.filter (· ≠ []), Utf16.WellFormed text :=
    fun text member => whole text (List.mem_of_mem_filter member)
  unfold separated
  generalize texts.filter (· ≠ []) = texts at kept ⊢
  cases texts with
  | nil => exact Utf16.wellFormed_nil
  | cons text texts =>
    rw [intercalate_cons]
    exact (kept text List.mem_cons_self).append
      (wellFormed_flatMap fun other member =>
        separatorWhole.append (kept other (List.mem_cons_of_mem _ member)))

mutual

theorem Part.wellFormed_content : (part : Part) → Utf16.WellFormed part.content
  | .absent => Utf16.wellFormed_nil
  | .text whole => whole.wellFormed
  | .join parts separator =>
    wellFormed_separated separator.wellFormed (Part.wellFormed_contents parts)

theorem Part.wellFormed_contents : (parts : List Part) →
    ∀ content ∈ Part.contents parts, Utf16.WellFormed content
  | [], _, member => absurd member List.not_mem_nil
  | part :: parts, content, member => by
    rcases List.mem_cons.mp member with rfl | later
    · exact part.wellFormed_content
    · exact Part.wellFormed_contents parts content later

end

theorem Assembly.wellFormed_ahead (front : List Part) (separator : Utf16.WholeText) :
    Utf16.WellFormed (ahead separator.units front) :=
  wellFormed_flatMap fun content member =>
    (Part.wellFormed_contents front content (List.mem_of_mem_filter member)).append
      separator.wellFormed

theorem Assembly.wellFormed_behind (back : List Part) (separator : Utf16.WholeText) :
    Utf16.WellFormed (behind separator.units back) :=
  wellFormed_flatMap fun content member =>
    separator.wellFormed.append
      (Part.wellFormed_contents back content (List.mem_of_mem_filter member))

theorem Assembly.wellFormed_before (tree : Assembly) : Utf16.WellFormed tree.before := by
  induction tree with
  | around front segment back separator => exact wellFormed_ahead front separator
  | join front child back separator ih => exact (wellFormed_ahead front separator).append ih

theorem Assembly.wellFormed_after (tree : Assembly) : Utf16.WellFormed tree.after := by
  induction tree with
  | around front segment back separator => exact wellFormed_behind back separator
  | join front child back separator ih => exact ih.append (wellFormed_behind back separator)

/-! ## The body of a segment -/

def opening (segment : List UInt16) : List UInt16 := segment.take (bodyStart segment)

def identityBody (segment : List UInt16) : List UInt16 :=
  slice segment (bodyStart segment) (bodyEnd segment)

def closing (segment : List UInt16) : List UInt16 := segment.drop (bodyEnd segment)

section
variable {segment text before body after : List UInt16}

theorem framed_eq (isFramed : framed segment = true) :
    segment = openTag ++ identityBody segment ++ closeTag ∧
      opening segment = openTag ∧ closing segment = closeTag := by
  have bounds := of_decide_eq_true isFramed
  obtain ⟨long, ⟨behindOpen, rfl⟩, isSuffix⟩ := bounds
  have inside : closeTag <:+ behindOpen := by
    apply List.suffix_of_suffix_length_le isSuffix (List.suffix_append _ _)
    rw [List.length_append] at long
    omega
  obtain ⟨middle, rfl⟩ := inside
  have size : (openTag ++ (middle ++ closeTag)).length - closeTag.length =
      (openTag ++ middle).length := by
    simp only [List.length_append]
    omega
  simp only [opening, closing, identityBody, slice, bodyStart, bodyEnd, isFramed, ↓reduceIte, size]
  rw [List.take_left' rfl, ← List.append_assoc, List.take_left' rfl, List.drop_left' rfl,
    List.drop_left' rfl]
  exact ⟨rfl, rfl, rfl⟩

theorem unframed_eq (isFramed : framed segment = false) :
    identityBody segment = segment ∧ opening segment = [] ∧ closing segment = [] := by
  simp [opening, closing, identityBody, slice, bodyStart, bodyEnd, isFramed]

theorem segment_parts (segment : List UInt16) :
    segment = opening segment ++ identityBody segment ++ closing segment := by
  cases isFramed : framed segment with
  | true =>
    obtain ⟨parts, isOpen, isClose⟩ := framed_eq isFramed
    rw [isOpen, isClose]
    exact parts
  | false =>
    obtain ⟨body, none, nothing⟩ := unframed_eq isFramed
    rw [body, none, nothing, List.nil_append, List.append_nil]

theorem length_opening (segment : List UInt16) : (opening segment).length = bodyStart segment := by
  cases isFramed : framed segment with
  | true =>
    rw [(framed_eq isFramed).2.1]
    simp [bodyStart, isFramed]
  | false =>
    rw [(unframed_eq isFramed).2.1]
    simp [bodyStart, isFramed]

theorem length_opening_body (segment : List UInt16) :
    (opening segment ++ identityBody segment).length = bodyEnd segment := by
  have whole := congrArg List.length (segment_parts segment)
  rw [List.length_append] at whole
  cases isFramed : framed segment with
  | true =>
    rw [(framed_eq isFramed).2.2] at whole
    simp only [bodyEnd, isFramed, ↓reduceIte]
    omega
  | false =>
    rw [(unframed_eq isFramed).2.2, List.length_nil, Nat.add_zero] at whole
    simp only [bodyEnd, isFramed, Bool.false_eq_true, ↓reduceIte]
    exact whole.symm

theorem wellFormed_parts (whole : Utf16.WellFormed segment) :
    Utf16.WellFormed (opening segment) ∧ Utf16.WellFormed (identityBody segment) ∧
      Utf16.WellFormed (closing segment) := by
  cases isFramed : framed segment with
  | true =>
    obtain ⟨parts, isOpen, isClose⟩ := framed_eq isFramed
    have openWhole : Utf16.WellFormed openTag := Utf16.wellFormed_encode _
    rw [isOpen, isClose]
    refine ⟨openWhole, ?_, Utf16.wellFormed_encode _⟩
    rw [parts, List.append_assoc] at whole
    apply (openWhole.of_append whole).of_append_not_low
    intro unit isHead
    have isLess : unit = 0x3C := (Option.some.inj isHead).symm
    rw [isLess]
    decide
  | false =>
    obtain ⟨body, none, nothing⟩ := unframed_eq isFramed
    rw [body, none, nothing]
    exact ⟨Utf16.wellFormed_nil, whole, Utf16.wellFormed_nil⟩

theorem trimEnd_prefix (text : List UInt16) : trimEnd text <+: text :=
  List.rdropWhile_prefix _ text

theorem not_isWhiteSpace_of_isLow {unit : UInt16} (isLow : Utf16.IsLow unit) :
    isWhiteSpace (Char.ofNat unit.toNat) = false := by
  have invalid : ¬ unit.toNat.isValidChar := by
    unfold Utf16.IsLow at isLow
    unfold Nat.isValidChar
    omega
  rw [Char.ofNat, dif_neg invalid]
  rfl

theorem wellFormed_trimEnd (whole : Utf16.WellFormed text) : Utf16.WellFormed (trimEnd text) := by
  have parted := @List.rdropWhile_append_rtakeWhile _
    (fun unit : UInt16 => isWhiteSpace (Char.ofNat unit.toNat)) text
  rw [← parted] at whole
  apply whole.of_append_not_low
  intro unit isHead isLow
  have white := List.mem_rtakeWhile_imp (List.mem_of_head? isHead)
  rw [not_isWhiteSpace_of_isLow isLow] at white
  exact Bool.false_ne_true white

theorem measureContext_trimEnd_le (measure : ContextMeasure) (whole : Utf16.WellFormed text) :
    measureContext (trimEnd text) measure ≤ measureContext text measure := by
  obtain ⟨rest, same⟩ := trimEnd_prefix text
  have sizes := congrArg (measureContext · measure) same
  rw [measureContext_append (wellFormed_trimEnd whole)] at sizes
  omega

theorem slice_middle (before body after : List UInt16) :
    slice (before ++ body ++ after) before.length (before ++ body).length = body := by
  rw [slice, List.take_left' rfl, List.drop_left' rfl]

end

/-! ## Spans -/

section
variable {Digest : Type} (sha256 : List UInt8 → Digest) {before body after : List UInt16}

def spanBetween (before body : List UInt16) : IdentitySegmentSpan Digest :=
  ⟨before.length, (before ++ body).length, some (sha256Hex sha256 body)⟩

theorem identitySpanForSegment_eq (segment : List UInt16) :
    identitySpanForSegment sha256 segment =
      spanBetween sha256 (opening segment) (identityBody segment) := by
  rw [spanBetween, length_opening, length_opening_body]
  rfl

theorem offset_spanBetween (before front body : List UInt16) :
    offsetIdentitySpan (spanBetween sha256 before body) front.length =
      spanBetween sha256 (front ++ before) body := by
  simp only [offsetIdentitySpan, spanBetween, List.length_append]
  push_cast
  ring_nf

private theorem isSafeInteger_natCast {count : Nat} (small : count ≤ maxSafeInteger) :
    isSafeInteger count = true := by
  simp [isSafeInteger, small]

variable [DecidableEq Digest]

theorem verifyIdentitySpan_eq {text : List UInt16} {span : IdentitySegmentSpan Digest}
    (safe : isSafeInteger span.start ∧ isSafeInteger span.stop)
    (bounds : ¬ (span.start < 0 ∨ span.stop < span.start ∨ (text.length : Rat) < span.stop))
    (same : some (sha256Hex sha256 (slice text span.start.num.toNat span.stop.num.toNat)) =
      span.sha256) :
    verifyIdentitySpan sha256 text (some span) = some span := by
  unfold verifyIdentitySpan
  dsimp only
  rw [if_neg (not_not.mpr safe), if_neg bounds, if_neg (not_not.mpr same)]

theorem verify_spanBetween (short : (before ++ body ++ after).length ≤ maxSafeInteger) :
    verifyIdentitySpan sha256 (before ++ body ++ after) (some (spanBetween sha256 before body)) =
      some (spanBetween sha256 before body) := by
  have inner : (before ++ body).length ≤ maxSafeInteger := by
    rw [List.length_append] at short
    omega
  have outer : before.length ≤ maxSafeInteger := by
    rw [List.length_append] at inner
    omega
  apply verifyIdentitySpan_eq
  · exact ⟨isSafeInteger_natCast outer, isSafeInteger_natCast inner⟩
  · simp only [spanBetween, Nat.cast_lt, not_or, not_lt, List.length_append]
    exact ⟨Nat.cast_nonneg _, Nat.le_add_right _ _, Nat.le_add_right _ _⟩
  · simp only [spanBetween, Rat.num_natCast, Int.toNat_natCast, slice_middle]

end

/-! ## Capping -/

/-- What capping may make of a body between two texts. -/
structure CapsBody (markers : PriorityPreservingCapMarkers) (maxUnits : Int)
    (measure : ContextMeasure) (before body after capped : List UInt16) : Prop where
  wellFormed : Utf16.WellFormed capped
  bounded : (measureContext capped measure : Int) ≤ max maxUnits 0
  unchanged : (measureContext (before ++ body ++ after) measure : Int) ≤ maxUnits →
    capped = before ++ body ++ after
  shrunk : maxUnits < measureContext (before ++ body ++ after) measure →
    ∀ marker, marker = (markers.identityTruncated (measureContext body measure) maxUnits).units →
      (measureContext before measure + measureContext marker measure +
        measureContext after measure : Int) ≤ maxUnits →
      ∃ kept, LongestPrefix measure (maxUnits - measureContext before measure -
          measureContext after measure - measureContext marker measure) body kept ∧
        capped = before ++ trimEnd kept ++ marker ++ after

section
variable {Digest : Type} (sha256 : List UInt8 → Digest) [DecidableEq Digest]
  {markers : PriorityPreservingCapMarkers} {maxUnits : Int} {measure : ContextMeasure}
  {text before body after : List UInt16}

theorem cap_of_not_shrunk {input : SpannedText Digest}
    (notShrunk : shrinkIdentityBodyToFit sha256 input maxUnits measure markers = none) :
    capContextPreservingPriority sha256 input maxUnits measure markers =
      capContextPreservingPriority sha256 ⟨input.text, none⟩ maxUnits measure markers := by
  unfold capContextPreservingPriority
  rw [notShrunk]
  rfl

theorem cap_of_not_verified {input : SpannedText Digest}
    (notVerified : verifyIdentitySpan sha256 input.text input.identity = none) :
    capContextPreservingPriority sha256 input maxUnits measure markers =
      capContextPreservingPriority sha256 ⟨input.text, none⟩ maxUnits measure markers := by
  apply cap_of_not_shrunk
  unfold shrinkIdentityBodyToFit
  rw [notVerified]

theorem trimmed_prefix_fits (measure : ContextMeasure) (whole : Utf16.WellFormed text)
    {budget : Int} (notNegative : 0 ≤ budget) :
    Utf16.WellFormed (trimEnd (prefixWithinBudget text budget measure)) ∧
      (measureContext (trimEnd (prefixWithinBudget text budget measure)) measure : Int) ≤ budget := by
  have kept := prefixWithinBudget_longest measure whole notNegative
  refine ⟨wellFormed_trimEnd kept.wellFormed, ?_⟩
  have shorter := measureContext_trimEnd_le measure kept.wellFormed
  have fits := kept.fits
  omega

variable (markers maxUnits measure)

theorem cap_plain_fits (whole : Utf16.WellFormed text) :
    Utf16.WellFormed (capContextPreservingPriority sha256 ⟨text, none⟩ maxUnits measure markers) ∧
      (measureContext (capContextPreservingPriority sha256 ⟨text, none⟩ maxUnits measure markers)
        measure : Int) ≤ max maxUnits 0 := by
  unfold capContextPreservingPriority
  dsimp only [shrinkIdentityBodyToFit, verifyIdentitySpan]
  split
  · next fits => exact ⟨whole, by omega⟩
  · split
    · by_cases notNegative : 0 ≤ maxUnits
      · have kept := prefixWithinBudget_longest measure whole notNegative
        exact ⟨kept.wellFormed, by have fits := kept.fits; omega⟩
      · rw [prefixWithinBudget_nonpos (by omega), measureContext_nil]
        exact ⟨Utf16.wellFormed_nil, by omega⟩
    · next room =>
        generalize marked : markers.contextTruncated (measureContext text measure) maxUnits =
          marker at room ⊢
        have left : 0 ≤ maxUnits - measureContext marker.units measure := by omega
        obtain ⟨trimmedWhole, fits⟩ := trimmed_prefix_fits measure whole left
        refine ⟨trimmedWhole.append marker.wellFormed, ?_⟩
        rw [measureContext_append trimmedWhole]
        omega

section
variable (short : (before ++ body ++ after).length ≤ maxSafeInteger)
include short

theorem shrink_spanBetween :
    shrinkIdentityBodyToFit sha256 ⟨before ++ body ++ after, some (spanBetween sha256 before body)⟩
        maxUnits measure markers =
      let marker := (markers.identityTruncated (measureContext body measure) maxUnits).units
      let keep := maxUnits - measureContext before measure - measureContext after measure -
        measureContext marker measure
      if keep < 0 then none
      else some (before ++ trimEnd (prefixWithinBudget body keep measure) ++ marker ++ after) := by
  have front : (before ++ body ++ after).take before.length = before := by
    rw [List.append_assoc, List.take_left' rfl]
  have rest : (before ++ body ++ after).drop (before ++ body).length = after :=
    List.drop_left' rfl
  unfold shrinkIdentityBodyToFit
  rw [verify_spanBetween sha256 short]
  simp only [spanBetween, Rat.num_natCast, Int.toNat_natCast, slice_middle, front, rest]

theorem cap_spanBetween (beforeWhole : Utf16.WellFormed before) (bodyWhole : Utf16.WellFormed body)
    (afterWhole : Utf16.WellFormed after) :
    CapsBody markers maxUnits measure before body after
      (capContextPreservingPriority sha256
        ⟨before ++ body ++ after, some (spanBetween sha256 before body)⟩ maxUnits measure
        markers) := by
  have whole := (beforeWhole.append bodyWhole).append afterWhole
  have shrink := shrink_spanBetween sha256 markers maxUnits measure short
  dsimp only at shrink
  generalize marked : markers.identityTruncated (measureContext body measure) maxUnits = marker
    at shrink
  by_cases fits : (measureContext (before ++ body ++ after) measure : Int) ≤ maxUnits
  · have same : capContextPreservingPriority sha256
        ⟨before ++ body ++ after, some (spanBetween sha256 before body)⟩ maxUnits measure markers =
        before ++ body ++ after := if_pos fits
    rw [same]
    exact ⟨whole, by omega, fun _ => rfl, fun past => by omega⟩
  · by_cases room : maxUnits - measureContext before measure - measureContext after measure -
        measureContext marker.units measure < 0
    · rw [if_pos room] at shrink
      rw [cap_of_not_shrunk sha256 shrink]
      obtain ⟨cappedWhole, bounded⟩ := cap_plain_fits sha256 markers maxUnits measure whole
      refine ⟨cappedWhole, bounded, fun fit => absurd fit fits, ?_⟩
      rintro past _ rfl around
      rw [marked] at around
      omega
    · rw [if_neg room] at shrink
      have same : capContextPreservingPriority sha256
          ⟨before ++ body ++ after, some (spanBetween sha256 before body)⟩ maxUnits measure
          markers = before ++ trimEnd (prefixWithinBudget body (maxUnits -
            measureContext before measure - measureContext after measure -
              measureContext marker.units measure) measure) ++ marker.units ++ after := by
        unfold capContextPreservingPriority
        rw [if_neg fits, shrink]
      obtain ⟨trimmedWhole, trimmedFits⟩ := trimmed_prefix_fits measure bodyWhole
        (Int.not_lt.mp room)
      have frontWhole := beforeWhole.append trimmedWhole
      have markedWhole := frontWhole.append marker.wellFormed
      rw [same]
      refine ⟨markedWhole.append afterWhole, ?_, fun fit => absurd fit fits, ?_⟩
      · rw [measureContext_append markedWhole, measureContext_append frontWhole,
          measureContext_append beforeWhole]
        omega
      · rintro past _ rfl around
        rw [marked]
        exact ⟨_, prefixWithinBudget_longest measure bodyWhole (Int.not_lt.mp room), rfl⟩

end

end

/-! ## Whole prompts -/

section
variable {Digest : Type} (sha256 : List UInt8 → Digest)

def Assembly.text (tree : Assembly) : List UInt16 := tree.before ++ tree.segment.units ++ tree.after

def Assembly.kept (tree : Assembly) : List UInt16 := tree.before ++ opening tree.segment.units

def Assembly.body (tree : Assembly) : List UInt16 := identityBody tree.segment.units

def Assembly.rest (tree : Assembly) : List UInt16 := closing tree.segment.units ++ tree.after

theorem Assembly.text_eq (tree : Assembly) : tree.text = tree.kept ++ tree.body ++ tree.rest := by
  unfold text kept body rest
  nth_rewrite 1 [segment_parts tree.segment.units]
  simp only [List.append_assoc]

theorem Assembly.joined_eq (tree : Assembly) (some : tree.segment.units ≠ []) :
    tree.joined sha256 = .some ⟨tree.text, .some (spanBetween sha256 tree.kept tree.body)⟩ := by
  induction tree with
  | around front segment back separator =>
    rw [joined, joinSpanned_spanned rfl some rfl, identitySpanForSegment_eq, offset_spanBetween]
    rfl
  | join front child back separator ih =>
    have nonempty : child.text ≠ [] := by
      intro empty
      unfold text at empty
      exact some (List.append_eq_nil_iff.mp (List.append_eq_nil_iff.mp empty).1).2
    rw [joined, ih some, asPart, joinSpanned_spanned rfl nonempty rfl, offset_spanBetween]
    simp only [text, kept, body, segment, before, after, List.append_assoc]

theorem Assembly.joined_of_empty (tree : Assembly) (none : tree.segment.units = []) :
    ∃ content, Utf16.WellFormed content ∧ IsPlain (asPart (tree.joined sha256)) content := by
  have around : ∀ (front back : List Part) (separator : Utf16.WholeText) (content : List UInt16)
      (part : ContextPart Digest), Utf16.WellFormed content → IsPlain part content →
      ∃ content, Utf16.WellFormed content ∧ IsPlain (asPart (joinSpanned
        (Part.allJoined front ++ part :: Part.allJoined back) separator.units)) content := by
    intro front back separator content part whole plain
    refine ⟨_, wellFormed_separated separator.wellFormed ?_, joinSpanned_around_plain plain⟩
    intro text member
    rcases List.mem_append.mp member with inFront | inBack
    · exact Part.wellFormed_contents front text inFront
    · rcases List.mem_cons.mp inBack with rfl | later
      · exact whole
      · exact Part.wellFormed_contents back text later
  induction tree with
  | around front segment back separator =>
    exact around front back separator [] _ Utf16.wellFormed_nil
      ⟨none, fun nonempty => absurd rfl nonempty⟩
  | join front child back separator ih =>
    obtain ⟨content, whole, plain⟩ := ih none
    exact around front back separator content _ whole plain

end

section
variable {Digest : Type} [DecidableEq Digest]

/-- However a prompt is put together, its span covers the body of its identity segment, and capping
shortens that body alone. An empty segment leaves no span, and a span that does not verify is no
span: the text is then truncated as a whole. -/
theorem joined_capped (sha256 : List UInt8 → Digest) :
    (∀ tree : Assembly, tree.segment.units = [] → ∀ joined, tree.joined sha256 = some joined →
      joined.identity = none ∧ Utf16.WellFormed joined.text) ∧
    (∀ tree : Assembly, tree.segment.units ≠ [] → tree.text.length ≤ maxSafeInteger →
      ∃ joined span, tree.joined sha256 = some joined ∧ joined.identity = some span ∧
        joined.text = tree.kept ++ tree.body ++ tree.rest ∧
        span = ⟨tree.kept.length, (tree.kept ++ tree.body).length,
          some (sha256Hex sha256 tree.body)⟩ ∧
        verifyIdentitySpan sha256 joined.text (some span) = some span ∧
        ∀ markers maxUnits measure, CapsBody markers maxUnits measure tree.kept tree.body tree.rest
          (capContextPreservingPriority sha256 joined maxUnits measure markers)) ∧
    ∀ text identity, verifyIdentitySpan sha256 text identity = none →
      ∀ markers maxUnits measure,
        capContextPreservingPriority sha256 ⟨text, identity⟩ maxUnits measure markers =
          capContextPreservingPriority sha256 ⟨text, none⟩ maxUnits measure markers ∧
        (Utf16.WellFormed text →
          Utf16.WellFormed (capContextPreservingPriority sha256 ⟨text, none⟩ maxUnits measure
            markers) ∧
          (measureContext (capContextPreservingPriority sha256 ⟨text, none⟩ maxUnits measure
            markers) measure : Int) ≤ max maxUnits 0) := by
  refine ⟨?_, ?_, ?_⟩
  · intro tree empty joined isJoined
    obtain ⟨content, whole, plain⟩ := tree.joined_of_empty sha256 empty
    rw [isJoined] at plain
    obtain ⟨rfl, unmarked⟩ := plain
    refine ⟨unmarked ?_, whole⟩
    exact text_ne_nil_of_joined isJoined
  · intro tree nonempty short
    have parts := wellFormed_parts tree.segment.wellFormed
    rw [tree.text_eq] at short
    refine ⟨_, _, tree.joined_eq sha256 nonempty, rfl, tree.text_eq, rfl, ?_, ?_⟩
    · rw [tree.text_eq]
      exact verify_spanBetween sha256 short
    · intro markers maxUnits measure
      rw [tree.text_eq]
      exact cap_spanBetween sha256 markers maxUnits measure short
        (tree.wellFormed_before.append parts.1) parts.2.1 (parts.2.2.append tree.wellFormed_after)
  · intro text identity notVerified markers maxUnits measure
    exact ⟨cap_of_not_verified sha256 notVerified, fun whole =>
      cap_plain_fits sha256 markers maxUnits measure whole⟩

end

section Fixed

/-- The digest of `hi` is the real one, and the other texts get digests of their own. -/
def fixedSha256 (bytes : List UInt8) : List Char :=
  if bytes = Utf8.encode "hi".toList then
    "8f434346648f6b96df89dda901c5176b10a6d83961dd3c1ac88b59b2dc327aa4".toList
  else '-' :: bytes.map fun byte => Char.ofNat byte.toNat

def fixedText (text : String) : Utf16.WholeText :=
  ⟨Utf16.encode text.toList, Utf16.wellFormed_encode _⟩

/-- A framed identity between a head and a contract. -/
def framedPrompt : Assembly :=
  .join [.text (fixedText "Context:\n")]
    (.around [.absent, .text (fixedText "head")]
      (fixedText "<imcodes-agent-identity>hi</imcodes-agent-identity>")
      [.text (fixedText "contract")] (fixedText "\n\n"))
    [] (fixedText "")

theorem joined_capped_framed :
    ∃ joined span, framedPrompt.joined fixedSha256 = some joined ∧ joined.identity = some span ∧
      joined.text = framedPrompt.kept ++ framedPrompt.body ++ framedPrompt.rest ∧
      span = ⟨framedPrompt.kept.length, (framedPrompt.kept ++ framedPrompt.body).length,
        some (sha256Hex fixedSha256 framedPrompt.body)⟩ ∧
      verifyIdentitySpan fixedSha256 joined.text (some span) = some span ∧
      ∀ markers maxUnits measure, CapsBody markers maxUnits measure framedPrompt.kept
        framedPrompt.body framedPrompt.rest
        (capContextPreservingPriority fixedSha256 joined maxUnits measure markers) :=
  (joined_capped fixedSha256).2.1 framedPrompt (by decide +kernel) (by decide +kernel)

def unidentifiedPrompt : Assembly :=
  .around [.text (fixedText "head")] (fixedText "") [] (fixedText "\n\n")

/-- The empty segment leaves no span that could verify, and no text is short enough for a negative
budget. -/
theorem joined_unidentified :
    unidentifiedPrompt.joined fixedSha256 = some ⟨Utf16.encode "head".toList, none⟩ ∧
      ¬ (∃ span, verifyIdentitySpan fixedSha256 (Utf16.encode "head".toList) none = some span) ∧
      ¬ (measureContext (capContextPreservingPriority fixedSha256
        ⟨Utf16.encode "head".toList, none⟩ (-1) .utf8
        ⟨fun _ _ => fixedText "[cut]", fun _ _ => fixedText "[cut]"⟩) .utf8 : Int) ≤ -1 := by
  refine ⟨rfl, ?_, ?_⟩
  · rintro ⟨span, verified⟩
    cases verified
  · decide +kernel

end Fixed

end ImCodes.Agent.ContextCap
