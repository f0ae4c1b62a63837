import ImCodes.Library.Utf8
import ImCodes.Library.TornLines

/-!
# The last lines of a timeline file

The file of a session is read backwards in chunks of a fixed size. Each chunk is decoded by itself,
so a character on both sides of a border between two chunks is torn. The lines that are returned are
those of the file exactly if none of their characters is.
-/

set_option autoImplicit false

namespace ImCodes.Timeline

open Library

/-- `CHUNK_SIZE`. -/
def chunkSize : Nat := 64 * 1024

/-- The loop over the complete lines of a chunk, from the last one on. -/
def pushLines (maxLines : Nat) (lines : List (List Char)) : List (List Char) → List (List Char)
  | [] => lines
  | part :: parts =>
    if 0 < part.length then
      if maxLines ≤ (lines ++ [part]).length then lines ++ [part]
      else pushLines maxLines (lines ++ [part]) parts
    else pushLines maxLines lines parts

/-- The loop over the chunks: the partial line that remains, and the lines. -/
def readChunks (file : List UInt8) (maxLines position : Nat) (remaining : List Char)
    (lines : List (List Char)) : List Char × List (List Char) :=
  if 0 < position ∧ lines.length < maxLines then
    let readSize := min chunkSize position
    let start := position - readSize
    let buf := (file.drop start).take readSize
    let chunk := Utf8.decode buf ++ remaining
    let parts := chunk.splitOn '\n'
    readChunks file maxLines start (parts.headD []) (pushLines maxLines lines parts.tail.reverse)
  else (remaining, lines)
termination_by position
decreasing_by
  unfold chunkSize
  omega

def pushRemaining (maxLines : Nat) (remaining : List Char) (lines : List (List Char)) :
    List (List Char) :=
  if 0 < remaining.length ∧ lines.length < maxLines then lines ++ [remaining] else lines

/-- `none` is a file that cannot be opened. -/
def readTailLines (file : Option (List UInt8)) (maxLines : Nat) : List (List Char) :=
  match file with
  | none => []
  | some file =>
    if file.length = 0 then []
    else
      let (remaining, lines) := readChunks file maxLines file.length [] []
      pushRemaining maxLines remaining lines

/-! ## What the loops come to -/

theorem pushLines_eq {maxLines : Nat} {lines parts : List (List Char)}
    (room : lines.length < maxLines) :
    pushLines maxLines lines parts =
      lines ++ (parts.filter fun part => !part.isEmpty).take (maxLines - lines.length) := by
  induction parts generalizing lines with
  | nil => simp [pushLines]
  | cons part parts ih =>
    cases part with
    | nil => simpa [pushLines] using ih room
    | cons c part =>
      obtain ⟨left, count⟩ : ∃ left, maxLines - lines.length = left + 1 :=
        ⟨maxLines - lines.length - 1, by omega⟩
      rw [pushLines, if_pos (by simp)]
      split
      · next full =>
          have last : left = 0 := by
            rw [List.length_append, List.length_singleton] at full
            omega
          simp [count, last]
      · next more =>
          rw [List.length_append, List.length_singleton] at more
          have rest : maxLines - (lines ++ [c :: part]).length = left := by
            rw [List.length_append, List.length_singleton]
            omega
          rw [ih (by rw [List.length_append, List.length_singleton]; omega), rest, count]
          simp

/-- What the chunks are decoded to, all together. -/
def decodeChunks (bytes : List UInt8) : List Char :=
  if bytes.length = 0 then []
  else
    decodeChunks (bytes.take (bytes.length - chunkSize)) ++
      Utf8.decode (bytes.drop (bytes.length - chunkSize))
termination_by bytes.length
decreasing_by
  rw [List.length_take]
  unfold chunkSize
  omega

theorem decodeChunks_step {file : List UInt8} {position : Nat} (inside : position ≤ file.length)
    (more : 0 < position) :
    decodeChunks (file.take position) =
      decodeChunks (file.take (position - min chunkSize position)) ++
        Utf8.decode ((file.drop (position - min chunkSize position)).take
          (min chunkSize position)) := by
  have size : (file.take position).length = position := List.length_take_of_le inside
  have start : position - chunkSize = position - min chunkSize position := by omega
  have read : position - (position - min chunkSize position) = min chunkSize position := by omega
  have fewer : min (position - min chunkSize position) position =
      position - min chunkSize position := by omega
  rw [decodeChunks, size, if_neg (Nat.ne_of_gt more), start, List.take_take, fewer,
    List.drop_take, read]

theorem lastLines_append {β : Type} (count : Nat) (front back : List (List β)) :
    lastLines count (front ++ back) =
      (back.reverse.filter fun line => !line.isEmpty).take count ++
        lastLines (count - (back.reverse.filter fun line => !line.isEmpty).length) front := by
  rw [lastLines, lastLines, List.filter_append, List.reverse_append, List.take_append,
    List.filter_reverse]

theorem readChunks_eq {file : List UInt8} {maxLines position : Nat} {remaining : List Char}
    {lines : List (List Char)} (inside : position ≤ file.length) (free : '\n' ∉ remaining)
    (room : lines.length ≤ maxLines) :
    pushRemaining maxLines (readChunks file maxLines position remaining lines).1
        (readChunks file maxLines position remaining lines).2 =
      lines ++ lastLines (maxLines - lines.length)
        ((decodeChunks (file.take position) ++ remaining).splitOn '\n') := by
  induction position using Nat.strongRecOn generalizing remaining lines with
  | _ position ih =>
    by_cases more : 0 < position ∧ lines.length < maxLines
    · rw [readChunks, if_pos more]
      dsimp only
      rw [decodeChunks_step inside more.1, List.append_assoc]
      generalize isChunk : Utf8.decode ((file.drop (position - min chunkSize position)).take
        (min chunkSize position)) ++ remaining = chunk
      have smaller : position - min chunkSize position < position := by
        unfold chunkSize
        omega
      cases split : chunk.splitOn '\n' with
      | nil => exact absurd split (List.splitOn_ne_nil _ _)
      | cons first others =>
        simp only [List.headD_cons, List.tail_cons]
        rw [pushLines_eq more.2, splitOn_append split, lastLines_append,
          ← List.append_assoc]
        generalize (others.reverse.filter fun part => !part.isEmpty) = read
        have size : (lines ++ read.take (maxLines - lines.length)).length =
            lines.length + min (maxLines - lines.length) read.length := by
          rw [List.length_append, List.length_take]
        rw [ih _ smaller (by omega) (splitOn_first_free split) (by omega), size]
        congr 2
        omega
    · rw [readChunks, if_neg more]
      dsimp only
      by_cases full : lines.length < maxLines
      · have done : position = 0 := by omega
        subst done
        rw [List.take_zero, decodeChunks, if_pos List.length_nil, List.nil_append,
          List.splitOn_eq_singleton free]
        obtain ⟨left, count⟩ : ∃ left, maxLines - lines.length = left + 1 :=
          ⟨maxLines - lines.length - 1, by omega⟩
        rw [count]
        cases remaining with
        | nil => simp [pushRemaining, lastLines]
        | cons c rest => simp [pushRemaining, lastLines, full]
      · have none : maxLines - lines.length = 0 := by omega
        rw [pushRemaining, if_neg fun both => full both.2, none]
        simp [lastLines]

theorem readTailLines_eq (file : List UInt8) (maxLines : Nat) :
    readTailLines (some file) maxLines =
      lastLines maxLines ((decodeChunks file).splitOn '\n') := by
  unfold readTailLines
  dsimp only
  split
  · next empty =>
      rw [decodeChunks, if_pos empty]
      simp [lastLines]
  · have room : ([] : List (List Char)).length ≤ maxLines := Nat.zero_le maxLines
    have read := readChunks_eq (Nat.le_refl file.length) List.not_mem_nil room
    rw [List.take_length, List.append_nil] at read
    simpa using read

/-! ## Torn characters -/

def isTorn (after : Nat) (c : Char) : Bool :=
  decide (after / chunkSize < (after + (String.utf8EncodeChar c).length - 1) / chunkSize)

def tornChars (after : Nat) : List Char → List (Char × Bool)
  | [] => []
  | c :: rest => (c, isTorn (after + (Utf8.encode rest).length) c) :: tornChars after rest

theorem map_fst_tornChars (after : Nat) (text : List Char) :
    (tornChars after text).map Prod.fst = text := by
  induction text with
  | nil => rfl
  | cons c text ih => rw [tornChars, List.map_cons, ih]

theorem tornChars_append (after : Nat) (front back : List Char) :
    tornChars after (front ++ back) =
      tornChars (after + (Utf8.encode back).length) front ++ tornChars after back := by
  induction front with
  | nil => rfl
  | cons c front ih =>
    rw [List.cons_append, tornChars, tornChars, ih, Utf8.encode_append, List.length_append,
      List.cons_append, Nat.add_assoc, Nat.add_comm (Utf8.encode back).length]

theorem isTorn_add (after : Nat) (c : Char) : isTorn (after + chunkSize) c = isTorn after c := by
  have pos : 0 < chunkSize := by decide
  have size := Utf8.encodeChar_length_pos c
  have later : after + chunkSize + (String.utf8EncodeChar c).length - 1 =
      after + (String.utf8EncodeChar c).length - 1 + chunkSize := by omega
  rw [isTorn, isTorn, later, Nat.add_div_right _ pos, Nat.add_div_right _ pos]
  simp

theorem tornChars_add (after : Nat) (text : List Char) :
    tornChars (after + chunkSize) text = tornChars after text := by
  induction text with
  | nil => rfl
  | cons c text ih =>
    rw [tornChars, tornChars, ih, Nat.add_right_comm, isTorn_add]

theorem tornChars_within {after : Nat} {text : List Char}
    (short : after + (Utf8.encode text).length ≤ chunkSize) :
    tornChars after text = text.map fun c => (c, false) := by
  induction text with
  | nil => rfl
  | cons c text ih =>
    have size := Utf8.encodeChar_length_pos c
    rw [Utf8.encode_cons, List.length_append] at short
    have whole : isTorn (after + (Utf8.encode text).length) c = false := by
      rw [isTorn, Nat.div_eq_of_lt (by omega), Nat.div_eq_of_lt (by omega)]
      rfl
    rw [tornChars, ih (by omega), whole, List.map_cons]

def IsCut (bytes : List UInt8) : Prop :=
  ∃ c taken, 0 < taken ∧ taken < (String.utf8EncodeChar c).length ∧
    bytes = (String.utf8EncodeChar c).take taken

theorem IsCut.decode {bytes : List UInt8} (isCut : IsCut bytes) :
    Utf8.decodeFrom none bytes = [Utf8.replacement] := by
  obtain ⟨c, taken, some, short, rfl⟩ := isCut
  exact (Utf8.isEncoded_encodeChar c).decodeFrom_take some short

theorem IsCut.length {bytes : List UInt8} (isCut : IsCut bytes) :
    0 < bytes.length ∧ bytes.length < 4 := by
  obtain ⟨c, taken, some, short, rfl⟩ := isCut
  have size := Utf8.encodeChar_length_le c
  rw [List.length_take]
  omega

private theorem decodeChunks_within {bytes : List UInt8} (short : bytes.length ≤ chunkSize) :
    decodeChunks bytes = Utf8.decode bytes := by
  rw [decodeChunks, Nat.sub_eq_zero_of_le short, List.take_zero, List.drop_zero, decodeChunks,
    if_pos List.length_nil, List.nil_append]
  split
  · next empty =>
      rw [List.length_eq_zero_iff.mp empty]
      rfl
  · rfl

private theorem decodeChunks_append {front back : List UInt8} (size : back.length = chunkSize) :
    decodeChunks (front ++ back) = decodeChunks front ++ Utf8.decode back := by
  have pos : 0 < chunkSize := by decide
  have start : (front ++ back).length - chunkSize = front.length := by
    rw [List.length_append]
    omega
  have some : (front ++ back).length ≠ 0 := by
    rw [List.length_append]
    omega
  rw [decodeChunks, if_neg some, start, List.take_left, List.drop_left]

private theorem isTorn_across {after taken : Nat} {c : Char} (some : 0 < taken)
    (short : taken < (String.utf8EncodeChar c).length) (more : 0 < after)
    (border : (String.utf8EncodeChar c).length - taken + after = chunkSize) :
    isTorn after c = true := by
  have below : after / chunkSize = 0 := Nat.div_eq_of_lt (by omega)
  have above : 0 < (after + (String.utf8EncodeChar c).length - 1) / chunkSize :=
    Nat.div_pos (by omega) (by omega)
  rw [isTorn, below]
  exact decide_eq_true above

private theorem ne_lineFeed {c : Char} (long : 1 < (String.utf8EncodeChar c).length) :
    (c == '\n') = false := by
  rw [beq_eq_false_iff_ne]
  intro same
  subst same
  revert long
  decide

theorem shows_decodeChunks (text : List Char) (cut : List UInt8) (isCut : cut = [] ∨ IsCut cut) :
    ∃ shown, decodeChunks (Utf8.encode text ++ cut) = shown ++ Utf8.decode cut ∧
      Shows '\n' (tornChars cut.length text) shown := by
  have cutSize : cut.length < 4 := by
    rcases isCut with rfl | isCut
    · decide
    · exact isCut.length.2
  have atLeast : 4 ≤ chunkSize := by decide
  induction size : text.length using Nat.strongRecOn generalizing text cut with
  | _ size ih =>
    subst size
    by_cases within : (Utf8.encode text ++ cut).length ≤ chunkSize
    · refine ⟨text, ?_, ?_⟩
      · rw [decodeChunks_within within, Utf8.decode, Utf8.decodeFrom_encode]
        rfl
      · rw [List.length_append] at within
        rw [tornChars_within (by omega)]
        exact shows_of_unmarked
    · rw [List.length_append] at within
      have inside : (Utf8.encode text).length + cut.length - chunkSize ≤
          (Utf8.encode text).length := by omega
      rcases Utf8.encode_cut inside with
        ⟨before, after, same, size⟩ | ⟨before, c, after, taken, same, some, short, size⟩
      · -- The border is between two characters.
        subst same
        rw [Utf8.encode_append, List.length_append] at within size
        have chunk : (Utf8.encode after ++ cut).length = chunkSize := by
          rw [List.length_append]
          omega
        have smaller : before.length < (before ++ after).length := by
          rw [List.length_append]
          cases after with
          | nil =>
            rw [Utf8.encode_nil, List.nil_append] at chunk
            omega
          | cons c after => simp
        obtain ⟨shown, decoded, shows⟩ :=
          ih before.length smaller before [] (.inl rfl) (by decide) rfl
        have whole : tornChars cut.length after = after.map fun c => (c, false) := by
          apply tornChars_within
          rw [List.length_append] at chunk
          omega
        have shifted : cut.length + (Utf8.encode after).length =
            ([] : List UInt8).length + chunkSize := by
          rw [List.length_append] at chunk
          rw [List.length_nil]
          omega
        refine ⟨shown ++ after, ?_, ?_⟩
        · have empty : Utf8.decode [] = [] := rfl
          rw [List.append_nil] at decoded
          rw [Utf8.encode_append, List.append_assoc, decodeChunks_append chunk, decoded, empty,
            List.append_nil, Utf8.decode, Utf8.decodeFrom_encode, List.append_assoc, Utf8.decode]
        · rw [tornChars_append, shifted, tornChars_add, whole]
          exact shows.append shows_of_unmarked
      · -- The border is within a character.
        subst same
        generalize isBytes : String.utf8EncodeChar c = bytes at short
        have encoded : Utf8.encode (before ++ c :: after) =
            (Utf8.encode before ++ bytes.take taken) ++
              (bytes.drop taken ++ Utf8.encode after) := by
          rw [Utf8.encode_append, Utf8.encode_cons, isBytes, List.append_assoc,
            ← List.append_assoc (bytes.take taken), List.take_append_drop]
        have chunk : (bytes.drop taken ++ Utf8.encode after ++ cut).length = chunkSize := by
          rw [encoded] at within size
          simp only [List.length_append, List.length_take, List.length_drop] at within size ⊢
          omega
        have smaller : before.length < (before ++ c :: after).length := by simp
        have isPart : IsCut (bytes.take taken) :=
          ⟨c, taken, some, isBytes ▸ short, by rw [isBytes]⟩
        obtain ⟨shown, decoded, shows⟩ := ih before.length smaller before (bytes.take taken)
          (.inr isPart) isPart.length.2 rfl
        have tails : ∀ byte ∈ bytes.drop taken, Utf8.IsTail byte :=
          isBytes ▸ (Utf8.isEncoded_encodeChar c).isTail_drop some
        have instead : Utf8.decode (bytes.drop taken ++ Utf8.encode after ++ cut) =
            List.replicate (bytes.drop taken).length Utf8.replacement ++
              (after ++ Utf8.decode cut) := by
          rw [Utf8.decode, List.append_assoc, Utf8.decodeFrom_tails tails,
            Utf8.decodeFrom_encode, Utf8.decode]
        refine ⟨shown ++ ((Utf8.replacement ::
          List.replicate (bytes.drop taken).length Utf8.replacement) ++ after), ?_, ?_⟩
        · rw [encoded, List.append_assoc, decodeChunks_append chunk, decoded, instead, Utf8.decode,
            isPart.decode]
          simp
        · rw [List.length_append, List.length_append, List.length_drop] at chunk
          have longest := Utf8.encodeChar_length_le c
          rw [isBytes] at longest
          have torn : isTorn (cut.length + (Utf8.encode after).length) c = true :=
            isTorn_across some (isBytes ▸ short) (by omega) (by rw [isBytes]; omega)
          have whole : tornChars cut.length after = after.map fun c => (c, false) :=
            tornChars_within (by omega)
          have shifted : cut.length + (Utf8.encode (c :: after)).length =
              (bytes.take taken).length + chunkSize := by
            rw [Utf8.encode_cons, List.length_append, isBytes, List.length_take]
            omega
          rw [tornChars_append, shifted, tornChars_add, tornChars, torn, whole]
          refine shows.append (.torn c _ ?_ ?_ (ne_lineFeed ?_) shows_of_unmarked)
          · rw [List.length_cons, List.length_replicate, List.length_drop]
            omega
          · rw [← List.replicate_succ, List.mem_replicate]
            rintro ⟨_, same⟩
            exact absurd same (by decide)
          · rw [isBytes]
            omega

/-! ## The lines that are returned -/

def Untorn (text : List Char) (maxLines : Nat) : Prop :=
  ∀ line ∈ lastLines maxLines (markedLines '\n' (tornChars 0 text)), ∀ entry ∈ line,
    entry.2 = false

/-- The last lines of a file are read as they are exactly if none of their characters is torn. -/
theorem tail_lines_kept_iff (text : List Char) (maxLines : Nat) :
    readTailLines (some (Utf8.encode text)) maxLines = lastLines maxLines (text.splitOn '\n') ↔
      Untorn text maxLines := by
  obtain ⟨shown, decoded, shows⟩ := shows_decodeChunks text [] (.inl rfl)
  have empty : Utf8.decode [] = [] := rfl
  have kept := shows.lastLines_iff maxLines
  rw [map_fst_tornChars] at kept
  rw [List.append_nil, empty, List.append_nil] at decoded
  rw [readTailLines_eq, decoded, kept]
  rfl

section FixedRuns

private theorem torn_of_first {c : Char} {rest : List Char} (noEnd : '\n' ∉ c :: rest)
    (torn : isTorn (Utf8.encode rest).length c = true) : ¬Untorn (c :: rest) 1 := by
  have oneLine : ∀ entry ∈ tornChars 0 (c :: rest), (entry.1 == '\n') = false := by
    intro entry member
    have among := List.mem_map_of_mem (f := Prod.fst) member
    rw [map_fst_tornChars] at among
    rw [beq_eq_false_iff_ne]
    intro same
    exact noEnd (same ▸ among)
  have line : lastLines 1 (markedLines '\n' (tornChars 0 (c :: rest))) =
      [tornChars 0 (c :: rest)] := by
    rw [markedLines, List.splitOnP_eq_singleton oneLine]
    rfl
  intro untorn
  have first := untorn (tornChars 0 (c :: rest)) (by rw [line]; exact List.mem_cons_self)
  rw [tornChars, Nat.zero_add] at first
  have whole := first _ List.mem_cons_self
  exact absurd (whole.symm.trans torn) (by decide)

private theorem encode_replicate (count : Nat) :
    (Utf8.encode (List.replicate count 'a')).length = count := by
  induction count with
  | zero => rfl
  | succ count ih =>
    rw [List.replicate_succ, Utf8.encode_cons, List.length_append, ih, Nat.add_comm]
    rfl

private def tornLine : List Char := 'é' :: List.replicate 65535 'a'

/-- The border between the two chunks of the file is within its first character. -/
theorem readTailLines_tears :
    readTailLines (some (Utf8.encode tornLine)) 1 ≠ lastLines 1 (tornLine.splitOn '\n') := by
  obtain ⟨shown, decoded, shows⟩ := shows_decodeChunks tornLine [] (.inl rfl)
  have empty : Utf8.decode [] = [] := rfl
  have kept := shows.lastLines_iff 1
  rw [map_fst_tornChars, List.length_nil] at kept
  rw [List.append_nil, empty, List.append_nil] at decoded
  rw [readTailLines_eq, decoded, Ne, kept]
  apply torn_of_first
  · rw [List.mem_cons, List.mem_replicate]
    rintro (same | ⟨_, same⟩)
    · exact absurd same (by decide)
    · exact absurd same (by decide)
  · rw [encode_replicate]
    decide

end FixedRuns

end ImCodes.Timeline
