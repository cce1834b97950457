/-
ExaWire/Proofs/Import/Chunked.lean

Bodies read back.

`Chunked.decode` is what a strict receiver does with a body: a size in hexadecimal
digits, the end of its line, so many bytes and the end of a line again, until a size
of zero is followed by an empty line and nothing else.  There is no room for
extensions, for trailers or for bytes behind the end.

What is decoded is never looked at, so the bytes of a piece may be anything, even
another body.  A piece must not be empty, because a size of zero ends the body.

No body is the beginning of another one: a chunk is known by its own bytes, whatever
follows it, and only an empty chunk is an end.  So a body that was cut off anywhere is
refused, though its first chunks may be there in full (`decode_of_cut`).
-/
import ExaWire.Import.Chunked

namespace ExaWire.Import.Chunked

/-! ### Reading -/

/-- The value of a hexadecimal digit. -/
def digit? (b : UInt8) : Option Nat :=
  let n := b.toNat
  if 48 ≤ n ∧ n ≤ 57 then some (n - 48)
  else if 97 ≤ n ∧ n ≤ 102 then some (n - 87)
  else if 65 ≤ n ∧ n ≤ 70 then some (n - 55)
  else none

/-- Reads digits as long as there are some; `size` is the value of those before, if there
were any. -/
def readDigits (size : Option Nat) : Bytes → Option Nat × Bytes
  | [] => (size, [])
  | b :: bs =>
    match digit? b with
    | some d => readDigits (some (16 * size.getD 0 + d)) bs
    | none => (size, b :: bs)

/-- Reads the line that gives the size of a chunk. -/
def readSize (bs : Bytes) : Option (Nat × Bytes) :=
  match readDigits none bs with
  | (some n, 13 :: 10 :: rest) => some (n, rest)
  | _ => none

theorem length_readDigits (size : Option Nat) (bs : Bytes) :
    (readDigits size bs).2.length ≤ bs.length := by
  fun_induction readDigits size bs with
  | case1 => exact Nat.le_refl _
  | case2 size b bs d h ih => exact Nat.le_succ_of_le ih
  | case3 => exact Nat.le_refl _

theorem length_readSize {bs rest : Bytes} {n : Nat} (h : readSize bs = some (n, rest)) :
    rest.length < bs.length := by
  have shorter := length_readDigits none bs
  unfold readSize at h
  split at h
  · next e =>
    cases h
    rw [e] at shorter
    simp only [List.length_cons] at shorter
    omega
  · cases h

/-- The pieces that a body carries, if it is one from its first byte to its last. -/
def decode (bs : Bytes) : Option (List Bytes) :=
  match _h : readSize bs with
  | none => none
  | some (0, rest) => if rest = lineEnd then some [] else none
  | some (n + 1, rest) =>
    match _h' : rest.drop (n + 1) with
    | 13 :: 10 :: more => (decode more).map (rest.take (n + 1) :: ·)
    | _ => none
termination_by bs.length
decreasing_by
  have shorter := length_readSize _h
  have dropped := congrArg List.length _h'
  simp only [List.length_drop, List.length_cons] at dropped
  omega

/-! ### Sizes -/

theorem digit?_digitChar {d : Nat} (h : d < 16) : digit? (Nat.digitChar d).toNat.toUInt8 = some d := by
  decide +revert

/-- The digits of a size are read as that size. -/
theorem readDigits_toDigits (n : Nat) (tail : Bytes) :
    readDigits none ((Nat.toDigits 16 n).map (fun c => c.toNat.toUInt8) ++ tail) =
      readDigits (some n) tail := by
  -- the last digit is split off, and those before it are the digits of a smaller size
  induction n using Nat.strongRecOn generalizing tail with
  | ind n ih =>
    by_cases h : n < 16
    · rw [Nat.toDigits_of_lt_base h]
      simp [readDigits, digit?_digitChar h]
    · have low : n % 16 < 16 := Nat.mod_lt n (by decide)
      rw [Nat.toDigits_of_base_le (by decide) (by omega), List.map_append, List.append_assoc,
        ih (n / 16) (by omega)]
      have whole : 16 * (n / 16) + n % 16 = n := Nat.div_add_mod n 16
      simp [readDigits, digit?_digitChar low, whole]

theorem readSize_sizeLine (n : Nat) (rest : Bytes) : readSize (sizeLine n ++ rest) = some (n, rest) := by
  have cr : digit? 13 = none := by decide
  unfold readSize sizeLine
  rw [List.append_assoc, readDigits_toDigits]
  simp [lineEnd, readDigits, cr]

/-! ### Bodies -/

theorem decode_terminator : decode terminator = some [] := by
  have size : readSize terminator = some (0, lineEnd) := by decide
  rw [decode]
  split
  · next h => cases h.symm.trans size
  · next h => cases h.symm.trans size; rfl
  · next h => cases h.symm.trans size

theorem decode_chunk {piece : Bytes} (h : piece ≠ []) (rest : Bytes) :
    decode ((chunk piece).flatten ++ rest) = (decode rest).map (piece :: ·) := by
  obtain ⟨n, hn⟩ : ∃ n, piece.length = n + 1 :=
    Nat.exists_eq_succ_of_ne_zero fun e => h (List.length_eq_zero_iff.1 e)
  have written : (chunk piece).flatten ++ rest = sizeLine (n + 1) ++ (piece ++ 13 :: 10 :: rest) := by
    simp [chunk, h, hn, lineEnd]
  have size : readSize ((chunk piece).flatten ++ rest) = some (n + 1, piece ++ 13 :: 10 :: rest) := by
    rw [written, readSize_sizeLine]
  have behind : (piece ++ 13 :: 10 :: rest).drop (n + 1) = 13 :: 10 :: rest := by
    rw [← hn, List.drop_left]
  have taken : (piece ++ 13 :: 10 :: rest).take (n + 1) = piece := by
    rw [← hn, List.take_left]
  -- of the three ways to go on from a size, a piece that is not empty leaves the last
  rw [decode]
  split
  · next e => cases e.symm.trans size
  · next e => cases e.symm.trans size
  · next m rest' e =>
    cases e.symm.trans size
    split
    · next more e' =>
      cases e'.symm.trans behind
      rw [taken]
    · next none => exact absurd behind (none rest)

/-- A strict receiver takes a body whose pieces are not empty for what it is. -/
theorem decode_encode {pieces : List Bytes} (h : ∀ piece ∈ pieces, piece ≠ []) :
    decode (encode pieces) = some pieces := by
  induction pieces with
  | nil => exact decode_terminator
  | cons piece pieces ih =>
    obtain ⟨hpiece, hpieces⟩ := List.forall_mem_cons.1 h
    have e : encode (piece :: pieces) = (chunk piece).flatten ++ encode pieces := by
      simp [encode]
    rw [e, decode_chunk hpiece, ih hpieces]
    rfl

/-! ### Bodies that break off -/

/-- A body begins with a chunk: size, data and the end of the line are all there, and what
follows them is told. -/
def Opens (bs piece more : Bytes) : Prop :=
  ∃ n rest, readSize bs = some (n + 1, rest) ∧ rest.take (n + 1) = piece ∧
    rest.drop (n + 1) = 13 :: 10 :: more

/-- The pieces of the chunks at the front of a body that are there in full. -/
def whole (bs : Bytes) : List Bytes :=
  match _h : readSize bs with
  | some (n + 1, rest) =>
    match _h' : rest.drop (n + 1) with
    | 13 :: 10 :: more => rest.take (n + 1) :: whole more
    | _ => []
  | _ => []
termination_by bs.length
decreasing_by
  have shorter := length_readSize _h
  have dropped := congrArg List.length _h'
  simp only [List.length_drop, List.length_cons] at dropped
  omega

theorem readDigits_append {size r : Option Nat} {bs rest : Bytes} {b : UInt8}
    (h : readDigits size bs = (r, b :: rest)) (tail : Bytes) :
    readDigits size (bs ++ tail) = (r, b :: rest ++ tail) := by
  -- the reading stopped at a byte, so what stands behind that byte is of no account
  fun_induction readDigits size bs with
  | case1 => cases h
  | case2 value c bs d digit ih =>
    show readDigits value (c :: (bs ++ tail)) = _
    rw [readDigits, digit]
    exact ih h
  | case3 value c bs digit =>
    cases h
    show readDigits r (b :: (rest ++ tail)) = _
    rw [readDigits, digit]
    rfl

theorem readSize_append {bs rest : Bytes} {n : Nat} (h : readSize bs = some (n, rest)) (tail : Bytes) :
    readSize (bs ++ tail) = some (n, rest ++ tail) := by
  unfold readSize at h
  split at h
  · next digits =>
    cases h
    unfold readSize
    rw [readDigits_append digits tail]
    rfl
  · cases h

namespace Opens

variable {bs piece more : Bytes}

theorem append (h : Opens bs piece more) (tail : Bytes) : Opens (bs ++ tail) piece (more ++ tail) := by
  obtain ⟨n, rest, size, taken, dropped⟩ := h
  -- the data lies within what is there, because the end of the line follows it
  have within : n + 1 ≤ rest.length := by
    have := congrArg List.length dropped
    simp only [List.length_drop, List.length_cons] at this
    omega
  refine ⟨n, rest ++ tail, readSize_append size tail, ?_, ?_⟩
  · rw [List.take_append_of_le_length within, taken]
  · rw [List.drop_append_of_le_length within, dropped]
    rfl

theorem decode_eq (h : Opens bs piece more) : decode bs = (decode more).map (piece :: ·) := by
  obtain ⟨n, rest, size, taken, dropped⟩ := h
  rw [decode]
  split
  · next e => cases e.symm.trans size
  · next e => cases e.symm.trans size
  · next e =>
    cases e.symm.trans size
    split
    · next e' =>
      cases e'.symm.trans dropped
      rw [taken]
    · next none => exact absurd dropped (none more)

theorem whole_eq (h : Opens bs piece more) : whole bs = piece :: whole more := by
  obtain ⟨n, rest, size, taken, dropped⟩ := h
  rw [whole]
  split
  · next e =>
    cases e.symm.trans size
    split
    · next e' =>
      cases e'.symm.trans dropped
      rw [taken]
    · next none => exact absurd dropped (none more)
  · next none => exact absurd size (none n rest)

end Opens

/-- A body that is accepted is a last chunk, or a chunk before another body. -/
theorem exists_of_decode {bs : Bytes} {pieces : List Bytes} (h : decode bs = some pieces) :
    pieces = [] ∧ readSize bs = some (0, lineEnd) ∨
      ∃ piece more rest, Opens bs piece more ∧ decode more = some rest ∧ pieces = piece :: rest := by
  rw [decode] at h
  split at h
  · cases h
  · next rest size =>
    split at h
    · next last =>
      cases h
      exact .inl ⟨rfl, last ▸ size⟩
    · cases h
  · next n rest size =>
    split at h
    · next more dropped =>
      obtain ⟨others, decoded, rfl⟩ := Option.map_eq_some_iff.1 h
      exact .inr ⟨_, more, others, ⟨n, rest, size, rfl, dropped⟩, decoded, rfl⟩
    · cases h

/-- No body is the beginning of another one. -/
theorem eq_nil_of_decode_append {bs tail : Bytes} {pieces others : List Bytes}
    (h : decode bs = some pieces) (h' : decode (bs ++ tail) = some others) : tail = [] := by
  -- by induction on the pieces: both bodies begin with the same chunk, up to the last one
  induction pieces generalizing bs others with
  | nil =>
    obtain ⟨-, size⟩ | ⟨_, _, _, -, -, ⟨⟩⟩ := exists_of_decode h
    have size' := readSize_append size tail
    obtain ⟨-, last⟩ | ⟨_, _, _, ⟨n, rest, open', -⟩, -, -⟩ := exists_of_decode h'
    · cases size'.symm.trans last
      rfl
    · cases size'.symm.trans open'
  | cons piece pieces ih =>
    obtain ⟨⟨⟩, -⟩ | ⟨_, more, _, opens, decoded, ⟨⟩⟩ := exists_of_decode h
    rw [(opens.append tail).decode_eq] at h'
    obtain ⟨rest, decoded', -⟩ := Option.map_eq_some_iff.1 h'
    exact ih decoded decoded'

theorem whole_of_decode {bs : Bytes} {pieces : List Bytes} (h : decode bs = some pieces) :
    whole bs = pieces := by
  induction pieces generalizing bs with
  | nil =>
    obtain ⟨-, size⟩ | ⟨_, _, _, -, -, ⟨⟩⟩ := exists_of_decode h
    rw [whole]
    split
    · next e => cases e.symm.trans size
    · rfl
  | cons piece pieces ih =>
    obtain ⟨⟨⟩, -⟩ | ⟨_, more, _, opens, decoded, ⟨⟩⟩ := exists_of_decode h
    rw [opens.whole_eq, ih decoded]

/-- More bytes leave the chunks alone that were there in full. -/
theorem whole_append (bs tail : Bytes) : whole bs <+: whole (bs ++ tail) := by
  fun_induction whole bs with
  | case1 bs n rest size more dropped ih =>
    have opens : Opens bs (rest.take (n + 1)) more := ⟨n, rest, size, rfl, dropped⟩
    rw [(opens.append tail).whole_eq]
    exact (List.prefix_cons_inj _).2 ih
  | case2 => exact List.nil_prefix
  | case3 => exact List.nil_prefix

/-- What is cut off before its end is not taken for a body, and the chunks that are there in full
are the first ones of the body that it was cut from. -/
theorem decode_of_cut {part body : Bytes} {pieces : List Bytes} (h : decode body = some pieces)
    (begins : part <+: body) (cut : part ≠ body) : decode part = none ∧ whole part <+: pieces := by
  obtain ⟨tail, rfl⟩ := begins
  constructor
  · cases taken : decode part with
    | none => rfl
    | some others =>
      have none_left : tail = [] := eq_nil_of_decode_append taken h
      exact absurd (by rw [none_left, List.append_nil]) cut
  · rw [← whole_of_decode h]
    exact whole_append part tail

end ExaWire.Import.Chunked
