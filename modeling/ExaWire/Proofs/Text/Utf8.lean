/-
ExaWire/Proofs/Text/Utf8.lean

Texts come back from their bytes.

A character is written as one to four bytes.  Reading takes the first of them for what it is,
and each later one lies in the range that is then waited for, also where that range is
narrower because shorter forms and surrogates are left out.  So the reading of a text's bytes
gives its characters, one piece each, and neither the strict nor the lossy reading finds a
malformed part.
-/
import ExaWire.Text.Utf8

namespace ExaWire.Utf8

variable {bs : Bytes}

/-! ### Reading on -/

theorem toNat_byte {n : Nat} (h : n < 256) : n.toUInt8.toNat = n := by
  show (UInt8.ofNat n).toNat = n
  rw [UInt8.toNat_ofNat']
  exact Nat.mod_eq_of_lt h

theorem pieces_whole {b : UInt8} {c : Char} (h : start b = .whole c) :
    pieces none (b :: bs) = some c :: pieces none bs := by
  rw [pieces]
  simp only [h]

theorem pieces_opening {b : UInt8} {o : Open} (h : start b = .opening o) :
    pieces none (b :: bs) = pieces (some o) bs := by
  rw [pieces]
  simp only [h]

/-- A byte in the range that is waited for, with more to come. -/
theorem pieces_further {b : UInt8} {value low high : Nat} {next : Nat × Nat} {more : List (Nat × Nat)}
    (above : low ≤ b.toNat) (below : b.toNat ≤ high) :
    pieces (some ⟨value, (low, high) :: next :: more⟩) (b :: bs) =
      pieces (some ⟨value * 64 + (b.toNat - 0x80), next :: more⟩) bs := by
  rw [pieces]
  simp [above, below]

/-- A byte in the last range. -/
theorem pieces_last {b : UInt8} {value low high : Nat} (above : low ≤ b.toNat) (below : b.toNat ≤ high) :
    pieces (some ⟨value, [(low, high)]⟩) (b :: bs) =
      some (Char.ofNat (value * 64 + (b.toNat - 0x80))) :: pieces none bs := by
  rw [pieces]
  simp [above, below]

/-! ### One character -/

/-- The code point of a character is no surrogate and not too great. -/
theorem toNat_valid (c : Char) : c.toNat < 0xd800 ∨ 0xdfff < c.toNat ∧ c.toNat < 0x110000 :=
  c.valid

/-- What three bytes begin with: the second one keeps to a range without shorter forms and
surrogates. -/
theorem start_three {n : Nat} (least : 0x800 ≤ n) (three : n < 0x10000)
    (valid : n < 0xd800 ∨ 0xdfff < n ∧ n < 0x110000) :
    ∃ low high, start (0xe0 + n / 4096).toUInt8 = .opening ⟨n / 4096, [(low, high), continuation]⟩ ∧
      low ≤ 0x80 + n / 64 % 64 ∧ 0x80 + n / 64 % 64 ≤ high := by
  have b := toNat_byte (show 0xe0 + n / 4096 < 256 by omega)
  unfold start
  rw [b, if_neg (by omega), if_neg (by omega), if_neg (by omega), if_pos (by omega),
    Nat.add_sub_cancel_left]
  by_cases short : 0xe0 + n / 4096 = 0xe0
  · exact ⟨0xa0, 0xbf, by rw [if_pos short], by omega, by omega⟩
  by_cases surrogate : 0xe0 + n / 4096 = 0xed
  · exact ⟨0x80, 0x9f, by rw [if_neg short, if_pos surrogate], by omega, by omega⟩
  · exact ⟨0x80, 0xbf, by rw [if_neg short, if_neg surrogate]; rfl, by omega, by omega⟩

/-- What four bytes begin with: the second one keeps to a range without shorter forms and without
what is too great. -/
theorem start_four {n : Nat} (least : 0x10000 ≤ n) (valid : n < 0xd800 ∨ 0xdfff < n ∧ n < 0x110000) :
    ∃ low high, start (0xf0 + n / 262144).toUInt8 =
        .opening ⟨n / 262144, [(low, high), continuation, continuation]⟩ ∧
      low ≤ 0x80 + n / 4096 % 64 ∧ 0x80 + n / 4096 % 64 ≤ high := by
  have b := toNat_byte (show 0xf0 + n / 262144 < 256 by omega)
  unfold start
  rw [b, if_neg (by omega), if_neg (by omega), if_neg (by omega), if_neg (by omega),
    if_pos (by omega), Nat.add_sub_cancel_left]
  by_cases short : 0xf0 + n / 262144 = 0xf0
  · exact ⟨0x90, 0xbf, by rw [if_pos short], by omega, by omega⟩
  by_cases great : 0xf0 + n / 262144 = 0xf4
  · exact ⟨0x80, 0x8f, by rw [if_neg short, if_pos great], by omega, by omega⟩
  · exact ⟨0x80, 0xbf, by rw [if_neg short, if_neg great]; rfl, by omega, by omega⟩

/-- The bytes of a character are read as that character. -/
theorem pieces_encodeChar (c : Char) (bs : Bytes) :
    pieces none (encodeChar c ++ bs) = some c :: pieces none bs := by
  have valid := toNat_valid c
  have same {n : Nat} (h : n = c.toNat) : some (Char.ofNat n) = some c := by
    rw [h, Char.ofNat_toNat]
  unfold encodeChar
  generalize c.toNat = n at valid same ⊢
  simp only
  split
  · next one =>
    have b := toNat_byte (show n < 256 by omega)
    have first : start n.toUInt8 = .whole (Char.ofNat n) := by
      unfold start
      rw [b]
      exact if_pos one
    rw [List.cons_append, List.nil_append, pieces_whole first, same rfl]
  split
  · next two =>
    have b₁ := toNat_byte (show 0xc0 + n / 64 < 256 by omega)
    have b₂ := toNat_byte (show 0x80 + n % 64 < 256 by omega)
    have first : start (0xc0 + n / 64).toUInt8 = .opening ⟨n / 64, [continuation]⟩ := by
      unfold start
      rw [b₁, if_neg (by omega), if_neg (by omega), if_pos (by omega), Nat.add_sub_cancel_left]
    rw [List.cons_append, List.cons_append, List.nil_append, pieces_opening first, continuation,
      pieces_last (by omega) (by omega), same (by omega)]
  split
  · next three =>
    have b₂ := toNat_byte (show 0x80 + n / 64 % 64 < 256 by omega)
    have b₃ := toNat_byte (show 0x80 + n % 64 < 256 by omega)
    obtain ⟨low, high, first, above, below⟩ := start_three (by omega) three valid
    rw [List.cons_append, List.cons_append, List.cons_append, List.nil_append, pieces_opening first,
      pieces_further (by omega) (by omega), continuation, pieces_last (by omega) (by omega),
      same (by omega)]
  · next four =>
    have b₂ := toNat_byte (show 0x80 + n / 4096 % 64 < 256 by omega)
    have b₃ := toNat_byte (show 0x80 + n / 64 % 64 < 256 by omega)
    have b₄ := toNat_byte (show 0x80 + n % 64 < 256 by omega)
    obtain ⟨low, high, first, above, below⟩ := start_four (by omega) valid
    rw [List.cons_append, List.cons_append, List.cons_append, List.cons_append, List.nil_append,
      pieces_opening first, pieces_further (by omega) (by omega), continuation,
      pieces_further (by omega) (by omega), pieces_last (by omega) (by omega), same (by omega)]

/-! ### Texts -/

/-- The bytes of characters are read as these characters. -/
theorem pieces_flatMap_encodeChar (cs : List Char) :
    pieces none (cs.flatMap encodeChar) = cs.map some := by
  induction cs with
  | nil => rfl
  | cons c cs ih => rw [List.flatMap_cons, pieces_encodeChar, ih, List.map_cons]

theorem decode?_encode (s : String) : decode? (encode s) = some s.toList := by
  rw [decode?, encode, pieces_flatMap_encodeChar]
  induction s.toList with
  | nil => rfl
  | cons c cs ih => rw [List.map_cons, List.mapM_cons, ih]; rfl

theorem decodeLossy_encode (s : String) : decodeLossy (encode s) = s := by
  rw [decodeLossy, encode, pieces_flatMap_encodeChar, List.map_map]
  have same : ((·.getD '\uFFFD') ∘ some : Char → Char) = id := rfl
  rw [same, List.map_id, String.ofList_toList]

/-- An ASCII text has only ASCII bytes. -/
theorem lt_of_mem_encode {s : String} (ascii : ∀ c ∈ s.toList, c.toNat < 0x80) :
    ∀ b ∈ encode s, b.toNat < 0x80 := by
  intro b hb
  obtain ⟨c, hc, hbc⟩ := List.mem_flatMap.1 hb
  have small := ascii c hc
  rw [encodeChar, if_pos small, List.mem_singleton] at hbc
  rw [hbc, toNat_byte (by omega)]
  exact small

end ExaWire.Utf8
