/-
ExaWire/Text/Utf8.lean

Characters as bytes.  `Utf8.pieces` reads bytes from left to right into
characters and malformed parts, where a malformed part is a byte that starts no
character or the longest beginning of a character that is broken off.  Strict
reading refuses any such part, lossy reading shows each as U+FFFD.
-/

namespace ExaWire

/-- A sequence of bytes. -/
abbrev Bytes := List UInt8

namespace Utf8

/-- The bytes of one character. -/
def encodeChar (c : Char) : Bytes :=
  let n := c.toNat
  if n < 0x80 then [n.toUInt8]
  else if n < 0x800 then [(0xc0 + n / 64).toUInt8, (0x80 + n % 64).toUInt8]
  else if n < 0x10000 then
    [(0xe0 + n / 4096).toUInt8, (0x80 + n / 64 % 64).toUInt8, (0x80 + n % 64).toUInt8]
  else
    [(0xf0 + n / 262144).toUInt8, (0x80 + n / 4096 % 64).toUInt8,
      (0x80 + n / 64 % 64).toUInt8, (0x80 + n % 64).toUInt8]

/-- The bytes of a text. -/
def encode (s : String) : Bytes := s.toList.flatMap encodeChar

/-- What is still to come of a character: the value so far and the ranges in which
the remaining bytes have to lie. -/
structure Open where
  value : Nat
  ranges : List (Nat × Nat)

/-- The range of a continuation byte. -/
def continuation : Nat × Nat := (0x80, 0xbf)

/-- What a byte starts: a character of its own, a longer character, or nothing. -/
inductive Start
  | whole (c : Char)
  | opening (o : Open)
  | malformed

/-- What a byte starts. -/
def start (b : UInt8) : Start :=
  let n := b.toNat
  if n < 0x80 then .whole (Char.ofNat n)
  else if n < 0xc2 then .malformed
  else if n < 0xe0 then .opening ⟨n - 0xc0, [continuation]⟩
  else if n < 0xf0 then
    let second := if n = 0xe0 then (0xa0, 0xbf) else if n = 0xed then (0x80, 0x9f) else continuation
    .opening ⟨n - 0xe0, [second, continuation]⟩
  else if n < 0xf5 then
    let second := if n = 0xf0 then (0x90, 0xbf) else if n = 0xf4 then (0x80, 0x8f) else continuation
    .opening ⟨n - 0xf0, [second, continuation, continuation]⟩
  else .malformed

/-- The characters of a byte sequence; `none` marks a malformed part. -/
def pieces (pending : Option Open) : Bytes → List (Option Char)
  | [] => if pending.isSome then [none] else []
  | b :: bs =>
    let fresh : Unit → List (Option Char) := fun _ =>
      match start b with
      | .whole c => some c :: pieces none bs
      | .opening o => pieces (some o) bs
      | .malformed => none :: pieces none bs
    match pending with
    | none => fresh ()
    | some ⟨value, ranges⟩ =>
      match ranges with
      | [] => fresh ()
      | (low, high) :: more =>
        if low ≤ b.toNat ∧ b.toNat ≤ high then
          let value := value * 64 + (b.toNat - 0x80)
          if more.isEmpty then some (Char.ofNat value) :: pieces none bs
          else pieces (some ⟨value, more⟩) bs
        else none :: fresh ()

/-- The text of a byte sequence, refused if any part is malformed. -/
def decode? (bs : Bytes) : Option (List Char) := (pieces none bs).mapM id

/-- The text of a byte sequence, each malformed part shown as U+FFFD. -/
def decodeLossy (bs : Bytes) : String :=
  String.ofList ((pieces none bs).map (·.getD '\uFFFD'))

end Utf8

end ExaWire
