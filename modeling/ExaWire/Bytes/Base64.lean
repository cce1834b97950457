/-
ExaWire/Bytes/Base64.lean

Bytes as text over 64 characters: three bytes to four characters, the last
group filled up with equals signs.
-/
import ExaWire.Text.Utf8

namespace ExaWire.Base64

/-- The character of a value below 64. -/
def character (n : Nat) : Char :=
  if n < 26 then Char.ofNat (65 + n)
  else if n < 52 then Char.ofNat (71 + n)
  else if n < 62 then Char.ofNat (n - 4)
  else if n = 62 then '+' else '/'

/-- The text of a byte sequence. -/
def encode : Bytes → List Char
  | [] => []
  | [a] =>
    let n := a.toNat * 16
    [character (n / 64), character (n % 64), '=', '=']
  | [a, b] =>
    let n := (a.toNat * 256 + b.toNat) * 4
    [character (n / 4096), character (n / 64 % 64), character (n % 64), '=']
  | a :: b :: c :: rest =>
    let n := (a.toNat * 256 + b.toNat) * 256 + c.toNat
    character (n / 262144) :: character (n / 4096 % 64) :: character (n / 64 % 64) ::
      character (n % 64) :: encode rest

/-- The value of a character. -/
def value? (c : Char) : Option Nat :=
  let n := c.toNat
  if 65 ≤ n ∧ n ≤ 90 then some (n - 65)
  else if 97 ≤ n ∧ n ≤ 122 then some (n - 71)
  else if 48 ≤ n ∧ n ≤ 57 then some (n + 4)
  else if c = '+' then some 62
  else if c = '/' then some 63
  else none

/-- The bytes of a text, if it is one that `encode` writes. -/
def decode? : List Char → Option Bytes
  | [] => some []
  | [a, b, '=', '='] => do
    let n := (← value? a) * 64 + (← value? b)
    some [(n / 16).toUInt8]
  | [a, b, c, '='] => do
    let n := ((← value? a) * 64 + (← value? b)) * 64 + (← value? c)
    some [(n / 1024).toUInt8, (n / 4 % 256).toUInt8]
  | a :: b :: c :: d :: rest => do
    let n := (((← value? a) * 64 + (← value? b)) * 64 + (← value? c)) * 64 + (← value? d)
    let tail ← decode? rest
    some ((n / 65536).toUInt8 :: (n / 256 % 256).toUInt8 :: (n % 256).toUInt8 :: tail)
  | _ => none

end ExaWire.Base64
