/-
ExaWire/Text/Quoted.lean

Texts and bytes between quotes.  Single quotes are used unless the text holds a
single quote and no double one; the quote itself, the backslash and what is not
printable are escaped.
-/
import ExaWire.Text.Printable
import ExaWire.Text.Utf8

namespace ExaWire.Text

/-- A natural in lower-case hexadecimal, at least so many digits wide. -/
def hexText (width n : Nat) : List Char :=
  let ds := Nat.toDigits 16 n
  List.replicate (width - ds.length) '0' ++ ds

/-- The quote that a text is put between. -/
def quoteFor (cs : List Char) : Char :=
  if cs.contains '\'' && !cs.contains '"' then '"' else '\''

/-- How one character is written between quotes. -/
def quoteChar (quote c : Char) : List Char :=
  if c = quote ∨ c = '\\' then ['\\', c]
  else if c = '\n' then ['\\', 'n']
  else if c = '\r' then ['\\', 'r']
  else if c = '\t' then ['\\', 't']
  else if isPrintable c then [c]
  else if c.toNat < 0x100 then '\\' :: 'x' :: hexText 2 c.toNat
  else if c.toNat < 0x10000 then '\\' :: 'u' :: hexText 4 c.toNat
  else '\\' :: 'U' :: hexText 8 c.toNat

/-- A text between quotes. -/
def quoted (cs : List Char) : List Char :=
  let quote := quoteFor cs
  quote :: cs.flatMap (quoteChar quote) ++ [quote]

/-- How one byte is written between quotes: as the character if that is ASCII. -/
def quoteByte (quote : Char) (b : UInt8) : List Char :=
  if b.toNat < 0x80 then quoteChar quote (Char.ofNat b.toNat)
  else '\\' :: 'x' :: hexText 2 b.toNat

/-- Bytes between quotes. -/
def quotedBytes (bs : Bytes) : List Char :=
  let quote := quoteFor (bs.map fun b => Char.ofNat b.toNat)
  'b' :: quote :: bs.flatMap (quoteByte quote) ++ [quote]

end ExaWire.Text
