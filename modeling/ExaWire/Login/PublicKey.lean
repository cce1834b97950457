/-
ExaWire/Login/PublicKey.lean

Passwords under the server's public key: RSA with the padding `00 02 … 00`, the
ciphertext written in base64.

The padding bytes are the caller's choice, one supply for every length, so that
encryption is a function.  Opening a sealed block with the private key gives the
message back and does not depend on them.
-/
import ExaWire.Reply
import ExaWire.Bytes.Base64
import ExaWire.Bytes.Digest
import ExaWire.Text.Cut

namespace ExaWire.Login

/-- A supply of padding: so many bytes, none of them zero. -/
abbrev Padding := Nat → Bytes

/-- An RSA key: a modulus and the exponent for one of the two directions. -/
structure Key where
  modulus : Nat
  exponent : Nat
deriving DecidableEq, Repr

/-- A power modulo a number, by repeated squaring. -/
def powMod (base exponent modulus : Nat) : Nat :=
  if exponent = 0 then 1 % modulus
  else
    let half := powMod (base * base % modulus) (exponent / 2) modulus
    if exponent % 2 = 1 then base * half % modulus else half
termination_by exponent

/-- The bytes that hold every number below the modulus. -/
def Key.size (k : Key) : Nat := if k.modulus = 0 then 0 else k.modulus.log2 / 8 + 1

/-- Applies a key to a block. -/
def Key.apply (k : Key) (block : Bytes) : Bytes :=
  Bytes.bigEndian k.size (powMod (Bytes.ofBigEndian block) k.exponent k.modulus)

/-- The least number of padding bytes. -/
def leastPadding : Nat := 8

/-- A message padded to a block, if it leaves room for the padding. -/
def pad? (padding : Padding) (size : Nat) (message : Bytes) : Option Bytes :=
  if message.length + leastPadding + 3 ≤ size then
    some (0 :: 2 :: padding (size - message.length - 3) ++ 0 :: message)
  else none

/-- The message of a padded block. -/
def unpad? : Bytes → Option Bytes
  | 0 :: 2 :: rest =>
    match Text.cut? [0] rest with
    | some (padding, message) => if leastPadding ≤ padding.length then some message else none
    | none => none
  | _ => none

/-- How many bits a number has. -/
def bitLength (n : Nat) : Nat := if n = 0 then 0 else n.log2 + 1

/-- The greatest modulus, in bits. -/
def modulusBits : Nat := 16384

/-- The greatest modulus for which every exponent is taken, in bits. -/
def freeModulusBits : Nat := 3072

/-- The greatest exponent for a modulus beyond that, in bits. -/
def exponentBits : Nat := 64

/-- Whether a key can seal anything: both numbers are odd, the exponent is at least 3 and
less than the modulus, and neither is too great to be used. -/
def Key.isUsable (k : Key) : Bool :=
  k.modulus % 2 = 1 && k.exponent % 2 = 1 && 3 ≤ k.exponent && k.exponent < k.modulus &&
    bitLength k.modulus ≤ modulusBits &&
    (bitLength k.modulus ≤ freeModulusBits || bitLength k.exponent ≤ exponentBits)

/-- The key that a reply carries; negative numbers are a fault of their own. -/
def Key.ofReply (reply : KeyReply) : Attempt Key := do
  let modulus ← orBadValue (readHex? reply.modulus)
  let exponent ← orBadValue (readHex? reply.exponent)
  if modulus < 0 ∨ exponent < 0 then fault .tooGreat
  else
    let key : Key := ⟨modulus.toNat, exponent.toNat⟩
    if key.isUsable then .ok key else fault .badValue

/-- A password as the server expects it, or the reason why it cannot be sealed. -/
def sealPassword (padding : Padding) (password : String) (reply : KeyReply) : Attempt String := do
  let key ← Key.ofReply reply
  let block ← orBadValue (pad? padding key.size (Utf8.encode password))
  .ok (String.ofList (Base64.encode (key.apply block)))

/-- A sealed password; a key or a password that does not fit ends the handshake. -/
def encryptPassword (padding : Padding) (password : String) (reply : KeyReply) : Attempt String :=
  match sealPassword padding password reply with
  | .error (.fault .badValue) =>
    .error (.of .handshake ("password encryption error: " ++ Fault.badValue.text))
  | result => result

/-- The message under a sealed password, given the private key. -/
def unseal? (key : Key) (sealed : String) : Option Bytes := do
  let block ← Base64.decode? sealed.toList
  unpad? (key.apply block)

end ExaWire.Login
