/-
ExaWire/Connect/Certificate.lean

How a connection is secured.  Either the certificate chain and the host's name are
checked, or the certificate is pinned: its SHA-256 digest has to be the given one,
regardless of case, and then nothing else is checked.
-/
import ExaWire.Bytes.Digest
import ExaWire.Value.Coercion

namespace ExaWire.Connect

/-- What is asked of a secured connection. -/
structure TlsOptions where
  validate : Bool := true
  /-- the digest of the pinned certificate, empty for none -/
  fingerprint : String := ""
deriving DecidableEq, Repr

/-- Whether the chain and the host's name are checked; pinning replaces that. -/
def TlsOptions.checksChain (t : TlsOptions) : Bool := t.validate && t.fingerprint = ""

/-- The digest by which a certificate is known, in lower-case hexadecimal. -/
def fingerprint (der : Bytes) : String := String.ofList (Bytes.hex (Sha256.digest der))

/-- Checks a certificate against a pinned digest, if there is one. -/
def verifyFingerprint (der : Option Bytes) (expected : String) : Except Rejection Unit :=
  if expected = "" then .ok ()
  else match der.getD [] with
    | [] => .error .missing
    | b :: bs =>
      let actual := fingerprint (b :: bs)
      if actual.toLower = expected.toLower then .ok ()
      else .error (.mismatch actual expected)

end ExaWire.Connect
