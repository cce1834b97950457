/-
ExaWire/Script/Disclosure.lean

What an observer of a dialogue is shown.

Passwords are shown to whoever has the private key.  Sealing a password is not a
function of the password alone, so what a far end can tell of it is the message
inside.

Texts of failures and notes are shown up to the words of others: what a reader of
bytes, a codec or a cipher says of its troubles is not this library's to fix.
-/
import ExaWire.Login.PublicKey

namespace ExaWire.Script

open Login

/-- A sealed password as it is shown. -/
def disclose (key : Key) (sealed : String) : String :=
  match unseal? key sealed with
  | some message => "rsa(" ++ String.ofList (Bytes.hex message) ++ ")"
  | none => "bad padding"

/-- What stands before a password in a request. -/
def passwordMark : List Char := "\"password\": \"".toList

/-- How a request begins that has a command's name, and so no credentials. -/
def commandMark : List Char := "\x7b\"command\"".toList

/-- The text of a request with the password in it shown. -/
def discloseIn (key : Key) (text : String) : String :=
  match Text.after? commandMark text.toList, Text.cut? passwordMark text.toList with
  | none, some (before, rest) =>
    match Text.cut? ['"'] rest with
    | some (sealed, rest) =>
      String.ofList (before ++ passwordMark ++ (disclose key (String.ofList sealed)).toList ++
        '"' :: rest)
    | none => text
  | _, _ => text

/-- A request with the password in it shown. -/
def discloseField (key : Key) : Value → Value
  | .object entries => .object (entries.map fun (k, v) =>
      match k.isText "password", v with
      | true, .text sealed => (k, .text (disclose key sealed))
      | _, _ => (k, v))
  | v => v

/-- The marks behind which a text gives the words of others. -/
def foreignMarks : List String :=
  ["could not decode json data: ", "could not decode compressed data: ",
    "could not decode response data: ", "password encryption error: "]

/-- A text up to the first place of a mark and the mark itself, with a star for the rest. -/
def cutBehind (mark cs : List Char) : List Char :=
  match Text.cut? mark cs with
  | some (before, _) => before ++ mark ++ ['*']
  | none => cs

/-- The same for the refusal of a request that could not be written, whose name stands in
the mark. -/
def cutUnwritten (cs : List Char) : List Char :=
  match Text.cut? "could not marshal request '".toList cs with
  | some (_, rest) =>
    match Text.cut? "': ".toList rest with
    | some (_, foreign) => cs.take (cs.length - foreign.length) ++ ['*']
    | none => cs
  | none => cs

/-- A text up to the words of others. -/
def ownText (s : String) : String :=
  String.ofList (cutUnwritten (foreignMarks.foldl (fun cs mark => cutBehind mark.toList cs) s.toList))

end ExaWire.Script
