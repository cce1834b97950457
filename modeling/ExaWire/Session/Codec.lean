/-
ExaWire/Session/Codec.lean

Requests as frames and frames as replies.  A request is written as JSON and, on a
session that compresses, deflated; a reply goes the same way back and has to be an
object.

A reply whose status is not `ok` is a failure of its own.  Otherwise its data is
read as the record that was asked for, and whatever cannot be read is reported
with the status.
-/
import ExaWire.Bytes.Zlib
import ExaWire.Column
import ExaWire.Json.Reader
import ExaWire.Json.Writer

namespace ExaWire.Session

/-- The payload of a frame that carries a request. -/
def encode (codec : Codec) (compressing : Bool) (request : Value) : Attempt Bytes :=
  match Json.write request with
  | .ok cs =>
    let payload := Utf8.encode (String.ofList cs)
    .ok (if compressing then codec.deflate payload else payload)
  | .error (.fault f) =>
    if f = .wrongKind ∨ f = .badValue then do
      let name ← request.member "command"
      .error (.of .broken ("could not marshal request '" ++ name.plain ++ "': " ++ f.text))
    else fault f
  | .error f => .error f

/-- Why the payload of a frame is no reply. -/
structure Unreadable where
  what : String
  why : String
deriving DecidableEq, Repr

/-- The entries of the object that a payload carries. -/
def decode (codec : Codec) (compressing : Bool) (payload : Bytes) :
    Except Unreadable (List (Value × Value)) :=
  match if compressing then codec.inflate? payload else some payload with
  | none => .error ⟨"could not decode compressed data", "not a compressed stream"⟩
  | some payload =>
    match Json.read payload with
    | .error f => .error ⟨"could not decode json data", f.short⟩
    | .ok (.object entries) => .ok entries
    | .ok v => .error ⟨"response is not a JSON object", v.kindName⟩

/-- The data of a reply, unless it reports a failure. -/
def data (reply : List (Value × Value)) : Attempt Value :=
  let status := Value.field reply "status"
  if status.isText "ok" then .ok (Value.field reply "responseData")
  else match Value.field reply "exception" with
    | .object entries =>
      .error (.sql (Value.textField entries "sqlCode") (Value.textField entries "text"))
    | _ =>
      .error (.protocol false ("unexpected response status '" ++ status.plain ++ "'") status .none)

/-- Whether a fault in reading the data of a reply is reported as such. -/
def isUndecodable (f : Fault) : Bool := f = .wrongKind || f = .badValue || f = .unknownName

/-- A record read from a reply. -/
def answer {α : Type} (read : Value → Attempt α) (reply : List (Value × Value)) : Attempt α := do
  let data ← data reply
  match read data with
  | .error (.fault f) =>
    if isUndecodable f then
      .error (.protocol true ("could not decode response data: " ++ f.text)
        (Value.field reply "status") .none)
    else fault f
  | result => result

end ExaWire.Session
