/-
ExaWire/Script/Relay.lean

The endpoint for local files on its own: calls on one connection to it, one after
the other.
-/
import ExaWire.Import.Endpoint
import ExaWire.Script.Call
import ExaWire.Script.Plan

namespace ExaWire.Script

open Network

/-- A call on an endpoint. -/
inductive RelayCall
  | connect (hosts : List String) (port : Int)
  | negotiate
  | upload (files : List Bytes) (separator : Bytes) (plan : Plan)
  | url
  | abort
  | close

/-- The endpoint, if one was reached, all scopes, and how often was dialled. -/
structure Relay where
  endpoint : Option Import.Endpoint := none
  scopes : Scopes := []
  dials : Nat := 0

/-- What can be seen of a call on an endpoint. -/
structure RelayOutcome where
  result : Except Trouble Value
  events : List Event := []
  /-- all that was sent, after a negotiation -/
  sent : Option Bytes := none
  /-- all that was written, after an upload that the connection bore -/
  written : Option Bytes := none

/-- The result of an attempt. -/
def shown {α : Type} (f : α → Value) : Attempt α → Except Trouble Value
  | .ok a => .ok (f a)
  | .error f => .error (.failed f)

/-- What an upload leaves to be seen: all that was written, unless the connection failed. -/
def writtenBy (ending : Import.Endpoint.Ending) (e : Import.Endpoint) :
    Except Trouble Value × Option Bytes :=
  match ending with
  | .stuck => (.error .missing, none)
  | .done result =>
    let written := match result with
      | .error (.told .proxy _ _) => none
      | _ => some e.socket.stream
    (shown (fun n => .int n) result, written)

/-- Makes a call on the endpoint that was reached. -/
def Relay.at (e : Import.Endpoint) (r : Relay) : RelayCall → RelayOutcome × Relay
  | .connect _ _ => ({ result := .error .missing }, r)
  | .negotiate =>
    let (result, e, _) := e.negotiate
    ({ result := shown (fun (host, port) => .tuple [.text host, .int port]) result
       sent := some e.socket.sent }, { r with endpoint := some e })
  | .upload files separator plan =>
    let arranged := plan.arrange r.scopes
    let e := { e with socket := { e.socket with alarms := arranged.alarms } }
    let (ending, e, scopes, _) :=
      e.upload arranged.scope separator (files.map fun bs => [.bytes bs]) arranged.scopes
    let (result, written) := writtenBy ending e
    ({ result, written }, { r with endpoint := some e, scopes })
  | .url => ({ result := .ok (.text e.url) }, r)
  | .abort =>
    let (e, events, _) := e.abort
    ({ result := .ok .null, events }, { r with endpoint := some e })
  | .close =>
    let (e, events, _) := e.close
    ({ result := .ok .null, events }, { r with endpoint := some e })

/-- Makes a call. -/
def Relay.take (hosts : List (String × Answer)) (r : Relay) (call : RelayCall) :
    RelayOutcome × Relay :=
  match call, r.endpoint with
  | .connect names port, _ =>
    let (result, events) := Import.Endpoint.dial (directory hosts []) r.dials names port
    let endpoint := match result with
      | .ok e => some e
      | .error _ => r.endpoint
    ({ result := shown (fun _ => .null) result, events },
      { r with endpoint, dials := r.dials + events.length })
  | call, some e => r.at e call
  | _, none => ({ result := .error .missing }, r)

/-- Makes calls in order. -/
def Relay.play (hosts : List (String × Answer)) (r : Relay) : List RelayCall → List RelayOutcome
  | [] => []
  | call :: calls =>
    let (outcome, r) := r.take hosts call
    outcome :: r.play hosts calls

end ExaWire.Script
