/-
ExaWire/Connect/Failover.lean

The hosts of a connection, tried strictly in order.  The first that can be opened
is taken.  A host that cannot be reached makes way for the next; a certificate
that is not accepted ends the search, and so does a scope that is cancelled.  The
scope is asked before every host, because it may be cancelled while one is tried.
-/
import ExaWire.Connect.Opening
import ExaWire.Client.Basic

namespace ExaWire.Connect

open ExaWire.Action

variable {ω : Type}

/-- The failure when no host could be opened, with the error met last. -/
def unreachable (hosts : List String) (port : Int) (last : Option NetworkError) : Failure :=
  let names := Value.list (hosts.map .text)
  .told .connect
    ("could not connect to any of " ++ names.plain ++ " on port " ++ toString port ++ ": " ++
      (last.map NetworkError.text).getD "None")
    (match last with | some e => .network e | none => .none)

/-- What is to be opened. -/
structure Target where
  port : Int
  tls : Option TlsOptions := none
  path : String := ""

/-- The address of the channel to a host. -/
def Target.url (t : Target) (host : String) : String := channelUrl t.tls.isSome host t.port t.path

/-- Asks a scope, if there is one, and ends in its cause if it is cancelled. -/
def heed (scope : Option ScopeId) : Action ω Unit := do
  match scope with
  | none => pure ()
  | some id =>
    match ← poll id with
    | some cause => throw (.cancelled cause)
    | none => pure ()

/-- Tries one host, and gives what came of it. -/
def tryHost (env : Environment ω) (t : Target) (host : String) :
    Action ω (Except Obstacle Unit) := do
  note .info ("Connecting to " ++ host ++ ":" ++ toString t.port ++
    (if t.tls.isSome then " (tls)" else " (tcp)"))
  let dials := (← get).dials
  let attempt := openHost (env.directory dials host) t.tls host t.port (t.url host)
  update fun c => { c with dials := dials + 1, scopes := env.meanwhile dials c.scopes }
  update (Client.record (attempt.2.map .network))
  return attempt.1

/-- Tries hosts in order; `tried` are the earlier ones, and `last` is the error met
last. -/
def tryHosts (env : Environment ω) (t : Target) (scope : Option ScopeId) (tried : List String) :
    Option NetworkError → List String → Action ω String
  | last, [] => throw (unreachable tried t.port last)
  | _, host :: hosts => do
    heed scope
    match ← tryHost env t host with
    | .ok () =>
      let url := t.url host
      update fun c => { c with link := .framed url false }
      return url
    | .error (.rejected r) => throw (.certificate r)
    | .error (.network e) =>
      note .warn ("Connection to " ++ host ++ ":" ++ toString t.port ++ " failed: " ++ e.text)
      tryHosts env t scope (tried ++ [host]) (some e) hosts

/-- Opens a channel to the first host that can be opened, and gives its address. -/
def channel (env : Environment ω) (hosts : List String) (t : Target) (scope : Option ScopeId) :
    Action ω String :=
  tryHosts env t scope [] none hosts

end ExaWire.Connect
