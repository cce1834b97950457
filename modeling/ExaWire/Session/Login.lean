/-
ExaWire/Session/Login.lean

The beginning and the end of a session.

A login opens the session, asks for the server's key or announces a token, and
sends the credentials.  If that fails the session is closed again, and the
failure tells that it happened during the login.  The end says goodbye on an open
session and closes the channel, whatever happens on the way.
-/
import ExaWire.Connect.Failover
import ExaWire.Hosts
import ExaWire.Session.Exchange

namespace ExaWire.Session

open ExaWire.Action

variable {ω : Type}

/-- Closes the session and gives up its channel. -/
def shutdown (env : Environment ω) : Action ω Unit := do
  let s ← session
  setSession fun s => { s with phase := .closed, attached := false }
  if s.attached then Channel.close env

/-- Ends the session. -/
def close (env : Environment ω) : Action ω Unit := do
  let s ← session
  if s.isClosed then return
  if s.phase = .open ∧ s.attached then
    match ← attempt (write env Command.disconnect) with
    | .ok () => pure ()
    | .error f =>
      if f.isReported then note .debug ("Ignoring disconnect failure: " ++ f.message) else throw f
  shutdown env

/-- The two exchanges of a login. -/
def converse (env : Environment ω) (scope : Option ScopeId) : Action ω LoginReply := do
  let config := (← session).config
  let opening := Login.opening config
  let key ← if config.usesToken then do
      send env opening noData scope
      pure none
    else some <$> send env opening KeyReply.ofValue scope
  let (notes, request) := Login.request env.padding env.station config key
  update (Client.annotate notes)
  send env (← ofAttempt request) LoginReply.ofValue scope

/-- Whether a failure of a login is told as it is. -/
def tellsItself : Failure → Bool
  | .cancelled _ | .notAborted _ | .told .handshake _ _ => true
  | _ => false

/-- Logs in. -/
def login (env : Environment ω) (scope : Option ScopeId) : Action ω LoginReply := do
  setSession fun s => { s with phase := .open, compressing := false }
  match ← attempt (converse env scope) with
  | .ok info =>
    setSession fun s => { s with compressing := s.config.compression, info := some info }
    note .info ("Logged in, session id " ++ toString info.sessionId)
    return info
  | .error f =>
    if !f.isReported then throw f
    shutdown env
    throw (if tellsItself f then f
      else .told .handshake ("failed to login: " ++ f.message) (.failure f))

/-- Opens a channel to a host of the settings and logs in on it, with a session that
follows all earlier ones. -/
def connect (env : Environment ω) (config : Config) (scope : Option ScopeId) : Action ω Unit := do
  let tls : Option Connect.TlsOptions :=
    if config.encryption then
      some ⟨config.validateServerCertificate, config.certificateFingerprint⟩
    else none
  let hosts ← candidates env config.host
  let _ ← Connect.channel env hosts { port := config.port, tls, path := config.urlPath } scope
  setSession fun s => { serial := s.serial + 1, config, attached := true }
  let _ ← login env scope

end ExaWire.Session
