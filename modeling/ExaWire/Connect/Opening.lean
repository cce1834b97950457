/-
ExaWire/Connect/Opening.lean

One attempt to reach a host: dial it, secure the connection, check a pinned
certificate, upgrade to frames.  If a step fails, no later step is taken, and the
socket that was dialled is closed before the attempt ends.

To secure a connection takes it out of that socket.  A handshake that fails, and an
upgrade that fails, close the connection themselves; but when the certificate is not
the pinned one, the socket that is closed is empty, and the connection stays open.
-/
import ExaWire.Connect.Certificate
import ExaWire.Network.Peer

namespace ExaWire.Connect

open Network

/-- Why an attempt failed. -/
inductive Obstacle
  /-- the certificate is not accepted, which no other host makes good -/
  | rejected (r : Rejection)
  | network (e : NetworkError)
deriving DecidableEq, Repr

/-- The address of a channel. -/
def channelUrl (secured : Bool) (host : String) (port : Int) (path : String) : String :=
  let scheme := if secured then "wss" else "ws"
  let path := if path = "" ∨ path.toList.head? = some '/' then path else "/" ++ path
  scheme ++ "://" ++ host ++ ":" ++ toString port ++ path

/-- Secures a connection, if that is asked. -/
def secure (tls : Option TlsOptions) (p : Peer) : Except Obstacle Unit :=
  match tls with
  | none => .ok ()
  | some _ =>
    match p.handshake with
    | .untrusted reason => .error (.rejected (.validation reason))
    | .broken text => .error (.network (.socket text))
    | .accepted => .ok ()

/-- Checks the certificate of a connection that is secured. -/
def checkPin (tls : Option TlsOptions) (p : Peer) : Except Rejection Unit :=
  match tls with
  | none => .ok ()
  | some t => verifyFingerprint p.certificate t.fingerprint

/-- The event of securing a connection. -/
def secureEvent (tls : TlsOptions) (host : String) : Event :=
  .secured host tls.checksChain tls.checksChain

/-- Upgrades a connection to frames. -/
def upgrade (p : Peer) : Except Obstacle Unit :=
  match p.upgradeFailure with
  | some text => .error (.network (.upgrade text))
  | none => .ok ()

/-- One attempt to reach a host, and what could be seen of it. -/
def openHost (answer : Answer) (tls : Option TlsOptions) (host : String) (port : Int) (url : String) :
    Except Obstacle Unit × List Event :=
  match answer with
  | .error text => (.error (.network (.socket text)), [.dialled host port])
  | .ok peer =>
    let events : List Event := .dialled host port :: tls.toList.map (secureEvent · host)
    match secure tls peer with
    | .error o => (.error o, events ++ [.closed host])
    | .ok () =>
      match checkPin tls peer with
      | .error r => (.error (.rejected r), events ++ [.abandoned host])
      | .ok () =>
        match upgrade peer with
        | .error o => (.error o, events ++ [.upgraded url, .closed host])
        | .ok () => (.ok (), events ++ [.upgraded url])

end ExaWire.Connect
