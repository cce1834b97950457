/-
ExaWire/Network/Peer.lean

What a client meets when it dials a host, and the events of dialling that can be
seen from outside.
-/
import ExaWire.Network.Socket

namespace ExaWire.Network

/-- How securing a connection goes. -/
inductive Handshake
  | accepted
  /-- the certificate chain is not trusted, with the reason as far as it is known -/
  | untrusted (reason : String)
  | broken (text : String)
deriving DecidableEq, Repr

/-- What stands behind a host. -/
structure Peer where
  socket : Socket
  handshake : Handshake := .accepted
  certificate : Option Bytes := none
  /-- why the upgrade to frames fails, if it does -/
  upgradeFailure : Option String := none

/-- What a dialled host answers: a peer, or why there is none. -/
abbrev Answer := Except String Peer

/-- What dialling meets: for every host, and for the first, second and every further
time that anything is dialled. -/
abbrev Directory := Nat → String → Answer

/-- What can be seen of a client that dials. -/
inductive Event
  | dialled (host : String) (port : Int)
  /-- a handshake; whether a certificate is required and the host's name checked -/
  | secured (host : String) (required checked : Bool)
  | upgraded (url : String)
  | shut (host : String)
  | closed (host : String)
  /-- a socket is closed that has handed its connection on; the connection stays open -/
  | abandoned (host : String)
deriving DecidableEq, Repr

end ExaWire.Network
