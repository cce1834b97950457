/-
ExaWire/Import/Endpoint.lean

The connection through which local files reach the server.  The client dials a
host, sends three magic words and is told a host and a port: the address that the
redirected statement names, and at which the server asks for the files through
this same connection.
-/
import ExaWire.Bytes.Digest
import ExaWire.Import.Upload
import ExaWire.Log
import ExaWire.Network.Peer

namespace ExaWire.Import

open Network

/-- A connection to an endpoint, and the address that the server gave for it. -/
structure Endpoint where
  socket : Socket
  isOpen : Bool := true
  host : String := ""
  port : Nat := 0

namespace Endpoint

/-- The failure of anything that has to do with an endpoint. -/
def failure (text : String) : Failure := .of .proxy text

/-- The refusal of a connection that was closed. -/
def closedFailure : Failure := failure "proxy connection is closed"

/-- The address that a statement names. -/
def url (e : Endpoint) : String := "http://" ++ e.host ++ ":" ++ toString e.port

/-! ### Dialling -/

/-- The failure when no host could be dialled, with what was said about each. -/
def unreachable (reasons : List String) : Failure :=
  failure ("could not create proxy connection to import file: " ++
    "; ".intercalate (if reasons.isEmpty then ["no hosts"] else reasons))

/-- Dials hosts until one answers; `reasons` tells why the earlier ones did not. -/
def dialFrom (directory : Directory) (port : Int) :
    Nat → List String → List String → Attempt Endpoint × List Event
  | _, reasons, [] => (.error (unreachable reasons), [])
  | dials, reasons, host :: hosts =>
    match directory dials host with
    | .ok peer => (.ok { socket := peer.socket }, [.dialled host port])
    | .error text =>
      let reason := "could not create TCP connection to " ++ host ++ ":" ++ toString port ++ ", " ++ text
      let (result, events) := dialFrom directory port (dials + 1) (reasons ++ [reason]) hosts
      (result, .dialled host port :: events)

/-- Dials hosts in order until one answers. -/
def dial (directory : Directory) (dials : Nat) (hosts : List String) (port : Int) :
    Attempt Endpoint × List Event :=
  dialFrom directory port dials [] hosts

/-! ### Negotiation -/

/-- The words that ask for an endpoint. -/
def magicWords : List Nat := [0x02212102, 1, 1]

/-- What is sent to ask for an endpoint. -/
def request : Bytes := magicWords.flatMap (Bytes.littleEndian 4)

/-- The size of the answer: a word, a port and a host of at most 16 bytes. -/
def replySize : Nat := 24

/-- Reads until `size` bytes have come, `got` of them so far. -/
def receiveExactly (size : Nat) (got : Bytes) (s : Socket) : Attempt Bytes × Socket :=
  if _h : size ≤ got.length then (.ok got, s)
  else
    match s.receive (size - got.length) with
    | (.error text, s) => (.error (failure ("could not negotiate import endpoint: " ++ text)), s)
    | (.ok [], s) =>
      (.error (failure ("connection closed after " ++ toString got.length ++ " of " ++
        toString size ++ " handshake bytes")), s)
    | (.ok (b :: chunk), s) => receiveExactly size (got ++ b :: chunk) s
termination_by size - got.length
decreasing_by
  simp only [List.length_append, List.length_cons]
  omega

/-- A list without the zero bytes at either end. -/
def stripZeros (bs : Bytes) : Bytes :=
  ((bs.dropWhile (· = 0)).reverse.dropWhile (· = 0)).reverse

/-- The host and the port that an answer gives. -/
def readReply (reply : Bytes) : String × Nat :=
  (Utf8.decodeLossy (stripZeros (reply.drop 8)), Bytes.ofLittleEndian ((reply.drop 4).take 4))

/-- Asks for an endpoint.  Its address is kept only if the whole answer has come. -/
def negotiate (e : Endpoint) : Attempt (String × Nat) × Endpoint × List Note :=
  if e.isOpen then
    match e.socket.send request with
    | (.error text, socket) =>
      (.error (failure ("could not negotiate import endpoint: " ++ text)), { e with socket }, [])
    | (.ok (), socket) =>
      match receiveExactly replySize [] socket with
      | (.error f, socket) => (.error f, { e with socket }, [])
      | (.ok reply, socket) =>
        let (host, port) := readReply reply
        let e := { e with socket, host, port }
        (.ok (host, port), e, [⟨.debug, "Import endpoint negotiated at " ++ e.url⟩])
  else (.error closedFailure, e, [])

/-! ### Files -/

/-- How an upload ended. -/
inductive Ending
  | done (result : Attempt Nat)
  /-- it waits until the socket is shut down -/
  | stuck

/-- Uploads files.  A file or a socket that fails ends the upload in a failure that
names the address. -/
def upload (scope : Option ScopeId) (separator : Bytes) (files : List LocalFile)
    (scopes : Scopes) (e : Endpoint) : Ending × Endpoint × Scopes × List Note :=
  if e.isOpen then
    let (result, u) := (Upload.run scope separator files).run ⟨e.socket, scopes, 0⟩
    let e := { e with socket := u.socket }
    match result with
    | .ok () =>
      (.done (.ok u.payload), e, u.scopes,
        [⟨.info, "Uploaded " ++ toString u.payload ++ " bytes to " ++ e.url⟩])
    | .error (.failed text) =>
      (.done (.error (failure ("could not stream file to " ++ e.url ++ ": " ++ text))), e, u.scopes, [])
    | .error (.cancelled cause) => (.done (.error (.cancelled cause)), e, u.scopes, [])
    | .error .stuck => (.stuck, e, u.scopes, [])
  else (.done (.error closedFailure), e, scopes, [])

/-! ### The end -/

/-- A note on an error that is of no consequence. -/
def ignoring (what : String) : Option String → List Note
  | none => []
  | some text => [⟨.debug, "Ignoring error while " ++ what ++ ": " ++ text⟩]

/-- Shuts the socket down, so that a write that waits fails at once. -/
def abort (e : Endpoint) : Endpoint × List Event × List Note :=
  if e.isOpen then
    ({ e with socket := { e.socket with isShut := true } }, [.shut e.socket.host],
      ignoring "shutting down proxy socket" e.socket.shutdownFailure)
  else (e, [], [])

/-- Closes the stream and the socket. -/
def close (e : Endpoint) : Endpoint × List Event × List Note :=
  if e.isOpen then
    ({ e with isOpen := false }, [.closed e.socket.host],
      ignoring "flushing proxy stream" e.socket.streamCloseFailure ++
        ignoring "closing proxy socket" e.socket.closeFailure)
  else (e, [], [])

end Endpoint

end ExaWire.Import
