/-
ExaWire/Login/Request.lean

The two requests of a login.  The first only names the protocol version, and for
user and password its reply carries the server's public key; the second carries
the credentials, exactly one kind of them, and tells about the client.
-/
import ExaWire.Command
import ExaWire.Config
import ExaWire.Log
import ExaWire.Login.PublicKey

namespace ExaWire.Login

/-- What a login tells about the machine that the client runs on. -/
structure Workstation where
  system : String
  runtime : String
  /-- the name of the user, or why it could not be looked up -/
  user : Except String String

/-- The name under which this library is known to the server. -/
def driverName : String := "exasol-client-python 0.1.0"

/-- The language that this library is known by. -/
def clientLanguage : String := "Python"

/-- The first request. -/
def opening (c : Config) : Value :=
  let version := Value.int c.protocolVersion
  if c.usesToken then Command.loginToken version else Command.login version

/-- The session's attributes as a login sets them. -/
def attributes (c : Config) : Value :=
  ({ autocommit := .bool c.autocommit
     compressionEnabled := .bool c.compression
     currentSchema := .text c.schema
     queryTimeout := .int c.queryTimeout } : Command.Attributes).toValue

/-- The part of the second request that is the same for all credentials. -/
def introduction (station : Workstation) (c : Config) : List (String × Value) :=
  [("useCompression", .bool false),
    ("clientName", .text c.clientName),
    ("driverName", .text driverName),
    ("clientOs", .text station.system),
    ("clientLanguage", .text clientLanguage),
    ("clientVersion", .text (if c.clientVersion = "" then "(unknown version)" else c.clientVersion)),
    ("clientRuntime", .text station.runtime),
    ("attributes", attributes c)] ++
  (match station.user with
    | .ok name => if name = "" then [] else [("clientOsUsername", .text name)]
    | .error _ => [])

/-- The note about a user name that could not be looked up. -/
def userNotes (station : Workstation) : List Note :=
  match station.user with
  | .ok _ => []
  | .error text => [⟨.warn, "could not get current OS user: " ++ text⟩]

/-- The credentials of the second request, and the note on their kind: the access token
if there is one, else the refresh token, else user and sealed password. -/
def credentials (padding : Padding) (c : Config) (key : Option KeyReply) :
    List Note × Attempt (List (String × Value)) :=
  if c.accessToken ≠ "" then
    ([⟨.info, "Logging in with access token"⟩], .ok [("accessToken", .text c.accessToken)])
  else if c.refreshToken ≠ "" then
    ([⟨.info, "Logging in with refresh token"⟩], .ok [("refreshToken", .text c.refreshToken)])
  else match key with
    | none =>
      ([], .error (.of .handshake "server public key is required for password login"))
    | some reply =>
      ([⟨.info, "Logging in as user " ++ c.user⟩],
        (encryptPassword padding c.password reply).map fun sealed =>
          [("username", .text c.user), ("password", .text sealed)])

/-- The second request, and the notes on it. -/
def request (padding : Padding) (station : Workstation) (c : Config) (key : Option KeyReply) :
    List Note × Attempt Value :=
  let (notes, fields) := credentials padding c key
  (userNotes station ++ notes, fields.map fun fields => .ofFields (introduction station c ++ fields))

end ExaWire.Login
