/-
ExaWire/Config.lean

The settings of a connection, and the keys under which a connection string may
set them.  A key is a text, a number or a flag; `Config.text`, `Config.number`
and `Config.flag` read the setting of a key, and the functions that set one
leave all others alone.
-/

namespace ExaWire

/-- The settings of a connection. -/
structure Config where
  host : String := "localhost"
  port : Int := 8563
  user : String := ""
  password : String := ""
  accessToken : String := ""
  refreshToken : String := ""
  clientName : String := "Python client"
  clientVersion : String := ""
  schema : String := ""
  autocommit : Bool := true
  /-- the size of a fetch in units of 1024 bytes -/
  fetchSize : Int := 2000
  compression : Bool := false
  /-- the most rows that a result may have, zero for no limit -/
  resultSetMaxRows : Int := 0
  encryption : Bool := true
  validateServerCertificate : Bool := true
  certificateFingerprint : String := ""
  queryTimeout : Int := 0
  urlPath : String := ""
  /-- further parameters, each key once, in the order in which they were first given -/
  params : List (String × String) := []
deriving DecidableEq, Repr

namespace Config

instance : Inhabited Config := ⟨{}⟩

/-- Whether a token stands in for user and password. -/
def usesToken (c : Config) : Bool := c.accessToken ≠ "" || c.refreshToken ≠ ""

/-- The version of the protocol: 3 with a token, otherwise 2. -/
def protocolVersion (c : Config) : Int := if c.usesToken then 3 else 2

/-- The size of a fetch in bytes. -/
def fetchBytes (c : Config) : Int := c.fetchSize * 1024

/-- Keys of text settings. -/
inductive TextKey
  | user | password | accessToken | refreshToken | certificateFingerprint
  | clientName | clientVersion | schema | urlPath
deriving DecidableEq, Repr

/-- Keys of numeric settings. -/
inductive NumberKey
  | fetchSize | queryTimeout | resultSetMaxRows
deriving DecidableEq, Repr

/-- Keys of flags. -/
inductive FlagKey
  | autocommit | encryption | compression | validateServerCertificate
deriving DecidableEq, Repr

/-- The name of a text key in a connection string. -/
def TextKey.name : TextKey → String
  | .user => "user"
  | .password => "password"
  | .accessToken => "accesstoken"
  | .refreshToken => "refreshtoken"
  | .certificateFingerprint => "certificatefingerprint"
  | .clientName => "clientname"
  | .clientVersion => "clientversion"
  | .schema => "schema"
  | .urlPath => "urlpath"

/-- All text keys. -/
def TextKey.all : List TextKey :=
  [.user, .password, .accessToken, .refreshToken, .certificateFingerprint,
    .clientName, .clientVersion, .schema, .urlPath]

/-- The name of a numeric key in a connection string. -/
def NumberKey.name : NumberKey → String
  | .fetchSize => "fetchsize"
  | .queryTimeout => "querytimeout"
  | .resultSetMaxRows => "resultsetmaxrows"

/-- All numeric keys, in the order in which they are written. -/
def NumberKey.all : List NumberKey := [.fetchSize, .queryTimeout, .resultSetMaxRows]

/-- The name of a flag in a connection string. -/
def FlagKey.name : FlagKey → String
  | .autocommit => "autocommit"
  | .encryption => "encryption"
  | .compression => "compression"
  | .validateServerCertificate => "validateservercertificate"

/-- All flags, in the order in which they are written. -/
def FlagKey.all : List FlagKey :=
  [.autocommit, .encryption, .compression, .validateServerCertificate]

/-- The setting of a text key. -/
def text (c : Config) : TextKey → String
  | .user => c.user
  | .password => c.password
  | .accessToken => c.accessToken
  | .refreshToken => c.refreshToken
  | .certificateFingerprint => c.certificateFingerprint
  | .clientName => c.clientName
  | .clientVersion => c.clientVersion
  | .schema => c.schema
  | .urlPath => c.urlPath

/-- The settings with a text key set. -/
def setText (c : Config) (v : String) : TextKey → Config
  | .user => { c with user := v }
  | .password => { c with password := v }
  | .accessToken => { c with accessToken := v }
  | .refreshToken => { c with refreshToken := v }
  | .certificateFingerprint => { c with certificateFingerprint := v }
  | .clientName => { c with clientName := v }
  | .clientVersion => { c with clientVersion := v }
  | .schema => { c with schema := v }
  | .urlPath => { c with urlPath := v }

/-- The setting of a numeric key. -/
def number (c : Config) : NumberKey → Int
  | .fetchSize => c.fetchSize
  | .queryTimeout => c.queryTimeout
  | .resultSetMaxRows => c.resultSetMaxRows

/-- The settings with a numeric key set. -/
def setNumber (c : Config) (n : Int) : NumberKey → Config
  | .fetchSize => { c with fetchSize := n }
  | .queryTimeout => { c with queryTimeout := n }
  | .resultSetMaxRows => { c with resultSetMaxRows := n }

/-- The setting of a flag. -/
def flag (c : Config) : FlagKey → Bool
  | .autocommit => c.autocommit
  | .encryption => c.encryption
  | .compression => c.compression
  | .validateServerCertificate => c.validateServerCertificate

/-- The settings with a flag set. -/
def setFlag (c : Config) (b : Bool) : FlagKey → Config
  | .autocommit => { c with autocommit := b }
  | .encryption => { c with encryption := b }
  | .compression => { c with compression := b }
  | .validateServerCertificate => { c with validateServerCertificate := b }

/-- A parameter put among others: a new key at the end, a present key in its place. -/
def putParam (key value : String) : List (String × String) → List (String × String)
  | [] => [(key, value)]
  | (k, v) :: rest =>
    if k = key then (k, value) :: rest else (k, v) :: putParam key value rest

/-- The settings with a further parameter set. -/
def setParam (c : Config) (key value : String) : Config :=
  { c with params := putParam key value c.params }

/-- Whether two parameter lists hold the same values under the same keys. -/
def sameParams (a b : List (String × String)) : Bool :=
  a.length = b.length && a.all fun (k, v) => b.lookup k = some v

/-- Whether two settings agree; the order of the further parameters does not count. -/
def same (a b : Config) : Bool :=
  sameParams a.params b.params && { a with params := [] } = { b with params := [] }

end Config

end ExaWire
