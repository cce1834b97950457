/-
ExaWire/ConnectionString.lean

Connection strings: `exa:<hosts>:<port>;key=value;…`.

A semicolon behind a backslash does not separate; `split` cuts the parameters
at the others and drops empty items.  Each item is cut at its first `=`, its
value is unescaped, and items are applied from left to right, so the last one
of a key counts.  `format` writes the settings of a connection such that they
can be read back, leaving out numbers that are zero and texts that are empty; a number of
too many digits to be read back is not written either.
-/
import ExaWire.Config
import ExaWire.Text.Cut
import ExaWire.Value.Coercion

namespace ExaWire.ConnectionString

/-- The mark at the start of every connection string. -/
def mark : List Char := ['e', 'x', 'a', ':']

/-- Why a connection string is refused. -/
inductive Refusal
  | unmarked (whole : String)
  | address (address : String)
  | port (port : String)
  /-- an item without an equals sign -/
  | item (item : String)
  | number (key value : String)
deriving DecidableEq, Repr

/-- The text of a refusal. -/
def Refusal.text : Refusal → String
  | .unmarked s => "invalid connection string, must start with 'exa:': '" ++ s ++ "'"
  | .address a => "invalid host or port in '" ++ a ++ "', expected format: <host>:<port>"
  | .port p => "invalid `port` value '" ++ p ++ "', numeric port expected"
  | .item i => "invalid parameter '" ++ i ++ "', expected format <parameter>=<value>"
  | .number k v => "invalid " ++ k ++ " value '" ++ v ++ "', numeric expected"

/-- A refusal as a failure. -/
def Refusal.failure (r : Refusal) : Failure := .of .connectionString r.text

/-- A value with every semicolon escaped by a backslash. -/
def escape (value : List Char) : List Char := Text.replaceOne ';' ['\\', ';'] value

/-- A value with every escaped semicolon bare. -/
def unescape (value : List Char) : List Char := Text.replacePair '\\' ';' [';'] value

/-- The character that holds the place of an escaped semicolon while items are cut. -/
def placeholder : Char := '\x00'

/-- The items between the semicolons that are not escaped, without the empty ones. -/
def split (parameters : List Char) : List (List Char) :=
  let guarded := Text.replacePair '\\' ';' [placeholder] parameters
  ((Text.splitOn ';' guarded).filter (· ≠ [])).map (Text.replaceOne placeholder ['\\', ';'])

/-- A key and its value set in a connection's settings. -/
def assign (c : Config) (key value : String) : Except Refusal Config :=
  match Config.TextKey.all.find? (·.name = key) with
  | some k => .ok (c.setText value k)
  | none =>
    match Config.FlagKey.all.find? (·.name = key) with
    | some .validateServerCertificate => .ok (c.setFlag (value ≠ "0") .validateServerCertificate)
    | some k => .ok (c.setFlag (value = "1") k)
    | none =>
      match Config.NumberKey.all.find? (·.name = key) with
      | some k =>
        match readInt? value with
        | some n => .ok (c.setNumber n k)
        | none => .error (.number key value)
      | none => .ok (c.setParam key value)

/-- One item applied to the settings so far. -/
def apply (c : Config) (item : List Char) : Except Refusal Config :=
  match Text.cut? ['='] item with
  | none => .error (.item (String.ofList item))
  | some (key, raw) => assign c (String.ofList key) (String.ofList (unescape raw))

/-- The host specification and the port of an address. -/
def readAddress (address : List Char) : Except Refusal (String × Int) :=
  match Text.splitOn ':' address with
  | [host, port] =>
    match readInt? (String.ofList port) with
    | some n => .ok (String.ofList host, n)
    | none => .error (.port (String.ofList port))
  | _ => .error (.address (String.ofList address))

/-- The settings that a connection string stands for. -/
def parse (s : String) : Except Refusal Config :=
  match Text.after? mark s.toList with
  | none => .error (.unmarked s)
  | some rest =>
    let (address, parameters) := (Text.cut? [';'] rest).getD (rest, [])
    match readAddress address with
    | .error r => .error r
    | .ok (host, port) => (split parameters).foldlM apply { host, port }

/-- An item of a connection string. -/
def item (key : String) (value : String) : List Char :=
  key.toList ++ '=' :: escape value.toList

/-- The item of a flag. -/
def flagItem (c : Config) (k : Config.FlagKey) : List Char :=
  k.name.toList ++ '=' :: [if c.flag k then '1' else '0']

/-- The item of a number that is not zero. -/
def numberItem? (c : Config) (k : Config.NumberKey) : Option (List Char) :=
  if c.number k = 0 then none
  else some (k.name.toList ++ '=' :: (toString (c.number k)).toList)

/-- The item of a text that is not empty. -/
def textItem? (c : Config) (k : Config.TextKey) : Option (List Char) :=
  if c.text k = "" then none else some (item k.name (c.text k))

/-- The items that carry the credentials: one token, or user and password. -/
def credentialItems (c : Config) : List (List Char) :=
  if c.accessToken ≠ "" then [item "accesstoken" c.accessToken]
  else if c.refreshToken ≠ "" then [item "refreshtoken" c.refreshToken]
  else [item "user" c.user, item "password" c.password]

/-- The text keys that are written behind the numbers. -/
def writtenTexts : List Config.TextKey :=
  [.certificateFingerprint, .clientName, .clientVersion, .schema, .urlPath]

/-- The items of a connection's settings. -/
def items (c : Config) : List (List Char) :=
  credentialItems c ++ Config.FlagKey.all.map (flagItem c) ++
    Config.NumberKey.all.filterMap (numberItem? c) ++
    writtenTexts.filterMap (textItem? c) ++ c.params.map fun (k, v) => item k v

/-- Whether all numbers of a connection's settings can be written. -/
def writable (c : Config) : Bool :=
  isWritable c.port && Config.NumberKey.all.all fun k => isWritable (c.number k)

/-- The connection string of a connection's settings. -/
def format (c : Config) : Attempt String :=
  let address := mark ++ c.host.toList ++ ':' :: (toString c.port).toList
  if writable c then .ok (String.ofList (Text.joinWith [';'] (address :: items c)))
  else fault .badValue

end ExaWire.ConnectionString
