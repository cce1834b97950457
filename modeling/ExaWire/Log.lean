/-
ExaWire/Log.lean

Notes on what the library does.  Every component writes its notes at a level;
what becomes of them is decided by a logger, which drops those below its
threshold and hands the others to its target.  A target is anything from a sink
of its own to a hierarchy of named loggers; it may fail to take a note, which
never reaches the caller.
-/
import ExaWire.Text.Template

namespace ExaWire

/-- The level of a note. -/
inductive Level
  | trace | debug | info | warn | error
deriving DecidableEq, Repr

namespace Level

/-- All levels, lowest first. -/
def all : List Level := [.trace, .debug, .info, .warn, .error]

/-- The name of a level. -/
def name : Level → String
  | .trace => "trace"
  | .debug => "debug"
  | .info => "info"
  | .warn => "warn"
  | .error => "error"

/-- The level of a name. -/
def ofName? (s : String) : Option Level := all.find? (·.name = s)

/-- Levels in ascending order. -/
def priority : Level → Nat
  | .trace => 0
  | .debug => 1
  | .info => 2
  | .warn => 3
  | .error => 4

/-- The number by which targets know a level. -/
def number : Level → Nat
  | .trace => 5
  | .debug => 10
  | .info => 20
  | .warn => 30
  | .error => 40

/-- The name by which named loggers know a level. -/
def label : Level → String
  | .trace => "TRACE"
  | .debug => "DEBUG"
  | .info => "INFO"
  | .warn => "WARNING"
  | .error => "ERROR"

end Level

/-- A note as it is written: a level and a text. -/
structure Note where
  level : Level
  text : String
deriving DecidableEq, Repr

/-- The notes at or above a threshold. -/
def Note.visible (threshold : Level) (notes : List Note) : List Note :=
  notes.filter fun n => threshold.priority ≤ n.level.priority

namespace Log

/-- Where notes go. -/
inductive Target
  | discard
  /-- a sink that takes the number of the level with each note -/
  | sink
  /-- an object with some of the methods named after levels, or with `log` -/
  | methods (names : List String)
  /-- a logger with a dotted name that ignores levels below a number -/
  | named (name : String) (least : Nat)
deriving DecidableEq, Repr

/-- A note as a target received it. -/
inductive Receipt
  | called (method template : String) (arguments : List Value)
  | written (logger label text : String)

/-- A target behind a threshold. -/
structure Logger where
  target : Target
  threshold : Level
deriving DecidableEq, Repr

/-- A logger with the threshold of that name; the usual one is `info`. -/
def Logger.create (target : Target) (threshold : String := "info") : Attempt Logger :=
  match Level.ofName? threshold with
  | some level => .ok ⟨target, level⟩
  | none => fault .unknownName

/-- The logger of a component: a named target gets a dotted name, any other target is
shared. -/
def Logger.child (l : Logger) (name : String) : Logger :=
  match l.target with
  | .named parent least => { l with target := .named (parent ++ "." ++ name) least }
  | _ => l

/-- What a target receives of a note. -/
def Target.receive (t : Target) (level : Level) (template : String) (arguments : List Value) :
    Option Receipt :=
  let numbered : Receipt := .called "log" template (.int level.number :: arguments)
  match t with
  | .discard => none
  | .sink => some numbered
  | .methods names =>
    if names.contains "log" then some numbered
    else if names.contains level.name then some (.called level.name template arguments)
    else none
  | .named name least =>
    if level.number < least then none
    else match Template.text template arguments with
      | .ok text => some (.written name level.label text)
      | .error _ => none

/-- What the target of a logger receives of a note. -/
def Logger.emit (l : Logger) (level : Level) (template : String) (arguments : List Value) :
    Option Receipt :=
  if level.priority < l.threshold.priority then none
  else l.target.receive level template arguments

end Log

end ExaWire
