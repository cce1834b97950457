/-
ExaWire/Client/Basic.lean

A client at work: what surrounds it, what it holds, and the actions that change
what it holds.

An action may end in a failure and leaves the client in some state either way.
Everything that can be seen from outside is recorded in order: frames sent and
replies read, the channel closed, hosts dialled, files opened, and the notes.
-/
import ExaWire.Bytes.Zlib
import ExaWire.Hosts
import ExaWire.Import.Race
import ExaWire.Login.Request
import ExaWire.Network.Wire
import ExaWire.Session.State

namespace ExaWire

open Network

/-- What surrounds a client whose channels end in a wire with states `ω`. -/
structure Environment (ω : Type) where
  wire : Wire ω
  codec : Codec
  padding : Login.Padding
  station : Login.Workstation
  directory : Directory
  /-- the order in which the hosts of a specification are tried, which may be drawn anew for
  each time that anything is dialled -/
  order : Nat → List String → List String := fun _ => id
  /-- the local files that can be opened -/
  files : String → Option Import.LocalFile
  /-- what becomes of all scopes while a host is opened, for the first, second and every
  further time that anything is dialled -/
  meanwhile : Nat → Scopes → Scopes := fun _ => id

/-- How a channel reaches its wire: as it is, or through frames of a connection that was
upgraded, whose texts are put into words and which is closed once. -/
inductive Link
  | bare
  | framed (url : String) (isClosed : Bool)
deriving DecidableEq, Repr

/-- What can be seen of a client. -/
inductive Happening
  | sent (frame : Frame)
  | received (payload : Bytes)
  | detached
  /-- a request was tried while another one was under way -/
  | intruded (answer : Attempt Unit)
  | network (event : Event)
  | opened (path : String)
  | released (path : String)

/-- A client: its session, the channel of that session, all scopes, the upload under way
if there is one, and the record of what it did. -/
structure Client (ω : Type) where
  session : Session := {}
  link : Link := .bare
  wire : ω
  scopes : Scopes := []
  /-- the endpoint for local files that was dialled last -/
  endpoint : Option Import.Endpoint := none
  errand : Option Import.Errand := none
  /-- how often anything was dialled -/
  dials : Nat := 0
  happenings : List Happening := []
  notes : List Note := []

/-- An action of a client. -/
abbrev Action (ω α : Type) := ExceptT Failure (StateM (Client ω)) α

namespace Client

variable {ω α : Type}

/-- Records what happened. -/
def record (hs : List Happening) (c : Client ω) : Client ω :=
  { c with happenings := c.happenings ++ hs }

/-- Writes notes. -/
def annotate (notes : List Note) (c : Client ω) : Client ω := { c with notes := c.notes ++ notes }

/-- The client after an operation of its wire. -/
def after (turn : Turn ω α) (c : Client ω) : Client ω :=
  { c with
    wire := turn.rest
    scopes := c.scopes.apply turn.cancellations
    happenings := c.happenings ++
      List.replicate turn.intruders (.intruded c.session.grant) }

/-- Asks whether a scope is cancelled, and why. -/
def poll (scope : ScopeId) (c : Client ω) : Option Cause × Client ω :=
  let (cause, scopes) := c.scopes.poll scope
  (cause, { c with scopes })

/-- The client after a step of the upload that is under way, if one is. -/
def advance (step : Import.Progress → Import.Progress) (c : Client ω) : Client ω :=
  match c.errand, c.endpoint with
  | some errand, some endpoint =>
    let p := step { errand, endpoint, scopes := c.scopes }
    { c with
      errand := some p.errand
      endpoint := some p.endpoint
      scopes := p.scopes
      happenings := c.happenings ++ p.events.map .network
      notes := c.notes ++ p.notes }
  | _, _ => c

/-- What goes on while a reply is awaited: the upload, if there is one. -/
def idle (c : Client ω) : Client ω :=
  c.advance fun p => p.upload.judge (none : Option (Attempt Unit))

@[simp] theorem wire_advance (step : Import.Progress → Import.Progress) (c : Client ω) :
    (c.advance step).wire = c.wire := by
  unfold advance
  split <;> rfl

@[simp] theorem wire_idle (c : Client ω) : c.idle.wire = c.wire := wire_advance _ c

end Client

namespace Action

variable {ω α : Type}

/-- An action on the client that gives nothing. -/
def update (f : Client ω → Client ω) : Action ω Unit := modify f

/-- Writes a note. -/
def note (level : Level) (text : String) : Action ω Unit :=
  update (Client.annotate [⟨level, text⟩])

/-- Changes the session. -/
def setSession (f : Session → Session) : Action ω Unit :=
  update fun c => { c with session := f c.session }

/-- The session. -/
def session : Action ω Session := do return (← get).session

/-- The result of an attempt. -/
def ofAttempt (a : Attempt α) : Action ω α := fun c => (a, c)

/-- Runs an action to its end, however it ends. -/
def attempt (a : Action ω α) : Action ω (Attempt α) := fun c =>
  let (result, c) := a c
  (.ok result, c)

/-- Runs a body and then, however it ended, the end of the block that it stands in; a
failure of the end hides that of the body. -/
def guarded (body : Action ω α) (leave : Action ω Unit) : Action ω α := do
  let result ← attempt body
  leave
  ofAttempt result

/-- Asks whether a scope is cancelled, and why. -/
def poll (scope : ScopeId) : Action ω (Option Cause) := fun c =>
  let (cause, c) := c.poll scope
  (.ok cause, c)

/-- The hosts of a specification, in the order in which they are tried. -/
def candidates (env : Environment ω) (spec : String) : Action ω (List String) := fun c =>
  ((Hosts.resolve spec).map (env.order c.dials), c)

end Action

end ExaWire
