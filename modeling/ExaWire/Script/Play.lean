/-
ExaWire/Script/Play.lean

Dialogues with a far end that follows a script: replies and accidents are given for
every call, and what can be seen of a call is told apart from what came before.
-/
import ExaWire.Script.Dialogue
import ExaWire.Script.Files
import ExaWire.Script.Plan

namespace ExaWire.Script

open Network

/-- What surrounds a dialogue. -/
structure Setting where
  codec : Codec
  padding : Login.Padding
  station : Login.Workstation
  hosts : List (String × Answer) := []
  files : Files.Tree := []

/-- The environment of a client in a setting. -/
def Setting.environment (s : Setting) (alarms : List (Nat × Cancellation)) : Environment FarEnd where
  wire := wire s.codec
  codec := s.codec
  padding := s.padding
  station := s.station
  directory := directory s.hosts alarms
  files := Files.file? s.files

/-- A step of a dialogue: a call, and what is scripted for it. -/
structure Step where
  call : Call
  name : String := "x"
  /-- replies behind those not yet read -/
  replies : List Reply := []
  refused : List String := []
  plan : Option Plan := none

/-- What can be seen of a step. -/
structure Outcome where
  result : Except Trouble Given
  happenings : List Happening
  notes : List Note
  /-- how far the session has come, if there is one -/
  phase : Option Phase
  /-- the object that the call was about -/
  object : Option Object
  /-- what was uploaded, by a statement that succeeded -/
  uploaded : Option Bytes

/-- Whether something was dialled. -/
def dialled (hs : List Happening) : Bool :=
  hs.any fun | .network (.dialled _ _) => true | _ => false

/-- What an execution uploaded. -/
def uploadOf (call : Call) (result : Except Trouble Given) (c : Client FarEnd) : Option Bytes :=
  match call, result with
  | .execute _ _, .ok _ => if dialled c.happenings then c.endpoint.map (·.socket.stream) else none
  | _, _ => none

/-- The far end as a step finds it. -/
def FarEnd.prepare (step : Step) (timers : List Timer) (e : FarEnd) : FarEnd :=
  { e with
    replies := e.replies ++ step.replies
    refused := step.refused
    timers
    stalls := usualStalls }

/-- Takes a step. -/
def Dialogue.take (setting : Setting) (d : Dialogue FarEnd) (step : Step) : Outcome × Dialogue FarEnd :=
  let arranged := (step.plan.getD []).arrange d.client.scopes
  let move : Move FarEnd := {
    call := step.call
    name := step.name
    scope := arranged.scope
    meanwhile := fun (wire, _) => (wire.prepare step arranged.timers, arranged.scopes) }
  let client := { d.client with happenings := [], notes := [] }
  let (result, d) := { d with client }.make (setting.environment arranged.alarms) move
  ({ result
     happenings := d.client.happenings
     notes := d.client.notes
     phase := if d.hasSession then some d.client.session.phase else none
     object := d.objects.lookup (step.call.subject step.name)
     uploaded := uploadOf step.call result d.client }, d)

/-- Takes steps in order. -/
def Dialogue.play (setting : Setting) (d : Dialogue FarEnd) : List Step → List Outcome × Dialogue FarEnd
  | [] => ([], d)
  | step :: steps =>
    let (outcome, d) := d.take setting step
    let (outcomes, d) := d.play setting steps
    (outcome :: outcomes, d)

end ExaWire.Script
