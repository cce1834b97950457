/-
ExaWire/Script/Channeling.lean

A framed channel on its own: calls on it, one after the other, with a scripted far
end.
-/
import ExaWire.Connect.Channel
import ExaWire.Script.FarEnd

namespace ExaWire.Script

open Network

/-- A call on a channel. -/
inductive ChannelCall
  | send (text : String) (binary : Bool)
  | receive
  | poll
  | close

/-- A message as a frame; a binary one is compressed. -/
def frameOf (codec : Codec) (text : String) (binary : Bool) : Frame :=
  let payload := Utf8.encode text
  ⟨if binary then codec.deflate payload else payload, binary⟩

/-- Makes a call on a channel. -/
def ChannelCall.perform (env : Environment FarEnd) : ChannelCall → Action FarEnd Value
  | .send text binary => do
    Channel.send env (frameOf env.codec text binary)
    return .null
  | .receive => return .bytes (← Channel.receive env)
  | .poll => fun c =>
    let (result, c) := Channel.poll env c
    (result.map .bool, c)
  | .close => do
    Channel.close env
    return .null

/-- Makes calls in order, whatever comes of each. -/
def ChannelCall.play (env : Environment FarEnd) (c : Client FarEnd) :
    List ChannelCall → List (Attempt Value) × Client FarEnd
  | [] => ([], c)
  | call :: calls =>
    let (result, c) := call.perform env c
    let (results, c) := play env c calls
    (result :: results, c)

end ExaWire.Script
