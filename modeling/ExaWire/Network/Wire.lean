/-
ExaWire/Network/Wire.lean

The far end of a channel: something that takes frames and gives replies.

A wire is known by its operations alone.  Each may fail, each leaves the wire in
some state, and while it runs the caller may cancel scopes and other parts of the
program may try requests of their own.  The only law is that a wait ends: a poll
that finds nothing to read uses up some of the wire's patience.
-/
import ExaWire.Network.Socket

namespace ExaWire.Network

/-- A message as it is sent. -/
structure Frame where
  payload : Bytes
  binary : Bool
deriving DecidableEq, Repr

/-- How an operation of a wire went. -/
structure Turn (ω α : Type) where
  result : Except String α
  /-- the scopes that the caller cancelled meanwhile -/
  cancellations : List Cancellation := []
  /-- how many requests were tried meanwhile -/
  intruders : Nat := 0
  /-- the wire afterwards -/
  rest : ω

/-- The operations of a wire with states `ω`. -/
structure Wire (ω : Type) where
  send : Frame → ω → Turn ω Unit
  /-- whether a reply can be read -/
  poll : ω → Turn ω Bool
  /-- the next reply, or nothing if the peer has closed -/
  receive : ω → Turn ω (Option Bytes)
  close : ω → Turn ω Unit
  /-- whether there is a connection that can be polled at all -/
  isAttached : ω → Bool := fun _ => true
  /-- how many bytes were decrypted but not yet read -/
  buffered : ω → Nat := fun _ => 0
  patience : ω → Nat
  patience_lt : ∀ w, (poll w).result = .ok false → patience (poll w).rest < patience w

end ExaWire.Network
