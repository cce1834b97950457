/-
ExaWire/Proofs/Session/Farewell.lean

Which frames say farewell.

A frame says farewell if its payload is what a disconnect is encoded as.  A codec
that gives back what it deflated keeps different texts apart, so a request that says
farewell has the very text of a disconnect.  The library's own requests are objects
whose first entry tells them apart from it.
-/
import ExaWire.Proofs.Session.Closing

namespace ExaWire

open Network

/-- Whether a frame carries a disconnect. -/
def Network.Frame.isFarewell (codec : Codec) (frame : Frame) : Bool :=
  match Session.encode codec frame.binary Command.disconnect with
  | .ok payload => frame.payload = payload
  | .error _ => false

/-! ### Texts of objects -/

namespace Json

/-- The text of an object begins with its first entry. -/
theorem prefix_write_object {k v : Value} {entries : List (Value × Value)} {key part cs : List Char}
    (hk : writeKey k = .ok key) (hv : write v = .ok part)
    (h : write (.object ((k, v) :: entries)) = .ok cs) :
    '\x7b' :: key ++ ':' :: ' ' :: part <+: cs := by
  simp only [write, writeEntries, hk, hv, bind, Except.bind] at h
  rcases hp : writeEntries entries with f | parts
  · rw [hp] at h
    cases h
  · rw [hp] at h
    obtain ⟨tail, ht⟩ : ∃ tail, listed ((key ++ ':' :: ' ' :: part) :: parts) =
        (key ++ ':' :: ' ' :: part) ++ tail := by
      cases parts with
      | nil => exact ⟨[], by simp [listed]⟩
      | cons p ps => exact ⟨_, by simp [listed]; rfl⟩
    cases h
    rw [ht]
    exact ⟨tail ++ ['\x7d'], by simp⟩

end Json

namespace Session

/-- The payload of a text. -/
def payload (codec : Codec) (compressing : Bool) (cs : List Char) : Bytes :=
  let text := Utf8.encode (String.ofList cs)
  if compressing then codec.deflate text else text

/-- A request is encoded exactly if it has a text. -/
theorem encode_eq_ok {codec : Codec} {compressing : Bool} {request : Value} {bs : Bytes} :
    encode codec compressing request = .ok bs ↔
      ∃ cs, Json.write request = .ok cs ∧ bs = payload codec compressing cs := by
  unfold encode
  split
  · next cs hw => simp [hw, payload, eq_comm]
  · next f hw =>
    rw [hw]
    split
    · rcases request.member "command" with f | name <;> simp [bind, Except.bind]
    · simp [fault]
  · next hw => simp [hw]

variable {codec : Codec} (lossless : ∀ bs, codec.inflate? (codec.deflate bs) = some bs)
include lossless

/-- A request whose frame says farewell has the text of a disconnect. -/
theorem encode_eq_of_isFarewell {compressing : Bool} {request : Value} {bs : Bytes}
    (h : encode codec compressing request = .ok bs)
    (farewell : Frame.isFarewell codec ⟨bs, compressing⟩ = true) :
    encode codec false request = encode codec false Command.disconnect := by
  obtain ⟨bye, hb⟩ := encode_disconnect codec compressing
  have same : bs = bye := by
    unfold Frame.isFarewell at farewell
    rw [hb] at farewell
    exact of_decide_eq_true farewell
  obtain ⟨cs, hw, rfl⟩ := encode_eq_ok.1 h
  obtain ⟨cs', hw', rfl⟩ := encode_eq_ok.1 hb
  -- equal payloads come from equal texts, deflated or not
  have texts : payload codec false cs = payload codec false cs' := by
    cases compressing with
    | false => exact same
    | true =>
      have inflated := congrArg codec.inflate? same
      simp only [payload, if_true, lossless, Option.some.injEq] at inflated
      exact inflated
  rw [encode_eq_ok.2 ⟨cs, hw, rfl⟩, encode_eq_ok.2 ⟨cs', hw', rfl⟩, texts]

end Session

/-! ### The requests of the library -/

/-- An object whose text begins otherwise does not have the text of a disconnect. -/
theorem Session.encode_ne_disconnect {codec : Codec} {k v : Value} {entries : List (Value × Value)}
    {key part : List Char} (hk : Json.writeKey k = .ok key) (hv : Json.write v = .ok part)
    (h : ¬ (('\x7b' :: key ++ ':' :: ' ' :: part).flatMap Utf8.encodeChar <+:
      Utf8.encode "\x7b\"command\": \"disconnect\"\x7d")) :
    encode codec false (.object ((k, v) :: entries)) ≠ encode codec false Command.disconnect := by
  intro same
  have bye : encode codec false Command.disconnect =
      .ok (Utf8.encode "\x7b\"command\": \"disconnect\"\x7d") := rfl
  rw [bye] at same
  obtain ⟨cs, hw, hcs⟩ := encode_eq_ok.1 same
  -- the first entry of the object would have to begin the text of a disconnect
  obtain ⟨tail, ht⟩ := Json.prefix_write_object hk hv hw
  refine h ⟨tail.flatMap Utf8.encodeChar, ?_⟩
  rw [hcs, ← List.flatMap_append, ht]
  simp [payload, Utf8.encode]

theorem Command.named_ne_disconnect {codec : Codec} {name : String} {fields : List (String × Value)}
    (h : ¬ (("\x7b\"command\": ".toList ++ Json.writeText name.toList).flatMap Utf8.encodeChar <+:
      Utf8.encode "\x7b\"command\": \"disconnect\"\x7d")) :
    Session.encode codec false (named name fields) ≠ Session.encode codec false disconnect :=
  Session.encode_ne_disconnect (k := .text "command") (v := .text name) rfl rfl h

theorem Command.IsOwn.ne_disconnect {codec : Codec} {request : Value} (h : IsOwn request) :
    Session.encode codec false request ≠ Session.encode codec false disconnect := by
  cases h with
  | execute => exact named_ne_disconnect (by decide)
  | createPrepared => exact named_ne_disconnect (by decide)
  | executePrepared => exact named_ne_disconnect (by decide)
  | closePrepared => exact named_ne_disconnect (by decide)
  | fetch => exact named_ne_disconnect (by decide)
  | closeResultSet => exact named_ne_disconnect (by decide)

theorem Login.IsRequest.ne_disconnect {codec : Codec} {request : Value} (h : IsRequest request) :
    Session.encode codec false request ≠ Session.encode codec false Command.disconnect := by
  cases h with
  | opening c =>
    unfold Login.opening
    split
    · exact Command.named_ne_disconnect (by decide)
    · exact Command.named_ne_disconnect (by decide)
  | credentials station c fields =>
    exact Session.encode_ne_disconnect (k := .text "useCompression") (v := .bool false) rfl rfl (by decide)

theorem Command.abortQuery_ne_disconnect {codec : Codec} :
    Session.encode codec false abortQuery ≠ Session.encode codec false disconnect :=
  named_ne_disconnect (by decide)

end ExaWire
