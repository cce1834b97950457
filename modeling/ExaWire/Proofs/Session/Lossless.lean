/-
ExaWire/Proofs/Session/Lossless.lean

No request is lost in its frame.

A request of plain values is always encoded.  Its text is ASCII, and what is decoded from the
frame are the entries of the request in their order, on a session that compresses as on one
that does not, if what is deflated can be inflated again.
-/
import ExaWire.Proofs.Json.RoundTrip
import ExaWire.Proofs.Session.Farewell

namespace ExaWire.Session

variable {codec : Codec} {compressing : Bool} {entries : List (Value × Value)}

/-- What a frame holds before it is deflated, and how it crosses the channel. -/
structure Travels (codec : Codec) (compressing : Bool) (entries : List (Value × Value))
    (text : Bytes) : Prop where
  ascii : ∀ b ∈ text, b.toNat < 0x80
  plain : encode codec false (.object entries) = .ok text
  sent : encode codec compressing (.object entries) =
    .ok (if compressing then codec.deflate text else text)
  back : decode codec compressing (if compressing then codec.deflate text else text) = .ok entries

/-- An object is decoded from its text, deflated or not. -/
theorem decode_payload (lossless : ∀ bs, codec.inflate? (codec.deflate bs) = some bs)
    {cs : List Char} (legible : Json.Legible (.object entries) cs) :
    decode codec compressing (payload codec compressing cs) = .ok entries := by
  unfold decode payload
  cases compressing with
  | false =>
    simp only [Bool.false_eq_true, if_false]
    rw [legible.read_encode]
  | true =>
    simp only [if_true, lossless]
    rw [legible.read_encode]

/-- A plain request survives its frame. -/
theorem travels_of_plain (lossless : ∀ bs, codec.inflate? (codec.deflate bs) = some bs)
    (plain : Json.Plain (.object entries)) :
    ∃ text, Travels codec compressing entries text := by
  obtain ⟨cs, legible⟩ := plain.legible
  exact ⟨Utf8.encode (String.ofList cs), {
    ascii := Utf8.lt_of_mem_encode (by rw [String.toList_ofList]; exact legible.ascii)
    plain := encode_eq_ok.2 ⟨cs, legible.written, rfl⟩
    sent := encode_eq_ok.2 ⟨cs, legible.written, rfl⟩
    back := decode_payload lossless legible }⟩

/-- A quote, a delete character and one beyond the 16-bit units, and a list with an object in it, on
a session that compresses. -/
theorem travels_nested :
    let fields : List (String × Value) := [("sqlText", .text "\"\x7f😀"),
      ("n", .list [.int (-12), .null, .ofFields []])]
    let text := Utf8.encode
      "\x7b\"sqlText\": \"\\\"\\u007f\\ud83d\\ude00\", \"n\": [-12, null, \x7b\x7d]\x7d"
    let stream : Bytes := [120, 156, 171, 86, 42, 46, 204, 9, 73, 173, 40, 81, 178, 82, 80, 138, 81,
      138, 41, 53, 48, 48, 79, 139, 41, 77, 177, 48, 78, 1, 146, 169, 6, 6, 74, 58, 10, 74, 121, 64,
      201, 104, 93, 67, 35, 29, 133, 188, 210, 156, 28, 29, 133, 234, 218, 216, 90, 0, 245, 189, 17,
      5]
    let codec : Codec := ⟨fun bs => if bs = text then stream else 0 :: bs,
      fun bs => if bs = stream then some text else some bs.tail⟩
    (encode codec true (.ofFields fields)).toOption = some stream ∧
      ∃ text, Travels codec true (fields.map Value.entry) text := by
  intro fields text stream codec
  have lossless (bs : Bytes) : codec.inflate? (codec.deflate bs) = some bs := by
    show (if (if bs = text then stream else 0 :: bs) = stream then some text
      else some (if bs = text then stream else 0 :: bs).tail) = some bs
    by_cases same : bs = text
    · rw [if_pos same, if_pos rfl, same]
    · have other : 0 :: bs ≠ stream := fun e => absurd (List.cons.inj e).1 (by decide)
      rw [if_neg same, if_neg other, List.tail_cons]
  have plain : Json.Plain (.ofFields fields) := by
    refine .object (by decide) (List.forall_mem_cons.2 ⟨.text _, List.forall_mem_cons.2 ⟨?_,
      List.forall_mem_nil _⟩⟩)
    refine .list (List.forall_mem_cons.2 ⟨.int (by decide +kernel), List.forall_mem_cons.2 ⟨.null,
      List.forall_mem_cons.2 ⟨?_, List.forall_mem_nil _⟩⟩⟩)
    exact .object List.nodup_nil (List.forall_mem_nil _)
  exact ⟨by decide +kernel, travels_of_plain lossless plain⟩

end ExaWire.Session
