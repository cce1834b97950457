/-
ExaWire/Proofs/Import/Negotiated.lean

An endpoint is negotiated exactly, however the answer is cut into pieces.

The stream of a socket is a list of pieces, none of them empty, in front of whatever else it
does.  A reading that needs a number of bytes takes just these, from the middle of a piece
if need be: what is left is cut where the reading stopped (`receiveExactly_enough`).  If
the stream breaks off before, the reading fails with the number of bytes that came
(`receiveExactly_short`).

An answer holds any word, then a port and a host, filled up with zeros.  Its port is read back
because four bytes hold it, and its host because neither end of it is a zero.
-/
import ExaWire.Import.Endpoint
import ExaWire.Proofs.Text.Utf8
import Mathlib.Algebra.GroupWithZero.Nat
import Mathlib.Data.List.Basic

namespace ExaWire

open Network

/-! ### Numbers as bytes -/

namespace Bytes

@[simp] theorem length_littleEndian (width n : Nat) : (littleEndian width n).length = width := by
  simp [littleEndian]

theorem littleEndian_succ (width n : Nat) :
    littleEndian (width + 1) n = (n % 256).toUInt8 :: littleEndian width (n / 256) := by
  unfold littleEndian
  rw [List.range_succ_eq_map, List.map_cons, List.map_map]
  refine List.cons_eq_cons.2 ⟨by simp, List.map_congr_left fun i _ => ?_⟩
  show (n / 256 ^ (i + 1) % 256).toUInt8 = (n / 256 / 256 ^ i % 256).toUInt8
  rw [Nat.pow_succ', Nat.div_div_eq_div_mul]

/-- A number is read back from as many bytes as hold it. -/
theorem ofLittleEndian_littleEndian {width n : Nat} (h : n < 256 ^ width) :
    ofLittleEndian (littleEndian width n) = n := by
  induction width generalizing n with
  | zero =>
    obtain rfl : n = 0 := by simpa using h
    rfl
  | succ width ih =>
    have rest : n / 256 < 256 ^ width := by
      rw [Nat.div_lt_iff_lt_mul (by decide), ← Nat.pow_succ]
      exact h
    rw [littleEndian_succ, ofLittleEndian, ih rest, Utf8.toNat_byte (Nat.mod_lt _ (by decide))]
    exact Nat.mod_add_div n 256

end Bytes

/-! ### Streams in pieces -/

namespace Network

/-- How a stream is cut off: it ends, which an empty reading tells, or reading it fails. -/
inductive CutsOff : List Delivery → Option String → Prop
  | ended : CutsOff [] none
  | silent (rest) : CutsOff (.bytes [] :: rest) none
  | failed (text rest) : CutsOff (.failure text :: rest) (some text)

end Network

namespace Import.Endpoint

/-- The failure of a reading that the stream broke off after so many bytes. -/
def shortFailure (came size : Nat) : Option String → Failure
  | none => failure ("connection closed after " ++ toString came ++ " of " ++ toString size ++
      " handshake bytes")
  | some text => failure ("could not negotiate import endpoint: " ++ text)

section Receiving

variable {size : Nat} {got : Bytes} {pieces : List Bytes} {more : List Delivery} {s : Socket}

theorem receiveExactly_done (h : size ≤ got.length) (s : Socket) :
    receiveExactly size got s = (.ok got, s) := by
  rw [receiveExactly, dif_pos h]

/-- One reading takes as much of the next piece as is needed, and puts back what it leaves. -/
theorem receiveExactly_step (h : ¬ size ≤ got.length) {piece : Bytes} (some : piece ≠ [])
    {rest : List Delivery} (comes : s.incoming = .bytes piece :: rest) :
    receiveExactly size got s = receiveExactly size (got ++ piece.take (size - got.length))
      { s with
        incoming := if (piece.drop (size - got.length)).isEmpty then rest
          else .bytes (piece.drop (size - got.length)) :: rest } := by
  obtain ⟨b, chunk, taken⟩ : ∃ b chunk, piece.take (size - got.length) = b :: chunk := by
    obtain ⟨b, piece, rfl⟩ := List.exists_cons_of_ne_nil some
    obtain ⟨n, hn⟩ := Nat.exists_eq_succ_of_ne_zero (show size - got.length ≠ 0 by omega)
    exact ⟨b, piece.take n, by rw [hn]; rfl⟩
  rw [receiveExactly, dif_neg h]
  simp only [Socket.receive, comes, taken]

/-- Of pieces that are enough a reading takes what it needs, and what comes after that is left. -/
theorem receiveExactly_enough (some : ∀ piece ∈ pieces, piece ≠ [])
    (comes : s.incoming = pieces.map .bytes ++ more) (atMost : got.length ≤ size)
    (enough : size ≤ (got ++ pieces.flatten).length) :
    ∃ left : List Bytes, (∀ piece ∈ left, piece ≠ []) ∧
      left.flatten = (got ++ pieces.flatten).drop size ∧
      receiveExactly size got s = (.ok ((got ++ pieces.flatten).take size),
        { s with incoming := left.map .bytes ++ more }) := by
  -- by induction on the pieces: each is taken as a whole, except for the last one that is needed
  induction pieces generalizing got s with
  | nil =>
    have full : size = got.length := Nat.le_antisymm (by simpa using enough) atMost
    refine ⟨[], some, by simp [full], ?_⟩
    rw [receiveExactly_done (Nat.le_of_eq full), ← comes]
    simp [full]
  | cons piece pieces ih =>
    obtain ⟨hpiece, hpieces⟩ := List.forall_mem_cons.1 some
    by_cases full : size ≤ got.length
    · have exact_ : size = got.length := Nat.le_antisymm full atMost
      refine ⟨piece :: pieces, some, by simp [exact_], ?_⟩
      rw [receiveExactly_done full, ← comes]
      simp [exact_]
    rw [receiveExactly_step full hpiece comes]
    by_cases whole : piece.length ≤ size - got.length
    · have none : piece.drop (size - got.length) = [] := List.drop_eq_nil_of_le whole
      rw [List.take_of_length_le whole, none, List.isEmpty_nil, if_pos rfl, List.flatten_cons,
        ← List.append_assoc]
      refine ih hpieces rfl ?_ ?_
      · rw [List.length_append]
        omega
      · rwa [List.append_assoc, ← List.flatten_cons]
    · have some' : piece.drop (size - got.length) ≠ [] := by
        rw [ne_eq, List.drop_eq_nil_iff]
        exact whole
      have reached : (got ++ piece.take (size - got.length)).length = size := by
        rw [List.length_append, List.length_take]
        omega
      refine ⟨piece.drop (size - got.length) :: pieces, List.forall_mem_cons.2 ⟨some', hpieces⟩, ?_, ?_⟩
      · rw [List.drop_append, List.drop_eq_nil_of_le atMost, List.flatten_cons, List.flatten_cons,
          List.drop_append_of_le_length (Nat.le_of_not_le whole), List.nil_append]
      · rw [receiveExactly_done (Nat.le_of_eq reached.symm), if_neg (by simpa using some'),
          List.take_append, List.take_of_length_le atMost, List.flatten_cons,
          List.take_append_of_le_length (Nat.le_of_not_le whole)]
        rfl

/-- If the stream breaks off before enough has come, the reading fails and tells how much did. -/
theorem receiveExactly_short (got : Bytes) (some : ∀ piece ∈ pieces, piece ≠ [])
    (comes : s.incoming = pieces.map .bytes ++ more) (short : (got ++ pieces.flatten).length < size)
    {why : Option String} (cuts : CutsOff more why) :
    ∃ left, receiveExactly size got s =
      (.error (shortFailure (got ++ pieces.flatten).length size why), { s with incoming := left }) := by
  induction pieces generalizing got s with
  | nil =>
    have full : ¬ size ≤ got.length := by
      rw [List.flatten_nil, List.append_nil] at short
      exact Nat.not_le.2 short
    rw [receiveExactly, dif_neg full, List.flatten_nil, List.append_nil]
    rw [List.map_nil, List.nil_append] at comes
    cases cuts with
    | ended =>
      have received : s.receive (size - got.length) = (.ok [], s) := by rw [Socket.receive, comes]
      refine ⟨s.incoming, ?_⟩
      simp only [received]
      rfl
    | silent rest =>
      have received : s.receive (size - got.length) = (.ok [], { s with incoming := rest }) := by
        simp only [Socket.receive, comes, List.take_nil, List.drop_nil]
        rfl
      refine ⟨rest, ?_⟩
      simp only [received]
      rfl
    | failed text rest =>
      have received : s.receive (size - got.length) = (.error text, { s with incoming := rest }) := by
        simp only [Socket.receive, comes]
      refine ⟨rest, ?_⟩
      simp only [received]
      rfl
  | cons piece pieces ih =>
    obtain ⟨hpiece, hpieces⟩ := List.forall_mem_cons.1 some
    have sizes := short
    rw [List.flatten_cons, List.length_append, List.length_append] at sizes
    have full : ¬ size ≤ got.length := by omega
    have whole : piece.length ≤ size - got.length := by omega
    have none : piece.drop (size - got.length) = [] := List.drop_eq_nil_of_le whole
    rw [receiveExactly_step full hpiece comes, List.take_of_length_le whole, none, List.isEmpty_nil,
      if_pos rfl, List.flatten_cons, ← List.append_assoc]
    refine ih _ hpieces rfl ?_
    rwa [List.append_assoc, ← List.flatten_cons]

end Receiving

/-! ### Answers -/

/-- The bytes of an answer: a word, the port, and the host filled up with zeros. -/
def answer (word : Bytes) (host : String) (port : Nat) : Bytes :=
  word ++ Bytes.littleEndian 4 port ++ Utf8.encode host ++
    List.replicate (16 - (Utf8.encode host).length) 0

/-- A host and a port that an answer can tell, and the word in front of them. -/
structure Tells (word : Bytes) (host : String) (port : Nat) : Prop where
  length_word : word.length = 4
  port_lt : port < 2 ^ 32
  length_host : (Utf8.encode host).length ≤ 16
  begins : (Utf8.encode host).head? ≠ some 0
  ends : (Utf8.encode host).getLast? ≠ some 0

theorem Tells.length_answer {word : Bytes} {host : String} {port : Nat} (h : Tells word host port) :
    (answer word host port).length = replySize := by
  have short := h.length_host
  simp only [answer, List.length_append, List.length_replicate, Bytes.length_littleEndian, h.length_word,
    replySize]
  omega

/-- Bytes that neither begin nor end with a zero lose just the zeros behind them. -/
theorem stripZeros_append {bs : Bytes} (begins : bs.head? ≠ some 0) (ends : bs.getLast? ≠ some 0)
    (n : Nat) : stripZeros (bs ++ List.replicate n 0) = bs := by
  have zeros {k : Nat} : (List.replicate k (0 : UInt8)).dropWhile (· = 0) = [] := by
    rw [List.dropWhile_replicate]
    rfl
  have keeps {cs : Bytes} (h : cs.head? ≠ some 0) : cs.dropWhile (· = 0) = cs := by
    cases cs with
    | nil => rfl
    | cons c cs =>
      refine List.dropWhile_cons_of_neg ?_
      simpa using h
  cases bs with
  | nil => rw [stripZeros, List.nil_append, zeros]; rfl
  | cons b bs =>
    have front : (b :: bs ++ List.replicate n 0).head? ≠ some 0 := begins
    have back : (b :: bs).reverse.head? ≠ some 0 := by rwa [List.head?_reverse]
    rw [stripZeros, keeps front, List.reverse_append, List.reverse_replicate,
      List.dropWhile_append_of_pos (by simp), keeps back, List.reverse_reverse]

theorem readReply_answer {word : Bytes} {host : String} {port : Nat} (h : Tells word host port) :
    readReply (answer word host port) = (host, port) := by
  have behind : (answer word host port).drop 8 =
      Utf8.encode host ++ List.replicate (16 - (Utf8.encode host).length) 0 := by
    have e : (word ++ Bytes.littleEndian 4 port).length = 8 := by
      rw [List.length_append, h.length_word, Bytes.length_littleEndian]
    rw [answer, List.append_assoc, ← e, List.drop_left]
  have middle : ((answer word host port).drop 4).take 4 = Bytes.littleEndian 4 port := by
    have front : (answer word host port).drop 4 = Bytes.littleEndian 4 port ++
        (Utf8.encode host ++ List.replicate (16 - (Utf8.encode host).length) 0) := by
      rw [answer, List.append_assoc, List.append_assoc, ← h.length_word, List.drop_left]
    rw [front]
    exact List.take_left' (Bytes.length_littleEndian 4 port)
  rw [readReply, behind, middle, stripZeros_append h.begins h.ends, Utf8.decodeLossy_encode,
    Bytes.ofLittleEndian_littleEndian h.port_lt]

/-! ### Negotiation -/

/-- What is sent to ask for an endpoint: three words of four bytes, the least significant first. -/
def handshake : Bytes := [0x02, 0x21, 0x21, 0x02, 1, 0, 0, 0, 1, 0, 0, 0]

theorem request_eq : request = handshake := by decide

/-- A socket on which the request was sent. -/
def requested (s : Socket) : Socket := { s with sent := s.sent ++ handshake }

variable {e : Endpoint}

theorem send_request (h : e.socket.sendFailure = none) :
    e.socket.send request = (.ok (), requested e.socket) := by
  unfold Socket.send
  split
  · next text fails => cases h.symm.trans fails
  · rw [request_eq]
    rfl

/-- A connection on which the request was sent, and whose stream was then read up to some place. -/
def asked (e : Endpoint) (incoming : List Delivery) : Endpoint :=
  { e with socket := { requested e.socket with incoming } }

/-- How an open connection comes to an address, or not. -/
structure Negotiates (e : Endpoint) (pieces : List Bytes) (more : List Delivery) : Prop where
  /-- an answer is taken to its last byte and no further, and its address is given and kept -/
  agrees : e.socket.sendFailure = none → ∀ word host port later, Tells word host port →
    pieces.flatten = answer word host port ++ later →
    ∃ left : List Bytes, (∀ piece ∈ left, piece ≠ []) ∧ left.flatten = later ∧
      negotiate e = (.ok (host, port), { asked e (left.map .bytes ++ more) with host, port },
          [⟨.debug, "Import endpoint negotiated at " ++ (negotiate e).2.1.url⟩]) ∧
        (negotiate e).2.1.url = "http://" ++ host ++ ":" ++ toString port
  /-- if the stream breaks off in it, that is told, and the address stays what it was -/
  cutOff : e.socket.sendFailure = none → pieces.flatten.length < replySize →
    ∀ why, CutsOff more why → ∃ left, negotiate e =
      (.error (shortFailure pieces.flatten.length replySize why), asked e left, [])
  /-- and nothing at all changes if the request cannot be sent -/
  unsent : ∀ text, e.socket.sendFailure = some text →
    negotiate e = (.error (failure ("could not negotiate import endpoint: " ++ text)), e, [])

/-- An open connection negotiates its address exactly, whatever pieces the answer comes in. -/
theorem negotiate_in_pieces (e : Endpoint) (isOpen : e.isOpen = true) (pieces : List Bytes)
    (given : ∀ piece ∈ pieces, piece ≠ []) (more : List Delivery)
    (comes : e.socket.incoming = pieces.map .bytes ++ more) : Negotiates e pieces more := by
  constructor
  case agrees =>
    intro sends word host port later tells whole
    have length := tells.length_answer
    have enough : replySize ≤ ([] ++ pieces.flatten : Bytes).length := by
      rw [List.nil_append, whole, List.length_append, length]
      exact Nat.le_add_right _ _
    obtain ⟨left, some, rest, received⟩ :=
      receiveExactly_enough (s := requested e.socket) given comes (Nat.zero_le _) enough
    rw [List.nil_append, whole, ← length, List.drop_left] at rest
    rw [List.nil_append, whole, ← length, List.take_left, length] at received
    let e' : Endpoint := { asked e (left.map .bytes ++ more) with host, port }
    have agreed : negotiate e =
        (.ok (host, port), e', [⟨.debug, "Import endpoint negotiated at " ++ e'.url⟩]) := by
      rw [negotiate, if_pos isOpen, send_request sends]
      simp only [received, readReply_answer tells]
      rfl
    rw [agreed]
    exact ⟨left, some, rest, rfl, rfl⟩
  case cutOff =>
    intro sends short why cuts
    obtain ⟨left, received⟩ := receiveExactly_short [] (s := requested e.socket) given comes short cuts
    refine ⟨left, ?_⟩
    rw [negotiate, if_pos isOpen, send_request sends]
    simp only [received]
    rfl
  case unsent =>
    intro text fails
    rw [negotiate, if_pos isOpen, Socket.send, fails]

/-- An answer in three pieces, the last of which goes on with what comes after it. -/
def hurried : List Bytes :=
  [[7, 7, 7], [7, 0x67, 0x12, 0, 0, 49, 48], [46, 48, 46, 48, 46, 55, 0, 0, 0, 0, 0, 0, 0, 0, 71, 69]]

/-- A connection whose stream fails behind some pieces. -/
def hurriedBy (pieces : List Bytes) : Endpoint where
  socket := { host := "h", incoming := pieces.map .bytes ++ [.failure "reset"] }

/-- The three pieces tell an address and leave two bytes; two of them are too few. -/
theorem hurried_in_pieces : (∀ piece ∈ hurried, piece ≠ []) ∧
    (negotiate (hurriedBy hurried)).1 = .ok ("10.0.0.7", 4711) ∧
    (negotiate (hurriedBy (hurried.take 2))).1 =
      .error (failure "could not negotiate import endpoint: reset") := by
  have given : ∀ piece ∈ hurried, piece ≠ [] := by decide
  have whole : hurried.flatten = answer [7, 7, 7, 7] "10.0.0.7" 4711 ++ [71, 69] := by decide +kernel
  have tells : Tells [7, 7, 7, 7] "10.0.0.7" 4711 := by
    constructor <;> decide +kernel
  have all := negotiate_in_pieces (hurriedBy hurried) rfl hurried given [.failure "reset"] rfl
  have few := negotiate_in_pieces (hurriedBy (hurried.take 2)) rfl (hurried.take 2)
    (fun piece h => given piece (List.mem_of_mem_take h)) [.failure "reset"] rfl
  obtain ⟨_, -, -, agreed, -⟩ := all.agrees rfl _ _ _ _ tells whole
  obtain ⟨_, broken⟩ := few.cutOff rfl (by decide) _ (.failed "reset" [])
  exact ⟨given, by rw [agreed], by rw [broken]; rfl⟩

end Import.Endpoint

end ExaWire
