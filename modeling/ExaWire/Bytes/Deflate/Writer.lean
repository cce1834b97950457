/-
ExaWire/Bytes/Deflate/Writer.lean

Blocks written.  The tokens of a byte sequence are cut into blocks, and each block is
written in the shortest of three forms: bytes as they are, the fixed code, or a code
fitted to the block, which is given in front of it.
-/
import ExaWire.Bytes.Deflate.Code
import ExaWire.Bytes.Deflate.Copies
import ExaWire.Bytes.Deflate.Lengths
import ExaWire.Bytes.Digest

namespace ExaWire.Deflate

/-- The number of tokens that fill a block. -/
def blockTokens : Nat := 16383

/-- A symbol that is written, with the value and the number of the extra bits behind it. -/
structure Written where
  symbol : Nat
  value : Nat := 0
  extra : Nat := 0

/-- What a table writes for a value; `first` is the symbol of its first base. -/
def fromTable (table : List (Nat × Nat)) (first n : Nat) : Written :=
  let (i, base, extra) := tableEntry table n
  ⟨first + i, n - base, extra⟩

/-- What is written for a token: a byte or a length, and a distance behind a length. -/
def Token.written : Token → Written × Option Written
  | .literal b => (⟨b.toNat, 0, 0⟩, none)
  | .copy n distance =>
    (fromTable lengthTable firstLengthSymbol n, some (fromTable distanceTable 0 distance))

/-- How many bytes a token stands for. -/
def Token.size : Token → Nat
  | .literal _ => 1
  | .copy n _ => n

/-- How often each of so many symbols is written. -/
def weightsOf (count : Nat) (ws : List Written) : Array Nat :=
  ws.foldl (fun weights w => weights.modify w.symbol (· + 1)) (Array.replicate count 0)

/-- How many bits are written with code words of given lengths. -/
def bitCount (lengths : Array Nat) (ws : List Written) : Nat :=
  ws.foldl (fun n w => n + lengths.getD w.symbol 0 + w.extra) 0

/-- The bits of what is written with given code words. -/
def Written.bits (words : Array (List Bool)) (w : Written) : List Bool :=
  words.getD w.symbol [] ++ Bits.ofNat w.extra w.value

/-! ### Codes given in a block -/

/-- The lengths up to the last one that is not zero. -/
def upToLast (lengths : Array Nat) : List Nat :=
  (lengths.toList.reverse.dropWhile (· = 0)).reverse

/-- What is written for a run of a length: the length itself, repetitions of the length
before, or runs of zeros. -/
def runSymbols (length run : Nat) : Nat → Bool → List Written
  | 0, _ => []
  | fuel + 1, isKnown =>
    if run = 0 then []
    else if length = 0 then
      let n := min run 138
      if n < 3 then List.replicate n ⟨0, 0, 0⟩
      else if n ≤ 10 then ⟨17, n - 3, 3⟩ :: runSymbols 0 (run - n) fuel isKnown
      else ⟨18, n - 11, 7⟩ :: runSymbols 0 (run - n) fuel isKnown
    else if isKnown then
      let n := min run 6
      if n < 3 then List.replicate n ⟨length, 0, 0⟩
      else ⟨16, n - 3, 2⟩ :: runSymbols length (run - n) fuel true
    else
      let n := min run 7
      if n < 4 then List.replicate n ⟨length, 0, 0⟩
      else ⟨length, 0, 0⟩ :: ⟨16, n - 4, 2⟩ :: runSymbols length (run - n) fuel true

/-- Lengths in run-length form. -/
def runs (lengths : List Nat) : List Written :=
  (lengths.splitBy (· == ·)).flatMap fun run =>
    runSymbols (run.headD 0) run.length run.length false

/-- The two codes of a block: the lengths of their words. -/
structure BlockCode where
  symbols : Array Nat
  distances : Array Nat

/-- The fixed code. -/
def BlockCode.fixed : BlockCode := ⟨fixedLengths.toArray, fixedDistances.toArray⟩

/-- What a block is written from: bytes and lengths, distances, and both in order. -/
structure Content where
  symbols : List Written
  distances : List Written
  inOrder : List (Written × Option Written)

/-- The content of tokens, with the end of the block. -/
def Content.ofTokens (tokens : List Token) : Content :=
  let inOrder := tokens.map Token.written ++ [(⟨endSymbol, 0, 0⟩, none)]
  { symbols := inOrder.map (·.1), distances := inOrder.filterMap (·.2), inOrder }

/-- The code fitted to a content. -/
def BlockCode.fitted (c : Content) : BlockCode :=
  ⟨wordLengths 15 (weightsOf 286 c.symbols), wordLengths 15 (weightsOf 30 c.distances)⟩

/-- How many bits a content has in a code. -/
def BlockCode.bitCount (code : BlockCode) (c : Content) : Nat :=
  Deflate.bitCount code.symbols c.symbols + Deflate.bitCount code.distances c.distances

/-- The bits of a content in a code. -/
def BlockCode.bits (code : BlockCode) (c : Content) : List Bool :=
  let words := wordsOf code.symbols
  let distances := wordsOf code.distances
  c.inOrder.flatMap fun (w, distance) =>
    w.bits words ++ (match distance with
      | some d => d.bits distances
      | none => [])

/-- The bits that give a code: how many lengths there are of each kind, the code of the
lengths, and the lengths in that code. -/
def BlockCode.description (code : BlockCode) : List Bool :=
  let symbols := upToLast code.symbols
  let distances := upToLast code.distances
  let written := runs symbols ++ runs distances
  let lengths := wordLengths 7 (weightsOf 19 written)
  let inOrder := lengthOrder.map (lengths.getD · 0)
  let given := max 4 (upToLast inOrder.toArray).length
  Bits.ofNat 5 (symbols.length - 257) ++ Bits.ofNat 5 (distances.length - 1) ++
    Bits.ofNat 4 (given - 4) ++ (inOrder.take given).flatMap (Bits.ofNat 3) ++
    written.flatMap (Written.bits (wordsOf lengths))

/-! ### Blocks -/

/-- The bits of a block of bytes as they are, which begins behind `offset` bits. -/
def storedBits (offset : Nat) (bs : Bytes) : List Bool :=
  List.replicate ((8 - offset % 8) % 8) false ++
    Bits.ofBytes (Bytes.littleEndian 2 bs.length ++ Bytes.littleEndian 2 (65535 - bs.length) ++ bs)

/-- The bits of a block behind `offset` bits: the mark of the last one, the mark of its
form, and its content. -/
def blockBits (offset : Nat) (isLast : Bool) (tokens : List Token) (bs : Bytes) : List Bool :=
  let content := Content.ofTokens tokens
  let code := BlockCode.fitted content
  let description := code.description
  let fitted := (3 + description.length + code.bitCount content + 7) / 8
  let fixed := (3 + BlockCode.fixed.bitCount content + 7) / 8
  if bs.length + 4 ≤ min fixed fitted then
    isLast :: false :: false :: storedBits (offset + 3) bs
  else if fixed ≤ fitted then isLast :: true :: false :: BlockCode.fixed.bits content
  else isLast :: false :: true :: (description ++ code.bits content)

/-- The bits of tokens, block by block, behind `offset` bits; a block is the last one if
the tokens that are left do not fill it, or fill it with a byte at the end. -/
def blocksBits : Nat → Nat → List Token → Bytes → List Bool
  | 0, _, _, _ => []
  | fuel + 1, offset, tokens, bs =>
    let block := tokens.take blockTokens
    let rest := tokens.drop blockTokens
    let endsOpen := match block.getLast? with
      | some (.copy _ _) => block.length < blockTokens
      | _ => true
    if rest.isEmpty && endsOpen then blockBits offset true block bs
    else
      let size := block.foldl (fun n t => n + t.size) 0
      let bits := blockBits offset false block (bs.take size)
      bits ++ blocksBits fuel (offset + bits.length) rest (bs.drop size)

/-- A byte sequence as blocks. -/
def write (bs : Bytes) : Bytes :=
  let tokens := tokens bs.toArray
  Bits.toBytes (blocksBits (tokens.length + 1) 0 tokens bs)

end ExaWire.Deflate
