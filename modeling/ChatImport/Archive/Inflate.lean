/-!
# Deflated octets

Deflated octets are a stream of bits in blocks. A block holds octets as they
are, or symbols in a code of words of different lengths: a symbol is an octet,
the end of the block, or the length of a stretch that is repeated from a
distance back. A code is told by the lengths of its words alone; the words
of one length follow each other, and those of the next length go on from
there. The lengths are fixed, or they stand in front of the block in a code of
their own.

`inflate` gives the octets that the stream stands for. The stream is taken in
chunks, and the octets found pass through a *window* of the last ones, from
which they are handed over when a chunk is used up or when the window is full.
Of a stream that ends too early all octets found are given, and of one that is
damaged those that have been handed over before the damage.
-/

namespace ChatImport

/-- A stream that is being inflated. -/
structure Inflation where
  /-- The deflated octets. -/
  source : ByteArray
  /-- The number of bits read so far. -/
  position : Nat
  /-- The octets found so far. -/
  output : ByteArray
  /-- The number of octets handed over so far. -/
  handed : Nat

namespace Inflation

/-- Why a stream cannot be inflated to its end. -/
inductive Fault where
  /-- What stands in the stream cannot stand there. -/
  | damaged
  /-- The stream ends before its last block. -/
  | ended
  deriving DecidableEq, Inhabited

/-- The number of bits in a chunk of the stream. -/
def chunkBits : Nat := 8 * 8192

/-- The number of octets in the window. -/
def windowSize : Nat := 32768

/-- The greatest number of octets that are handed over in one piece. -/
def pieceSize : Nat := 8192

/-- The number of bits that are left of the chunk. -/
def bitsLeft (s : Inflation) : Nat :=
  min ((s.position + (chunkBits - 1)) / chunkBits * chunkBits) (8 * s.source.size) - s.position

/-- Everything found is handed over. -/
def handOver (s : Inflation) : Inflation := { s with handed := s.output.size }

/-- What is handed over before one more bit is read. -/
def beforeBit (s : Inflation) : Inflation :=
  if 0 < s.position ∧ s.position % chunkBits = 0 then s.handOver else s

/-- What is handed over before one more octet is put out. A window that is full
is handed over if it fills a piece or if no whole octet is left of the chunk. -/
def beforeOctet (s : Inflation) : Inflation :=
  if s.output.size ≠ 0 ∧ s.output.size % windowSize = 0 ∧
      (pieceSize ≤ s.output.size - s.handed ∨ s.bitsLeft < 8) then s.handOver
  else s

/-- The octet at a distance back; before the first one stand zeros. -/
def back (s : Inflation) (distance : Nat) : UInt8 :=
  if distance ≤ s.output.size then s.output[s.output.size - distance]?.getD 0 else 0

end Inflation

/-- A step of inflating. -/
abbrev Inflating := EStateM Inflation.Fault Inflation

namespace Inflating

/-- The stream is damaged. -/
def damaged {α : Type} : Inflating α := throw .damaged

/-- The next bit. -/
def bit : Inflating Nat := fun s =>
  let s := s.beforeBit
  if h : s.position / 8 < s.source.size then
    .ok (s.source[s.position / 8].toNat / Nat.pow 2 (s.position % 8) % 2)
      { s with position := s.position + 1 }
  else .error .ended s

/-- A number of so many bits, its lowest bit first. -/
def bits : Nat → Inflating Nat
  | 0 => pure 0
  | count + 1 => do
    let low ← bit
    return low + 2 * (← bits count)

/-- Goes on to the next whole octet. -/
def align : Inflating Unit := modify fun s => { s with position := (s.position + 7) / 8 * 8 }

/-- Hands over what is due before one more octet. -/
def makeRoom : Inflating Unit := modify Inflation.beforeOctet

/-- Adds an octet for which room has been made. -/
def add (octet : UInt8) : Inflating Unit :=
  modify fun s => { s with output := s.output.push octet }

/-- Puts an octet out. -/
def put (octet : UInt8) : Inflating Unit := do
  makeRoom
  add octet

/-- Repeats so many octets from a distance back. -/
def repeatBack (distance : Nat) : Nat → Inflating Unit
  | 0 => pure ()
  | length + 1 => do
    put ((← get).back distance)
    repeatBack distance length

end Inflating

/-! ## Codes -/

/-- A code, told by the lengths of its words. -/
structure PrefixCode where
  /-- The number of words of each length, from one bit to the longest word. -/
  counts : List Nat
  /-- The symbols in the order of their words. -/
  symbols : Array Nat

namespace PrefixCode

/-- The greatest length of a word. -/
def longest : Nat := 15

/-- The code whose symbols have words of the given lengths; a length of zero
stands for a symbol without a word. -/
def ofLengths (lengths : List Nat) : PrefixCode :=
  let sizes := (List.range (max 1 (lengths.foldl max 0))).map (· + 1)
  { counts := sizes.map fun size => lengths.count size
    symbols := (sizes.flatMap fun size =>
      (lengths.zipIdx.filter fun entry => entry.1 == size).map (·.2)).toArray }

/-- Is every sequence of bits read in one way? -/
def complete (code : PrefixCode) : Bool :=
  code.counts.foldl (fun taken count => 2 * taken + count) 0 == Nat.pow 2 code.counts.length

/-- Does the code have at most one word, and that of one bit? -/
def tiny (code : PrefixCode) : Bool := code.counts.length ≤ 1 && code.symbols.size ≤ 1

/-- Reads the symbol of the next word. `word` are the bits so far, `first` is
the first word of their length, and `index` is the number of shorter words. -/
def symbolFrom (symbols : Array Nat) (word first index : Nat) : List Nat → Inflating Nat
  | [] => Inflating.damaged
  | count :: rest => do
    let word := 2 * word + (← Inflating.bit)
    if word < 2 * first + count then return symbols.getD (index + (word - 2 * first)) 0
    else symbolFrom symbols word (2 * first + count) (index + count) rest

/-- Reads a symbol. -/
def symbol (code : PrefixCode) : Inflating Nat := symbolFrom code.symbols 0 0 0 code.counts

/-- The code, if it is as it must be. -/
def checked (code : PrefixCode) (sound : Bool) : Inflating PrefixCode :=
  if sound then pure code else Inflating.damaged

/-- The fixed code of octets and lengths. -/
def fixedLengths : PrefixCode :=
  .ofLengths (List.replicate 144 8 ++ List.replicate 112 9 ++ List.replicate 24 7 ++
    List.replicate 8 8)

/-- The fixed code of distances. -/
def fixedDistances : PrefixCode := .ofLengths (List.replicate 32 5)

end PrefixCode

namespace Inflating

/-! ## Symbols -/

/-- The lengths that symbols from 257 on stand for, each with the number of
bits that are added to it. -/
def lengthBases : Array (Nat × Nat) :=
  #[(3, 0), (4, 0), (5, 0), (6, 0), (7, 0), (8, 0), (9, 0), (10, 0), (11, 1), (13, 1), (15, 1),
    (17, 1), (19, 2), (23, 2), (27, 2), (31, 2), (35, 3), (43, 3), (51, 3), (59, 3), (67, 4),
    (83, 4), (99, 4), (115, 4), (131, 5), (163, 5), (195, 5), (227, 5), (258, 0)]

/-- The distances that symbols stand for, each with the number of bits that
are added to it. -/
def distanceBases : Array (Nat × Nat) :=
  #[(1, 0), (2, 0), (3, 0), (4, 0), (5, 1), (7, 1), (9, 2), (13, 2), (17, 3), (25, 3), (33, 4),
    (49, 4), (65, 5), (97, 5), (129, 6), (193, 6), (257, 7), (385, 7), (513, 8), (769, 8),
    (1025, 9), (1537, 9), (2049, 10), (3073, 10), (4097, 11), (6145, 11), (8193, 12),
    (12289, 12), (16385, 13), (24577, 13)]

/-- The number that a symbol and the bits after it stand for. -/
def extended (bases : Array (Nat × Nat)) (symbol : Nat) : Inflating Nat :=
  match bases[symbol]? with
  | none => damaged
  | some (base, extra) => do return base + (← bits extra)

/-- Reads symbols up to the end of the block. Each takes at least one bit, so
the number of bits bounds the steps. -/
def symbols (lengths distances : PrefixCode) : Nat → Inflating Unit
  | 0 => damaged
  | steps + 1 => do
    let symbol ← lengths.symbol
    if symbol < 256 then
      put (UInt8.ofNat symbol)
      symbols lengths distances steps
    else if symbol = 256 then pure ()
    else
      let length ← extended lengthBases (symbol - 257)
      let distance ← extended distanceBases (← distances.symbol)
      repeatBack distance length
      symbols lengths distances steps

/-! ## Blocks -/

/-- Puts out octets that stand in the stream as they are. -/
def plainOctets : Nat → Inflating Unit
  | 0 => pure ()
  | count + 1 => do
    makeRoom
    add (UInt8.ofNat (← bits 8))
    plainOctets count

/-- A block of octets as they are: their number, its complement, and the
octets. -/
def plainBlock : Inflating Unit := do
  align
  let count ← bits 16
  let complement ← bits 16
  if count + complement ≠ 65535 then damaged
  plainOctets count

/-- The order in which the lengths for the code of lengths stand. -/
def lengthOrder : List Nat :=
  [16, 17, 18, 0, 8, 7, 9, 6, 10, 5, 11, 4, 12, 3, 13, 2, 14, 1, 15]

/-- Reads so many lengths of words, after those already read, which stand
last first. Each step reads at least one. -/
def wordLengths (code : PrefixCode) (count : Nat) : Nat → List Nat → Inflating (List Nat)
  | 0, _ => damaged
  | steps + 1, done =>
    if done.length = count then pure done.reverse
    else if count < done.length then damaged
    else do
      let symbol ← code.symbol
      match symbol with
      | 16 =>
        match done with
        | [] => damaged
        | last :: _ =>
          let times := 3 + (← bits 2)
          wordLengths code count steps (List.replicate times last ++ done)
      | 17 =>
        let times := 3 + (← bits 3)
        wordLengths code count steps (List.replicate times 0 ++ done)
      | 18 =>
        let times := 11 + (← bits 7)
        wordLengths code count steps (List.replicate times 0 ++ done)
      | length => wordLengths code count steps (length :: done)

/-- Reads the lengths for the code of lengths. -/
def orderedLengths : List Nat → Inflating (List (Nat × Nat))
  | [] => pure []
  | place :: rest => do
    let length ← bits 3
    return (place, length) :: (← orderedLengths rest)

/-- Reads a code for the symbols of a block. A tiny one need not be complete,
since a block may have a single symbol or none at all. -/
def symbolCode (lengths : List Nat) : Inflating PrefixCode :=
  let code := PrefixCode.ofLengths lengths
  code.checked (code.complete || code.tiny)

/-- A block with codes of its own. -/
def codedBlock (steps : Nat) : Inflating Unit := do
  let lengthCount := 257 + (← bits 5)
  let distanceCount := 1 + (← bits 5)
  let givenCount := 4 + (← bits 4)
  if 286 < lengthCount ∨ 30 < distanceCount then damaged
  let given ← orderedLengths (lengthOrder.take givenCount)
  let code := PrefixCode.ofLengths ((List.range 19).map fun place =>
    ((given.find? fun entry => entry.1 == place).map (·.2)).getD 0)
  let code ← code.checked code.complete
  let lengths ← wordLengths code (lengthCount + distanceCount)
    (lengthCount + distanceCount + 1) []
  let octets ← symbolCode (lengths.take lengthCount)
  let distances ← symbolCode (lengths.drop lengthCount)
  symbols octets distances steps

/-- Reads blocks up to the last one. Each takes at least three bits, so the
number of bits bounds the steps. -/
def blocks (limit : Nat) : Nat → Inflating Unit
  | 0 => damaged
  | steps + 1 => do
    let last ← bit
    match ← bits 2 with
    | 0 => plainBlock
    | 1 => symbols .fixedLengths .fixedDistances limit
    | 2 => codedBlock limit
    | _ => damaged
    if last = 1 then pure () else blocks limit steps

end Inflating

/-- The octets that deflated ones stand for, as far as they can be had, and
what is wrong with the stream. -/
def inflate (source : ByteArray) : ByteArray × Option Inflation.Fault :=
  let limit := 8 * source.size + 1
  match Inflating.blocks limit limit ⟨source, 0, ByteArray.empty, 0⟩ with
  | .ok _ s => (s.output, none)
  | .error .ended s => (s.output, some .ended)
  | .error .damaged s => (s.output.extract 0 s.handed, some .damaged)

end ChatImport
