import BytecodeViewer.Archive.PrefixCode

/-!
# Inflating

Compressed entries are sequences of blocks: stored bytes, or symbols in prefix
codes that are fixed or given by the block.  A symbol is a byte, the end of the
block, or a copy of earlier output.

Input that ends early is no fault here: what could be read is the output.
-/

namespace BytecodeViewer

/-- Why compressed data cannot be inflated. -/
inductive InflateFault where
  | blockType
  | storedLengths
  | tooManySymbols
  | codeLengths
  | lengthRepeat
  | noEndOfBlock
  | literalCodes
  | distanceCodes
  | literalCode
  | distanceCode
  | distanceTooFar
  deriving DecidableEq, Repr

def InflateFault.message : InflateFault → String
  | blockType => "invalid block type"
  | storedLengths => "invalid stored block lengths"
  | tooManySymbols => "too many length or distance symbols"
  | codeLengths => "invalid code lengths set"
  | lengthRepeat => "invalid bit length repeat"
  | noEndOfBlock => "invalid code -- missing end-of-block"
  | literalCodes => "invalid literal/lengths set"
  | distanceCodes => "invalid distances set"
  | literalCode => "invalid literal/length code"
  | distanceCode => "invalid distance code"
  | distanceTooFar => "invalid distance too far back"

namespace Inflate

/-- Why inflating stops before the last block has ended. -/
inductive Stop where
  | inputEnds
  | outputFull
  | fault (f : InflateFault)
  deriving DecidableEq, Repr

/-- The place in the input, in bits, and the output so far. -/
structure State where
  place : Nat := 0
  output : Bytes := ByteArray.empty

abbrev Reader := ExceptT Stop (StateM State)

def fail {α : Type} (f : InflateFault) : Reader α := throw (.fault f)

/-- The next `count` bits as a number, the first bit counting least.  They are left
in the input if there are fewer. -/
def readBits (input : Bytes) (count : Nat) : Reader Nat := do
  let s ← get
  if 8 * input.size < s.place + count then throw .inputEnds
  set { s with place := s.place + count }
  let first := s.place / 8
  let bytes := input.number first ((s.place + count + 7) / 8 - first)
  return bytes >>> (s.place % 8) % (1 <<< count)

def longestCode : Nat := 15

def codeOf (lengths : List Nat) : PrefixCode :=
  .ofLengths longestCode lengths

/-- No code at all, or one of a single bit, is allowed in place of a complete code. -/
def isUsable (c : PrefixCode) : Bool :=
  c.isComplete || c.longest == 0 || (c.longest == 1 && 0 ≤ PrefixCode.left c.counts 1)

/-- The symbol of the next code, or none if there is no such code.  A code that the
input cuts off is left in it. -/
def decode (c : PrefixCode) (input : Bytes) : Reader (Option Nat) :=
  c.decodeFrom (readBits input 1) (c.counts.take (max 1 c.longest)) 0 0 0

/-- The codes of a block. -/
structure Codes where
  literals : PrefixCode
  distances : PrefixCode

def fixedCodes : Codes where
  literals := codeOf
    (List.replicate 144 8 ++ List.replicate 112 9 ++ List.replicate 24 7 ++ List.replicate 8 8)
  distances := codeOf (List.replicate 32 5)

/-- The order in which a block gives the lengths of the code for lengths. -/
def lengthOrder : List Nat :=
  [16, 17, 18, 0, 8, 7, 9, 6, 10, 5, 11, 4, 12, 3, 13, 2, 14, 1, 15]

/-- Lengths of copies with the extra bits that follow the symbol, from symbol 257 on. -/
def copyLengths : Array (Nat × Nat) := #[
  (3, 0), (4, 0), (5, 0), (6, 0), (7, 0), (8, 0), (9, 0), (10, 0), (11, 1), (13, 1), (15, 1),
  (17, 1), (19, 2), (23, 2), (27, 2), (31, 2), (35, 3), (43, 3), (51, 3), (59, 3), (67, 4),
  (83, 4), (99, 4), (115, 4), (131, 5), (163, 5), (195, 5), (227, 5), (258, 0)]

def copyDistances : Array (Nat × Nat) := #[
  (1, 0), (2, 0), (3, 0), (4, 0), (5, 1), (7, 1), (9, 2), (13, 2), (17, 3), (25, 3), (33, 4),
  (49, 4), (65, 5), (97, 5), (129, 6), (193, 6), (257, 7), (385, 7), (513, 8), (769, 8),
  (1025, 9), (1537, 9), (2049, 10), (3073, 10), (4097, 11), (6145, 11), (8193, 12), (12289, 12),
  (16385, 13), (24577, 13)]

def emit (limit : Nat) (append : Bytes → Bytes) : Reader Unit := do
  let s ← get
  if limit ≤ s.output.size then throw .outputFull
  set { s with output := append s.output }

def readExtra (input : Bytes) (table : Array (Nat × Nat)) (index : Nat) (f : InflateFault) :
    Reader Nat := do
  let some (base, extra) := table[index]? | fail f
  return base + (← readBits input extra)

/-- A copy of earlier output whose length symbol has been read. -/
def readCopy (input : Bytes) (codes : Codes) (limit symbol : Nat) : Reader Unit := do
  let length ← readExtra input copyLengths (symbol - 257) .literalCode
  let some distanceSymbol ← decode codes.distances input | fail .distanceCode
  let distance ← readExtra input copyDistances distanceSymbol .distanceCode
  if (← get).output.size < distance then fail .distanceTooFar
  emit limit (Bytes.copyBack distance length)

/-- The symbols of a block up to its end.  `fuel` bounds their number. -/
def readSymbols (input : Bytes) (codes : Codes) (limit : Nat) : Nat → Reader Unit
  | 0 => throw .inputEnds
  | fuel + 1 => do
    let some symbol ← decode codes.literals input | fail .literalCode
    if symbol = 256 then return
    if symbol < 256 then emit limit (·.push symbol.toUInt8)
    else readCopy input codes limit symbol
    readSymbols input codes limit fuel

def readStored (input : Bytes) (limit : Nat) : Reader Unit := do
  modify fun s => { s with place := (s.place + 7) / 8 * 8 }
  let length ← readBits input 16
  let check ← readBits input 16
  if length + check ≠ 0xFFFF then fail .storedLengths
  let s ← get
  let bytes := input.slice (s.place / 8) length
  emit limit (· ++ bytes)
  modify fun s => { s with place := s.place + 8 * bytes.size }
  if bytes.size < length then throw .inputEnds

/-- Code lengths up to a number of them.  `fuel` bounds the symbols read. -/
def readLengths (input : Bytes) (code : PrefixCode) (total : Nat) :
    Nat → List Nat → Reader (List Nat)
  | 0, lengths => return lengths
  | fuel + 1, lengths => do
    if total ≤ lengths.length then return lengths
    let symbol := (← decode code input).getD 0
    if symbol < 16 then
      return ← readLengths input code total fuel (lengths ++ [symbol])
    let (base, extra) := if symbol = 16 then (3, 2) else if symbol = 17 then (3, 3) else (11, 7)
    let count := base + (← readBits input extra)
    let value ←
      if symbol = 16 then
        match lengths.getLast? with
        | some n => pure n
        | none => fail .lengthRepeat
      else pure 0
    if total < lengths.length + count then fail .lengthRepeat
    readLengths input code total fuel (lengths ++ List.replicate count value)

def readCodes (input : Bytes) : Reader Codes := do
  let literalCount := (← readBits input 5) + 257
  let distanceCount := (← readBits input 5) + 1
  let lengthCount := (← readBits input 4) + 4
  if 286 < literalCount ∨ 30 < distanceCount then fail .tooManySymbols
  let given ← (lengthOrder.take lengthCount).mapM fun symbol => do
    return (symbol, ← readBits input 3)
  let lengthCode := codeOf ((List.range 19).map fun s => (given.lookup s).getD 0)
  unless lengthCode.isComplete || lengthCode.longest == 0 do fail .codeLengths
  let total := literalCount + distanceCount
  let lengths ← readLengths input lengthCode total total []
  if lengths.getD 256 0 = 0 then fail .noEndOfBlock
  let literals := codeOf (lengths.take literalCount)
  unless isUsable literals do fail .literalCodes
  let distances := codeOf (lengths.drop literalCount)
  unless isUsable distances do fail .distanceCodes
  return ⟨literals, distances⟩

/-- Blocks up to the last one.  `fuel` bounds their number. -/
def readBlocks (input : Bytes) (limit : Nat) : Nat → Reader Unit
  | 0 => throw .inputEnds
  | fuel + 1 => do
    let header ← readBits input 3
    match header / 2 with
    | 0 => readStored input limit
    | 1 => readSymbols input fixedCodes limit (8 * input.size + 1)
    | 2 => readSymbols input (← readCodes input) limit (8 * input.size + 1)
    | _ => fail .blockType
    if header % 2 = 1 then return
    readBlocks input limit fuel

end Inflate

/-- Inflates bytes until the last block ends, the input ends, or the output has
reached `limit`. -/
def inflate (input : Bytes) (limit : Nat) : Except InflateFault Unpacked :=
  match (Inflate.readBlocks input limit (8 * input.size + 1)).run.run {} with
  | (.ok (), s) => .ok ⟨s.output, true⟩
  | (.error (.fault f), _) => .error f
  | (.error _, s) => .ok ⟨s.output, false⟩

end BytecodeViewer
