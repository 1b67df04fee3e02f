import BytecodeViewer.Archive.Bytes

/-!
# Unpacking ranges

A range of numbers is narrowed bit by bit, each bit with the probability that it had in its
context so far.  The bits tell bytes and copies of earlier output.

Input that ends early is no fault here: what could be read is the output.
-/

namespace BytecodeViewer

inductive LzmaFault where
  | badOptions
  | corrupt
  deriving DecidableEq, Repr

def LzmaFault.message : LzmaFault → String
  | badOptions => "Invalid or unsupported options"
  | corrupt => "Corrupt input data"

namespace Unlzma

/-- How bytes are told by their context: by the high bits of the byte before, by the low bits
of the place, and the low bits of the place for all else.  Copies reach back no further than
the dictionary. -/
structure Options where
  previousBits : Nat
  literalBits : Nat
  placeBits : Nat
  dictionary : Nat

/-- The options as they are written before the data. -/
def Options.read? (b : Bytes) : Option Options :=
  if b.size ≠ 5 then none
  else
    let told := b.byteAt 0
    let previousBits := told % 9
    let literalBits := told / 9 % 5
    if 224 < told ∨ 4 < previousBits + literalBits then none
    else
      let size := max 4096 (b.number 1 4)
      some {
        previousBits
        literalBits
        placeBits := told / 45
        dictionary := (size + 15) / 16 * 16 }

/-- Why unpacking stops. -/
inductive Stop where
  | inputEnds
  | corrupt
  deriving DecidableEq, Repr

/-- The last distances of copies. -/
structure Distances where
  first : UInt32 := 0
  second : UInt32 := 0
  third : UInt32 := 0
  fourth : UInt32 := 0

structure State where
  place : Nat
  output : Bytes := ByteArray.empty
  range : UInt32 := 0xFFFFFFFF
  code : UInt32 := 0
  /-- The probabilities of zeros in all contexts. -/
  odds : Array UInt32
  /-- What the last symbols were: up to 6 if the last one was a byte. -/
  history : Nat := 0
  distances : Distances := {}

abbrev Reader := ExceptT Stop (StateM State)

def corrupt {α : Type} : Reader α := throw .corrupt

/-! ## Bits -/

def oddsBits : UInt32 := 11
def evenOdds : UInt32 := 1 <<< (oddsBits - 1)

def readByte (input : Bytes) : Reader UInt32 := do
  let place := (← get).place
  if input.size ≤ place then throw .inputEnds
  modify fun s => { s with place := place + 1 }
  return (input.byteAt place).toUInt32

/-- Keeps the range wide. -/
def widen (input : Bytes) : Reader Unit := do
  if (← get).range < 0x1000000 then
    let byte ← readByte input
    modify fun s => { s with range := s.range <<< 8, code := (s.code <<< 8) ||| byte }

def narrow (context : Nat) (s : State) : Nat × State :=
  let p := s.odds.getD context evenOdds
  let bound := (s.range >>> oddsBits) * p
  if s.code < bound then
    (0, { s with
      range := bound
      odds := s.odds.setIfInBounds context (p + (((1 <<< oddsBits) - p) >>> 5)) })
  else
    (1, { s with
      range := s.range - bound
      code := s.code - bound
      odds := s.odds.setIfInBounds context (p - (p >>> 5)) })

def readBit (input : Bytes) (context : Nat) : Reader Nat := do
  widen input
  modifyGet (narrow context)

def halve (s : State) : UInt32 × State :=
  let range := s.range >>> 1
  let code := s.code - range
  if code &&& 0x80000000 ≠ 0 then (0, { s with range, code := code + range })
  else (1, { s with range, code })

/-- A bit for which zero and one are as likely. -/
def readEvenBit (input : Bytes) : Reader UInt32 := do
  widen input
  modifyGet halve

def readEvenBits (input : Bytes) : (count : Nat) → UInt32 → Reader UInt32
  | 0, n => return n
  | count + 1, n => do readEvenBits input count (2 * n + (← readEvenBit input))

/-- A number of some bits, the first one counting most; `n` is one followed by the bits so
far.  Each bit has a context of its own by the bits before it. -/
def readTree (input : Bytes) (contexts : Nat) : (count : Nat) → Nat → Reader Nat
  | 0, n => return n
  | count + 1, n => do readTree input contexts count (2 * n + (← readBit input (contexts + n)))

/-- A number of some bits, the first one counting least.  `weight` is what the next bit
counts. -/
def readReverse (input : Bytes) (contexts : Nat) : (count n weight : Nat) → Reader Nat
  | 0, _, _ => return 0
  | count + 1, n, weight => do
    let bit ← readBit input (contexts + n)
    return bit * weight + (← readReverse input contexts count (2 * n + bit) (2 * weight))

/-! ## Contexts -/

/-- The contexts of one kind begin where those of the kind before end. -/
def copyContexts : Nat := 0
def repeatContexts : Nat := copyContexts + 192
def olderContexts : Nat := repeatContexts + 12
def longContexts : Nat := olderContexts + 36
def lengthContexts : Nat := longContexts + 192
def repeatLengthContexts : Nat := lengthContexts + 514
def slotContexts : Nat := repeatLengthContexts + 514
def distanceContexts : Nat := slotContexts + 256
def lowContexts : Nat := distanceContexts + 115
def literalContexts : Nat := lowContexts + 16

def literalSize : Nat := 0x300

def initial (o : Options) (place : Nat) : State where
  place
  odds := Array.replicate
    (literalContexts + literalSize <<< (o.previousBits + o.literalBits)) evenOdds

/-- The low bits of the place in the output. -/
def placeOf (o : Options) (s : State) : Nat :=
  s.output.size % (1 <<< o.placeBits)

/-! ## Bytes -/

def endsInLiteral (history : Nat) : Bool := history < 7

/-- The bits of a byte, as long as they agree with a byte that is expected here. -/
def readExpected (input : Bytes) (contexts : Nat) : (count n expected : Nat) → Reader Nat
  | 0, n, _ => return n
  | count + 1, n, expected => do
    let guess := expected >>> count % 2
    let bit ← readBit input (contexts + 0x100 * (1 + guess) + n)
    if bit = guess then readExpected input contexts count (2 * n + bit) expected
    else readTree input contexts count (2 * n + bit)

def literalOf (o : Options) (s : State) : Nat :=
  let previous := s.output.byteAt (s.output.size - 1)
  let high := if s.output.size = 0 then 0 else previous >>> (8 - o.previousBits)
  literalContexts +
    literalSize * ((s.output.size % (1 <<< o.literalBits)) <<< o.previousBits + high)

def afterLiteral (history : Nat) : Nat :=
  if history < 4 then 0 else if history < 10 then history - 3 else history - 6

def readLiteral (input : Bytes) (o : Options) : Reader Unit := do
  let s ← get
  let contexts := literalOf o s
  let expected := s.output.byteAt (s.output.size - (s.distances.first.toNat + 1))
  let byte ←
    if endsInLiteral s.history then readTree input contexts 8 1
    else readExpected input contexts 8 1 expected
  modify fun s =>
    { s with output := s.output.push byte.toUInt8, history := afterLiteral s.history }

/-! ## Copies -/

/-- The length of a copy: short, middle or long. -/
def readCopyLength (input : Bytes) (contexts place : Nat) : Reader Nat := do
  if (← readBit input contexts) = 0 then
    return (← readTree input (contexts + 2 + 8 * place) 3 1) - 8 + 2
  if (← readBit input (contexts + 1)) = 0 then
    return (← readTree input (contexts + 130 + 8 * place) 3 1) - 8 + 10
  return (← readTree input (contexts + 258) 8 1) - 256 + 18

/-- A distance, less one.  Its slot tells the two highest bits and how many there are. -/
def readDistance (input : Bytes) (length : Nat) : Reader UInt32 := do
  let slot := (← readTree input (slotContexts + 64 * min 3 (length - 2)) 6 1) - 64
  if slot < 4 then return slot.toUInt32
  let count := slot / 2 - 1
  let high := 2 + slot % 2
  if slot < 14 then
    let base := high <<< count
    let low ← readReverse input (distanceContexts + base - slot) count 1 1
    return (base + low).toUInt32
  let middle ← readEvenBits input (count - 4) high.toUInt32
  let low ← readReverse input lowContexts 4 1 1
  return (middle <<< 4) + low.toUInt32

/-- Whether copies can be made from a distance, given less one. -/
def reaches (o : Options) (s : State) (distance : UInt32) : Bool :=
  distance.toNat < min s.output.size o.dictionary

def emit (length : Nat) (history : Nat) : Reader Unit :=
  modify fun s => { s with
    output := Bytes.copyBack (s.distances.first.toNat + 1) length s.output
    history }

/-- The distance that marks the end. -/
def endDistance : UInt32 := 0xFFFFFFFF

/-- A copy from a new distance.  Tells whether it marks the end. -/
def readCopy (input : Bytes) (o : Options) : Reader Bool := do
  let s ← get
  let length ← readCopyLength input lengthContexts (placeOf o s)
  let distance ← readDistance input length
  if distance = endDistance then
    widen input
    if (← get).code ≠ 0 then corrupt
    return true
  let d := s.distances
  modify fun s => { s with distances := ⟨distance, d.first, d.second, d.third⟩ }
  unless reaches o (← get) distance do corrupt
  emit length (if endsInLiteral s.history then 7 else 10)
  return false

/-- Which of the last distances comes next, and becomes the first of them. -/
def readOlder (input : Bytes) (history : Nat) (d : Distances) : Reader Distances := do
  if (← readBit input (olderContexts + 12 + history)) = 0 then
    return ⟨d.second, d.first, d.third, d.fourth⟩
  if (← readBit input (olderContexts + 24 + history)) = 0 then
    return ⟨d.third, d.first, d.second, d.fourth⟩
  return ⟨d.fourth, d.first, d.second, d.third⟩

/-- A copy from one of the last distances. -/
def readRepeat (input : Bytes) (o : Options) : Reader Unit := do
  let s ← get
  unless reaches o s 0 do corrupt
  if (← readBit input (olderContexts + s.history)) = 0 then
    if (← readBit input (longContexts + 16 * s.history + placeOf o s)) = 0 then
      emit 1 (if endsInLiteral s.history then 9 else 11)
      return
  else
    let distances ← readOlder input s.history s.distances
    modify fun s => { s with distances }
  let length ← readCopyLength input repeatLengthContexts (placeOf o s)
  emit length (if endsInLiteral s.history then 8 else 11)

/-! ## The data as a whole -/

/-- A byte, a copy or the end.  Tells whether it is the end. -/
def readSymbol (input : Bytes) (o : Options) : Reader Bool := do
  let s ← get
  if (← readBit input (copyContexts + 16 * s.history + placeOf o s)) = 0 then
    readLiteral input o
    return false
  if (← readBit input (repeatContexts + s.history)) = 0 then
    readCopy input o
  else
    readRepeat input o
    return false

/-- Symbols up to the end.  `fuel` bounds their number. -/
def readSymbols (input : Bytes) (o : Options) : Nat → Reader Unit
  | 0 => throw .inputEnds
  | fuel + 1 => do
    if ← readSymbol input o then return
    readSymbols input o fuel

/-- A byte of input lasts for fewer bits than this. -/
def bitsOfByte : Nat := 400

/-- The first byte has to be zero. -/
def readAll (input : Bytes) (o : Options) : Reader Unit := do
  if (← readByte input) ≠ 0 then corrupt
  let first ← readByte input
  let second ← readByte input
  let third ← readByte input
  let fourth ← readByte input
  let code := (first <<< 24) ||| (second <<< 16) ||| (third <<< 8) ||| fourth
  modify fun s => { s with code }
  readSymbols input o (bitsOfByte * (input.size + 1))

end Unlzma

/-- Unpacks data that begins with its options until the data or the input ends. -/
def unlzma (input : Bytes) : Except LzmaFault Unpacked :=
  let start := 4 + input.number 2 2
  if input.size ≤ 4 ∨ input.size ≤ start then .ok ⟨ByteArray.empty, false⟩
  else
    match Unlzma.Options.read? (input.extract 4 start) with
    | none => .error .badOptions
    | some o =>
      match (Unlzma.readAll input o).run.run (Unlzma.initial o start) with
      | (.ok (), s) => .ok ⟨s.output, true⟩
      | (.error .inputEnds, s) => .ok ⟨s.output, false⟩
      | (.error .corrupt, _) => .error .corrupt

end BytecodeViewer
