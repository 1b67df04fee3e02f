import BytecodeViewer.Archive.PrefixCode

/-!
# Unpacking sorted blocks

The bytes of a block have been sorted by what follows each of them, moved to the front of a
list of recent ones and written in prefix codes.  Runs are written with their lengths, before
the sorting and again after it.  Each block has a checksum, and the data as a whole has one.

Input that ends early is no fault here: what could be read is the output.
-/

namespace BytecodeViewer

namespace Bunzip

/-- Why unpacking stops before the data has ended.  All faults are told alike. -/
inductive Stop where
  | inputEnds
  | corrupt
  deriving DecidableEq, Repr

/-- The place in the input, in bits, the output so far, and which codes are in use: a code
serves for a number of symbols, and then comes the one that the next selector tells. -/
structure State where
  place : Nat := 0
  output : Bytes := ByteArray.empty
  selectors : List Nat := []
  selected : Nat := 0
  symbolsLeft : Nat := 0

abbrev Reader := ExceptT Stop (StateM State)

def corrupt {α : Type} : Reader α := throw .corrupt

/-- The next `count` bits as a number, the first bit counting most. -/
def readBits (input : Bytes) (count : Nat) : Reader Nat := do
  let s ← get
  let stop := s.place + count
  if 8 * input.size < stop then throw .inputEnds
  set { s with place := stop }
  let first := s.place / 8
  let last := (stop + 7) / 8
  return input.bigNumber first (last - first) >>> (8 * last - stop) % (1 <<< count)

/-- Goes past bytes that have to stand here. -/
def expect (input : Bytes) : List Nat → Reader Unit
  | [] => return
  | byte :: bytes => do
    if (← readBits input 8) ≠ byte then corrupt
    expect input bytes

def headerMark : List Nat := [0x42, 0x5A, 0x68]
def blockMark : List Nat := [0x31, 0x41, 0x59, 0x26, 0x53, 0x59]
def endMark : List Nat := [0x17, 0x72, 0x45, 0x38, 0x50, 0x90]

/-! ## Checksums -/

def checkStep (r : UInt32) : UInt32 :=
  if r &&& 0x80000000 ≠ 0 then (r <<< 1) ^^^ 0x04C11DB7 else r <<< 1

def checkSteps : Nat → UInt32 → UInt32
  | 0, r => r
  | n + 1, r => checkSteps n (checkStep r)

/-- The checksum of a block, which takes the bits of each byte from the first one on. -/
def blockCheck (b : Bytes) : UInt32 :=
  b.foldl (fun r x => checkSteps 8 (r ^^^ (x.toUInt32 <<< 24))) 0xFFFFFFFF ^^^ 0xFFFFFFFF

def addCheck (all block : UInt32) : UInt32 :=
  ((all <<< 1) ||| (all >>> 31)) ^^^ block

/-! ## The codes of a block -/

/-- The places in a list of sixteen where a bit is set. -/
def setBits (bits : Nat) : List Nat :=
  (List.range 16).filter fun k => bits.testBit (15 - k)

/-- The values of the bytes that a block holds, told sixteen at a time. -/
def readUsed (input : Bytes) : Reader (List Nat) := do
  let groups := setBits (← readBits input 16)
  let used ← groups.mapM fun group => do
    return (setBits (← readBits input 16)).map (16 * group + ·)
  if used.flatten.isEmpty then corrupt
  return used.flatten

def moveToFront (order : List Nat) (place : Nat) : List Nat :=
  order.getD place 0 :: order.eraseIdx place

/-- How many ones stand before the next zero, fewer than `bound`. -/
def readOnes (input : Bytes) : (bound : Nat) → Reader Nat
  | 0 => corrupt
  | bound + 1 => do
    if (← readBits input 1) = 0 then return 0
    return (← readOnes input bound) + 1

/-- What places in a list denote, if each one is moved to its front. -/
def ofPlaces : List Nat → List Nat → List Nat
  | _, [] => []
  | order, place :: places =>
    let order := moveToFront order place
    order.getD 0 0 :: ofPlaces order places

/-- More selectors than a block can need are read but not used. -/
def mostSelectors : Nat := 18002

def readSelectors (input : Bytes) (codeCount : Nat) : Reader (List Nat) := do
  let count ← readBits input 15
  if count < 1 then corrupt
  let places ← (List.range count).mapM fun _ => readOnes input codeCount
  return ofPlaces (List.range codeCount) (places.take mostSelectors)

def longestCode : Nat := 20

/-- The length of a code, told by steps from the one before it.  `fuel` bounds the steps. -/
def readLength (input : Bytes) : Nat → Nat → Reader Nat
  | 0, _ => throw .inputEnds
  | fuel + 1, length => do
    if length < 1 ∨ longestCode < length then corrupt
    if (← readBits input 1) = 0 then return length
    if (← readBits input 1) = 0 then readLength input fuel (length + 1)
    else readLength input fuel (length - 1)

def readLengths (input : Bytes) : (count : Nat) → Nat → Reader (List Nat)
  | 0, _ => return []
  | count + 1, length => do
    let length ← readLength input (8 * input.size + 1) length
    return length :: (← readLengths input count length)

def readCodes (input : Bytes) (codeCount symbolCount : Nat) : Reader (Array PrefixCode) := do
  let codes ← (List.range codeCount).mapM fun _ => do
    return .ofLengths longestCode (← readLengths input symbolCount (← readBits input 5))
  return codes.toArray

/-! ## The symbols of a block -/

/-- How many symbols a code serves for. -/
def turnLength : Nat := 50

def nextTurn : Reader Unit := do
  let s ← get
  if s.symbolsLeft = 0 then
    match s.selectors with
    | [] => corrupt
    | selected :: selectors => set { s with selectors, selected, symbolsLeft := turnLength }

def readSymbol (input : Bytes) (codes : Array PrefixCode) : Reader Nat := do
  nextTurn
  let s ← get
  set { s with symbolsLeft := s.symbolsLeft - 1 }
  let code := codes.getD s.selected ⟨[], #[]⟩
  match ← code.decodeFrom (readBits input 1) code.counts 0 0 0 with
  | some symbol => return symbol
  | none =>
    -- That no code is so long is noticed one bit later.
    let _ ← readBits input 1
    corrupt

/-- The digits of a run length are written in symbols below this one. -/
def digitSymbols : Nat := 2

def mostWeight : Nat := 0x200000

/-- The length of a run whose next digit is `symbol` and counts `weight` times, and the symbol
behind it.  `fuel` bounds the digits. -/
def readRun (input : Bytes) (codes : Array PrefixCode) :
    Nat → (symbol weight length : Nat) → Reader (Nat × Nat)
  | 0, _, _, _ => throw .inputEnds
  | fuel + 1, symbol, weight, length => do
    if digitSymbols ≤ symbol then return (length, symbol)
    if mostWeight ≤ weight then corrupt
    let following ← readSymbol input codes
    readRun input codes fuel following (2 * weight) (length + (symbol + 1) * weight)

/-- What a block is read by: its codes, the symbol that ends it, and the most bytes in it. -/
structure Block where
  codes : Array PrefixCode
  endSymbol : Nat
  bound : Nat

/-- The bytes of a block from a symbol on, given the recent ones.  `fuel` bounds the symbols. -/
def readBytes (input : Bytes) (block : Block) :
    Nat → (symbol : Nat) → (recent : List Nat) → Bytes → Reader Bytes
  | 0, _, _, _ => throw .inputEnds
  | fuel + 1, symbol, recent, bytes => do
    if symbol = block.endSymbol then return bytes
    if symbol < digitSymbols then
      let (length, following) ← readRun input block.codes fuel symbol 1 0
      if block.bound < bytes.size + length then corrupt
      let byte := (recent.getD 0 0).toUInt8
      readBytes input block fuel following recent (Bytes.pushTimes byte length bytes)
    else
      if block.bound ≤ bytes.size then corrupt
      let recent := moveToFront recent (symbol - 1)
      let following ← readSymbol input block.codes
      readBytes input block fuel following recent (bytes.push (recent.getD 0 0).toUInt8)

/-! ## Undoing the sorting -/

/-- Where bytes of each value begin when they are sorted. -/
def startsOf (b : Bytes) : Array Nat :=
  let counts := b.foldl (fun counts x => counts.modify x.toNat (· + 1)) (Array.replicate 256 0)
  (counts.foldl (fun (starts, sum) count => (starts.push sum, sum + count)) (#[], 0)).1

/-- For each place in the sorted bytes, where the byte there comes from. -/
def origins (b : Bytes) : Array Nat :=
  let place (state : Array Nat × Array Nat) (k : Nat) : Array Nat × Array Nat :=
    let (starts, origins) := state
    let byte := b.byteAt k
    (starts.modify byte (· + 1), origins.setIfInBounds (starts.getD byte 0) k)
  ((List.range b.size).foldl place (startsOf b, Array.replicate b.size 0)).2

/-- Some bytes in the order before the sorting, from a place on. -/
def unsortFrom (b : Bytes) (origins : Array Nat) : (count : Nat) → Nat → Bytes → Bytes
  | 0, _, out => out
  | count + 1, place, out =>
    unsortFrom b origins count (origins.getD place 0) (out.push (b.byteAt place).toUInt8)

/-- The bytes in the order before the sorting, with the first one once more behind the last
one. -/
def unsort (b : Bytes) (start : Nat) : Bytes :=
  let origins := origins b
  unsortFrom b origins (b.size + 1) (origins.getD start 0) ByteArray.empty

/-- The distances between bytes whose last bit is changed in blocks that say so. -/
def changeDistances : List Nat :=
  [619, 720, 127, 481, 931, 816, 813, 233, 566, 247, 985, 724, 205, 454, 863, 491, 741, 242, 949,
  214, 733, 859, 335, 708, 621, 574, 73, 654, 730, 472, 419, 436, 278, 496, 867, 210, 399, 680,
  480, 51, 878, 465, 811, 169, 869, 675, 611, 697, 867, 561, 862, 687, 507, 283, 482, 129, 807,
  591, 733, 623, 150, 238, 59, 379, 684, 877, 625, 169, 643, 105, 170, 607, 520, 932, 727, 476,
  693, 425, 174, 647, 73, 122, 335, 530, 442, 853, 695, 249, 445, 515, 909, 545, 703, 919, 874,
  474, 882, 500, 594, 612, 641, 801, 220, 162, 819, 984, 589, 513, 495, 799, 161, 604, 958, 533,
  221, 400, 386, 867, 600, 782, 382, 596, 414, 171, 516, 375, 682, 485, 911, 276, 98, 553, 163,
  354, 666, 933, 424, 341, 533, 870, 227, 730, 475, 186, 263, 647, 537, 686, 600, 224, 469, 68,
  770, 919, 190, 373, 294, 822, 808, 206, 184, 943, 795, 384, 383, 461, 404, 758, 839, 887, 715,
  67, 618, 276, 204, 918, 873, 777, 604, 560, 951, 160, 578, 722, 79, 804, 96, 409, 713, 940, 652,
  934, 970, 447, 318, 353, 859, 672, 112, 785, 645, 863, 803, 350, 139, 93, 354, 99, 820, 908, 609,
  772, 154, 274, 580, 184, 79, 626, 630, 742, 653, 282, 762, 623, 680, 81, 927, 626, 789, 125, 411,
  521, 938, 300, 821, 78, 343, 175, 128, 250, 170, 774, 972, 275, 999, 639, 495, 78, 352, 126, 857,
  956, 358, 619, 580, 124, 737, 594, 701, 612, 669, 112, 134, 694, 363, 992, 809, 743, 168, 974,
  944, 375, 748, 52, 600, 747, 642, 182, 862, 81, 344, 805, 988, 739, 511, 655, 814, 334, 249, 515,
  897, 955, 664, 981, 649, 113, 974, 459, 893, 228, 433, 837, 553, 268, 926, 240, 102, 654, 459,
  51, 686, 754, 806, 760, 493, 403, 415, 394, 687, 700, 946, 670, 656, 610, 738, 392, 760, 799,
  887, 653, 978, 321, 576, 617, 626, 502, 894, 679, 243, 440, 680, 879, 194, 572, 640, 724, 926,
  56, 204, 700, 707, 151, 457, 449, 797, 195, 791, 558, 945, 679, 297, 59, 87, 824, 713, 663, 412,
  693, 342, 606, 134, 108, 571, 364, 631, 212, 174, 643, 304, 329, 343, 97, 430, 751, 497, 314,
  983, 374, 822, 928, 140, 206, 73, 263, 980, 736, 876, 478, 430, 305, 170, 514, 364, 692, 829, 82,
  855, 953, 676, 246, 369, 970, 294, 750, 807, 827, 150, 790, 288, 923, 804, 378, 215, 828, 592,
  281, 565, 555, 710, 82, 896, 831, 547, 261, 524, 462, 293, 465, 502, 56, 661, 821, 976, 991, 658,
  869, 905, 758, 745, 193, 768, 550, 608, 933, 378, 286, 215, 979, 792, 961, 61, 688, 793, 644,
  986, 403, 106, 366, 905, 644, 372, 567, 466, 434, 645, 210, 389, 550, 919, 135, 780, 773, 635,
  389, 707, 100, 626, 958, 165, 504, 920, 176, 193, 713, 857, 265, 203, 50, 668, 108, 645, 990,
  626, 197, 510, 357, 358, 850, 858, 364, 936, 638]

/-- Changes the last bit of bytes.  `left` counts down to the next change, and `distances` are
those to the changes after it. -/
def change (left : Nat) (distances : List Nat) (out : Bytes) : List UInt8 → Bytes
  | [] => out
  | x :: xs =>
    let (left, distances) := match left, distances with
      | 0, distance :: distances => (distance, distances)
      | 0, [] => (changeDistances.headD 0, changeDistances.tail)
      | _, _ => (left, distances)
    change (left - 1) distances (out.push (if left = 2 then x ^^^ 1 else x)) xs

/-! ## Runs -/

/-- How many equal bytes are followed by the number of further ones. -/
def runStart : Nat := 4

/-- The bytes of `b` from a place on, `count` many, with their runs.  `same` bytes in front of
them are equal to `last`.  Tells whether the last number still belongs to the block. -/
def expandFrom (b : Bytes) : (count place : Nat) → (last : UInt8) → (same : Nat) → Bytes →
    Bytes × Bool
  | 0, place, last, same, out =>
    if same = runStart then (Bytes.pushTimes last (b.byteAt place) out, false) else (out, true)
  | count + 1, place, last, same, out =>
    let x := (b.byteAt place).toUInt8
    if same = runStart then
      expandFrom b count (place + 1) x 0 (Bytes.pushTimes last x.toNat out)
    else
      let same := if same ≠ 0 ∧ x = last then same + 1 else 1
      expandFrom b count (place + 1) x same (out.push x)

/-- The bytes of a block with their runs; the last byte is the one behind the block. -/
def expand (b : Bytes) : Bytes × Bool :=
  expandFrom b (b.size - 1) 0 0 0 ByteArray.empty

/-! ## Room for output -/

/-- Output is taken in pieces of growing sizes. -/
def pieceSizes : List Nat :=
  [0x8000, 0x10000, 0x40000, 0x100000, 0x400000, 0x800000, 0x1000000, 0x1000000, 0x2000000,
    0x2000000, 0x2000000, 0x2000000, 0x4000000, 0x4000000, 0x8000000, 0x8000000]

/-- The room left in the last of the pieces that are begun, given the size of the ones before. -/
def roomAfter (produced : Nat) : (total : Nat) → List Nat → Nat
  | total, [] => total + 0x10000000 - produced
  | total, size :: sizes =>
    if produced ≤ total + size then total + size - produced
    else roomAfter produced (total + size) sizes

/-- Puts out the bytes of a block.  When the input has been used up at its very end, only the
piece at hand is filled: the rest waits for more input. -/
def putOut (input : Bytes) (before : Nat) (bytes : Bytes) : Reader Unit := do
  let s ← get
  let room := roomAfter (s.output.size - before) 0 pieceSizes
  if 8 * input.size < s.place + 8 ∧ room < bytes.size then
    set { s with output := s.output ++ bytes.slice 0 room }
    throw .inputEnds
  set { s with output := s.output ++ bytes }

/-! ## Blocks -/

/-- The bytes of a block, as they were sorted, and the place where its first byte comes from. -/
def readSorted (input : Bytes) (level : Nat) : Reader (Bytes × Bool × Nat) := do
  let isChanged ← readBits input 1
  let start ← readBits input 24
  let bound := 100000 * level
  if bound + 10 < start then corrupt
  let used ← readUsed input
  let codeCount ← readBits input 3
  if codeCount < 2 ∨ 6 < codeCount then corrupt
  let selectors ← readSelectors input codeCount
  let codes ← readCodes input codeCount (used.length + 2)
  modify fun s => { s with selectors, symbolsLeft := 0 }
  let block : Block := ⟨codes, used.length + 1, bound⟩
  let first ← readSymbol input codes
  let bytes ← readBytes input block (8 * input.size + 1) first used ByteArray.empty
  if bytes.size ≤ start then corrupt
  return (bytes, isChanged = 1, start)

/-- A block whose mark has been read.  Gives the checksum of all blocks so far. -/
def readBlock (input : Bytes) (level before : Nat) (check : UInt32) : Reader UInt32 := do
  let listed ← readBits input 32
  let (sorted, isChanged, start) ← readSorted input level
  let bytes := unsort sorted start
  let bytes :=
    if isChanged then change 0 changeDistances ByteArray.empty bytes.toByteList else bytes
  let (output, isWhole) := expand bytes
  putOut input before output
  if !isWhole ∨ (blockCheck output).toNat ≠ listed then corrupt
  return addCheck check (blockCheck output)

/-- Blocks up to the end.  `fuel` bounds their number. -/
def readBlocks (input : Bytes) (level before : Nat) : Nat → UInt32 → Reader Unit
  | 0, _ => throw .inputEnds
  | fuel + 1, check => do
    let first ← readBits input 8
    if first = endMark.headD 0 then
      expect input endMark.tail
      if (← readBits input 32) ≠ check.toNat then corrupt
    else
      if first ≠ blockMark.headD 0 then corrupt
      expect input blockMark.tail
      readBlocks input level before fuel (← readBlock input level before check)

def readAll (input : Bytes) (before : Nat) : Reader Unit := do
  expect input headerMark
  let level ← readBits input 8
  if level < 0x31 ∨ 0x39 < level then corrupt
  readBlocks input (level - 0x30) before (input.size + 1) 0

end Bunzip

/-- Unpacks blocks until the data or the input ends, or nothing if the data is corrupt.  Of the
output `before` bytes have been taken already. -/
def bunzip (before : Nat) (input : Bytes) : Option Unpacked :=
  match (Bunzip.readAll input before).run.run {} with
  | (.ok (), s) => some ⟨s.output, true⟩
  | (.error .inputEnds, s) => some ⟨s.output, false⟩
  | (.error .corrupt, _) => none

end BytecodeViewer
