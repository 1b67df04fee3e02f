import BytecodeViewer.Archive.Bunzip
import BytecodeViewer.Archive.Checksum
import BytecodeViewer.Archive.Directory

/-!
# Extracting an entry

The bytes of an entry are found behind its own header, which has to agree with
the directory, and checked against the checksum.
-/

namespace BytecodeViewer

namespace Archive

def methodNames : List (Nat × String) :=
  [(0, "store"), (1, "shrink"), (2, "reduce"), (3, "reduce"), (4, "reduce"), (5, "reduce"),
    (6, "implode"), (7, "tokenize"), (8, "deflate"), (9, "deflate64"), (10, "implode"),
    (12, "bzip2"), (14, "lzma"), (18, "terse"), (19, "lz77"), (97, "wavpack"), (98, "ppmd")]

def fileTypeLetter (mode : Nat) : Char :=
  match mode / 0x1000 with
  | 0x1 => 'p'
  | 0x2 => 'c'
  | 0x4 => 'd'
  | 0x6 => 'b'
  | 0x8 => '-'
  | 0xA => 'l'
  | 0xC => 's'
  | _ => '?'

/-- Three letters of permissions, of which the last also tells a special bit. -/
def permissionLetters (bits : Nat) (special : Bool) (both alone : Char) : List Char :=
  let execute := bits.testBit 0
  [if bits.testBit 2 then 'r' else '-', if bits.testBit 1 then 'w' else '-',
    if special then (if execute then both else alone) else if execute then 'x' else '-']

def modeLetters (mode : Nat) : String :=
  String.ofList <| fileTypeLetter mode ::
    permissionLetters (mode / 64) (mode.testBit 11) 's' 'S' ++
    permissionLetters (mode / 8) (mode.testBit 10) 's' 'S' ++
    permissionLetters mode (mode.testBit 9) 't' 'T'

def hexNumber (n : Nat) : String :=
  "0x" ++ String.ofList (Nat.toDigits 16 n)

def Entry.describe (e : Entry) : String :=
  let high := e.attributes / 0x10000
  let low := e.attributes % 0x10000
  let isDirectory := e.name.toList.getLast? == some '/'
  String.join [
    "<ZipInfo filename=", Text.quoted e.name,
    if e.method = 0 then ""
      else " compress_type=" ++ (methodNames.lookup e.method).getD (toString e.method),
    if high = 0 then "" else " filemode=" ++ Text.quoted (modeLetters high),
    if low = 0 then "" else " external_attr=" ++ hexNumber low,
    if !isDirectory || e.size != 0 then " file_size=" ++ toString e.size else "",
    if (!isDirectory || e.compressedSize != 0) && (e.method != 0 || e.size != e.compressedSize) then
      " compress_size=" ++ toString e.compressedSize
    else "",
    ">"]

def headerMark : List Nat := [0x50, 0x4B, 3, 4]
def headerSize : Nat := 30

/-- Places in files are told by numbers of 64 bits with a sign. -/
def placeBound : Int := 0x8000000000000000

/-- Where the data of an entry begins, once its header has been found to agree with
the directory. -/
def dataPlace (b : Bytes) (e : Entry) : Except ArchiveFault Nat := do
  if e.headerPlace < -placeBound ∨ placeBound ≤ e.headerPlace then throw .placeTooLarge
  if e.headerPlace < 0 then throw .seek
  let place := e.headerPlace.toNat
  if b.size < place + headerSize then throw .headerTruncated
  unless b.hasAt place headerMark do throw .headerMagic
  let nameLength := b.number (place + 26) 2
  let extraLength := b.number (place + 28) 2
  let found := b.slice (place + headerSize) nameLength
  if e.isPatched then throw .patchedData
  if e.isStronglyEncrypted then throw .strongEncryption
  let foundName ← readName (b.number (place + 6) 2) found
  if foundName ≠ e.fullName then throw (.nameDiffers e.fullName found.toByteList)
  let start := min b.size (place + headerSize + nameLength + extraLength)
  if e.limit < start + e.compressedSize then throw (.overlap e.fullName)
  if e.isEncrypted then throw (.encrypted e.describe)
  return start

/-- The content of an entry is asked for in portions. -/
def portion : Nat := 0x10000

/-- The fewest bytes of the data that are read at a time. -/
def leastRead : Nat := 0x1000

/-- Unpacks the first bytes of the data, of whose content some bytes have been taken already. -/
abbrev Unpack := (taken : Nat) → (data : Bytes) → Except ArchiveFault Unpacked

/-- Reads on in the data, as much as goes with the content that is asked for, until the packed
data ends, all of it has been read or there is as much content as is listed.  `fuel` bounds
the reads. -/
def readOn (unpack : Unpack) (e : Entry) (data : Bytes) :
    Nat → (read taken : Nat) → Except ArchiveFault Bytes
  | 0, _, _ => .error .dataEnds
  | fuel + 1, read, taken => do
    let next := min data.size (read + max leastRead (portion - taken % portion))
    if next = read ∧ read < e.compressedSize then throw .dataEnds
    let found ← unpack taken (data.slice 0 next)
    if found.ended ∨ e.compressedSize ≤ next ∨ e.size ≤ found.output.size then
      return found.output.slice 0 e.size
    readOn unpack e data fuel next found.output.size

def unpackAll (unpack : Unpack) (e : Entry) (data : Bytes) : Except ArchiveFault Bytes :=
  readOn unpack e data (data.size + 2) 0 0

/-- Deflated data is unpacked no further than to the portion with the last byte listed. -/
def inflateAll (e : Entry) (data : Bytes) : Except ArchiveFault Bytes :=
  match inflate data (max 1 ((e.size + portion - 1) / portion) * portion) with
  | .error f => .error (.inflate f)
  | .ok found =>
    if data.size < e.compressedSize ∧
        (data.size = 0 ∨ (!found.ended ∧ found.output.size < e.size)) then
      .error .dataEnds
    else .ok (found.output.slice 0 e.size)

def content (e : Entry) (data : Bytes) : Except ArchiveFault Bytes :=
  match e.method with
  | 0 => unpackAll (fun _ data => .ok ⟨data, false⟩) e data
  | 8 => inflateAll e data
  | 12 => unpackAll (fun taken data =>
      match bunzip taken data with
      | some found => .ok found
      | none => .error .blocks) e data
  | 14 => unpackAll (fun _ data => (unlzma data).mapError .ranges) e data
  | _ => .error .method

def extract (b : Bytes) (e : Entry) : Except ArchiveFault Bytes := do
  let start ← dataPlace b e
  let out ← content e (b.slice start e.compressedSize)
  if (checksum out).toNat ≠ e.checksum then throw (.checksum e.name)
  return out

def find? (entries : List Entry) (name : String) : Option Entry :=
  entries.reverse.find? (·.name == name)

end Archive

end BytecodeViewer
