import BytecodeViewer.Archive.Fault
import BytecodeViewer.Text.CodePage

/-!
# The directory of an archive

An archive ends with a record that says where its directory is.  Data may stand
before the archive, so offsets are counted from where the directory really is.
A large archive has a second record with wider fields.
-/

namespace BytecodeViewer

namespace Archive

/-- The record at the end of an archive. -/
structure EndRecord where
  place : Nat
  directorySize : Nat
  directoryOffset : Nat
  isLarge : Bool := false
  deriving DecidableEq, Repr

def endSize : Nat := 22
def endMark : List Nat := [0x50, 0x4B, 5, 6]
def locatorSize : Nat := 20
def locatorMark : List Nat := [0x50, 0x4B, 6, 7]
def largeEndSize : Nat := 56
def largeEndMark : List Nat := [0x50, 0x4B, 6, 6]

def endRecordAt (b : Bytes) (place : Nat) : EndRecord where
  place
  directorySize := b.number (place + 12) 4
  directoryOffset := b.number (place + 16) 4

/-- Where the record at the end is: in the last bytes if it has no comment, else
where its mark stands last. -/
def endPlace? (b : Bytes) : Option Nat :=
  if b.size < endSize then none
  else
    let place := b.size - endSize
    if b.hasAt place endMark && b.number (place + 20) 2 == 0 then some place
    else
      let first := b.size - (0x10000 + endSize)
      (b.lastPosition? endMark first (b.size - first)).filter fun p => p + endSize ≤ b.size

/-- What a search for the record at the end comes to. -/
inductive EndSearch where
  | notFound
  | found (r : EndRecord)
  | severalDisks
  deriving DecidableEq

/-- The record at the end, with the wide fields of a large archive. -/
def findEnd (b : Bytes) : EndSearch :=
  match endPlace? b with
  | none => .notFound
  | some place =>
    let plain := endRecordAt b place
    let locator := place - locatorSize
    if place < locatorSize || !b.hasAt locator locatorMark then .found plain
    else if b.number (locator + 4) 4 != 0 || 1 < b.number (locator + 16) 4 then .severalDisks
    else if locator < largeEndSize then .notFound
    else
      let record := locator - largeEndSize
      if !b.hasAt record largeEndMark then .found plain
      else .found {
        place
        directorySize := b.number (record + 40) 8
        directoryOffset := b.number (record + 48) 8
        isLarge := true }

/-- An entry as the directory lists it. -/
structure Entry where
  /-- The name as it is written, and the part of it before a zero byte. -/
  fullName : String
  name : String
  flags : Nat
  method : Nat
  checksum : Nat
  compressedSize : Nat
  size : Nat
  attributes : Nat
  /-- Where its own header is. -/
  headerPlace : Int
  /-- Where the next header or the directory begins. -/
  limit : Int := 0
  deriving DecidableEq, Repr

namespace Entry

def isEncrypted (e : Entry) : Bool := e.flags.testBit 0
def isPatched (e : Entry) : Bool := e.flags.testBit 5
def isStronglyEncrypted (e : Entry) : Bool := e.flags.testBit 6

end Entry

def entryMark : List Nat := [0x50, 0x4B, 1, 2]
def entrySize : Nat := 46

/-- The highest version of the format that is supported, in tenths. -/
def highestVersion : Nat := 63

/-- Bit 11 of the flags says that names are UTF-8. -/
def readName (flags : Nat) (bytes : Bytes) : Except ArchiveFault String :=
  if flags.testBit 11 then
    match Text.readUtf8 bytes.toByteList with
    | .ok cs => .ok (String.ofList cs)
    | .error why => .error (.nameEncoding why)
  else .ok (String.ofList (Text.readCodePage bytes.toByteList))

def narrowLimit : Nat := 0xFFFFFFFF
def wideLimit : Nat := 0xFFFFFFFFFFFFFFFF

/-- A field of eight bytes, taken from the front of the wide fields. -/
def takeWide (name : String) (data : Bytes) : Except ArchiveFault (Nat × Bytes) :=
  if data.size < 8 then .error (.largeField name)
  else .ok (data.number 0 8, data.extract 8 data.size)

/-- Replaces the fields of an entry that are too narrow for their values. -/
def widen (e : Entry) (data : Bytes) : Except ArchiveFault Entry := do
  let (size, data) ←
    if e.size = wideLimit ∨ e.size = narrowLimit then takeWide "File size" data
    else pure (e.size, data)
  let (compressedSize, data) ←
    if e.compressedSize = narrowLimit then takeWide "Compress size" data
    else pure (e.compressedSize, data)
  let (headerPlace, _) ←
    if e.headerPlace = narrowLimit then do
      let (n, rest) ← takeWide "Header offset" data
      pure ((n : Int), rest)
    else pure (e.headerPlace, data)
  return { e with size, compressedSize, headerPlace }

/-- The extra fields of an entry, of which only the wide fields count.  `fuel` bounds
their number. -/
def readExtraFields : Nat → Entry → Bytes → Except ArchiveFault Entry
  | 0, e, _ => .ok e
  | fuel + 1, e, extra =>
    if extra.size < 4 then .ok e
    else do
      let tag := extra.number 0 2
      let size := extra.number 2 2
      if extra.size < size + 4 then throw (.extraField tag size)
      let e ← if tag = 1 then widen e (extra.slice 4 size) else pure e
      readExtraFields fuel e (extra.extract (size + 4) extra.size)

def beforeZero (name : String) : String :=
  String.ofList (name.toList.takeWhile (·.toNat != 0))

def readEntry (directory : Bytes) (place : Nat) : Except ArchiveFault (Entry × Nat) := do
  let field (offset count : Nat) : Nat := directory.number (place + offset) count
  if directory.size < place + entrySize then throw .directoryTruncated
  unless directory.hasAt place entryMark do throw .directoryMagic
  let nameLength := field 28 2
  let extraLength := field 30 2
  let namePlace := place + entrySize
  let fullName ← readName (field 8 2) (directory.slice namePlace nameLength)
  if highestVersion < field 6 1 then throw (.version (field 6 1))
  let e : Entry := {
    fullName
    name := beforeZero fullName
    flags := field 8 2
    method := field 10 2
    checksum := field 16 4
    compressedSize := field 20 4
    size := field 24 4
    attributes := field 38 4
    headerPlace := field 42 4 }
  let extra := directory.slice (namePlace + nameLength) extraLength
  let e ← readExtraFields (extraLength + 1) e extra
  return (e, namePlace + nameLength + extraLength + field 32 2)

/-- The entries of a directory of a given size, of which `directory` may hold less.
`fuel` bounds their number. -/
def readEntries (directory : Bytes) (size : Nat) :
    Nat → Nat → Except ArchiveFault (List Entry)
  | 0, _ => .ok []
  | fuel + 1, place =>
    if size ≤ place then .ok []
    else do
      let (e, next) ← readEntry directory place
      return e :: (← readEntries directory size fuel next)

/-- Sets the limit of each entry, given with the furthest header first. -/
def setLimits (limit : Int) : List Entry → List Entry
  | [] => []
  | e :: es => { e with limit } :: setLimits e.headerPlace es

/-- The entries of an archive with their limits, each in its place in the directory. -/
def withLimits (limit : Int) (entries : List Entry) : List Entry :=
  let sorted := entries.zipIdx.mergeSort fun a b => b.1.headerPlace ≤ a.1.headerPlace
  let limited := setLimits limit (sorted.map (·.1))
  let back := (limited.zip (sorted.map (·.2))).mergeSort fun a b => a.2 ≤ b.2
  back.map (·.1)

/-- The entries that the directory of an archive lists, in its order. -/
def entries (b : Bytes) (r : EndRecord) : Except ArchiveFault (List Entry) := do
  let tail := if r.isLarge then largeEndSize + locatorSize else 0
  if r.place < r.directorySize + tail then throw .directoryOffset
  let start := r.place - r.directorySize - tail
  let shift : Int := start - r.directoryOffset
  let listed ← readEntries (b.slice start r.directorySize) r.directorySize (r.directorySize + 1) 0
  return withLimits start (listed.map fun e => { e with headerPlace := e.headerPlace + shift })

end Archive

end BytecodeViewer
