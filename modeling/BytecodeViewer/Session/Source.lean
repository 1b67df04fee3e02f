import BytecodeViewer.Archive.Extract
import BytecodeViewer.Host.Host

/-!
# Where the bytecode is

An archive holds the bytecode in an entry, which is copied to a temporary file.
Any other file is the container itself.
-/

namespace BytecodeViewer

/-- The file to read, and the temporary copy to delete afterwards. -/
structure BytecodeSource where
  path : Path
  temp : Option Path := none
  deriving DecidableEq, Repr

namespace BytecodeSource

def channel : String := "dv_core.archive"

def isExtracted (s : BytecodeSource) : Bool :=
  s.temp.isSome

def tempDirectory : Location := ["tmp"]

/-- The name of the next temporary file, with a number of eight digits. -/
def tempName (n : Nat) : String :=
  let digits := (toString n).toList
  "tmp" ++ String.ofList (List.replicate (8 - digits.length) '0' ++ digits) ++ ".dex"

def tempPlace (n : Nat) : Location :=
  tempDirectory ++ [tempName n]

def tempTries : Nat := 10000

/-- The first of some successive numbers whose name is not in use. -/
def freeNumber? (fs : Files) : Nat → Nat → Option Nat
  | 0, _ => none
  | tries + 1, n =>
    if (fs.at? (tempPlace n)).isNone then some n else freeNumber? fs tries (n + 1)

/-- Makes a temporary file with nothing in it, under a name that is not in use. -/
def makeTemp : Act Host Path :=
  .ofFunction fun h =>
    match h.files.status ⟨"", tempDirectory⟩ with
    | .directory =>
      match freeNumber? h.files tempTries (h.tempCount + 1) with
      | some n =>
        (.ok ⟨"", tempPlace n⟩,
          { h with files := h.files.put (tempPlace n) (some (Bytes.ofList [])), tempCount := n })
      | none => (.error (.system .noFreeName), h)
    | .missing => (.error (.system (.missing ⟨"", tempPlace (h.tempCount + 1)⟩)), h)
    | _ => (.error (.system (.belowFile ⟨"", tempPlace (h.tempCount + 1)⟩)), h)

def fill (p : Path) (content : Bytes) : Act Host Unit :=
  .change fun h => { h with files := h.files.put (Files.placeOf p) (some content) }

def discard (p : Path) : Act Host Unit :=
  .change fun h =>
    match h.files.status p with
    | .file place _ => { h with files := h.files.erase place }
    | _ => h

/-- Why a file cannot be deleted; a file that is missing needs no deleting. -/
def deletionFault? (fs : Files) (p : Path) : Option SystemFault :=
  match fs.status p with
  | .file .. | .missing => none
  | .directory => some (.isDirectory p)
  | .belowFile => some (.belowFile p)

/-- Deletes a temporary file as well as possible.  Tells whether it is gone. -/
def removeTemp (path : Option Path) : Act Host Bool := do
  let some p := path | return true
  match ← Act.look fun h => deletionFault? h.files p with
  | some why =>
    Host.record channel .debug ("Could not delete temp file " ++ p.text ++ ": " ++ why.message)
    return false
  | none =>
    discard p
    return true

def archiveFailure (path : Path) (f : ArchiveFault) : Failure :=
  if f.isDamage then .damagedArchive path f else .badArchive f

def findEntry (path : Path) (content : Bytes) (r : Archive.EndRecord) :
    Except Failure Archive.Entry :=
  match Archive.entries content r with
  | .error f => .error (archiveFailure path f)
  | .ok entries =>
    match Archive.find? entries Failure.bytecodeEntry with
    | none => .error (.noEntry path)
    | some e => .ok e

/-- Copies the bytecode entry of an archive to a temporary file.  The file is deleted
again when the entry cannot be read. -/
def copyEntry (path : Path) (content : Bytes) (r : Archive.EndRecord) : Act Host Path := do
  let e ← Act.ofExcept (findEntry path content r)
  let temp ← makeTemp
  match Archive.extract content e with
  | .ok bytes =>
    fill temp bytes
    return temp
  | .error f =>
    discard temp
    throw (archiveFailure path f)

def locate (path : Path) : Act Host BytecodeSource := do
  match ← Act.look fun h => h.files.status path with
  | .file _ content =>
    match Archive.findEnd content with
    | .notFound => return ⟨path, none⟩
    | .severalDisks => throw (.badArchive .severalDisks)
    | .found r =>
      let temp ← copyEntry path content r
      Host.record channel .debug
        ("Extracted " ++ Failure.bytecodeEntry ++ " from " ++ path.text ++ " to " ++ temp.text)
      return ⟨temp, some temp⟩
  | _ => throw (.noFile path)

def parse (parser : Parser) (path : Path) : Act Host ModelId := do
  match ← Act.look fun h => h.files.status path with
  | .file _ content =>
    .change fun h => { h with parsed := h.parsed ++ [(parser.label, content)] }
    Host.keepModel (← Act.ofExcept (parser.parse content))
  | _ => throw (.noFile path)

end BytecodeSource

end BytecodeViewer
