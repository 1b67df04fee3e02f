import BytecodeViewer.Archive.Bytes
import BytecodeViewer.Path

/-!
# Files

Files and directories, most of them below the working directory.  Paths are followed
name by name, so a double dot needs a directory in front of it.
-/

namespace BytecodeViewer

/-- A place, by the names that lead to it.  It is below the working directory, or
below the root if the first name is a slash. -/
abbrev Location := List String

/-- Files with their contents, and directories without. -/
structure Files where
  entries : List (Location × Option Bytes) := []

/-- What a path leads to. -/
inductive FileStatus where
  | file (place : Location) (content : Bytes)
  | directory
  | missing
  /-- A name is looked for in a file. -/
  | belowFile

namespace Files

def rootPlace : Location := ["/"]

def startOf (p : Path) : Location :=
  if p.root = "" then [] else rootPlace

def placeOf (p : Path) : Location :=
  startOf p ++ p.parts

def at? (fs : Files) (place : Location) : Option (Option Bytes) :=
  if place = [] ∨ place = rootPlace then some none else fs.entries.lookup place

def follow (fs : Files) : Location → List String → FileStatus
  | place, [] =>
    match fs.at? place with
    | some (some content) => .file place content
    | some none => .directory
    | none => .missing
  | place, part :: parts =>
    match fs.at? place with
    | some none =>
      if part = ".." then
        if place = rootPlace then fs.follow place parts
        else
          match place, parts with
          | [], [] => .directory
          | [], _ => .missing
          | _, _ => fs.follow place.dropLast parts
      else fs.follow (place ++ [part]) parts
    | some (some _) => .belowFile
    | none => .missing

def status (fs : Files) (p : Path) : FileStatus :=
  fs.follow (startOf p) p.parts

def put (fs : Files) (place : Location) (content : Option Bytes) : Files :=
  ⟨fs.entries.filter (fun e => e.1 != place) ++ [(place, content)]⟩

def withParents (fs : Files) (place : Location) : Files :=
  ((List.range place.length).drop 1).foldl (fun acc n =>
    if (acc.at? (place.take n)).isNone then acc.put (place.take n) none else acc) fs

/-- Files and directories by their paths, together with the directories they are in. -/
def ofList (entries : List (Path × Option Bytes)) : Files :=
  entries.foldl (fun fs (p, content) =>
    (fs.withParents (placeOf p)).put (placeOf p) content) {}

def erase (fs : Files) (place : Location) : Files :=
  ⟨fs.entries.filter fun e => e.1 != place⟩

def filesIn (fs : Files) (place : Location) : List Location :=
  (fs.entries.filter fun e => e.2.isSome && e.1.dropLast == place && e.1 != []).map (·.1)

end Files

end BytecodeViewer
