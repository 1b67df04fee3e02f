import BytecodeViewer.Command.Words
import BytecodeViewer.Path
import BytecodeViewer.Render.Sections

/-!
# Commands

The commands that can be given on a command line, and how they are read.  Words that
make no command are a misuse; asking for help is no misuse.
-/

namespace BytecodeViewer

/-- What is to be rendered, and how. -/
structure RenderRequest where
  classRef : String
  method : Option String := none
  language : Option String := none
  /-- Sections that are switched on or off. -/
  switches : List (Sections × Option Bool) := []
  deriving DecidableEq, Repr

inductive Command where
  | languages
  | classes (file : Path) (filter : String)
  | render (file : Path) (request : RenderRequest)
  | gui (file : Option Path)
  deriving DecidableEq, Repr

/-- Why words are no command. -/
inductive Refusal where
  | help
  | misuse
  deriving DecidableEq, Repr

/-- The options that stand before a command. -/
structure SharedOptions where
  debug : Bool := false
  config : Option Path := none
  deriving DecidableEq, Repr

namespace Command

def helpForm : OptionForm := ⟨["--help"], false⟩

def sharedForms : List OptionForm :=
  [⟨["--debug"], false⟩, ⟨["--config"], true⟩, helpForm]

def filterForm : OptionForm := ⟨["--filter", "-f"], true⟩

/-- A section that can be switched has an option that switches it on and one that
switches it off. -/
def onName (s : Section) : String :=
  "--" ++ Text.lower s.label

def offName (s : Section) : String :=
  "--no-" ++ Text.lower s.label

def renderForms : List OptionForm :=
  [⟨["--class", "-c"], true⟩, ⟨["--method", "-m"], true⟩, ⟨["--language", "-l"], true⟩] ++
    Section.all.flatMap fun s => [⟨[onName s], false⟩, ⟨[offName s], false⟩]

/-- Reads the words behind a command.  Help is given before anything else is checked. -/
def readWords (forms : List OptionForm) (mixed : Bool) (words : List String) :
    Except Refusal ReadWords :=
  match OptionForm.read (helpForm :: forms) mixed words with
  | none => .error .misuse
  | some r => if r.has "--help" then .error .help else .ok r

/-- The options before a command, and the words from the command on. -/
def readShared (words : List String) : Except Refusal (SharedOptions × List String) := do
  if words.isEmpty then throw .misuse
  let r ← readWords sharedForms false words
  return ({ debug := r.has "--debug", config := (r.value? "--config").map Path.ofText },
    r.arguments)

def switchesOf (r : ReadWords) : List (Sections × Option Bool) :=
  Section.all.map fun s => (.ofSection s, r.switch? (onName s) (offName s))

def readLanguages (words : List String) : Except Refusal Command := do
  match (← readWords [] true words).arguments with
  | [] => return .languages
  | _ => throw .misuse

def readClasses (words : List String) : Except Refusal Command := do
  let r ← readWords [filterForm] true words
  match r.arguments with
  | [file] => return .classes (.ofText file) ((r.value? "--filter").getD "")
  | _ => throw .misuse

def readRender (words : List String) : Except Refusal Command := do
  let r ← readWords renderForms true words
  match r.arguments, r.value? "--class" with
  | [file], some classRef =>
    return .render (.ofText file)
      { classRef, method := r.value? "--method", language := r.value? "--language",
        switches := switchesOf r }
  | _, _ => throw .misuse

def readGui (words : List String) : Except Refusal Command := do
  match (← readWords [] true words).arguments with
  | [] => return .gui none
  | [file] => return .gui (some (.ofText file))
  | _ => throw .misuse

def reader? : String → Option (List String → Except Refusal Command)
  | "languages" => some readLanguages
  | "classes" => some readClasses
  | "render" => some readRender
  | "gui" => some readGui
  | _ => none

end Command

end BytecodeViewer
