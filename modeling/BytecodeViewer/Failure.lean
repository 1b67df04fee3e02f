import BytecodeViewer.Archive.Fault
import BytecodeViewer.Color
import BytecodeViewer.Context
import BytecodeViewer.Pattern.Fault
import BytecodeViewer.Settings.Issue
import BytecodeViewer.SystemFault
import BytecodeViewer.Terminal.Markup
import BytecodeViewer.Yaml.Fault

/-!
# Failures

Everything that can go wrong, by its cause.  A failure has a kind, a message, and
in some families a context for display and a failure behind it.  Plug-ins may
raise failures of their own.
-/

namespace BytecodeViewer

/-- The families of failures that carry a context. -/
inductive Family where
  | general
  | noBytecodeEntry
  | bytecodeLoad
  | unknownRenderer
  | unresolvedReference
  | configuration
  deriving DecidableEq, Repr

namespace Family

def name : Family → String
  | general => "DVError"
  | noBytecodeEntry => "NoBytecodeEntry"
  | bytecodeLoad => "BytecodeLoadError"
  | unknownRenderer => "UnknownRenderer"
  | unresolvedReference => "UnresolvedReference"
  | configuration => "ConfigurationError"

def all : List Family :=
  [general, noBytecodeEntry, bytecodeLoad, unknownRenderer, unresolvedReference, configuration]

def isLookup : Family → Bool
  | unknownRenderer | unresolvedReference => true
  | _ => false

end Family

/-- The built-in classes of failures that are derived from classes that handlers name,
with all that they are derived from. -/
def builtinAncestors : List (String × List String) :=
  let system := ["BlockingIOError", "ChildProcessError", "ConnectionError", "FileExistsError",
    "FileNotFoundError", "InterruptedError", "IsADirectoryError", "NotADirectoryError",
    "PermissionError", "ProcessLookupError", "TimeoutError"]
  let connection := ["BrokenPipeError", "ConnectionAbortedError", "ConnectionRefusedError",
    "ConnectionResetError"]
  let unicode := ["UnicodeDecodeError", "UnicodeEncodeError", "UnicodeTranslateError"]
  system.map (·, ["OSError"]) ++
    connection.map (·, ["ConnectionError", "OSError"]) ++
    unicode.map (·, ["UnicodeError", "ValueError"]) ++
    [("UnsupportedOperation", ["OSError", "ValueError"]), ("UnicodeError", ["ValueError"]),
      ("ModuleNotFoundError", ["ImportError"])]

/-- A built-in class of failures and all that it is derived from. -/
def builtinLineage (kind : String) : List String :=
  kind :: (builtinAncestors.lookup kind).getD []

inductive Failure where
  /-- No renderer has a name; the names that are taken are given. -/
  | noRenderer (name : String) (available : List String)
  | noClass (name renderer : String)
  | noMethod (className method renderer : String)
  /-- Several methods have a name; their keys are given. -/
  | ambiguousMethod (className name : String) (keys : List String)
  | unboundRenderer (name : String)
  | modelDisposed
  | unsupportedTarget (text : String)
  | badRendererName
  | notRenderer (typeName : String)
  | unknownSection (name : String)
  | noFile (path : Path)
  | noEntry (archive : Path)
  | damagedArchive (archive : Path) (why : ArchiveFault)
  | badArchive (why : ArchiveFault)
  | unparsable (path : Path) (cause : Failure)
  | notParser (entryPoint : String)
  | noParser (name : Option String) (available : List String)
  | noSettings (path : Path)
  | badSettingsText (path : Path)
  | settingsNotMap (path : Path)
  | badSettings (path : Option Path) (issues : List Issue)
  | settingsBytes (why : Text.Utf8Fault)
  | settingsValue (why : Yaml.ValueFault)
  /-- A setting has a name that is no text. -/
  | settingsKeys
  | noHome
  | system (why : SystemFault)
  | badColor (why : ColorError)
  | badPattern (source : String) (why : Pattern.Fault)
  | badNumeral (why : Text.BadNumeral)
  | badMarkup (why : Terminal.MarkupFault)
  /-- Raised by a plug-in, in one of the families or in a kind of its own below it. -/
  | typed (family : Family) (message : String) (context : Context) (cause : Option Failure)
      (ownKind : Option String := none)
  /-- Raised by a plug-in or by the system.  The lineage holds the built-in classes that
  its class is or is derived from; without one the class is built in itself. -/
  | raised (kind message : String) (lineage : List String := builtinLineage kind)

namespace Failure

def bytecodeEntry : String := "classes.dex"

def parserGroup : String := "dex_viewer.parsers"

def family? : Failure → Option Family
  | noRenderer .. => some .unknownRenderer
  | noClass .. | noMethod .. | ambiguousMethod .. => some .unresolvedReference
  | noEntry _ => some .noBytecodeEntry
  | damagedArchive .. | unparsable .. => some .bytecodeLoad
  | noParser .. | noSettings _ | badSettingsText _ | settingsNotMap _ | badSettings .. =>
    some .configuration
  | typed family .. => some family
  | _ => none

def plainKind : Failure → String
  | unboundRenderer _ | modelDisposed | noHome => "RuntimeError"
  | unsupportedTarget _ | notRenderer _ | notParser _ => "TypeError"
  | badRendererName | unknownSection _ | badColor _ | badNumeral _ => "ValueError"
  | noFile _ => "FileNotFoundError"
  | badArchive why => why.kind
  | settingsBytes _ => "UnicodeDecodeError"
  | settingsValue why => why.kind
  | settingsKeys => "TypeError"
  | system why => why.kind
  | badPattern _ why => why.cause.kind
  | badMarkup _ => "MarkupError"
  | raised kind .. => kind
  | _ => "Exception"

def ownKind? : Failure → Option String
  | typed _ _ _ _ ownKind => ownKind
  | _ => none

def kind (f : Failure) : String :=
  match f.family? with
  | some family => f.ownKind?.getD family.name
  | none => f.plainKind

/-- The built-in classes that the class of a failure is or is derived from. -/
def lineage : Failure → List String
  | raised _ _ lineage => lineage
  | f => builtinLineage f.plainKind

/-- Whether a handler for a built-in class takes a failure. -/
def isA (f : Failure) (builtin : String) : Bool :=
  f.lineage.contains builtin

def message : Failure → String
  | noRenderer name _ => "Renderer '" ++ name ++ "' not found"
  | noClass name _ => "Class not found: " ++ name
  | noMethod className method _ => "Method not found: " ++ className ++ "." ++ method
  | ambiguousMethod _ name keys =>
    "Method name '" ++ name ++ "' is ambiguous: " ++ String.intercalate ", " keys
  | unboundRenderer name =>
    "Renderer '" ++ name ++ "' is not bound to a model. Call bind() first."
  | modelDisposed => "Model has been disposed"
  | unsupportedTarget text => "Unsupported selection target: " ++ Text.quoted text
  | badRendererName => "Renderer name must be a non-empty string"
  | notRenderer typeName => "Unknown renderer type: " ++ typeName
  | unknownSection name => "Unknown class section: " ++ name
  | noFile path => "File not found: " ++ path.text
  | noEntry archive => archive.name ++ " does not contain " ++ bytecodeEntry
  | damagedArchive archive why => archive.name ++ " is not a readable archive: " ++ why.message
  | badArchive why => why.message
  | unparsable path _ => "Failed to parse " ++ path.name
  | notParser entryPoint => "Entry point " ++ entryPoint ++ " is not a bytecode parser"
  | noParser name _ =>
    match name with
    | some n =>
      if n = "" then "No bytecode parser installed"
      else "Bytecode parser '" ++ n ++ "' not available"
    | none => "No bytecode parser installed"
  | noSettings path => "Settings file not found: " ++ path.text
  | badSettingsText path => "Invalid YAML in " ++ path.text
  | settingsNotMap path => "Settings file must contain a mapping: " ++ path.text
  | badSettings .. => "Invalid viewer settings"
  | settingsBytes why => why.message
  | settingsValue why => why.message
  | settingsKeys => "keywords must be strings"
  | noHome => "Could not determine home directory."
  | system why => why.message
  | badColor why => why.message
  | badPattern source why => why.message source
  | badNumeral why => why.message
  | badMarkup why => why.message
  | typed _ message .. => message
  | raised _ message _ => message

def context : Failure → Context
  | noRenderer name available => [("name", .text name), ("available", .texts available)]
  | noClass name renderer => [("class", .text name), ("renderer", .text renderer)]
  | noMethod className method renderer =>
    [("class", .text className), ("method", .text method), ("renderer", .text renderer)]
  | ambiguousMethod className _ keys =>
    [("class", .text className), ("candidates", .texts keys)]
  | noEntry archive | damagedArchive archive _ =>
    [("archive", .thing archive.text), ("entry", .text bytecodeEntry)]
  | unparsable path _ => [("path", .thing path.text)]
  | noParser _ available =>
    [("entry_point_group", .text parserGroup), ("available", .texts available)]
  | noSettings path | badSettingsText path | settingsNotMap path => [("path", .thing path.text)]
  | badSettings path _ =>
    [("path", match path with | some p => .thing p.text | none => .null)]
  | typed _ _ context .. => context
  | _ => []

def shownContext? (f : Failure) : Option Context :=
  f.family?.map fun _ => f.context.normalize

def causeKind? : Failure → Option String
  | damagedArchive _ why => some why.kind
  | unparsable _ cause => some cause.kind
  | badSettingsText _ => some "YAMLError"
  | badSettings .. => some "ValidationError"
  | typed _ _ _ cause _ => cause.map (·.kind)
  | _ => none

def issues? : Failure → Option (List Issue)
  | badSettings _ issues => some issues
  | _ => none

def describe (f : Failure) : String :=
  f.kind ++ ": " ++ f.message

def isSystem (f : Failure) : Bool :=
  f.isA "OSError"

def isTyped (f : Failure) : Bool :=
  f.family?.isSome

def isValueFailure (f : Failure) : Bool :=
  f.isA "ValueError"

def isMissingDependency (f : Failure) : Bool :=
  f.isA "ImportError"

end Failure

end BytecodeViewer
