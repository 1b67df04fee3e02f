import BytecodeViewer.Host.Host
import BytecodeViewer.Settings.Settings
import BytecodeViewer.Text.Portions
import BytecodeViewer.Yaml.Document

/-!
# Where settings come from

Settings are read from a file, which the caller or the environment names, and single
variables of the environment win over it.  In the file they may stand in a section of
their own.
-/

namespace BytecodeViewer

namespace Settings

def channel : String := "dv_common.config.settings"

/-! ## Documents -/

def ofScalar : Yaml.Scalar → SettingValue
  | .null => .null
  | .bool b => .bool b
  | .int n => .int n
  | .real x => .real x
  | .text s => .text s
  | .bytes bs => .bytes bs
  | .date => .other

/-- The value of a node for a setting; an item of a list is looked at no deeper. -/
def itemOf (g : Yaml.Graph) (id : Yaml.NodeId) : SettingValue :=
  match g.value id with
  | .ok (.scalar s) => ofScalar s
  | _ => .other

def valueOf (g : Yaml.Graph) (id : Yaml.NodeId) : SettingValue :=
  match g.value id with
  | .ok (.scalar s) => ofScalar s
  | .ok (.list items) => .list (items.map (itemOf g))
  | .ok (.set items) => .list (items.map (itemOf g))
  | .ok (.pairs count) => .list (List.replicate count .other)
  | .ok (.map entries) => .map entries.length
  | .error _ => .other

def nameOf? (g : Yaml.Graph) (k : Yaml.NodeId) : Option String :=
  match g.key k with
  | .ok (.scalar (.text s)) => some s
  | _ => none

def isNothing : Yaml.Value → Bool
  | .scalar .null | .scalar (.bool false) | .scalar (.int 0) => true
  | .scalar (.text s) => s == ""
  | .scalar (.bytes bs) => bs.isEmpty
  | .scalar (.real x) => x == 0.0
  | .scalar _ => false
  | .list items | .set items => items.isEmpty
  | .map entries => entries.isEmpty
  | .pairs count => count == 0

/-- The entries of a mapping by their names; entries whose key is no text have none. -/
abbrev NamedEntries := List (Option String × Yaml.NodeId)

def NamedEntries.last? (entries : NamedEntries) (name : String) : Option Yaml.NodeId :=
  entries.reverse.lookup (some name)

def namedEntries (g : Yaml.Graph) (entries : List (Yaml.NodeId × Yaml.NodeId)) : NamedEntries :=
  entries.map fun (k, v) => (nameOf? g k, v)

/-- The section of its own, if a document has one, else all of it. -/
def sectionOf (g : Yaml.Graph) (entries : NamedEntries) : NamedEntries :=
  match entries.last? "viewer" with
  | none => entries
  | some id =>
    match g.value id with
    | .ok (.map inner) => namedEntries g inner
    | _ => []

/-- The settings that are given in a document, and whether all of them have names. -/
def ofDocument (path : Path) (d : Yaml.Document) : Except Failure (GivenSettings × Bool) :=
  match d.root.map d.graph.value with
  | none => .ok ([], true)
  | some (.error _) => .error (.badSettingsText path)
  | some (.ok v) =>
    if isNothing v then .ok ([], true)
    else
      match v with
      | .map entries =>
        let found := sectionOf d.graph (namedEntries d.graph entries)
        let given := found.reverse.filterMap fun (name, id) =>
          name.map fun n => (n, valueOf d.graph id)
        .ok (given, found.all (·.1.isSome))
      | _ => .error (.settingsNotMap path)

/-! ## Files -/

def readText (bytes : Bytes) : Except Failure (List Char) :=
  match Text.readPortions bytes.toByteList with
  | .ok cs => .ok (Text.unifyBreaks cs)
  | .error why => .error (.settingsBytes why)

def readDocument (path : Path) (bytes : Bytes) : Except Failure Yaml.Document := do
  match Yaml.Document.read (← readText bytes) with
  | .ok d => return d
  | .error .malformed => throw (.badSettingsText path)
  | .error (.value why) => throw (.settingsValue why)

def readFile (path : Path) : Act Host (GivenSettings × Bool) := do
  match ← Act.look (·.files.status path) with
  | .file _ bytes => Act.ofExcept (do ofDocument path (← readDocument path bytes))
  | .directory => throw (.system (.isDirectory path))
  | _ => throw (.noSettings path)

/-! ## The environment -/

/-- The home directory of a user that is named, or of the one who runs this. -/
def homeOf? (h : Host) (user : String) : Option String :=
  if user = "" then h.environment.lookup "HOME" <|> h.users.head?.map (·.2)
  else h.users.lookup user

/-- The directory that a home is, without slashes behind it.  One that begins with a tilde
itself is of no use. -/
def homeDirectory? (home : String) : Option Path :=
  let name := String.ofList (home.toList.reverse.dropWhile (· == '/')).reverse
  if name.toList.head? = some '~' then none
  else some (Path.ofText (if name = "" then "/" else name))

/-- A path that begins with a tilde and a user, if one is named, is below the home directory. -/
def expandHome (h : Host) (p : Path) : Except Failure Path :=
  match p.root, p.parts with
  | "", first :: rest =>
    match first.toList with
    | '~' :: user =>
      match (homeOf? h (String.ofList user)).bind homeDirectory? with
      | some home => .ok { home with parts := home.parts ++ rest }
      | none => .error .noHome
    | _ => .ok p
  | _, _ => .ok p

def ofEnvironment (h : Host) : GivenSettings :=
  let size := (h.environmentText? "DV_FONT_SIZE").map Text.trim
  let fields := [
    ("default_language", h.environmentText? "DV_DEFAULT_LANGUAGE"),
    ("font_size", size.filter (· != "")),
    ("theme", h.environmentText? "DV_THEME"),
    ("parser", h.environmentText? "DV_PARSER")]
  fields.filterMap fun (field, value) => value.map fun s => (field, .text s)

def fileToRead (h : Host) (path : Option Path) : Except Failure (Option Path) :=
  match path, h.environmentText? "DV_CONFIG" with
  | some p, _ => .ok (some p)
  | none, some s => (expandHome h (Path.ofText s)).map some
  | none, none => .ok none

/-- The settings of a file, if there is one, and of the environment. -/
def load (path : Option Path) : Act Host Settings := do
  let path ← Act.ofExcept (← Act.look (fileToRead · path))
  let (given, areNamed) ← match path with
    | some p => do
      let found ← readFile p
      Host.record channel .debug ("Loaded viewer settings from " ++ p.text)
      pure found
    | none => pure ([], true)
  unless areNamed do
    throw .settingsKeys
  match ofGiven ((← Act.look ofEnvironment) ++ given) with
  | .ok s => return s
  | .error issues => throw (.badSettings path issues)

end Settings

end BytecodeViewer
