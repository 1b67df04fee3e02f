import BytecodeViewer.Logging.Options

/-!
# Where records go

Records go to handlers, which write them as structured lines or as plain text, to
standard error or to a file.  Handlers are set up once; setting them up again
changes nothing unless it is forced.
-/

namespace BytecodeViewer

inductive LogTarget where
  | nothing
  | standardError
  | file (path : Path)
  deriving DecidableEq, Repr

/-- A line is known by its fields, or only as one of plain text. -/
inductive LogLine where
  | fields (fields : Context)
  | plain

structure LogHandler where
  target : LogTarget
  asJson : Bool := false
  lines : List LogLine := []

/-- The level from which on records are written, and the handlers that write them. -/
structure LogOutput where
  level : Int := 30
  handlers : List LogHandler := []

/-- What is asked of the set-up.  What is given wins over the environment; an empty
file name asks for no file. -/
structure LogRequest where
  level : Option String := none
  debug : Bool := false
  file : Option String := none
  asJson : Option Bool := none
  force : Bool := false

/-- A record with a level of any number, and the context that it is written with. -/
structure WrittenRecord where
  channel : String
  level : Int
  message : String
  context : Context := []

namespace WrittenRecord

/-- The name of the channel above all others, which has no name of its own. -/
def channelName (r : WrittenRecord) : String :=
  if r.channel = "" then "root" else r.channel

/-- The fields of a record itself; the moment stands for any time. -/
def ownFields (r : WrittenRecord) : Context :=
  [("event", .text r.message), ("logger", .text r.channelName),
    ("level", .text (Logging.levelWord r.level)), ("timestamp", .bool true)]

def isNull : ContextValue → Bool
  | .null => true
  | _ => false

/-- The values of the context that are bound, those that are null left out. -/
def bound (r : WrittenRecord) : Context :=
  r.context.filter fun (_, v) => !isNull v

/-- The fields of a structured line; a record's own fields win over the context. -/
def fields (r : WrittenRecord) : Context :=
  let own := r.ownFields
  r.bound.filter (fun (k, _) => (own.lookup k).isNone) ++ own

def breaks (s : String) : Nat :=
  s.toList.count '\n'

def plainLines (r : WrittenRecord) : Nat :=
  let inKeys := r.bound.foldr (fun (k, _) total => breaks k + total) 0
  1 + breaks r.message + breaks r.channelName + inKeys

end WrittenRecord

namespace LogHandler

def write (r : WrittenRecord) (x : LogHandler) : LogHandler :=
  match x.target, x.asJson with
  | .nothing, _ => x
  | _, true => { x with lines := x.lines ++ [.fields r.fields] }
  | _, false => { x with lines := x.lines ++ List.replicate r.plainLines .plain }

end LogHandler

namespace LogOptions

def openFile (path : Path) : Act Host (List LogLine) := do
  let path := path.resolved
  let files ← Act.look (·.files)
  match files.status path with
  | .file _ content => return List.replicate (content.toByteList.count 10) .plain
  | .directory => throw (.system (.isDirectory path))
  | .belowFile => throw (.system (.belowFile path))
  | .missing =>
    match files.status path.parent with
    | .directory =>
      .change fun h => { h with files := h.files.put (Files.placeOf path) (some (Bytes.ofList [])) }
      return []
    | _ => throw (.system (.missing path))

/-- Standard error is always written to. -/
def handlers (o : LogOptions) : Act Host (List LogHandler) := do
  let first : LogHandler := { target := .standardError, asJson := o.asJson }
  match o.file with
  | none => return [first]
  | some path =>
    let lines ← openFile path
    return [first, { target := .file path.resolved, asJson := o.asJson, lines }]

/-- The options of the environment, with those that are asked for. -/
def asked (o : LogOptions) (r : LogRequest) : LogOptions where
  level := r.level <|> o.level
  asJson := r.asJson.getD o.asJson
  file :=
    match r.file with
    | some s => if s = "" then none else some (Path.ofText s)
    | none => o.file

def levelNumber (o : LogOptions) (debug : Bool) : Except Failure Int :=
  match debug, o.level.filter (· != "") with
  | true, _ => .ok Logging.debugLevel
  | false, none => .ok Logging.usualLevel
  | false, some s =>
    match Logging.levelOfText s with
    | .ok n => .ok n
    | .error why => .error (.badNumeral why)

end LogOptions

namespace LogOutput

/-- Sets up handlers and level; the log keeps what the handlers would write. -/
def configure (r : LogRequest) : HostedAct LogOutput Unit := do
  let o := (← Act.onHost (Act.look LogOptions.ofEnvironment)).asked r
  if !(← Act.own).handlers.isEmpty && !r.force then
    return
  Act.setOwn fun out => { out with handlers := [] }
  let handlers ← Act.onHost o.handlers
  Act.setOwn fun out => { out with handlers }
  let level ← Act.ofExcept (o.levelNumber r.debug)
  Act.setOwn fun out => { out with level }
  Act.onHost (.change fun h => { h with log := { h.log with level } })

/-- Records without a positive level are never written. -/
def reaches (out : LogOutput) (level : Int) : Bool :=
  0 < level && out.level ≤ level

def emit (out : LogOutput) (r : WrittenRecord) : LogOutput :=
  if out.reaches r.level then { out with handlers := out.handlers.map (·.write r) } else out

end LogOutput

end BytecodeViewer
