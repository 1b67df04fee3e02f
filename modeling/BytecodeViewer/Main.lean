import BytecodeViewer.Command.Shell

/-!
# The command line

Looks up the environment and the files that a command line names, runs the command on
them, and prints what the command prints.
-/

namespace BytecodeViewer

namespace CommandLine

def variableNames : List String :=
  ["HOME", "DV_CONFIG", "DV_DEFAULT_LANGUAGE", "DV_FONT_SIZE", "DV_THEME", "DV_PARSER",
    "DV_LOG_LEVEL", "DV_LOG_JSON", "DV_LOG_FILE"]

/-- The paths that words may name: each word, and what stands behind its equals sign. -/
def pathsOfWords (words : List String) : List Path :=
  words.flatMap fun word =>
    [Path.ofText word, Path.ofText (String.ofList ((word.toList.dropWhile (· != '=')).drop 1))]

def pathsOfVariables (h : Host) : List Path :=
  (["DV_CONFIG", "DV_LOG_FILE"].filterMap h.environmentText?).filterMap fun s =>
    (Settings.expandHome h (Path.ofText s)).toOption

def withAncestors (p : Path) : List Path :=
  (List.range (p.parts.length + 1)).map fun n => { p with parts := p.parts.take n }

def readEnvironment : IO (List (String × String)) :=
  variableNames.filterMapM fun name => return (← IO.getEnv name).map (name, ·)

/-- The users in the table of the system, with their home directories. -/
def readUsers : IO (List (String × String)) := do
  let .ok table ← (IO.FS.readFile "/etc/passwd").toBaseIO | return []
  return (table.splitOn "\n").filterMap fun line =>
    match line.splitOn ":" with
    | name :: _ :: _ :: _ :: _ :: home :: _ => some (name, home)
    | _ => none

/-- The bytes of a file; a directory, which can be opened but not read, has none. -/
def readEntry (p : Path) : IO (Option (Path × Option Bytes)) := do
  if let .ok bytes ← (IO.FS.readBinFile p.text).toBaseIO then
    return some (p, some bytes)
  if let .ok _ ← (IO.FS.Handle.mk p.text .read).toBaseIO then
    return some (p, none)
  return none

def readHost (words : List String) : IO Host := do
  let h : Host := { environment := ← readEnvironment, users := ← readUsers }
  let paths := (pathsOfWords words ++ pathsOfVariables h).flatMap withAncestors
  let entries ← paths.filterMapM readEntry
  return { h with files := (Files.ofList entries).put BytecodeSource.tempDirectory none }

def readWidth : IO Nat := do
  return ((← IO.getEnv "COLUMNS").bind (·.toNat?)).getD 80

def printLog (l : Log) : IO Unit :=
  l.records.forM fun r => IO.eprintln (r.level.name ++ " " ++ r.channel ++ ": " ++ r.message)

def run (words : List String) : IO UInt32 := do
  let shell : Shell := { width := ← readWidth, desktop := .error "no desktop viewer" }
  let (outcome, (shell, host)) := (Shell.main words).on (shell, ← readHost words)
  printLog host.log
  IO.print shell.printed
  match outcome with
  | .ok code => return UInt32.ofNat code.toNat
  | .error f =>
    IO.eprintln f.describe
    return 1

end CommandLine

end BytecodeViewer

def main (words : List String) : IO UInt32 :=
  BytecodeViewer.CommandLine.run words
