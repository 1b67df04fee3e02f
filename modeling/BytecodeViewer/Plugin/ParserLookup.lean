import BytecodeViewer.Plugin.Discovery

/-!
# Looking up a parser

Parsers are plug-ins.  Without a name they are tried in the order of their names
until one can be used.
-/

namespace BytecodeViewer

namespace ParserLookup

def channel : String := "dv_core.parsers"

def accept (name : String) (published : Published) : HostedAct (Option Parser) Unit :=
  match published with
  | .parser p => Act.setOwn fun _ => some p
  | .broken f => throw f
  | .language _ | .renderer _ | .other _ => throw (.notParser name)

def tryEach : List EntryPoint → HostedAct (Option Parser) Unit
  | [] => return
  | e :: es => do
    if ← Discovery.load e "parser entry point" (accept e.name) then
      Act.onHost (Host.record channel .debug ("Using bytecode parser " ++ e.name))
    else tryEach es

def byName (entryPoints : List EntryPoint) : List EntryPoint :=
  entryPoints.mergeSort fun a b => a.name ≤ b.name

def find (name : Option String) : Act Host Parser := do
  let found := byName (← Discovery.pending .parsers)
  let tried := match name with
    | some n => found.filter (·.name == n)
    | none => found
  let ((), parser) ← Act.carrying none (tryEach tried)
  match parser with
  | some p => return p
  | none => throw (.noParser name (found.map (·.name)))

end ParserLookup

end BytecodeViewer
