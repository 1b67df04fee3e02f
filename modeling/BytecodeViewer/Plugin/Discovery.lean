import BytecodeViewer.Host.Host

/-!
# Discovery of plug-ins

The entry points of a group are listed without loading them; of several with one
name the first counts.  Loading may fail, and so may the use of what was loaded.
Both are logged and go no further.
-/

namespace BytecodeViewer

namespace Discovery

def channel : String := "dv_common.discovery"

def firstOfEachName : List EntryPoint → List EntryPoint
  | [] => []
  | e :: es => e :: (firstOfEachName es).filter fun e' => e'.name != e.name

def pending (group : PluginGroup) : Act Host (List EntryPoint) := do
  match ← Act.look (·.plugins) with
  | .ok entryPoints => return firstOfEachName (entryPoints.filter (·.group == group))
  | .error f =>
    Host.record channel .debug
      ("Failed to read entry points for group " ++ group.name ++ ": " ++ f.message)
    return []

/-- Loads an entry point and hands what it gives to `use`.  Tells whether both went
well. -/
def load {τ : Type} (e : EntryPoint) (label : String) (use : Published → HostedAct τ Unit) :
    HostedAct τ Bool := do
  Act.onHost (.change fun h => { h with loaded := h.loaded ++ [e.place] })
  match e.load with
  | .error f =>
    Act.onHost <|
      if f.isMissingDependency then
        Host.record channel .debug
          ("Skipping " ++ label ++ " " ++ e.name ++ " due to missing dependency: " ++ f.message)
      else
        Host.record channel .warning
          ("Failed to load " ++ label ++ " " ++ e.name ++ ": " ++ f.message)
    return false
  | .ok published =>
    match ← (use published).attempt with
    | .ok () => return true
    | .error f =>
      Act.onHost <| Host.record channel .warning
        ("Failed to register " ++ label ++ " " ++ e.name ++ ": " ++ f.message)
      return false

end Discovery

end BytecodeViewer
