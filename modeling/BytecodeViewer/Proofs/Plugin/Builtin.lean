import BytecodeViewer.Proofs.Plugin.Resolution

/-!
# New registries

A new registry has renderers of its own for the languages that need no plug-in, and the
plug-ins with other names wait in it.
-/

namespace BytecodeViewer

namespace Discovery

def listed (group : PluginGroup) (plugins : Except Failure (List EntryPoint)) : List EntryPoint :=
  match plugins with
  | .ok entryPoints => firstOfEachName (entryPoints.filter (·.group == group))
  | .error _ => []

theorem pending_on (group : PluginGroup) (h : Host) :
    ∃ h', (pending group).on h = (.ok (listed group h.plugins), h') ∧
      h'.rest = h.rest ∧ h'.renderers = h.renderers := by
  cases hplugins : h.plugins with
  | ok entryPoints => exact ⟨h, by simp [pending, hplugins, listed], rfl, rfl⟩
  | error f =>
      refine ⟨h.logged channel .debug ("Failed to read entry points for group " ++ group.name ++
        ": " ++ f.message), ?_, by simp, rfl⟩
      simp [pending, hplugins, listed, Except.map]

end Discovery

namespace Registry

/-- The renderers of the languages that need no plug-in, before they are used. -/
def freshRenderers : List Renderer :=
  Language.builtin.map fun l => { language := l }

/-- A new registry without plug-ins, where there are `n` renderers before. -/
def bare (n : Nat) : Registry where
  renderers := [("Java", n), ("Dex", n + 1)]

/-- The plug-ins whose names are free in a new registry. -/
def waiting (plugins : Except Failure (List EntryPoint)) : List EntryPoint :=
  (Discovery.listed .renderers plugins).filter fun e => e.name != "Java" && e.name != "Dex"

def fresh (plugins : Except Failure (List EntryPoint)) (n : Nat) : Registry where
  renderers := (bare n).renderers
  pending := waiting plugins

theorem renderer?_bare (n : Nat) (name : String) :
    (bare n).renderer? name =
      if name = "Java" then some n else if name = "Dex" then some (n + 1) else none := by
  simp only [bare, renderer?, List.lookup_cons, List.lookup_nil]
  by_cases hjava : name = "Java"
  · simp [hjava]
  · by_cases hdex : name = "Dex"
    · simp [hdex]
    · simp [hjava, hdex, beq_false_of_ne hjava, beq_false_of_ne hdex]

theorem isNone_renderer?_bare (n : Nat) (name : String) :
    ((bare n).renderer? name).isNone = (name != "Java" && name != "Dex") := by
  rw [renderer?_bare]
  by_cases hjava : name = "Java"
  · simp [hjava]
  · by_cases hdex : name = "Dex"
    · simp [hdex]
    · simp [hjava, hdex]

theorem newRenderers_builtin_on (h : Host) :
    (Host.newRenderers Language.builtin).on h = (.ok [h.renderers.length, h.renderers.length + 1],
      { h with renderers := h.renderers ++ freshRenderers }) := by
  simp [Host.newRenderers, Language.builtin, Host.newRenderer, Host.addRenderer, freshRenderers,
    Except.map]

theorem register_free_on {name : String} {r : Registry} (hblank : Text.isAllBlank name = false)
    (hfree : r.renderer? name = none) (id : RendererId) (h : Host) :
    (register (some name) (.renderer id)).on (r, h) = (.ok (), r.put name id, h) := by
  simp [register, Option.filter, hblank, hfree]

theorem registerOwn_builtin_on (n : Nat) (h : Host) :
    (registerOwn [("Java", .renderer n), ("Dex", .renderer (n + 1))]).on ({}, h) =
      (.ok (), bare n, h) := by
  have hjava : Text.isAllBlank "Java" = false := by decide
  have hdex : Text.isAllBlank "Dex" = false := by decide
  have hfirst : (Registry.renderer? {} "Java") = none := rfl
  have hsecond : (Registry.put {} "Java" n).renderer? "Dex" = none := rfl
  have hput : (Registry.put {} "Java" n).put "Dex" (n + 1) = bare n := rfl
  simp [registerOwn, register_free_on hjava hfirst, register_free_on hdex hsecond, hput]

theorem builtin_on (h : Host) :
    ∃ h', (builtin true).on h = (.ok (fresh h.plugins h.renderers.length), h') ∧
      h'.rest = h.rest ∧ h'.renderers = h.renderers ++ freshRenderers := by
  obtain ⟨h', hpending, hrest, hrenderers⟩ := Discovery.pending_on .renderers
    { h with renderers := h.renderers ++ freshRenderers }
  refine ⟨h', ?_, hrest, hrenderers⟩
  have hnames : (Language.builtin.map (·.name)).zip ([h.renderers.length,
      h.renderers.length + 1].map Candidate.renderer) =
      [("Java", .renderer h.renderers.length), ("Dex", .renderer (h.renderers.length + 1))] := rfl
  simp only [builtin, Act.on_bind, newRenderers_builtin_on, make, hnames, Act.on_carrying,
    registerOwn_builtin_on, if_true, discover, Act.on_onHost, hpending, Act.on_setOwn,
    isNone_renderer?_bare]
  rfl

end Registry

end BytecodeViewer
