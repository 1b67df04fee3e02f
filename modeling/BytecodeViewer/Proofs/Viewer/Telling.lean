import BytecodeViewer.Proofs.Host.Rest
import BytecodeViewer.Viewer.Viewer

/-!
# What the window is told

Each step of an operation makes the viewer hold another session, and appends to the signals.
-/

namespace BytecodeViewer

namespace Act

variable {σ α : Type}

/-- What an act fails with, if it fails. -/
def failure? (a : Act σ α) (s : σ) : Option Failure :=
  match (a.on s).1 with
  | .ok _ => none
  | .error f => some f

theorem failure?_of_ok {a : Act σ α} {s s' : σ} {x : α} (hon : a.on s = (.ok x, s')) :
    a.failure? s = none := by
  simp [failure?, hon]

theorem failure?_of_error {a : Act σ α} {s s' : σ} {f : Failure} (hon : a.on s = (.error f, s')) :
    a.failure? s = some f := by
  simp [failure?, hon]

end Act

namespace Viewer

variable {v v₁ v₂ : Viewer} {h h₁ h₂ : Host} {s : Session} {path : Path}

/-- The viewer when it holds another session and has told something more. -/
def telling (v : Viewer) (session : Option Session) (told : List Signal) : Viewer :=
  { v with session, signals := v.signals ++ told }

@[simp] theorem session_telling (v : Viewer) (session : Option Session) (told : List Signal) :
    (v.telling session told).session = session := rfl

@[simp] theorem signals_telling (v : Viewer) (session : Option Session) (told : List Signal) :
    (v.telling session told).signals = v.signals ++ told := rfl

theorem telling_nil (v : Viewer) : v.telling v.session [] = v := by
  simp [telling]

/-- A failure is told by its description. -/
def complaint (failure : Option Failure) : List Signal :=
  failure.toList.map fun f => .error f.describe

/-- How the failure to open a file is worded. -/
def refusalText (path : Path) (f : Failure) : String :=
  "Failed to open " ++ path.name ++ ": " ++ f.describe

def refusal (path : Path) (f : Failure) : Signal :=
  .error (refusalText path f)

/-- What is told when a session is left, if one is held. -/
def farewell (v : Viewer) : List Signal :=
  if v.session.isSome then [.title appTitle, .document .empty] else []

/-- What is told when a session is held whose registry has loaded all plug-ins. -/
def welcome (s : Session) (registry : Registry) : List Signal :=
  [.title s.title, .languages registry.names (s.pipeline.language.getD ""), .tree s.tree.visible,
    .document s.pipeline.document]

/-- Whatever is done with the pipeline, and however that ends, it is contained. -/
theorem display_on (hsession : v.session = some s) (a : HostedAct Pipeline Document) (h : Host) :
    (display a).on (v, h) = (.ok (),
      v.telling (some { s with pipeline := (a.on (s.pipeline, h)).2.1 })
        (complaint (a.failure? (s.pipeline, h)) ++ [.document (a.on (s.pipeline, h)).2.1.document]),
      (a.on (s.pipeline, h)).2.2) := by
  rcases ha : a.on (s.pipeline, h) with ⟨f | d, p', h'⟩
  · simp [display, onSession, hsession, Session.onPipeline, ha, signal, document, telling,
      complaint, Act.failure?, Except.map]
  · simp [display, onSession, hsession, Session.onPipeline, ha, signal, document, telling,
      complaint, Act.failure?, Except.map]

/-! ## Closing -/

theorem close_on_none (hsession : v.session = none) (h : Host) :
    close.on (v, h) = (.ok (), v, h) := by
  simp [close, hsession]

/-- Whatever closing the session comes to, the viewer holds it no more. -/
theorem close_on_held {outcome : Except Failure Unit} {s' : Session}
    (hsession : v.session = some s) (hclose : Session.close.on (s, h) = (outcome, s', h₁)) :
    ∃ h', close.on (v, h) =
        (.ok (), v.telling none [.title appTitle, .document .empty], h') ∧
      (h' = h₁ ∨ ∃ message, h' = h₁.logged channel .error message true) := by
  cases outcome with
  | ok u =>
      refine ⟨h₁, ?_, .inl rfl⟩
      simp [close, hsession, hclose, signal, telling, Except.map]
  | error f =>
      let message := "Error while closing session for " ++ s.source.text
      refine ⟨h₁.logged channel .error message true, ?_, .inr ⟨message, rfl⟩⟩
      simp [close, hsession, hclose, signal, telling, message, Except.map]

theorem close_tells (v : Viewer) (h : Host) :
    ∃ h', close.on (v, h) = (.ok (), v.telling none v.farewell, h') := by
  cases hsession : v.session with
  | none =>
      have hquiet : v.farewell = [] := by simp [farewell, hsession]
      refine ⟨h, ?_⟩
      rw [close_on_none hsession, hquiet, ← hsession, telling_nil]
  | some s =>
      have hfarewell : v.farewell = [.title appTitle, .document .empty] := by
        simp [farewell, hsession]
      obtain ⟨h', hon, -⟩ := close_on_held hsession rfl
      exact ⟨h', by rw [hon, hfarewell]⟩

/-! ## Opening -/

/-- A file that cannot be opened is told, and that is all. -/
theorem open_refused {f : Failure} (hopen : (openSession path).on (v, h) = (.error f, v₁, h₁)) :
    ∃ h', («open» path).on (v, h) = (.ok false, v₁.telling v₁.session [refusal path f], h') ∧
      h'.rest = h₁.rest := by
  refine ⟨h₁.logged channel .warning ("Failed to open " ++ path.text ++ ": " ++ f.message), ?_,
    Host.rest_logged ..⟩
  simp only [«open», Act.on_bind, Act.on_attempt, hopen, Act.on_onHost, Host.on_record, signal,
    Act.on_setOwn, Act.on_pure]
  rfl

/-- What is done with a session once it is held. -/
def announce (s : Session) : HostedAct Viewer Bool := do
  signal (.title s.title)
  let names ← languages
  signal (.languages names (← Act.own).language)
  signal (.tree s.tree.visible)
  signal (.document (← Act.own).document)
  return true

theorem languages_on {registry : Registry} (hsession : v.session = some s)
    (hnames : Registry.loadedNames.on (s.pipeline.registry, h) =
      (.ok registry.names, registry, h₁)) :
    languages.on (v, h) = (.ok registry.names,
      { v with session := some { s with pipeline.registry := registry } }, h₁) := by
  simp [languages, onSession, hsession, Session.onPipeline, Pipeline.onRegistry, hnames,
    Except.map]

theorem announce_on {registry : Registry} (hsession : v.session = some s)
    (hnames : Registry.loadedNames.on (s.pipeline.registry, h) =
      (.ok registry.names, registry, h₁)) :
    (announce s).on (v, h) = (.ok true,
      v.telling (some { s with pipeline.registry := registry }) (welcome s registry), h₁) := by
  have hlanguages := languages_on (v := { v with signals := v.signals ++ [.title s.title] })
    hsession hnames
  simp [announce, signal, hlanguages, language, document, telling, welcome, Except.map]

theorem open_on_announce (hopen : (openSession path).on (v, h) = (.ok s, v₁, h₁))
    (hclose : close.on (v₁, h₁) = (.ok (), v₂, h₂)) :
    («open» path).on (v, h) = (announce s).on ({ v₂ with session := some s }, h₂) := by
  simp only [«open», announce, Act.on_bind, Act.on_attempt, hopen, hclose, Act.on_setOwn]

end Viewer

end BytecodeViewer
