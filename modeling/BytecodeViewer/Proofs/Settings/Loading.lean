import BytecodeViewer.Proofs.Host.Rest
import BytecodeViewer.Settings.Source

/-!
# Loading settings

Which settings are loaded depends on the files and the environment only, and loading them
changes nothing but the log.
-/

namespace BytecodeViewer.Settings

variable {h k : Host}

theorem fileToRead_eq (e : k.rest = h.rest) (path : Option Path) :
    fileToRead k path = fileToRead h path := by
  have henvironment : k.environment = h.environment := congrArg (·.environment) e
  have husers : k.users = h.users := congrArg (·.users) e
  simp only [fileToRead, expandHome, homeOf?, Host.environmentText?, henvironment, husers]

theorem ofEnvironment_eq (e : k.rest = h.rest) : ofEnvironment k = ofEnvironment h := by
  have henvironment : k.environment = h.environment := congrArg (·.environment) e
  simp only [ofEnvironment, Host.environmentText?, henvironment]

/-- What reading a settings file gives, by what is in its place. -/
def readFrom (path : Path) : FileStatus → Except Failure (GivenSettings × Bool)
  | .file _ bytes => do ofDocument path (← readDocument path bytes)
  | .directory => .error (.system (.isDirectory path))
  | _ => .error (.noSettings path)

theorem readFile_on (path : Path) (h : Host) :
    (readFile path).on h = (readFrom path (h.files.status path), h) := by
  cases hstatus : h.files.status path <;> simp [readFile, readFrom, hstatus]

/-- What loading settings gives once a file has been read, or none was to be read. -/
def settle (path : Option Path) (environment : GivenSettings) :
    Except Failure (GivenSettings × Bool) → Except Failure Settings
  | .error f => .error f
  | .ok (_, false) => .error .settingsKeys
  | .ok (given, true) =>
    match ofGiven (environment ++ given) with
    | .ok s => .ok s
    | .error issues => .error (.badSettings path issues)

theorem load_on_homeless {path : Option Path} {f : Failure}
    (hpath : fileToRead h path = .error f) : (load path).on h = (.error f, h) := by
  simp [load, hpath]

theorem load_on_none {path : Option Path} (hpath : fileToRead h path = .ok none) :
    (load path).on h = (settle none (ofEnvironment h) (.ok ([], true)), h) := by
  cases hgiven : ofGiven (ofEnvironment h) with
  | ok s => simp [load, hpath, settle, hgiven]
  | error issues => simp [load, hpath, settle, hgiven]

theorem load_on_some {path : Option Path} {p : Path} (hpath : fileToRead h path = .ok (some p)) :
    ∃ h', (load path).on h =
        (settle (some p) (ofEnvironment h) (readFrom p (h.files.status p)), h') ∧
      h'.rest = h.rest ∧ h'.renderers = h.renderers := by
  cases hread : readFrom p (h.files.status p) with
  | error f => exact ⟨h, by simp [load, hpath, readFile_on, hread, settle], rfl, rfl⟩
  | ok found =>
      obtain ⟨given, areNamed⟩ := found
      refine ⟨h.logged channel .debug ("Loaded viewer settings from " ++ p.text), ?_, by simp, rfl⟩
      have henvironment : ofEnvironment (h.logged channel .debug
          ("Loaded viewer settings from " ++ p.text)) = ofEnvironment h := rfl
      cases areNamed with
      | false => simp [load, hpath, readFile_on, hread, settle]
      | true =>
          cases hgiven : ofGiven (ofEnvironment h ++ given) with
          | ok s => simp [load, hpath, readFile_on, hread, settle, henvironment, hgiven]
          | error issues => simp [load, hpath, readFile_on, hread, settle, henvironment, hgiven]

/-- Whatever has been shown or logged in between, the same settings are loaded. -/
theorem load_on (path : Option Path) (h : Host) :
    ∃ outcome, ∀ k, k.rest = h.rest →
      ∃ k', (load path).on k = (outcome, k') ∧ k'.rest = h.rest := by
  rcases hpath : fileToRead h path with f | _ | p
  · refine ⟨.error f, ?_⟩
    intro k e
    exact ⟨k, load_on_homeless ((fileToRead_eq e path).trans hpath), e⟩
  · refine ⟨settle none (ofEnvironment h) (.ok ([], true)), ?_⟩
    intro k e
    refine ⟨k, ?_, e⟩
    rw [load_on_none ((fileToRead_eq e path).trans hpath), ofEnvironment_eq e]
  · refine ⟨settle (some p) (ofEnvironment h) (readFrom p (h.files.status p)), ?_⟩
    intro k e
    obtain ⟨k', hon, hrest, -⟩ := load_on_some ((fileToRead_eq e path).trans hpath)
    refine ⟨k', ?_, hrest.trans e⟩
    rw [hon, ofEnvironment_eq e, Host.rest_files e]

theorem load_renderers (path : Option Path) (h : Host) :
    ((load path).on h).2.renderers = h.renderers := by
  rcases hpath : fileToRead h path with f | _ | p
  · rw [load_on_homeless hpath]
  · rw [load_on_none hpath]
  · obtain ⟨h', hon, -, hrenderers⟩ := load_on_some hpath
    rw [hon]
    exact hrenderers

end BytecodeViewer.Settings
