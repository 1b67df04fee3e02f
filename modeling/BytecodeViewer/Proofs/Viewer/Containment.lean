import BytecodeViewer.Proofs.Viewer.Visible

/-!
# Failures are contained

No operation fails, whatever parsers, renderers and models come to.  The window is told of one
failure if there is one, and a file that cannot be opened leaves the session as it was.
-/

namespace BytecodeViewer

def Signal.error? : Signal → Option String
  | error text => some text
  | _ => none

namespace Viewer

open BytecodeSource (InUse)

variable {v v₀ v₁ : Viewer} {h h₁ : Host} {s : Session} {op : Operation}
  {session : Option Session} {told : List Signal} {ops : List Operation} {path : Path}

theorem errors_complaint (failure : Option Failure) :
    (complaint failure).filterMap Signal.error? = (failure.map (·.describe)).toList := by
  cases failure <;> rfl

namespace Operation

/-- How a failure of an operation is told. -/
def wording (f : Failure) : Operation → String
  | openFile path => refusalText path f
  | _ => f.describe

theorem failure?_of_idle (idle : op.Idle v) (h : Host) : op.failure? v h = none := by
  cases op with
  | openFile path => exact idle.elim
  | setFilter text => simp [failure?, call?]
  | close => simp [failure?, call?]
  | selectLanguage name =>
      simp only [failure?, Option.bind_eq_bind, Option.bind_eq_none_iff]
      intro s hs call asks
      cases (idle s hs).symm.trans asks
  | selectNode node =>
      simp only [failure?, Option.bind_eq_bind, Option.bind_eq_none_iff]
      intro s hs call asks
      cases (idle s hs).symm.trans asks

theorem failure?_of_asks {call : Pipeline.Call} (held : v.session = some s)
    (asks : op.call? s = some call) (h : Host) :
    op.failure? v h = call.act.failure? (s.pipeline, h) ∧
      ∀ f, op.wording f = f.describe := by
  cases op with
  | openFile path => cases asks
  | selectLanguage name => exact ⟨by simp [failure?, held, asks], fun f => rfl⟩
  | selectNode node => exact ⟨by simp [failure?, held, asks], fun f => rfl⟩
  | setFilter text => cases asks
  | close => cases asks

end Operation

theorem Turn.errors (turn : Turn v h op session told) :
    told.filterMap Signal.error? = ((op.failure? v h).map op.wording).toList := by
  cases turn with
  | idle idle => simp [Operation.failure?_of_idle idle]
  | @shown _ s call _ held asks after =>
      obtain ⟨hfailure, hwording⟩ := Operation.failure?_of_asks held asks h
      simp [errors_complaint, hfailure, hwording, Signal.error?]
  | filtered held => simp [Operation.failure?, Operation.call?, held, Signal.error?]
  | hidden held => simp [Operation.failure?, Operation.call?, held, Signal.error?]
  | left held => simp [Operation.failure?, Operation.call?, held, Signal.error?]
  | refused fails => simp [Operation.failure?, fails, refusal, Operation.wording, Signal.error?]
  | opened opens =>
      unfold farewell
      split <;> simp [Operation.failure?, opens, welcome, Signal.error?]

/-- No session that is held has been closed. -/
def HoldsOpen (v : Viewer) : Prop :=
  ∀ s, v.session = some s → s.closed = false

theorem HoldsOpen.turn {parser : Option Parser} (isOpen : v.HoldsOpen)
    (turn : Turn v h op session told) : HoldsOpen ({ v with parser }.telling session told) := by
  intro s' hs'
  rw [session_telling] at hs'
  cases turn with
  | idle => exact isOpen s' hs'
  | refused => exact isOpen s' hs'
  | shown held =>
      cases hs'
      exact (isOpen _ held :)
  | filtered held =>
      cases hs'
      exact (isOpen _ held :)
  | hidden held =>
      rw [← Option.some.inj hs']
      exact (isOpen _ held :)
  | left => cases hs'
  | opened opens untouched =>
      cases hs'
      exact untouched.isOpen

/-- Where no session is opened, nothing that there was is gone. -/
theorem openSession_refused {f : Failure}
    (hopen : (openSession path).on (v, h) = (.error f, v₁, h₁)) :
    v₁.session = v.session ∧ v₁.signals = v.signals ∧ h.files.Extends h₁.files ∧
      ∃ more, h₁.models = h.models ++ more := by
  have same {fs fs' : Files} (hsame : fs' = fs) : fs.Extends fs' := by
    rw [hsame]
    exact fun _ _ hx => hx
  have attempt := openSession_cases path v h
  rw [hopen] at attempt
  cases attempt with
  | unready family rest =>
      exact ⟨rfl, rfl, same (Host.rest_files rest), [], by simp [Host.rest_models rest]⟩
  | @tried parser sections _ h₀ _ rest made on =>
      have opening := Session.open_on path parser (.usual h v.settings.language sections) h₀
      rw [on] at opening
      rw [← Host.rest_files rest, ← Host.rest_models rest]
      cases opening with
      | unlocated files models => exact ⟨rfl, rfl, same files, [], by simp [models]⟩
      | unparsed holds parses files models => exact ⟨rfl, rfl, same files, [], by simp [models]⟩
      | undone holds parses fault disposes files models =>
          exact ⟨rfl, rfl, same files, _, models⟩
      | stranded holds parses fault disposes inUse models =>
          exact ⟨rfl, rfl, inUse.extends, _, models⟩

/-- Nothing of the session that is held is touched, nor of its model and its files. -/
structure Unharmed (v v' : Viewer) (h h' : Host) : Prop where
  session : v'.session = v.session
  isOpen : v.HoldsOpen
  models : ∃ more, h'.models = h.models ++ more
  files : ∀ p place content, h.files.status p = .file place content →
    h'.files.status p = .file place content

theorem open_contained (isOpen : v.HoldsOpen) (path : Path) (h : Host) :
    ∃ v' h', («open» path).on (v, h) =
        (.ok ((Operation.openFile path).failure? v h).isNone, v', h') ∧
      ∀ f, (Operation.openFile path).failure? v h = some f →
        v'.signals = v.signals ++ [refusal path f] ∧ Unharmed v v' h h' := by
  rcases hopen : (openSession path).on (v, h) with ⟨f | s, v₁, h₁⟩
  · have hfailure : (Operation.openFile path).failure? v h = some f := Act.failure?_of_error hopen
    obtain ⟨hsession, hsignals, ext, more, hmodels⟩ := openSession_refused hopen
    obtain ⟨h', hon, hrest⟩ := open_refused hopen
    rw [hfailure]
    refine ⟨_, h', hon, ?_⟩
    rintro _ ⟨⟩
    refine ⟨?_, ?_, isOpen, ⟨more, ?_⟩, ?_⟩
    · rw [signals_telling, hsignals]
    · rw [session_telling, hsession]
    · exact (Host.rest_models hrest).trans hmodels
    · intro p place content reads
      rw [Host.rest_files hrest]
      exact ext.follow reads
  · have hfailure : (Operation.openFile path).failure? v h = none := Act.failure?_of_ok hopen
    obtain ⟨registry, h', hon, -⟩ := open_accepted hopen
    rw [hfailure]
    exact ⟨_, h', hon, nofun⟩

theorem display_contained (held : v.session = some s) (a : HostedAct Pipeline Document) (h : Host) :
    ∃ v' h' told, (display a).on (v, h) = (.ok (), v', h') ∧ v'.signals = v.signals ++ told ∧
      told.filterMap Signal.error? = ((a.failure? (s.pipeline, h)).map (·.describe)).toList := by
  refine ⟨_, _, _, display_on held a h, rfl, ?_⟩
  simp [errors_complaint, Signal.error?]

/-- Whatever has been done with a viewer, no operation fails, and the window is told of one
failure exactly if a file is not opened, or a language not switched to, or a selection not
rendered.  This holds for anything that stands for switching and rendering.  Where a file is
not opened, this is all that is told, and the session is left as it was. -/
theorem failures_contained (unheld : v₀.session = none)
    (run : Run (fun _ _ => True) v₀ ops v) (h : Host) :
    (∀ op : Operation, ∃ v' h' told, op.act.on (v, h) = (.ok (), v', h') ∧
        v'.signals = v.signals ++ told ∧
        told.filterMap Signal.error? = ((op.failure? v h).map op.wording).toList) ∧
      (∀ s, v.session = some s → ∀ a : HostedAct Pipeline Document, ∃ v' h' told,
        (display a).on (v, h) = (.ok (), v', h') ∧ v'.signals = v.signals ++ told ∧
        told.filterMap Signal.error? =
          ((a.failure? (s.pipeline, h)).map (·.describe)).toList) ∧
      ∀ path, ∃ v' h', («open» path).on (v, h) =
          (.ok ((Operation.openFile path).failure? v h).isNone, v', h') ∧
        ∀ f, (Operation.openFile path).failure? v h = some f →
          v'.signals = v.signals ++ [refusal path f] ∧ Unharmed v v' h h' := by
  have isOpen : v.HoldsOpen := by
    refine run.invariant HoldsOpen ?_ ?_
    · intro s hs
      cases unheld.symm.trans hs
    · exact fun _ _ _ _ _ _ _ isOpen turn => isOpen.turn turn
  refine ⟨fun op => ?_, fun s held a => display_contained held a h,
    fun path => open_contained isOpen path h⟩
  obtain ⟨parser, session, told, h', hon, turn⟩ := op.turn v h
  exact ⟨_, h', told, hon, rfl, turn.errors⟩

/-- A file is open, a class is selected, and a file that is missing is opened. -/
theorem failures_contained_missing_file :
    Trace.smallViewer.session = none ∧
      Run (fun _ _ => True) Trace.smallViewer
        [.openFile Session.smallSource, .selectNode smallNode] smallPicked.1 ∧
      (smallPicked.1.selection = some (.wholeClass "A") ∧
        ((Operation.openFile ⟨"", ["none.apk"]⟩).failure? smallPicked.1
          smallPicked.2).map (·.message) = some "File not found: none.apk") ∧
      (∀ op : Operation, ∃ v' h' told,
          op.act.on (smallPicked.1, smallPicked.2) = (.ok (), v', h') ∧
          v'.signals = smallPicked.1.signals ++ told ∧
          told.filterMap Signal.error? =
            ((op.failure? smallPicked.1 smallPicked.2).map op.wording).toList) ∧
        (∀ s, smallPicked.1.session = some s → ∀ a : HostedAct Pipeline Document,
          ∃ v' h' told, (display a).on (smallPicked.1, smallPicked.2) = (.ok (), v', h') ∧
          v'.signals = smallPicked.1.signals ++ told ∧
          told.filterMap Signal.error? =
            ((a.failure? (s.pipeline, smallPicked.2)).map (·.describe)).toList) ∧
        ∀ path, ∃ v' h', («open» path).on (smallPicked.1, smallPicked.2) =
            (.ok ((Operation.openFile path).failure? smallPicked.1 smallPicked.2).isNone, v', h') ∧
          ∀ f, (Operation.openFile path).failure? smallPicked.1 smallPicked.2 = some f →
            v'.signals = smallPicked.1.signals ++ [refusal path f] ∧
            Unharmed smallPicked.1 v' smallPicked.2 h' := by
  have run : Run (fun _ _ => True) Trace.smallViewer
      [.openFile Session.smallSource, .selectNode smallNode] smallPicked.1 :=
    smallPicked_run.mono fun _ _ _ => trivial
  exact ⟨rfl, run, by decide +kernel, failures_contained rfl run smallPicked.2⟩

end Viewer

end BytecodeViewer
