import BytecodeViewer.Proofs.Plugin.Picking
import BytecodeViewer.Proofs.Session.OpeningFailure
import BytecodeViewer.Viewer.Viewer

/-!
# How the viewer opens a session

A session gets a registry of its own and the language that is picked from it.  All that can
fail before is the lookup of a parser and of the sections that are to be shown.
-/

namespace BytecodeViewer

namespace ParserLookup

theorem first_eq {es : List EntryPoint} {f g : Failure} {h h' : Host}
    (hon : (do
        let ((), parser) ← Act.carrying none (tryEach es)
        match parser with
        | some p => return p
        | none => throw f : Act Host Parser).on h = (.error g, h')) : g = f := by
  obtain ⟨p, h₁, htry, -⟩ := tryEach_on es none h
  simp only [Act.on_bind, Act.on_carrying, htry, Except.map] at hon
  cases p with
  | some p => cases hon
  | none =>
      cases hon
      rfl

theorem find_family {name : Option String} {h h' : Host} {f : Failure}
    (hon : (find name).on h = (.error f, h')) : f.family? = some .configuration := by
  obtain ⟨h₁, hpending, -, -⟩ := Discovery.pending_on .parsers h
  rw [find, Act.on_bind, hpending] at hon
  rw [first_eq hon]
  rfl

end ParserLookup

theorem Sections.ofNames_family {names : List String} {f : Failure}
    (hnames : ofNames names = .error f) : f.family? = Option.none := by
  induction names with
  | nil => cases hnames
  | cons name names ih =>
      unfold ofNames at hnames
      split at hnames
      · cases hrest : ofNames names with
        | ok sections =>
            rw [hrest] at hnames
            cases hnames
        | error g =>
            rw [hrest] at hnames
            cases hnames
            exact ih hrest
      · cases hnames
        rfl

/-- How a file is opened by the front ends: with a new registry and the language that is
picked from it. -/
def OpenOptions.usual (h : Host) (preferred : String) (sections : Sections) : OpenOptions where
  registry := some (Registry.fresh h.plugins h.renderers.length)
  language := some (Registry.usual h.plugins preferred)
  sections

theorem OpenOptions.usual_settled {h k : Host} {preferred : String}
    (sound : preferred = "" ∨ ¬Registry.WaitsInVain h.plugins preferred) (sections : Sections) :
    Session.Settled (usual h preferred sections) k := by
  intro name hname
  cases hname
  exact Registry.resolves_usual sound

namespace Viewer

variable {v : Viewer} {h : Host}

/-- All that can come of opening a session. -/
inductive SessionOpening (path : Path) (v : Viewer) (h : Host) :
    Except Failure Session × Viewer × Host → Prop
  | unready {f : Failure} {parser : Option Parser} {h' : Host}
      (family : f.family? ≠ some .unknownRenderer) (rest : h'.rest = h.rest) :
      SessionOpening path v h (.error f, { v with parser }, h')
  | tried {parser : Parser} {sections : Sections} {outcome : Except Failure Session}
      {h₀ h' : Host} (rest : h₀.rest = h.rest)
      (made : h₀.renderers = h.renderers ++ Registry.freshRenderers)
      (on : (Session.«open» path parser
        (.usual h v.settings.language sections)).on h₀ = (outcome, h')) :
      SessionOpening path v h (outcome, { v with parser := some parser }, h')

theorem findParser_cases (v : Viewer) (h : Host) :
    (∃ f h', findParser.on (v, h) = (.error f, v, h') ∧ h'.rest = h.rest ∧
      f.family? = some .configuration) ∨
    ∃ parser h', findParser.on (v, h) = (.ok parser, { v with parser := some parser }, h') ∧
      h'.rest = h.rest ∧ h'.renderers = h.renderers := by
  cases hparser : v.parser with
  | some p =>
      have hsame : v = { v with parser := some p } := by rw [← hparser]
      exact .inr ⟨p, h, by rw [← hsame]; simp [findParser, hparser], rfl, rfl⟩
  | none =>
      obtain ⟨outcome, h', hfind, hrest, hrenderers⟩ := ParserLookup.find_on v.settings.parser h
      cases outcome with
      | ok p =>
          exact .inr ⟨p, h', by simp [findParser, hparser, hfind, Except.map], hrest, hrenderers⟩
      | error f =>
          exact .inl ⟨f, h', by simp [findParser, hparser, hfind], hrest,
            ParserLookup.find_family hfind⟩

theorem openSession_cases (path : Path) (v : Viewer) (h : Host) :
    SessionOpening path v h ((openSession path).on (v, h)) := by
  obtain ⟨h₁, hbuiltin, hrest₁, hrenderers₁⟩ := Registry.builtin_on h
  obtain ⟨h₂, hpick, hrest₂, hrenderers₂⟩ := Registry.pickLanguage_on_eq v.settings.language
    (Registry.fresh h.plugins h.renderers.length) h₁
  rw [Registry.picked_fresh] at hpick
  rcases findParser_cases v h₂ with
    ⟨f, h₃, hfind, hrest₃, family⟩ | ⟨parser, h₃, hfind, hrest₃, hrenderers₃⟩
  · have hon : (openSession path).on (v, h) = (.error f, { v with parser := v.parser }, h₃) := by
      simp [openSession, hbuiltin, hpick, hfind, Except.map]
    rw [hon]
    exact .unready (by simp [family]) (hrest₃.trans (hrest₂.trans hrest₁))
  · cases hsections : Sections.ofNames v.settings.classSections with
    | error f =>
        have hon : (openSession path).on (v, h) =
            (.error f, { v with parser := some parser }, h₃) := by
          simp [openSession, hbuiltin, hpick, hfind, hsections, Except.map]
        rw [hon]
        have family := Sections.ofNames_family hsections
        exact .unready (by rw [family]; nofun)
          (hrest₃.trans (hrest₂.trans hrest₁))
    | ok sections =>
        let o := OpenOptions.usual h v.settings.language sections
        rcases hopen : (Session.«open» path parser o).on h₃ with ⟨outcome, h'⟩
        have hon : (openSession path).on (v, h) =
            (outcome, { v with parser := some parser }, h') := by
          have hopen' : (Session.«open» path parser
              { registry := some (Registry.fresh h.plugins h.renderers.length),
                language := some (Registry.usual h.plugins v.settings.language),
                sections }).on h₃ = (outcome, h') := hopen
          simp [openSession, hbuiltin, hpick, hfind, hsections, hopen', Except.map]
        rw [hon]
        exact .tried (hrest₃.trans (hrest₂.trans hrest₁))
          (hrenderers₃.trans (hrenderers₂.trans hrenderers₁)) hopen

/-- A session that the viewer has just opened, and the host with it. -/
structure OpenedFor (path : Path) (h : Host) (s : Session) (content : Bytes) (m : LoadedModel)
    (h' : Host) : Prop where
  source : s.source = path
  isOpen : s.closed = false
  model : s.model = h.models.length
  models : h'.models = h.models ++ [m]
  holds : BytecodeSource.Holds h.files path content s.temp.isSome
  inUse : BytecodeSource.InUse h.files content s.temp h'.files

theorem openSession_opened {path : Path} {s : Session} {v' : Viewer} {h' : Host}
    (hopen : (openSession path).on (v, h) = (.ok s, v', h')) :
    v'.session = v.session ∧ ∃ content m, OpenedFor path h s content m h' := by
  have attempt := openSession_cases path v h
  rw [hopen] at attempt
  cases attempt with
  | @tried parser sections outcome h₀ _ rest made on =>
      refine ⟨rfl, ?_⟩
      have opening := Session.open_on path parser (.usual h v.settings.language sections) h₀
      rw [on] at opening
      cases opening with
      | @opened content m temp p roots _ holds parses fault language model selection document tree
          inUse models parsed plugins built =>
          rw [Host.rest_files rest] at holds inUse
          rw [Host.rest_models rest] at models
          exact ⟨content, m, rfl, rfl, congrArg List.length (Host.rest_models rest), models, holds,
            inUse⟩

/-- If no session is opened, and the models that have been made can be disposed, nothing is
left behind but disposed models. -/
theorem openSession_failed {path : Path} {f : Failure} {v' : Viewer} {h' : Host}
    (hopen : (openSession path).on (v, h) = (.error f, v', h'))
    (disposes : ∀ m ∈ h'.models.drop h.models.length, m.disposeFailure = none) :
    v'.session = v.session ∧ h'.files = h.files ∧ ∃ more, h'.models = h.models ++ more := by
  have attempt := openSession_cases path v h
  rw [hopen] at attempt
  cases attempt with
  | unready family rest =>
      exact ⟨rfl, Host.rest_files rest, [], by simp [Host.rest_models rest]⟩
  | @tried parser sections outcome h₀ _ rest made on =>
      have opening := Session.open_on path parser (.usual h v.settings.language sections) h₀
      rw [on] at opening
      have hfiles := Host.rest_files rest
      have hmodels := Host.rest_models rest
      cases opening with
      | unlocated files models parsed notPlain =>
          exact ⟨rfl, files.trans hfiles, [], by simp [models, hmodels]⟩
      | unparsed holds parses files models parsed =>
          exact ⟨rfl, files.trans hfiles, [], by simp [models, hmodels]⟩
      | @undone content isArchive m f h' holds parses fault disposed files models parsed =>
          exact ⟨rfl, files.trans hfiles, [m.dispose], by simp [models, hmodels]⟩
      | @stranded content m f g temp h' holds parses fault fails inUse models parsed =>
          have hmade : m.dispose ∈ h'.models.drop h.models.length := by simp [models, hmodels]
          have hnone : m.disposeFailure = none := disposes m.dispose hmade
          rw [fails] at hnone
          cases hnone

end Viewer

end BytecodeViewer
