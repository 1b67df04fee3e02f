import BytecodeViewer.Proofs.Command.Endings
import BytecodeViewer.Proofs.Command.Requests
import BytecodeViewer.Proofs.Viewer.Visit

/-!
# Commands and viewer agree

The command that renders a class or method and a new viewer that opens the file and selects the
node settle on the same parser and options.  So both open the same session, select the same in it,
and come to the same document or fail both.  The command alone closes the session, and fails if
that fails.
-/

namespace BytecodeViewer

theorem Installation.On.of_load {i : Installation} {config : Option Path} {h h' : Host}
    {outcome : Except Failure Settings} (on : i.On h)
    (hload : (Settings.load config).on h = (outcome, h')) : i.On h' ∧ h'.rest = h.rest := by
  have hrest := Settings.load_keeps config h
  have hrenderers := Settings.load_renderers config h
  rw [hload] at hrest hrenderers
  have hsame : h'.renderers = h.renderers ++ [] := hrenderers.trans (List.append_nil _).symm
  exact ⟨on.mono (Host.rest_plugins hrest) (.of_append hsame), hrest⟩

namespace Shell

variable {sh sh₁ : Shell} {h h₁ h₂ h' : Host} {file : Path} {r : RenderRequest}
  {v : Viewer} {settings : Settings} {f : Failure} {s : Session} {node : TreeNode}

/-! ## The same session -/

theorem findParser_alike (found : sh.settings = some v.settings) (same : v.parser = sh.parser)
    (k : Host) :
    ∃ outcome sh' v' k', findParser.on (sh, k) = (outcome, sh', k') ∧
      Viewer.findParser.on (v, k) = (outcome, v', k') := by
  cases hparser : sh.parser with
  | some p => exact ⟨.ok p, sh, v, k, by simp [findParser, hparser],
      by simp [Viewer.findParser, same, hparser]⟩
  | none =>
      have hsettings : findSettings.on (sh, k) = (.ok v.settings, sh, k) := by
        simp [findSettings, found]
      rcases hfind : (ParserLookup.find v.settings.parser).on k with ⟨f | p, k'⟩
      · exact ⟨.error f, sh, v, k', by simp [findParser, hparser, hsettings, hfind],
          by simp [Viewer.findParser, same, hparser, hfind]⟩
      · exact ⟨.ok p, _, _, k', by simp [findParser, hparser, hsettings, hfind, Except.map]; rfl,
          by simp [Viewer.findParser, same, hparser, hfind, Except.map]; rfl⟩

/-- With the same settings, a command and a viewer open a file alike. -/
theorem openSession_alike {sections : Sections} (found : sh.settings = some v.settings)
    (same : v.parser = sh.parser) (named : Sections.ofNames v.settings.classSections = .ok sections)
    (file : Path) (h : Host) :
    ∃ outcome sh' v' h', (openSession file none sections).on (sh, h) = (outcome, sh', h') ∧
      (Viewer.openSession file).on (v, h) = (outcome, v', h') := by
  have hsettings (k : Host) : findSettings.on (sh, k) = (.ok v.settings, sh, k) := by
    simp [findSettings, found]
  obtain ⟨h₁, hbuiltin, -⟩ := Registry.builtin_on h
  obtain ⟨language, h₂, hpick, -⟩ := Registry.pickLanguage_on (some v.settings.language)
    (Registry.fresh h.plugins h.renderers.length) h₁
  obtain ⟨outcome, sh', v', h₃, hfind, hfind'⟩ := findParser_alike found same h₂
  cases outcome with
  | error f =>
      exact ⟨.error f, sh', v', h₃,
        by simp [openSession, hbuiltin, hsettings, hpick, hfind, Except.map],
        by simp [Viewer.openSession, hbuiltin, hpick, hfind', Except.map]⟩
  | ok parser =>
      rcases hopen : (Session.«open» file parser
        { registry := some (Registry.fresh h.plugins h.renderers.length), language, sections }).on
          h₃ with ⟨outcome, h'⟩
      exact ⟨outcome, sh', v', h',
        by simp [openSession, hbuiltin, hsettings, hpick, hfind, hopen, Except.map],
        by simp [Viewer.openSession, hbuiltin, hpick, hfind', named, hopen, Except.map]⟩

/-! ## What is printed -/

/-- A command prints a document: what it selects in the session that it opens. -/
structure Prints (file : Path) (r : RenderRequest) (sh : Shell) (h : Host) (document : Document) :
    Prop where
  selects : ∃ s sh₁ h₁, (opened (.render file r)).on (sh, h) = (.ok (some s), sh₁, h₁) ∧
    ((select r).on (s, h₁)).1 = .ok document
  succeeds : ((render file r).on (sh, h)).1 = .ok 0
  printed : ((render file r).on (sh, h)).2.1.printed =
    sh.printed ++ Terminal.shown sh.width document.text ""

theorem findSections_on (unread : sh.settings = none)
    (hload : (Settings.load sh.config).on h = (.ok settings, h₁)) :
    findSections.on (sh, h) = (Sections.ofNames settings.classSections,
      { sh with settings := some settings }, h₁) := by
  simp [findSections, findSettings, unread, hload]

theorem findSections_on_error (unread : sh.settings = none)
    (hload : (Settings.load sh.config).on h = (.error f, h₁)) :
    findSections.on (sh, h) = (.error f, sh, h₁) := by
  simp [findSections, findSettings, unread, hload]

/-- A command whose work fails does not end with code zero. -/
theorem render_fails (hwork : ((work (.render file r)).on (sh, h)).1 = .error f) :
    ((render file r).on (sh, h)).1 ≠ .ok 0 := by
  have ends : EndsUnless (.render file r) sh h ((render file r).on (sh, h)) :=
    render_ends file r sh h
  generalize (render file r).on (sh, h) = result at ends ⊢
  rcases ends with ⟨-, ends⟩ | ⟨g, -, hfails, -⟩
  · rw [hwork] at ends
    generalize result.1 = outcome at ends ⊢
    cases ends with
    | told => simp
    | raised => nofun
  · rw [hfails]
    nofun

theorem render_prints {base : Sections} {s' : Session} {sh₂ : Shell} {m : LoadedModel}
    {document : Document} (hsections : findSections.on (sh, h) = (.ok base, sh₁, h₁))
    (hopen : (openSession file r.language (base.toggleAll r.switches)).on (sh₁, h₁) =
      (.ok s, sh₂, h₂))
    (loaded : h₂.models[s.model]? = some m) (closes : s.closing m h₂ = .ok ())
    (hselect : (select r).on (s, h₂) = (.ok document, s', h')) : Prints file r sh h document := by
  have face : sh₁.face = sh.face := congrArg Prod.fst (findSections_kept hsections)
  have uses := withSession_cases (printDocument_shows r) file r.language
    (base.toggleAll r.switches) sh₁ h₁
  rw [← render_on_ok hsections] at uses
  have hends : ((render file r).on (sh, h)).1 = .ok 0 ∧
      ((render file r).on (sh, h)).2.1.printed =
        sh₁.printed ++ Terminal.shown sh₁.width document.text "" := by
    generalize (render file r).on (sh, h) = result at uses ⊢
    cases uses with
    | unopened fails => cases hopen.symm.trans fails
    | used opens face loaded' uses left =>
        cases hopen.symm.trans opens
        cases loaded.symm.trans loaded'
        cases (printDocument_on_ok hselect sh₂).symm.trans uses
        rw [← face_printed face, ← face_width face, closes]
        exact ⟨rfl, rfl⟩
  refine ⟨⟨s, sh₂, h₂, ?_, congrArg (·.1) hselect⟩, hends.1, ?_⟩
  · simp [opened, hsections, hopen, Except.map]
  · rw [hends.2, face_printed face, face_width face]

/-- What is selected for a request in a session comes to the document that is due. -/
theorem select_on {w : View} {selection : Selection} (follows : Session.Follows w s h)
    (isOpen : w.closed = false) (selects : selectionOf r w.model = .ok selection) :
    ((select r).on (s, h)).1 = { w with selection := some selection }.due := by
  obtain ⟨outcome, s', h', hon, turn⟩ := follows.turn (.selection (some selection)) trivial
  have hselect : (select r).on (s, h) =
      (Session.onPipeline (Pipeline.setSelection (some selection))).on (s, h) := by
    simp [select, follows.loaded isOpen, selects]
  have hcall : (Session.onPipeline (Pipeline.setSelection (some selection))).on (s, h) =
      (outcome, s', h') := hon
  rw [hselect, hcall]
  exact turn.outcome_eq

/-! ## The same document -/

/-- The command fails exactly if the viewer reports an error, and else prints the document that
the viewer shows. -/
structure Agrees (file : Path) (r : RenderRequest) (sh : Shell) (h : Host)
    (visited : Except Failure Viewer) : Prop where
  fails_iff : ((render file r).on (sh, h)).1 ≠ .ok 0 ↔ Viewer.Reports visited
  prints : ∀ v, visited = .ok v → ¬Viewer.Reports visited → Prints file r sh h v.document

theorem agrees_of_failing {visited : Except Failure Viewer}
    (hwork : ((work (.render file r)).on (sh, h)).1 = .error f) (reports : Viewer.Reports visited) :
    Agrees file r sh h visited where
  fails_iff := iff_of_true (render_fails hwork) reports
  prints _ _ quiet := absurd reports quiet

/-- Where both have opened a session, they agree on what is due in it. -/
theorem agrees_of_opened {base : Sections} {sh₂ : Shell} {w : View} {selection : Selection}
    (hsections : findSections.on (sh, h) = (.ok base, sh₁, h₁))
    (hopen : (openSession file r.language (base.toggleAll r.switches)).on (sh₁, h₁) =
      (.ok s, sh₂, h₂))
    (follows : Session.Follows w s h₂) (isOpen : w.closed = false)
    (closes : s.closing w.model h₂ = .ok ()) (selects : selectionOf r w.model = .ok selection)
    (hdocument : v.document = Pipeline.shown { w with selection := some selection }.due)
    (reports : Viewer.Reports (.ok v) ↔
      ∃ f, { w with selection := some selection }.due = .error f) :
    Agrees file r sh h (.ok v) := by
  have hdue := select_on follows isOpen selects
  rcases hselect : (select r).on (s, h₂) with ⟨f | document, s', h₃⟩
  · rw [hselect] at hdue
    have hopened : (opened (.render file r)).on (sh, h) = (.ok (some s), sh₂, h₂) := by
      simp [opened, hsections, hopen, Except.map]
    have hwork : ((work (.render file r)).on (sh, h)).1 = .error f := by
      rw [work_on_opened hopened]
      simp [showing, hselect, Except.map]
    exact agrees_of_failing hwork (reports.mpr ⟨f, hdue.symm⟩)
  · rw [hselect] at hdue
    have prints := render_prints hsections hopen (follows.loaded isOpen) closes hselect
    have quiet : ¬Viewer.Reports (.ok v) := by
      rw [reports, ← hdue]
      rintro ⟨f, hf⟩
      cases hf
    have hshown : v.document = document := by
      rw [hdocument, ← hdue]
      rfl
    refine ⟨iff_of_false (fun fails => fails prints.succeeds) quiet, ?_⟩
    rintro v' hv -
    cases hv
    rw [hshown]
    exact prints

section Visit

variable {i : Installation} {visited : Except Failure Viewer} {base : Sections} {sh₂ : Shell}
  {v₁ : Viewer}

/-- The viewer holds the session that both have opened.  The request asks for a node of its tree, so
both select what the node stands for. -/
theorem agrees_of_alike (on : i.On h) (plain : r.Plain) (unbinds : Unbinds (.render file r) sh h)
    (visits : (Viewer.visit sh.config sh.parser file node).on h = (visited, h'))
    (asks : ∀ v s m, visited = .ok v → v.session = some s → h'.models[s.model]? = some m →
      r.AsksIn m node)
    (byName : ∀ m ∈ h'.models.drop h.models.length, m.ListsByName)
    (disposes : ∀ m ∈ h'.models.drop h.models.length, m.disposeFailure = none)
    (hload : (Settings.load sh.config).on h = (.ok settings, h₁))
    (hsections : findSections.on (sh, h) = (.ok base, sh₁, h₁))
    (hopen : (openSession file none base).on (sh₁, h₁) = (.ok s, sh₂, h₂))
    (hopen' : (Viewer.openSession file).on ({ settings, parser := sh.parser }, h₁) =
      (.ok s, v₁, h₂)) :
    Agrees file r sh h visited := by
  obtain ⟨on₁, hrest₁⟩ := on.of_load hload
  obtain ⟨n, o, m, h₀, newly, hrest₀⟩ := Viewer.openSession_newly on₁ hopen'
  obtain ⟨v, s', rfl, hheld, hmodel, hmodels, shows⟩ :=
    Viewer.visit_opened hload hopen' newly visits
  have hmade : h'.models = h.models ++ [m] := by
    rw [hmodels, newly.models, Host.rest_models (hrest₀.trans hrest₁)]
  have hmem : m ∈ h'.models.drop h.models.length := by simp [hmade]
  have hloaded : h'.models[s'.model]? = some m := by
    rw [hmodel, hmodels]
    exact newly.follows.loaded rfl
  obtain ⟨selection, hselection, selects⟩ :=
    selectionOf_asksIn (byName m hmem) (asks v s' m rfl hheld hloaded)
  obtain ⟨hdocument, reports⟩ := shows selection hselection
  rw [← plain.language, ← Sections.toggleAll_of_none plain.switches base] at hopen
  have closes : s.closing m h₂ = .ok () := by
    have unbound := unbinds s sh₂ h₂ (by simp [opened, hsections, hopen, Except.map])
    rw [Session.closing, unbound, LoadedModel.disposal, disposes m hmem]
    rfl
  exact agrees_of_opened hsections hopen newly.follows rfl closes selects hdocument reports

/-- The command prints the document that the viewer shows, and fails exactly if the viewer reports
an error, as long as it can close the session. -/
theorem render_agrees (on : i.On h) (unread : sh.settings = none) (plain : r.Plain)
    (unbinds : Unbinds (.render file r) sh h)
    (visits : (Viewer.visit sh.config sh.parser file node).on h = (visited, h'))
    (asks : ∀ v s m, visited = .ok v → v.session = some s → h'.models[s.model]? = some m →
      r.AsksIn m node)
    (byName : ∀ m ∈ h'.models.drop h.models.length, m.ListsByName)
    (disposes : ∀ m ∈ h'.models.drop h.models.length, m.disposeFailure = none) :
    Agrees file r sh h visited := by
  rcases hload : (Settings.load sh.config).on h with ⟨f | settings, h₁⟩
  · have hopened : (opened (.render file r)).on (sh, h) = (.error f, sh, h₁) := by
      simp [opened, findSections_on_error unread hload]
    simp only [Viewer.visit, Act.on_bind, hload] at visits
    cases visits
    exact agrees_of_failing (work_on_unopened hopened) (.unloaded f)
  have hsections := findSections_on unread hload
  let sh₁ : Shell := { sh with settings := some settings }
  let v₀ : Viewer := { settings, parser := sh.parser }
  cases hnames : Sections.ofNames settings.classSections with
  | error f =>
      have hopened : (opened (.render file r)).on (sh, h) = (.error f, sh₁, h₁) := by
        simp [opened, hsections, hnames, sh₁]
      obtain ⟨g, v₁, h₂, hopen⟩ := Viewer.openSession_unnamed v₀ hnames file h₁
      obtain ⟨v, h₃, hvisit, reports⟩ := Viewer.visit_refused hload hopen node
      cases visits.symm.trans hvisit
      exact agrees_of_failing (work_on_unopened hopened) reports
  | ok base =>
      rw [hnames] at hsections
      have found : sh₁.settings = some v₀.settings := rfl
      have same : v₀.parser = sh₁.parser := rfl
      obtain ⟨outcome, sh₂, v₁, h₂, hopen, hopen'⟩ :=
        openSession_alike found same hnames file h₁
      cases outcome with
      | error f =>
          have hbase := Sections.toggleAll_of_none plain.switches base
          have hopened : (opened (.render file r)).on (sh, h) = (.error f, sh₂, h₂) := by
            simp [opened, hsections, plain.language, hbase, hopen, sh₁, Except.map]
          obtain ⟨v, h₃, hvisit, reports⟩ := Viewer.visit_refused hload hopen' node
          cases visits.symm.trans hvisit
          exact agrees_of_failing (work_on_unopened hopened) reports
      | ok s =>
          exact agrees_of_alike on plain unbinds visits asks byName disposes hload hsections
            hopen hopen'

end Visit

/-! ## A small class -/

/-- A class with two methods, one of which has a name that reads as a key. -/
def keyedClass : ClassDef where
  name := "A"
  methods := [{ name := "run" }, { name := "f(" }]

def keyedModel : LoadedModel where
  model := Model.ofClasses [keyedClass]

def keyedShell : Shell where
  parser := some (Session.parserOf keyedModel)

/-- A visit to a method of the class. -/
def keyedVisit (h : Host) (name : String) : Except Failure Viewer × Host :=
  (Viewer.visit keyedShell.config keyedShell.parser Session.smallSource
    (.ofMethod keyedClass { name })).on h

/-- A request for a method of the class by its name. -/
def keyedRequest (name : String) : RenderRequest where
  classRef := "A"
  method := some name

theorem keyedRequest_plain (name : String) : (keyedRequest name).Plain := ⟨rfl, nofun⟩

theorem listsByName_keyed {m : LoadedModel} (hnames : m.names.toOption = some ["A"])
    (hclass : (m.class? "A").toOption = some (some keyedClass)) : m.ListsByName := by
  intro names name c hnames' hname hc
  cases (eq_ok_of_toOption hnames).symm.trans hnames'
  obtain rfl : name = "A" := by simpa using hname
  cases (eq_ok_of_toOption hclass).symm.trans hc
  rfl

theorem render_agrees_by_name :
    Installation.bare.On Session.smallHost ∧ keyedShell.settings = none ∧
      (keyedRequest "run").Plain ∧
      Unbinds (.render Session.smallSource (keyedRequest "run")) keyedShell Session.smallHost ∧
      ∃ v h', keyedVisit Session.smallHost "run" = (.ok v, h') ∧
        (∀ m ∈ h'.models, (keyedRequest "run").AsksIn m (.ofMethod keyedClass { name := "run" }) ∧
          m.ListsByName ∧ m.disposeFailure = none) ∧
        ¬Viewer.Reports (.ok v) ∧ v.document.text = "void run() \x7b\n\x7d\n" ∧
        Agrees Session.smallSource (keyedRequest "run") keyedShell Session.smallHost (.ok v) := by
  have on : Installation.bare.On Session.smallHost :=
    ⟨rfl, fun id hid => absurd hid (Nat.not_lt_zero id)⟩
  have plain := keyedRequest_plain "run"
  have unbinds : Unbinds (.render Session.smallSource (keyedRequest "run")) keyedShell
      Session.smallHost := unbinds_of_isOk (by decide +kernel)
  have shown : ¬Viewer.Reports (keyedVisit Session.smallHost "run").1 ∧
      (keyedVisit Session.smallHost "run").1.toOption.map (·.document.text) =
        some "void run() \x7b\n\x7d\n" := by
    decide +kernel
  have tested : (keyedVisit Session.smallHost "run").2.models.all (fun m => decide (
      (TreeNode.listedClasses m).toOption = some [keyedClass] ∧ m.names.toOption = some ["A"] ∧
        (m.class? "A").toOption = some (some keyedClass) ∧ m.disposeFailure.isNone)) = true := by
    decide +kernel
  rcases hvisit : keyedVisit Session.smallHost "run" with ⟨visited, h'⟩
  rw [hvisit] at shown tested
  have loaded : ∀ m ∈ h'.models,
      (keyedRequest "run").AsksIn m (.ofMethod keyedClass { name := "run" }) ∧ m.ListsByName ∧
        m.disposeFailure = none := by
    intro m hm
    obtain ⟨hlisted, hnames, hclass, hdisposes⟩ :=
      of_decide_eq_true (List.all_eq_true.mp tested m hm)
    refine ⟨⟨[keyedClass], keyedClass, eq_ok_of_toOption hlisted, by simp, ?_⟩,
      listsByName_keyed hnames hclass, Option.isNone_iff_eq_none.mp hdisposes⟩
    exact .name (by decide +kernel) rfl rfl (by decide) (by decide)
  have agrees := render_agrees on rfl plain unbinds hvisit
    (fun v s m _ _ hm => (loaded m (List.mem_of_getElem? hm)).1)
    (fun m hm => (loaded m (List.mem_of_mem_drop hm)).2.1)
    (fun m hm => (loaded m (List.mem_of_mem_drop hm)).2.2)
  cases visited with
  | error f => cases shown.2
  | ok v =>
      exact ⟨on, rfl, plain, unbinds, v, h', rfl, loaded, shown.1, Option.some.inj shown.2, agrees⟩

/-! ## Where they disagree -/

theorem not_agrees_of_quiet {visited : Except Failure Viewer}
    (fails : ((render file r).on (sh, h)).1 ≠ .ok 0) (quiet : ¬Viewer.Reports visited) :
    ¬Agrees file r sh h visited :=
  fun agrees => quiet (agrees.fails_iff.mp fails)

/-- A name that reads as a key is taken for one: the only method that has it is shown by the
viewer but not found by the command. -/
theorem paren_name_not_agrees :
    ((render Session.smallSource (keyedRequest "f(")).on
        (keyedShell, Session.smallHost)).1 = .ok 1 ∧
      (keyedVisit Session.smallHost "f(").1.toOption.map (·.document.text) =
        some "void f(() \x7b\n\x7d\n" ∧
      ¬Agrees Session.smallSource (keyedRequest "f(") keyedShell Session.smallHost
        (keyedVisit Session.smallHost "f(").1 := by
  have fails : ((render Session.smallSource (keyedRequest "f(")).on
      (keyedShell, Session.smallHost)).1 = .ok 1 := eq_ok_of_toOption (by decide +kernel)
  have shown : ¬Viewer.Reports (keyedVisit Session.smallHost "f(").1 ∧
      (keyedVisit Session.smallHost "f(").1.toOption.map (·.document.text) =
        some "void f(() \x7b\n\x7d\n" := by
    decide +kernel
  refine ⟨fails, shown.2, not_agrees_of_quiet ?_ shown.1⟩
  rw [fails]
  simp

/-- A language that writes as Java does, and whose renderers do not give up a model. -/
def clingingLanguage : Language :=
  { Language.java with
    name := "Clinging"
    typeName := "ClingingRenderer"
    bindFault? := fun held next =>
      if held.isSome ∧ next = none then some ⟨.raised "RuntimeError" "in use", false⟩ else none }

/-- The language is installed, and the environment prefers it. -/
def clingingHost : Host :=
  { Session.smallHost with
    environment := [("DV_DEFAULT_LANGUAGE", "Clinging")]
    plugins := .ok [⟨0, .renderers, "Clinging", .ok (.language clingingLanguage)⟩] }

/-- Where the renderer cannot be unbound, the command fails as it closes the session, once it has
printed what the viewer shows. -/
theorem unbinding_not_agrees :
    let result := (render Session.smallSource (keyedRequest "run")).on (keyedShell, clingingHost)
    result.1.isOk = false ∧ result.2.1.printed = "void run() \x7b\n\x7d\n" ∧
      (keyedVisit clingingHost "run").1.toOption.map (·.document.text) =
        some "void run() \x7b\n\x7d\n" ∧
      ¬Agrees Session.smallSource (keyedRequest "run") keyedShell clingingHost
        (keyedVisit clingingHost "run").1 := by
  have fails : ((render Session.smallSource (keyedRequest "run")).on
      (keyedShell, clingingHost)).1.isOk = false := by decide +kernel
  have printed : ((render Session.smallSource (keyedRequest "run")).on
      (keyedShell, clingingHost)).2.1.printed = "void run() \x7b\n\x7d\n" := by decide +kernel
  have shown : ¬Viewer.Reports (keyedVisit clingingHost "run").1 ∧
      (keyedVisit clingingHost "run").1.toOption.map (·.document.text) =
        some "void run() \x7b\n\x7d\n" := by
    decide +kernel
  refine ⟨fails, printed, shown.2, not_agrees_of_quiet ?_ shown.1⟩
  intro hok
  rw [hok] at fails
  cases fails

/-- For a class whose model keeps its contract and lets itself be disposed, command and viewer can
disagree in two ways. -/
theorem render_disagrees :
    keyedModel.ListsByName ∧ keyedModel.disposeFailure = none ∧
      TreeNode.listedClasses keyedModel = .ok [keyedClass] ∧
      (∀ name ∈ ["f(", "run"], (keyedRequest name).Plain ∧
        keyedClass.methods.filter (·.name == name) = [{ name }]) ∧
      ¬Agrees Session.smallSource (keyedRequest "f(") keyedShell Session.smallHost
        (keyedVisit Session.smallHost "f(").1 ∧
      ¬Agrees Session.smallSource (keyedRequest "run") keyedShell clingingHost
        (keyedVisit clingingHost "run").1 := by
  have byName : keyedModel.ListsByName :=
    listsByName_keyed (by decide +kernel) (by decide +kernel)
  have hlisted : (TreeNode.listedClasses keyedModel).toOption = some [keyedClass] := by
    decide +kernel
  have alone : ∀ name ∈ ["f(", "run"],
      keyedClass.methods.filter (·.name == name) = [{ name }] := by decide +kernel
  exact ⟨byName, rfl, eq_ok_of_toOption hlisted,
    fun name hname => ⟨keyedRequest_plain name, alone name hname⟩,
    paren_name_not_agrees.2.2, unbinding_not_agrees.2.2.2⟩

end Shell

end BytecodeViewer
