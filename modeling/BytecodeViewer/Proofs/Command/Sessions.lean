import BytecodeViewer.Command.Shell
import BytecodeViewer.Proofs.Plugin.Picking
import BytecodeViewer.Proofs.Session.Keeping
import BytecodeViewer.Proofs.Session.Leaving
import BytecodeViewer.Proofs.Settings.Loading

/-!
# The session of a command

A command that needs a session looks for settings and a parser, opens the session, uses it and
closes it again, however its use ends.
-/

namespace BytecodeViewer

open Act (Keeps beside)

theorem Settings.load_keeps (path : Option Path) : Keeps Host.rest (load path) := by
  intro h
  obtain ⟨outcome, hload⟩ := load_on path h
  obtain ⟨h', hon, hrest⟩ := hload h rfl
  rw [hon]
  exact hrest

theorem ParserLookup.find_keeps (name : Option String) : Keeps Host.rest (find name) := by
  intro h
  obtain ⟨outcome, h', hon, hrest, -⟩ := find_on name h
  rw [hon]
  exact hrest

theorem Registry.builtin_keeps : Keeps Host.rest (builtin true) := by
  intro h
  obtain ⟨h', hon, hrest, -⟩ := builtin_on h
  rw [hon]
  exact hrest

theorem Registry.pickLanguage_keeps (preferred : Option String) :
    Keeps (beside fun _ => ()) (pickLanguage preferred) := by
  rintro ⟨r, h⟩
  obtain ⟨language, h', hon, hrest, -⟩ := pickLanguage_on preferred r h
  rw [hon]
  exact Prod.ext rfl hrest

theorem Act.Keeps.carrying {τ α κ : Type} {own : τ → κ} {a : HostedAct τ α}
    (keeps : Keeps (beside own) a) (v : τ) : Keeps Host.rest (Act.carrying v a) :=
  fun h => congrArg Prod.snd (keeps (v, h))

/-! ## What is released -/

/-- The files are as before.  A parser has been used once at most, and a model that it has made
has been disposed once. -/
structure Released (h h' : Host) : Prop where
  files : h'.files = h.files
  models : (h'.parsed = h.parsed ∧ h'.models = h.models) ∨
    ∃ (parser : Parser) (content : Bytes),
      h'.parsed = h.parsed ++ [(parser.label, content)] ∧
      match parser.parse content with
      | .ok m => h'.models = h.models ++ [m.dispose]
      | .error _ => h'.models = h.models

theorem Released.of_rest {h h' : Host} (rest : h'.rest = h.rest) : Released h h' :=
  ⟨Host.rest_files rest, .inl ⟨Host.rest_parsed rest, Host.rest_models rest⟩⟩

theorem Released.congr {h₀ h h' h'' : Host} (released : Released h₀ h') (before : h₀.rest = h.rest)
    (after : h''.rest = h'.rest) : Released h h'' := by
  obtain ⟨files, models⟩ := released
  rw [← Host.rest_files after, Host.rest_files before] at files
  rw [← Host.rest_parsed after, ← Host.rest_models after, Host.rest_parsed before,
    Host.rest_models before] at models
  exact ⟨files, models⟩

/-- What a session leaves behind when it is closed: the files are as before, and if its renderer
has been unbound, all is released. -/
structure LeftBy (m : LoadedModel) (unbound : Except Failure Unit) (h h' : Host) : Prop where
  files : h'.files = h.files
  model : ∃ m', h'.models = h.models ++ [m'] ∧ m'.disposeFailure = m.disposeFailure
  released : unbound = .ok () → Released h h'

theorem LeftBy.congr {m : LoadedModel} {unbound : Except Failure Unit} {h₀ h h' : Host}
    (left : LeftBy m unbound h₀ h') (before : h₀.rest = h.rest) : LeftBy m unbound h h' where
  files := left.files.trans (Host.rest_files before)
  model := by
    rw [← Host.rest_models before]
    exact left.model
  released unbound := (left.released unbound).congr before rfl

namespace Session

/-- What closing an open session comes to: its renderer is unbound, and its model disposed. -/
def closing (s : Session) (m : LoadedModel) (h : Host) : Except Failure Unit := do
  h.binding s.pipeline.renderer none
  m.disposal

variable {source : Path} {parser : Parser} {o : OpenOptions} {h h₁ h' : Host}

/-- If a file cannot be opened, all is released unless a model cannot be disposed. -/
theorem Opening.released {f : Failure} (opening : Opening source parser o h (.error f, h'))
    (disposes : ∀ m ∈ h'.models.drop h.models.length, m.disposeFailure = none) :
    Released h h' := by
  cases opening with
  | unlocated files models parsed _ => exact ⟨files, .inl ⟨parsed, models⟩⟩
  | @unparsed content _ _ _ _ parses files models parsed =>
      exact ⟨files, .inr ⟨parser, content, parsed, by rw [parses]; exact models⟩⟩
  | @undone content _ _ _ _ _ parses _ _ files models parsed =>
      exact ⟨files, .inr ⟨parser, content, parsed, by rw [parses]; exact models⟩⟩
  | @stranded content m _ g _ _ _ parses _ fails _ models _ =>
      have hmade : m.dispose ∈ h'.models.drop h.models.length := by simp [models]
      have hnone : m.disposeFailure = none := disposes m.dispose hmade
      cases fails.symm.trans hnone

/-- A session that has been opened can be shown and closed. -/
theorem Opening.closes {s s₁ : Session} (opening : Opening source parser o h (.ok s, h'))
    (hold : s₁.hold = s.hold) (rest : h₁.rest = h'.rest) :
    ∃ m s₂ h₂, h'.models[s.model]? = some m ∧
      Session.close.on (s₁, h₁) = (s₁.closing m h₁, s₂, h₂) ∧
      LeftBy m (h₁.binding s₁.pipeline.renderer none) h h₂ := by
  cases opening with
  | @opened content m temp _ _ _ holds parses _ _ _ _ _ _ inUse models parsed _ _ =>
      have hopen : s₁.closed = false := congrArg (·.2) hold
      have hmodel : s₁.model = h.models.length := congrArg (·.1.2.1) hold
      have htemp : s₁.temp = temp := congrArg (·.1.2.2) hold
      have hmodels₁ : h₁.models = h.models ++ [m] := (Host.rest_models rest).trans models
      have hm : h₁.models[s₁.model]? = some m := by simp [hmodels₁, hmodel]
      have hparsed₁ : h₁.parsed = h.parsed ++ [(parser.label, content)] :=
        (Host.rest_parsed rest).trans parsed
      have removes : BytecodeSource.RemovesTo s₁.temp h₁.files h.files := by
        rw [htemp, Host.rest_files rest]
        exact inUse.removesTo
      cases hbinding : h₁.binding s₁.pipeline.renderer none with
      | error f =>
          obtain ⟨s₂, h₂, hon, -, -, hmodels, hfiles, -⟩ := close_strands hopen hbinding removes
          refine ⟨m, s₂, h₂, by simp [models], ?_, hfiles, ⟨m, hmodels.trans hmodels₁, rfl⟩,
            nofun⟩
          rw [hon, closing, hbinding]
          rfl
      | ok _ =>
          obtain ⟨s₂, h₂, hon, -, -, hmodels, hfiles, hparsed⟩ :=
            close_disposes hopen hm hbinding removes
          have hmade : h₂.models = h.models ++ [m.dispose] := by
            rw [hmodels, hmodels₁, hmodel]
            simp
          refine ⟨m, s₂, h₂, by simp [models], ?_, hfiles, ⟨m.dispose, hmade, rfl⟩, fun _ => ?_⟩
          · rw [hon, closing, hbinding]
            rfl
          · refine ⟨hfiles, .inr ⟨parser, content, hparsed.trans hparsed₁, ?_⟩⟩
            rw [parses]
            exact hmade

end Session

namespace Shell

variable {sh sh' : Shell} {h h' : Host} {file : Path} {asked : Option String} {sections : Sections}

/-! ## Looking for settings and parser -/

/-- A shell but for the settings and the parser that it has found. -/
def face (sh : Shell) : Shell :=
  { sh with settings := none, parser := none }

theorem face_printed (e : sh'.face = sh.face) : sh'.printed = sh.printed :=
  congrArg (·.printed) e

theorem face_width (e : sh'.face = sh.face) : sh'.width = sh.width :=
  congrArg (·.width) e

theorem face_emoji (e : sh'.face = sh.face) : sh'.emoji = sh.emoji :=
  congrArg (·.emoji) e

theorem findSettings_keeps : Keeps (beside face) findSettings := by
  refine .bind (.look _) fun sh => ?_
  split
  · exact .pure _
  · exact .bind (.onHost (Settings.load_keeps _)) fun s =>
      .bind (.setOwn fun _ => rfl) fun _ => .pure s

theorem findSections_keeps : Keeps (beside face) findSections :=
  .bind findSettings_keeps fun _ => .ofExcept _

theorem findParser_keeps : Keeps (beside face) findParser := by
  refine .bind (.look _) fun sh => ?_
  split
  · exact .pure _
  · exact .bind findSettings_keeps fun s => .bind (.onHost (ParserLookup.find_keeps _)) fun p =>
      .bind (.setOwn fun _ => rfl) fun _ => .pure p

/-! ## Opening -/

/-- What is done before a file is opened: the parser and the options are settled. -/
def settle (asked : Option String) (sections : Sections) :
    HostedAct Shell (Parser × OpenOptions) := do
  let registry ← Act.onHost (Registry.builtin true)
  let (language, registry) ← match asked with
    | some name => pure (some name, registry)
    | none => do
      let usual := (← findSettings).language
      Act.onHost (Act.carrying registry (Registry.pickLanguage (some usual)))
  let parser ← findParser
  return (parser, { registry := some registry, language, sections })

theorem settle_keeps (asked : Option String) (sections : Sections) :
    Keeps (beside face) (settle asked sections) := by
  refine .bind (.onHost Registry.builtin_keeps) fun registry => ?_
  cases asked with
  | some name => exact .bind (.pure _) fun _ => .bind findParser_keeps fun parser => .pure _
  | none =>
      exact .bind findSettings_keeps fun settings =>
        .bind (.onHost ((Registry.pickLanguage_keeps _).carrying registry)) fun _ =>
          .bind findParser_keeps fun parser => .pure _

theorem openSession_eq (file : Path) (asked : Option String) (sections : Sections) :
    openSession file asked sections = settle asked sections >>= fun settled =>
      Act.onHost (Session.«open» file settled.1 settled.2) := by
  cases asked <;> simp only [openSession, settle, bind_assoc, pure_bind]

/-- All that can come of opening a session for a command. -/
inductive SessionOpening (file : Path) (sh : Shell) (h : Host) :
    Except Failure Session × Shell × Host → Prop
  | unsettled {f : Failure} {sh' : Shell} {h' : Host} (face : sh'.face = sh.face)
      (rest : h'.rest = h.rest) : SessionOpening file sh h (.error f, sh', h')
  | tried {parser : Parser} {o : OpenOptions} {outcome : Except Failure Session}
      {h₀ h' : Host} {sh' : Shell} (face : sh'.face = sh.face) (rest : h₀.rest = h.rest)
      (opening : Session.Opening file parser o h₀ (outcome, h')) :
      SessionOpening file sh h (outcome, sh', h')

theorem openSession_cases (file : Path) (asked : Option String) (sections : Sections) (sh : Shell)
    (h : Host) : SessionOpening file sh h ((openSession file asked sections).on (sh, h)) := by
  have hkept := settle_keeps asked sections (sh, h)
  rw [openSession_eq, Act.on_bind]
  rcases hsettle : (settle asked sections).on (sh, h) with ⟨f | ⟨parser, o⟩, sh₁, h₁⟩
  · rw [hsettle] at hkept
    exact .unsettled (congrArg Prod.fst hkept) (congrArg Prod.snd hkept)
  · rw [hsettle] at hkept
    exact .tried (congrArg Prod.fst hkept) (congrArg Prod.snd hkept)
      (Session.open_on file parser o h₁)

/-! ## Using a session -/

/-- All that can come of using a session in a command. -/
inductive SessionUse (file : Path) (asked : Option String) (sections : Sections)
    (use : HostedAct (Shell × Session) Int) (sh : Shell) (h : Host) :
    Except Failure Int × Shell × Host → Prop
  | unopened {f : Failure} {sh₁ : Shell} {h₁ : Host}
      (fails : (openSession file asked sections).on (sh, h) = (.error f, sh₁, h₁))
      (face : sh₁.face = sh.face)
      (released : (∀ m ∈ h₁.models.drop h.models.length, m.disposeFailure = none) →
        Released h h₁) :
      SessionUse file asked sections use sh h
        ((reportIf (fun f => f.isTyped || f.isSystem) f).on (sh₁, h₁))
  | used {s s₂ : Session} {sh₁ sh₂ : Shell} {h₁ h₂ h' : Host} {m : LoadedModel}
      {outcome : Except Failure Int}
      (opens : (openSession file asked sections).on (sh, h) = (.ok s, sh₁, h₁))
      (face : sh₁.face = sh.face) (loaded : h₁.models[s.model]? = some m)
      (uses : use.on ((sh₁, s), h₁) = (outcome, (sh₂, s₂), h₂))
      (left : LeftBy m (h₁.binding s.pipeline.renderer none) h h') :
      SessionUse file asked sections use sh h
        ((s.closing m h₁).bind fun _ => outcome, sh₂, h')

/-- A use of a session leaves the session open, and does no more than to show and to print. -/
structure Shows (use : HostedAct (Shell × Session) Int) : Prop where
  keeps : Keeps (beside fun s : Shell × Session => s.2.hold) use
  unbinding : Keeps (fun s : (Shell × Session) × Host => Session.unbinding (s.1.2, s.2)) use

theorem withSession_cases {use : HostedAct (Shell × Session) Int} (shows : Shows use) (file : Path)
    (asked : Option String) (sections : Sections) (sh : Shell) (h : Host) :
    SessionUse file asked sections use sh h
      ((withSession file asked sections use).on (sh, h)) := by
  have opening := openSession_cases file asked sections sh h
  rw [withSession, Act.on_bind, Act.on_attempt]
  rcases hopen : (openSession file asked sections).on (sh, h) with ⟨f | s, sh₁, h₁⟩
  · rw [hopen] at opening
    cases opening with
    | unsettled face rest => exact .unopened hopen face fun _ => .of_rest rest
    | tried face rest opening =>
        refine .unopened hopen face fun disposes => ?_
        rw [← Host.rest_models rest] at disposes
        exact (opening.released disposes).congr rest rfl
  · rw [hopen] at opening
    cases opening with
    | tried face rest opening =>
        have hkept := shows.keeps ((sh₁, s), h₁)
        have hunbinding := shows.unbinding ((sh₁, s), h₁)
        rcases huse : use.on ((sh₁, s), h₁) with ⟨outcome, ⟨sh₂, s₂⟩, h₂⟩
        rw [huse] at hkept hunbinding
        have hsame : h₂.binding s₂.pipeline.renderer none =
            h₁.binding s.pipeline.renderer none := hunbinding
        obtain ⟨m, s₃, h₃, loaded, hclose, left⟩ :=
          opening.closes (congrArg Prod.fst hkept) (congrArg Prod.snd hkept)
        have hclosing : s₂.closing m h₂ = s.closing m h₁ := by
          simp only [Session.closing, hsame]
        rw [hclosing] at hclose
        rw [hsame] at left
        have used := SessionUse.used hopen face loaded huse (left.congr rest)
        cases hclosed : s.closing m h₁ with
        | ok u =>
            rw [hclosed] at hclose used
            simpa [huse, hclose, Except.map, Except.bind] using used
        | error g =>
            rw [hclosed] at hclose used
            simpa [huse, hclose, Except.map, Except.bind] using used

end Shell

end BytecodeViewer
