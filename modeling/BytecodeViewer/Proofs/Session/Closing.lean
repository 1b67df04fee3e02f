import BytecodeViewer.Proofs.Session.AllOrNothing
import BytecodeViewer.Proofs.Session.NewSession
import BytecodeViewer.Proofs.Session.Uses

/-!
# A closed session stays closed

Closing a session disposes its model, takes its temporary copy away where this can be done, and
leaves a pipeline that never shows anything again.
-/

namespace BytecodeViewer

namespace Files

variable {fs : Files} {place other : Location}

theorem at?_erase_self (hroot : ¬(place = [] ∨ place = rootPlace)) :
    (fs.erase place).at? place = none := by
  simp [at?, hroot, erase, lookup_filter_self]

theorem at?_erase_ne (hne : other ≠ place) : (fs.erase place).at? other = fs.at? other := by
  simp [at?, erase, lookup_filter_ne hne]

end Files

namespace BytecodeSource

variable {fs : Files} {n : Nat} {content : Bytes} {temp : Option Path}

theorem status_tempPlace (fs : Files) (n : Nat) :
    fs.status ⟨"", tempPlace n⟩ = fs.follow tempDirectory [tempName n] :=
  Files.follow_into (Files.at?_nil fs) (by decide) [tempName n]

theorem tempPlace_of_file {place : Location}
    (hfile : fs.status ⟨"", tempPlace n⟩ = .file place content) :
    HasTempDirectory fs ∧ place = tempPlace n := by
  rw [status_tempPlace] at hfile
  have dir : HasTempDirectory fs := by
    unfold Files.follow at hfile
    unfold HasTempDirectory
    split at hfile
    · assumption
    · cases hfile
    · cases hfile
  refine ⟨dir, ?_⟩
  rw [Files.follow_into dir (tempName_ne_dots n), Files.follow] at hfile
  split at hfile
  · cases hfile
    rfl
  · cases hfile
  · cases hfile

theorem status_temp_erased (dir : HasTempDirectory fs) :
    (fs.erase (tempPlace n)).status ⟨"", tempPlace n⟩ = .missing := by
  have dir' : HasTempDirectory (fs.erase (tempPlace n)) := by
    rw [HasTempDirectory, Files.at?_erase_ne (tempDirectory_ne_place n)]
    exact dir
  have hnone : (fs.erase (tempPlace n)).at? (tempDirectory ++ [tempName n]) = none :=
    Files.at?_erase_self (tempPlace_ne_root n)
  rw [status_tempPlace, Files.follow_into dir' (tempName_ne_dots n), Files.follow, hnone]

/-- A temporary copy that can be deleted is gone afterwards. -/
theorem removesTo_of_deletable (deletable : deletionFault? fs ⟨"", tempPlace n⟩ = none) :
    ∃ fs', RemovesTo (some ⟨"", tempPlace n⟩) fs fs' ∧
      fs'.status ⟨"", tempPlace n⟩ = .missing := by
  cases hstatus : fs.status ⟨"", tempPlace n⟩ with
  | file place content =>
      obtain ⟨dir, rfl⟩ := tempPlace_of_file hstatus
      refine ⟨fs.erase (tempPlace n), ?_, status_temp_erased dir⟩
      rintro h rfl
      simp [removeTemp, deletable, discard, hstatus, Except.map]
  | missing =>
      refine ⟨fs, ?_, hstatus⟩
      rintro h rfl
      simp [removeTemp, deletable, discard, hstatus, Except.map]
  | directory => simp [deletionFault?, hstatus] at deletable
  | belowFile => simp [deletionFault?, hstatus] at deletable

theorem removesTo_none (fs : Files) : RemovesTo none fs fs := by
  rintro h rfl
  simp [removeTemp]

theorem InUse.temp_cases {fs' : Files} (inUse : InUse fs content temp fs') :
    temp = none ∨ ∃ n, temp = some ⟨"", tempPlace n⟩ := by
  cases inUse with
  | plain => exact .inl rfl
  | copied copy =>
      cases copy with
      | @mk n dir free => exact .inr ⟨n, rfl⟩

end BytecodeSource

/-! ## Sessions that have been opened -/

namespace OpenOptions

/-- The registry has renderers that are there, and waits for such only. -/
def Grounded (o : OpenOptions) (h : Host) : Prop :=
  (o.registryOn h).Grounded { h with renderers := h.renderers ++ o.freshRenderers }

theorem grounded_of_own {i : Installation} {n : Nat} {o : OpenOptions} {h : Host}
    (own : o.Own i n h) : o.Grounded h :=
  (own _ rfl).grounded

theorem languagesOn_of_own {i : Installation} {n : Nat} {o : OpenOptions} {h : Host}
    (own : o.Own i n h) : o.languagesOn h = i.language? :=
  funext (own _ rfl).languages

end OpenOptions

namespace Installation

theorem plain_bare {name : String} {l : Language} (hl : bare.language? name = some l) :
    l.Plain := by
  unfold language? at hl
  split at hl
  · cases hl
    exact Language.plain_of_builtin (by simp [Language.builtin])
  · split at hl
    · cases hl
      exact Language.plain_of_builtin (by simp [Language.builtin])
    · cases hl

end Installation

namespace Session

variable {o : OpenOptions} {h h' : Host} {source : Path} {parser : Parser} {s : Session}

/-- Setting the language of a new pipeline keeps it coherent. -/
theorem LanguageSet.coherent {languages : String → Option Language} {p p' : Pipeline}
    {h h' : Host} {language : Option String} (set : LanguageSet p h language p' h')
    (coherent : Pipeline.Coherent languages p h) (hs : p.selection = .none)
    (bound : Pipeline.Bound p h) :
    Pipeline.Coherent languages p' h' ∧ Pipeline.Bound p' h' ∧ h'.rest = h.rest := by
  cases set with
  | none => exact ⟨coherent, bound, rfl⟩
  | @some name d _ _ on =>
      obtain ⟨outcome, p₁, h₁, hon, effect⟩ := coherent.language_effect
        (Pipeline.binds_of_switched hs on)
      cases on.symm.trans (show (Pipeline.setLanguage name).on (p, h) = _ from hon)
      exact ⟨effect.coherent, effect.bound_after coherent bound, effect.rest⟩

theorem Built.coherent {id : ModelId} {models : List LoadedModel} {p : Pipeline}
    (grounded : o.Grounded h) (built : Built o h id models p h'.renderers)
    (hmodels : h'.models = models) :
    Pipeline.Coherent (o.languagesOn h) p h' ∧ Pipeline.Bound p h' := by
  obtain @⟨p₁, h₁, h₂, h₃, models_eq, before, language, model, after⟩ := built
  have kept : Host.KeepsLanguages { h with renderers := h.renderers ++ o.freshRenderers } h₁ := by
    intro id hid
    simp only [Host.languageOf?, Host.renderer?, before]
  have new : Pipeline.Coherent (o.languagesOn h) (o.pipelineOn h) h₁ := by
    have coherent := Pipeline.coherent_new (grounded.mono kept) o.sections
      (fun text rules => .ok (highlight text rules))
    rwa [funext (grounded.language?_eq kept)] at coherent
  obtain ⟨coherent₁, bound₁, rest₁⟩ := language.coherent new rfl
    (by simp [Pipeline.Bound, OpenOptions.pipelineOn])
  obtain ⟨p', k, hon, effect⟩ := coherent₁.setModel_effect (Pipeline.of_setModel_on model).1
  cases model.symm.trans hon
  have hmodels' : h'.models = h₃.models := by
    rw [hmodels, Host.rest_models effect.rest, Host.rest_models rest₁, models_eq]
  refine ⟨effect.coherent.of_same after.symm hmodels', ?_⟩
  intro id r hid hr
  refine effect.bound_after coherent₁ bound₁ id r hid ?_
  rw [← hr]
  simp only [Host.renderer?, after]

/-- What there is to know of a session that has been opened. -/
structure Begun (source : Path) (parser : Parser) (o : OpenOptions) (h : Host) (s : Session)
    (content : Bytes) (m : LoadedModel) (h' : Host) : Prop where
  holds : BytecodeSource.Holds h.files source content s.temp.isSome
  parses : parser.parse content = .ok m
  isOpen : s.closed = false
  inUse : BytecodeSource.InUse h.files content s.temp h'.files
  held : Held (o.languagesOn h) s m s h'

theorem open_begun (grounded : o.Grounded h)
    (plain : ∀ name l, o.languageOn h = some name → o.languagesOn h name = some l → l.Plain)
    (hopen : (Session.«open» source parser o).on h = (.ok s, h')) :
    ∃ content m, Begun source parser o h s content m h' := by
  have opening := open_on source parser o h
  rw [hopen] at opening
  cases opening with
  | @opened content m temp p roots _ holds parses _ language _ _ _ _ inUse models _ _ built =>
      obtain ⟨coherent, bound⟩ := built.coherent grounded models
      refine ⟨content, m, holds, parses, rfl, inUse, ⟨⟨coherent, bound, ?_⟩, rfl, ?_⟩⟩
      · rw [language]
        exact plain
      · simp [models]

/-! ## Closing -/

variable {languages : String → Option Language} {s₀ s' : Session} {m : LoadedModel}

/-- A session has been closed, and its model disposed once. -/
structure Dead (s₀ : Session) (m : LoadedModel) (s : Session) (h : Host) : Prop where
  file : s.file = s₀.file
  closed : s.closed = true
  model : h.models[s₀.model]? = some m.dispose
  unset : s.pipeline.model = none
  document : s.pipeline.document = .empty

/-- What becomes of a session that is closed on some host. -/
structure Closed (languages : String → Option Language) (s₀ : Session) (m : LoadedModel)
    (h : Host) (s' : Session) (h' : Host) : Prop where
  held : Held languages { s₀ with closed := true } m.dispose s' h'
  unset : s'.pipeline.model = none
  unselected : s'.pipeline.selection = none
  files : ∀ fs, BytecodeSource.RemovesTo s₀.temp h.files fs → h'.files = fs

theorem Held.close (held : Held languages s₀ m s h) (isOpen : s.closed = false) :
    ∃ s' h', Session.close.on (s, h) = (m.disposal, s', h') ∧
      Closed languages s₀ m h s' h' := by
  have unset : (Pipeline.Call.model none).Plain languages := trivial
  have unbinds : h.binding s.pipeline.renderer none = .ok () := held.plain.binds unset
  obtain ⟨p', h₁, h', hon, effect, hrenderers, hmodels, -⟩ :=
    close_on_open held.plain.coherent isOpen held.model unbinds
  have within : s.pipeline.Plain languages (h.within [("file", some s.source.name)]) :=
    ⟨held.plain.coherent.of_same rfl rfl, held.plain.bound, held.plain.plain⟩
  have plain := effect.plain within unset
  have unset : p'.model = none := congrArg (·.model) effect.inputs
  have file : s.file = s₀.file := congrArg Prod.fst held.hold
  refine ⟨_, h', hon, ⟨⟨?_, ?_, ?_⟩, Prod.ext file rfl, ?_⟩, unset,
    congrArg (·.selection) effect.inputs, ?_⟩
  · exact plain.coherent.of_renderers plain.bound unset hrenderers
  · intro id r hid hr
    refine plain.bound id r hid ?_
    rw [← hr]
    simp only [Host.renderer?, hrenderers]
  · exact plain.plain
  · rw [hmodels]
    exact List.getElem?_set_self (List.getElem?_eq_some_iff.mp held.model).1
  · intro fs removes
    rw [← show s.temp = s₀.temp from congrArg (·.2.2) file] at removes
    obtain ⟨s₁, k, hon', -, -, -, hfiles, -⟩ := close_disposes isOpen held.model unbinds removes
    cases hon.symm.trans hon'
    exact hfiles

/-- What may be done with a session that has been closed. -/
def Use.Afterwards (languages : String → Option Language) (u : Use) : Prop :=
  ¬u.SetsModel ∧ u.Plain languages

theorem Held.dead (held : Held languages { s₀ with closed := true } m.dispose s h)
    (unset : s.pipeline.model = none) : Dead s₀ m s h where
  file := congrArg Prod.fst held.hold
  closed := congrArg Prod.snd held.hold
  model := by
    rw [← show s.model = s₀.model from congrArg (·.1.2.1) held.hold]
    exact held.model
  unset := unset
  document := held.plain.document_without_model unset

theorem Closed.uses {h₁ : Host} (closed : Closed languages s₀ m h₁ s' h')
    (uses : Uses (Use.Afterwards languages) s' h' s h) :
    Held languages { s₀ with closed := true } m.dispose s h ∧ s.pipeline.model = none := by
  induction uses with
  | start => exact ⟨closed.held, closed.unset⟩
  | use uses u ok ih =>
      obtain ⟨outcome, s', h', hon, held, empties⟩ := ih.1.use u ok.2 fun _ => rfl
      rw [hon]
      exact ⟨held, (empties ih.2 ok.1).1⟩
  | aside uses aside ih => exact ⟨ih.1.aside aside, ih.2⟩

/-- A session has been opened and used, with languages that look up what they write and whose
renderers let themselves be bound.  Closing it disposes its model once, takes the temporary copy
away if this can be done, and touches no file if the source holds the bytecode itself.  Whatever
is done with it later, but for setting a model, it stays as it is and gives no document with a
text. -/
theorem closed_for_good {h₀ h₁ : Host} (grounded : o.Grounded h₀)
    (plain : ∀ name l, o.languageOn h₀ = some name → o.languagesOn h₀ name = some l → l.Plain)
    (hopen : (Session.«open» source parser o).on h₀ = (.ok s₀, h₁))
    (uses : Uses (fun u => u ≠ .close ∧ u.Plain (o.languagesOn h₀)) s₀ h₁ s h) :
    ∃ content m, BytecodeSource.Holds h₀.files source content s₀.temp.isSome ∧
      parser.parse content = .ok m ∧ h₁.models[s₀.model]? = some m ∧
      s.closed = false ∧ h.models[s₀.model]? = some m ∧
      ∃ s' h', Session.close.on (s, h) = (m.disposal, s', h') ∧
        Dead s₀ m s' h' ∧ s'.pipeline.selection = none ∧
        (∀ temp, s₀.temp = some temp → BytecodeSource.deletionFault? h.files temp = none →
          h'.files.status temp = .missing) ∧
        (∀ raw, BytecodeSource.Holds h₀.files source raw false →
          s₀.temp = none ∧ h'.files = h.files) ∧
        ∀ s'' h'', Uses (Use.Afterwards (o.languagesOn h₀)) s' h' s'' h'' →
          Dead s₀ m s'' h'' ∧ (∀ k, Session.close.on (s'', k) = (.ok (), s'', k)) ∧
          ∀ (u : Use) (d : Document), u.Afterwards (o.languagesOn h₀) →
            (u.act.on (s'', h'')).1 = .ok d → d = .empty := by
  obtain ⟨content, m, begun⟩ := open_begun grounded plain hopen
  have held := begun.held.uses (fun u ok => ⟨ok.2, fun hclose => absurd hclose ok.1⟩) uses
  have isOpen : s.closed = false := (congrArg Prod.snd held.hold).trans begun.isOpen
  obtain ⟨s', h', hclose, closed⟩ := held.close isOpen
  refine ⟨content, m, begun.holds, begun.parses, begun.held.model, isOpen, ?_, s', h', hclose,
    closed.held.dead closed.unset, closed.unselected, ?_, ?_, ?_⟩
  · rw [← show s.model = s₀.model from congrArg (·.1.2.1) held.hold]
    exact held.model
  · intro temp htemp deletable
    rcases begun.inUse.temp_cases with hnone | ⟨n, hcopy⟩
    · cases htemp.symm.trans hnone
    · cases htemp.symm.trans hcopy
      obtain ⟨fs, removes, gone⟩ := BytecodeSource.removesTo_of_deletable deletable
      rw [closed.files fs (by rwa [hcopy])]
      exact gone
  · intro raw holds
    have hnone : s₀.temp = none := by simpa using (begun.holds.unique holds).2
    refine ⟨hnone, closed.files h.files ?_⟩
    rw [hnone]
    exact BytecodeSource.removesTo_none h.files
  · intro s'' h'' later
    obtain ⟨held', unset⟩ := closed.uses later
    have dead := held'.dead unset
    refine ⟨dead, fun k => close_on_closed dead.closed k, fun u d ok hd => ?_⟩
    obtain ⟨outcome, _, _, hon, -, empties⟩ := held'.use u ok.2 fun _ => rfl
    rw [hon] at hd
    exact (empties unset ok.1).2 d hd

def dexOptions : OpenOptions where
  language := some "Dex"

/-- An archive is opened, whose model cannot be disposed. -/
def smallOpening : Except Failure Session × Host :=
  (Session.«open» smallSource (parserOf stubbornModel) dexOptions).on smallHost

def classUse : Use := .call (.selection (some (.wholeClass "A")))

def javaUse : Use := .call (.language "Java")

/-- The class of the archive is shown in two languages, and the session is closed. -/
theorem closed_for_good_two_languages :
    dexOptions.Grounded smallHost ∧
      (∀ name l, dexOptions.languageOn smallHost = some name →
        dexOptions.languagesOn smallHost name = some l → l.Plain) ∧
      ∃ s₀ h₁ s h,
        smallOpening = (.ok s₀, h₁) ∧
        Uses (fun u => u ≠ .close ∧ u.Plain (dexOptions.languagesOn smallHost)) s₀ h₁ s h ∧
        (s, h) = (javaUse.act.on (classUse.act.on (s₀, h₁)).2).2 ∧
        s₀.temp.isSome = true ∧ s.pipeline.document.text ≠ "" ∧
        ∃ content m, BytecodeSource.Holds smallHost.files smallSource content s₀.temp.isSome ∧
          (parserOf stubbornModel).parse content = .ok m ∧ h₁.models[s₀.model]? = some m ∧
          s.closed = false ∧ h.models[s₀.model]? = some m ∧
          ∃ s' h', Session.close.on (s, h) = (m.disposal, s', h') ∧
            Dead s₀ m s' h' ∧ s'.pipeline.selection = none ∧
            (∀ temp, s₀.temp = some temp → BytecodeSource.deletionFault? h.files temp = none →
              h'.files.status temp = .missing) ∧
            (∀ raw, BytecodeSource.Holds smallHost.files smallSource raw false →
              s₀.temp = none ∧ h'.files = h.files) ∧
            ∀ s'' h'', Uses (Use.Afterwards (dexOptions.languagesOn smallHost)) s' h' s'' h'' →
              Dead s₀ m s'' h'' ∧ (∀ k, Session.close.on (s'', k) = (.ok (), s'', k)) ∧
              ∀ (u : Use) (d : Document), u.Afterwards (dexOptions.languagesOn smallHost) →
                (u.act.on (s'', h'')).1 = .ok d → d = .empty := by
  have on : Installation.bare.On smallHost := ⟨rfl, fun id hid => absurd hid (Nat.not_lt_zero id)⟩
  have own : dexOptions.Own .bare smallHost.renderers.length smallHost :=
    OpenOptions.own_of_none on rfl
  have grounded := OpenOptions.grounded_of_own own
  have plain (name : String) (l : Language)
      (hl : dexOptions.languagesOn smallHost name = some l) : l.Plain := by
    rw [OpenOptions.languagesOn_of_own own] at hl
    exact Installation.plain_bare hl
  have shown : (smallOpening.1.toOption.any fun s => s.temp.isSome &&
      (javaUse.act.on (classUse.act.on (s, smallOpening.2)).2).2.1.pipeline.document.text != "") =
        true := by decide +kernel
  rcases hopen : smallOpening with ⟨f | s₀, h₁⟩
  · rw [hopen] at shown
    cases shown
  · rw [hopen] at shown
    simp only [Except.toOption, Option.any_some, Bool.and_eq_true, bne_iff_ne] at shown
    obtain ⟨copied, written⟩ := shown
    have uses : Uses (fun u => u ≠ .close ∧ u.Plain (dexOptions.languagesOn smallHost))
        s₀ h₁ _ _ :=
      (Uses.start.use classUse ⟨Use.call_ne_close _, trivial⟩).use javaUse
        ⟨Use.call_ne_close _, plain "Java"⟩
    exact ⟨grounded, fun name l _ => plain name l, s₀, h₁, _, _, rfl, uses, rfl, copied,
      written, closed_for_good grounded (fun name l _ => plain name l) hopen uses⟩

end Session

end BytecodeViewer
