import BytecodeViewer.Proofs.Command.Endings
import BytecodeViewer.Proofs.Plugin.Calls
import BytecodeViewer.Proofs.Settings.LoadingFailure

/-!
# Which failures commands tell

Typed failures that arise in the work of a command are told with code one, with three exceptions.
The list of languages lets through what goes wrong with the settings.  When a session cannot be
closed, the failure of closing takes the place of all that came before.  And a description in which
the terminal finds backslashes of its own or codes of emoji is not shown as it is.
-/

namespace BytecodeViewer

open Act (FailsWith)

namespace Shell

variable {sh sh' : Shell} {h h' k : Host} {f g : Failure} {c : Command}

theorem findSettings_fails (hfind : findSettings.on (sh, h) = (.error f, sh', h')) :
    Settings.Fails f := by
  cases hsettings : sh.settings with
  | some s => simp [findSettings, hsettings] at hfind
  | none =>
      rcases hload : (Settings.load sh.config).on h with ⟨g | s, h₁⟩
      · simp only [findSettings, Act.on_bind, Act.on_own, hsettings, Act.on_onHost, hload] at hfind
        cases hfind
        exact Settings.load_fails hload
      · simp [findSettings, hsettings, hload, Except.map] at hfind

/-- Whether settings are found does not depend on what has been shown or logged before. -/
theorem findSettings_outcome (e : k.rest = h.rest) :
    (findSettings.on (sh, k)).1 = (findSettings.on (sh, h)).1 := by
  cases hsettings : sh.settings with
  | some s => simp [findSettings, hsettings]
  | none =>
      obtain ⟨outcome, hload⟩ := Settings.load_on sh.config h
      obtain ⟨h', hon, -⟩ := hload h rfl
      obtain ⟨k', hon', -⟩ := hload k e
      cases outcome with
      | error f => simp [findSettings, hsettings, hon, hon']
      | ok s => simp [findSettings, hsettings, hon, hon', Except.map]

/-! ## The list of languages -/

theorem printNames_untyped (picked : Option String) (names : List String) :
    FailsWith (fun f => f.isTyped = false) (listLanguages.printNames picked names) := by
  induction names with
  | nil => exact .pure ()
  | cons name names ih =>
      refine .bind ?_ fun _ => ih
      refine .bind (.look _) fun sh => ?_
      split
      · exact .bind (.look _) fun sh => .change _
      · exact .throw rfl

/-- A new registry can load all plug-ins, whatever is installed. -/
theorem loadedNames_fresh (h : Host) :
    ∃ r h₁ r' h₂, (Registry.builtin true).on h = (.ok r, h₁) ∧
      Registry.loadedNames.on (r, h₁) = (.ok r'.names, r', h₂) ∧ h₂.rest = h.rest := by
  obtain ⟨h₁, hbuiltin, hrest₁, -⟩ := Registry.builtin_on h
  let r := Registry.fresh h.plugins h.renderers.length
  obtain ⟨r', h₂, hnames, -⟩ := Registry.loadedNames_idle r h₁
  have hkept := Registry.loadedNames_keeps (r, h₁)
  rw [hnames] at hkept
  exact ⟨r, h₁, r', h₂, hbuiltin, hnames, (congrArg Prod.snd hkept).trans hrest₁⟩

/-- What goes wrong with the settings is let through by the list of languages. -/
theorem listLanguages_raises (hfind : (findSettings.on (sh, h)).1 = .error f) :
    ((work .languages).on (sh, h)).1 = .error f ∧
      ((run .languages).on (sh, h)).1 = .error f := by
  obtain ⟨r, h₁, r', h₂, hbuiltin, hnames, hrest⟩ := loadedNames_fresh h
  rw [← findSettings_outcome hrest] at hfind
  rcases hon : findSettings.on (sh, h₂) with ⟨outcome, sh₃, h₃⟩
  rw [hon] at hfind
  cases hfind
  constructor
  · simp [work, opened, hbuiltin, hnames, hon, Except.map]
  · simp [run, listLanguages, hbuiltin, hnames, hon, Except.map]

/-- Once the settings are found, the list of languages raises nothing typed. -/
theorem listLanguages_found {settings : Settings}
    (found : (findSettings.on (sh, h)).1 = .ok settings) :
    ((work .languages).on (sh, h)).1 = .ok () ∧
      ∀ f, ((run .languages).on (sh, h)).1 = .error f → f.isTyped = false := by
  obtain ⟨r, h₁, r', h₂, hbuiltin, hnames, hrest⟩ := loadedNames_fresh h
  rw [← findSettings_outcome hrest] at found
  rcases hon : findSettings.on (sh, h₂) with ⟨outcome, sh₃, h₃⟩
  rw [hon] at found
  cases found
  obtain ⟨picked, h₄, hpick, -⟩ := Registry.pickLanguage_on (some settings.language) r' h₃
  constructor
  · simp [work, opened, hbuiltin, hnames, hon, hpick, Except.map]
  · intro f hf
    rcases hprint : (listLanguages.printNames picked r'.names).on (sh₃, h₄) with ⟨g | u, sh₅, h₅⟩
    · have hg : ((run .languages).on (sh, h)).1 = .error g := by
        simp [run, listLanguages, hbuiltin, hnames, hon, hpick, hprint, Except.map]
      cases hf.symm.trans hg
      exact printNames_untyped picked r'.names hprint
    · have hok : ((run .languages).on (sh, h)).1 = .ok 0 := by
        simp [run, listLanguages, hbuiltin, hnames, hon, hpick, hprint, Except.map]
      cases hf.symm.trans hok

/-! ## Descriptions -/

/-- When a failure is told, its description is shown as it is. -/
def ShownAsIs (sh : Shell) (f : Failure) : Prop :=
  ∃ text, Terminal.plainOfMarkup sh.emoji ("[red]" ++ Terminal.escape f.describe ++ "[/red]") =
      .ok text ∧
    Terminal.shown sh.width text "\n" = Terminal.shown sh.width f.describe "\n"

theorem shownAsIs_of_plain (hslash : '\\' ∉ f.describe.toList)
    (hfree : Terminal.EmojiFree sh.emoji f.describe.toList) : ShownAsIs sh f := by
  obtain ⟨text, hplain, hsame⟩ := Terminal.plainOfMarkup_escape sh.emoji f.describe
  exact ⟨text, hplain, by rw [hsame hslash hfree]⟩

theorem Told.printed_iff (told : Told f sh sh') :
    sh'.printed = sh.printed ++ Terminal.shown sh.width f.describe "\n" ↔ ShownAsIs sh f := by
  obtain ⟨text, hplain, hprinted, -⟩ := told
  rw [hprinted, String.append_right_inj]
  constructor
  · exact fun hsame => ⟨text, hplain, hsame⟩
  · rintro ⟨text', hplain', hsame⟩
    cases hplain.symm.trans hplain'
    exact hsame

/-! ## The desktop viewer -/

theorem startDesktop_ends {code : Int} {file : Option Path} (present : sh.desktop = .ok code) :
    (∃ f, ((work (.gui file)).on (sh, h)).1 = .error f ∧
      Ends sh (.error f) ((run (.gui file)).on (sh, h)).1 ((run (.gui file)).on (sh, h)).2.1) ∨
    ((work (.gui file)).on (sh, h)).1 = .ok () ∧ ((run (.gui file)).on (sh, h)).1 = .ok code := by
  have hkept := findSettings_keeps (sh, h)
  rcases hfind : findSettings.on (sh, h) with ⟨f | settings, sh₁, h₁⟩
  · rw [hfind] at hkept
    have typed (hf : f.isTyped = true) : (f.family? == some .configuration) = true := by
      rw [findSettings_fails hfind hf]
      rfl
    obtain ⟨outcome, sh', hreport, ends⟩ :=
      reportIf_ends (fun f => f.family? == some .configuration) typed sh₁ h₁
    have hrun : (run (.gui file)).on (sh, h) = (outcome, sh', h₁) := by
      simp [run, startDesktop, present, hfind, hreport]
    refine .inl ⟨f, by simp [work, opened, hfind, Except.map], ?_⟩
    rw [hrun]
    exact ends.of_face (congrArg Prod.fst hkept)
  · refine .inr ⟨by simp [work, opened, hfind, Except.map], ?_⟩
    simp [run, startDesktop, present, hfind, Except.map]

/-! ## All commands -/

/-- Of a typed failure that arises in the work of a command, the description is printed, with
code one, and the command raises no typed failure. -/
structure ReportsTyped (c : Command) (sh : Shell) (h : Host) : Prop where
  told : ∀ f, ((work c).on (sh, h)).1 = .error f → f.isTyped = true →
    ∃ sh' h', (run c).on (sh, h) = (.ok 1, sh', h') ∧
      sh'.printed = sh.printed ++ Terminal.shown sh.width f.describe "\n"
  untyped : ∀ f, ((run c).on (sh, h)).1 = .error f → f.isTyped = false

/-- The typed failures in the work of a command have descriptions that are shown as they are. -/
def Describes (c : Command) (sh : Shell) (h : Host) : Prop :=
  ∀ f, ((work c).on (sh, h)).1 = .error f → f.isTyped = true → ShownAsIs sh f

theorem Ends.reports_iff
    (ends : Ends sh ((work c).on (sh, h)).1 ((run c).on (sh, h)).1 ((run c).on (sh, h)).2.1) :
    ReportsTyped c sh h ↔ Describes c sh h := by
  generalize hwork : ((work c).on (sh, h)).1 = worked at ends
  rcases hon : (run c).on (sh, h) with ⟨outcome, sh', h'⟩
  have hrun := congrArg Prod.fst hon
  rw [hon] at ends
  cases ends with
  | done =>
      refine iff_of_true ⟨fun f hf => ?_, fun f hf => ?_⟩ fun f hf => ?_
      · cases hwork.symm.trans hf
      · cases hrun.symm.trans hf
      · cases hwork.symm.trans hf
  | @told f _ told =>
      constructor
      · intro reports g hg typed
        cases hwork.symm.trans hg
        obtain ⟨sh₁, h₁, hon', hprinted⟩ := reports.told f hwork typed
        cases hon.symm.trans hon'
        exact told.printed_iff.mp hprinted
      · intro describes
        refine ⟨fun g hg typed => ?_, fun g hg => ?_⟩
        · cases hwork.symm.trans hg
          exact ⟨sh', h', hon, told.printed_iff.mpr (describes f hwork typed)⟩
        · cases hrun.symm.trans hg
  | @raised f _ untyped =>
      refine iff_of_true ⟨fun g hg typed => ?_, fun g hg => ?_⟩ fun g hg typed => ?_
      · cases hwork.symm.trans hg
        cases untyped.symm.trans typed
      · cases hrun.symm.trans hg
        exact untyped
      · cases hwork.symm.trans hg
        cases untyped.symm.trans typed

theorem Unclosed.unique (fails : Unclosed c sh h f) (fails' : Unclosed c sh h g) : f = g := by
  obtain ⟨s, sh₁, h₁, m, hopened, loaded, hf⟩ := fails
  obtain ⟨s', sh₁', h₁', m', hopened', loaded', hg⟩ := fails'
  cases hopened.symm.trans hopened'
  cases loaded.symm.trans loaded'
  cases hf.symm.trans hg
  rfl

theorem EndsUnless.reports_iff
    (ends : EndsUnless c sh h ((run c).on (sh, h))) :
    ReportsTyped c sh h ↔ (∀ g, Unclosed c sh h g → g.isTyped = false ∧
      ∀ f, ((work c).on (sh, h)).1 = .error f → f.isTyped = false) ∧ Describes c sh h := by
  rcases ends with ⟨closed, ends⟩ | ⟨g, fails, hraised, -⟩
  · rw [ends.reports_iff]
    exact ⟨fun describes => ⟨fun g fails => absurd fails (closed g), describes⟩, fun h => h.2⟩
  · have raises_untyped (reports : ReportsTyped c sh h) (f : Failure)
        (hf : ((work c).on (sh, h)).1 = .error f) : f.isTyped = false := by
      cases typed : f.isTyped with
      | false => rfl
      | true =>
          obtain ⟨sh', h', hon, -⟩ := reports.told f hf typed
          rw [hon] at hraised
          cases hraised
    constructor
    · intro reports
      refine ⟨fun g' fails' => ?_, fun f hf typed => ?_⟩
      · obtain rfl := fails.unique fails'
        exact ⟨reports.untyped g hraised, raises_untyped reports⟩
      · cases (raises_untyped reports f hf).symm.trans typed
    · rintro ⟨harmless, -⟩
      obtain ⟨untyped, none_typed⟩ := harmless g fails
      constructor
      · intro f hf typed
        cases typed.symm.trans (none_typed f hf)
      · intro f hf
        cases hraised.symm.trans hf
        exact untyped

theorem not_unclosed (idle : ¬c.Browses) (g : Failure) : ¬Unclosed c sh h g := by
  rintro ⟨s, sh', h', m, hopened, -⟩
  cases c with
  | languages =>
      obtain ⟨r, h₁, r', h₂, hbuiltin, hnames, -⟩ := loadedNames_fresh h
      rcases hfind : findSettings.on (sh, h₂) with ⟨f | settings, sh₃, h₃⟩
      · simp [opened, hbuiltin, hnames, hfind, Except.map] at hopened
      · obtain ⟨picked, h₄, hpick, -⟩ := Registry.pickLanguage_on (some settings.language) r' h₃
        simp [opened, hbuiltin, hnames, hfind, hpick, Except.map] at hopened
  | gui file =>
      rcases hfind : findSettings.on (sh, h) with ⟨f | settings, sh₁, h₁⟩
      · simp [opened, hfind, Except.map] at hopened
      · simp [opened, hfind, Except.map] at hopened
  | classes file filter => exact idle trivial
  | render file r => exact idle trivial

theorem listLanguages_describes
    (none_typed : ∀ f, (findSettings.on (sh, h)).1 = .error f → f.isTyped = false) :
    Describes .languages sh h := by
  intro f hf typed
  cases hfind : (findSettings.on (sh, h)).1 with
  | error g =>
      cases (listLanguages_raises hfind).1.symm.trans hf
      cases (none_typed f hfind).symm.trans typed
  | ok settings => cases (listLanguages_found hfind).1.symm.trans hf

theorem listLanguages_reports_iff : ReportsTyped .languages sh h ↔
    ∀ f, (findSettings.on (sh, h)).1 = .error f → f.isTyped = false := by
  constructor
  · intro reports f hf
    exact reports.untyped f (listLanguages_raises hf).2
  · intro none_typed
    cases hfind : (findSettings.on (sh, h)).1 with
    | error f =>
        have untyped := none_typed f hfind
        obtain ⟨hwork, hrun⟩ := listLanguages_raises hfind
        constructor
        · intro g hg typed
          cases hwork.symm.trans hg
          cases typed.symm.trans untyped
        · intro g hg
          cases hrun.symm.trans hg
          exact untyped
    | ok settings =>
        obtain ⟨hwork, hrun⟩ := listLanguages_found hfind
        constructor
        · intro g hg _
          cases hwork.symm.trans hg
        · exact hrun

theorem startDesktop_reports_iff {code : Int} (present : sh.desktop = .ok code)
    (file : Option Path) : ReportsTyped (.gui file) sh h ↔ Describes (.gui file) sh h := by
  rcases startDesktop_ends present with ⟨f, hwork, ends⟩ | ⟨hwork, hrun⟩
  · exact Ends.reports_iff (by rwa [hwork])
  · refine iff_of_true ⟨fun f hf => ?_, fun f hf => ?_⟩ fun f hf => ?_
    · cases hwork.symm.trans hf
    · cases hrun.symm.trans hf
    · cases hwork.symm.trans hf

/-- A command reports typed failures exactly if it does not list languages where the settings
raise one, closing its session neither raises one nor hides one, and what it tells is shown as it
is. -/
theorem reportsTyped_iff (present : ∀ file, c = .gui file → ∃ code, sh.desktop = .ok code) :
    ReportsTyped c sh h ↔
      (c = .languages → ∀ f, (findSettings.on (sh, h)).1 = .error f → f.isTyped = false) ∧
      (∀ g, Unclosed c sh h g → g.isTyped = false ∧
        ∀ f, ((work c).on (sh, h)).1 = .error f → f.isTyped = false) ∧
      Describes c sh h := by
  cases c with
  | languages =>
      rw [listLanguages_reports_iff]
      constructor
      · intro none_typed
        exact ⟨fun _ => none_typed, fun g fails => absurd fails (not_unclosed id g),
          listLanguages_describes none_typed⟩
      · exact fun h => h.1 rfl
  | gui file =>
      obtain ⟨code, hcode⟩ := present file rfl
      rw [startDesktop_reports_iff hcode]
      exact ⟨fun describes => ⟨nofun, fun g fails => absurd fails (not_unclosed id g), describes⟩,
        fun h => h.2.2⟩
  | classes file filter =>
      rw [(listClasses_ends file filter sh h).reports_iff]
      exact ⟨fun harmless => ⟨nofun, harmless⟩, fun h => h.2⟩
  | render file r =>
      rw [(render_ends file r sh h).reports_iff]
      exact ⟨fun harmless => ⟨nofun, harmless⟩, fun h => h.2⟩

/-! ## A settings file that does not exist -/

def strayShell : Shell where
  config := some ⟨"", ["missing.yaml"]⟩

theorem strayShell_fails : (findSettings.on (strayShell, {})).1 =
    .error (.noSettings ⟨"", ["missing.yaml"]⟩) := rfl

/-- The desktop viewer reports that the file does not exist. -/
theorem reportsTyped_iff_stray :
    (∀ file, Command.gui none = .gui file → ∃ code, strayShell.desktop = .ok code) ∧
      ReportsTyped (.gui none) strayShell {} := by
  have present (file : Option Path) (_ : Command.gui none = .gui file) :
      ∃ code, strayShell.desktop = .ok code := ⟨0, rfl⟩
  have describes : Describes (.gui none) strayShell {} := by
    intro f hf _
    have hwork : ((work (.gui none)).on (strayShell, {})).1 =
        .error (.noSettings ⟨"", ["missing.yaml"]⟩) := rfl
    cases hwork.symm.trans hf
    exact shownAsIs_of_plain (by decide +kernel) fun _ _ _ _ => rfl
  exact ⟨present, (reportsTyped_iff present).mpr
    ⟨nofun, fun g fails => absurd fails (not_unclosed id g), describes⟩⟩

/-- The list of languages lets the same failure through. -/
theorem languages_not_reportsTyped : ¬ReportsTyped .languages strayShell {} := by
  intro reports
  have untyped := reports.untyped _ (listLanguages_raises strayShell_fails).2
  cases untyped

end Shell

end BytecodeViewer
