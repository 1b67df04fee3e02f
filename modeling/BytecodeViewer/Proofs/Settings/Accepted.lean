import BytecodeViewer.Proofs.Command.Endings
import BytecodeViewer.Proofs.Settings.Loading
import BytecodeViewer.Viewer.Viewer

/-!
# Accepted settings

Settings that are loaded name a language, a font size within its bounds and known sections
only.  So the viewer and the command that renders always find the set of sections that the
settings ask for, in which are just the sections that are named.
-/

namespace BytecodeViewer

/-! ## Sets of named sections -/

/-- The name of a section in the settings. -/
def Section.word : Section → String
  | annotations => "annotations"
  | name => "name"
  | details => "details"
  | fields => "fields"
  | methods => "methods"

theorem Settings.knownSections_eq : knownSections = Section.all.map Section.word := rfl

namespace Sections

variable {part : Section} {names : List String}

theorem has_none (part : Section) : none.has part = false := by
  cases part <;> rfl

theorem has_union (a b : Sections) (part : Section) :
    (a.union b).has part = (a.has part || b.has part) := by
  cases part <;> rfl

theorem has_ofSection (s part : Section) : (ofSection s).has part = true ↔ part.word = s.word := by
  cases s <;> cases part <;> decide

theorem ofName?_word (s : Section) : ofName? s.word = some (ofSection s) := by
  cases s <;> decide +kernel

/-- Known sections can be named in any order and as often as one likes. -/
theorem ofNames_of_known (known : ∀ name ∈ names, name ∈ Settings.knownSections) :
    ∃ o, ofNames names = .ok o ∧ ∀ part, o.has part = true ↔ part.word ∈ names := by
  induction names with
  | nil => exact ⟨none, rfl, fun part => by simp [has_none]⟩
  | cons name names ih =>
      obtain ⟨hname, hnames⟩ := List.forall_mem_cons.mp known
      obtain ⟨s, -, rfl⟩ := List.mem_map.mp (Settings.knownSections_eq ▸ hname)
      obtain ⟨o, hon, has⟩ := ih hnames
      refine ⟨(ofSection s).union o, by simp only [ofNames, ofName?_word, hon, Except.map], ?_⟩
      intro part
      rw [has_union, Bool.or_eq_true, has_ofSection, has, List.mem_cons]

end Sections

namespace Settings

variable {given : GivenSettings} {s : Settings}

/-! ## What is accepted -/

theorem check_ok {α : Type} {field : String} {usual x : α}
    {accept : SettingValue → Except IssueCause α}
    (hcheck : check given field usual accept = .ok x) : x = usual ∨ ∃ v, accept v = .ok x := by
  unfold check at hcheck
  split at hcheck
  · cases hcheck
    exact .inl rfl
  · next v _ =>
    cases haccept : accept v with
    | ok y =>
        rw [haccept] at hcheck
        cases hcheck
        exact .inr ⟨v, haccept⟩
    | error cause =>
        rw [haccept] at hcheck
        cases hcheck

theorem acceptFullText_ok {v : SettingValue} {text : String}
    (haccept : v.acceptFullText = .ok text) : text ≠ "" := by
  simp only [SettingValue.acceptFullText, bind, Except.bind] at haccept
  split at haccept
  · cases haccept
  · split at haccept
    · cases haccept
    · next hempty =>
      cases haccept
      exact hempty

theorem acceptIntWithin_ok {v : SettingValue} {least greatest n : Int}
    (haccept : v.acceptIntWithin least greatest = .ok n) : least ≤ n ∧ n ≤ greatest := by
  simp only [SettingValue.acceptIntWithin, bind, Except.bind] at haccept
  split at haccept
  · cases haccept
  · split at haccept
    · cases haccept
    · split at haccept
      · cases haccept
      · cases haccept
        omega

theorem checkKnown_ok {names accepted : List String} (hcheck : checkKnown names = .ok accepted) :
    ∀ name ∈ accepted, name ∈ knownSections := by
  unfold checkKnown at hcheck
  split at hcheck
  · next hunknown =>
    cases hcheck
    intro name hname
    simpa using List.filter_eq_nil_iff.mp hunknown name hname
  · cases hcheck

theorem checkSections_ok {accepted : List String} (hcheck : checkSections given = .ok accepted) :
    ∀ name ∈ accepted, name ∈ knownSections := by
  unfold checkSections at hcheck
  split at hcheck
  · cases hcheck
    decide
  · next items _ =>
    cases hitems : checkItems sectionsField 0 items with
    | ok names =>
        rw [hitems] at hcheck
        exact checkKnown_ok hcheck
    | error issues =>
        rw [hitems] at hcheck
        cases hcheck
  · cases hcheck

/-- Every setting that is accepted has passed its check. -/
structure Checks (given : GivenSettings) (s : Settings) : Prop where
  language : check given "default_language" "Java" (·.acceptFullText) = .ok s.language
  classSections : checkSections given = .ok s.classSections
  fontFamily : check given "font_family" "Menlo" (·.acceptText) = .ok s.fontFamily
  fontSize : check given "font_size" 12 (·.acceptIntWithin 6 72) = .ok s.fontSize
  theme : check given "theme" none (·.acceptTextOrNull) = .ok s.theme
  parser : check given "parser" none (·.acceptTextOrNull) = .ok s.parser

theorem checks_of_ofGiven (hgiven : ofGiven given = .ok s) : Checks given s := by
  simp only [ofGiven] at hgiven
  split at hgiven
  · next hlanguage hsections hfamily hsize htheme hparser =>
    cases hgiven
    exact ⟨hlanguage, hsections, hfamily, hsize, htheme, hparser⟩
  · cases hgiven

/-- The settings name a language, a font size within its bounds and known sections. -/
structure Sound (s : Settings) : Prop where
  language : s.language ≠ ""
  least : 6 ≤ s.fontSize
  greatest : s.fontSize ≤ 72
  known : ∀ name ∈ s.classSections, name ∈ knownSections

theorem Checks.sound (checks : Checks given s) : s.Sound := by
  have hsize : 6 ≤ s.fontSize ∧ s.fontSize ≤ 72 := by
    rcases check_ok checks.fontSize with husual | ⟨v, haccept⟩
    · omega
    · exact acceptIntWithin_ok haccept
  refine ⟨?_, hsize.1, hsize.2, checkSections_ok checks.classSections⟩
  rcases check_ok checks.language with husual | ⟨v, haccept⟩
  · rw [husual]
    decide
  · exact acceptFullText_ok haccept

theorem ofGiven_of_settle {place : Option Path} {environment : GivenSettings}
    {read : Except Failure (GivenSettings × Bool)}
    (hsettle : settle place environment read = .ok s) : ∃ given, ofGiven given = .ok s := by
  rcases read with f | ⟨given, _ | _⟩
  · cases hsettle
  · cases hsettle
  · rw [settle] at hsettle
    split at hsettle
    · next hgiven =>
      cases hsettle
      exact ⟨_, hgiven⟩
    · cases hsettle

theorem sound_of_load {path : Option Path} {h : Host} (hload : ((load path).on h).1 = .ok s) :
    s.Sound := by
  have of_settle {place : Option Path} {read : Except Failure (GivenSettings × Bool)}
      (hsettle : settle place (ofEnvironment h) read = .ok s) : s.Sound := by
    obtain ⟨given, hgiven⟩ := ofGiven_of_settle hsettle
    exact (checks_of_ofGiven hgiven).sound
  rcases hpath : fileToRead h path with f | _ | p
  · rw [load_on_homeless hpath] at hload
    cases hload
  · rw [load_on_none hpath] at hload
    change settle none (ofEnvironment h) (.ok ([], true)) = .ok s at hload
    exact of_settle hload
  · obtain ⟨h', hon, -⟩ := load_on_some hpath
    rw [hon] at hload
    change settle (some p) (ofEnvironment h) (readFrom p (h.files.status p)) = .ok s at hload
    exact of_settle hload

end Settings

/-! ## Where the sections are looked up -/

/-- Opens a session as the viewer does, once it is known which sections are to be shown. -/
def Viewer.openShowing (sections : Sections) (path : Path) : HostedAct Viewer Session := do
  let settings := (← Act.own).settings
  let registry ← Act.onHost (Registry.builtin true)
  let (language, registry) ←
    Act.onHost (Act.carrying registry (Registry.pickLanguage (some settings.language)))
  let parser ← findParser
  Act.onHost (Session.«open» path parser { registry := some registry, language, sections })

theorem Viewer.openSession_showing {v : Viewer} {sections : Sections}
    (named : Sections.ofNames v.settings.classSections = .ok sections) (path : Path) (h : Host) :
    (openSession path).on (v, h) = (openShowing sections path).on (v, h) := by
  have hfound : (Act.ofExcept (.ok sections) : HostedAct Viewer Sections) = pure sections := rfl
  simp only [openSession, openShowing, Act.on_bind, Act.on_own, named, hfound, pure_bind]

theorem Shell.findSections_named {sh sh₁ : Shell} {h h₁ : Host} {s : Settings} {sections : Sections}
    (found : findSettings.on (sh, h) = (.ok s, sh₁, h₁))
    (named : Sections.ofNames s.classSections = .ok sections) :
    findSections.on (sh, h) = (.ok sections, sh₁, h₁) := by
  simp [findSections, found, named]

/-- Settings that are loaded can be used.  The sections that they name make up a set, with which
the viewer opens sessions, and the command that renders too, but for the switches of its own. -/
theorem Settings.accepted_usable {path : Option Path} {h : Host} {s : Settings}
    (accepted : ((load path).on h).1 = .ok s) :
    s.language ≠ "" ∧ 6 ≤ s.fontSize ∧ s.fontSize ≤ 72 ∧
    (∀ name ∈ s.classSections, name ∈ knownSections) ∧
    ∃ sections, Sections.ofNames s.classSections = .ok sections ∧
      (∀ part, sections.has part = true ↔ part.word ∈ s.classSections) ∧
      (∀ (v : Viewer) (k : Host) (file : Path), v.settings = s →
        (Viewer.openSession file).on (v, k) = (Viewer.openShowing sections file).on (v, k)) ∧
      ∀ (sh sh₁ : Shell) (k k₁ : Host), Shell.findSettings.on (sh, k) = (.ok s, sh₁, k₁) →
        ∀ (file : Path) (r : RenderRequest), (Shell.render file r).on (sh, k) =
          (Shell.withSession file r.language (sections.toggleAll r.switches)
            (Shell.printDocument r)).on (sh₁, k₁) := by
  have sound := sound_of_load accepted
  obtain ⟨sections, named, has⟩ := Sections.ofNames_of_known sound.known
  refine ⟨sound.language, sound.least, sound.greatest, sound.known, sections, named, has, ?_, ?_⟩
  · rintro v k file rfl
    exact Viewer.openSession_showing named file k
  · intro sh sh₁ k k₁ found file r
    exact Shell.render_on_ok (Shell.findSections_named found named) file r

namespace Settings

/-- The file `v` names a section twice, and the font size comes from the environment. -/
def repeatingHost : Host where
  files := .ofList [(⟨"", ["v"]⟩, some (.ofText "class_options: [methods, name, name]\n"))]
  environment := [("DV_FONT_SIZE", " 72 ")]

def repeatingSettings : Settings where
  classSections := ["methods", "name", "name"]
  fontSize := 72

theorem accepted_usable_repeating :
    ((load (some ⟨"", ["v"]⟩)).on repeatingHost).1 = .ok repeatingSettings ∧
    ∃ sections, Sections.ofNames ["methods", "name", "name"] = .ok sections ∧
      (∀ part, sections.has part = true ↔ part = .name ∨ part = .methods) ∧
      (∀ file, (Viewer.openSession file).on ({ settings := repeatingSettings }, repeatingHost) =
        (Viewer.openShowing sections file).on ({ settings := repeatingSettings }, repeatingHost)) ∧
      ∀ file r, (Shell.render file r).on ({ settings := some repeatingSettings }, repeatingHost) =
        (Shell.withSession file r.language (sections.toggleAll r.switches)
          (Shell.printDocument r)).on ({ settings := some repeatingSettings }, repeatingHost) := by
  have loads : ((load (some ⟨"", ["v"]⟩)).on repeatingHost).1.toOption =
      some repeatingSettings := by decide +kernel
  have accepted := eq_ok_of_toOption loads
  obtain ⟨-, -, -, -, sections, named, has, viewer, command⟩ := accepted_usable accepted
  refine ⟨accepted, sections, named, fun part => ?_, fun file => viewer _ _ file rfl,
    command _ _ _ _ rfl⟩
  rw [has]
  cases part <;> decide

end Settings

end BytecodeViewer
