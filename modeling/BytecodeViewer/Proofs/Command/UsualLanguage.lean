import BytecodeViewer.Command.Shell
import BytecodeViewer.Proofs.Session.Independence
import BytecodeViewer.Proofs.Settings.Loading
import BytecodeViewer.Proofs.Viewer.OpenSession

/-!
# The language that is usual

The settings say which language is used when none is asked for.  The viewer and the commands
open files with it, and the list of languages marks it, unless the plug-in that waits under
its name offers nothing.
-/

namespace BytecodeViewer

/-- A session is opened with a language.  Where an unknown renderer keeps it from opening, the
parser that has been found raised that, or the renderer of the language did. -/
def OpensWith (i : Installation) (name : String) (parser : Option Parser) :
    Except Failure Session → Prop
  | .ok s => s.pipeline.language = some name
  | .error f => f.family? = some .unknownRenderer →
    (∃ p, parser = some p ∧ p.Raises f) ∨ ∃ l, i.language? name = some l ∧ l.Raises f

section Installed

variable {i : Installation} {h : Host}

theorem OpenOptions.rendererOn?_usual {preferred : String} {sections : Sections} {k : Host}
    (on : i.On h) (made : k.renderers = h.renderers ++ Registry.freshRenderers) {r : Renderer}
    (hr : (usual h preferred sections).rendererOn? k = some r) :
    i.language? (Registry.usual h.plugins preferred) = some r.language := by
  have renderers : ({ k with renderers := k.renderers ++ [] } : Host).renderers =
      h.renderers ++ Registry.freshRenderers := by simp [made]
  have htaken := (usual h preferred sections).rendererOn?_language k
  rw [hr] at htaken
  exact ((Registry.owns_fresh on renderers).languages _).symm.trans htaken.symm

theorem Session.open_opensWith {source : Path} {parser : Parser} {preferred : String}
    {sections : Sections} {k k' : Host} {outcome : Except Failure Session} (on : i.On h)
    (made : k.renderers = h.renderers ++ Registry.freshRenderers)
    (sound : preferred = "" ∨ ¬Registry.WaitsInVain h.plugins preferred)
    (hon : (Session.«open» source parser (.usual h preferred sections)).on k = (outcome, k')) :
    OpensWith i (Registry.usual h.plugins preferred) (some parser) outcome := by
  cases outcome with
  | ok s => exact open_language hon
  | error f =>
      intro family
      have raised := open_raises (OpenOptions.usual_settled sound sections) hon family
      refine raised.imp (fun hraises => ⟨parser, rfl, hraises⟩) ?_
      rintro ⟨r, hr, hraises⟩
      exact ⟨r.language, OpenOptions.rendererOn?_usual on made hr, hraises⟩

theorem Viewer.openSession_opensWith {v : Viewer} (on : i.On h)
    (sound : v.settings.language = "" ∨ ¬Registry.WaitsInVain h.plugins v.settings.language)
    (path : Path) : OpensWith i (Registry.usual h.plugins v.settings.language)
      ((openSession path).on (v, h)).2.1.parser ((openSession path).on (v, h)).1 := by
  have opening := openSession_cases path v h
  rcases hon : (openSession path).on (v, h) with ⟨outcome, v', h'⟩
  rw [hon] at opening
  cases opening with
  | unready family rest => exact fun hfamily => absurd hfamily family
  | tried rest made hopen => exact Session.open_opensWith on made sound hopen

end Installed

namespace Shell

variable {sh : Shell} {h k : Host} {settings : Settings}

/-- The settings are the same once something has been shown or logged. -/
theorem findSettings_on (found : (findSettings.on (sh, h)).1 = .ok settings)
    (e : k.rest = h.rest) :
    ∃ k', findSettings.on (sh, k) = (.ok settings, { sh with settings := some settings }, k') ∧
      k'.rest = h.rest ∧ k'.renderers = k.renderers := by
  cases hsettings : sh.settings with
  | some s =>
      have hfound : findSettings.on (sh, h) = (.ok s, sh, h) := by
        simp [findSettings, hsettings]
      rw [hfound] at found
      cases found
      have hsame : sh = { sh with settings := some settings } := by rw [← hsettings]
      exact ⟨k, by rw [← hsame]; simp [findSettings, hsettings], e, rfl⟩
  | none =>
      obtain ⟨outcome, hload⟩ := Settings.load_on sh.config h
      obtain ⟨h', hon, -⟩ := hload h rfl
      obtain ⟨k', hon', hrest⟩ := hload k e
      have hrenderers := Settings.load_renderers sh.config k
      rw [hon'] at hrenderers
      cases outcome with
      | error f => simp [findSettings, hsettings, hon] at found
      | ok s =>
          simp only [findSettings, Act.on_bind, Act.on_own, hsettings, Act.on_onHost, hon,
            Act.on_setOwn, Act.on_pure] at found
          cases found
          refine ⟨k', ?_, hrest, hrenderers⟩
          simp [findSettings, hsettings, hon', Except.map]

theorem findParser_cases (hsettings : sh.settings = some settings) (k : Host) :
    (∃ f k', findParser.on (sh, k) = (.error f, sh, k') ∧ k'.rest = k.rest ∧
      f.family? = some .configuration) ∨
    ∃ parser k', findParser.on (sh, k) = (.ok parser, { sh with parser := some parser }, k') ∧
      k'.rest = k.rest ∧ k'.renderers = k.renderers := by
  cases hparser : sh.parser with
  | some p =>
      have hsame : sh = { sh with parser := some p } := by rw [← hparser]
      exact .inr ⟨p, k, by rw [← hsame]; simp [findParser, hparser], rfl, rfl⟩
  | none =>
      have hfound : findSettings.on (sh, k) = (.ok settings, sh, k) := by
        simp [findSettings, hsettings]
      obtain ⟨outcome, k', hfind, hrest, hrenderers⟩ := ParserLookup.find_on settings.parser k
      cases outcome with
      | ok p =>
          exact .inr ⟨p, k', by simp [findParser, hparser, hfound, hfind, Except.map], hrest,
            hrenderers⟩
      | error f =>
          exact .inl ⟨f, k', by simp [findParser, hparser, hfound, hfind], hrest,
            ParserLookup.find_family hfind⟩

theorem openSession_opensWith {i : Installation} (on : i.On h)
    (found : (findSettings.on (sh, h)).1 = .ok settings)
    (sound : settings.language = "" ∨ ¬Registry.WaitsInVain h.plugins settings.language)
    (file : Path) (sections : Sections) :
    OpensWith i (Registry.usual h.plugins settings.language)
      ((openSession file none sections).on (sh, h)).2.1.parser
      ((openSession file none sections).on (sh, h)).1 := by
  obtain ⟨h₁, hbuiltin, hrest₁, hrenderers₁⟩ := Registry.builtin_on h
  obtain ⟨h₂, hsettings, -, hrenderers₂⟩ := findSettings_on found hrest₁
  obtain ⟨h₃, hpick, -, hrenderers₃⟩ := Registry.pickLanguage_on_eq settings.language
    (Registry.fresh h.plugins h.renderers.length) h₂
  rw [Registry.picked_fresh] at hpick
  let sh' := { sh with settings := some settings }
  have hsettings' : sh'.settings = some settings := rfl
  rcases findParser_cases hsettings' h₃ with
    ⟨f, h₄, hfind, -, family⟩ | ⟨parser, h₄, hfind, -, hrenderers₄⟩
  · have hon : (openSession file none sections).on (sh, h) = (.error f, sh', h₄) := by
      simp [openSession, hbuiltin, hsettings, hpick, hfind, Except.map, sh']
    rw [hon]
    intro hfamily
    cases family.symm.trans hfamily
  · rcases hopen : (Session.«open» file parser
      (.usual h settings.language sections)).on h₄ with ⟨outcome, h'⟩
    have hon : (openSession file none sections).on (sh, h) =
        (outcome, { sh' with parser := some parser }, h') := by
      have hopen' : (Session.«open» file parser
          { registry := some (Registry.fresh h.plugins h.renderers.length),
            language := some (Registry.usual h.plugins settings.language),
            sections }).on h₄ = (outcome, h') := hopen
      simp [openSession, hbuiltin, hsettings, hpick, hfind, hopen', Except.map, sh']
    rw [hon]
    exact Session.open_opensWith on
      (hrenderers₄.trans (hrenderers₃.trans (hrenderers₂.trans hrenderers₁))) sound hopen

/-- The list of languages is printed with a mark at the usual one, which is in the list. -/
theorem listLanguages_on {i : Installation} (on : i.On h)
    (found : (findSettings.on (sh, h)).1 = .ok settings)
    (sound : settings.language = "" ∨ ¬Registry.WaitsInVain h.plugins settings.language) :
    ∃ names k, Registry.usual h.plugins settings.language ∈ names ∧
      listLanguages.on (sh, h) = (do
        listLanguages.printNames (some (Registry.usual h.plugins settings.language)) names
        return 0 : HostedAct Shell Int).on ({ sh with settings := some settings }, k) := by
  obtain ⟨h₁, hbuiltin, hrest₁, hrenderers⟩ := Registry.builtin_on h
  have owns := Registry.owns_fresh on hrenderers
  have offers := sound.imp_right fun hvain e
      (he : (Registry.fresh h.plugins h.renderers.length).pending? settings.language = some e) =>
    Registry.offers_of_not_vain hvain he
  obtain ⟨r, h₂, hloaded, hrest₂, hpicked, hmem⟩ :=
    Registry.loadedNames_picks owns.grounded owns.free offers (Registry.picked_fresh _)
  obtain ⟨h₃, hsettings, -, -⟩ := findSettings_on found (hrest₂.trans hrest₁)
  obtain ⟨h₄, hpick, -, -⟩ := Registry.pickLanguage_on_eq settings.language r h₃
  rw [hpicked] at hpick
  refine ⟨r.names, h₄, hmem, ?_⟩
  simp [listLanguages, hbuiltin, hloaded, hsettings, hpick, Except.map]

end Shell

namespace Installation

/-- A language is the one that is used where the settings prefer some language: it is picked
from a new registry, which resolves it, the viewer and the commands open files with it, and the
list of languages marks it. -/
structure UsualLanguage (i : Installation) (preferred name : String) : Prop where
  resolved : ∀ h, i.On h → ∃ r h₁ h₂ id r' h₃,
    (Registry.builtin true).on h = (.ok r, h₁) ∧
    (Registry.pickLanguage (some preferred)).on (r, h₁) = (.ok (some name), r, h₂) ∧
    (Registry.resolve name).on (r, h₂) = (.ok id, r', h₃)
  viewer : ∀ (v : Viewer) (h : Host) (path : Path), i.On h → v.settings.language = preferred →
    let result := (Viewer.openSession path).on (v, h)
    OpensWith i name result.2.1.parser result.1
  command : ∀ (sh : Shell) (h : Host) (settings : Settings) (file : Path) (sections : Sections),
    i.On h → (Shell.findSettings.on (sh, h)).1 = .ok settings → settings.language = preferred →
    let result := (Shell.openSession file none sections).on (sh, h)
    OpensWith i name result.2.1.parser result.1
  marked : ∀ (sh : Shell) (h : Host) (settings : Settings),
    i.On h → (Shell.findSettings.on (sh, h)).1 = .ok settings → settings.language = preferred →
    ∃ names k, name ∈ names ∧ Shell.listLanguages.on (sh, h) = (do
      Shell.listLanguages.printNames (some name) names
      return 0 : HostedAct Shell Int).on ({ sh with settings := some settings }, k)

variable {i : Installation} {preferred name : String}

theorem usualLanguage (sound : preferred = "" ∨ ¬Registry.WaitsInVain i.plugins preferred) :
    i.UsualLanguage preferred (Registry.usual i.plugins preferred) where
  resolved h on := by
    obtain ⟨h₁, hbuiltin, -, -⟩ := Registry.builtin_on h
    let r := Registry.fresh h.plugins h.renderers.length
    obtain ⟨h₂, hpick, -, -⟩ := Registry.pickLanguage_on_eq preferred r h₁
    rw [Registry.picked_fresh, on.plugins] at hpick
    have res := Registry.resolve_on (Registry.usual i.plugins preferred) r h₂
    rcases hresolve : (Registry.resolve (Registry.usual i.plugins preferred)).on (r, h₂) with
      ⟨outcome, r', h₃⟩
    rw [hresolve] at res
    have hresolves : r.resolves (Registry.usual i.plugins preferred) = true := by
      rw [← on.plugins] at sound ⊢
      exact Registry.resolves_usual sound
    rcases res.outcome_cases with ⟨-, id, rfl⟩ | ⟨hnot, -⟩
    · exact ⟨r, h₁, h₂, id, r', h₃, hbuiltin, hpick, hresolve⟩
    · cases hresolves.symm.trans hnot
  viewer v h path on hv := by
    subst hv
    rw [← on.plugins] at sound ⊢
    exact Viewer.openSession_opensWith on sound path
  command sh h settings file sections on found hsettings := by
    subst hsettings
    rw [← on.plugins] at sound ⊢
    exact Shell.openSession_opensWith on found sound file sections
  marked sh h settings on found hsettings := by
    subst hsettings
    rw [← on.plugins] at sound ⊢
    exact Shell.listLanguages_on on found sound

/-- A language that waits in vain is picked all the same. -/
theorem UsualLanguage.sound (usual : i.UsualLanguage preferred name) :
    preferred = "" ∨ ¬Registry.WaitsInVain i.plugins preferred := by
  by_cases hempty : preferred = ""
  · exact .inl hempty
  · refine .inr fun vain => ?_
    obtain ⟨r, h₁, h₂, id, r', h₃, hbuiltin, hpick, hresolve⟩ :=
      usual.resolved i.newHost i.on_newHost
    obtain ⟨k₁, hbuiltin', -, -⟩ := Registry.builtin_on i.newHost
    obtain ⟨rfl, rfl⟩ : r = Registry.fresh i.plugins i.newHost.renderers.length ∧ h₁ = k₁ := by
      have hboth := Prod.mk.inj (hbuiltin.symm.trans hbuiltin')
      exact ⟨Except.ok.inj hboth.1, hboth.2⟩
    obtain ⟨k₂, hpick', -, -⟩ := Registry.pickLanguage_on_eq preferred
      (Registry.fresh i.plugins i.newHost.renderers.length) h₁
    obtain ⟨hname, hnot⟩ :=
      Registry.usual_of_vain (n := i.newHost.renderers.length) vain hempty
    rw [Registry.picked_fresh, hname] at hpick'
    obtain rfl : name = preferred := by
      simpa using congrArg Prod.fst (hpick.symm.trans hpick')
    have res := Registry.resolve_on name
      (Registry.fresh i.plugins i.newHost.renderers.length) h₂
    rw [hresolve] at res
    rcases res.outcome_cases with ⟨hresolves, -⟩ | ⟨-, hfailed⟩
    · cases hnot.symm.trans hresolves
    · cases hfailed

/-- One language is usual exactly if the one that is preferred does not wait in vain. -/
theorem exists_usualLanguage_iff (i : Installation) (preferred : String) :
    (∃ name, i.UsualLanguage preferred name) ↔
      preferred = "" ∨ ¬Registry.WaitsInVain i.plugins preferred :=
  ⟨fun ⟨_, usual⟩ => usual.sound, fun sound => ⟨_, usualLanguage sound⟩⟩

theorem smali_has_no_usualLanguage : ¬∃ name, smali.UsualLanguage "Smali" name := by
  rintro ⟨name, usual⟩
  have vain : Registry.WaitsInVain smali.plugins "Smali" := ⟨_, rfl, rfl⟩
  rcases usual.sound with hempty | hsound
  · exact absurd hempty (by decide)
  · exact hsound vain

end Installation

end BytecodeViewer
