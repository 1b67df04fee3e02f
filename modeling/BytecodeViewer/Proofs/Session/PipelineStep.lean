import BytecodeViewer.Session.Pipeline
import BytecodeViewer.Proofs.Plugin.Resolution
import BytecodeViewer.Proofs.Render.ClassCache

/-!
# What one call does to a pipeline and its host

A call uses and binds one renderer at most, the one that the pipeline has afterwards.
-/

namespace BytecodeViewer.Pipeline

/-- Of the renderers that are there, only the one in use may be bound anew or remember
other classes. -/
structure UsesCurrent (p : Pipeline) (h h' : Host) : Prop where
  others : ∀ id < h.renderers.length, p.renderer ≠ some id → h'.renderer? id = h.renderer? id
  current : ∀ id r, p.renderer = some id → h.renderer? id = some r →
    ∃ r', h'.renderer? id = some r' ∧ r'.language = r.language ∧
      (r'.bound = r.bound ∨ r'.bound = p.model)

namespace UsesCurrent

variable {p : Pipeline} {h h' h'' : Host}

theorem of_kept (kept : ∀ id < h.renderers.length, h'.renderer? id = h.renderer? id) :
    UsesCurrent p h h' where
  others id hid _ := kept id hid
  current id r _ hr := ⟨r, by rw [kept id (Host.lt_of_renderer? hr), hr], rfl, .inl rfl⟩

theorem of_set {id : RendererId} {r r' : Renderer} (hid : p.renderer = some id)
    (hr : h.renderer? id = some r) (hset : h'.renderers = h.renderers.set id r')
    (hlanguage : r'.language = r.language) (hbound : r'.bound = r.bound ∨ r'.bound = p.model) :
    UsesCurrent p h h' where
  others other _ hne := by
    have hne' : id ≠ other := fun e => hne (e ▸ hid)
    simp [Host.renderer?, hset, List.getElem?_set_ne hne']
  current other r₀ hother hr₀ := by
    obtain rfl : id = other := Option.some.inj (hid.symm.trans hother)
    obtain rfl : r = r₀ := Option.some.inj (hr.symm.trans hr₀)
    have hlt := Host.lt_of_renderer? hr
    exact ⟨r', by simp [Host.renderer?, hset, hlt], hlanguage, hbound⟩

theorem keepsLanguages (u : UsesCurrent p h h') : h.KeepsLanguages h' := by
  intro id hid
  by_cases hp : p.renderer = some id
  · obtain ⟨r, hr⟩ : ∃ r, h.renderer? id = some r := ⟨_, List.getElem?_eq_getElem hid⟩
    obtain ⟨r', hr', hlanguage, -⟩ := u.current id r hp hr
    simp [Host.languageOf?, hr, hr', hlanguage]
  · simp [Host.languageOf?, u.others id hid hp]

theorem trans (u : UsesCurrent p h h') (u' : UsesCurrent p h' h'') : UsesCurrent p h h'' where
  others id hid hne := by
    rw [u'.others id (Nat.lt_of_lt_of_le hid u.keepsLanguages.length_le) hne,
      u.others id hid hne]
  current id r hid hr := by
    obtain ⟨r', hr', hlanguage, hbound⟩ := u.current id r hid hr
    obtain ⟨r'', hr'', hlanguage', hbound'⟩ := u'.current id r' hid hr'
    refine ⟨r'', hr'', hlanguage'.trans hlanguage, ?_⟩
    rcases hbound' with hbound' | hbound'
    · simpa [hbound'] using hbound
    · exact .inr hbound'

theorem of_renderers {k k' : Host} (u : UsesCurrent p h h') (hk : k.renderers = h.renderers)
    (hk' : k'.renderers = h'.renderers) : UsesCurrent p k k' := by
  have hfound (id : RendererId) : k.renderer? id = h.renderer? id := by
    simp only [Host.renderer?, hk]
  have hfound' (id : RendererId) : k'.renderer? id = h'.renderer? id := by
    simp only [Host.renderer?, hk']
  refine ⟨?_, ?_⟩
  · intro id hid hne
    rw [hfound, hfound']
    exact u.others id (hk ▸ hid) hne
  · intro id r hid hr
    rw [hfound']
    exact u.current id r hid ((hfound id).symm.trans hr)

theorem congr {p' : Pipeline} (u : UsesCurrent p h h') (hrenderer : p'.renderer = p.renderer)
    (hmodel : p'.model = p.model) : UsesCurrent p' h h' where
  others id hid hne := u.others id hid (hrenderer ▸ hne)
  current id r hid hr := by
    rw [hmodel]
    exact u.current id r (hrenderer ▸ hid) hr

end UsesCurrent

/-! ## Rendering and setting -/

/-- The document of a text that has been rendered, with its colours. -/
def drawn (highlighter : Highlighter) (rules : List HighlightRule)
    (text : Except Failure String) : Except Failure Document :=
  match text with
  | .error f => .error f
  | .ok text => (highlighter text rules).map fun spans => ⟨text, spans⟩

def shown (outcome : Except Failure Document) : Document :=
  outcome.toOption.getD .empty

theorem noteIdleRules_on (rules : List HighlightRule) (h : Host) :
    ∃ h', (noteIdleRules rules).on h = (.ok (), h') ∧ h'.rest = h.rest ∧
      h'.renderers = h.renderers := by
  induction rules generalizing h with
  | nil => exact ⟨h, rfl, rfl, rfl⟩
  | cons rule rules ih =>
      cases hidle : rule.colorsNothing with
      | true =>
          obtain ⟨h', hon, hrest, hrenderers⟩ := ih (h.logged "dv_core.highlight" .debug
            ("Highlight rule " ++ Text.quoted rule.pattern.source ++ " has no capture group"))
          refine ⟨h', ?_, by simpa using hrest, hrenderers⟩
          simp [noteIdleRules, hidle, hon]
      | false =>
          obtain ⟨h', hon, hrest, hrenderers⟩ := ih h
          refine ⟨h', ?_, hrest, hrenderers⟩
          simp [noteIdleRules, hidle, hon]

theorem renderText_on {id : RendererId} {r : Renderer} {h : Host} (hr : h.renderer? id = some r)
    (o : Sections) (s : Selection) :
    (renderText id o s).on h = ((r.render (h.model? r.bound) o s).1,
      h.setRenderer id (r.render (h.model? r.bound) o s).2) := by
  cases s with
  | wholeClass c => simp [renderText, Host.useRenderer, hr, Renderer.render]
  | method c k => simp [renderText, Host.useRenderer, hr, Renderer.render]
  | unsupported text =>
      simp [renderText, Renderer.render, Host.setRenderer_self hr]

theorem renderSelection_on {id : RendererId} {r : Renderer} {h : Host}
    (hr : h.renderer? id = some r) (p : Pipeline) (s : Selection) :
    ∃ h', (p.renderSelection id s).on h =
        (drawn p.highlighter p.rules (r.render (h.model? r.bound) p.sections s).1, h') ∧
      h'.rest = h.rest ∧
      h'.renderers = h.renderers.set id (r.render (h.model? r.bound) p.sections s).2 := by
  simp only [renderSelection, Act.on_bind, renderText_on hr]
  rcases r.render (h.model? r.bound) p.sections s with ⟨text, r'⟩
  cases text with
  | error f => exact ⟨_, rfl, rfl, rfl⟩
  | ok text =>
      cases hspans : p.highlighter text p.rules with
      | error f => exact ⟨h.setRenderer id r', by simp [hspans, drawn, Except.map], rfl, rfl⟩
      | ok spans =>
          obtain ⟨h', hon, hrest, hrenderers⟩ := noteIdleRules_on p.rules (h.setRenderer id r')
          exact ⟨h', by simp [hspans, hon, drawn, Except.map], hrest, hrenderers⟩

theorem render_idle_on {p : Pipeline} (hidle : p.selection = none ∨ p.renderer = none)
    (h : Host) : render.on (p, h) = (.ok .empty, { p with document := .empty }, h) := by
  cases hs : p.selection with
  | none => simp [render, hs, Except.map]
  | some s =>
      have hnone : p.renderer = none := by simpa [hs] using hidle
      simp [render, hs, hnone, Except.map]

theorem render_on {p : Pipeline} {s : Selection} {id : RendererId} {r : Renderer} {h : Host}
    (hs : p.selection = some s) (hid : p.renderer = some id) (hr : h.renderer? id = some r) :
    let rendered := r.render (h.model? r.bound) p.sections s
    let outcome := drawn p.highlighter p.rules rendered.1
    ∃ h', render.on (p, h) = (outcome, { p with document := shown outcome }, h') ∧
      h'.rest = h.rest ∧ h'.renderers = h.renderers.set id rendered.2 := by
  have hr' : (h.within [("language", p.language),
      ("selection", some (Selection.describe (some s)))]).renderer? id = some r := hr
  obtain ⟨h', hon, hrest, hrenderers⟩ := renderSelection_on hr' p s
  rw [Host.model?_within] at hon hrenderers
  cases hdrawn : drawn p.highlighter p.rules (r.render (h.model? r.bound) p.sections s).1 with
  | ok document =>
      refine ⟨(h'.logged channel .debug ("Rendered " ++ toString document.text.length ++
        " chars with " ++ toString document.spans.length ++ " spans")).rebound h.log.bound,
        ?_, Host.rest_rebound (by rw [Host.rest_logged, hrest]), hrenderers⟩
      simp [render, hs, hid, hon, hdrawn, shown, Except.toOption, Except.map]
  | error f =>
      refine ⟨(h'.logged channel .warning ("Render failed for " ++
        Selection.describe (some s) ++ " with " ++ p.language.getD "None") true).rebound
        h.log.bound, ?_, Host.rest_rebound (by rw [Host.rest_logged, hrest]), hrenderers⟩
      simp [render, hs, hid, hon, hdrawn, shown, Except.toOption]

/-! ## Taking and binding renderers -/

def inLanguage (p : Pipeline) (registry : Registry) (name : String) (id : RendererId)
    (rules : List HighlightRule) : Pipeline :=
  { p with registry, language := some name, renderer := some id, rules }

section Found

variable {p : Pipeline} {name : String} {id : RendererId} {r : Renderer} {registry : Registry}
  {h h₁ : Host} {f : Failure}

theorem setLanguage_on_error
    (hresolve : (Registry.resolve name).on (p.registry, h) = (.error f, registry, h₁)) :
    (setLanguage name).on (p, h) = (.error f, { p with registry }, h₁) := by
  simp [setLanguage, onRegistry, hresolve]

/-- Once a renderer has been found and taken into use, switching the language ends with
rendering. -/
theorem setLanguage_on_taken
    (hresolve : (Registry.resolve name).on (p.registry, h) = (.ok id, registry, h₁))
    (hr : h₁.renderer? id = some r)
    (taken : r.language.taking (h₁.model? r.bound) (h₁.model? p.model) = .ok ()) :
    ∃ h₂, (setLanguage name).on (p, h) =
        render.on (p.inLanguage registry name id r.language.rules, h₂) ∧
      h₂.rest = h₁.rest ∧ h₂.renderers = h₁.renderers.set id (r.bind p.model) := by
  have hbind := Host.on_bindRenderer hr p.model
  rw [Renderer.tryBind_eq (Language.binding_of_taking taken)] at hbind
  have hrules := Host.on_rulesOf_bind hr p.model
  rw [Renderer.rules_eq (Language.rulesFault?_of_taking taken)] at hrules
  refine ⟨(h₁.setRenderer id (r.bind p.model)).logged channel .debug
    ("Output language set to " ++ name), ?_, by simp, by simp⟩
  simp [setLanguage, onRegistry, hresolve, hbind, hrules, inLanguage]

/-- If the renderer cannot be bound or does not give its rules, the document stays, and so do
the rules. -/
theorem setLanguage_on_refused
    (hresolve : (Registry.resolve name).on (p.registry, h) = (.ok id, registry, h₁))
    (hr : h₁.renderer? id = some r)
    (refused : r.language.taking (h₁.model? r.bound) (h₁.model? p.model) = .error f) :
    ∃ p' h₂, (setLanguage name).on (p, h) = (.error f, p', h₂) ∧ h₂.rest = h₁.rest ∧
      h₂.renderers.length = h₁.renderers.length ∧ (p' = { p with registry } ∨
        p' = { p with registry, language := some name, renderer := some id }) := by
  have hbind := Host.on_bindRenderer hr p.model
  rw [Renderer.tryBind_fst] at hbind
  cases hbinding : r.language.binding (h₁.model? r.bound) (h₁.model? p.model) with
  | error g =>
      simp only [Language.taking, hbinding] at refused
      cases refused
      rw [hbinding] at hbind
      refine ⟨{ p with registry }, h₁.setRenderer id
        (r.tryBind (h₁.model? r.bound) p.model (h₁.model? p.model)).2, ?_, rfl, by simp, .inl rfl⟩
      simp [setLanguage, onRegistry, hresolve, hbind]
  | ok _ =>
      rw [hbinding, Renderer.tryBind_eq hbinding] at hbind
      have hrules := Host.on_rulesOf_bind hr p.model
      cases hfault : r.language.rulesFault? (h₁.model? p.model) with
      | none => simp [Language.taking, hbinding, hfault] at refused
      | some g =>
          simp only [Language.taking, hbinding, hfault] at refused
          cases refused
          rw [Renderer.rules_eq_error hfault] at hrules
          refine ⟨{ p with registry, language := some name, renderer := some id },
            h₁.setRenderer id (r.bind p.model), ?_, rfl, by simp, .inr rfl⟩
          simp [setLanguage, onRegistry, hresolve, hbind, hrules]

end Found

/-- What taking the renderer of a name into use comes to, if there is one. -/
def taking (p : Pipeline) (name : String) (h : Host) : Except Failure Unit :=
  match p.registry.rendererFor? h name with
  | some r => r.language.taking (h.model? r.bound) (h.model? p.model)
  | none => .ok ()

theorem taking_of_resolved {p : Pipeline} {name : String} {id : RendererId} {r : Renderer}
    {registry : Registry} {h h₁ : Host}
    (res : Registry.Resolution name p.registry h (.ok id, registry, h₁))
    (hr : h₁.renderer? id = some r) :
    p.taking name h = r.language.taking (h₁.model? r.bound) (h₁.model? p.model) := by
  have hfound : p.registry.rendererFor? h name = some r := res.renderer?_found.symm.trans hr
  simp only [taking, hfound, Host.rest_model? res.rest_eq]

theorem taking_of_unresolved {p : Pipeline} {name : String} {h : Host}
    (unresolved : p.registry.resolves name = false) : p.taking name h = .ok () := by
  have hnone : p.registry.rendererFor? h name = none := by
    simp only [Registry.resolves, Bool.or_eq_false_iff, Option.isSome_eq_false_iff,
      Option.isNone_iff_eq_none] at unresolved
    obtain ⟨hfree, hwaits⟩ := unresolved
    cases hp : p.registry.pending? name with
    | none => simp [Registry.rendererFor?, hfree, hp]
    | some e => cases hoffer : e.offer <;> simp_all [Registry.rendererFor?]
  simp only [taking, hnone]

/-- All that can come of switching the language with nothing selected. -/
inductive IdleSwitch (name : String) (p : Pipeline) (h : Host) :
    Except Failure Document × Pipeline × Host → Prop
  | unknown {p' : Pipeline} {h' : Host} (resolves : p.registry.resolves name = false)
      (rest : h'.rest = h.rest) :
      IdleSwitch name p h (.error (.noRenderer name p.registry.names), p', h')
  | refused {f : Failure} {p' : Pipeline} {h' : Host} (resolves : p.registry.resolves name = true)
      (taking : p.taking name h = .error f) (rest : h'.rest = h.rest) :
      IdleSwitch name p h (.error f, p', h')
  | switched {registry : Registry} {id : RendererId} {rules : List HighlightRule} {h' : Host}
      (resolves : p.registry.resolves name = true) (taking : p.taking name h = .ok ())
      (bound : h'.renderer? id = (p.registry.rendererFor? h name).map (·.bind p.model))
      (rest : h'.rest = h.rest) :
      IdleSwitch name p h
        (.ok .empty, { p.inLanguage registry name id rules with document := .empty }, h')

theorem setLanguage_idle_on (p : Pipeline) (hs : p.selection = none) (name : String) (h : Host) :
    IdleSwitch name p h ((setLanguage name).on (p, h)) := by
  have res := Registry.resolve_on name p.registry h
  rcases hresolve : (Registry.resolve name).on (p.registry, h) with ⟨outcome, registry, h₁⟩
  rw [hresolve] at res
  rcases res.outcome_cases with ⟨resolves, id, rfl⟩ | ⟨resolves, rfl⟩
  · have hfound := res.renderer?_found
    have idle (rules : List HighlightRule) (k : Host) :=
      render_idle_on (p := p.inLanguage registry name id rules) (.inl hs) k
    cases hr : h₁.renderer? id with
    | none =>
        have taken : p.taking name h = .ok () := by simp [taking, ← hfound, hr]
        have hon : (setLanguage name).on (p, h) = render.on (p.inLanguage registry name id [],
            h₁.logged channel .debug ("Output language set to " ++ name)) := by
          simp [setLanguage, onRegistry, hresolve, Host.bindRenderer, Host.rulesOf, hr, inLanguage]
        rw [hon, idle]
        refine .switched resolves taken ?_ ((Host.rest_logged ..).trans res.rest_eq)
        rw [← hfound, hr]
        exact hr
    | some r =>
        have htaking := taking_of_resolved res hr
        cases htaken : r.language.taking (h₁.model? r.bound) (h₁.model? p.model) with
        | ok _ =>
            obtain ⟨h₂, hon, hrest, hrenderers⟩ := setLanguage_on_taken hresolve hr htaken
            rw [hon, idle]
            refine .switched resolves (htaking.trans htaken) ?_ (hrest.trans res.rest_eq)
            rw [← hfound, hr]
            simp [Host.renderer?, hrenderers, Host.lt_of_renderer? hr]
        | error f =>
            obtain ⟨p', h₂, hon, hrest, -⟩ := setLanguage_on_refused hresolve hr htaken
            rw [hon]
            exact .refused resolves (htaking.trans htaken) (hrest.trans res.rest_eq)
  · rw [setLanguage_on_error hresolve]
    exact .unknown resolves res.rest_eq

/-- Setting a model fails only if the renderer in use cannot be bound to it; then the model is
set, and the selection and the document stay. -/
theorem setModel_on (p : Pipeline) (m : Option ModelId) (h : Host) :
    ∃ h', (setModel m).on (p, h) =
        (match h.binding p.renderer m with
        | .ok () => (.ok (), { p with model := m, selection := none, document := .empty }, h')
        | .error f => (.error f, { p with model := m }, h')) ∧
      h'.rest = h.rest ∧ UsesCurrent { p with model := m } h h' := by
  cases hid : p.renderer with
  | none => exact ⟨h, by simp [setModel, hid, Host.binding], rfl, .of_kept fun _ _ => rfl⟩
  | some id =>
      cases hr : h.renderer? id with
      | none =>
          refine ⟨h, ?_, rfl, .of_kept fun _ _ => rfl⟩
          simp [setModel, hid, Host.bindRenderer, Host.binding, hr]
      | some r =>
          have hbind := Host.on_bindRenderer hr m
          rw [Renderer.tryBind_fst] at hbind
          refine ⟨h.setRenderer id (r.tryBind (h.model? r.bound) m (h.model? m)).2, ?_, rfl,
            .of_set rfl hr rfl Renderer.tryBind_language Renderer.tryBind_bound⟩
          rw [Host.binding_of_renderer? hr]
          cases hbinding : r.language.binding (h.model? r.bound) (h.model? m) with
          | ok _ => simp [setModel, hid, hbind, hbinding]
          | error f => simp [setModel, hid, hbind, hbinding]

/-- A model that has been set is bound to the renderer, and nothing is selected in it. -/
theorem of_setModel_on {p p' : Pipeline} {m : Option ModelId} {h h' : Host}
    (hon : (setModel m).on (p, h) = (.ok (), p', h')) : h.binding p.renderer m = .ok () ∧
      p' = { p with model := m, selection := none, document := .empty } := by
  obtain ⟨h₁, hset, -⟩ := setModel_on p m h
  cases hbinding : h.binding p.renderer m with
  | ok _ =>
      rw [hbinding, hon] at hset
      cases hset
      exact ⟨rfl, rfl⟩
  | error f =>
      rw [hbinding, hon] at hset
      cases hset

end BytecodeViewer.Pipeline
