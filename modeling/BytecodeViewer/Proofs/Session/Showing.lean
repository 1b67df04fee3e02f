import BytecodeViewer.Proofs.Session.PipelineStep

/-!
# What a pipeline shows

The document that is due depends on what is set in a pipeline alone.  Every call keeps
the pipeline coherent: the renderer in use renders for the current model, its rules are
known, and the document is the one that is due.
-/

namespace BytecodeViewer.Pipeline

structure Inputs where
  language : Option String := none
  model : Option ModelId := none
  selection : Option Selection := none
  sections : Sections := .standard

def inputs (p : Pipeline) : Inputs where
  language := p.language
  model := p.model
  selection := p.selection
  sections := p.sections

/-- The document that is due for some inputs: what a new renderer of the language
renders, coloured by its rules. -/
def Inputs.due (i : Inputs) (languages : String → Option Language) (m : Option LoadedModel)
    (highlighter : Highlighter) : Except Failure Document :=
  match i.selection, i.language.bind languages with
  | some s, some l => drawn highlighter l.rules (l.textOf m i.sections s)
  | _, _ => .ok .empty

def due (p : Pipeline) (languages : String → Option Language) (h : Host) :
    Except Failure Document :=
  p.inputs.due languages (h.model? p.model) p.highlighter

def renewed (p : Pipeline) (languages : String → Option Language) (h : Host) : Pipeline :=
  { p with document := shown (p.due languages h) }

/-! ## Coherent pipelines -/

/-- The renderer in use, if there is one, is that of the current language. -/
inductive Current (p : Pipeline) (h : Host) : Prop
  | idle (language : p.language = none) (renderer : p.renderer = none)
  | inUse {name : String} {id : RendererId} {r : Renderer} (language : p.language = some name)
      (renderer : p.renderer = some id) (named : p.registry.renderer? name = some id)
      (found : h.renderer? id = some r) (rules : p.rules = r.language.rules)
      (renders : r.RendersFor (h.model? r.bound) (h.model? p.model))

/-- The pipeline is ready to render; the document may be an old one. -/
structure Ready (languages : String → Option Language) (p : Pipeline) (h : Host) : Prop where
  grounded : p.registry.Grounded h
  names : ∀ name, p.registry.language? h name = languages name
  current : Current p h

structure Coherent (languages : String → Option Language) (p : Pipeline) (h : Host) : Prop
    extends Ready languages p h where
  document : p.document = shown (p.due languages h)

/-- The renderer in use is bound to the current model. -/
def Bound (p : Pipeline) (h : Host) : Prop :=
  ∀ id r, p.renderer = some id → h.renderer? id = some r → r.bound = p.model

/-! ## What calls do -/

variable {languages : String → Option Language} {p : Pipeline} {h : Host}

/-- The name of the current language stands for the language of the renderer in use. -/
theorem Ready.languages_eq {name : String} {id : RendererId} {r : Renderer}
    (ready : Ready languages p h) (hnamed : p.registry.renderer? name = some id)
    (hr : h.renderer? id = some r) : languages name = some r.language := by
  rw [← ready.names name]
  simp [Registry.language?, hnamed, Host.languageOf?, hr]

theorem drawn_eq_due {name : String} {id : RendererId} {r : Renderer} {s : Selection}
    (ready : Ready languages p h) (hs : p.selection = some s) (hlanguage : p.language = some name)
    (hnamed : p.registry.renderer? name = some id) (hr : h.renderer? id = some r)
    (hrules : p.rules = r.language.rules) :
    drawn p.highlighter p.rules (r.language.textOf (h.model? p.model) p.sections s) =
      p.due languages h := by
  have hname := ready.languages_eq hnamed hr
  simp only [due, Inputs.due, inputs, hs, hlanguage, Option.bind_some, hname, hrules]

theorem due_eq_empty (ready : Ready languages p h)
    (hidle : p.selection = none ∨ p.renderer = none) : p.due languages h = .ok .empty := by
  have hor : p.selection = none ∨ p.language = none := by
    rcases hidle with hs | hrenderer
    · exact .inl hs
    · cases ready.current with
      | idle hlanguage _ => exact .inr hlanguage
      | inUse _ hsome => simp [hrenderer] at hsome
  rcases hor with hs | hlanguage
  · simp [due, Inputs.due, inputs, hs]
  · cases hs : p.selection <;> simp [due, Inputs.due, inputs, hlanguage, hs]

theorem Ready.congr {p' : Pipeline} (ready : Ready languages p h)
    (hregistry : p'.registry = p.registry) (hlanguage : p'.language = p.language)
    (hrenderer : p'.renderer = p.renderer) (hrules : p'.rules = p.rules)
    (hmodel : p'.model = p.model) : Ready languages p' h := by
  refine ⟨hregistry ▸ ready.grounded, fun name => hregistry ▸ ready.names name, ?_⟩
  cases ready.current with
  | idle language renderer => exact .idle (hlanguage.trans language) (hrenderer.trans renderer)
  | inUse language renderer named found rules renders =>
      exact .inUse (hlanguage.trans language) (hrenderer.trans renderer)
        (hregistry ▸ named) found (hrules.trans rules) (hmodel ▸ renders)

theorem Ready.renewed (ready : Ready languages p h) :
    Coherent languages (p.renewed languages h) h :=
  ⟨ready.congr rfl rfl rfl rfl rfl, rfl⟩

theorem coherent_new {registry : Registry} (grounded : registry.Grounded h) (sections : Sections)
    (highlighter : Highlighter) :
    Coherent (registry.language? h) { registry, sections, highlighter } h :=
  ⟨⟨grounded, fun _ => rfl, .idle rfl rfl⟩, rfl⟩

/-- A pipeline stays coherent as long as its renderer renders for the same model. -/
theorem Coherent.transport {h' : Host} (coherent : Coherent languages p h)
    (k : h.KeepsLanguages h')
    (model : p.renderer.isSome → h'.model? p.model = h.model? p.model)
    (current : ∀ id r, p.renderer = some id → h.renderer? id = some r →
      r.RendersFor (h.model? r.bound) (h.model? p.model) →
      ∃ r', h'.renderer? id = some r' ∧ r'.language = r.language ∧
        r'.RendersFor (h'.model? r'.bound) (h.model? p.model)) :
    Coherent languages p h' := by
  have grounded := coherent.grounded.mono k
  have names (name : String) : p.registry.language? h' name = languages name := by
    rw [← coherent.names name]
    exact coherent.grounded.language?_eq k name
  cases coherent.current with
  | idle hlanguage hrenderer =>
      have ready : Ready languages p h' := ⟨grounded, names, .idle hlanguage hrenderer⟩
      refine ⟨ready, ?_⟩
      rw [coherent.document, due_eq_empty coherent.toReady (.inr hrenderer),
        due_eq_empty ready (.inr hrenderer)]
  | @inUse name id r hlanguage hrenderer hnamed hr hrules hrenders =>
      have hmodel := model (by simp [hrenderer])
      obtain ⟨r', hr', hlang, hrenders'⟩ := current id r hrenderer hr hrenders
      refine ⟨⟨grounded, names, ?_⟩, ?_⟩
      · refine .inUse hlanguage hrenderer hnamed hr' (hrules.trans (by rw [hlang])) ?_
        rw [hmodel]
        exact hrenders'
      · rw [coherent.document]
        simp only [due, hmodel]

theorem Coherent.of_same {h' : Host} (coherent : Coherent languages p h)
    (hrenderers : h'.renderers = h.renderers) (hmodels : h'.models = h.models) :
    Coherent languages p h' := by
  have hmodel (id : Option ModelId) : h'.model? id = h.model? id := by
    simp only [Host.model?, hmodels]
  have hrenderer (id : RendererId) : h'.renderer? id = h.renderer? id := by
    simp only [Host.renderer?, hrenderers]
  refine coherent.transport (fun id _ => by simp only [Host.languageOf?, hrenderer])
    (fun _ => hmodel p.model) ?_
  intro id r _ hr hrenders
  exact ⟨r, (hrenderer id).trans hr, rfl, (hmodel r.bound).symm ▸ hrenders⟩

/-- Without a model, a pipeline depends on the renderers alone. -/
theorem Coherent.of_renderers {h' : Host} (coherent : Coherent languages p h) (bound : Bound p h)
    (hmodel : p.model = none) (hrenderers : h'.renderers = h.renderers) :
    Coherent languages p h' := by
  have hrenderer (id : RendererId) : h'.renderer? id = h.renderer? id := by
    simp only [Host.renderer?, hrenderers]
  refine coherent.transport (fun id _ => by simp only [Host.languageOf?, hrenderer])
    (fun _ => by rw [hmodel]; rfl) ?_
  intro id r hid hr hrenders
  refine ⟨r, (hrenderer id).trans hr, rfl, ?_⟩
  rw [bound id r hid hr, hmodel] at hrenders ⊢
  exact hrenders

theorem Ready.exists_renderer (ready : Ready languages p h) {id : RendererId}
    (hid : p.renderer = some id) : ∃ r, h.renderer? id = some r := by
  cases ready.current with
  | idle _ hnone => simp [hnone] at hid
  | inUse _ hrenderer _ hr =>
      obtain rfl := Option.some.inj (hrenderer.symm.trans hid)
      exact ⟨_, hr⟩

theorem Ready.render (ready : Ready languages p h) :
    ∃ h', render.on (p, h) = (p.due languages h, p.renewed languages h, h') ∧
      Coherent languages (p.renewed languages h) h' ∧ h'.rest = h.rest ∧ UsesCurrent p h h' := by
  have of_idle (hidle : p.selection = none ∨ p.renderer = none) :
      ∃ h', Pipeline.render.on (p, h) = (p.due languages h, p.renewed languages h, h') ∧
        Coherent languages (p.renewed languages h) h' ∧ h'.rest = h.rest ∧
        UsesCurrent p h h' := by
    refine ⟨h, ?_, ready.renewed, rfl, .of_kept fun _ _ => rfl⟩
    rw [render_idle_on hidle, Pipeline.renewed, due_eq_empty ready hidle]
    rfl
  cases ready.current with
  | idle hlanguage hrenderer => exact of_idle (.inr hrenderer)
  | @inUse name id r hlanguage hrenderer hnamed hr hrules hrenders =>
      cases hs : p.selection with
      | none => exact of_idle (.inl hs)
      | some s =>
          obtain ⟨h', hon, hrest, hrenderers⟩ := render_on hs hrenderer hr
          obtain ⟨htext, hrenders'⟩ := hrenders.render p.sections s
          obtain ⟨hlang, hbound⟩ := r.render_same (h.model? r.bound) p.sections s
          rw [htext, drawn_eq_due ready hs hlanguage hnamed hr hrules] at hon
          have uses : UsesCurrent p h h' := .of_set hrenderer hr hrenderers hlang (.inl hbound)
          have hfound : h'.renderer? id = some (r.render (h.model? r.bound) p.sections s).2 := by
            simp [Host.renderer?, hrenderers, Host.lt_of_renderer? hr]
          have hmodel := Host.rest_model? hrest
          refine ⟨h', hon, ⟨⟨ready.grounded.mono uses.keepsLanguages, ?_, ?_⟩, ?_⟩, hrest, uses⟩
          · intro other
            rw [← ready.names other]
            exact ready.grounded.language?_eq uses.keepsLanguages other
          · refine .inUse hlanguage hrenderer hnamed hfound (hrules.trans (by rw [hlang])) ?_
            rw [hbound, hmodel, hmodel]
            exact hrenders'
          · simp only [due, hmodel]
            rfl

end BytecodeViewer.Pipeline
