import BytecodeViewer.Proofs.Session.Showing

/-!
# Calls of a pipeline

Whatever is called, in whatever order and whatever fails, the pipeline stays coherent,
and what is set in it is what the calls have set.
-/

namespace BytecodeViewer.Pipeline

inductive Call where
  | language (name : String)
  | selection (s : Option Selection)
  | model (m : Option ModelId)
  | sections (o : Sections)
  | render

/-- Runs a call.  One that gives no document counts as giving the empty one. -/
def Call.act : Call → HostedAct Pipeline Document
  | .language name => setLanguage name
  | .selection s => setSelection s
  | .model m => (fun _ => .empty) <$> setModel m
  | .sections o => setSections o
  | .render => Pipeline.render

/-- What is set once a call is over.  A name that stands for no language changes nothing. -/
def Inputs.after (languages : String → Option Language) (i : Inputs) : Call → Inputs
  | .language name => if (languages name).isSome then { i with language := some name } else i
  | .selection s => { i with selection := s }
  | .model m => { i with model := m, selection := none }
  | .sections o => { i with sections := o }
  | .render => i

/-- Why a call is refused, where some names are in use. -/
def Call.refusal? (languages : String → Option Language) (names : List String) :
    Call → Option Failure
  | .language name => if (languages name).isSome then none else some (.noRenderer name names)
  | _ => none

def Call.registry (call : Call) (r : Registry) (h : Host) : Registry :=
  match call with
  | .language name => ((Registry.resolve name).on (r, h)).2.1
  | _ => r

/-- The renderer that a call binds lets itself be bound, and gives its rules. -/
def Call.Binds (p : Pipeline) (h : Host) : Call → Prop
  | .language name => p.taking name h = .ok ()
  | .model m => h.binding p.renderer m = .ok ()
  | _ => True

def Call.SetsModel : Call → Prop
  | .model _ => True
  | _ => False

/-- Everything that a call does. -/
structure Effect (languages : String → Option Language) (call : Call) (p : Pipeline) (h : Host)
    (outcome : Except Failure Document) (p' : Pipeline) (h' : Host) : Prop where
  outcome_eq : outcome = match call.refusal? languages p.registry.names with
    | some f => .error f
    | none => p'.due languages h'
  inputs : p'.inputs = p.inputs.after languages call
  highlighter : p'.highlighter = p.highlighter
  registry : p'.registry = call.registry p.registry h
  coherent : Coherent languages p' h'
  rest : h'.rest = h.rest
  uses : UsesCurrent p' h h'
  /-- The renderer in use is bound to the current model, or it is what it was. -/
  bound : Bound p' h' ∨ (p'.renderer = p.renderer ∧ p'.model = p.model)

variable {languages : String → Option Language} {p : Pipeline} {h : Host}

theorem Call.reaches_registry (call : Call) {r : Registry} {id : RendererId}
    (hid : (call.registry r h).Reaches id) : r.Reaches id ∨ h.renderers.length ≤ id := by
  cases call with
  | language name => exact (Registry.resolve_on name r h).reaches hid
  | selection s => exact .inl hid
  | model m => exact .inl hid
  | sections o => exact .inl hid
  | render => exact .inl hid

/-- A call that is not refused ends with rendering. -/
theorem Effect.of_render {call : Call} {p₁ : Pipeline} {h₁ : Host}
    (hon : call.act.on (p, h) = Pipeline.render.on (p₁, h₁))
    (accepted : call.refusal? languages p.registry.names = none)
    (inputs : p₁.inputs = p.inputs.after languages call)
    (highlighter : p₁.highlighter = p.highlighter)
    (registry : p₁.registry = call.registry p.registry h) (ready : Ready languages p₁ h₁)
    (rest : h₁.rest = h.rest) (uses : UsesCurrent p₁ h h₁)
    (bound : Bound p₁ h₁ ∨ (p₁.renderer = p.renderer ∧ p₁.model = p.model)) :
    ∃ outcome p' h', call.act.on (p, h) = (outcome, p', h') ∧
      Effect languages call p h outcome p' h' := by
  obtain ⟨h', hrender, coherent, hrest, uses'⟩ := ready.render
  have hdue : (p₁.renewed languages h₁).due languages h' = p₁.due languages h₁ := by
    simp only [due, renewed, Host.rest_model? hrest]
    rfl
  refine ⟨_, _, h', hon.trans hrender, ?_⟩
  refine ⟨?_, inputs, highlighter, registry, coherent, hrest.trans rest,
    (uses.trans uses').congr rfl rfl, ?_⟩
  · rw [accepted, hdue]
  · refine bound.imp ?_ id
    intro bound id r' hid hr'
    cases ready.current with
    | idle _ hrenderer => simp [renewed, hrenderer] at hid
    | @inUse _ _ r _ hrenderer _ hr =>
        obtain rfl := Option.some.inj (hrenderer.symm.trans hid)
        obtain ⟨r₁, hr₁, -, hor⟩ := uses'.current _ r hrenderer hr
        obtain rfl := Option.some.inj (hr₁.symm.trans hr')
        exact hor.elim (fun e => e.trans (bound _ r hrenderer hr)) fun e => e

/-- Renderers of the language that a name stands for can be taken into use. -/
theorem Ready.taking_eq (ready : Ready languages p h) {name : String}
    (cooperative : ∀ l, languages name = some l → l.Cooperative) : p.taking name h = .ok () := by
  unfold taking
  cases hfound : p.registry.rendererFor? h name with
  | none => rfl
  | some r =>
      have hl : languages name = some r.language := by
        rw [← ready.names name, Registry.language?_eq_map, hfound, Option.map_some]
      exact (cooperative _ hl).taking _ _

/-- The renderer in use can be bound to any model. -/
theorem Ready.binding_eq (ready : Ready languages p h)
    (cooperative : ∀ name l, p.language = some name → languages name = some l → l.Cooperative)
    (m : Option ModelId) : h.binding p.renderer m = .ok () := by
  cases ready.current with
  | idle _ hrenderer => simp [Host.binding, hrenderer]
  | @inUse name _ r hlanguage hrenderer hnamed hr =>
      rw [hrenderer, Host.binding_of_renderer? hr]
      exact (cooperative name _ hlanguage (ready.languages_eq hnamed hr)).binding _ _

/-- With languages that let themselves be bound, every call can bind its renderer. -/
theorem Coherent.binds (coherent : Coherent languages p h)
    (cooperative : ∀ name l, languages name = some l → l.Cooperative) (call : Call) :
    call.Binds p h := by
  cases call with
  | language name => exact coherent.taking_eq (cooperative name)
  | model m => exact coherent.binding_eq (fun name l _ => cooperative name l) m
  | selection s => trivial
  | sections o => trivial
  | render => trivial

/-- A switch that succeeds with nothing selected has bound its renderer. -/
theorem binds_of_switched {name : String} {d : Document} {p' : Pipeline} {h' : Host}
    (hs : p.selection = none) (hon : (setLanguage name).on (p, h) = (.ok d, p', h')) :
    (Call.language name).Binds p h := by
  have switch := setLanguage_idle_on p hs name h
  rw [hon] at switch
  cases switch with
  | switched _ taking _ _ => exact taking

/-! ## Switching the language -/

section Resolved

variable {name : String} {outcome : Except Failure RendererId} {r' : Registry} {h₁ h₂ : Host}

/-- Resolving a name leaves a pipeline as it was, whatever comes of it. -/
theorem Coherent.resolved (coherent : Coherent languages p h)
    (res : Registry.Resolution name p.registry h (outcome, r', h₁)) :
    Coherent languages { p with registry := r' } h₁ := by
  have hmodel := Host.rest_model? res.rest_eq
  refine ⟨⟨res.grounded coherent.grounded,
    fun other => (res.language?_eq coherent.grounded other).trans (coherent.names other), ?_⟩, ?_⟩
  · cases coherent.current with
    | idle hlanguage hrenderer => exact .idle hlanguage hrenderer
    | inUse hlanguage hrenderer hnamed hr hrules hrenders =>
        refine .inUse hlanguage hrenderer (res.keeps hnamed)
          ((res.renderer?_eq (Host.lt_of_renderer? hr)).trans hr) hrules ?_
        rw [hmodel, hmodel]
        exact hrenders
  · rw [coherent.document]
    simp only [due, hmodel]
    rfl

/-- With a renderer of the name, bound to the current model, a pipeline is ready to render. -/
theorem Coherent.ready_inLanguage {id : RendererId} {r : Renderer}
    (coherent : Coherent languages p h)
    (res : Registry.Resolution name p.registry h (outcome, r', h₁))
    (hnamed : r'.renderer? name = some id)
    (keeps : UsesCurrent (p.inLanguage r' name id r.language.rules) h₁ h₂)
    (hr : h₂.renderer? id = some (r.bind p.model)) :
    Ready languages (p.inLanguage r' name id r.language.rules) h₂ := by
  have resolved := coherent.resolved res
  refine ⟨resolved.grounded.mono keeps.keepsLanguages, fun other => ?_, ?_⟩
  · exact (resolved.grounded.language?_eq keeps.keepsLanguages other).trans (resolved.names other)
  · exact .inUse rfl rfl hnamed hr rfl (.of_known_nil rfl _)

end Resolved

theorem Coherent.language_effect (coherent : Coherent languages p h) {name : String}
    (binds : (Call.language name).Binds p h) :
    ∃ outcome p' h', (Call.act (.language name)).on (p, h) = (outcome, p', h') ∧
      Effect languages (.language name) p h outcome p' h' := by
  have grounded := coherent.grounded
  have res := Registry.resolve_on name p.registry h
  rcases hresolve : (Registry.resolve name).on (p.registry, h) with ⟨outcome, r', h₁⟩
  rw [hresolve] at res
  have uses (p' : Pipeline) : UsesCurrent p' h h₁ := .of_kept fun _ hid => res.renderer?_eq hid
  rcases res.outcome_eq grounded with ⟨id, l, rfl, hnamed, hl, hlanguage⟩ | ⟨rfl, hlanguage⟩
  · obtain ⟨r, hr, rfl⟩ : ∃ r, h₁.renderer? id = some r ∧ r.language = l := by
      simpa [Host.languageOf?] using hl
    have hlanguages : languages name = some r.language := by
      rw [← coherent.names name, hlanguage]
    have taken : r.language.taking (h₁.model? r.bound) (h₁.model? p.model) = .ok () :=
      (taking_of_resolved res hr).symm.trans binds
    obtain ⟨h₂, hon, hrest, hrenderers⟩ := setLanguage_on_taken hresolve hr taken
    have hr₂ : h₂.renderer? id = some (r.bind p.model) := by
      simp [Host.renderer?, hrenderers, Host.lt_of_renderer? hr]
    have uses₂ : UsesCurrent (p.inLanguage r' name id r.language.rules) h₁ h₂ :=
      .of_set rfl hr hrenderers rfl (.inr rfl)
    refine Effect.of_render hon ?_ ?_ rfl ?_ (coherent.ready_inLanguage res hnamed uses₂ hr₂)
      (hrest.trans res.rest_eq) ((uses _).trans uses₂) (.inl ?_)
    · simp [Call.refusal?, hlanguages]
    · simp [inputs, Inputs.after, hlanguages, inLanguage]
    · simp [Call.registry, hresolve, inLanguage]
    · intro other r₀ hother hr₀
      obtain rfl := Option.some.inj hother
      obtain rfl := Option.some.inj (hr₂.symm.trans hr₀)
      rfl
  · have hlanguages : languages name = none := by
      rw [← coherent.names name, hlanguage]
    refine ⟨_, _, _, setLanguage_on_error hresolve, ?_, ?_, rfl, ?_, coherent.resolved res,
      res.rest_eq, uses _, .inr ⟨rfl, rfl⟩⟩
    · simp [Call.refusal?, hlanguages]
    · simp [inputs, Inputs.after, hlanguages]
    · simp [Call.registry, hresolve]

/-! ## The other calls -/

theorem Coherent.model_effect (coherent : Coherent languages p h) {m : Option ModelId}
    (binds : (Call.model m).Binds p h) :
    ∃ outcome p' h', (Call.act (.model m)).on (p, h) = (outcome, p', h') ∧
      Effect languages (.model m) p h outcome p' h' := by
  have document (p' : Pipeline) (hnone : p'.selection = none) (h' : Host) :
      p'.due languages h' = .ok .empty := by
    simp [due, Inputs.due, inputs, hnone]
  cases coherent.current with
  | idle hlanguage hrenderer =>
      refine ⟨.ok .empty, { p with model := m, selection := none, document := .empty }, h, ?_, ?_⟩
      · simp [Call.act, setModel, hrenderer, Except.map]
      · refine ⟨(document _ rfl h).symm, rfl, rfl, rfl, ⟨⟨coherent.grounded, coherent.names,
          .idle hlanguage hrenderer⟩, by rw [document _ rfl h]; rfl⟩, rfl,
          .of_kept fun _ _ => rfl, .inl ?_⟩
        simp [Bound, hrenderer]
  | @inUse name id r hlanguage hrenderer hnamed hr hrules hrenders =>
      have binding : r.language.binding (h.model? r.bound) (h.model? m) = .ok () := by
        rw [← Host.binding_of_renderer? hr, ← hrenderer]
        exact binds
      have hbind := Host.on_bindRenderer hr m
      rw [Renderer.tryBind_eq binding] at hbind
      refine ⟨.ok .empty, { p with model := m, selection := none, document := .empty },
        h.setRenderer id (r.bind m), ?_, ?_⟩
      · simp [Call.act, setModel, hrenderer, hbind, Except.map]
      · have hr' : (h.setRenderer id (r.bind m)).renderer? id = some (r.bind m) := by
          simp [Host.renderer?, Host.lt_of_renderer? hr]
        have uses : UsesCurrent { p with model := m, selection := none, document := .empty } h
            (h.setRenderer id (r.bind m)) := .of_set hrenderer hr rfl rfl (.inr rfl)
        refine ⟨(document _ rfl _).symm, rfl, rfl, rfl, ⟨⟨?_, ?_, ?_⟩, ?_⟩, rfl, uses, .inl ?_⟩
        · exact coherent.grounded.mono uses.keepsLanguages
        · intro other
          rw [← coherent.names other]
          exact coherent.grounded.language?_eq uses.keepsLanguages other
        · exact .inUse hlanguage hrenderer hnamed hr' hrules (.of_known_nil rfl _)
        · rw [document _ rfl _]
          rfl
        · intro other r₀ hother hr₀
          obtain rfl := Option.some.inj (hrenderer.symm.trans hother)
          obtain rfl := Option.some.inj (hr'.symm.trans hr₀)
          rfl

theorem Coherent.setModel_effect (coherent : Coherent languages p h) {m : Option ModelId}
    (binds : h.binding p.renderer m = .ok ()) :
    ∃ p' h', (setModel m).on (p, h) = (.ok (), p', h') ∧
      Effect languages (.model m) p h (.ok .empty) p' h' := by
  obtain ⟨h₁, hset, -⟩ := setModel_on p m h
  obtain ⟨outcome, p', h', hon, effect⟩ := coherent.model_effect binds
  rw [binds] at hset
  simp only [Call.act, Act.on_map, hset, Prod.mk.injEq] at hon
  obtain ⟨houtcome, hp, hh⟩ := hon
  subst hp hh
  refine ⟨_, _, hset, ?_⟩
  rw [← houtcome] at effect
  exact effect

/-- Every call keeps the pipeline coherent, and shows what is due. -/
theorem Coherent.effect (coherent : Coherent languages p h) (call : Call)
    (binds : call.Binds p h) :
    ∃ outcome p' h', call.act.on (p, h) = (outcome, p', h') ∧
      Effect languages call p h outcome p' h' := by
  cases call with
  | language name => exact coherent.language_effect binds
  | model m => exact coherent.model_effect binds
  | selection s =>
      have hon : (Call.act (.selection s)).on (p, h) =
          Pipeline.render.on ({ p with selection := s }, h) := by
        simp [Call.act, setSelection]
      exact Effect.of_render hon rfl rfl rfl rfl (coherent.toReady.congr rfl rfl rfl rfl rfl) rfl
        (.of_kept fun _ _ => rfl) (.inr ⟨rfl, rfl⟩)
  | sections o =>
      have hon : (Call.act (.sections o)).on (p, h) =
          Pipeline.render.on ({ p with sections := o }, h) := by
        simp [Call.act, setSections]
      exact Effect.of_render hon rfl rfl rfl rfl (coherent.toReady.congr rfl rfl rfl rfl rfl) rfl
        (.of_kept fun _ _ => rfl) (.inr ⟨rfl, rfl⟩)
  | render =>
      have hon : (Call.act .render).on (p, h) = Pipeline.render.on (p, h) := rfl
      exact Effect.of_render hon rfl rfl rfl rfl coherent.toReady rfl (.of_kept fun _ _ => rfl)
        (.inr ⟨rfl, rfl⟩)

end BytecodeViewer.Pipeline
