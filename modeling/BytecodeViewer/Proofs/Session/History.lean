import BytecodeViewer.Proofs.Session.Calls

/-!
# The document does not depend on the history

Between the calls of a pipeline others may use its host, as long as they bind neither its
renderer nor change the model that this is bound to.  Then the document is always the one
that is due for what is set at the time.
-/

namespace BytecodeViewer.Pipeline

/-- Others have left alone what a pipeline uses.  They may render with its renderer,
which then remembers more classes of its model. -/
structure Undisturbed (p : Pipeline) (h h' : Host) : Prop where
  languages : h.KeepsLanguages h'
  model : p.renderer.isSome → h'.model? p.model = h.model? p.model
  renderer : ∀ id r, p.renderer = some id → h.renderer? id = some r →
    ∃ r', h'.renderer? id = some r' ∧ Renderer.SameButKnown r r' ∧
      (r.KnownIn (h.model? p.model) → r'.KnownIn (h.model? p.model))

/-- Some calls, one after the other, and what others do in between. -/
inductive Run (p₀ : Pipeline) (h₀ : Host) : List Call → Pipeline → Host → Prop
  | start : Run p₀ h₀ [] p₀ h₀
  | call {calls : List Call} {p : Pipeline} {h : Host} (run : Run p₀ h₀ calls p h) (call : Call) :
      Run p₀ h₀ (calls ++ [call]) (call.act.on (p, h)).2.1 (call.act.on (p, h)).2.2
  | meanwhile {calls : List Call} {p : Pipeline} {h h' : Host} (run : Run p₀ h₀ calls p h)
      (undisturbed : Undisturbed p h h') : Run p₀ h₀ calls p h'

variable {languages : String → Option Language} {p p' : Pipeline} {h h' : Host}

theorem Effect.bound_after {call : Call} {outcome : Except Failure Document}
    (effect : Effect languages call p h outcome p' h') (coherent : Coherent languages p h)
    (bound : Bound p h) : Bound p' h' := by
  rcases effect.bound with hbound | ⟨hrenderer, hmodel⟩
  · exact hbound
  · intro id r' hid hr'
    obtain ⟨r, hr⟩ := coherent.exists_renderer (hrenderer ▸ hid)
    obtain ⟨r₁, hr₁, -, hor⟩ := effect.uses.current id r hid hr
    obtain rfl := Option.some.inj (hr₁.symm.trans hr')
    rcases hor with hsame | hnew
    · rw [hsame, hmodel]
      exact bound id r (hrenderer ▸ hid) hr
    · exact hnew

theorem Coherent.undisturbed (coherent : Coherent languages p h) (bound : Bound p h)
    (undisturbed : Undisturbed p h h') : Coherent languages p h' ∧ Bound p h' := by
  have bound' : Bound p h' := by
    intro id r' hid hr'
    obtain ⟨r, hr⟩ := coherent.exists_renderer hid
    obtain ⟨r₁, hr₁, same, -⟩ := undisturbed.renderer id r hid hr
    obtain rfl := Option.some.inj (hr₁.symm.trans hr')
    exact same.bound.trans (bound id r hid hr)
  refine ⟨coherent.transport undisturbed.languages undisturbed.model ?_, bound'⟩
  intro id r hid hr hrenders
  obtain ⟨r', hr', same, hknown⟩ := undisturbed.renderer id r hid hr
  refine ⟨r', hr', same.language, ?_⟩
  rw [bound' id r' hid hr', undisturbed.model (by simp [hid])]
  rw [bound id r hid hr] at hrenders
  exact hrenders.of_same same hknown

theorem Run.coherent {registry : Registry} {sections : Sections} {highlighter : Highlighter}
    {h₀ : Host} {calls : List Call} (grounded : registry.Grounded h₀)
    (cooperative : ∀ name l, registry.language? h₀ name = some l → l.Cooperative)
    (run : Run { registry, sections, highlighter } h₀ calls p h) :
    Coherent (registry.language? h₀) p h ∧ Bound p h ∧ p.highlighter = highlighter ∧
      p.inputs = calls.foldl (Inputs.after (registry.language? h₀)) { sections } := by
  induction run with
  | start => exact ⟨coherent_new grounded sections highlighter, by simp [Bound], rfl, rfl⟩
  | call run call ih =>
      obtain ⟨coherent, bound, hhighlighter, hinputs⟩ := ih
      obtain ⟨outcome, p', h', hon, effect⟩ :=
        coherent.effect call (coherent.binds cooperative call)
      rw [hon]
      refine ⟨effect.coherent, effect.bound_after coherent bound,
        effect.highlighter.trans hhighlighter, ?_⟩
      rw [effect.inputs, hinputs, List.foldl_append]
      rfl
  | meanwhile run undisturbed ih =>
      obtain ⟨coherent, bound, hhighlighter, hinputs⟩ := ih
      obtain ⟨coherent', bound'⟩ := coherent.undisturbed bound undisturbed
      exact ⟨coherent', bound', hhighlighter, hinputs⟩

/-- After any calls, the document is what a new renderer of the current language renders for
the current model, selection and sections, coloured by its rules.  It is empty if there is
nothing to render or rendering fails.  This takes renderers that let themselves be bound. -/
theorem document_of_run {registry : Registry} {sections : Sections} {highlighter : Highlighter}
    {h₀ : Host} {calls : List Call} (grounded : registry.Grounded h₀)
    (cooperative : ∀ name l, registry.language? h₀ name = some l → l.Cooperative)
    (run : Run { registry, sections, highlighter } h₀ calls p h) :
    p.inputs = calls.foldl (Inputs.after (registry.language? h₀)) { sections } ∧
      p.document =
        shown (p.inputs.due (registry.language? h₀) (h.model? p.model) highlighter) := by
  obtain ⟨coherent, -, hhighlighter, hinputs⟩ := run.coherent grounded cooperative
  refine ⟨hinputs, ?_⟩
  rw [coherent.document, due, hhighlighter]

def nameLanguage : Language where
  name := "Names"
  typeName := "NameRenderer"
  rules := []
  writer := .lines (fun c _ => .ok [c.name]) fun _ m _ _ => .ok [m.name]

def nameRegistry : Registry where
  renderers := [("Names", 0)]

def nameHost : Host where
  models := [{ model := Model.ofClasses [{ name := "A" }] }]
  renderers := [{ language := nameLanguage }]

theorem document_of_run_names :
    ∃ p h, nameRegistry.Grounded nameHost ∧
      (∀ name l, nameRegistry.language? nameHost name = some l → l.Cooperative) ∧
      Run { registry := nameRegistry } nameHost
        [.model (some 0), .language "Names", .selection (some (.wholeClass "A")),
          .language "Smali"] p h ∧
      p.document = shown (p.inputs.due (nameRegistry.language? nameHost) (h.model? p.model)
        p.highlighter) ∧
      p.document.text = "A\n" := by
  have grounded : nameRegistry.Grounded nameHost := by
    rintro id (⟨name, hid⟩ | ⟨name, e, he, -⟩)
    · simp only [nameRegistry, Registry.renderer?, List.lookup_cons, List.lookup_nil] at hid
      split at hid
      · cases hid
        decide
      · cases hid
    · cases he
  have cooperative (name : String) (l : Language)
      (hl : nameRegistry.language? nameHost name = some l) : l.Cooperative := by
    simp only [Registry.language?, nameRegistry, Registry.renderer?, List.lookup_cons,
      List.lookup_nil] at hl
    split at hl
    · next hid =>
      split at hid
      · cases hid
        cases hl
        exact ⟨fun _ _ => rfl, fun _ => rfl⟩
      · cases hid
    · cases hl
  have run := ((((Run.start : Run { registry := nameRegistry } nameHost [] _ _).call
    (.model (some 0))).call (.language "Names")).call (.selection (some (.wholeClass "A")))).call
    (.language "Smali")
  refine ⟨_, _, grounded, cooperative, run, (document_of_run grounded cooperative run).2, ?_⟩
  rfl

end BytecodeViewer.Pipeline
