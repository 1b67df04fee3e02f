import BytecodeViewer.Proofs.Plugin.Installation
import BytecodeViewer.Proofs.Session.Neighbours

/-!
# Sessions that have just been opened

A session that is opened with a registry of its own is bound to its model, and uses nothing
that was there before but renderers that are shared.
-/

namespace BytecodeViewer

def OpenOptions.chosen (o : OpenOptions) : String :=
  o.language.getD "Java"

/-- What a session is to its user once it has been opened. -/
def View.opened (i : Installation) (o : OpenOptions) (m : LoadedModel) : View where
  languages := i.language?
  model := m
  names := Registry.namesAfter i.language? ["Java", "Dex"] o.chosen
  language := some o.chosen
  sections := o.sections

def OpenOptions.Own (i : Installation) (n : Nat) (o : OpenOptions) (h : Host) : Prop :=
  ∀ h₁ : Host, h₁.renderers = h.renderers ++ o.freshRenderers → i.Owns n (o.registryOn h) h₁

theorem OpenOptions.own_of_none {i : Installation} {o : OpenOptions} {h : Host} (on : i.On h)
    (hnone : o.registry = none) : o.Own i h.renderers.length h := by
  intro h₁ hrenderers
  simp only [OpenOptions.registryOn, hnone, Option.getD_none]
  simp only [OpenOptions.freshRenderers, hnone] at hrenderers
  exact Registry.owns_fresh on hrenderers

theorem OpenOptions.own_of_some {i : Installation} {o : OpenOptions} {h h₀ : Host} (on : i.On h)
    (hrenderers : h₀.renderers = h.renderers ++ Registry.freshRenderers)
    (hregistry : o.registry = some (Registry.fresh h.plugins h.renderers.length)) :
    o.Own i h.renderers.length h₀ := by
  intro h₁ hmade
  simp only [OpenOptions.registryOn, hregistry, Option.getD_some]
  simp only [OpenOptions.freshRenderers, hregistry, Option.isSome_some, if_true,
    List.append_nil] at hmade
  exact Registry.owns_fresh on (hmade.trans hrenderers)

namespace Pipeline.UsesCurrent

variable {p : Pipeline} {h h' : Host}

theorem of_bound (k : h.KeepsLanguages h')
    (others : ∀ id < h.renderers.length, p.renderer ≠ some id → h'.renderer? id = h.renderer? id)
    (bound : Bound p h') : UsesCurrent p h h' where
  others := others
  current id r hid hr := by
    have hsame := k id (Host.lt_of_renderer? hr)
    simp only [Host.languageOf?, hr, Option.map_some] at hsame
    obtain ⟨r', hr', hlanguage⟩ := Option.map_eq_some_iff.mp hsame
    exact ⟨r', hr', hlanguage, .inr (bound id r' hid hr')⟩

end Pipeline.UsesCurrent

namespace Session

/-- All there is to know about a session that has just been opened for a model. -/
structure Newly (i : Installation) (n : Nat) (o : OpenOptions) (m : LoadedModel) (h : Host)
    (s : Session) (h' : Host) : Prop where
  installed : (i.language? o.chosen).isSome
  follows : Follows (View.opened i o m) s h'
  bound : Pipeline.Bound s.pipeline h'
  uses : Pipeline.UsesCurrent s.pipeline h h'
  number : s.model = h.models.length
  models : h'.models = h.models ++ [m]
  plugins : h'.plugins = h.plugins
  openable : m.Openable
  serves : i.Serves n o.chosen s.pipeline.registry

variable {i : Installation} {n : Nat} {o : OpenOptions} {m : LoadedModel} {h h' : Host}

theorem Newly.secure {s : Session} (newly : Newly i n o m h s h') : Secure s.pipeline h' :=
  fun id r hid hr => .inl (newly.bound id r hid hr)

theorem Newly.safe {s : Session} (newly : Newly i n o m h s h') (cooperative : i.Cooperative) :
    Safe (View.opened i o m) s h' where
  follows := newly.follows
  secure := newly.secure
  openable := newly.openable
  cooperative := cooperative

theorem languageOn_eq {h₁ : Host} (owns : i.Owns n (o.registryOn h) h₁) :
    o.languageOn h = some o.chosen := by
  cases hlanguage : o.language <;>
    simp [OpenOptions.languageOn, OpenOptions.chosen, hlanguage, owns.names]

theorem languageSet_effect {h₁ h₂ : Host} {p : Pipeline} (owns : i.Owns n (o.registryOn h) h₁)
    (set : LanguageSet (o.pipelineOn h) h₁ (o.languageOn h) p h₂) :
    ∃ d, Pipeline.Effect i.language? (.language o.chosen) (o.pipelineOn h) h₁ (.ok d) p h₂ := by
  rw [languageOn_eq owns] at set
  cases set with
  | @some _ d _ _ hset =>
      have coherent : Pipeline.Coherent i.language? (o.pipelineOn h) h₁ := by
        have coherent := Pipeline.coherent_new owns.grounded o.sections
          (fun text rules => .ok (highlight text rules))
        rwa [funext owns.languages] at coherent
      obtain ⟨outcome, p', h', hon, effect⟩ := coherent.language_effect
        (Pipeline.binds_of_switched rfl hset)
      change (Pipeline.setLanguage o.chosen).on (o.pipelineOn h, h₁) = _ at hon
      rw [hset] at hon
      cases hon
      exact ⟨d, effect⟩

structure SetUp (i : Installation) (o : OpenOptions) (h h₁ : Host) (p₁ : Pipeline) (h₂ : Host)
    (id : ModelId) (p : Pipeline) (h₃ : Host) : Prop where
  before : h₁.renderers = h.renderers ++ o.freshRenderers
  language : ∃ d, Pipeline.Effect i.language? (.language o.chosen) (o.pipelineOn h) h₁ (.ok d) p₁ h₂
  model : Pipeline.Effect i.language? (.model (some id)) p₁ h₂ (.ok .empty) p h₃
  renderer : p.renderer = p₁.renderer

namespace SetUp

variable {h₁ h₂ h₃ : Host} {p₁ p : Pipeline} {id : ModelId}

theorem installed (setUp : SetUp i o h h₁ p₁ h₂ id p h₃) : (i.language? o.chosen).isSome := by
  obtain ⟨d, effect⟩ := setUp.language
  have houtcome := effect.outcome_eq
  cases hl : i.language? o.chosen with
  | none => simp [Pipeline.Call.refusal?, hl] at houtcome
  | some l => rfl

theorem inputs_before (setUp : SetUp i o h h₁ p₁ h₂ id p h₃) :
    p₁.inputs = ⟨some o.chosen, none, none, o.sections⟩ := by
  obtain ⟨d, effect⟩ := setUp.language
  rw [effect.inputs]
  simp [Pipeline.Inputs.after, setUp.installed, Pipeline.inputs, OpenOptions.pipelineOn]

theorem inputs (setUp : SetUp i o h h₁ p₁ h₂ id p h₃) :
    p.inputs = ⟨some o.chosen, some id, none, o.sections⟩ := by
  rw [setUp.model.inputs, setUp.inputs_before]
  rfl

theorem bound (setUp : SetUp i o h h₁ p₁ h₂ id p h₃) : Pipeline.Bound p h₃ := by
  rcases setUp.model.bound with bound | ⟨-, hsame⟩
  · exact bound
  · rw [show p.model = some id from congrArg (·.model) setUp.inputs,
      show p₁.model = none from congrArg (·.model) setUp.inputs_before] at hsame
    cases hsame

/-- Of the renderers that were there before, only the one in use is bound anew. -/
theorem uses (setUp : SetUp i o h h₁ p₁ h₂ id p h₃) : Pipeline.UsesCurrent p h h₃ := by
  obtain ⟨d, effect⟩ := setUp.language
  have made := Host.KeepsLanguages.of_append setUp.before
  refine .of_bound ((made.trans effect.uses.keepsLanguages).trans
    setUp.model.uses.keepsLanguages) ?_ setUp.bound
  intro other hother hne
  have hother₁ := Nat.lt_of_lt_of_le hother made.length_le
  have hother₂ := Nat.lt_of_lt_of_le hother₁ effect.uses.keepsLanguages.length_le
  rw [setUp.model.uses.others other hother₂ hne,
    effect.uses.others other hother₁ (setUp.renderer ▸ hne),
    Host.renderer?_of_append setUp.before hother]

theorem registry (setUp : SetUp i o h h₁ p₁ h₂ id p h₃) :
    p.registry = ((Registry.resolve o.chosen).on (o.registryOn h, h₁)).2.1 := by
  obtain ⟨d, effect⟩ := setUp.language
  exact setUp.model.registry.trans effect.registry

end SetUp

theorem Built.setUp {p : Pipeline} {renderers : List Renderer} {id : ModelId}
    {models : List LoadedModel} (own : o.Own i n h) (built : Built o h id models p renderers) :
    ∃ h₁ p₁ h₂ h₃, SetUp i o h h₁ p₁ h₂ id p h₃ ∧ i.Owns n (o.registryOn h) h₁ ∧
      h₃.models = models ∧ h₃.renderers = renderers := by
  obtain @⟨p₁, h₁, h₂, h₃, models_eq, before, language, model, after⟩ := built
  have owns := own h₁ before
  obtain ⟨d, effect⟩ := languageSet_effect owns language
  obtain ⟨binds, hp⟩ := Pipeline.of_setModel_on model
  obtain ⟨p', k, hon, effect'⟩ := effect.coherent.setModel_effect binds
  cases model.symm.trans hon
  refine ⟨h₁, p₁, h₂, h₃, ⟨before, ⟨d, effect⟩, effect', congrArg (·.renderer) hp⟩, owns,
    ?_, after⟩
  rw [Host.rest_models effect'.rest, Host.rest_models effect.rest, models_eq]

theorem Newly.of_built {source : Path} {temp : Option Path} {tree : ClassTree} {p : Pipeline}
    (own : o.Own i n h) (built : Built o h h.models.length (h.models ++ [m]) p h'.renderers)
    (models : h'.models = h.models ++ [m]) (plugins : h'.plugins = h.plugins)
    (openable : m.Openable) :
    Newly i n o m h ⟨source, h.models.length, temp, p, tree, false⟩ h' := by
  obtain ⟨h₁, p₁, h₂, h₃, setUp, owns, hmodels, hrenderers⟩ := built.setUp own
  obtain ⟨d, effect⟩ := setUp.language
  have serves : i.Serves n o.chosen p.registry := by
    rw [setUp.registry]
    exact owns.serves o.chosen
  refine ⟨setUp.installed, ?_, ?_, setUp.uses.of_renderers rfl hrenderers.symm, rfl, models,
    plugins, openable, serves⟩
  · exact ⟨setUp.model.coherent.of_same hrenderers.symm (models.trans hmodels.symm),
      setUp.model.highlighter.trans effect.highlighter, congrArg (·.language) setUp.inputs,
      congrArg (·.selection) setUp.inputs, congrArg (·.sections) setUp.inputs, serves.names, rfl,
      congrArg (·.model) setUp.inputs, fun _ => by simp [models, View.opened]⟩
  · intro id r hid hr
    refine setUp.bound id r hid ?_
    rw [← hr]
    simp only [Host.renderer?, hrenderers]

theorem Opening.newly {source : Path} {parser : Parser} {s : Session} (own : o.Own i n h)
    (opening : Opening source parser o h (.ok s, h')) :
    ∃ content m, BytecodeSource.Holds h.files source content s.temp.isSome ∧
      parser.parse content = .ok m ∧ TreeNode.ofModel m = .ok s.tree.roots ∧
      s.source = source ∧ Stored h.files s h' ∧ Newly i n o m h s h' := by
  cases opening with
  | @opened content m temp p roots _ holds parses _ _ _ _ _ tree inUse models _ plugins built =>
      refine ⟨content, m, holds, parses, tree, rfl, ?_, .of_built own built models plugins
        ⟨roots, tree⟩⟩
      simp only [Stored, Bool.false_eq_true, if_false]
      exact ⟨content, inUse⟩

/-- A file that is no archive can be opened if its bytecode can be parsed, the language is
installed, with renderers that let themselves be bound, and the tree of the model can be
made. -/
theorem open_plain (source : Path) (parser : Parser) {content : Bytes} (on : i.On h)
    (hnone : o.registry = none) (holds : BytecodeSource.Holds h.files source content false)
    (parses : parser.parse content = .ok m) (installed : (i.language? o.chosen).isSome)
    (cooperative : i.Cooperative) (openable : m.Openable) :
    ∃ s k, (Session.«open» source parser o).on h = (.ok s, k) ∧
      Stored h.files s k ∧ Newly i h.renderers.length o m h s k := by
  have own := OpenOptions.own_of_none on hnone
  have owns := own { h with renderers := h.renderers ++ o.freshRenderers } rfl
  have hfault : o.fault? h m = none := by
    obtain ⟨roots, tree⟩ := openable
    have hresolves := Registry.resolves_eq owns.grounded o.chosen
    rw [owns.languages, installed] at hresolves
    have hlanguage : o.languageOn (h.addModel m) = some o.chosen := languageOn_eq owns
    have hregistry : o.registryOn (h.addModel m) = o.registryOn h := rfl
    have hrenderer (r : Renderer) (hr : o.rendererOn? (h.addModel m) = some r) :
        i.language? o.chosen = some r.language := by
      have htaken := o.rendererOn?_language (h.addModel m)
      rw [hr, hlanguage] at htaken
      exact (owns.languages o.chosen).symm.trans htaken.symm
    have making := OpenOptions.making_of_cooperative
      (fun r hr => cooperative o.chosen _ (hrenderer r hr)) tree
    simp [OpenOptions.fault?, OpenOptions.refusal?, hlanguage, hregistry, Option.filter, hresolves,
      making]
  have opening := open_on source parser o h
  rcases hon : (Session.«open» source parser o).on h with ⟨outcome, k⟩
  rw [hon] at opening
  cases outcome with
  | ok s =>
      obtain ⟨content', m', holds', parses', -, -, stored, newly⟩ := opening.newly own
      obtain ⟨rfl, -⟩ := holds.unique holds'
      cases parses.symm.trans parses'
      exact ⟨s, k, rfl, stored, newly⟩
  | error f =>
      cases opening with
      | unlocated _ _ _ notPlain => exact absurd holds (notPlain _)
      | unparsed holds' parses' _ _ _ =>
          obtain ⟨rfl, -⟩ := holds.unique holds'
          cases parses.symm.trans parses'
      | undone holds' parses' fault _ _ _ _ =>
          obtain ⟨rfl, -⟩ := holds.unique holds'
          cases parses.symm.trans parses'
          cases hfault.symm.trans fault
      | stranded holds' parses' fault _ _ _ _ =>
          obtain ⟨rfl, -⟩ := holds.unique holds'
          cases parses.symm.trans parses'
          cases hfault.symm.trans fault

end Session

end BytecodeViewer
