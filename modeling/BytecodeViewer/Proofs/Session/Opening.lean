import BytecodeViewer.Proofs.Plugin.Builtin
import BytecodeViewer.Proofs.Session.PipelineStep
import BytecodeViewer.Proofs.Session.TempCopy
import BytecodeViewer.Session.Session

/-!
# Opening a session

`open_on` says all that can come of opening a file, by the stage that fails.
-/

namespace BytecodeViewer

namespace OpenOptions

def registryOn (o : OpenOptions) (h : Host) : Registry :=
  o.registry.getD (Registry.fresh h.plugins h.renderers.length)

def languageOn (o : OpenOptions) (h : Host) : Option String :=
  o.language <|> (o.registryOn h).names.head?

def pipelineOn (o : OpenOptions) (h : Host) : Pipeline where
  registry := o.registryOn h
  sections := o.sections

/-- The renderers that are made for a registry of its own. -/
def freshRenderers (o : OpenOptions) : List Renderer :=
  if o.registry.isSome then [] else Registry.freshRenderers

/-- What the names of languages stand for. -/
def languagesOn (o : OpenOptions) (h : Host) : String → Option Language :=
  (o.registryOn h).language? { h with renderers := h.renderers ++ o.freshRenderers }

/-- The renderer that a session takes into use, as it is before. -/
def rendererOn? (o : OpenOptions) (h : Host) : Option Renderer :=
  (o.languageOn h).bind fun name =>
    (o.registryOn h).rendererFor? { h with renderers := h.renderers ++ o.freshRenderers } name

theorem rendererOn?_language (o : OpenOptions) (h : Host) :
    (o.rendererOn? h).map (·.language) = (o.languageOn h).bind (o.languagesOn h) := by
  cases hlanguage : o.languageOn h with
  | none => simp [rendererOn?, hlanguage]
  | some name =>
      simp only [rendererOn?, hlanguage, Option.bind_some, languagesOn]
      exact (Registry.language?_eq_map _ _ name).symm

/-- What making a session for a model comes to, once its language has been resolved: a
renderer is taken into use, the tree is made, and the renderer is bound to the model. -/
def making (o : OpenOptions) (h : Host) (m : LoadedModel) : Except Failure Unit := do
  (o.rendererOn? h).forM fun r => r.language.taking (h.model? r.bound) none
  let _ ← TreeNode.ofModel m
  (o.rendererOn? h).forM fun r => r.language.binding none (some m)

theorem making_of_cooperative {o : OpenOptions} {h : Host} {m : LoadedModel}
    {roots : List TreeNode}
    (cooperative : ∀ r, o.rendererOn? h = some r → r.language.Cooperative)
    (tree : TreeNode.ofModel m = .ok roots) : o.making h m = .ok () := by
  unfold making
  rw [tree]
  cases hr : o.rendererOn? h with
  | none => rfl
  | some r =>
      have taken : (some r).forM (fun r : Renderer => r.language.taking (h.model? r.bound) none) =
          .ok () := (cooperative r hr).taking _ none
      rw [taken]
      exact (cooperative r hr).binding none (some m)

/-- Why no session can be made for a model that has been loaded. -/
def refusal? (o : OpenOptions) (h : Host) (m : LoadedModel) : Option Failure :=
  match (o.languageOn h).filter fun name => !(o.registryOn h).resolves name with
  | some name => some (.noRenderer name (o.registryOn h).names)
  | none =>
    match o.making h m with
    | .error f => some f
    | .ok _ => none

/-- Why no session can be made for a model that is loaded now. -/
def fault? (o : OpenOptions) (h : Host) (m : LoadedModel) : Option Failure :=
  o.refusal? (h.addModel m) m

end OpenOptions

/-- What disposing a model comes to. -/
def LoadedModel.disposal (m : LoadedModel) : Except Failure Unit :=
  match m.disposeFailure with
  | some f => .error f
  | none => .ok ()

namespace Session

variable {source : Path} {temp : Option Path} {o : OpenOptions} {h : Host}

/-! ## Making a session for a model -/

/-- Once there is a registry, the language decides. -/
theorem makePipeline_on_of {registry : Registry} {h₁ : Host} (hregistry : o.registryOn h = registry)
    (hon : (makePipeline o).on h = (makePipeline { o with registry := some registry }).on h₁) :
    (makePipeline o).on h = match o.languageOn h with
      | none => (.ok (o.pipelineOn h, none), h₁)
      | some name =>
        match (Pipeline.setLanguage name).on (o.pipelineOn h, h₁) with
        | (.ok _, p, h₂) => (.ok (p, some name), h₂)
        | (.error f, _, h₂) => (.error f, h₂) := by
  rw [hon]
  simp only [makePipeline, Act.on_bind, Act.on_pure, OpenOptions.languageOn,
    OpenOptions.pipelineOn, hregistry]
  cases (o.language <|> registry.names.head?) with
  | none => rfl
  | some name =>
      simp only [Act.on_bind, Act.on_carrying, Act.on_pure]
      rcases (Pipeline.setLanguage name).on ({ registry, sections := o.sections }, h₁) with
        ⟨_ | _, _, _⟩ <;> rfl

theorem makePipeline_on (o : OpenOptions) (h : Host) :
    ∃ h₁, h₁.rest = h.rest ∧ h₁.renderers = h.renderers ++ o.freshRenderers ∧
      (makePipeline o).on h = match o.languageOn h with
        | none => (.ok (o.pipelineOn h, none), h₁)
        | some name =>
          match (Pipeline.setLanguage name).on (o.pipelineOn h, h₁) with
          | (.ok _, p, h₂) => (.ok (p, some name), h₂)
          | (.error f, _, h₂) => (.error f, h₂) := by
  obtain ⟨registry, language, sections⟩ := o
  cases registry with
  | some r =>
      refine ⟨h, rfl, by simp [OpenOptions.freshRenderers], makePipeline_on_of rfl rfl⟩
  | none =>
      obtain ⟨h₁, hbuiltin, hrest, hrenderers⟩ := Registry.builtin_on h
      refine ⟨h₁, hrest, by simpa [OpenOptions.freshRenderers] using hrenderers,
        makePipeline_on_of rfl ?_⟩
      simp only [makePipeline, Act.on_bind, hbuiltin, Act.on_pure]
      rfl

/-- The pipeline before the model is set, from one whose language is to be set. -/
inductive LanguageSet (p : Pipeline) (h : Host) : Option String → Pipeline → Host → Prop
  | none : LanguageSet p h none p h
  | some {name : String} {d : Document} {p' : Pipeline} {h' : Host}
      (on : (Pipeline.setLanguage name).on (p, h) = (.ok d, p', h')) :
      LanguageSet p h (some name) p' h'

/-- How the pipeline of a session for a model comes about, where some renderers are there. -/
inductive Built (o : OpenOptions) (h : Host) (id : ModelId) (models : List LoadedModel)
    (p : Pipeline) (renderers : List Renderer) : Prop
  | intro {p₁ : Pipeline} {h₁ h₂ h₃ : Host} (models_eq : h₁.models = models)
      (before : h₁.renderers = h.renderers ++ o.freshRenderers)
      (language : LanguageSet (o.pipelineOn h) h₁ (o.languageOn h) p₁ h₂)
      (model : (Pipeline.setModel (some id)).on (p₁, h₂) = (.ok (), p, h₃))
      (after : h₃.renderers = renderers)

/-- All that can come of making a session for a model. -/
inductive Assembly (source : Path) (temp : Option Path) (id : ModelId) (m : LoadedModel)
    (o : OpenOptions) (h : Host) : Except Failure (Session × Option String) × Host → Prop
  | failed {f : Failure} {h' : Host} (fault : o.refusal? h m = some f) (rest : h'.rest = h.rest) :
      Assembly source temp id m o h (.error f, h')
  | made {p : Pipeline} {roots : List TreeNode} {h' : Host} (fault : o.refusal? h m = none)
      (language : p.language = o.languageOn h) (model : p.model = some id)
      (selection : p.selection = none) (document : p.document = .empty)
      (tree : TreeNode.ofModel m = .ok roots) (rest : h'.rest = h.rest)
      (built : Built o h id h.models p h'.renderers) :
      Assembly source temp id m o h
        (.ok (⟨source, id, temp, p, { roots }, false⟩, o.languageOn h), h')

theorem treeOf_on {id : ModelId} {m : LoadedModel} (hm : h.models[id]? = some m) :
    (treeOf id).on h = ((TreeNode.ofModel m).map fun roots => { roots }, h) := by
  cases htree : TreeNode.ofModel m <;> simp [treeOf, hm, htree, Except.map]

theorem assemble_of_pipeline {id : ModelId} {m : LoadedModel} {p : Pipeline} {h₁ h₂ : Host}
    (hm : h.models[id]? = some m) (hmodels : h₁.models = h.models)
    (hbefore : h₁.renderers = h.renderers ++ o.freshRenderers)
    (hset : LanguageSet (o.pipelineOn h) h₁ (o.languageOn h) p h₂)
    (hmake : (makePipeline o).on h = (.ok (p, o.languageOn h), h₂)) (hrest : h₂.rest = h.rest)
    (hlanguage : p.language = o.languageOn h)
    (hbound : p.renderer.bind h₂.renderer? = (o.rendererOn? h).map (·.bind none))
    (hresolves : ((o.languageOn h).filter fun name => !(o.registryOn h).resolves name) = none)
    (taken : (o.rendererOn? h).forM (fun r => r.language.taking (h.model? r.bound) none) =
      .ok ()) :
    Assembly source temp id m o h ((assemble source temp id o).on h) := by
  have hm₂ : h₂.models[id]? = some m := Host.rest_models hrest ▸ hm
  have hbinding : h₂.binding p.renderer (some id) =
      (o.rendererOn? h).forM (fun r => r.language.binding none (some m)) := by
    simp only [Host.binding, hbound, Host.model?, Option.bind_some, hm₂]
    cases o.rendererOn? h <;> rfl
  cases htree : TreeNode.ofModel m with
  | error f =>
      have hon : (assemble source temp id o).on h = (.error f, h₂) := by
        simp [assemble, hmake, treeOf_on hm₂, htree, Except.map]
      have fault : o.refusal? h m = some f := by
        simp only [OpenOptions.refusal?, hresolves, OpenOptions.making, taken, htree]
        rfl
      rw [hon]
      exact .failed fault hrest
  | ok roots =>
      obtain ⟨h₃, hmodel, hrest', -⟩ := Pipeline.setModel_on p (some id) h₂
      rw [hbinding] at hmodel
      cases hmade : (o.rendererOn? h).forM (fun r => r.language.binding none (some m)) with
      | error f =>
          rw [hmade] at hmodel
          have hon : (assemble source temp id o).on h = (.error f, h₃) := by
            simp [assemble, hmake, treeOf_on hm₂, htree, hmodel, Except.map]
          have fault : o.refusal? h m = some f := by
            simp only [OpenOptions.refusal?, hresolves, OpenOptions.making, taken, htree, hmade]
            rfl
          rw [hon]
          exact .failed fault (hrest'.trans hrest)
      | ok _ =>
          rw [hmade] at hmodel
          have hon : (assemble source temp id o).on h = (.ok (⟨source, id, temp,
              { p with model := some id, selection := none, document := .empty }, { roots },
              false⟩, o.languageOn h), h₃) := by
            simp [assemble, hmake, treeOf_on hm₂, htree, hmodel, Except.map]
          have fault : o.refusal? h m = none := by
            simp only [OpenOptions.refusal?, hresolves, OpenOptions.making, taken, htree, hmade]
            rfl
          rw [hon]
          exact .made fault hlanguage rfl rfl rfl htree (hrest'.trans hrest)
            (.intro hmodels hbefore hset hmodel rfl)

theorem assemble_on {id : ModelId} {m : LoadedModel} (hm : h.models[id]? = some m) :
    Assembly source temp id m o h ((assemble source temp id o).on h) := by
  obtain ⟨h₁, hrest, hbefore, hmake⟩ := makePipeline_on o h
  have hmodels := Host.rest_models hrest
  cases hlanguage : o.languageOn h with
  | none =>
      rw [hlanguage] at hmake
      have hrenderer : o.rendererOn? h = none := by simp [OpenOptions.rendererOn?, hlanguage]
      refine assemble_of_pipeline hm hmodels hbefore ?_ (by rw [hmake, hlanguage]) hrest
        (by rw [hlanguage]; rfl) (by rw [hrenderer]; rfl) (by simp [hlanguage])
        (by rw [hrenderer]; rfl)
      rw [hlanguage]
      exact .none
  | some name =>
      simp only [hlanguage] at hmake
      have hfound : (o.pipelineOn h).registry.rendererFor? h₁ name = o.rendererOn? h := by
        simp only [OpenOptions.rendererOn?, hlanguage, Option.bind_some]
        exact Registry.rendererFor?_congr hbefore name
      have htaking : (o.pipelineOn h).taking name h₁ =
          (o.rendererOn? h).forM (fun r => r.language.taking (h.model? r.bound) none) := by
        simp only [Pipeline.taking, hfound, Host.rest_model? hrest]
        cases o.rendererOn? h <;> rfl
      have switch := Pipeline.setLanguage_idle_on (o.pipelineOn h) rfl name h₁
      rcases hset : (Pipeline.setLanguage name).on (o.pipelineOn h, h₁) with ⟨outcome, p, h₂⟩
      rw [hset] at switch hmake
      cases switch with
      | unknown resolves rest =>
          have hon : (assemble source temp id o).on h =
              (.error (.noRenderer name (o.registryOn h).names), h₂) := by
            simp only [assemble, Act.on_bind, hmake]
            rfl
          have resolves' : (o.registryOn h).resolves name = false := resolves
          rw [hon]
          refine .failed ?_ (rest.trans hrest)
          simp [OpenOptions.refusal?, hlanguage, Option.filter, resolves']
      | @refused f _ _ resolves taking rest =>
          have hon : (assemble source temp id o).on h = (.error f, h₂) := by
            simp only [assemble, Act.on_bind, hmake]
          have resolves' : (o.registryOn h).resolves name = true := resolves
          rw [hon]
          refine .failed ?_ (rest.trans hrest)
          rw [htaking] at taking
          simp only [OpenOptions.refusal?, hlanguage, Option.filter, resolves', OpenOptions.making,
            taking]
          rfl
      | switched resolves taking bound rest =>
          refine assemble_of_pipeline hm hmodels hbefore ?_ (by rw [hmake, hlanguage])
            (rest.trans hrest) (by rw [hlanguage]; rfl) ?_ ?_ (htaking.symm.trans taking)
          · rw [hlanguage]
            exact .some hset
          · rw [hfound] at bound
            exact bound
          · have resolves' : (o.registryOn h).resolves name = true := resolves
            simp [hlanguage, Option.filter, resolves']

/-! ## Opening a file -/

def parserOf (m : LoadedModel) : Parser where
  label := "stub"
  typeName := "StubParser"
  parse _ := .ok m

theorem parse_on (parser : Parser) {path : Path} {place : Location} {content : Bytes}
    (hread : h.files.status path = .file place content) :
    (BytecodeSource.parse parser path).on h = match parser.parse content with
      | .error f => (.error f, { h with parsed := h.parsed ++ [(parser.label, content)] })
      | .ok m => (.ok h.models.length,
          { h with
            parsed := h.parsed ++ [(parser.label, content)]
            models := h.models ++ [m] }) := by
  cases hparse : parser.parse content <;>
    simp [BytecodeSource.parse, hread, hparse, Host.keepModel, Host.addModel]

theorem disposeModel_on {id : ModelId} {m : LoadedModel} (hm : h.models[id]? = some m) :
    (Host.disposeModel id).on h =
      (match m.disposeFailure with
        | some f => .error f
        | none => .ok (), h.setModel id m.dispose) := by
  cases hdispose : m.disposeFailure <;> simp [Host.disposeModel, hm, hdispose]

/-- All that can come of opening a file. -/
inductive Opening (source : Path) (parser : Parser) (o : OpenOptions) (h : Host) :
    Except Failure Session × Host → Prop
  | unlocated {f : Failure} {h' : Host} (files : h'.files = h.files)
      (models : h'.models = h.models) (parsed : h'.parsed = h.parsed)
      (notPlain : ∀ content, ¬BytecodeSource.Holds h.files source content false) :
      Opening source parser o h (.error f, h')
  | unparsed {content : Bytes} {isArchive : Bool} {f : Failure} {h' : Host}
      (holds : BytecodeSource.Holds h.files source content isArchive)
      (parses : parser.parse content = .error f) (files : h'.files = h.files)
      (models : h'.models = h.models)
      (parsed : h'.parsed = h.parsed ++ [(parser.label, content)]) :
      Opening source parser o h (.error (parseFailure source f), h')
  | undone {content : Bytes} {isArchive : Bool} {m : LoadedModel} {f : Failure} {h' : Host}
      (holds : BytecodeSource.Holds h.files source content isArchive)
      (parses : parser.parse content = .ok m) (fault : o.fault? h m = some f)
      (disposes : m.disposeFailure = none) (files : h'.files = h.files)
      (models : h'.models = h.models ++ [m.dispose])
      (parsed : h'.parsed = h.parsed ++ [(parser.label, content)]) :
      Opening source parser o h (.error f, h')
  /-- Disposing the model fails as well, and the temporary copy stays. -/
  | stranded {content : Bytes} {m : LoadedModel} {f g : Failure} {temp : Option Path} {h' : Host}
      (holds : BytecodeSource.Holds h.files source content temp.isSome)
      (parses : parser.parse content = .ok m) (fault : o.fault? h m = some f)
      (disposes : m.disposeFailure = some g)
      (inUse : BytecodeSource.InUse h.files content temp h'.files)
      (models : h'.models = h.models ++ [m.dispose])
      (parsed : h'.parsed = h.parsed ++ [(parser.label, content)]) :
      Opening source parser o h (.error g, h')
  | opened {content : Bytes} {m : LoadedModel} {temp : Option Path} {p : Pipeline}
      {roots : List TreeNode} {h' : Host}
      (holds : BytecodeSource.Holds h.files source content temp.isSome)
      (parses : parser.parse content = .ok m) (fault : o.fault? h m = none)
      (language : p.language = o.languageOn h) (model : p.model = some h.models.length)
      (selection : p.selection = none) (document : p.document = .empty)
      (tree : TreeNode.ofModel m = .ok roots)
      (inUse : BytecodeSource.InUse h.files content temp h'.files)
      (models : h'.models = h.models ++ [m])
      (parsed : h'.parsed = h.parsed ++ [(parser.label, content)])
      (plugins : h'.plugins = h.plugins)
      (built : Built o h h.models.length (h.models ++ [m]) p h'.renderers) :
      Opening source parser o h
        (.ok ⟨source, h.models.length, temp, p, { roots }, false⟩, h')

@[simp] theorem inFileContext_on {α : Type} (a : Act Host α) (h : Host) :
    (inFileContext source a).on h =
      ((a.on (h.within [("file", some source.name)])).1,
        (a.on (h.within [("file", some source.name)])).2.rebound h.log.bound) := rfl

structure Parsed (source : Path) (parser : Parser) (temp : Option Path) (content : Bytes)
    (m : LoadedModel) (h h₁ : Host) : Prop where
  holds : BytecodeSource.Holds h.files source content temp.isSome
  parses : parser.parse content = .ok m
  inUse : BytecodeSource.InUse h.files content temp h₁.files
  models : h₁.models = h.models ++ [m]
  plugins : h₁.plugins = h.plugins
  renderers : h₁.renderers = h.renderers
  parsed : h₁.parsed = h.parsed ++ [(parser.label, content)]

namespace Parsed

variable {parser : Parser} {content : Bytes} {m : LoadedModel} {h₁ h₂ : Host}

theorem registryOn_eq (known : Parsed source parser temp content m h h₁) :
    o.registryOn h₁ = o.registryOn h := by
  simp only [OpenOptions.registryOn, known.plugins, known.renderers]

theorem languageOn_eq (known : Parsed source parser temp content m h h₁) :
    o.languageOn h₁ = o.languageOn h := by
  simp only [OpenOptions.languageOn, known.registryOn_eq]

theorem rendererOn?_eq (known : Parsed source parser temp content m h h₁) :
    o.rendererOn? h₁ = o.rendererOn? h := by
  simp only [OpenOptions.rendererOn?, known.languageOn_eq, known.registryOn_eq]
  congr 1
  funext name
  exact Registry.rendererFor?_congr (by simp only [known.renderers]) name

theorem refusal?_eq (known : Parsed source parser temp content m h h₁) :
    o.refusal? h₁ m = o.fault? h m := by
  have hmodel (id : Option ModelId) : h₁.model? id = (h.addModel m).model? id := by
    simp only [Host.model?, known.models, Host.addModel]
  simp only [OpenOptions.refusal?, OpenOptions.making, known.languageOn_eq, known.registryOn_eq,
    known.rendererOn?_eq, hmodel]
  rfl

theorem opened {s : Session} {language : Option String}
    (known : Parsed source parser temp content m h h₁)
    (assembly : Assembly source temp h.models.length m o h₁ (.ok (s, language), h₂))
    (message : String) :
    Opening source parser o h (.ok s, h₂.logged channel .info message) := by
  cases assembly with
  | made fault hlanguage model selection document tree rest built =>
      obtain ⟨models_eq, before, set, hmodel, after⟩ := built
      have hpipeline : o.pipelineOn h₁ = o.pipelineOn h := by
        simp only [OpenOptions.pipelineOn, known.registryOn_eq]
      rw [known.renderers] at before
      rw [hpipeline, known.languageOn_eq] at set
      refine .opened known.holds known.parses (known.refusal?_eq ▸ fault)
        (hlanguage.trans known.languageOn_eq) model selection document tree ?_ ?_ ?_ ?_ ?_
      · have files : h₂.files = h₁.files := Host.rest_files rest
        exact files ▸ known.inUse
      · have models : h₂.models = h₁.models := Host.rest_models rest
        exact models.trans known.models
      · have parsed : h₂.parsed = h₁.parsed := Host.rest_parsed rest
        exact parsed.trans known.parsed
      · have plugins : h₂.plugins = h₁.plugins := Host.rest_plugins rest
        exact plugins.trans known.plugins
      · exact .intro (models_eq.trans known.models) before set hmodel after

/-- No session can be made for the model, which is to be disposed. -/
theorem failed {f : Failure} (known : Parsed source parser temp content m h h₁)
    (assembly : Assembly source temp h.models.length m o h₁ (.error f, h₂)) :
    o.fault? h m = some f ∧ h₂.models[h.models.length]? = some m ∧
      BytecodeSource.InUse h.files content temp h₂.files ∧
      (h₂.setModel h.models.length m.dispose).models = h.models ++ [m.dispose] ∧
      h₂.parsed = h.parsed ++ [(parser.label, content)] := by
  cases assembly with
  | failed fault rest =>
      have models : h₂.models = h.models ++ [m] := (Host.rest_models rest).trans known.models
      refine ⟨known.refusal?_eq ▸ fault, ?_, ?_, ?_, (Host.rest_parsed rest).trans known.parsed⟩
      · simp [models]
      · exact Host.rest_files rest ▸ known.inUse
      · simp [Host.setModel, models]

/-- What is done when no session can be made: the model is disposed, then the temporary file is
removed. -/
theorem undo_on {f : Failure} (known : Parsed source parser temp content m h h₁)
    (assembly : Assembly source temp h.models.length m o h₁ (.error f, h₂)) :
    Opening source parser o h ((do
      Host.disposeModel h.models.length
      let _ ← BytecodeSource.removeTemp temp
      throw f : Act Host Session).on h₂) := by
  obtain ⟨fault, hm, inUse, models, parsed⟩ := known.failed assembly
  have hdispose := disposeModel_on hm
  cases hd : m.disposeFailure with
  | none =>
      simp only [hd] at hdispose
      have hremove := BytecodeSource.InUse.removeTemp_on
        (h := h₂.setModel h.models.length m.dispose) inUse
      simp only [Act.on_bind, hdispose, hremove, Act.on_throw]
      exact .undone known.holds known.parses fault hd rfl models parsed
  | some g =>
      simp only [hd] at hdispose
      simp only [Act.on_bind, hdispose]
      exact .stranded known.holds known.parses fault hd inUse models parsed

end Parsed

theorem openSource_on {place : Location} {path : Path} {content : Bytes}
    {h₁ : Host} {parser : Parser} (holds : BytecodeSource.Holds h.files source content temp.isSome)
    (reads : h₁.files.status path = .file place content)
    (inUse : BytecodeSource.InUse h.files content temp h₁.files)
    (fileless : h₁.fileless = h.fileless) :
    Opening source parser o h ((openSource source ⟨path, temp⟩ parser o).on h₁) := by
  have hmodels : h₁.models = h.models := congrArg (·.models) fileless
  have hparsed : h₁.parsed = h.parsed := congrArg (·.parsed) fileless
  have hparse := parse_on parser reads
  rw [hmodels, hparsed] at hparse
  cases hp : parser.parse content with
  | error f =>
      rw [hp] at hparse
      let h₂ := { h₁ with parsed := h.parsed ++ [(parser.label, content)], models := h.models }
      have hremove := BytecodeSource.InUse.removeTemp_on (h := h₂) inUse
      have hon : (openSource source ⟨path, temp⟩ parser o).on h₁ =
          (.error (parseFailure source f), { h₂ with files := h.files }) := by
        simp only [openSource, Act.on_bind, Act.on_attempt, hparse, hremove, h₂, Act.on_throw]
      rw [hon]
      exact .unparsed holds hp rfl rfl rfl
  | ok m =>
      rw [hp] at hparse
      let h₂ := { h₁ with
        parsed := h.parsed ++ [(parser.label, content)], models := h.models ++ [m] }
      have known : Parsed source parser temp content m h h₂ := ⟨holds, hp, inUse, rfl,
        congrArg (·.plugins) fileless, congrArg (·.renderers) fileless, rfl⟩
      have assembly : Assembly source temp h.models.length m o h₂
          ((assemble source temp h.models.length o).on h₂) := assemble_on (by simp [h₂])
      rcases hassemble : (assemble source temp h.models.length o).on h₂ with ⟨outcome, h₃⟩
      rw [hassemble] at assembly
      cases outcome with
      | ok made =>
          obtain ⟨s, language⟩ := made
          have hon : (openSource source ⟨path, temp⟩ parser o).on h₁ = (.ok s, h₃.logged channel
              .info ("Opened " ++ source.text ++ " (" ++ language.getD "no renderer" ++ ")")) := by
            simp only [openSource, Act.on_bind, Act.on_attempt, hparse, hassemble,
              Host.on_record, Act.on_pure, h₂]
          rw [hon]
          exact known.opened assembly _
      | error f =>
          have hundo := known.undo_on assembly
          simp only [openSource, Act.on_bind, Act.on_attempt, hparse, hassemble, h₂] at hundo ⊢
          exact hundo

theorem Opening.rebound {parser : Parser} {outcome : Except Failure Session} {h' : Host}
    (opening : Opening source parser o h (outcome, h')) (outer : LogContext) :
    Opening source parser o h (outcome, h'.rebound outer) := by
  cases opening with
  | unlocated files models parsed notPlain => exact .unlocated files models parsed notPlain
  | unparsed holds parses files models parsed =>
      exact .unparsed holds parses files models parsed
  | undone holds parses fault disposes files models parsed =>
      exact .undone holds parses fault disposes files models parsed
  | stranded holds parses fault disposes inUse models parsed =>
      exact .stranded holds parses fault disposes inUse models parsed
  | opened holds parses fault language model selection document tree inUse models parsed plugins
      built =>
      exact .opened holds parses fault language model selection document tree inUse models parsed
        plugins built

theorem open_on (source : Path) (parser : Parser) (o : OpenOptions) (h : Host) :
    Opening source parser o h ((Session.«open» source parser o).on h) := by
  have located := BytecodeSource.locate_on source (h.within [("file", some source.name)])
  rcases hlocate : (BytecodeSource.locate source).on (h.within [("file", some source.name)]) with
    ⟨outcome, h₁⟩
  rw [hlocate] at located
  simp only [Session.«open», inFileContext_on, Act.on_bind, hlocate]
  cases located with
  | failed files fileless notPlain =>
      exact .unlocated files (congrArg (·.models) fileless) (congrArg (·.parsed) fileless) notPlain
  | @found _ path content temp _ holds reads inUse fileless =>
      have opening : Opening source parser o h
          ((openSource source ⟨path, temp⟩ parser o).on h₁) :=
        openSource_on holds reads inUse fileless
      exact opening.rebound h.log.bound

end Session

end BytecodeViewer
