import BytecodeViewer.Proofs.Host.LogContext
import BytecodeViewer.Proofs.Session.Calls
import BytecodeViewer.Session.Session

/-!
# What is logged in sessions

Each act of a pipeline or a session is bracketed, whether it ends or fails.  What is bound when it
begins is carried by all that is logged in it; only the language and the selection are bound anew,
by a render cycle.
-/

namespace BytecodeViewer

open Act (Bracketed)

variable {items : LogContext}

/-! ## Renderers and models -/

namespace Host

theorem useRenderer_bracketed {α : Type} (n : RendererId)
    (work : Renderer → Option LoadedModel → Except Failure α × Renderer) :
    Bracketed id items (useRenderer n work) := by
  refine .of_log_eq fun h => ?_
  cases hr : h.renderer? n <;> simp [useRenderer, hr, setRenderer]

theorem bindRenderer_bracketed (n : RendererId) (m : Option ModelId) :
    Bracketed id items (bindRenderer n m) := by
  refine .of_log_eq fun h => ?_
  cases hr : h.renderer? n <;> simp [bindRenderer, hr, setRenderer]

theorem rulesOf_bracketed (n : RendererId) : Bracketed id items (rulesOf n) := by
  refine .of_log_eq fun h => ?_
  cases hr : h.renderer? n <;> simp [rulesOf, hr]

theorem newRenderer_bracketed (l : Language) : Bracketed id items (newRenderer l) :=
  .of_log_eq fun _ => rfl

theorem newRenderers_bracketed (ls : List Language) : Bracketed id items (newRenderers ls) := by
  induction ls with
  | nil => exact .pure []
  | cons l ls ih =>
      exact .bind (newRenderer_bracketed l) fun _ => .bind ih fun _ => .pure _

theorem keepModel_bracketed (m : LoadedModel) : Bracketed id items (keepModel m) :=
  .of_log_eq fun _ => rfl

theorem disposeModel_bracketed (n : ModelId) : Bracketed id items (disposeModel n) := by
  refine .of_log_eq fun h => ?_
  cases hm : h.models[n]? <;> simp [disposeModel, hm, setModel]

end Host

/-! ## Plug-ins -/

theorem Discovery.pending_bracketed (group : PluginGroup) :
    Bracketed id items (Discovery.pending group) := by
  refine .bind (.look _) fun plugins => ?_
  cases plugins with
  | ok entryPoints => exact .pure _
  | error f => exact .bind .record fun _ => .pure _

/-- Whatever is made of what a plug-in gives, failures to load or to use it are told. -/
theorem Discovery.load_bracketed {τ : Type} (e : EntryPoint) (label : String)
    {use : Published → HostedAct τ Unit} (h : ∀ p, Bracketed Prod.snd items (use p)) :
    Bracketed Prod.snd items (Discovery.load e label use) := by
  refine .bind (.onHost (.of_log_eq fun _ => rfl)) fun _ => ?_
  split
  · refine .bind (.onHost ?_) fun _ => .pure _
    split <;> exact .record
  · next published _ =>
    refine .bind (.attempt (h published)) fun outcome => ?_
    cases outcome with
    | ok _ => exact .pure _
    | error f => exact .bind (.onHost .record) fun _ => .pure _

namespace Registry

theorem register_bracketed (name : Option String) (candidate : Candidate) :
    Bracketed Prod.snd items (register name candidate) := by
  rw [register]
  split
  · cases candidate with
    | other typeName => exact .throw _
    | renderer n =>
        refine .bind (.look _) fun r => ?_
        split
        · exact .bind (.onHost .record) fun _ => .setOwn _
        · exact .setOwn _
  · exact .throw _

theorem registerPublished_bracketed (name : String) (published : Published) :
    Bracketed Prod.snd items (registerPublished name published) := by
  cases published with
  | language l =>
      exact .bind (.onHost (Host.newRenderer_bracketed l)) fun _ => register_bracketed _ _
  | renderer n => exact register_bracketed _ _
  | parser p => exact register_bracketed _ _
  | other typeName => exact register_bracketed _ _
  | broken f => exact .throw f

theorem loadPending_bracketed (name : String) :
    Bracketed Prod.snd items (loadPending name) := by
  refine .bind (.look _) fun r => ?_
  split
  · exact .pure ()
  · next e _ =>
    exact .bind (.setOwn _) fun _ =>
      .bind (Discovery.load_bracketed e _ (registerPublished_bracketed e.name)) fun _ => .pure ()

theorem resolve_bracketed (name : String) : Bracketed Prod.snd items (resolve name) := by
  refine .bind (.look _) fun r => ?_
  split
  · refine .bind (loadPending_bracketed name) fun _ => .bind (.look _) fun r' => ?_
    split
    · exact .pure _
    · exact .throw _
  · refine .bind (.look _) fun r' => ?_
    split
    · exact .pure _
    · exact .throw _

theorem registerOwn_bracketed (candidates : List (String × Candidate)) :
    Bracketed Prod.snd items (registerOwn candidates) := by
  induction candidates with
  | nil => exact .pure ()
  | cons candidate candidates ih => exact .bind (register_bracketed _ _) fun _ => ih

theorem discover_bracketed : Bracketed Prod.snd items discover :=
  .bind (.onHost (Discovery.pending_bracketed _)) fun _ => .setOwn _

theorem make_bracketed (candidates : List (String × Candidate)) (withPlugins : Bool) :
    Bracketed id items (make candidates withPlugins) := by
  refine .bind (.carrying (.bind (registerOwn_bracketed candidates) fun _ => ?_) _) fun _ => .pure _
  split
  · exact discover_bracketed
  · exact .pure _

theorem builtin_bracketed (withPlugins : Bool) : Bracketed id items (builtin withPlugins) :=
  .bind (Host.newRenderers_bracketed _) fun _ => make_bracketed _ _

end Registry

/-! ## Calls of a pipeline -/

namespace Pipeline

theorem renderText_bracketed (n : RendererId) (sections : Sections) (s : Selection) :
    Bracketed id items (renderText n sections s) := by
  cases s with
  | wholeClass c => exact Host.useRenderer_bracketed n _
  | method c k => exact Host.useRenderer_bracketed n _
  | unsupported text => exact .throw _

theorem noteIdleRules_bracketed (rules : List HighlightRule) :
    Bracketed id items (noteIdleRules rules) := by
  induction rules with
  | nil => exact .pure ()
  | cons rule rules ih =>
      rw [noteIdleRules]
      split
      · exact .bind .record fun _ => ih
      · exact ih

theorem renderSelection_bracketed (p : Pipeline) (n : RendererId) (s : Selection) :
    Bracketed id items (p.renderSelection n s) :=
  .bind (renderText_bracketed n p.sections s) fun _ => .bind (.ofExcept _) fun _ =>
    .bind (noteIdleRules_bracketed p.rules) fun _ => .pure _

/-- What is bound for a render cycle. -/
def cycleContext (p : Pipeline) (s : Selection) : List (String × Option String) :=
  [("language", p.language), ("selection", some (Selection.describe (some s)))]

/-- The inside of a render cycle. -/
def cycle (p : Pipeline) (s : Selection) (n : RendererId) : HostedAct Pipeline Document := do
  match ← Act.attempt (Act.onHost (p.renderSelection n s)) with
  | .ok document =>
    Act.onHost <| Host.record channel .debug
      ("Rendered " ++ toString document.text.length ++ " chars with " ++
        toString document.spans.length ++ " spans")
    Act.setOwn fun p => { p with document }
    return document
  | .error f =>
    Act.setOwn fun p => { p with document := .empty }
    Act.onHost <| Host.record channel .warning
      ("Render failed for " ++ Selection.describe (some s) ++ " with " ++
        p.language.getD "None") true
    throw f

theorem cycle_bracketed (p : Pipeline) (s : Selection) (n : RendererId) :
    Bracketed Prod.snd items (p.cycle s n) := by
  refine .bind (.attempt (.onHost (p.renderSelection_bracketed n s))) fun outcome => ?_
  cases outcome with
  | ok document =>
      exact .bind (.onHost .record) fun _ => .bind (.setOwn _) fun _ => .pure _
  | error f => exact .bind (.setOwn _) fun _ => .bind (.onHost .record) fun _ => .throw f

theorem render_on_cycle {p : Pipeline} {s : Selection} {n : RendererId}
    (hs : p.selection = some s) (hn : p.renderer = some n) (h : Host) :
    render.on (p, h) = (Host.inContext (p.cycleContext s) (p.cycle s n)).on (p, h) := by
  simp only [render, Act.on_bind, Act.on_own, hs, hn]
  rfl

/-- Some items are bound under other keys than those of a render cycle. -/
def Beside (items : LogContext) : Prop :=
  ∀ item ∈ items, item.1 ≠ "language" ∧ item.1 ≠ "selection"

theorem render_bracketed (beside : Beside items) : Bracketed Prod.snd items render := by
  refine .bind (.look _) fun p => ?_
  split
  · next s n _ _ =>
    refine .inContext (cycle_bracketed p s n) fun item hitem => ?_
    obtain ⟨hlanguage, hselection⟩ := beside item hitem
    exact Log.lookup_present_of_ne (by simp [hlanguage.symm, hselection.symm])
  · exact .bind (.setOwn _) fun _ => .pure _

theorem setLanguage_bracketed (beside : Beside items) (name : String) :
    Bracketed Prod.snd items (setLanguage name) :=
  .bind (.onPart (Registry.resolve_bracketed name)) fun n => .bind (.look _) fun p =>
    .bind (.onHost (Host.bindRenderer_bracketed n p.model)) fun _ => .bind (.setOwn _) fun _ =>
      .bind (.onHost (Host.rulesOf_bracketed n)) fun _ => .bind (.setOwn _) fun _ =>
        .bind (.onHost .record) fun _ => render_bracketed beside

theorem setModel_bracketed (m : Option ModelId) : Bracketed Prod.snd items (setModel m) := by
  refine .bind (.look _) fun p => .bind (.setOwn _) fun _ => ?_
  split
  · exact .bind (.onHost (Host.bindRenderer_bracketed _ m)) fun _ => .setOwn _
  · exact .setOwn _

theorem Call.act_bracketed (beside : Beside items) (call : Call) :
    Bracketed Prod.snd items call.act := by
  cases call with
  | language name => exact setLanguage_bracketed beside name
  | selection s => exact .bind (.setOwn _) fun _ => render_bracketed beside
  | model m => exact .map (setModel_bracketed m)
  | sections o => exact .bind (.setOwn _) fun _ => render_bracketed beside
  | render => exact render_bracketed beside

end Pipeline

/-! ## Files -/

namespace BytecodeSource

theorem discard_bracketed (p : Path) : Bracketed id items (discard p) := by
  refine .of_log_eq fun h => ?_
  simp only [discard, Act.on_change]
  split <;> rfl

theorem removeTemp_bracketed (path : Option Path) : Bracketed id items (removeTemp path) := by
  cases path with
  | none => exact .pure true
  | some p =>
      refine .bind (.look _) fun fault => ?_
      cases fault with
      | some why => exact .bind .record fun _ => .pure false
      | none => exact .bind (discard_bracketed p) fun _ => .pure true

theorem makeTemp_bracketed : Bracketed id items makeTemp := by
  refine .of_log_eq fun h => ?_
  simp only [makeTemp, Act.on_ofFunction]
  split
  · split <;> rfl
  · rfl
  · rfl

theorem copyEntry_bracketed (path : Path) (content : Bytes) (r : Archive.EndRecord) :
    Bracketed id items (copyEntry path content r) := by
  refine .bind (.ofExcept _) fun e => .bind makeTemp_bracketed fun temp => ?_
  split
  · exact .bind (.of_log_eq fun _ => rfl) fun _ => .pure temp
  · exact .bind (discard_bracketed temp) fun _ => .throw _

theorem locate_bracketed (path : Path) : Bracketed id items (locate path) := by
  refine .bind (.look _) fun status => ?_
  split
  · split
    · exact .pure _
    · exact .throw _
    · exact .bind (copyEntry_bracketed path _ _) fun _ => .bind .record fun _ => .pure _
  · exact .throw _

theorem parse_bracketed (parser : Parser) (path : Path) :
    Bracketed id items (parse parser path) := by
  refine .bind (.look _) fun status => ?_
  split
  · exact .bind (.of_log_eq fun _ => rfl) fun _ => .bind (.ofExcept _) fun m =>
      Host.keepModel_bracketed m
  · exact .throw _

end BytecodeSource

/-! ## Sessions -/

namespace Session

/-- The rest of what is done for a pipeline, once there is a registry for it. -/
def pipelineFor (o : OpenOptions) (registry : Registry) : Act Host (Pipeline × Option String) :=
  match o.language <|> registry.names.head? with
  | none => return ({ registry, sections := o.sections }, none)
  | some name => do
    let pipeline : Pipeline := { registry, sections := o.sections }
    let (_, pipeline) ← Act.carrying pipeline (Pipeline.setLanguage name)
    return (pipeline, some name)

theorem pipelineFor_bracketed (beside : Pipeline.Beside items) (o : OpenOptions)
    (registry : Registry) : Bracketed id items (pipelineFor o registry) := by
  rw [pipelineFor]
  split
  · exact .pure _
  · next name _ =>
    exact .bind (.carrying (Pipeline.setLanguage_bracketed beside name) _) fun _ => .pure _

theorem makePipeline_bracketed (beside : Pipeline.Beside items) (o : OpenOptions) :
    Bracketed id items (makePipeline o) := by
  rw [makePipeline]
  split
  · exact .bind (.pure _) (pipelineFor_bracketed beside o)
  · exact .bind (Registry.builtin_bracketed true) (pipelineFor_bracketed beside o)

theorem treeOf_bracketed (n : ModelId) : Bracketed id items (treeOf n) := by
  refine .bind (.look _) fun m => ?_
  cases m with
  | none => exact .pure _
  | some m => exact .bind (.ofExcept _) fun _ => .pure _

theorem assemble_bracketed (beside : Pipeline.Beside items) (source : Path) (temp : Option Path)
    (n : ModelId) (o : OpenOptions) : Bracketed id items (assemble source temp n o) :=
  .bind (makePipeline_bracketed beside o) fun _ => .bind (treeOf_bracketed n) fun _ =>
    .bind (.carrying (Pipeline.setModel_bracketed _) _) fun _ => .pure _

theorem openSource_bracketed (beside : Pipeline.Beside items) (source : Path)
    (bytecode : BytecodeSource) (parser : Parser) (o : OpenOptions) :
    Bracketed id items (openSource source bytecode parser o) := by
  refine .bind (.attempt (BytecodeSource.parse_bracketed parser _)) fun outcome => ?_
  cases outcome with
  | error f => exact .bind (BytecodeSource.removeTemp_bracketed _) fun _ => .throw _
  | ok n =>
      refine .bind (.attempt (assemble_bracketed beside source _ n o)) fun made => ?_
      cases made with
      | error f =>
          exact .bind (Host.disposeModel_bracketed n) fun _ =>
            .bind (BytecodeSource.removeTemp_bracketed _) fun _ => .throw f
      | ok made => exact .bind .record fun _ => .pure _

theorem release_bracketed : Bracketed Prod.snd items release :=
  .bind (.onPart (Pipeline.setModel_bracketed none)) fun _ => .bind (.look _) fun s =>
    .onHost (Host.disposeModel_bracketed s.model)

end Session

end BytecodeViewer
