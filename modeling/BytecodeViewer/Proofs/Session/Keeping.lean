import BytecodeViewer.Proofs.Host.Keeps
import BytecodeViewer.Proofs.Session.PipelineStep
import BytecodeViewer.Session.Session

/-!
# What showing keeps

Whatever is shown in a session, and in whatever state its pipeline is, the session keeps its
file and its model, and the host everything but renderers and records.
-/

namespace BytecodeViewer

open Act (Keeps beside)

theorem Host.useRenderer_keeps {α : Type} (id : RendererId)
    (work : Renderer → Option LoadedModel → Except Failure α × Renderer) :
    Keeps Host.rest (Host.useRenderer id work) := by
  intro h
  cases hr : h.renderer? id <;> simp [Host.useRenderer, hr]

theorem Host.bindRenderer_keeps (id : RendererId) (m : Option ModelId) :
    Keeps Host.rest (Host.bindRenderer id m) := by
  intro h
  obtain ⟨h', hon, hrest⟩ := bindRenderer_on id m h
  rw [hon]
  exact hrest

theorem Host.rulesOf_keeps (id : RendererId) : Keeps Host.rest (Host.rulesOf id) := by
  intro h
  obtain ⟨outcome, hon⟩ := rulesOf_on id h
  rw [hon]

namespace Registry

theorem resolve_keeps (name : String) : Keeps (beside fun _ => ()) (resolve name) := by
  rintro ⟨r, h⟩
  have res := resolve_on name r h
  rcases hon : (resolve name).on (r, h) with ⟨outcome, r', h'⟩
  rw [hon] at res
  exact Prod.ext rfl res.rest_eq

theorem loadPending_keeps (name : String) : Keeps (beside fun _ => ()) (loadPending name) := by
  refine .bind (.look _) fun r => ?_
  split
  · exact .pure ()
  · next e _ =>
    refine .bind (.setOwn fun _ => rfl) fun _ => .bind ?_ fun _ => .pure ()
    rintro ⟨r, h⟩
    obtain ⟨b, r', h', hon, -, hrest⟩ := load_on e "renderer entry point" r h
    rw [hon]
    exact Prod.ext rfl hrest

theorem loadEach_keeps (names : List String) : Keeps (beside fun _ => ()) (loadEach names) := by
  induction names with
  | nil => exact .pure ()
  | cons name names ih => exact .bind (loadPending_keeps name) fun _ => ih

theorem loadedNames_keeps : Keeps (beside fun _ => ()) loadedNames :=
  .bind (.bind (.look _) fun _ => loadEach_keeps _) fun _ => .bind (.look _) fun _ => .pure _

end Registry

namespace Pipeline

theorem renderText_keeps (id : RendererId) (sections : Sections) (s : Selection) :
    Keeps Host.rest (renderText id sections s) := by
  cases s with
  | wholeClass c => exact Host.useRenderer_keeps id _
  | method c k => exact Host.useRenderer_keeps id _
  | unsupported text => exact .throw _

theorem noteIdleRules_keeps (rules : List HighlightRule) :
    Keeps Host.rest (noteIdleRules rules) := by
  induction rules with
  | nil => exact .pure ()
  | cons rule rules ih =>
      rw [noteIdleRules]
      split
      · exact .bind .record fun _ => ih
      · exact ih

theorem renderSelection_keeps (p : Pipeline) (id : RendererId) (s : Selection) :
    Keeps Host.rest (p.renderSelection id s) :=
  .bind (renderText_keeps id p.sections s) fun _ => .bind (.ofExcept _) fun _ =>
    .bind (noteIdleRules_keeps p.rules) fun _ => .pure _

/-- Rendering keeps all of a pipeline but its document. -/
theorem render_keeps_undrawn {κ : Type} (own : Pipeline → κ)
    (undrawn : ∀ p document, own { p with document } = own p) : Keeps (beside own) render := by
  refine .bind (.look _) fun p => ?_
  split
  · next s id _ _ =>
    refine .inContext (.bind (.attempt (.onHost (p.renderSelection_keeps id s))) fun outcome => ?_) _
    split
    · exact .bind (.onHost .record) fun _ =>
        .bind (.setOwn fun p => undrawn p _) fun _ => .pure _
    · exact .bind (.setOwn fun p => undrawn p _) fun _ => .bind (.onHost .record) fun _ => .throw _
  · exact .bind (.setOwn fun p => undrawn p _) fun _ => .pure _

theorem render_keeps : Keeps (beside fun _ => ()) render :=
  render_keeps_undrawn (fun _ => ()) fun _ _ => rfl

/-- Rendering keeps the languages of all renderers, and the models that they hold. -/
theorem renderText_keeps_holding (id other : RendererId) (sections : Sections) (s : Selection) :
    Keeps (·.holding? other) (renderText id sections s) := by
  intro h
  cases hr : h.renderer? id with
  | none => cases s <;> simp [renderText, Host.useRenderer, hr]
  | some r =>
      rw [renderText_on hr]
      by_cases hother : id = other
      · subst hother
        have same := r.render_same (h.model? r.bound) sections s
        simp [Host.holding?, Host.renderer?_setRenderer hr, hr, same.language, same.bound]
      · simp [Host.holding?, Host.renderer?, List.getElem?_set_ne hother]

theorem renderSelection_keeps_holding (p : Pipeline) (id other : RendererId) (s : Selection) :
    Keeps (·.holding? other) (p.renderSelection id s) := by
  refine .bind (renderText_keeps_holding id other p.sections s) fun _ =>
    .bind (.ofExcept _) fun _ => .bind ?_ fun _ => .pure _
  intro h
  obtain ⟨h', hon, -, hrenderers⟩ := noteIdleRules_on p.rules h
  rw [hon]
  exact Host.holding?_congr hrenderers other

theorem render_keeps_holding (id : RendererId) :
    Keeps (fun s : Pipeline × Host => s.2.holding? id) render := by
  rintro ⟨p, h⟩
  cases hs : p.selection with
  | none => rw [render_idle_on (.inl hs)]
  | some s =>
      cases hid : p.renderer with
      | none => rw [render_idle_on (.inr hid)]
      | some other =>
          have hkept := p.renderSelection_keeps_holding other id s
            (h.within [("language", p.language),
              ("selection", some (Selection.describe (some s)))])
          have hsame : ((p.renderSelection other s).on (h.within [("language", p.language),
              ("selection", some (Selection.describe (some s)))])).2.holding? id =
                h.holding? id := hkept
          change (render.on (p, h)).2.2.holding? id = h.holding? id
          rw [← hsame]
          rcases hon : (p.renderSelection other s).on (h.within [("language", p.language),
            ("selection", some (Selection.describe (some s)))]) with ⟨_ | _, h₁⟩
          · simp [render, hs, hid, hon, Host.holding?, Host.renderer?]
          · simp [render, hs, hid, hon, Host.holding?, Host.renderer?, Except.map]

theorem onRegistry_keeps {α : Type} {a : HostedAct Registry α}
    (h : Keeps (beside fun _ => ()) a) : Keeps (beside fun _ => ()) (onRegistry a) :=
  .onPart h fun _ _ => rfl

theorem setLanguage_keeps (name : String) : Keeps (beside fun _ => ()) (setLanguage name) :=
  .bind (onRegistry_keeps (Registry.resolve_keeps name)) fun id =>
    .bind (.look _) fun p => .bind (.onHost (Host.bindRenderer_keeps id p.model)) fun _ =>
      .bind (.setOwn fun _ => rfl) fun _ => .bind (.onHost (Host.rulesOf_keeps id)) fun _ =>
        .bind (.setOwn fun _ => rfl) fun _ => .bind (.onHost .record) fun _ => render_keeps

theorem setSelection_keeps (selection : Option Selection) :
    Keeps (beside fun _ => ()) (setSelection selection) :=
  .bind (.setOwn fun _ => rfl) fun _ => render_keeps

/-- What is selected does not matter for unbinding the renderer. -/
theorem setSelection_keeps_unbinding (selection : Option Selection) :
    Keeps (fun s : Pipeline × Host => s.2.binding s.1.renderer none) (setSelection selection) := by
  rintro ⟨p, h⟩
  have hon : (setSelection selection).on (p, h) = render.on ({ p with selection }, h) := by
    simp [setSelection]
  have hrenderer : (render.on ({ p with selection }, h)).2.1.renderer = p.renderer :=
    congrArg Prod.fst (render_keeps_undrawn (·.renderer) (fun _ _ => rfl) ({ p with selection }, h))
  have hrest : (render.on ({ p with selection }, h)).2.2.rest = h.rest :=
    congrArg Prod.snd (render_keeps ({ p with selection }, h))
  rw [hon]
  simp only [hrenderer]
  exact Host.binding_congr (fun id => render_keeps_holding id ({ p with selection }, h))
    (Host.rest_models hrest) p.renderer none

end Pipeline

namespace Session

/-- What a session has been opened for: the file, the model and the temporary copy. -/
def file (s : Session) : Path × ModelId × Option Path :=
  (s.source, s.model, s.temp)

/-- A session but for what it shows. -/
def hold (s : Session) : (Path × ModelId × Option Path) × Bool :=
  (s.file, s.closed)

theorem onPipeline_keeps {α : Type} {a : HostedAct Pipeline α}
    (h : Keeps (beside fun _ => ()) a) : Keeps (beside hold) (onPipeline a) :=
  .onPart h fun _ _ => rfl

/-- What unbinding the renderer of a session comes to. -/
def unbinding (s : Session × Host) : Except Failure Unit :=
  s.2.binding s.1.pipeline.renderer none

theorem setFilter_keeps (text : String) : Keeps (beside hold) (setFilter text) :=
  .setOwn fun _ => rfl

end Session

end BytecodeViewer
