import BytecodeViewer.Proofs.Plugin.Calls
import BytecodeViewer.Proofs.Session.Calls
import BytecodeViewer.Proofs.Session.Keeping

/-!
# Which parts of a pipeline a call changes

Rendering changes the document alone.  A call selects what it is told to select, and only
switching the language changes the registry, unless all plug-ins have been loaded.
-/

namespace BytecodeViewer.Pipeline

open Act (beside)

variable {p : Pipeline} {h : Host}

theorem render_changes (p : Pipeline) (h : Host) :
    ∃ document, (render.on (p, h)).2.1 = { p with document } := by
  have hkept := congrArg Prod.fst
    (render_keeps_undrawn (fun p => { p with document := .empty }) (fun _ _ => rfl) (p, h))
  refine ⟨(render.on (p, h)).2.1.document, ?_⟩
  rcases hp : (render.on (p, h)).2.1 with ⟨registry, sections, highlighter, language, renderer,
    rules, model, selection, document⟩
  simp only [beside, hp, mk.injEq] at hkept
  obtain ⟨rfl, rfl, rfl, rfl, rfl, rfl, rfl, rfl, -⟩ := hkept
  rfl

theorem setLanguage_changes (name : String) (p : Pipeline) (h : Host) :
    ∃ language renderer rules document, ((setLanguage name).on (p, h)).2.1 =
      { p with
        registry := ((Registry.resolve name).on (p.registry, h)).2.1
        language, renderer, rules, document } := by
  rcases hresolve : (Registry.resolve name).on (p.registry, h) with ⟨_ | id, registry, h₁⟩
  · exact ⟨p.language, p.renderer, p.rules, p.document, by simp [setLanguage, onRegistry, hresolve]⟩
  · obtain ⟨h₂, hbind, -⟩ := Host.bindRenderer_on id p.model h₁
    obtain ⟨given, hrules⟩ := Host.rulesOf_on id h₂
    cases hbinding : h₁.binding (some id) p.model with
    | error f =>
        exact ⟨p.language, p.renderer, p.rules, p.document,
          by simp [setLanguage, onRegistry, hresolve, hbind, hbinding]⟩
    | ok _ =>
        cases given with
        | error f =>
            exact ⟨some name, some id, p.rules, p.document,
              by simp [setLanguage, onRegistry, hresolve, hbind, hbinding, hrules]⟩
        | ok rules =>
            let p₁ := p.inLanguage registry name id rules
            let h₃ := h₂.logged channel .debug ("Output language set to " ++ name)
            obtain ⟨document, hrender⟩ := render_changes p₁ h₃
            have hon : (setLanguage name).on (p, h) = render.on (p₁, h₃) := by
              simp [setLanguage, onRegistry, hresolve, hbind, hbinding, hrules, p₁, h₃, inLanguage]
            exact ⟨_, _, _, document, by rw [hon, hrender]; rfl⟩

namespace Call

/-- What is selected once a call is over that sets no model. -/
def selected (now : Option Selection) : Call → Option Selection
  | selection s => s
  | _ => now

theorem on_selects (call : Call) (keeps : ¬call.SetsModel) (p : Pipeline) (h : Host) :
    (call.act.on (p, h)).2.1.selection = call.selected p.selection := by
  cases call with
  | language name =>
      obtain ⟨language, renderer, rules, document, hset⟩ := setLanguage_changes name p h
      simp only [act, hset, selected]
  | selection s =>
      obtain ⟨document, hrender⟩ := render_changes { p with selection := s } h
      simp [act, setSelection, hrender, selected]
  | model m => exact absurd trivial keeps
  | sections o =>
      obtain ⟨document, hrender⟩ := render_changes { p with sections := o } h
      simp [act, setSections, hrender, selected]
  | render =>
      obtain ⟨document, hrender⟩ := render_changes p h
      simp [act, hrender, selected]

theorem on_registry (call : Call) (p : Pipeline) (h : Host) :
    (call.act.on (p, h)).2.1.registry = call.registry p.registry h := by
  cases call with
  | language name =>
      obtain ⟨language, renderer, rules, document, hset⟩ := setLanguage_changes name p h
      simp only [act, hset, registry]
  | selection s =>
      obtain ⟨document, hrender⟩ := render_changes { p with selection := s } h
      simp [act, setSelection, hrender, registry]
  | model m =>
      obtain ⟨h', hset, -⟩ := setModel_on p m h
      cases hbinding : h.binding p.renderer m <;> simp [act, hset, hbinding, registry]
  | sections o =>
      obtain ⟨document, hrender⟩ := render_changes { p with sections := o } h
      simp [act, setSections, hrender, registry]
  | render =>
      obtain ⟨document, hrender⟩ := render_changes p h
      simp [act, hrender, registry]

theorem registry_idle (call : Call) {r : Registry} (idle : r.pending = []) (h : Host) :
    call.registry r h = r := by
  cases call with
  | language name => exact congrArg Prod.fst (Registry.resolve_on_idle idle name h)
  | selection s => rfl
  | model m => rfl
  | sections o => rfl
  | render => rfl

end Call

end BytecodeViewer.Pipeline
