import BytecodeViewer.Proofs.Session.History
import BytecodeViewer.Proofs.Session.Leaving
import BytecodeViewer.Proofs.Session.Opening

/-!
# Uses of a session

The pipeline of a session is called and its tree is filtered, in any order.  Its pipeline stays
coherent, and without a model it shows nothing as long as its languages are plain.
-/

namespace BytecodeViewer

/-! ## Languages like the built-in ones -/

namespace Language

variable {l : Language}

/-- The renderers of a language can be bound, give their rules, and look up what they write. -/
structure Plain (l : Language) : Prop extends Cooperative l where
  looksUp : ∃ classLines methodLines, l.writer = .lines classLines methodLines

theorem plain_of_builtin (hl : l ∈ builtin) : l.Plain := by
  obtain ⟨classLines, methodLines, hwriter⟩ := exists_lines hl
  exact ⟨cooperative_of_builtin hl, _, _, hwriter⟩

theorem textOf_none (plain : l.Plain) (o : Sections) (s : Selection) :
    ∃ f, l.textOf none o s = .error f := by
  obtain ⟨classLines, methodLines, hwriter⟩ := plain.looksUp
  cases s with
  | wholeClass c =>
      exact ⟨_, by simp [textOf, Renderer.render, Renderer.renderClass, hwriter,
        Renderer.resolveClass]; rfl⟩
  | method c k =>
      exact ⟨_, by simp [textOf, Renderer.render, Renderer.renderMethod, hwriter,
        Renderer.resolveMethod, Renderer.resolveClass]; rfl⟩
  | unsupported text => exact ⟨_, rfl⟩

end Language

namespace Pipeline

/-- A coherent pipeline in a plain language. -/
structure Plain (languages : String → Option Language) (p : Pipeline) (h : Host) : Prop where
  coherent : Coherent languages p h
  bound : Bound p h
  plain : ∀ name l, p.language = some name → languages name = some l → l.Plain

namespace Call

/-- If the language is switched, then to a plain one. -/
def Plain (languages : String → Option Language) : Call → Prop
  | language name => ∀ l, languages name = some l → l.Plain
  | _ => True

end Call

variable {languages : String → Option Language} {p p' : Pipeline} {h h' : Host} {call : Call}

theorem Inputs.model_after (i : Inputs) (keeps : ¬call.SetsModel) :
    (i.after languages call).model = i.model := by
  cases call with
  | model m => exact absurd trivial keeps
  | language name =>
      simp only [after]
      split <;> rfl
  | selection s => rfl
  | sections o => rfl
  | render => rfl

theorem Effect.plain {outcome : Except Failure Document} (plain : p.Plain languages h)
    (plainly : call.Plain languages) (effect : Effect languages call p h outcome p' h') :
    p'.Plain languages h' := by
  refine ⟨effect.coherent, effect.bound_after plain.coherent plain.bound, ?_⟩
  have hlanguage : p'.language = (p.inputs.after languages call).language :=
    congrArg (·.language) effect.inputs
  rw [hlanguage]
  intro name l hname hl
  cases call with
  | language other =>
      simp only [Inputs.after] at hname
      split at hname
      · cases hname
        exact plainly l hl
      · exact plain.plain name l hname hl
  | selection s => exact plain.plain name l hname hl
  | model m => exact plain.plain name l hname hl
  | sections o => exact plain.plain name l hname hl
  | render => exact plain.plain name l hname hl

theorem Plain.binds (plain : p.Plain languages h) (plainly : call.Plain languages) :
    call.Binds p h := by
  cases call with
  | language name => exact plain.coherent.taking_eq fun l hl => (plainly l hl).toCooperative
  | model m =>
      exact plain.coherent.binding_eq
        (fun name l hlanguage hl => (plain.plain name l hlanguage hl).toCooperative) m
  | selection s => trivial
  | sections o => trivial
  | render => trivial

/-- Without a model there is nothing to show. -/
theorem Plain.due_without_model (plain : p.Plain languages h) (hmodel : p.model = none) :
    p.due languages h = .ok .empty ∨ ∃ f, p.due languages h = .error f := by
  simp only [due, Inputs.due, inputs, hmodel, Host.model?, Option.bind_none]
  cases hs : p.selection with
  | none => exact .inl rfl
  | some s =>
      cases hl : p.language.bind languages with
      | none => exact .inl rfl
      | some l =>
          obtain ⟨name, hname, hlanguage⟩ := Option.bind_eq_some_iff.mp hl
          obtain ⟨f, hf⟩ := Language.textOf_none (plain.plain name l hname hlanguage) p.sections s
          exact .inr ⟨f, by simp [drawn, hf]⟩

theorem Plain.document_without_model (plain : p.Plain languages h) (hmodel : p.model = none) :
    p.document = .empty := by
  rw [plain.coherent.document]
  rcases plain.due_without_model hmodel with hdue | ⟨f, hdue⟩
  · simp [shown, hdue, Except.toOption]
  · simp [shown, hdue, Except.toOption]

theorem Effect.without_model {outcome : Except Failure Document} (plain : p.Plain languages h)
    (plainly : call.Plain languages) (keeps : ¬call.SetsModel) (hmodel : p.model = none)
    (effect : Effect languages call p h outcome p' h') :
    p'.model = none ∧ ∀ d, outcome = .ok d → d = .empty := by
  have hmodel' : p'.model = none := by
    rw [show p'.model = p'.inputs.model from rfl, effect.inputs, Inputs.model_after _ keeps]
    exact hmodel
  refine ⟨hmodel', fun d hd => ?_⟩
  have houtcome := effect.outcome_eq
  rw [hd] at houtcome
  cases hrefused : call.refusal? languages p.registry.names with
  | some f =>
      rw [hrefused] at houtcome
      cases houtcome
  | none =>
      rw [hrefused] at houtcome
      rcases (effect.plain plain plainly).due_without_model hmodel' with hdue | ⟨f, hdue⟩
      · simpa [hdue] using houtcome
      · simp [hdue] at houtcome

end Pipeline

namespace Session

inductive Use where
  | call (c : Pipeline.Call)
  | filter (text : String)
  | close

namespace Use

/-- Uses a session.  Filtering and closing count as giving the empty document. -/
def act : Use → HostedAct Session Document
  | call c => onPipeline c.act
  | filter text => (fun _ => .empty) <$> setFilter text
  | close => (fun _ => .empty) <$> Session.close

def Plain (languages : String → Option Language) : Use → Prop
  | call c => c.Plain languages
  | _ => True

def SetsModel : Use → Prop
  | call c => c.SetsModel
  | _ => False

theorem call_ne_close (c : Pipeline.Call) : call c ≠ close := by
  intro hclose
  cases hclose

end Use

/-- Others have changed the host, but nothing there that a session uses.  The files may have
changed in any way. -/
structure Aside (s : Session) (h h' : Host) : Prop where
  undisturbed : Pipeline.Undisturbed s.pipeline h h'
  model : h'.models[s.model]? = h.models[s.model]?

/-- A session after some uses that are allowed, and its host after what others have done. -/
inductive Uses (allowed : Use → Prop) (s₀ : Session) (h₀ : Host) : Session → Host → Prop
  | start : Uses allowed s₀ h₀ s₀ h₀
  | use {s : Session} {h : Host} (uses : Uses allowed s₀ h₀ s h) (u : Use) (ok : allowed u) :
      Uses allowed s₀ h₀ (u.act.on (s, h)).2.1 (u.act.on (s, h)).2.2
  | aside {s : Session} {h h' : Host} (uses : Uses allowed s₀ h₀ s h) (aside : Aside s h h') :
      Uses allowed s₀ h₀ s h'

variable {languages : String → Option Language} {s₀ s : Session} {h h' : Host} {m : LoadedModel}

/-- A session holds what another one holds, and its model is as it was. -/
structure Held (languages : String → Option Language) (s₀ : Session) (m : LoadedModel)
    (s : Session) (h : Host) : Prop where
  plain : s.pipeline.Plain languages h
  hold : s.hold = s₀.hold
  model : h.models[s.model]? = some m

theorem Held.aside (held : Held languages s₀ m s h) (aside : Aside s h h') :
    Held languages s₀ m s h' := by
  obtain ⟨coherent, bound⟩ := held.plain.coherent.undisturbed held.plain.bound aside.undisturbed
  exact ⟨⟨coherent, bound, held.plain.plain⟩, held.hold, aside.model.trans held.model⟩

/-- What one use does, unless it closes an open session. -/
theorem Held.use (held : Held languages s₀ m s h) (u : Use) (plainly : u.Plain languages)
    (leaves : u = .close → s₀.closed = true) :
    ∃ outcome s' h', u.act.on (s, h) = (outcome, s', h') ∧ Held languages s₀ m s' h' ∧
      (s.pipeline.model = none → ¬u.SetsModel →
        s'.pipeline.model = none ∧ ∀ d, outcome = .ok d → d = .empty) := by
  cases u with
  | call c =>
      obtain ⟨outcome, p', h', hon, effect⟩ :=
        held.plain.coherent.effect c (held.plain.binds plainly)
      refine ⟨outcome, { s with pipeline := p' }, h', ?_, ⟨?_, held.hold, ?_⟩, ?_⟩
      · simp [Use.act, onPipeline, hon]
      · exact effect.plain held.plain plainly
      · rw [Host.rest_models effect.rest]
        exact held.model
      · intro hmodel unset
        exact effect.without_model held.plain plainly unset hmodel
  | filter text =>
      refine ⟨.ok .empty, { s with tree := s.tree.setFilter text }, h, ?_,
        ⟨held.plain, held.hold, held.model⟩, fun hmodel _ => ⟨hmodel, ?_⟩⟩
      · simp [Use.act, setFilter, Except.map]
      · rintro _ ⟨⟩
        rfl
  | close =>
      have hclosed : s.closed = true := by
        rw [show s.closed = s₀.closed from congrArg Prod.snd held.hold, leaves rfl]
      refine ⟨.ok .empty, s, h, ?_, held, fun hmodel _ => ⟨hmodel, ?_⟩⟩
      · simp [Use.act, close_on_closed hclosed, Except.map]
      · rintro _ ⟨⟩
        rfl

theorem Held.uses {allowed : Use → Prop} {s₁ : Session} {h₁ : Host}
    (held : Held languages s₀ m s₁ h₁)
    (plainly : ∀ u, allowed u → u.Plain languages ∧ (u = .close → s₀.closed = true))
    (uses : Uses allowed s₁ h₁ s h) : Held languages s₀ m s h := by
  induction uses with
  | start => exact held
  | use uses u ok ih =>
      obtain ⟨outcome, s', h', hon, held', -⟩ := ih.use u (plainly u ok).1 (plainly u ok).2
      rw [hon]
      exact held'
  | aside uses aside ih => exact ih.aside aside

end Session

end BytecodeViewer
