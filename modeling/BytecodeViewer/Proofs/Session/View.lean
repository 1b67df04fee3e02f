import BytecodeViewer.Proofs.Session.Calls
import BytecodeViewer.Proofs.Session.Opening

/-!
# What a session shows on its own

A view is what a session is to its user: the model, what has been set, and the names of
languages in use.  `View.step` says what each call gives, without any renderers.
-/

namespace BytecodeViewer

namespace Session

inductive Call where
  | language (name : String)
  | selection (s : Option Selection)
  | sections (o : Sections)
  | close

/-- Runs a call.  Closing counts as giving the empty document. -/
def Call.act : Call → HostedAct Session Document
  | .language name => onPipeline (Pipeline.setLanguage name)
  | .selection s => onPipeline (Pipeline.setSelection s)
  | .sections o => onPipeline (Pipeline.setSections o)
  | .close => (fun _ => .empty) <$> Session.close

end Session

structure View where
  languages : String → Option Language
  model : LoadedModel
  names : List String
  language : Option String
  selection : Option Selection := none
  sections : Sections
  closed : Bool := false

namespace View

def due (v : View) : Except Failure Document :=
  Pipeline.Inputs.due ⟨v.language, none, v.selection, v.sections⟩ v.languages
    (if v.closed then none else some v.model) fun text rules => .ok (highlight text rules)

/-- What a call gives, and the view afterwards. -/
def step (v : View) : Session.Call → Except Failure Document × View
  | .language name =>
    if (v.languages name).isSome then
      let v' := { v with
        language := some name, names := Registry.namesAfter v.languages v.names name }
      (v'.due, v')
    else (.error (.noRenderer name v.names), v)
  | .selection s => ({ v with selection := s }.due, { v with selection := s })
  | .sections o => ({ v with sections := o }.due, { v with sections := o })
  | .close =>
    if v.closed then (.ok .empty, v)
    else
      (match v.model.disposeFailure with
        | some f => .error f
        | none => .ok .empty, { v with selection := none, closed := true })

theorem step_model (v : View) (c : Session.Call) : (v.step c).2.model = v.model := by
  cases c with
  | language name =>
      simp only [step]
      split <;> rfl
  | selection s => rfl
  | sections o => rfl
  | close =>
      simp only [step]
      split <;> rfl

theorem step_languages (v : View) (c : Session.Call) : (v.step c).2.languages = v.languages := by
  cases c with
  | language name =>
      simp only [step]
      split <;> rfl
  | selection s => rfl
  | sections o => rfl
  | close =>
      simp only [step]
      split <;> rfl

/-- Renderers of the languages of a view let themselves be bound, and give their rules. -/
def Cooperative (v : View) : Prop :=
  ∀ name l, v.languages name = some l → l.Cooperative

theorem Cooperative.step {v : View} (cooperative : v.Cooperative) (c : Session.Call) :
    (v.step c).2.Cooperative := by
  unfold Cooperative
  rw [step_languages]
  exact cooperative

def run (v : View) : List Session.Call → List (Except Failure Document)
  | [] => []
  | c :: cs => (v.step c).1 :: (v.step c).2.run cs

end View

namespace Session

/-- A session and its host are as a view says. -/
structure Follows (v : View) (s : Session) (h : Host) : Prop where
  coherent : Pipeline.Coherent v.languages s.pipeline h
  highlighter : s.pipeline.highlighter = fun text rules => .ok (highlight text rules)
  language : s.pipeline.language = v.language
  selection : s.pipeline.selection = v.selection
  sections : s.pipeline.sections = v.sections
  names : s.pipeline.registry.names = v.names
  closed : s.closed = v.closed
  model : s.pipeline.model = if v.closed then none else some s.model
  loaded : v.closed = false → h.models[s.model]? = some v.model

variable {v : View} {s : Session} {h : Host}

theorem Follows.model?_eq (follows : Follows v s h) :
    h.model? s.pipeline.model = if v.closed then none else some v.model := by
  rw [follows.model]
  cases hclosed : v.closed with
  | true => rfl
  | false => exact follows.loaded hclosed

theorem Follows.due_eq (follows : Follows v s h) : s.pipeline.due v.languages h = v.due := by
  simp only [Pipeline.due, Pipeline.Inputs.due, Pipeline.inputs, View.due, follows.highlighter,
    follows.language, follows.selection, follows.sections, follows.model?_eq]

/-- The files are some other files and the temporary copy of the session, which is deleted
once the session is closed. -/
def Stored (fs : Files) (s : Session) (h : Host) : Prop :=
  if s.closed then h.files = fs else ∃ content, BytecodeSource.InUse fs content s.temp h.files

/-- Everything that a call does to a session and to its host. -/
structure Turn (v : View) (c : Call) (s : Session) (h : Host)
    (outcome : Except Failure Document) (s' : Session) (h' : Host) : Prop where
  outcome_eq : outcome = (v.step c).1
  follows : Follows (v.step c).2 s' h'
  number : s'.model = s.model
  uses : Pipeline.UsesCurrent s'.pipeline h h'
  bound : Pipeline.Bound s'.pipeline h' ∨
    (s'.pipeline.renderer = s.pipeline.renderer ∧ s'.pipeline.model = s.pipeline.model)
  reaches : ∀ id, s'.pipeline.registry.Reaches id →
    s.pipeline.registry.Reaches id ∨ h.renderers.length ≤ id
  /-- No model is changed but the session's own, which may be disposed. -/
  models : h'.models = h.models ∨ h'.models = h.models.set s.model v.model.dispose
  plugins : h'.plugins = h.plugins
  files : ∀ fs, Stored fs s h → Stored fs s' h'

theorem Follows.turn_of_effect {c : Call} {call : Pipeline.Call}
    {outcome : Except Failure Document} {p' : Pipeline} {h' : Host} (follows : Follows v s h)
    (effect : Pipeline.Effect v.languages call s.pipeline h outcome p' h')
    (step_view : (v.step c).2.languages = v.languages ∧ (v.step c).2.model = v.model ∧
      (v.step c).2.closed = v.closed)
    (inputs : s.pipeline.inputs.after v.languages call = ⟨(v.step c).2.language,
      s.pipeline.model, (v.step c).2.selection, (v.step c).2.sections⟩)
    (names : (call.registry s.pipeline.registry h).names = (v.step c).2.names)
    (outcome_eq : (v.step c).1 = match call.refusal? v.languages v.names with
      | some f => .error f
      | none => (v.step c).2.due) :
    Turn v c s h outcome { s with pipeline := p' } h' := by
  obtain ⟨hlanguages, hmodel, hclosed⟩ := step_view
  have hinputs := effect.inputs.trans inputs
  have follows' : Follows (v.step c).2 { s with pipeline := p' } h' := by
    refine ⟨hlanguages ▸ effect.coherent, effect.highlighter.trans follows.highlighter,
      congrArg (·.language) hinputs, congrArg (·.selection) hinputs,
      congrArg (·.sections) hinputs, ?_, ?_, ?_, ?_⟩
    · rw [← names]
      exact congrArg Registry.names effect.registry
    · rw [hclosed]
      exact follows.closed
    · rw [hclosed]
      exact (congrArg (·.model) hinputs).trans follows.model
    · rw [hclosed, hmodel, Host.rest_models effect.rest]
      exact follows.loaded
  refine ⟨?_, follows', rfl, effect.uses, effect.bound, ?_, .inl (Host.rest_models effect.rest),
    Host.rest_plugins effect.rest, ?_⟩
  · rw [outcome_eq, effect.outcome_eq, follows.names]
    cases call.refusal? v.languages v.names with
    | some f => rfl
    | none => exact hlanguages ▸ follows'.due_eq
  · intro id hid
    exact call.reaches_registry (effect.registry ▸ hid)
  · intro fs stored
    simp only [Stored, Host.rest_files effect.rest]
    exact stored

/-- The renderer that a call binds lets itself be bound, and gives its rules. -/
def Call.Binds (s : Session) (h : Host) : Call → Prop
  | .language name => s.pipeline.taking name h = .ok ()
  | .close => s.closed = false → h.binding s.pipeline.renderer none = .ok ()
  | _ => True

theorem Follows.unbinds (follows : Follows v s h) (cooperative : v.Cooperative) :
    h.binding s.pipeline.renderer none = .ok () :=
  follows.coherent.binds cooperative (.model none)

theorem Follows.binds (follows : Follows v s h) (cooperative : v.Cooperative) (c : Call) :
    c.Binds s h := by
  cases c with
  | language name => exact follows.coherent.binds cooperative (.language name)
  | close => exact fun _ => follows.unbinds cooperative
  | selection selection => trivial
  | sections o => trivial

theorem Follows.language_turn (follows : Follows v s h) (name : String)
    (binds : (Call.language name).Binds s h) :
    ∃ outcome s' h', (Call.act (.language name)).on (s, h) = (outcome, s', h') ∧
      Turn v (.language name) s h outcome s' h' := by
  obtain ⟨outcome, p', h', hon, effect⟩ := follows.coherent.effect (.language name) binds
  have hlanguages : s.pipeline.registry.language? h = v.languages :=
    funext follows.coherent.names
  have hnames : ((Pipeline.Call.language name).registry s.pipeline.registry h).names =
      Registry.namesAfter v.languages v.names name := by
    rw [← hlanguages, ← follows.names]
    exact (Registry.resolve_on name s.pipeline.registry h).names_eq follows.coherent.grounded
  refine ⟨outcome, { s with pipeline := p' }, h', ?_, ?_⟩
  · change (onPipeline (Pipeline.Call.act (.language name))).on (s, h) = _
    simp [onPipeline, hon]
  · refine follows.turn_of_effect effect ?_ ?_ ?_ ?_
    all_goals cases hsome : v.languages name with
    | none => simp [View.step, hsome, hnames, Registry.namesAfter, Pipeline.Inputs.after,
        Pipeline.inputs, Pipeline.Call.refusal?, follows.language, follows.selection,
        follows.sections]
    | some l => simp [View.step, hsome, hnames, Registry.namesAfter, Pipeline.Inputs.after,
        Pipeline.inputs, Pipeline.Call.refusal?, follows.language, follows.selection,
        follows.sections]

theorem Follows.selection_turn (follows : Follows v s h) (selection : Option Selection) :
    ∃ outcome s' h', (Call.act (.selection selection)).on (s, h) = (outcome, s', h') ∧
      Turn v (.selection selection) s h outcome s' h' := by
  obtain ⟨outcome, p', h', hon, effect⟩ := follows.coherent.effect (.selection selection) trivial
  refine ⟨outcome, { s with pipeline := p' }, h', ?_, ?_⟩
  · change (onPipeline (Pipeline.Call.act (.selection selection))).on (s, h) = _
    simp [onPipeline, hon]
  · refine follows.turn_of_effect effect ⟨rfl, rfl, rfl⟩ ?_ follows.names rfl
    simp [View.step, Pipeline.Inputs.after, Pipeline.inputs, follows.language, follows.sections]

theorem Follows.sections_turn (follows : Follows v s h) (o : Sections) :
    ∃ outcome s' h', (Call.act (.sections o)).on (s, h) = (outcome, s', h') ∧
      Turn v (.sections o) s h outcome s' h' := by
  obtain ⟨outcome, p', h', hon, effect⟩ := follows.coherent.effect (.sections o) trivial
  refine ⟨outcome, { s with pipeline := p' }, h', ?_, ?_⟩
  · change (onPipeline (Pipeline.Call.act (.sections o))).on (s, h) = _
    simp [onPipeline, hon]
  · refine follows.turn_of_effect effect ⟨rfl, rfl, rfl⟩ ?_ follows.names rfl
    simp [View.step, Pipeline.Inputs.after, Pipeline.inputs, follows.language, follows.selection]

theorem close_on_closed (hclosed : s.closed = true) (h : Host) :
    Session.close.on (s, h) = (.ok (), s, h) := by
  simp [Session.close, hclosed]

/-- An open session is closed by taking the model out of the pipeline, disposing it and
deleting the temporary copy. -/
theorem close_on_steps {p' : Pipeline} {outcome : Except Failure Unit} {b : Bool} {h₁ h₂ h₃ : Host}
    (hopen : s.closed = false)
    (hset : (Pipeline.setModel none).on (s.pipeline, h.within [("file", some s.source.name)]) =
      (.ok (), p', h₁))
    (hdispose : (Host.disposeModel s.model).on h₁ = (outcome, h₂))
    (hremove : (BytecodeSource.removeTemp s.temp).on h₂ = (.ok b, h₃)) :
    Session.close.on (s, h) = (outcome, { s with closed := true, pipeline := p' },
      (h₃.logged channel .debug ("Closed session for " ++ s.source.text)).rebound h.log.bound) := by
  cases outcome <;> simp [Session.close, hopen, release, onPipeline, hset, hdispose, hremove]

/-- Where the model cannot be taken out of the pipeline, it is not disposed, and the temporary
copy is deleted all the same. -/
theorem close_on_refused {p' : Pipeline} {f : Failure} {b : Bool} {h₁ h₂ : Host}
    (hopen : s.closed = false)
    (hset : (Pipeline.setModel none).on (s.pipeline, h.within [("file", some s.source.name)]) =
      (.error f, p', h₁))
    (hremove : (BytecodeSource.removeTemp s.temp).on h₁ = (.ok b, h₂)) :
    Session.close.on (s, h) = (.error f, { s with closed := true, pipeline := p' },
      (h₂.logged channel .debug ("Closed session for " ++ s.source.text)).rebound h.log.bound) := by
  simp [Session.close, hopen, release, onPipeline, hset, hremove]

theorem close_on_open {languages : String → Option Language} {m : LoadedModel}
    (coherent : Pipeline.Coherent languages s.pipeline h) (hopen : s.closed = false)
    (hm : h.models[s.model]? = some m) (unbinds : h.binding s.pipeline.renderer none = .ok ()) :
    ∃ p' h₁ h', Session.close.on (s, h) =
        (match m.disposeFailure with
          | some f => .error f
          | none => .ok (), { s with closed := true, pipeline := p' }, h') ∧
      Pipeline.Effect languages (.model none) s.pipeline
        (h.within [("file", some s.source.name)]) (.ok .empty) p' h₁ ∧
      h'.renderers = h₁.renderers ∧ h'.models = h.models.set s.model m.dispose ∧
      h'.plugins = h.plugins ∧ ∀ fs, Stored fs s h → h'.files = fs := by
  have coherent' : Pipeline.Coherent languages s.pipeline
      (h.within [("file", some s.source.name)]) := coherent.of_same rfl rfl
  obtain ⟨p', h₁, hset, effect⟩ := coherent'.setModel_effect unbinds
  have hmodels : h₁.models = h.models := (Host.rest_models effect.rest :)
  have hm₁ : h₁.models[s.model]? = some m := hmodels ▸ hm
  obtain ⟨b, h₂, hremove, hfileless⟩ :=
    BytecodeSource.removeTemp_total s.temp (h₁.setModel s.model m.dispose)
  refine ⟨p', h₁, _, close_on_steps hopen hset (disposeModel_on hm₁) hremove, effect,
    congrArg (·.renderers) hfileless, ?_, ?_, ?_⟩
  · rw [← hmodels]
    exact congrArg (·.models) hfileless
  · exact (congrArg (·.plugins) hfileless).trans (Host.rest_plugins effect.rest :)
  · intro fs stored
    have hfiles : h₁.files = h.files := (Host.rest_files effect.rest :)
    simp only [Stored, hopen, Bool.false_eq_true, if_false, ← hfiles] at stored
    obtain ⟨content, inUse⟩ := stored
    have hon := BytecodeSource.InUse.removeTemp_on (h := h₁.setModel s.model m.dispose) inUse
    rw [hremove] at hon
    exact congrArg (·.2.files) hon

theorem Follows.close_turn_closed (follows : Follows v s h) (hclosed : v.closed = true) :
    ∃ outcome s' h', (Call.act .close).on (s, h) = (outcome, s', h') ∧
      Turn v .close s h outcome s' h' := by
  have hon := close_on_closed (follows.closed.trans hclosed) h
  refine ⟨.ok .empty, s, h, by simp [Call.act, hon, Except.map], ?_⟩
  have hstep : v.step .close = (.ok .empty, v) := by simp [View.step, hclosed]
  exact ⟨by rw [hstep], by rwa [hstep], rfl, .of_kept fun _ _ => rfl, .inr ⟨rfl, rfl⟩,
    fun _ hid => .inl hid, .inl rfl, rfl, fun _ stored => stored⟩

theorem Follows.close_turn_open (follows : Follows v s h) (hopen : v.closed = false)
    (unbinds : h.binding s.pipeline.renderer none = .ok ()) :
    ∃ outcome s' h', (Call.act .close).on (s, h) = (outcome, s', h') ∧
      Turn v .close s h outcome s' h' := by
  obtain ⟨p', h₁, h', hon, effect, hrenderers, hmodels, hplugins, hfiles⟩ :=
    close_on_open follows.coherent (follows.closed.trans hopen) (follows.loaded hopen) unbinds
  have hmodel : p'.model = none := congrArg (·.model) effect.inputs
  have bound : Pipeline.Bound p' h₁ := by
    rcases effect.bound with hbound | ⟨-, hsame⟩
    · exact hbound
    · rw [hmodel, follows.model, hopen] at hsame
      cases hsame
  have hrenderer (id : RendererId) : h'.renderer? id = h₁.renderer? id := by
    simp only [Host.renderer?, hrenderers]
  have coherent : Pipeline.Coherent v.languages p' h' :=
    effect.coherent.of_renderers bound hmodel hrenderers
  have hstep : v.step .close = (match v.model.disposeFailure with
      | some f => .error f
      | none => .ok .empty, { v with selection := none, closed := true }) := by
    simp [View.step, hopen]
  have hact : (Call.act .close).on (s, h) =
      ((v.step .close).1, { s with closed := true, pipeline := p' }, h') := by
    rw [hstep]
    cases hd : v.model.disposeFailure <;> rw [hd] at hon <;> simp [Call.act, hon, Except.map]
  refine ⟨_, _, _, hact, rfl, ?_, rfl, effect.uses.of_renderers rfl hrenderers, ?_, ?_,
    .inr hmodels, hplugins, hfiles⟩
  · rw [hstep]
    exact ⟨coherent, effect.highlighter.trans follows.highlighter,
      (congrArg (·.language) effect.inputs).trans follows.language,
      congrArg (·.selection) effect.inputs,
      (congrArg (·.sections) effect.inputs).trans follows.sections,
      (congrArg Registry.names effect.registry).trans follows.names, rfl, hmodel,
      fun h => Bool.noConfusion h⟩
  · exact .inl fun id r hid hr => bound id r hid ((hrenderer id).symm.trans hr)
  · intro id hid
    exact Pipeline.Call.reaches_registry (.model none) (effect.registry ▸ hid)

/-- Every call that can bind its renderer is a turn that gives what the view says. -/
theorem Follows.turn (follows : Follows v s h) (c : Call) (binds : c.Binds s h) :
    ∃ outcome s' h', c.act.on (s, h) = (outcome, s', h') ∧ Turn v c s h outcome s' h' := by
  cases c with
  | language name => exact follows.language_turn name binds
  | selection selection => exact follows.selection_turn selection
  | sections o => exact follows.sections_turn o
  | close =>
      cases hclosed : v.closed with
      | true => exact follows.close_turn_closed hclosed
      | false => exact follows.close_turn_open hclosed (binds (follows.closed.trans hclosed))

end Session

end BytecodeViewer
