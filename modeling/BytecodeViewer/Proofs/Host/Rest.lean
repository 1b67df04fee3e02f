import BytecodeViewer.Host.Host
import BytecodeViewer.Proofs.Render.ClassCache

/-!
# What showing leaves alone

Making, binding and using renderers, loading plug-ins and logging change a host only in
its renderers, its records and its list of what has been loaded.
-/

namespace BytecodeViewer.Host

/-- A host without its renderers, its records and its list of what has been loaded. -/
def rest (h : Host) : Host :=
  { h with renderers := [], loaded := [], log := { h.log with records := [] } }

variable {h h' : Host}

theorem rest_files (e : h'.rest = h.rest) : h'.files = h.files :=
  congrArg (·.files) e

theorem rest_models (e : h'.rest = h.rest) : h'.models = h.models :=
  congrArg (·.models) e

theorem rest_plugins (e : h'.rest = h.rest) : h'.plugins = h.plugins :=
  congrArg (·.plugins) e

theorem rest_parsed (e : h'.rest = h.rest) : h'.parsed = h.parsed :=
  congrArg (·.parsed) e

theorem rest_model? (e : h'.rest = h.rest) (id : Option ModelId) : h'.model? id = h.model? id := by
  simp [model?, rest_models e]

def logged (h : Host) (channel : String) (level : LogLevel) (message : String)
    (withTrace : Bool := false) : Host :=
  { h with log := h.log.add channel level message withTrace }

@[simp] theorem on_record (channel : String) (level : LogLevel) (message : String)
    (withTrace : Bool) (h : Host) :
    (record channel level message withTrace).on h =
      (.ok (), h.logged channel level message withTrace) := rfl

@[simp] theorem rest_logged (h : Host) (channel : String) (level : LogLevel) (message : String)
    (withTrace : Bool) : (h.logged channel level message withTrace).rest = h.rest := by
  simp only [logged, rest, Log.add]
  split <;> rfl

@[simp] theorem renderers_logged (h : Host) (channel : String) (level : LogLevel)
    (message : String) (withTrace : Bool) :
    (h.logged channel level message withTrace).renderers = h.renderers := rfl

/-- The host while more context is bound. -/
def within (h : Host) (values : List (String × Option String)) : Host :=
  { h with log := h.log.bind (Log.present values) }

/-- The host once the context of an earlier time is bound again. -/
def rebound (h : Host) (outer : LogContext) : Host :=
  { h with log := { h.log with bound := outer } }

@[simp] theorem on_inContext {τ α : Type} (values : List (String × Option String))
    (a : HostedAct τ α) (t : τ) (h : Host) :
    (inContext values a).on (t, h) =
      ((a.on (t, h.within values)).1, (a.on (t, h.within values)).2.1,
        (a.on (t, h.within values)).2.2.rebound h.log.bound) := rfl

@[simp] theorem renderers_within (h : Host) (values : List (String × Option String)) :
    (h.within values).renderers = h.renderers := rfl

@[simp] theorem renderers_rebound (h : Host) (outer : LogContext) :
    (h.rebound outer).renderers = h.renderers := rfl

@[simp] theorem model?_within (h : Host) (values : List (String × Option String))
    (id : Option ModelId) : (h.within values).model? id = h.model? id := rfl

theorem rest_rebound {values : List (String × Option String)}
    (e : h'.rest = (h.within values).rest) : (h'.rebound h.log.bound).rest = h.rest := by
  have hlevel : h'.log.level = h.log.level := congrArg (·.log.level) e
  have hfields : (h'.rebound h.log.bound).rest =
      { h'.rest with log := { level := h'.log.level, bound := h.log.bound } } := rfl
  rw [hfields, e, hlevel]
  rfl

def languageOf? (h : Host) (id : RendererId) : Option Language :=
  (h.renderer? id).map (·.language)

@[simp] theorem renderers_setRenderer (h : Host) (id : RendererId) (r : Renderer) :
    (h.setRenderer id r).renderers = h.renderers.set id r := rfl

@[simp] theorem rest_setRenderer (h : Host) (id : RendererId) (r : Renderer) :
    (h.setRenderer id r).rest = h.rest := rfl

theorem setRenderer_self {id : RendererId} {r : Renderer} (hr : h.renderer? id = some r) :
    h.setRenderer id r = h := by
  have hset : h.renderers.set id r = h.renderers := by
    obtain ⟨hlt, hget⟩ := List.getElem?_eq_some_iff.mp hr
    rw [← hget, List.set_getElem_self]
  simp only [setRenderer, hset]

theorem lt_of_renderer? {id : RendererId} {r : Renderer} (hr : h.renderer? id = some r) :
    id < h.renderers.length :=
  (List.getElem?_eq_some_iff.mp hr).1

theorem exists_languageOf? {id : RendererId} (hid : id < h.renderers.length) :
    ∃ l, h.languageOf? id = some l :=
  ⟨h.renderers[id].language, by simp [languageOf?, renderer?, hid]⟩

theorem renderer?_of_append {more : List Renderer} (hmore : h'.renderers = h.renderers ++ more)
    {id : RendererId} (hid : id < h.renderers.length) : h'.renderer? id = h.renderer? id := by
  simp [renderer?, hmore, List.getElem?_append_left hid]

/-- The renderers that are there stay, with their languages. -/
def KeepsLanguages (h h' : Host) : Prop :=
  ∀ id < h.renderers.length, h'.languageOf? id = h.languageOf? id

theorem KeepsLanguages.length_le (k : KeepsLanguages h h') :
    h.renderers.length ≤ h'.renderers.length := by
  apply Nat.le_of_not_lt
  intro hlt
  obtain ⟨l, hl⟩ := exists_languageOf? hlt
  rw [← k _ hlt] at hl
  simp [languageOf?, renderer?] at hl

theorem KeepsLanguages.of_append {more : List Renderer}
    (hmore : h'.renderers = h.renderers ++ more) : KeepsLanguages h h' := by
  intro id hid
  simp only [languageOf?, renderer?_of_append hmore hid]

theorem KeepsLanguages.trans {h'' : Host} (k : KeepsLanguages h h') (k' : KeepsLanguages h' h'') :
    KeepsLanguages h h'' := by
  intro id hid
  rw [k' id (Nat.lt_of_lt_of_le hid k.length_le), k id hid]

theorem on_bindRenderer {id : RendererId} {r : Renderer} (hr : h.renderer? id = some r)
    (m : Option ModelId) :
    (bindRenderer id m).on h = ((r.tryBind (h.model? r.bound) m (h.model? m)).1,
      h.setRenderer id (r.tryBind (h.model? r.bound) m (h.model? m)).2) := by
  simp [bindRenderer, hr]

/-- What binding a renderer to a model comes to; without a renderer there is nothing to bind. -/
def binding (h : Host) (id : Option RendererId) (m : Option ModelId) : Except Failure Unit :=
  match id.bind h.renderer? with
  | some r => r.language.binding (h.model? r.bound) (h.model? m)
  | none => .ok ()

theorem binding_of_renderer? {id : RendererId} {r : Renderer} (hr : h.renderer? id = some r)
    (m : Option ModelId) :
    h.binding (some id) m = r.language.binding (h.model? r.bound) (h.model? m) := by
  simp [binding, hr]

/-- The language of a renderer and the model that it holds. -/
def holding? (h : Host) (id : RendererId) : Option (Language × Option ModelId) :=
  (h.renderer? id).map fun r => (r.language, r.bound)

theorem holding?_congr (e : h'.renderers = h.renderers) (id : RendererId) :
    h'.holding? id = h.holding? id := by
  simp only [holding?, renderer?, e]

/-- Binding a renderer depends on its language and on the models, not on what it remembers. -/
theorem binding_congr (holding : ∀ id, h'.holding? id = h.holding? id)
    (models : h'.models = h.models) (id : Option RendererId) (m : Option ModelId) :
    h'.binding id m = h.binding id m := by
  cases id with
  | none => rfl
  | some id =>
      have hsame := holding id
      unfold holding? at hsame
      cases hr : h.renderer? id <;> cases hr' : h'.renderer? id <;>
        simp_all [binding, model?]

theorem bindRenderer_on (id : RendererId) (m : Option ModelId) (h : Host) :
    ∃ h', (bindRenderer id m).on h = (h.binding (some id) m, h') ∧ h'.rest = h.rest := by
  cases hr : h.renderer? id with
  | none => exact ⟨h, by simp [bindRenderer, binding, hr], rfl⟩
  | some r =>
      have hbind := on_bindRenderer hr m
      rw [Renderer.tryBind_fst, ← binding_of_renderer? hr] at hbind
      exact ⟨_, hbind, rfl⟩

theorem on_rulesOf {id : RendererId} {r : Renderer} (hr : h.renderer? id = some r) :
    (rulesOf id).on h = (r.rules (h.model? r.bound), h) := by
  simp [rulesOf, hr]

theorem renderer?_setRenderer {id : RendererId} {r : Renderer} (hr : h.renderer? id = some r)
    (r' : Renderer) : (h.setRenderer id r').renderer? id = some r' := by
  simp [renderer?, lt_of_renderer? hr]

/-- A renderer that has just been bound gives its rules for the model that it is bound to. -/
theorem on_rulesOf_bind {id : RendererId} {r : Renderer} (hr : h.renderer? id = some r)
    (m : Option ModelId) : (rulesOf id).on (h.setRenderer id (r.bind m)) =
      (r.rules (h.model? m), h.setRenderer id (r.bind m)) :=
  on_rulesOf (renderer?_setRenderer hr (r.bind m))

theorem rulesOf_on (id : RendererId) (h : Host) : ∃ outcome, (rulesOf id).on h = (outcome, h) := by
  cases hr : h.renderer? id with
  | none => exact ⟨.ok [], by simp [rulesOf, hr]⟩
  | some r => exact ⟨_, on_rulesOf hr⟩

end BytecodeViewer.Host
