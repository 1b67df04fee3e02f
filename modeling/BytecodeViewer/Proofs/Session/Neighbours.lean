import BytecodeViewer.Proofs.Session.View

/-!
# Sessions side by side

Two sessions on one host leave each other alone if they share only renderers that do not
care which model they are bound to.
-/

namespace BytecodeViewer

def LoadedModel.Openable (m : LoadedModel) : Prop :=
  ∃ roots, TreeNode.ofModel m = .ok roots

theorem LoadedModel.openable_dispose (m : LoadedModel) : m.dispose.Openable := by
  have hnames : m.dispose.names = .ok [] := by simp [names, dispose, isDisposed]
  have hsort : TreeNode.sortNames [] = [] := by simp [TreeNode.sortNames]
  refine ⟨[], ?_⟩
  simp [TreeNode.ofModel, TreeNode.listedClasses, hnames, bind, Except.bind, hsort,
    Except.map, pure, Except.pure, TreeNode.ofClasses, TreeNode.packagesOf]

/-- What is rendered for a model that can be opened is what is rendered for none. -/
def Language.IgnoresModel (l : Language) : Prop :=
  ∀ m, LoadedModel.Openable m → ∀ o s, l.textOf (some m) o s = l.textOf none o s

/-- A language that is written as lines looks classes up, so it does care. -/
theorem Language.texts_of_ignoresModel {l : Language} (ignores : l.IgnoresModel) :
    ∃ classText methodText, l.writer = .texts classText methodText := by
  cases hw : l.writer with
  | texts classText methodText => exact ⟨_, _, rfl⟩
  | lines classLines methodLines =>
      have openable := LoadedModel.openable_dispose { model := ⟨[], []⟩ }
      have hsame := ignores _ openable .standard (.wholeClass "A")
      simp [textOf, Renderer.render, Renderer.renderClass, hw, Renderer.resolveClass,
        LoadedModel.class?, LoadedModel.dispose, LoadedModel.isDisposed] at hsame

theorem Renderer.RendersFor.of_ignoresModel {r : Renderer} {now m : Option LoadedModel}
    (ignores : r.language.IgnoresModel) (hnow : ∀ x, now = some x → x.Openable)
    (hm : ∀ x, m = some x → x.Openable) : r.RendersFor now m := by
  obtain ⟨classText, methodText, hw⟩ := Language.texts_of_ignoresModel ignores
  have as_none (x : Option LoadedModel) (hx : ∀ y, x = some y → y.Openable) :
      classText x = classText none ∧
        ∀ c k, methodText x c k 0 true = methodText none c k 0 true := by
    cases x with
    | none => exact ⟨rfl, fun _ _ => rfl⟩
    | some y =>
        have hsame := ignores y (hx y rfl)
        simp only [Language.textOf, Renderer.render] at hsame
        refine ⟨?_, ?_⟩
        · funext c o
          simpa [Renderer.renderClass, hw] using hsame o (.wholeClass c)
        · intro c k
          simpa [Renderer.renderMethod, hw] using hsame .standard (.method c k)
  obtain ⟨hclass, hmethod⟩ := as_none now hnow
  obtain ⟨hclass', hmethod'⟩ := as_none m hm
  simp only [RendersFor, hw]
  exact ⟨hclass.trans hclass'.symm, fun c k => (hmethod c k).trans (hmethod' c k).symm⟩

/-- Nothing is bound, or a model that can be opened. -/
def Host.OpenableAt (h : Host) (id : Option ModelId) : Prop :=
  ∀ m, h.model? id = some m → m.Openable

namespace Host.OpenableAt

variable {h h' : Host} {id : Option ModelId} {m : LoadedModel}

theorem of_same (hid : h.OpenableAt id) (hmodels : h'.models = h.models) : h'.OpenableAt id := by
  intro x hx
  simp only [Host.model?, hmodels] at hx
  exact hid x hx

theorem disposed {k : ModelId} (hid : h.OpenableAt id)
    (hmodels : h'.models = h.models.set k m.dispose) : h'.OpenableAt id := by
  intro x hx
  cases id with
  | none => cases hx
  | some j =>
      have hx' : h'.models[j]? = some x := hx
      rw [hmodels, List.getElem?_set] at hx'
      split at hx'
      · split at hx'
        · cases hx'
          exact m.openable_dispose
        · cases hx'
      · exact hid x hx'

theorem added (hid : h.OpenableAt id) (hmodels : h'.models = h.models ++ [m])
    (openable : m.Openable) : h'.OpenableAt id := by
  intro x hx
  cases id with
  | none => cases hx
  | some j =>
      have hx' : h'.models[j]? = some x := hx
      rw [hmodels, List.getElem?_append] at hx'
      split at hx'
      · exact hid x hx'
      · rw [List.mem_singleton.mp (List.mem_of_getElem? hx')]
        exact openable

end Host.OpenableAt

namespace Session

/-- The renderer in use is bound to the model of the pipeline, or does not care. -/
def Secure (p : Pipeline) (h : Host) : Prop :=
  ∀ id r, p.renderer = some id → h.renderer? id = some r →
    r.bound = p.model ∨ (r.language.IgnoresModel ∧ h.OpenableAt r.bound)

/-- Renderers that two registries reach do not care for models. -/
def Apart (a b : Registry) (h : Host) : Prop :=
  ∀ id l, a.Reaches id → b.Reaches id → h.languageOf? id = some l → l.IgnoresModel

variable {v w : View} {s t : Session} {h h' : Host}

theorem Follows.openableAt (follows : Follows v s h) (openable : v.model.Openable) :
    h.OpenableAt s.pipeline.model := by
  intro m hm
  rw [follows.model?_eq] at hm
  split at hm
  · cases hm
  · cases hm
    exact openable

theorem Follows.reaches (follows : Follows v s h) {id : RendererId}
    (hid : s.pipeline.renderer = some id) : s.pipeline.registry.Reaches id := by
  cases follows.coherent.current with
  | idle _ hnone => simp [hnone] at hid
  | inUse _ hrenderer hnamed =>
      obtain rfl := Option.some.inj (hrenderer.symm.trans hid)
      exact .inl ⟨_, hnamed⟩

/-- What another session does, with `p` its pipeline afterwards, does not change what a
session shows. -/
theorem Follows.beside {p : Pipeline} (follows : Follows v s h) (secure : Secure s.pipeline h)
    (openable : v.model.Openable) (uses : Pipeline.UsesCurrent p h h')
    (own : v.closed = false → h'.models[s.model]? = h.models[s.model]?)
    (stays : ∀ id, h.OpenableAt id → h'.OpenableAt id) (theirs : h'.OpenableAt p.model)
    (apart : ∀ id l, s.pipeline.renderer = some id → p.renderer = some id →
      h.languageOf? id = some l → l.IgnoresModel) :
    Follows v s h' ∧ Secure s.pipeline h' := by
  have hmodel : h'.model? s.pipeline.model = h.model? s.pipeline.model := by
    rw [follows.model]
    cases hclosed : v.closed with
    | true => rfl
    | false => exact own hclosed
  have mine := follows.openableAt openable
  -- The renderer in use is the one it was, or it is shared and does not care.
  have kept (id : RendererId) (r : Renderer) (hid : s.pipeline.renderer = some id)
      (hr : h.renderer? id = some r) :
      (p.renderer ≠ some id ∧ h'.renderer? id = some r) ∨
        ∃ r', h'.renderer? id = some r' ∧ r'.language = r.language ∧
          r.language.IgnoresModel ∧ h'.OpenableAt r'.bound := by
    by_cases hp : p.renderer = some id
    · obtain ⟨r', hr', hlang, hbound⟩ := uses.current id r hp hr
      refine .inr ⟨r', hr', hlang, apart id _ hid hp (by simp [Host.languageOf?, hr]), ?_⟩
      rcases hbound with hbound | hbound
      · rw [hbound]
        rcases secure id r hid hr with hsame | ⟨-, hopenable⟩
        · exact stays _ (hsame ▸ mine)
        · exact stays _ hopenable
      · exact hbound ▸ theirs
    · exact .inl ⟨hp, (uses.others id (Host.lt_of_renderer? hr) hp).trans hr⟩
  have coherent : Pipeline.Coherent v.languages s.pipeline h' := by
    refine follows.coherent.transport uses.keepsLanguages (fun _ => hmodel) ?_
    intro id r hid hr hrenders
    rcases kept id r hid hr with ⟨-, hr'⟩ | ⟨r', hr', hlang, ignores, hopenable⟩
    · refine ⟨r, hr', rfl, ?_⟩
      rcases secure id r hid hr with hsame | ⟨ignores, hopenable⟩
      · rw [hsame, hmodel]
        rwa [hsame] at hrenders
      · exact .of_ignoresModel ignores (stays _ hopenable) mine
    · exact ⟨r', hr', hlang, .of_ignoresModel (hlang ▸ ignores) hopenable mine⟩
  refine ⟨⟨coherent, follows.highlighter, follows.language, follows.selection, follows.sections,
    follows.names, follows.closed, follows.model, fun hopen => (own hopen).trans
      (follows.loaded hopen)⟩, ?_⟩
  intro id r' hid hr'
  obtain ⟨r, hr⟩ := follows.coherent.exists_renderer hid
  rcases kept id r hid hr with ⟨-, hr₁⟩ | ⟨r₁, hr₁, hlang, ignores, hopenable⟩
  · obtain rfl := Option.some.inj (hr₁.symm.trans hr')
    exact (secure id r hid hr).imp_right fun hshared => ⟨hshared.1, stays _ hshared.2⟩
  · obtain rfl := Option.some.inj (hr₁.symm.trans hr')
    exact .inr ⟨hlang ▸ ignores, hopenable⟩

/-! ## Turns of one session -/

/-- A session shows what a view says, whatever happens beside it. -/
structure Safe (v : View) (s : Session) (h : Host) : Prop where
  follows : Follows v s h
  secure : Secure s.pipeline h
  openable : v.model.Openable
  cooperative : v.Cooperative

theorem Turn.models_length {c : Call} {outcome : Except Failure Document} {s' : Session}
    (turn : Turn v c s h outcome s' h') : h'.models.length = h.models.length := by
  rcases turn.models with hsame | hset
  · rw [hsame]
  · rw [hset, List.length_set]

theorem Turn.other_model {c : Call} {outcome : Except Failure Document} {s' : Session}
    (turn : Turn v c s h outcome s' h') {id : ModelId} (hid : s.model ≠ id) :
    h'.models[id]? = h.models[id]? := by
  rcases turn.models with hsame | hset
  · rw [hsame]
  · rw [hset, List.getElem?_set_ne hid]

theorem Turn.stays {c : Call} {outcome : Except Failure Document} {s' : Session}
    (turn : Turn v c s h outcome s' h') (id : Option ModelId) (hid : h.OpenableAt id) :
    h'.OpenableAt id := by
  rcases turn.models with hsame | hset
  · exact hid.of_same hsame
  · exact hid.disposed hset

theorem Turn.secure {c : Call} {outcome : Except Failure Document} {s' : Session}
    (turn : Turn v c s h outcome s' h') (safe : Safe v s h) : Secure s'.pipeline h' := by
  intro id r' hid hr'
  rcases turn.bound with bound | ⟨hrenderer, hmodel⟩
  · exact .inl (bound id r' hid hr')
  · obtain ⟨r, hr⟩ := safe.follows.coherent.exists_renderer (hrenderer ▸ hid)
    obtain ⟨r₁, hr₁, hlang, hbound⟩ := turn.uses.current id r hid hr
    obtain rfl := Option.some.inj (hr₁.symm.trans hr')
    rcases hbound with hsame | hnew
    · rw [hsame, hmodel, hlang]
      exact (safe.secure id r (hrenderer ▸ hid) hr).imp_right fun hshared =>
        ⟨hshared.1, turn.stays _ hshared.2⟩
    · exact .inl hnew

theorem Turn.safe {c : Call} {outcome : Except Failure Document} {s' : Session}
    (turn : Turn v c s h outcome s' h') (safe : Safe v s h) : Safe (v.step c).2 s' h' :=
  ⟨turn.follows, turn.secure safe, by rw [View.step_model]; exact safe.openable,
    safe.cooperative.step c⟩

theorem Safe.turn (safe : Safe v s h) (c : Call) :
    ∃ outcome s' h', c.act.on (s, h) = (outcome, s', h') ∧ Turn v c s h outcome s' h' :=
  safe.follows.turn c (safe.follows.binds safe.cooperative c)

/-! ## Turns of two sessions -/

/-- Two sessions with models of their own, which share only renderers that do not care. -/
structure Together (v w : View) (s t : Session) (h : Host) : Prop where
  first : Safe v s h
  second : Safe w t h
  numbers : s.model ≠ t.model
  apart : Apart s.pipeline.registry t.pipeline.registry h

theorem Together.symm (together : Together v w s t h) : Together w v t s h :=
  ⟨together.second, together.first, together.numbers.symm,
    fun id l hid hid' => together.apart id l hid' hid⟩

theorem Together.turn {c : Call} {outcome : Except Failure Document} {s' : Session}
    (together : Together v w s t h) (turn : Turn v c s h outcome s' h') :
    Together (v.step c).2 w s' t h' := by
  have safe := turn.safe together.first
  -- What both reach now was reached by both before, since it was there.
  have shared (id : RendererId) (hid : s'.pipeline.registry.Reaches id)
      (hid' : t.pipeline.registry.Reaches id) :
      s.pipeline.registry.Reaches id ∧ id < h.renderers.length := by
    have hlt := together.second.follows.coherent.grounded id hid'
    rcases turn.reaches id hid with hold | hnew
    · exact ⟨hold, hlt⟩
    · exact absurd hlt (Nat.not_lt.mpr hnew)
  obtain ⟨follows, secure⟩ := together.second.follows.beside together.second.secure
    together.second.openable turn.uses (fun _ => turn.other_model together.numbers) turn.stays
    (safe.follows.openableAt safe.openable) (by
      intro id l hid hid' hl
      have hreach := together.second.follows.reaches hid
      exact together.apart id l (shared id (safe.follows.reaches hid') hreach).1 hreach hl)
  refine ⟨safe, ⟨follows, secure, together.second.openable, together.second.cooperative⟩, ?_, ?_⟩
  · rw [turn.number]
    exact together.numbers
  · intro id l hid hid' hl
    obtain ⟨hold, hlt⟩ := shared id hid hid'
    rw [turn.uses.keepsLanguages id hlt] at hl
    exact together.apart id l hold hid' hl

end Session

end BytecodeViewer
