import BytecodeViewer.Proofs.Session.Interleaving
import BytecodeViewer.Proofs.Session.NewSession

/-!
# When sessions are independent

Sessions with registries of their own share the renderers that plug-ins publish ready.
They are independent exactly if what such a renderer writes does not depend on the model.
-/

namespace BytecodeViewer

/-- How a session is opened that has a registry of its own. -/
structure Request where
  source : Path
  parser : Parser
  language : Option String := none
  sections : Sections := .standard

namespace Request

def options (q : Request) : OpenOptions where
  language := q.language
  sections := q.sections

def «open» (q : Request) : Act Host Session :=
  Session.«open» q.source q.parser q.options

theorem newly {i : Installation} {q : Request} {h h' : Host} {s : Session} (on : i.On h)
    (hopen : q.open.on h = (.ok s, h')) :
    ∃ content m, BytecodeSource.Holds h.files q.source content s.temp.isSome ∧
      q.parser.parse content = .ok m ∧ Session.Stored h.files s h' ∧
      Session.Newly i h.renderers.length q.options m h s h' := by
  have opening := Session.open_on q.source q.parser q.options h
  rw [show (Session.«open» q.source q.parser q.options).on h = _ from hopen] at opening
  obtain ⟨content, m, holds, parses, -, -, stored, newly⟩ :=
    opening.newly (OpenOptions.own_of_none on rfl)
  exact ⟨content, m, holds, parses, stored, newly⟩

end Request

namespace Installation

/-- Two sessions over different files give, whatever the order of their calls, what each of
them gives alone.  The second one is opened when the first one has been called some times. -/
def Independent (i : Installation) : Prop :=
  ∀ (h h₁ h₂ h₃ h' : Host) (q q' : Request) (s s₁ t t' : Session) (before : List Session.Call)
    (outcomes : List (Except Failure Document)) (schedule : List (Session.Side × Session.Call)),
    i.On h → q.source ≠ q'.source → q.open.on h = (.ok s, h₁) →
    Session.run before (s, h₁) = (outcomes, s₁, h₂) →
    q'.open.on h₂ = (.ok t, h₃) → q'.open.on h = (.ok t', h') →
    Session.runBoth schedule s₁ t h₃ =
      ((Session.run (Session.callsOf .first schedule) (s₁, h₂)).1,
        (Session.run (Session.callsOf .second schedule) (t', h')).1)

/-- What renderers write that are shared does not depend on the model. -/
def SharesIgnoring (i : Installation) : Prop :=
  ∀ name l, i.shared? name = some l → l.IgnoresModel

theorem SharesIgnoring.of_offered {i : Installation} {name : String} {id : RendererId}
    {l : Language} {h : Host} (ignoring : i.SharesIgnoring) (on : i.On h)
    (offered : Registry.offered i.plugins name = .shared id) (hl : h.languageOf? id = some l) :
    l.IgnoresModel := by
  refine ignoring name l ?_
  simp only [shared?, offered]
  rw [← on.ready id (i.published name id offered), hl]

end Installation

namespace Session

variable {i : Installation} {o : OpenOptions} {m : LoadedModel} {v : View} {s t : Session}
  {h h' : Host}

theorem Safe.together (safe : Safe v s h) (cooperative : i.Cooperative)
    (ignoring : i.SharesIgnoring) (on : i.On h)
    (old : s.model < h.models.length) (newly : Newly i h.renderers.length o m h t h') :
    Together v (View.opened i o m) s t h' := by
  have on' : i.On h' := on.mono newly.plugins newly.uses.keepsLanguages
  have apart (id : RendererId) (l : Language) (hid : s.pipeline.registry.Reaches id)
      (hid' : t.pipeline.registry.Reaches id) (hl : h'.languageOf? id = some l) :
      l.IgnoresModel := by
    have hlt := safe.follows.coherent.grounded id hid
    rcases newly.serves.reaches id hid' with ⟨name, hshared⟩ | hnew
    · exact ignoring.of_offered on' hshared hl
    · exact absurd hlt (Nat.not_lt.mpr hnew)
  have own : h'.models[s.model]? = h.models[s.model]? := by
    rw [newly.models, List.getElem?_append_left old]
  obtain ⟨follows, secure⟩ := safe.follows.beside safe.secure safe.openable newly.uses
    (fun _ => own) (fun _ hid => hid.added newly.models newly.openable)
    (newly.follows.openableAt newly.openable) fun id l hid hid' hl =>
      apart id l (safe.follows.reaches hid) (newly.follows.reaches hid') (by
        rw [newly.uses.keepsLanguages id
          (safe.follows.coherent.grounded id (safe.follows.reaches hid)), hl])
  refine ⟨⟨follows, secure, safe.openable, safe.cooperative⟩, newly.safe cooperative, ?_, apart⟩
  rw [newly.number]
  exact Nat.ne_of_lt old

/-- What a session has put in the files does not hide what was there. -/
theorem Stored.extends {fs : Files} (stored : Stored fs s h) : fs.Extends h.files := by
  simp only [Stored] at stored
  split at stored
  · rw [stored]
    exact fun _ _ hx => hx
  · obtain ⟨content, inUse⟩ := stored
    exact inUse.extends

end Session

namespace Installation

open Session

theorem SharesIgnoring.independent {i : Installation} (cooperative : i.Cooperative)
    (ignoring : i.SharesIgnoring) : i.Independent := by
  intro h h₁ h₂ h₃ h' q q' s s₁ t t' before outcomes schedule on _ hopen hrun hbeside halone
  obtain ⟨_, _, -, -, stored, newly⟩ := Request.newly on hopen
  obtain ⟨v, s', k, hrun', safe, onward⟩ := (newly.safe cooperative).run_eq before
  cases hrun.symm.trans hrun'
  have on₂ : i.On h₂ := (on.mono newly.plugins newly.uses.keepsLanguages).mono onward.plugins
    onward.languages
  obtain ⟨content, m, holds, parses, -, newly₂⟩ := Request.newly on₂ hbeside
  obtain ⟨content', m', holds', parses', -, newly'⟩ := Request.newly on halone
  -- The file holds the same, whatever temporary copy the first session has made.
  obtain ⟨rfl, -⟩ := holds.unique (holds'.extends (onward.files _ stored).extends)
  cases parses.symm.trans parses'
  have old : s₁.model < h₂.models.length := by
    rw [onward.number, newly.number, onward.models, newly.models]
    simp
  have together := safe.together cooperative ignoring on₂ old newly₂
  obtain ⟨_, _, _, hfirst, -⟩ := safe.run_eq (callsOf .first schedule)
  obtain ⟨_, _, _, hsecond, -⟩ := (newly'.safe cooperative).run_eq (callsOf .second schedule)
  rw [together.runBoth_eq, hfirst, hsecond]

end Installation

/-! ## A renderer that is shared and depends on the model -/

theorem Renderer.render_none (r : Renderer) (o : Sections) (s : Selection) :
    (r.render none o s).1 = r.language.textOf none o s := by
  cases hw : r.language.writer <;> cases s <;>
    simp [Language.textOf, render, renderClass, renderMethod, hw, resolveMethod, resolveClass]

theorem Pipeline.drawn_injective {rules : List HighlightRule} {text text' : Except Failure String}
    (hdrawn : drawn (fun text rules => .ok (highlight text rules)) rules text =
      drawn (fun text rules => .ok (highlight text rules)) rules text') : text = text' := by
  cases text <;> cases text' <;> simp_all [drawn, Except.map]

namespace Session

variable {i : Installation} {n : Nat} {o : OpenOptions} {m : LoadedModel} {s t : Session}
  {h h' k : Host} {id : RendererId} {l : Language}

theorem Newly.renderer_eq (newly : Newly i n o m h s h')
    (offered : Registry.offered i.plugins o.chosen = .shared id) :
    s.pipeline.renderer = some id := by
  cases newly.follows.coherent.current with
  | idle hlanguage _ =>
      have hsome := newly.follows.language
      rw [hlanguage] at hsome
      cases hsome
  | inUse hlanguage hrenderer hnamed _ _ _ =>
      have hsome := newly.follows.language
      rw [hlanguage] at hsome
      cases hsome
      rw [hrenderer, ← hnamed, newly.serves.shared id offered]

/-- Closing a session takes the model out of the renderer that it shares. -/
theorem Newly.close_unbinds (newly : Newly i n o m h t h') (cooperative : i.Cooperative)
    (on : i.On h')
    (offered : Registry.offered i.plugins o.chosen = .shared id) (hl : i.ready[id]? = some l) :
    ∃ r, ((Call.act .close).on (t, h')).2.2.renderer? id = some r ∧ r.language = l ∧
      r.bound = none := by
  obtain ⟨p', h₁, k, hon, effect, hrenderers, -⟩ := close_on_open newly.follows.coherent
    newly.follows.closed (newly.follows.loaded rfl) (newly.follows.unbinds cooperative)
  have hinputs : p'.inputs = ⟨some o.chosen, none, none, o.sections⟩ := by
    rw [effect.inputs]
    simp [Pipeline.Inputs.after, Pipeline.inputs, newly.follows.language, newly.follows.sections,
      View.opened]
  have bound : Pipeline.Bound p' h₁ := by
    rcases effect.bound with bound | ⟨-, hsame⟩
    · exact bound
    · rw [newly.follows.model, show p'.model = none from congrArg (·.model) hinputs] at hsame
      cases hsame
  have hlanguage : h₁.languageOf? id = some l := by
    have hlt := i.published _ _ offered
    rw [effect.uses.keepsLanguages id (on.lt hlt), ← hl]
    exact on.ready id hlt
  obtain ⟨r, hr, hrl⟩ := Option.map_eq_some_iff.mp hlanguage
  have hid : p'.renderer = some id := by
    cases effect.coherent.current with
    | idle hidle _ => cases hidle.symm.trans (congrArg (·.language) hinputs)
    | inUse hname hrenderer hnamed _ _ _ =>
        cases hname.symm.trans (congrArg (·.language) hinputs)
        rw [effect.registry] at hnamed
        rw [hrenderer, ← newly.serves.shared id offered]
        exact hnamed.symm
  refine ⟨r, ?_, hrl, ?_⟩
  · simp only [Call.act, Act.on_map, hon, Host.renderer?, hrenderers]
    exact hr
  · exact (bound id r hid hr).trans (congrArg (·.model) hinputs)

/-- Once its renderer is bound to nothing, a session shows what is written for no model. -/
theorem Newly.selection_on_unbound (newly : Newly i n o m h s h') (on : i.On h')
    (offered : Registry.offered i.plugins o.chosen = .shared id) (hl : i.ready[id]? = some l)
    {r : Renderer} (hr : k.renderer? id = some r) (hrl : r.language = l) (hr' : r.bound = none)
    (selection : Selection) :
    ((Call.act (.selection (some selection))).on (s, k)).1 =
      Pipeline.drawn (fun text rules => .ok (highlight text rules)) l.rules
        (l.textOf none o.sections selection) := by
  have hid := newly.renderer_eq offered
  have hrules : s.pipeline.rules = l.rules := by
    cases newly.follows.coherent.current with
    | idle _ hidle => cases hidle.symm.trans hid
    | inUse _ hrenderer _ found rules _ =>
        cases hrenderer.symm.trans hid
        have hlanguage := on.ready id (i.published _ _ offered)
        simp only [Host.languageOf?, found, Option.map_some, hl] at hlanguage
        rw [rules, Option.some.inj hlanguage]
  let p : Pipeline := { s.pipeline with selection := some selection }
  obtain ⟨k', hon, -⟩ := Pipeline.render_on (p := p) rfl hid hr
  have hset : (Call.act (.selection (some selection))).on (s, k) =
      ((Pipeline.render.on (p, k)).1, { s with pipeline := (Pipeline.render.on (p, k)).2.1 },
        (Pipeline.render.on (p, k)).2.2) := by
    simp [Call.act, onPipeline, Pipeline.setSelection, p]
  rw [hset, hon, hr']
  change Pipeline.drawn s.pipeline.highlighter s.pipeline.rules
    (r.render none s.pipeline.sections selection).1 = _
  rw [r.render_none, newly.follows.highlighter, hrules, newly.follows.sections, hrl]
  rfl

end Session

namespace Installation

open Session

variable {i : Installation}

def newHost (i : Installation) : Host where
  plugins := i.plugins
  renderers := i.ready.map fun l => { language := l }
  files := ⟨[(["a.dex"], some (Bytes.ofList [])), (["b.dex"], some (Bytes.ofList []))]⟩

theorem on_newHost (i : Installation) : i.On i.newHost where
  plugins := rfl
  ready id _ := by
    simp [newHost, Host.languageOf?, Host.renderer?, Function.comp_def]

theorem holds_newHost (i : Installation) {name : String} (hname : name = "a.dex" ∨ name = "b.dex") :
    BytecodeSource.Holds i.newHost.files ⟨"", [name]⟩ (Bytes.ofList []) false := by
  rcases hname with rfl | rfl
  · exact .plain rfl (by decide)
  · exact .plain rfl (by decide)

/-- Closing the second of two sessions that show the same language shows in the first one
what is written for no model. -/
theorem Independent.sharesIgnoring (cooperative : i.Cooperative) (independent : i.Independent) :
    i.SharesIgnoring := by
  intro name l hl m openable o selection
  obtain ⟨id, offered, hready, hinstalled⟩ := Registry.language?_of_shared hl
  let q : Request := ⟨⟨"", ["a.dex"]⟩, parserOf m, some name, o⟩
  let q' : Request := ⟨⟨"", ["b.dex"]⟩, parserOf m, some name, o⟩
  have on := i.on_newHost
  have installed : (i.language? q.options.chosen).isSome := Option.isSome_of_eq_some hinstalled
  obtain ⟨s, h₁, hopen, stored, newly⟩ := open_plain (o := q.options) q.source q.parser on rfl
    (i.holds_newHost (.inl rfl)) rfl installed cooperative openable
  have on₁ := on.mono newly.plugins newly.uses.keepsLanguages
  obtain ⟨t, h₃, hbeside, -, newly₂⟩ := open_plain (o := q'.options) q'.source q'.parser on₁
    rfl ((i.holds_newHost (.inr rfl)).extends stored.extends) rfl installed cooperative openable
  have on₃ := on₁.mono newly₂.plugins newly₂.uses.keepsLanguages
  obtain ⟨t', h', halone, -, -⟩ := open_plain (o := q'.options) q'.source q'.parser on rfl
    (i.holds_newHost (.inr rfl)) rfl installed cooperative openable
  have both := congrArg (·.1) (independent _ _ _ _ _ q q' s s t t' [] []
    [(.second, .close), (.first, .selection (some selection))] on (by simp [q, q']) hopen rfl
    hbeside halone)
  obtain ⟨r, hr, hrl, hbound⟩ := newly₂.close_unbinds cooperative on₃ offered hready
  have beside := newly.selection_on_unbound on₁ offered hready hr hrl hbound selection
  obtain ⟨_, _, _, hrun, -⟩ := (newly.safe cooperative).run_eq [.selection (some selection)]
  have alone : (View.opened i q.options m).run [.selection (some selection)] =
      [Pipeline.drawn (fun text rules => .ok (highlight text rules)) l.rules
        (l.textOf (some m) o selection)] := by
    simp [View.run, View.step, View.due, View.opened, Pipeline.Inputs.due, OpenOptions.chosen,
      Request.options, q, hinstalled]
  have hsame : [((Call.act (.selection (some selection))).on
      (s, ((Call.act .close).on (t, h₃)).2.2)).1] =
        (run [.selection (some selection)] (s, h₁)).1 := both
  rw [hrun, alone, beside] at hsame
  exact (Pipeline.drawn_injective (List.singleton_inj.mp hsame)).symm

/-- Where renderers let themselves be bound, sessions are independent exactly if what renderers
write that are shared does not depend on the model. -/
theorem independent_iff (cooperative : i.Cooperative) : i.Independent ↔ i.SharesIgnoring :=
  ⟨Independent.sharesIgnoring cooperative, SharesIgnoring.independent cooperative⟩

end Installation

end BytecodeViewer
