import BytecodeViewer.Proofs.Plugin.Loading
import BytecodeViewer.Proofs.Session.Independence
import BytecodeViewer.Proofs.Viewer.Telling

/-!
# Opening a file in place of another one

The viewer opens the new session before it closes the old one.  If renderers that are shared
do not depend on the model, the new session shows its own model all the same.
-/

namespace BytecodeViewer

namespace Session

structure Closes (s : Session) (h h' : Host) : Prop where
  uses : Pipeline.UsesCurrent { s.pipeline with model := none } h h'
  models : h'.models = h.models ∨ ∃ m : LoadedModel, h'.models = h.models.set s.model m.dispose
  plugins : h'.plugins = h.plugins

theorem disposeModel_leaves (id : ModelId) (h : Host) :
    ∃ outcome h', (Host.disposeModel id).on h = (outcome, h') ∧ h'.renderers = h.renderers ∧
      h'.plugins = h.plugins ∧
      (h'.models = h.models ∨ ∃ m : LoadedModel, h'.models = h.models.set id m.dispose) := by
  cases hm : h.models[id]? with
  | none => exact ⟨.ok (), h, by simp [Host.disposeModel, hm], rfl, rfl, .inl rfl⟩
  | some m => exact ⟨_, _, disposeModel_on hm, rfl, rfl, .inr ⟨m, rfl⟩⟩

theorem closes (s : Session) (h : Host) :
    ∃ outcome s' h', Session.close.on (s, h) = (outcome, s', h') ∧ Closes s h h' := by
  cases hclosed : s.closed with
  | true =>
      exact ⟨_, _, _, close_on_closed hclosed h, .of_kept fun _ _ => rfl, .inl rfl, rfl⟩
  | false =>
      let h₀ := h.within [("file", some s.source.name)]
      obtain ⟨h₁, hset, hrest, uses⟩ := Pipeline.setModel_on s.pipeline none h₀
      have hmodels₁ : h₁.models = h.models := (Host.rest_models hrest :)
      have hplugins₁ : h₁.plugins = h.plugins := (Host.rest_plugins hrest :)
      cases hbinding : h₀.binding s.pipeline.renderer none with
      | error f =>
          rw [hbinding] at hset
          obtain ⟨b, h₂, hremove, hfileless⟩ := BytecodeSource.removeTemp_total s.temp h₁
          refine ⟨_, _, _, close_on_refused hclosed hset hremove, ?_, .inl ?_, ?_⟩
          · exact uses.of_renderers rfl (congrArg (·.renderers) hfileless)
          · exact (congrArg (·.models) hfileless).trans hmodels₁
          · exact (congrArg (·.plugins) hfileless).trans hplugins₁
      | ok _ =>
          rw [hbinding] at hset
          obtain ⟨outcome, h₂, hdispose, hrenderers, hplugins, hmodels⟩ :=
            disposeModel_leaves s.model h₁
          obtain ⟨b, h₃, hremove, hfileless⟩ := BytecodeSource.removeTemp_total s.temp h₂
          refine ⟨outcome, _, _, close_on_steps hclosed hset hdispose hremove, ?_, ?_, ?_⟩
          · exact uses.of_renderers rfl ((congrArg (·.renderers) hfileless).trans hrenderers)
          · rw [← hmodels₁]
            exact (congrArg (·.models) hfileless) ▸ hmodels
          · exact (congrArg (·.plugins) hfileless).trans (hplugins.trans hplugins₁)

theorem Closes.logged {s : Session} {h h' : Host} (closes : Closes s h h') (channel : String)
    (level : LogLevel) (message : String) (withTrace : Bool) :
    Closes s h (h'.logged channel level message withTrace) :=
  ⟨closes.uses.of_renderers rfl rfl, closes.models, closes.plugins⟩

end Session

theorem Pipeline.Coherent.grown {languages : String → Option Language} {p : Pipeline}
    {registry : Registry} {h h' : Host} (coherent : Coherent languages p h)
    (grown : Registry.Grown p.registry h registry h') :
    Coherent languages { p with registry } h' := by
  obtain ⟨more, hmore⟩ := grown.renderers
  have hmodel := Host.rest_model? grown.rest
  have names (name : String) : registry.language? h' name = languages name :=
    (grown.languages name).trans (coherent.names name)
  refine ⟨⟨grown.grounded, names, ?_⟩, ?_⟩
  · cases coherent.current with
    | idle language renderer => exact .idle language renderer
    | inUse language renderer named found rules renders =>
        refine .inUse language renderer (grown.keeps _ _ named)
          ((Host.renderer?_of_append hmore (Host.lt_of_renderer? found)).trans found) rules ?_
        rw [hmodel, hmodel]
        exact renders
  · rw [coherent.document]
    simp only [due, hmodel]
    rfl

theorem Session.Follows.grown {w : View} {t : Session} {registry : Registry} {h h' : Host}
    (follows : Follows w t h) (grown : Registry.Grown t.pipeline.registry h registry h') :
    Follows { w with names := registry.names } { t with pipeline.registry := registry } h' where
  coherent := follows.coherent.grown grown
  highlighter := follows.highlighter
  language := follows.language
  selection := follows.selection
  sections := follows.sections
  names := rfl
  closed := follows.closed
  model := follows.model
  loaded hopen := by
    rw [Host.rest_models grown.rest]
    exact follows.loaded hopen

theorem Session.Turn.document_eq {w : View} {t t' : Session} {h h' : Host}
    {selection : Option Selection} {outcome : Except Failure Document}
    (turn : Turn w (.selection selection) t h outcome t' h') :
    t'.pipeline.document = Pipeline.shown { w with selection }.due := by
  rw [turn.follows.coherent.document, turn.follows.due_eq]
  rfl

namespace Viewer

variable {v v' : Viewer} {h h' : Host} {s t : Session}

theorem findParser_on (v : Viewer) (h : Host) :
    ∃ outcome v' h', findParser.on (v, h) = (outcome, v', h') ∧ v'.session = v.session ∧
      h'.rest = h.rest ∧ h'.renderers = h.renderers := by
  cases hparser : v.parser with
  | some p => exact ⟨.ok p, v, h, by simp [findParser, hparser], rfl, rfl, rfl⟩
  | none =>
      obtain ⟨outcome, h', hfind, hrest, hrenderers⟩ := ParserLookup.find_on v.settings.parser h
      cases outcome with
      | ok p =>
          exact ⟨.ok p, { v with parser := some p }, h', by simp [findParser, hparser, hfind,
            Except.map], rfl, hrest, hrenderers⟩
      | error f =>
          exact ⟨.error f, v, h', by simp [findParser, hparser, hfind], rfl, hrest, hrenderers⟩

/-- The viewer opens a session with a registry of its own. -/
theorem openSession_on {path : Path} (hopen : (openSession path).on (v, h) = (.ok s, v', h')) :
    v'.session = v.session ∧ ∃ parser o h₀,
      o.registry = some (Registry.fresh h.plugins h.renderers.length) ∧
      h₀.rest = h.rest ∧ h₀.renderers = h.renderers ++ Registry.freshRenderers ∧
      (Session.«open» path parser o).on h₀ = (.ok s, h') := by
  obtain ⟨h₁, hbuiltin, hrest₁, hrenderers₁⟩ := Registry.builtin_on h
  obtain ⟨language, h₂, hpick, hrest₂, hrenderers₂⟩ :=
    Registry.pickLanguage_on (some v.settings.language)
      (Registry.fresh h.plugins h.renderers.length) h₁
  obtain ⟨outcome, v₃, h₃, hfind, hsession, hrest₃, hrenderers₃⟩ := findParser_on v h₂
  simp only [openSession, Act.on_bind, Act.on_own, Act.on_onHost, hbuiltin, Act.on_carrying,
    hpick, Except.map, hfind, Act.on_ofExcept] at hopen
  cases outcome with
  | error f => cases hopen
  | ok parser =>
      cases hsections : Sections.ofNames v.settings.classSections with
      | error f => simp [hsections] at hopen
      | ok sections =>
          simp only [hsections, Prod.mk.injEq] at hopen
          obtain ⟨houtcome, rfl, hhost⟩ := hopen
          let registry := Registry.fresh h.plugins h.renderers.length
          let o : OpenOptions := { registry := some registry, language, sections }
          refine ⟨hsession, parser, o, h₃, rfl, hrest₃.trans (hrest₂.trans hrest₁),
            hrenderers₃.trans (hrenderers₂.trans hrenderers₁), ?_⟩
          rw [← houtcome, ← hhost]

theorem close_on (v : Viewer) (h : Host) :
    ∃ v' h', close.on (v, h) = (.ok (), v', h') ∧
      ((v.session = none ∧ h' = h) ∨ ∃ s, v.session = some s ∧ s.Closes h h') := by
  cases hsession : v.session with
  | none => exact ⟨v, h, close_on_none hsession h, .inl ⟨rfl, rfl⟩⟩
  | some s =>
      obtain ⟨outcome, s', h₁, hclose, closes⟩ := Session.closes s h
      obtain ⟨h', hon, hlogged⟩ := close_on_held hsession hclose
      refine ⟨_, h', hon, .inr ⟨s, rfl, ?_⟩⟩
      rcases hlogged with rfl | ⟨message, rfl⟩
      · exact closes
      · exact closes.logged ..

/-- Once a session has been opened and the old one closed, the new one is held, and its
plug-ins are loaded. -/
theorem open_on {path : Path} {v₁ v₂ : Viewer} {h₁ h₂ : Host}
    (hsession : (openSession path).on (v, h) = (.ok t, v₁, h₁))
    (hclose : close.on (v₁, h₁) = (.ok (), v₂, h₂)) (grounded : t.pipeline.registry.Grounded h₂)
    (free : t.pipeline.registry.WaitsFree) :
    ∃ v' registry h', (Viewer.«open» path).on (v, h) = (.ok true, v', h') ∧
      v'.session = some { t with pipeline.registry := registry } ∧
      Registry.Grown t.pipeline.registry h₂ registry h' := by
  obtain ⟨registry, h', hnames, grown⟩ := Registry.loadedNames_on grounded free
  exact ⟨_, registry, h', (open_on_announce hsession hclose).trans (announce_on rfl hnames), rfl,
    grown⟩

/-- Where nothing is selected yet, what a node stands for is selected in the session. -/
theorem selectNode_turns {w : View} {node : TreeNode} {selection : Selection}
    (hsession : v.session = some t) (follows : Session.Follows w t h) (hnone : w.selection = none)
    (hselection : node.selection? = some selection) :
    ∃ outcome t' h', (Session.Call.act (.selection (some selection))).on (t, h) =
        (outcome, t', h') ∧
      Session.Turn w (.selection (some selection)) t h outcome t' h' ∧
      (selectNode (some node)).on (v, h) = (.ok (), v.telling (some t')
        (complaint ((Session.Call.act (.selection (some selection))).failure? (t, h)) ++
          [.document t'.pipeline.document]), h') := by
  obtain ⟨outcome, t', h', hon, turn⟩ := follows.turn (.selection (some selection)) trivial
  refine ⟨outcome, t', h', hon, turn, ?_⟩
  have hcurrent : v.selection = none := by
    simp [Viewer.selection, hsession, follows.selection, hnone]
  have hselect : (selectNode (some node)).on (v, h) =
      (display (Pipeline.setSelection (some selection))).on (v, h) := by
    simp [selectNode, hselection, hcurrent, hsession]
  have hpipeline : (Session.onPipeline (Pipeline.setSelection (some selection))).on (t, h) =
      (outcome, t', h') := hon
  rw [Session.onPipeline, Act.on_onPart] at hpipeline
  cases hpipeline
  rw [hselect, display_on hsession]
  rfl

theorem selectNode_on {w : View} {node : TreeNode} {selection : Selection}
    (hsession : v.session = some t) (follows : Session.Follows w t h) (hnone : w.selection = none)
    (hselection : node.selection? = some selection) :
    ∃ v' h', (selectNode (some node)).on (v, h) = (.ok (), v', h') ∧
      v'.document = Pipeline.shown { w with selection := some selection }.due := by
  obtain ⟨outcome, t', h', -, turn, hon⟩ := selectNode_turns hsession follows hnone hselection
  exact ⟨_, _, hon, turn.document_eq⟩

/-- The session that is held refers to a model and a renderer that are there. -/
def HoldsFound (v : Viewer) (h : Host) : Prop :=
  ∀ s, v.session = some s → s.model < h.models.length ∧
    ∀ id, s.pipeline.renderer = some id → id < h.renderers.length

theorem holdsFound {w : View} (hsession : v.session = some t) (follows : Session.Follows w t h)
    (hopen : w.closed = false) : v.HoldsFound h := by
  intro s hs
  obtain rfl := Option.some.inj (hsession.symm.trans hs)
  refine ⟨(List.getElem?_eq_some_iff.mp (follows.loaded hopen)).1, ?_⟩
  intro id hid
  exact follows.coherent.grounded id (follows.reaches hid)

end Viewer

/-- Closing another session leaves a session alone that has just been opened. -/
theorem Session.Newly.closes {i : Installation} {n : Nat} {o : OpenOptions} {m : LoadedModel}
    {s t : Session} {h h₁ h₂ : Host} (newly : Newly i n o m h t h₁) (ignoring : i.SharesIgnoring)
    (on : i.On h₁) (model : s.model < h.models.length)
    (renderer : ∀ id, s.pipeline.renderer = some id → id < n) (closes : Closes s h₁ h₂) :
    Follows (View.opened i o m) t h₂ := by
  refine (newly.follows.beside newly.secure newly.openable closes.uses ?_ ?_ nofun ?_).1
  · intro _
    rcases closes.models with hsame | ⟨x, hset⟩
    · rw [hsame]
    · rw [hset, List.getElem?_set_ne]
      rw [newly.number]
      exact Nat.ne_of_lt model
  · intro id hid
    rcases closes.models with hsame | ⟨x, hset⟩
    · exact hid.of_same hsame
    · exact hid.disposed hset
  · intro id l hid hid' hl
    rcases newly.serves.reaches id (newly.follows.reaches hid) with ⟨name, hshared⟩ | hnew
    · exact ignoring.of_offered on hshared hl
    · exact absurd (renderer id hid') (Nat.not_lt.mpr hnew)

namespace Installation

/-- Once a file has been opened in place of another one, a node shows what its class or
method is in the model of the new file. -/
def Replaces (i : Installation) : Prop :=
  ∀ (v v' : Viewer) (h h' : Host) (path : Path), i.On h → v.HoldsFound h →
    (Viewer.«open» path).on (v, h) = (.ok true, v', h') →
    v'.HoldsFound h' ∧
    ∃ (s : Session) (m : LoadedModel) (l : Language), v'.session = some s ∧ s.source = path ∧
      (∃ (parser : Parser) (content : Bytes) (isArchive : Bool),
        BytecodeSource.Holds h.files path content isArchive ∧ parser.parse content = .ok m) ∧
      h'.models[s.model]? = some m ∧ TreeNode.ofModel m = .ok s.tree.roots ∧
      s.pipeline.language.bind i.language? = some l ∧
      ∀ node selection, TreeNode.selection? node = some selection →
        ∃ v'' h'', (Viewer.selectNode (some node)).on (v', h') = (.ok (), v'', h'') ∧
          v''.document = Pipeline.shown
            (Pipeline.drawn (fun text rules => .ok (highlight text rules)) l.rules
              (l.textOf (some m) s.pipeline.sections selection))

theorem SharesIgnoring.replaces {i : Installation} (ignoring : i.SharesIgnoring) :
    i.Replaces := by
  intro v v' h h' path on found hopen
  rcases hsession : (Viewer.openSession path).on (v, h) with ⟨_ | t, v₁, h₁⟩
  · simp [Viewer.«open», hsession, Viewer.signal, Except.map] at hopen
  · obtain ⟨hheld, parser, o, h₀, hregistry, hrest, hrenderers, hon⟩ :=
      Viewer.openSession_on hsession
    have on₀ : i.On h₀ := on.mono (Host.rest_plugins hrest) (.of_append hrenderers)
    have opening := Session.open_on path parser o h₀
    rw [hon] at opening
    obtain ⟨content, m, holds, parses, tree, hsource, -, newly⟩ :=
      opening.newly (OpenOptions.own_of_some on hrenderers hregistry)
    have on₁ := on₀.mono newly.plugins newly.uses.keepsLanguages
    obtain ⟨v₂, h₂, hclose, closed⟩ := Viewer.close_on v₁ h₁
    have follows : Session.Follows (View.opened i o m) t h₂ := by
      rcases closed with ⟨-, rfl⟩ | ⟨s, hs, closes⟩
      · exact newly.follows
      · obtain ⟨hmodel, hrenderer⟩ := found s (hheld ▸ hs)
        exact newly.closes ignoring on₁ (by rwa [Host.rest_models hrest]) hrenderer closes
    obtain ⟨v₃, registry, h₃, hon', hheld', grown⟩ :=
      Viewer.open_on hsession hclose follows.coherent.grounded newly.serves.free
    cases hopen.symm.trans hon'
    have follows' := follows.grown grown
    obtain ⟨l, hl⟩ := Option.isSome_iff_exists.mp newly.installed
    refine ⟨Viewer.holdsFound hheld' follows' rfl, _, m, l, hheld', hsource,
      ⟨parser, content, _, Host.rest_files hrest ▸ holds, parses⟩, follows'.loaded rfl, tree,
      ?_, ?_⟩
    · rw [follows'.language]
      exact hl
    · intro node selection hselection
      obtain ⟨v'', h'', hselect, hdocument⟩ := Viewer.selectNode_on hheld' follows' rfl hselection
      refine ⟨v'', h'', hselect, hdocument.trans (congrArg Pipeline.shown ?_)⟩
      have hsections : t.pipeline.sections = o.sections := follows.sections
      simp [View.due, View.opened, Pipeline.Inputs.due, hl, hsections]

/-- Sessions do not interfere, neither two that are used in turn nor one that replaces
another one. -/
def Isolated (i : Installation) : Prop :=
  i.Independent ∧ i.Replaces

/-- Where renderers let themselves be bound, sessions do not interfere exactly if what renderers
write that are shared does not depend on the model. -/
theorem isolated_iff (i : Installation) (cooperative : i.Cooperative) :
    i.Isolated ↔ i.SharesIgnoring :=
  ⟨fun isolated => (independent_iff cooperative).mp isolated.1,
    fun ignoring => ⟨(independent_iff cooperative).mpr ignoring, ignoring.replaces⟩⟩

/-- A language that writes the names of the classes that it looks up. -/
def echoLanguage : Language where
  name := "Echo"
  typeName := "EchoRenderer"
  rules := []
  writer := .lines (fun c _ => .ok ["class " ++ c.name]) fun _ m _ _ => .ok [m.name]

def echoEntry : EntryPoint where
  place := 0
  group := .renderers
  name := "Echo"
  load := .ok (.renderer 0)

theorem offered_echoEntry (name : String) :
    Registry.offered (.ok [echoEntry]) name = .shared 0 ∨
      Registry.offered (.ok [echoEntry]) name = .nothing := by
  have hwaiting : Registry.waiting (.ok [echoEntry]) = [echoEntry] := rfl
  simp only [Registry.offered, hwaiting, List.find?_cons, List.find?_nil]
  cases echoEntry.name == name with
  | true => exact .inl rfl
  | false => exact .inr rfl

def echo : Installation where
  plugins := .ok [echoEntry]
  ready := [echoLanguage]
  published name id hoffered := by
    rcases offered_echoEntry name with hshared | hnothing
    · cases hshared.symm.trans hoffered
      decide
    · cases hnothing.symm.trans hoffered

theorem cooperative_echo : echo.Cooperative := by
  intro name l hl
  unfold language? at hl
  split at hl
  · cases hl
    exact Language.cooperative_of_builtin (by simp [Language.builtin])
  · split at hl
    · cases hl
      exact Language.cooperative_of_builtin (by simp [Language.builtin])
    · rcases offered_echoEntry name with hshared | hnothing
      · rw [show Registry.offered echo.plugins name = .shared 0 from hshared] at hl
        cases hl
        exact ⟨fun _ _ => rfl, fun _ => rfl⟩
      · rw [show Registry.offered echo.plugins name = .nothing from hnothing] at hl
        cases hl

theorem echo_isolated_iff :
    echo.Cooperative ∧ (echo.Isolated ↔ echo.SharesIgnoring) :=
  ⟨cooperative_echo, isolated_iff echo cooperative_echo⟩

theorem echo_not_isolated : ¬echo.Isolated := by
  rintro ⟨independent, -⟩
  have hshared : echo.shared? "Echo" = some echoLanguage := rfl
  obtain ⟨_, _, hwriter⟩ :=
    Language.texts_of_ignoresModel
      (independent.sharesIgnoring cooperative_echo "Echo" echoLanguage hshared)
  cases hwriter

end Installation

end BytecodeViewer
