import BytecodeViewer.Proofs.Viewer.Containment
import BytecodeViewer.Proofs.Viewer.Replacing
import BytecodeViewer.Settings.Source

/-!
# The visit of a new viewer

A new viewer that opens a file and selects a node shows what is due for the node in the session of
the file.  It reports an error exactly if the settings cannot be loaded, the file cannot be opened or
nothing is due.
-/

namespace BytecodeViewer.Viewer

/-- Opens a file and selects a node. -/
def openAt (file : Path) (node : TreeNode) : HostedAct Viewer Unit := do
  let _ ← «open» file
  selectNode (some node)

/-- A new viewer loads the settings, opens a file and selects a node. -/
def visit (config : Option Path) (parser : Option Parser) (file : Path) (node : TreeNode) :
    Act Host Viewer := do
  let settings ← Settings.load config
  let (_, v) ← Act.carrying { settings, parser } (openAt file node)
  return v

/-- An error has been reported: there is no viewer for want of settings, or its window has been told
of an error. -/
inductive Reports : Except Failure Viewer → Prop
  | unloaded (f : Failure) : Reports (.error f)
  | told {v : Viewer} {text : String} (mem : .error text ∈ v.signals) : Reports (.ok v)

theorem reports_ok {v : Viewer} : Reports (.ok v) ↔ ∃ text, .error text ∈ v.signals := by
  constructor
  · rintro (_ | mem)
    exact ⟨_, mem⟩
  · rintro ⟨text, mem⟩
    exact .told mem

instance (visited : Except Failure Viewer) : Decidable (Reports visited) :=
  match visited with
  | .error f => .isTrue (.unloaded f)
  | .ok v => decidable_of_iff (∃ s ∈ v.signals, s.error?.isSome) <| by
      rw [reports_ok]
      constructor
      · rintro ⟨s, hs, hsome⟩
        cases s with
        | error text => exact ⟨text, hs⟩
        | _ => cases hsome
      · rintro ⟨text, mem⟩
        exact ⟨.error text, mem, rfl⟩

variable {v v₁ : Viewer} {h h₁ h' : Host} {s : Session} {file : Path} {node : TreeNode}
  {settings : Settings} {config : Option Path} {parser : Option Parser}

theorem visit_on (hload : (Settings.load config).on h = (.ok settings, h₁))
    (hon : (openAt file node).on ({ settings, parser }, h₁) = (.ok (), v, h')) :
    (visit config parser file node).on h = (.ok v, h') := by
  simp [visit, hload, hon, Except.map]

theorem openSession_held {outcome : Except Failure Session}
    (hopen : (openSession file).on (v, h) = (outcome, v₁, h₁)) :
    v₁.session = v.session ∧ v₁.signals = v.signals := by
  obtain ⟨parser, hfinds⟩ := openSession_finds file v h
  have hsame : v₁ = { v with parser } := (congrArg (·.2.1) hopen).symm.trans hfinds
  exact ⟨congrArg (·.session) hsame, congrArg (·.signals) hsame⟩

/-- The session that a viewer opens is bound to its model, in a host that differs from the earlier
one only in renderers and records. -/
theorem openSession_newly {i : Installation} (on : i.On h)
    (hopen : (openSession file).on (v, h) = (.ok s, v₁, h₁)) :
    ∃ n o m h₀, Session.Newly i n o m h₀ s h₁ ∧ h₀.rest = h.rest := by
  obtain ⟨-, parser, o, h₀, hregistry, hrest, hrenderers, hon⟩ := openSession_on hopen
  have opening := Session.open_on file parser o h₀
  rw [hon] at opening
  obtain ⟨content, m, -, -, -, -, -, newly⟩ :=
    opening.newly (OpenOptions.own_of_some on hrenderers hregistry)
  exact ⟨_, o, m, h₀, newly, hrest⟩

theorem openAt_refused {f : Failure} (unheld : v.session = none)
    (hopen : (openSession file).on (v, h) = (.error f, v₁, h₁)) (node : TreeNode) :
    ∃ v' h', (openAt file node).on (v, h) = (.ok (), v', h') ∧ refusal file f ∈ v'.signals := by
  obtain ⟨h', hon, -⟩ := open_refused hopen
  have hsession : v₁.session = none := (openSession_held hopen).1.trans unheld
  refine ⟨v₁.telling v₁.session [refusal file f], h', ?_, by simp⟩
  simp [openAt, hon, selectNode, hsession]

/-- What is held and told after a file has been opened in a viewer that held none. -/
theorem openAt_opened (unheld : v.session = none)
    (hopen : (openSession file).on (v, h) = (.ok s, v₁, h₁))
    (grounded : s.pipeline.registry.Grounded h₁) (free : s.pipeline.registry.WaitsFree)
    (node : TreeNode) :
    ∃ registry h₂, Registry.Grown s.pipeline.registry h₁ registry h₂ ∧
      (openAt file node).on (v, h) = (selectNode (some node)).on
        (v₁.telling (some { s with pipeline.registry := registry }) (welcome s registry), h₂) := by
  have hsession : v₁.session = none := (openSession_held hopen).1.trans unheld
  obtain ⟨registry, h₂, hnames, grown⟩ := Registry.loadedNames_on grounded free
  have hannounced := (open_on_announce hopen (close_on_none hsession h₁)).trans
    (announce_on rfl hnames)
  refine ⟨registry, h₂, grown, ?_⟩
  simp only [openAt, Act.on_bind, hannounced]
  rfl

theorem visit_refused (hload : (Settings.load config).on h = (.ok settings, h₁)) {f : Failure}
    {h₂ : Host} (hopen : (openSession file).on ({ settings, parser }, h₁) = (.error f, v₁, h₂))
    (node : TreeNode) :
    ∃ v h', (visit config parser file node).on h = (.ok v, h') ∧ Reports (.ok v) := by
  obtain ⟨v, h', hon, hrefusal⟩ := openAt_refused rfl hopen node
  exact ⟨v, h', visit_on hload hon, .told hrefusal⟩

theorem openSession_unnamed {f : Failure} (v : Viewer)
    (unnamed : Sections.ofNames v.settings.classSections = .error f) (file : Path) (h : Host) :
    ∃ g v' h', (openSession file).on (v, h) = (.error g, v', h') := by
  obtain ⟨h₁, hbuiltin, -⟩ := Registry.builtin_on h
  obtain ⟨language, h₂, hpick, -⟩ := Registry.pickLanguage_on (some v.settings.language)
    (Registry.fresh h.plugins h.renderers.length) h₁
  rcases hfind : findParser.on (v, h₂) with ⟨g | p, v', h₃⟩
  · exact ⟨g, v', h₃, by simp [openSession, hbuiltin, hpick, hfind, Except.map]⟩
  · exact ⟨f, v', h₃, by simp [openSession, hbuiltin, hpick, hfind, unnamed, Except.map]⟩

/-- Once a node is selected, the viewer shows what is due for it, and reports an error if nothing
is. -/
theorem selectNode_reports {w : View} {t : Session} {selection : Selection}
    (hsession : v.session = some t) (follows : Session.Follows w t h) (hnone : w.selection = none)
    (hselection : node.selection? = some selection) (quiet : ¬Reports (.ok v)) :
    ∃ v' h', (selectNode (some node)).on (v, h) = (.ok (), v', h') ∧
      v'.document = Pipeline.shown { w with selection := some selection }.due ∧
      (Reports (.ok v') ↔ ∃ f, { w with selection := some selection }.due = .error f) := by
  obtain ⟨outcome, t', h', hcall, turn, hon⟩ :=
    selectNode_turns hsession follows hnone hselection
  have hdue : outcome = { w with selection := some selection }.due := turn.outcome_eq
  refine ⟨_, h', hon, turn.document_eq, ?_⟩
  have hquiet (text : String) : .error text ∉ v.signals := fun mem => quiet (.told mem)
  rw [← hdue]
  cases outcome with
  | ok document => simp [reports_ok, Act.failure?_of_ok hcall, complaint, hquiet]
  | error f => simp [reports_ok, Act.failure?_of_error hcall, complaint, hquiet]

/-- A visit to a file that can be opened ends with its session held, and with what is due for the
node shown. -/
theorem visit_opened {i : Installation} {n : Nat} {o : OpenOptions} {m : LoadedModel}
    {h₀ h₂ : Host} {visited : Except Failure Viewer}
    (hload : (Settings.load config).on h = (.ok settings, h₁))
    (hopen : (openSession file).on ({ settings, parser }, h₁) = (.ok s, v₁, h₂))
    (newly : Session.Newly i n o m h₀ s h₂)
    (visits : (visit config parser file node).on h = (visited, h')) :
    ∃ v s', visited = .ok v ∧ v.session = some s' ∧ s'.model = s.model ∧ h'.models = h₂.models ∧
      ∀ selection, node.selection? = some selection →
        let due := { View.opened i o m with selection := some selection }.due
        v.document = Pipeline.shown due ∧ (Reports (.ok v) ↔ ∃ f, due = .error f) := by
  obtain ⟨registry, h₃, grown, hat⟩ :=
    openAt_opened rfl hopen newly.follows.coherent.grounded newly.serves.free node
  let t : Session := { s with pipeline.registry := registry }
  let v₂ : Viewer := v₁.telling (some t) (welcome s registry)
  have hheld : v₂.session = some t := rfl
  obtain ⟨session, told, h₄, hselect, -⟩ := selectNode_turn (some node) v₂ h₃
  have hselect' : (selectNode (some node)).on (v₂, h₃) =
      (.ok (), v₂.telling session told, h₄) := hselect
  cases visits.symm.trans (visit_on hload (hat.trans hselect'))
  have hkept := selectNode_keeps (some node) (v₂, h₃)
  rw [hselect'] at hkept
  have hhold : (v₂.telling session told).hold = v₂.hold := congrArg Prod.fst hkept
  have hrest : h'.rest = h₃.rest := congrArg Prod.snd hkept
  rcases hold_cases hhold with ⟨hnone, -⟩ | ⟨t', s', ht', hs', hfile, -⟩
  · cases hnone
  cases hheld.symm.trans ht'
  refine ⟨_, s', rfl, hs', congrArg (·.2.1) hfile,
    (Host.rest_models hrest).trans (Host.rest_models grown.rest), ?_⟩
  intro selection hselection
  have quiet : ¬Reports (.ok v₂) := by
    have huntold : v₁.signals = [] := (openSession_held hopen).2
    rintro (_ | mem)
    simp [v₂, huntold, welcome] at mem
  obtain ⟨v', h'', hon, hdocument, reports⟩ :=
    selectNode_reports hheld (newly.follows.grown grown) rfl hselection quiet
  cases hselect'.symm.trans hon
  exact ⟨hdocument, reports⟩

end BytecodeViewer.Viewer
