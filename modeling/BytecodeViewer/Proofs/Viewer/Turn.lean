import BytecodeViewer.Proofs.Session.Changes
import BytecodeViewer.Proofs.Viewer.OpenSession
import BytecodeViewer.Proofs.Viewer.Operation
import BytecodeViewer.Proofs.Viewer.Telling

/-!
# What an operation does to the viewer

No operation fails.  `Operation.turn` says all that can come of one: which session is held
afterwards, and what the window is told.  What every turn keeps holds after any run.
-/

namespace BytecodeViewer

/-- A session after a filter that hides what was selected. -/
def Session.hiding (s : Session) (text : String) : Session :=
  { s with
    tree := s.tree.setFilter text
    pipeline := { s.pipeline with selection := none, document := .empty } }

/-- A session in which nothing has been selected yet. -/
structure Session.Untouched (s : Session) : Prop where
  isOpen : s.closed = false
  selection : s.pipeline.selection = none
  document : s.pipeline.document = .empty

namespace Viewer

variable {v v₁ : Viewer} {h h₁ : Host} {s : Session} {path : Path}

/-! ## Opening a session -/

theorem openSession_finds (path : Path) (v : Viewer) (h : Host) :
    ∃ parser, ((openSession path).on (v, h)).2.1 = { v with parser } := by
  have attempt := openSession_cases path v h
  rcases hon : (openSession path).on (v, h) with ⟨outcome, v', h'⟩
  rw [hon] at attempt
  cases attempt with
  | unready => exact ⟨_, rfl⟩
  | tried => exact ⟨_, rfl⟩

theorem openSession_untouched (hopen : (openSession path).on (v, h) = (.ok s, v₁, h₁)) :
    s.Untouched := by
  have attempt := openSession_cases path v h
  rw [hopen] at attempt
  cases attempt with
  | @tried parser sections _ h₀ _ rest made on =>
      have opening := Session.open_on path parser (.usual h v.settings.language sections) h₀
      rw [on] at opening
      cases opening with
      | opened holds parses fault language model selection document =>
          exact ⟨rfl, selection, document⟩

theorem open_accepted (hopen : (openSession path).on (v, h) = (.ok s, v₁, h₁)) :
    ∃ registry h', («open» path).on (v, h) =
        (.ok true, v₁.telling (some { s with pipeline.registry := registry })
          (v₁.farewell ++ welcome s registry), h') ∧
      registry.pending = [] := by
  obtain ⟨h₂, hclose⟩ := close_tells v₁ h₁
  obtain ⟨registry, h', hnames, idle⟩ := Registry.loadedNames_idle s.pipeline.registry h₂
  refine ⟨registry, h', ?_, idle⟩
  rw [open_on_announce hopen hclose, announce_on rfl hnames]
  simp [telling]

/-! ## Operations -/

namespace Operation

/-- What an operation asks of the pipeline of a session. -/
def call? (s : Session) : Operation → Option Pipeline.Call
  | selectLanguage name =>
    if name = "" ∨ s.pipeline.language = some name then none else some (.language name)
  | selectNode node =>
    let selection := node.bind (·.selection?)
    if selection.isSome ∧ selection = s.pipeline.selection then none
    else some (.selection selection)
  | _ => none

/-- What goes wrong in an operation: a file is not opened, or what the pipeline is asked for
fails. -/
def failure? (v : Viewer) (h : Host) : Operation → Option Failure
  | openFile path => (openSession path).failure? (v, h)
  | op => do
    let s ← v.session
    let call ← op.call? s
    call.act.failure? (s.pipeline, h)

/-- The operation has nothing to do. -/
def Idle (v : Viewer) : Operation → Prop
  | openFile _ => False
  | setFilter _ | close => v.session = none
  | op => ∀ s, v.session = some s → op.call? s = none

end Operation

/-- All that can come of an operation: the session that is held afterwards, and what is told. -/
inductive Turn (v : Viewer) (h : Host) : Operation → Option Session → List Signal → Prop
  | idle {op : Operation} (idle : op.Idle v) : Turn v h op v.session []
  | shown {op : Operation} {s : Session} {call : Pipeline.Call} {p' : Pipeline}
      (held : v.session = some s) (asks : op.call? s = some call)
      (after : (call.act.on (s.pipeline, h)).2.1 = p') :
      Turn v h op (some { s with pipeline := p' })
        (complaint (call.act.failure? (s.pipeline, h)) ++ [.document p'.document])
  | filtered {s : Session} {text : String} (held : v.session = some s)
      (visible : (s.tree.setFilter text).isVisible s.pipeline.selection = true) :
      Turn v h (.setFilter text) (some { s with tree := s.tree.setFilter text })
        [.tree (s.tree.setFilter text).visible]
  | hidden {s : Session} {text : String} (held : v.session = some s)
      (hides : (s.tree.setFilter text).isVisible s.pipeline.selection = false) :
      Turn v h (.setFilter text) (some (s.hiding text))
        [.tree (s.tree.setFilter text).visible, .document .empty]
  | left {s : Session} (held : v.session = some s) :
      Turn v h .close none [.title appTitle, .document .empty]
  | refused {path : Path} {f : Failure} (fails : (openSession path).failure? (v, h) = some f) :
      Turn v h (.openFile path) v.session [refusal path f]
  | opened {path : Path} {s : Session} {registry : Registry}
      (opens : (openSession path).failure? (v, h) = none) (untouched : s.Untouched)
      (idle : registry.pending = []) :
      Turn v h (.openFile path) (some { s with pipeline.registry := registry })
        (v.farewell ++ welcome s registry)

theorem display_turn {op : Operation} {call : Pipeline.Call} (hsession : v.session = some s)
    (asks : op.call? s = some call) (hon : op.act.on (v, h) = (display call.act).on (v, h)) :
    ∃ session told h', op.act.on (v, h) = (.ok (), v.telling session told, h') ∧
      Turn v h op session told :=
  ⟨_, _, _, hon.trans (display_on hsession call.act h), .shown hsession asks rfl⟩

theorem idle_turn {op : Operation} (idle : op.Idle v) (hon : op.act.on (v, h) = (.ok (), v, h)) :
    ∃ session told h', op.act.on (v, h) = (.ok (), v.telling session told, h') ∧
      Turn v h op session told :=
  ⟨v.session, [], h, by rw [hon, telling_nil], .idle idle⟩

theorem selectLanguage_turn (name : String) (v : Viewer) (h : Host) :
    ∃ session told h', (Operation.selectLanguage name).act.on (v, h) =
        (.ok (), v.telling session told, h') ∧
      Turn v h (.selectLanguage name) session told := by
  cases hsession : v.session with
  | none =>
      refine idle_turn (fun s hs => ?_) (by simp [Operation.act, selectLanguage, hsession])
      cases hsession.symm.trans hs
  | some s =>
      by_cases hasks : name = "" ∨ s.pipeline.language = some name
      · refine idle_turn (fun s' hs' => ?_) ?_
        · cases hsession.symm.trans hs'
          simp [Operation.call?, hasks]
        · rcases hasks with hempty | hsame
          · simp [Operation.act, selectLanguage, hempty, Except.map]
          · simp [Operation.act, selectLanguage, hsession, hsame]
      · have asks : (Operation.selectLanguage name).call? s = some (.language name) := by
          simp [Operation.call?, hasks]
        refine display_turn hsession asks ?_
        obtain ⟨hempty, hsame⟩ := not_or.mp hasks
        simp [Operation.act, selectLanguage, hsession, hempty, hsame]
        rfl

theorem selectNode_turn (node : Option TreeNode) (v : Viewer) (h : Host) :
    ∃ session told h', (Operation.selectNode node).act.on (v, h) =
        (.ok (), v.telling session told, h') ∧
      Turn v h (.selectNode node) session told := by
  cases hsession : v.session with
  | none =>
      refine idle_turn (fun s hs => ?_) (by simp [Operation.act, selectNode, hsession])
      cases hsession.symm.trans hs
  | some s =>
      have hselection : v.selection = s.pipeline.selection := by simp [selection, hsession]
      by_cases hasks : (node.bind (·.selection?)).isSome ∧
          node.bind (·.selection?) = s.pipeline.selection
      · refine idle_turn (fun s' hs' => ?_) ?_
        · cases hsession.symm.trans hs'
          simp only [Operation.call?, if_pos hasks]
        · obtain ⟨hsome, hsame⟩ := hasks
          have hchosen : s.pipeline.selection.isNone = false := by simpa [← hsame] using hsome
          simp [Operation.act, selectNode, hsession, hselection, hsame, hchosen]
      · have asks : (Operation.selectNode node).call? s =
            some (.selection (node.bind (·.selection?))) := by
          simp only [Operation.call?, if_neg hasks]
        refine display_turn hsession asks ?_
        have hchosen : ((node.bind (·.selection?)).isNone ||
            node.bind (·.selection?) != s.pipeline.selection) = true := by
          cases hnode : node.bind (·.selection?) with
          | none => rfl
          | some chosen => simpa [hnode] using hasks
        simp only [Operation.act, selectNode, Act.on_bind, Act.on_own, hsession, hselection,
          Option.isSome_some, Bool.true_and, hchosen, if_true]
        rfl

theorem setFilter_turn (text : String) (v : Viewer) (h : Host) :
    ∃ session told h', (Operation.setFilter text).act.on (v, h) =
        (.ok (), v.telling session told, h') ∧
      Turn v h (.setFilter text) session told := by
  cases hsession : v.session with
  | none =>
      exact idle_turn hsession (by simp [Operation.act, setFilter, onSession, hsession])
  | some s =>
      let t := s.tree.setFilter text
      cases hvisible : t.isVisible s.pipeline.selection with
      | true =>
          refine ⟨_, _, h, ?_, .filtered hsession hvisible⟩
          simp only [t] at hvisible
          simp [Operation.act, setFilter, onSession, hsession, Session.setFilter, signal, hvisible,
            telling, Except.map]
      | false =>
          refine ⟨_, _, h, ?_, .hidden hsession hvisible⟩
          simp only [t] at hvisible
          simp [Operation.act, setFilter, onSession, hsession, Session.setFilter, signal, hvisible,
            telling, Except.map, selectNode, display, Session.onPipeline, Pipeline.setSelection,
            Pipeline.render_idle_on, document, Session.hiding]

theorem close_turn (v : Viewer) (h : Host) :
    ∃ session told h', Operation.close.act.on (v, h) = (.ok (), v.telling session told, h') ∧
      Turn v h .close session told := by
  cases hsession : v.session with
  | none => exact idle_turn hsession (close_on_none hsession h)
  | some s =>
      obtain ⟨h', hon, -⟩ := close_on_held hsession rfl
      exact ⟨none, _, h', hon, .left hsession⟩

theorem openFile_turn (path : Path) (v : Viewer) (h : Host) :
    ∃ parser session told h', (Operation.openFile path).act.on (v, h) =
        (.ok (), { v with parser }.telling session told, h') ∧
      Turn v h (.openFile path) session told := by
  obtain ⟨parser, hparser⟩ := openSession_finds path v h
  rcases hopen : (openSession path).on (v, h) with ⟨f | s, v₁, h₁⟩
  · rw [hopen] at hparser
    subst hparser
    obtain ⟨h', hon, -⟩ := open_refused hopen
    exact ⟨parser, _, _, h', by simp [Operation.act, hon, Except.map],
      .refused (Act.failure?_of_error hopen)⟩
  · rw [hopen] at hparser
    subst hparser
    obtain ⟨registry, h', hon, idle⟩ := open_accepted hopen
    have hfarewell : farewell { v with parser } = v.farewell := rfl
    rw [hfarewell] at hon
    exact ⟨parser, _, _, h', by simp [Operation.act, hon, Except.map],
      .opened (Act.failure?_of_ok hopen) (openSession_untouched hopen) idle⟩

/-- Every operation ends well, whatever fails in it. -/
theorem Operation.turn (op : Operation) (v : Viewer) (h : Host) :
    ∃ parser session told h', op.act.on (v, h) =
        (.ok (), { v with parser }.telling session told, h') ∧
      Turn v h op session told := by
  have keeping {op : Operation} (turn : ∃ session told h', op.act.on (v, h) =
      (.ok (), v.telling session told, h') ∧ Turn v h op session told) :
      ∃ parser session told h', op.act.on (v, h) =
        (.ok (), { v with parser }.telling session told, h') ∧ Turn v h op session told :=
    ⟨v.parser, turn⟩
  cases op with
  | openFile path => exact openFile_turn path v h
  | selectLanguage name => exact keeping (selectLanguage_turn name v h)
  | selectNode node => exact keeping (selectNode_turn node v h)
  | setFilter text => exact keeping (setFilter_turn text v h)
  | close => exact keeping (close_turn v h)

/-! ## Runs -/

/-- What some operations make of a viewer, each where it is allowed.  Between the operations
the host may change in any way. -/
inductive Run (allowed : Viewer → Operation → Prop) (v₀ : Viewer) : List Operation → Viewer → Prop
  | start : Run allowed v₀ [] v₀
  | step {ops : List Operation} {v : Viewer} (run : Run allowed v₀ ops v) (op : Operation)
      (h : Host) (ok : allowed v op) : Run allowed v₀ (ops ++ [op]) (op.act.on (v, h)).2.1

theorem Run.mono {allowed allowed' : Viewer → Operation → Prop} {v₀ : Viewer}
    {ops : List Operation} (weaker : ∀ v op, allowed v op → allowed' v op)
    (run : Run allowed v₀ ops v) : Run allowed' v₀ ops v := by
  induction run with
  | start => exact .start
  | step run op h ok ih => exact ih.step op h (weaker _ op ok)

theorem Run.invariant {allowed : Viewer → Operation → Prop} {v₀ : Viewer} {ops : List Operation}
    (holds : Viewer → Prop) (begins : holds v₀)
    (kept : ∀ (v : Viewer) (h : Host) (op : Operation) (parser : Option Parser)
      (session : Option Session) (told : List Signal), allowed v op → holds v →
      Turn v h op session told → holds ({ v with parser }.telling session told))
    (run : Run allowed v₀ ops v) : holds v := by
  induction run with
  | start => exact begins
  | step run op h ok ih =>
      obtain ⟨parser, session, told, h', hon, turn⟩ := Operation.turn op _ h
      rw [hon]
      exact kept _ h op parser session told ok ih turn

end Viewer

end BytecodeViewer
