import BytecodeViewer.Proofs.Viewer.Trace
import BytecodeViewer.Proofs.Viewer.Turn

/-!
# What is shown can be selected

As long as nodes are picked from the tree as it is filtered, what is selected stands in it.  A
filter that hides what is selected clears it, and no other filter brings it back.
-/

namespace BytecodeViewer

namespace ClassTree

variable {t : ClassTree}

theorem isVisible_of_mem {node : TreeNode} (hnode : node ∈ t.walkVisible) :
    t.isVisible node.selection? = true := by
  cases hselection : node.selection? with
  | none => rfl
  | some s => exact List.any_eq_true.mpr ⟨node, hnode, by simp [hselection]⟩

end ClassTree

namespace Viewer

variable {v v₀ : Viewer} {h : Host} {s : Session} {op : Operation} {session : Option Session}
  {told : List Signal} {ops : List Operation}

namespace Operation

/-- If a node is picked, the tree shows it. -/
def Picks (v : Viewer) (op : Operation) : Prop :=
  ∀ node s, op = selectNode (some node) → v.session = some s → node ∈ s.tree.walkVisible

theorem picks_openFile (v : Viewer) (path : Path) : (openFile path).Picks v := by
  intro node s hop
  cases hop

/-- A node that has been looked up in the tree is one that it shows. -/
theorem picks_found (v : Viewer) (selection : Option Selection) :
    (selectNode (v.session.bind (·.tree.find? selection))).Picks v := by
  intro node s hop hs
  simp only [selectNode.injEq, hs, Option.bind_some, ClassTree.find?] at hop
  obtain ⟨chosen, -, hfind⟩ := Option.bind_eq_some_iff.mp hop
  exact List.mem_of_find?_eq_some hfind

theorem call?_keeps (op : Operation) {call : Pipeline.Call} (asks : op.call? s = some call) :
    ¬call.SetsModel := by
  cases op with
  | selectLanguage name =>
      obtain ⟨-, rfl⟩ : _ ∧ Pipeline.Call.language name = call := by simpa [call?] using asks
      exact id
  | selectNode node =>
      obtain ⟨-, rfl⟩ : _ ∧ Pipeline.Call.selection (node.bind (·.selection?)) = call := by
        simpa [call?] using asks
      exact id
  | openFile path => cases asks
  | setFilter text => cases asks
  | close => cases asks

theorem Picks.visible {call : Pipeline.Call} (picks : op.Picks v) (held : v.session = some s)
    (asks : op.call? s = some call) (visible : s.tree.isVisible s.pipeline.selection = true) :
    s.tree.isVisible (call.selected s.pipeline.selection) = true := by
  cases op with
  | selectLanguage name =>
      obtain ⟨-, rfl⟩ : _ ∧ Pipeline.Call.language name = call := by simpa [call?] using asks
      exact visible
  | selectNode node =>
      obtain ⟨-, rfl⟩ : _ ∧ Pipeline.Call.selection (node.bind (·.selection?)) = call := by
        simpa [call?] using asks
      cases node with
      | none => rfl
      | some node => exact ClassTree.isVisible_of_mem (picks node s rfl held)
  | openFile path => cases asks
  | setFilter text => cases asks
  | close => cases asks

end Operation

theorem Turn.visible (turn : Turn v h op session told) (picks : op.Picks v)
    (visible : ∀ s, v.session = some s → s.tree.isVisible s.pipeline.selection = true) :
    ∀ s, session = some s → s.tree.isVisible s.pipeline.selection = true := by
  cases turn with
  | idle => exact visible
  | refused fails => exact visible
  | @shown _ s call _ held asks after =>
      rintro _ ⟨⟩
      subst after
      rw [call.on_selects (op.call?_keeps asks) s.pipeline h]
      exact picks.visible held asks (visible s held)
  | filtered held stays =>
      rintro _ ⟨⟩
      exact stays
  | hidden held hides =>
      intro s' hs'
      rw [← Option.some.inj hs']
      rfl
  | left held =>
      intro s' hs'
      cases hs'
  | opened opens untouched idle =>
      rintro _ ⟨⟩
      rw [untouched.selection]
      rfl

theorem Turn.hiding {text text' : String} (turn : Turn v h (.setFilter text') session told)
    (held : v.session = some (s.hiding text)) : session = some (s.hiding text') := by
  cases turn with
  | idle idle => cases held.symm.trans idle
  | shown _ asks _ => cases asks
  | filtered held' stays =>
      cases held.symm.trans held'
      rfl
  | hidden held' hides =>
      cases held.symm.trans held'
      rfl

theorem setFilter_on_hides {text : String} (held : v.session = some s)
    (hides : (s.tree.setFilter text).isVisible s.pipeline.selection = false) (h : Host) :
    ∃ told h', (setFilter text).on (v, h) =
      (.ok (), v.telling (some (s.hiding text)) told, h') := by
  obtain ⟨session, told, h', hon, turn⟩ := setFilter_turn text v h
  refine ⟨told, h', hon.trans ?_⟩
  cases turn with
  | idle idle => cases held.symm.trans idle
  | shown _ asks _ => cases asks
  | filtered held' stays =>
      cases held.symm.trans held'
      cases hides.symm.trans stays
  | hidden held' =>
      cases held.symm.trans held'
      rfl

/-- As long as nodes are picked from what the tree shows, it shows what is selected.  A filter
that hides what is selected clears the selection and the document, and they stay so under any
filters after it. -/
theorem selection_visible_of_run (unheld : v₀.session = none)
    (run : Run (fun v op => op.Picks v) v₀ ops v) :
    ∀ s, v.session = some s →
      s.tree.isVisible s.pipeline.selection = true ∧
      ∀ text h, (s.tree.setFilter text).isVisible s.pipeline.selection = false →
        ∃ v₁ h₁, (setFilter text).on (v, h) = (.ok (), v₁, h₁) ∧
          v₁.session = some (s.hiding text) ∧
          ∀ ops' v', Run (fun _ op => ∃ text', op = .setFilter text') v₁ ops' v' →
            ∃ text', v'.session = some (s.hiding text') ∧
              v'.selection = none ∧ v'.document = .empty := by
  have visible : ∀ s, v.session = some s → s.tree.isVisible s.pipeline.selection = true := by
    refine run.invariant (fun v => ∀ s, v.session = some s →
      s.tree.isVisible s.pipeline.selection = true) ?_ ?_
    · intro s hs
      cases unheld.symm.trans hs
    · exact fun _ _ _ _ _ _ picks visible turn => turn.visible picks visible
  intro s hs
  refine ⟨visible s hs, fun text h hides => ?_⟩
  obtain ⟨told, h₁, hon⟩ := setFilter_on_hides hs hides h
  refine ⟨_, h₁, hon, rfl, fun ops' v' filters => ?_⟩
  have cleared : ∃ text', v'.session = some (s.hiding text') := by
    refine filters.invariant (fun v => ∃ text', v.session = some (s.hiding text')) ?_ ?_
    · exact ⟨text, rfl⟩
    · rintro v h _ parser session told ⟨text', rfl⟩ ⟨text, held⟩ turn
      exact ⟨text', turn.hiding held⟩
  obtain ⟨text', held⟩ := cleared
  exact ⟨text', held, by rw [selection, held]; rfl, by rw [document, held]; rfl⟩

/-- A small file has been opened. -/
def smallOpened : Viewer × Host :=
  ((Operation.openFile Session.smallSource).act.on (Trace.smallViewer, Session.smallHost)).2

/-- The node of its class. -/
def smallNode : Option TreeNode :=
  smallOpened.1.session.bind (·.tree.find? (some (.wholeClass "A")))

/-- The class has been picked. -/
def smallPicked : Viewer × Host :=
  ((Operation.selectNode smallNode).act.on (smallOpened.1, smallOpened.2)).2

theorem smallPicked_run : Run (fun v op => op.Picks v) Trace.smallViewer
    [.openFile Session.smallSource, .selectNode smallNode] smallPicked.1 := by
  have opened : Run (fun v op => op.Picks v) Trace.smallViewer [.openFile Session.smallSource]
      smallOpened.1 := by
    rw [smallOpened]
    exact Run.start.step (.openFile Session.smallSource) Session.smallHost
      (Operation.picks_openFile _ _)
  have picks : (Operation.selectNode smallNode).Picks smallOpened.1 := by
    rw [smallNode]
    exact Operation.picks_found smallOpened.1 (some (.wholeClass "A"))
  rw [smallPicked]
  exact opened.step (.selectNode smallNode) smallOpened.2 picks

/-- A filter hides the class that has been picked. -/
theorem picked_class_visible_until_hidden :
    Trace.smallViewer.session = none ∧
      Run (fun v op => op.Picks v) Trace.smallViewer
        [.openFile Session.smallSource, .selectNode smallNode] smallPicked.1 ∧
      ∃ s, smallPicked.1.session = some s ∧ s.pipeline.selection = some (.wholeClass "A") ∧
        s.pipeline.document.text ≠ "" ∧
        s.tree.isVisible s.pipeline.selection = true ∧
        (s.tree.setFilter "b").isVisible s.pipeline.selection = false ∧
        ∃ v₁ h₁, (setFilter "b").on (smallPicked.1, smallPicked.2) = (.ok (), v₁, h₁) ∧
          v₁.session = some (s.hiding "b") ∧
          ∀ ops' v', Run (fun _ op => ∃ text', op = .setFilter text') v₁ ops' v' →
            ∃ text', v'.session = some (s.hiding text') ∧
              v'.selection = none ∧ v'.document = .empty := by
  have shown : (smallPicked.1.session.any fun s =>
      s.pipeline.selection == some (.wholeClass "A") && s.pipeline.document.text != "" &&
        !(s.tree.setFilter "b").isVisible s.pipeline.selection) = true := by decide +kernel
  obtain ⟨s, hs, hshown⟩ := (Option.any_eq_true ..).mp shown
  simp only [Bool.and_eq_true, beq_iff_eq, bne_iff_ne, Bool.not_eq_true'] at hshown
  obtain ⟨⟨selected, written⟩, hides⟩ := hshown
  obtain ⟨visible, hidden⟩ := selection_visible_of_run rfl smallPicked_run s hs
  exact ⟨rfl, smallPicked_run, s, hs, selected, written, visible, hides,
    hidden "b" smallPicked.2 hides⟩

end Viewer

end BytecodeViewer
