import BytecodeViewer.Proofs.Render.LookUp
import BytecodeViewer.Proofs.Session.Nodes

/-!
# What can be selected

The tree of a model and the renderers that are bound to it agree on what there is: a node
selects a class or a method exactly if a renderer finds it.
-/

namespace BytecodeViewer

open TreeNode (walkAll)

namespace ClassTree

variable {t : ClassTree} {s : Selection} {node : TreeNode}

theorem isVisible_iff :
    t.isVisible (some s) = true ↔ ∃ node ∈ t.walkVisible, node.selection? = some s := by
  simp [isVisible]

theorem isSome_find?_iff :
    (t.find? (some s)).isSome ↔ ∃ node ∈ t.walkVisible, node.selection? = some s := by
  simp [find?]

theorem selection?_of_find? (h : t.find? (some s) = some node) : node.selection? = some s := by
  simpa using List.find?_some h

theorem found_and_visible_iff :
    ((∃ node, t.find? (some s) = some node ∧ node.selection? = some s) ∧
      t.isVisible (some s) = true) ↔ ∃ node ∈ t.walkVisible, node.selection? = some s := by
  constructor
  · rintro ⟨-, hvisible⟩
    exact isVisible_iff.mp hvisible
  · intro hexists
    obtain ⟨node, hnode⟩ := Option.isSome_iff_exists.mp (isSome_find?_iff.mpr hexists)
    exact ⟨⟨node, hnode, selection?_of_find? hnode⟩, isVisible_iff.mpr hexists⟩

end ClassTree

namespace LoadedModel

variable {classes : List ClassDef} {disposals : Nat}

theorem answers_inMemory (ref : String) :
    ∃ found, (inMemory classes 0).class? ref = .ok found :=
  ⟨_, class?_inMemory⟩

/-- A model has what can be selected in the tree of the classes that it lists. -/
theorem has_iff_selecting {listed : List ClassDef} {s : Selection}
    (hlisted : ∀ c, c ∈ listed ↔ (inMemory classes disposals).class? c.name = .ok (some c)) :
    (inMemory classes disposals).Has s ↔
      ∃ node ∈ walkAll (TreeNode.ofClasses listed), node.selection? = some s := by
  have mem_of_known {ref : String} {c : ClassDef}
      (hc : (inMemory classes disposals).class? ref = .ok (some c)) : c ∈ listed ∧ c.name = ref := by
    have hname := name_of_class?_inMemory hc
    exact ⟨(hlisted c).mpr (hname.symm ▸ hc), hname⟩
  rw [TreeNode.exists_selecting]
  constructor
  · cases s with
    | wholeClass ref =>
        rintro ⟨c, hc⟩
        obtain ⟨hmem, rfl⟩ := mem_of_known hc
        exact ⟨c, hmem, .inl rfl⟩
    | method ref key =>
        rintro ⟨c, hc, x, hx, rfl⟩
        obtain ⟨hmem, rfl⟩ := mem_of_known hc
        exact ⟨c, hmem, .inr ⟨x, hx, rfl⟩⟩
    | unsupported text => exact False.elim
  · rintro ⟨c, hmem, rfl | ⟨x, hx, rfl⟩⟩
    · exact ⟨c, (hlisted c).mp hmem⟩
    · exact ⟨c, (hlisted c).mp hmem, x, hx, rfl⟩

end LoadedModel

/-- The tree of a model in memory finds a node for a selection exactly if a renderer that is
bound to the model finds what is selected, whatever it has rendered before.  What a renderer
does not find in a model that is in use is an unresolved reference. -/
theorem ClassTree.finds_iff_lookUp (classes : List ClassDef) (disposals : Nat) (r : Renderer)
    (id : ModelId) (uses : List (Sections × Selection)) :
    let m := LoadedModel.inMemory classes disposals
    let bound := (r.bind (some id)).used (some m) uses
    ∃ roots, TreeNode.ofModel m = .ok roots ∧
      (∀ s, ((∃ node, find? { roots } (some s) = some node ∧ node.selection? = some s) ∧
          isVisible { roots } (some s) = true) ↔ bound.lookUp (some m) s = .ok ()) ∧
      (∀ text s, (((setFilter { roots } text).find? (some s)).isSome ↔
          (setFilter { roots } text).isVisible (some s) = true)) ∧
      (disposals = 0 → ∀ s f, bound.lookUp (some m) s = .error f →
          f.family? = some .unresolvedReference ∨ ∃ text, s = .unsupported text) := by
  intro m bound
  obtain ⟨listed, hlisted, -, hknown⟩ := TreeNode.exists_listed classes disposals
  have known : bound.KnownIn (some m) := Renderer.knownIn_used_bind r (some id) (some m) uses
  refine ⟨TreeNode.ofClasses listed, ?_, ?_, ?_, ?_⟩
  · simp only [TreeNode.ofModel, m, hlisted]
    rfl
  · intro s
    rw [found_and_visible_iff, known.lookUp_iff, LoadedModel.has_iff_selecting hknown]
    rfl
  · intro text s
    rw [isSome_find?_iff, isVisible_iff]
  · rintro rfl s f hf
    exact known.lookUp_unresolved LoadedModel.answers_inMemory hf

end BytecodeViewer
