import BytecodeViewer.Proofs.Session.Filtering

/-!
# Finding a name by a part of it

A class is shown for a text that occurs in its name, and a method for one that occurs in its
key, if the text says what becomes of its capital sigmas in lower case.  Any other text misses
some class.
-/

namespace BytecodeViewer

namespace TreeNode

variable {keeps : TreeNode → Prop} {needle : String} {nodes shown : List TreeNode}
  {node root : TreeNode} {classes : List ClassDef} {c : ClassDef} {m : Method}

theorem mem_walkAll_of_mem (hroot : root ∈ nodes) (hnode : node ∈ root.walk) :
    node ∈ walkAll nodes := by
  rw [← List.map_id nodes, mem_walkAll_map]
  exact ⟨root, hroot, hnode⟩

theorem mem_walk_self (node : TreeNode) : node ∈ node.walk := by
  rw [walk_eq]
  exact List.mem_cons_self

/-! ## What is shown of a kept node -/

theorem Pruned.exists_below (pruned : Pruned keeps nodes shown) (hnode : node ∈ nodes)
    (kept : keeps node) :
    ∃ below, Pruned keeps node.children below ∧ node.withChildren below ∈ shown := by
  induction pruned with
  | nil => cases hnode
  | drop gone _ ih =>
      rcases List.mem_cons.mp hnode with rfl | hlater
      · exact absurd kept gone
      · exact ih hlater
  | keep _ children _ _ ih =>
      rcases List.mem_cons.mp hnode with rfl | hlater
      · exact ⟨_, children, List.mem_cons_self⟩
      · obtain ⟨below, hbelow, hshown⟩ := ih hlater
        exact ⟨below, hbelow, List.mem_cons_of_mem _ hshown⟩

/-- Every node that is shown is a kept one, with some of the nodes below it. -/
theorem Pruned.exists_kept (pruned : Pruned keeps nodes shown) (hnode : node ∈ walkAll shown) :
    ∃ whole ∈ walkAll nodes, keeps whole ∧ ∃ below, node = whole.withChildren below := by
  induction pruned with
  | nil => cases hnode
  | drop _ _ ih =>
      obtain ⟨whole, hwhole, hrest⟩ := ih hnode
      exact ⟨whole, List.mem_append_right _ hwhole, hrest⟩
  | @keep first nodes _ below kept _ _ ihBelow ihRest =>
      rcases List.mem_append.mp hnode with hfirst | hlater
      · rw [walk_eq, children_withChildren, List.mem_cons] at hfirst
        rcases hfirst with rfl | hbelow
        · have hmem : first ∈ walkAll (first :: nodes) :=
            List.mem_append_left _ (mem_walk_self first)
          exact ⟨first, hmem, kept, below, rfl⟩
        · obtain ⟨whole, hwhole, hrest⟩ := ihBelow hbelow
          exact ⟨whole, List.mem_append_left _ (by simp [walk_eq, hwhole]), hrest⟩
      · obtain ⟨whole, hwhole, hrest⟩ := ihRest hlater
        exact ⟨whole, List.mem_append_right _ hwhole, hrest⟩

/-! ## Classes and methods that are shown -/

theorem class?_singleton (c : ClassDef) :
    (LoadedModel.inMemory [c] 0).class? c.name = .ok (some c) := by
  simp [LoadedModel.class?_inMemory_eq_some, Model.ofClasses, Model.class?, insertKey]

theorem ofModel_singleton (c : ClassDef) :
    ofModel (.inMemory [c] 0) = .ok (ofClasses [c]) := by
  let m := LoadedModel.inMemory [c] 0
  have hnames : m.names = .ok [c.name] := rfl
  have hclass : ∀ name ∈ [c.name], m.class? name = .ok (some c) := by
    simpa using class?_singleton c
  have hlisted : listedClasses m = _ := listedClasses_of_names hnames hclass
  rw [ofModel, hlisted, sortNames, List.mergeSort_singleton]
  rfl

/-- A class that remains is shown below its package. -/
theorem exists_shown_class (pruned : Pruned (Remains needle) (ofClasses classes) shown)
    (hc : c ∈ classes) (remains : Remains needle (ofClass c)) :
    ∃ below, Pruned (Remains needle) (c.methods.map (ofMethod c)) below ∧
      ∀ node ∈ ((ofClass c).withChildren below).walk, node ∈ walkAll shown := by
  have hpackage : ofPackage classes c.package ∈ ofClasses classes :=
    List.mem_map_of_mem (mem_packagesOf.mpr ⟨c, hc, rfl⟩)
  have hclass : ofClass c ∈ (ofPackage classes c.package).children :=
    List.mem_map_of_mem (List.mem_filter.mpr ⟨hc, beq_self_eq_true _⟩)
  have packageRemains := remains_ofPackage.mpr ⟨_, hclass, remains⟩
  obtain ⟨belowPackage, children, hpackageShown⟩ := pruned.exists_below hpackage packageRemains
  obtain ⟨below, methods, hclassShown⟩ := children.exists_below hclass remains
  refine ⟨below, methods, fun node hnode => mem_walkAll_of_mem hpackageShown ?_⟩
  rw [walk_eq]
  exact List.mem_cons_of_mem _ (mem_walkAll_of_mem hclassShown hnode)

theorem mem_shown_of_name (pruned : Pruned (Remains needle) (ofClasses classes) shown)
    (hc : c ∈ classes) (hname : Text.Occurs needle (Text.lower c.name)) :
    ∀ node ∈ (ofClass c).walk, node ∈ walkAll shown := by
  have remains := remains_ofClass.mpr (.inl hname)
  obtain ⟨below, methods, hshown⟩ := exists_shown_class pruned hc remains
  rw [methods.unique (pruned_methods_of_name hname)] at hshown
  exact hshown

theorem mem_shown_of_key (pruned : Pruned (Remains needle) (ofClasses classes) shown)
    (hc : c ∈ classes) (hm : m ∈ c.methods) (hkey : Text.Occurs needle (Text.lower m.key)) :
    ofMethod c m ∈ walkAll shown := by
  have remains : Remains needle (ofMethod c m) := remains_ofMethod.mpr (.inr hkey)
  have hmethod : ofMethod c m ∈ c.methods.map (ofMethod c) := List.mem_map_of_mem hm
  have classRemains := remains_ofClass.mpr (.inr ⟨_, hmethod, remains⟩)
  obtain ⟨below, methods, hshown⟩ := exists_shown_class pruned hc classRemains
  obtain ⟨belowMethod, nothing, hmethodShown⟩ := methods.exists_below hmethod remains
  cases nothing
  refine hshown _ ?_
  rw [walk_eq]
  exact List.mem_cons_of_mem _ (mem_walkAll_of_mem hmethodShown (mem_walk_self (ofMethod c m)))

/-- A class that is shown remains, or another one of its name. -/
theorem exists_remaining (pruned : Pruned (Remains needle) (ofClasses classes) shown)
    (hshown : ofClass c ∈ walkAll shown) :
    ∃ c' ∈ classes, c'.name = c.name ∧ Remains needle (ofClass c') := by
  obtain ⟨whole, hwhole, remains, below, heq⟩ := pruned.exists_kept hshown
  rcases mem_walkAll_ofClasses.mp hwhole with ⟨package, -, rfl⟩ | ⟨c', hc', hbelow⟩
  · cases congrArg kind heq
  · rcases mem_walk_ofClass.mp hbelow with rfl | ⟨m, -, rfl⟩
    · exact ⟨c', hc', (Option.some.inj (congrArg classRef heq)).symm, remains⟩
    · cases congrArg kind heq

end TreeNode

/-! ## Texts that find what they are typed from -/

namespace ClassTree

open TreeNode (ofClass ofMethod)

/-- A text that occurs in the name of a class shows it with all its methods, and one that
occurs in the key of a method shows the method. -/
def FindsTyped (typed : String) : Prop :=
  ∀ (classes : List ClassDef) (disposals : Nat) (t : ClassTree) (c : ClassDef),
    TreeNode.ofModel (.inMemory classes disposals) = .ok t.roots →
    (LoadedModel.inMemory classes disposals).class? c.name = .ok (some c) →
      let shown := (t.setFilter typed).walkVisible
      (Text.Occurs typed c.name → ∀ node ∈ (ofClass c).walk, node ∈ shown) ∧
        ∀ m ∈ c.methods, Text.Occurs typed m.key → ofMethod c m ∈ shown

theorem FindsTyped.steady {typed : String} (finds : FindsTyped typed) :
    Text.Steady typed.toList := by
  rw [Text.steady_iff]
  intro name hoccurs
  by_cases hempty : typed = ""
  · subst hempty
    exact List.nil_infix
  · -- A class of that name without methods can only be found by its name.
    let c : ClassDef := { name }
    have hfound := (finds [c] 0 { roots := TreeNode.ofClasses [c] } c
      (TreeNode.ofModel_singleton c) (TreeNode.class?_singleton c)).1 hoccurs
    have hshown := hfound (ofClass c) (TreeNode.mem_walk_self _)
    have pruned := TreeNode.filterAll_ofClasses [c] hempty
    obtain ⟨c', hc', -, remains⟩ := TreeNode.exists_remaining pruned hshown
    rw [List.mem_singleton.mp hc'] at remains
    rcases TreeNode.remains_ofClass.mp remains with hname | ⟨method, hmethod, -⟩
    · exact hname
    · cases hmethod

/-- What is typed finds all it occurs in exactly if letters around it cannot change what
becomes of its sigmas. -/
theorem findsTyped_iff (typed : String) : FindsTyped typed ↔ Text.Steady typed.toList := by
  refine ⟨FindsTyped.steady, ?_⟩
  intro steady classes disposals t c htree hclass shown
  obtain ⟨listed, hlisted, -, hknown⟩ := TreeNode.exists_listed classes disposals
  have hroots : t.roots = TreeNode.ofClasses listed := by
    rw [TreeNode.ofModel, hlisted] at htree
    exact (Except.ok.inj htree).symm
  have hc := (hknown c).mpr hclass
  have found := Text.steady_iff.mp steady
  by_cases hempty : typed = ""
  · have hshown : shown = TreeNode.walkAll (TreeNode.ofClasses listed) := by
      rw [← hroots, ← TreeNode.filterAll_empty t.roots, ← hempty]
      rfl
    rw [hshown]
    have hall : ∀ node ∈ (ofClass c).walk, node ∈ TreeNode.walkAll (TreeNode.ofClasses listed) :=
      fun node hnode => TreeNode.mem_walkAll_ofClasses.mpr (.inr ⟨c, hc, hnode⟩)
    refine ⟨fun _ => hall, fun m hm _ => hall _ ?_⟩
    exact TreeNode.mem_walk_ofClass.mpr (.inr ⟨m, hm, rfl⟩)
  · have pruned := TreeNode.filterAll_ofClasses listed hempty
    have hshown : shown = TreeNode.walkAll
        (TreeNode.filterAll (TreeNode.ofClasses listed) typed) := by
      rw [← hroots]
      rfl
    rw [hshown]
    constructor
    · exact fun hname => TreeNode.mem_shown_of_name pruned hc (found _ hname)
    · exact fun m hm hkey => TreeNode.mem_shown_of_key pruned hc hm (found _ hkey)

/-- The capital sigma at the end of a name is not found by itself. -/
theorem final_sigma_not_findsTyped : ¬FindsTyped "Σ" := by
  intro finds
  let c : ClassDef := { name := "ΑΣ" }
  have hoccurs : Text.Occurs "Σ" c.name := ⟨['Α'], [], by decide⟩
  have hshown := (finds [c] 0 { roots := TreeNode.ofClasses [c] } c
    (TreeNode.ofModel_singleton c) rfl).1 hoccurs (ofClass c) (TreeNode.mem_walk_self _)
  have hnone : (setFilter { roots := TreeNode.ofClasses [c] } "Σ").walkVisible = [] := by
    decide +kernel
  rw [hnone] at hshown
  cases hshown

end ClassTree

end BytecodeViewer
