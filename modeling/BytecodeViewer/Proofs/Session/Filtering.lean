import BytecodeViewer.Proofs.Session.Nodes
import BytecodeViewer.Proofs.Text.Lowering

/-!
# Filtering the tree

What a tree shows depends on the last text only that it has been filtered by.  The empty text
shows all of it; any other one leaves the classes and methods that match, in their order, and
what they stand below.
-/

namespace BytecodeViewer

namespace TreeNode

variable {node : TreeNode} {nodes : List TreeNode} {keeps : TreeNode → Prop} {needle : String}

theorem matchesLower_iff {text : String} :
    matchesLower needle text = true ↔ Text.Occurs needle (Text.lower text) :=
  Text.holdsPart_iff

/-! ## What remains -/

/-- A method remains if its class or its own key matches. -/
def MethodRemains (needle : String) (node : TreeNode) : Prop :=
  Text.Occurs needle (Text.lower (node.classRef.getD "")) ∨
    Text.Occurs needle (Text.lower (node.methodRef.getD ""))

/-- A class remains if its name matches or one of its methods remains. -/
def ClassRemains (needle : String) (node : TreeNode) : Prop :=
  Text.Occurs needle (Text.lower (node.classRef.getD "")) ∨
    ∃ method ∈ node.children, MethodRemains needle method

/-- A package remains if one of its classes remains. -/
def PackageRemains (needle : String) (node : TreeNode) : Prop :=
  ∃ child ∈ node.children, ClassRemains needle child

def Remains (needle : String) (node : TreeNode) : Prop :=
  match node.kind with
  | .package => PackageRemains needle node
  | .wholeClass => ClassRemains needle node
  | .method => MethodRemains needle node

/-! ## Trees without some of their nodes -/

/-- Of some nodes those that are kept, in their order, each with those below it that are
kept. -/
inductive Pruned (keeps : TreeNode → Prop) : List TreeNode → List TreeNode → Prop
  | nil : Pruned keeps [] []
  | drop {node : TreeNode} {nodes shown : List TreeNode} (gone : ¬keeps node)
      (rest : Pruned keeps nodes shown) : Pruned keeps (node :: nodes) shown
  | keep {node : TreeNode} {nodes shown below : List TreeNode} (kept : keeps node)
      (children : Pruned keeps node.children below) (rest : Pruned keeps nodes shown) :
      Pruned keeps (node :: nodes) (node.withChildren below :: shown)

theorem Pruned.unique {shown shown' : List TreeNode} (pruned : Pruned keeps nodes shown)
    (pruned' : Pruned keeps nodes shown') : shown = shown' := by
  induction pruned generalizing shown' with
  | nil =>
      cases pruned'
      rfl
  | drop gone _ ih =>
      cases pruned' with
      | drop _ rest' => exact ih rest'
      | keep kept => exact absurd kept gone
  | keep kept _ _ ihBelow ihRest =>
      cases pruned' with
      | drop gone => exact absurd kept gone
      | keep _ children' rest' => rw [ihBelow children', ihRest rest']

/-- A node is left out because it is not kept, or kept with those below it that are. -/
def Prunes (keeps : TreeNode → Prop) (node : TreeNode) : Option TreeNode → Prop
  | none => ¬keeps node
  | some kept => keeps node ∧ ∃ below, kept = node.withChildren below ∧
      Pruned keeps node.children below

theorem pruned_filterMap {prune : TreeNode → Option TreeNode}
    (prunes : ∀ node ∈ nodes, Prunes keeps node (prune node)) :
    Pruned keeps nodes (nodes.filterMap prune) := by
  induction nodes with
  | nil => exact .nil
  | cons node nodes ih =>
      have rest := ih fun other hother => prunes other (List.mem_cons_of_mem _ hother)
      have first := prunes node List.mem_cons_self
      cases hprune : prune node with
      | none =>
          rw [hprune] at first
          rw [List.filterMap_cons_none hprune]
          exact .drop first rest
      | some kept =>
          rw [hprune] at first
          obtain ⟨hkeeps, below, rfl, children⟩ := first
          rw [List.filterMap_cons_some hprune]
          exact .keep hkeeps children rest

theorem Pruned.ne_nil_iff {shown : List TreeNode} (pruned : Pruned keeps nodes shown) :
    shown ≠ [] ↔ ∃ node ∈ nodes, keeps node := by
  induction pruned with
  | nil => simp
  | drop gone _ ih => simp [ih, gone]
  | keep kept => simp [kept]

/-- A node that is kept exactly if something below it is. -/
theorem prunes_of_below {below : List TreeNode} (children : Pruned keeps node.children below)
    (hkeeps : keeps node ↔ ∃ child ∈ node.children, keeps child) :
    Prunes keeps node (if below.isEmpty then none else some (node.withChildren below)) := by
  have hbelow := hkeeps.trans children.ne_nil_iff.symm
  by_cases hempty : below = []
  · rw [if_pos (List.isEmpty_iff.mpr hempty)]
    exact fun kept => hbelow.mp kept hempty
  · rw [if_neg (mt List.isEmpty_iff.mp hempty)]
    exact ⟨hbelow.mpr hempty, below, rfl, children⟩

/-! ## Filters -/

variable {c : ClassDef} {classes : List ClassDef} {m : Method} {package : String}

theorem remains_ofMethod : Remains needle (ofMethod c m) ↔
    Text.Occurs needle (Text.lower c.name) ∨ Text.Occurs needle (Text.lower m.key) :=
  Iff.rfl

theorem remains_ofClass : Remains needle (ofClass c) ↔
    Text.Occurs needle (Text.lower c.name) ∨
      ∃ method ∈ c.methods.map (ofMethod c), Remains needle method := by
  refine or_congr Iff.rfl (exists_congr fun method => and_congr_right fun hmethod => ?_)
  obtain ⟨m, -, rfl⟩ := List.mem_map.mp hmethod
  exact Iff.rfl

theorem remains_ofPackage : Remains needle (ofPackage classes package) ↔
    ∃ child ∈ (classes.filter (·.package == package)).map ofClass, Remains needle child := by
  refine exists_congr fun child => and_congr_right fun hchild => ?_
  obtain ⟨c, -, rfl⟩ := List.mem_map.mp hchild
  exact Iff.rfl

/-- The methods of a class are filtered by what the class or their own keys say. -/
theorem pruned_methods (methods : List Method) (chosen : TreeNode → Bool)
    (hchosen : ∀ m, chosen (ofMethod c m) = true ↔ Remains needle (ofMethod c m)) :
    Pruned (Remains needle) (methods.map (ofMethod c))
      ((methods.map (ofMethod c)).filter chosen) := by
  rw [← List.filterMap_eq_filter]
  apply pruned_filterMap
  intro node hnode
  obtain ⟨m, -, rfl⟩ := List.mem_map.mp hnode
  by_cases hm : chosen (ofMethod c m) = true
  · rw [Option.guard, if_pos hm]
    exact ⟨(hchosen m).mp hm, [], rfl, .nil⟩
  · rw [Option.guard, if_neg hm]
    exact fun remains => hm ((hchosen m).mpr remains)

theorem pruned_methods_of_name (hname : Text.Occurs needle (Text.lower c.name)) :
    Pruned (Remains needle) (c.methods.map (ofMethod c)) (c.methods.map (ofMethod c)) := by
  have children := pruned_methods c.methods (fun _ => true)
    fun m => iff_of_true rfl (remains_ofMethod.mpr (.inl hname))
  rwa [List.filter_eq_self.mpr fun _ _ => rfl] at children

theorem filterClass_prunes (needle : String) (c : ClassDef) :
    Prunes (Remains needle) (ofClass c) (filterClass needle (ofClass c)) := by
  have hname : matchesLower needle ((ofClass c).classRef.getD "") = true ↔
      Text.Occurs needle (Text.lower c.name) := matchesLower_iff
  by_cases hmatches : matchesLower needle ((ofClass c).classRef.getD "") = true
  · -- The class matches by its name, and with it each of its methods.
    have hoccurs := hname.mp hmatches
    rw [filterClass, if_pos hmatches]
    exact ⟨remains_ofClass.mpr (.inl hoccurs), _, rfl, pruned_methods_of_name hoccurs⟩
  · have hother : ¬Text.Occurs needle (Text.lower c.name) := fun h => hmatches (hname.mpr h)
    rw [filterClass, if_neg hmatches]
    apply prunes_of_below
    · exact pruned_methods c.methods _ fun m => matchesLower_iff.trans (or_iff_right hother).symm
    · exact remains_ofClass.trans (or_iff_right hother)

theorem filterPackage_prunes (needle : String) (classes : List ClassDef) (package : String) :
    Prunes (Remains needle) (ofPackage classes package)
      (filterPackage needle (ofPackage classes package)) := by
  apply prunes_of_below
  · apply pruned_filterMap
    intro node hnode
    obtain ⟨c, -, rfl⟩ := List.mem_map.mp hnode
    exact filterClass_prunes needle c
  · exact remains_ofPackage

theorem filterAll_ofClasses (classes : List ClassDef) {text : String} (hne : text ≠ "") :
    Pruned (Remains (Text.lower text)) (ofClasses classes)
      (filterAll (ofClasses classes) text) := by
  rw [filterAll, if_neg hne]
  apply pruned_filterMap
  intro node hnode
  obtain ⟨package, -, rfl⟩ := List.mem_map.mp hnode
  exact filterPackage_prunes (Text.lower text) classes package

end TreeNode

/-! ## Successive filters -/

namespace ClassTree

/-- Of successive filters, the last one counts. -/
theorem foldl_setFilter (texts : List String) (t : ClassTree) :
    (texts.foldl setFilter t).roots = t.roots ∧
      (texts.foldl setFilter t).filterText = texts.getLast?.getD t.filterText := by
  induction texts generalizing t with
  | nil => exact ⟨rfl, rfl⟩
  | cons text texts ih =>
      obtain ⟨hroots, htext⟩ := ih (t.setFilter text)
      exact ⟨hroots, by rw [List.foldl_cons, htext, List.getLast?_cons, Option.getD_some]; rfl⟩

theorem visible_foldl_setFilter (texts : List String) (t : ClassTree) :
    (texts.foldl setFilter t).visible =
      TreeNode.filterAll t.roots (texts.getLast?.getD t.filterText) := by
  obtain ⟨hroots, htext⟩ := foldl_setFilter texts t
  rw [visible_eq, hroots, htext]

/-- Whatever a tree has been filtered by before, it shows all its nodes if the last text was
empty, and otherwise those of them that remain for it. -/
theorem visible_of_filters (classes : List ClassDef) (disposals : Nat) (texts : List String) :
    ∃ roots, TreeNode.ofModel (.inMemory classes disposals) = .ok roots ∧
      let last := texts.getLast?.getD ""
      ∀ shown, (texts.foldl setFilter { roots }).visible = shown ↔
        if last = "" then shown = roots
        else TreeNode.Pruned (TreeNode.Remains (Text.lower last)) roots shown := by
  obtain ⟨listed, hlisted, -, -⟩ := TreeNode.exists_listed classes disposals
  refine ⟨TreeNode.ofClasses listed, by rw [TreeNode.ofModel, hlisted]; rfl, ?_⟩
  intro last shown
  rw [visible_foldl_setFilter]
  change TreeNode.filterAll (TreeNode.ofClasses listed) last = shown ↔ _
  by_cases hlast : last = ""
  · rw [if_pos hlast, hlast, TreeNode.filterAll_empty]
    exact eq_comm
  · have pruned := TreeNode.filterAll_ofClasses listed hlast
    rw [if_neg hlast]
    constructor
    · rintro rfl
      exact pruned
    · exact pruned.unique

end ClassTree

end BytecodeViewer
