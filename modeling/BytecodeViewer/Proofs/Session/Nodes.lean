import BytecodeViewer.Proofs.Bytecode.InMemory
import BytecodeViewer.Session.ClassTree

/-!
# The nodes of a class tree

Below the packages of a tree stands one node for each class that is listed and one for each
of its methods.  A model that answers lists its classes in the order of their names, and one in
memory lists exactly the classes that it knows.
-/

namespace BytecodeViewer.TreeNode

variable {node : TreeNode} {classes : List ClassDef} {c : ClassDef}

theorem mem_walkAll_map {α : Type} {f : α → TreeNode} {items : List α} :
    node ∈ walkAll (items.map f) ↔ ∃ x ∈ items, node ∈ (f x).walk := by
  induction items with
  | nil => simp [walkAll]
  | cons x items ih => simp [walkAll, ih]

theorem walk_eq (root : TreeNode) : root.walk = root :: walkAll root.children := by
  cases root
  rfl

@[simp] theorem children_withChildren (node : TreeNode) (below : List TreeNode) :
    (node.withChildren below).children = below := by
  cases node
  rfl

@[simp] theorem classRef_withChildren (node : TreeNode) (below : List TreeNode) :
    (node.withChildren below).classRef = node.classRef := by
  cases node
  rfl

@[simp] theorem withChildren_withChildren (node : TreeNode) (below below' : List TreeNode) :
    (node.withChildren below).withChildren below' = node.withChildren below' := by
  cases node
  rfl

theorem walk_ofMethod (c : ClassDef) (m : Method) : (ofMethod c m).walk = [ofMethod c m] := rfl

theorem mem_walk_ofClass :
    node ∈ (ofClass c).walk ↔ node = ofClass c ∨ ∃ m ∈ c.methods, node = ofMethod c m := by
  have hchildren : (ofClass c).children = c.methods.map (ofMethod c) := rfl
  rw [walk_eq, List.mem_cons, hchildren, mem_walkAll_map]
  simp only [walk_ofMethod, List.mem_singleton]

theorem mem_walk_ofPackage {package : String} : node ∈ (ofPackage classes package).walk ↔
    node = ofPackage classes package ∨
      ∃ c ∈ classes, c.package = package ∧ node ∈ (ofClass c).walk := by
  have hchildren : (ofPackage classes package).children =
      (classes.filter (·.package == package)).map ofClass := rfl
  rw [walk_eq, List.mem_cons, hchildren, mem_walkAll_map]
  simp [and_assoc]

theorem mem_sortNames {names : List String} {name : String} :
    name ∈ sortNames names ↔ name ∈ names :=
  List.mem_mergeSort

theorem mem_packagesOf {package : String} :
    package ∈ packagesOf classes ↔ ∃ c ∈ classes, c.package = package := by
  simp [packagesOf, mem_sortNames]

theorem mem_walkAll_ofClasses : node ∈ walkAll (ofClasses classes) ↔
    (∃ package ∈ packagesOf classes, node = ofPackage classes package) ∨
      ∃ c ∈ classes, node ∈ (ofClass c).walk := by
  rw [ofClasses, mem_walkAll_map]
  constructor
  · rintro ⟨package, hpackage, hnode⟩
    rcases mem_walk_ofPackage.mp hnode with rfl | ⟨c, hc, -, hbelow⟩
    · exact .inl ⟨package, hpackage, rfl⟩
    · exact .inr ⟨c, hc, hbelow⟩
  · rintro (⟨package, hpackage, rfl⟩ | ⟨c, hc, hbelow⟩)
    · exact ⟨package, hpackage, mem_walk_ofPackage.mpr (.inl rfl)⟩
    · have hpackage : c.package ∈ packagesOf classes := mem_packagesOf.mpr ⟨c, hc, rfl⟩
      exact ⟨c.package, hpackage, mem_walk_ofPackage.mpr (.inr ⟨c, hc, rfl, hbelow⟩)⟩

/-- What can be selected in the tree of some classes. -/
theorem exists_selecting {s : Selection} :
    (∃ node ∈ walkAll (ofClasses classes), node.selection? = some s) ↔
      ∃ c ∈ classes, s = .wholeClass c.name ∨ ∃ m ∈ c.methods, s = .method c.name m.key := by
  constructor
  · rintro ⟨node, hnode, hselection⟩
    rcases mem_walkAll_ofClasses.mp hnode with ⟨package, -, rfl⟩ | ⟨c, hc, hbelow⟩
    · cases hselection
    · refine ⟨c, hc, ?_⟩
      rcases mem_walk_ofClass.mp hbelow with rfl | ⟨m, hm, rfl⟩
      · cases hselection
        exact .inl rfl
      · cases hselection
        exact .inr ⟨m, hm, rfl⟩
  · rintro ⟨c, hc, rfl | ⟨m, hm, rfl⟩⟩
    · have hbelow : ofClass c ∈ (ofClass c).walk := mem_walk_ofClass.mpr (.inl rfl)
      exact ⟨_, mem_walkAll_ofClasses.mpr (.inr ⟨c, hc, hbelow⟩), rfl⟩
    · have hbelow : ofMethod c m ∈ (ofClass c).walk := mem_walk_ofClass.mpr (.inr ⟨m, hm, rfl⟩)
      exact ⟨_, mem_walkAll_ofClasses.mpr (.inr ⟨c, hc, hbelow⟩), rfl⟩

/-! ## Ascending lists -/

section Ascending

variable {α : Type} {key : α → String} {xs ys : List α} {names : List String}

theorem nodup_keys_of_ascending (hxs : xs.Pairwise (key · < key ·)) : (xs.map key).Nodup := by
  refine List.pairwise_map.mpr (hxs.imp ?_)
  intro x y hlt heq
  rw [heq] at hlt
  exact String.lt_irrefl _ hlt

theorem nodup_of_ascending (hxs : xs.Pairwise (key · < key ·)) : xs.Nodup :=
  (List.pairwise_map.mp (nodup_keys_of_ascending hxs)).imp fun hne heq => hne (congrArg key heq)

/-- An ascending list is determined by what is in it. -/
theorem eq_of_ascending (hxs : xs.Pairwise (key · < key ·)) (hys : ys.Pairwise (key · < key ·))
    (same : ∀ x, x ∈ xs ↔ x ∈ ys) : xs = ys := by
  have perm : xs.Perm ys :=
    (List.perm_ext_iff_of_nodup (nodup_of_ascending hxs) (nodup_of_ascending hys)).mpr same
  exact perm.eq_of_pairwise (fun x y _ _ hlt hgt => absurd hgt (String.lt_asymm hlt)) hxs hys

theorem pairwise_sortNames (names : List String) : (sortNames names).Pairwise (· ≤ ·) := by
  have trans (a b c : String) (hab : decide (a ≤ b) = true) (hbc : decide (b ≤ c) = true) :
      decide (a ≤ c) = true :=
    decide_eq_true (String.le_trans (of_decide_eq_true hab) (of_decide_eq_true hbc))
  have total (a b : String) : (decide (a ≤ b) || decide (b ≤ a)) = true := by
    simpa using String.le_total a b
  exact (List.pairwise_mergeSort trans total names).imp of_decide_eq_true

/-- Sorting gives the names in the only order in which they ascend. -/
theorem sortNames_eq {sorted : List String} (perm : names.Perm sorted)
    (hsorted : sorted.Pairwise (· ≤ ·)) : sortNames names = sorted := by
  have perm' : (sortNames names).Perm sorted := (List.mergeSort_perm _ _).trans perm
  exact perm'.eq_of_pairwise (fun _ _ _ _ hle hge => String.le_antisymm hle hge)
    (pairwise_sortNames names) hsorted

theorem sortNames_congr {names' : List String} (perm : names'.Perm names) :
    sortNames names' = sortNames names :=
  sortNames_eq (perm.trans (List.mergeSort_perm _ _).symm) (pairwise_sortNames names)

theorem ascending_sortNames (nodup : names.Nodup) : (sortNames names).Pairwise (· < ·) := by
  have distinct : (sortNames names).Nodup := (List.mergeSort_perm names _).nodup_iff.mpr nodup
  refine ((pairwise_sortNames names).and distinct).imp ?_
  rintro a b ⟨hle, hne⟩
  rw [← String.not_le]
  exact fun hge => hne (String.le_antisymm hle hge)

end Ascending

/-! ## The classes that are listed -/

theorem mapM_congr_of_mem {α β : Type} {f g : α → Except Failure β} {items : List α}
    (same : ∀ x ∈ items, f x = g x) : items.mapM f = items.mapM g := by
  induction items with
  | nil => rfl
  | cons x items ih =>
      have hrest := ih fun y hy => same y (List.mem_cons_of_mem _ hy)
      rw [List.mapM_cons, List.mapM_cons, same x List.mem_cons_self, hrest]

theorem mapM_of_ok {α β : Type} {f : α → Except Failure β} {g : α → β} {items : List α}
    (known : ∀ x ∈ items, f x = .ok (g x)) : items.mapM f = .ok (items.map g) :=
  (mapM_congr_of_mem known).trans List.mapM_pure

variable {m : LoadedModel} {names : List String}

theorem listedClasses_of_names {class? : String → Option ClassDef} (hnames : m.names = .ok names)
    (hclass : ∀ name ∈ names, m.class? name = .ok (class? name)) :
    listedClasses m = .ok ((sortNames names).filterMap class?) := by
  have hfound := mapM_of_ok fun name hname => hclass name (mem_sortNames.mp hname)
  simp only [listedClasses, hnames, hfound, bind, Except.bind, pure, Except.pure,
    List.filterMap_map]
  rfl

/-- A model that answers lists its classes in the order of their names. -/
theorem exists_ascending (hnames : m.names = .ok names) (nodup : names.Nodup)
    (answers : ∀ name ∈ names, ∃ found, m.class? name = .ok found) (byName : m.ListsByName) :
    ∃ classes, listedClasses m = .ok classes ∧ classes.Pairwise (·.name < ·.name) ∧
      ∀ c, c ∈ classes ↔ c.name ∈ names ∧ m.class? c.name = .ok (some c) := by
  let class? (name : String) : Option ClassDef := (m.class? name).toOption.join
  have hclass : ∀ name ∈ names, m.class? name = .ok (class? name) := by
    intro name hname
    obtain ⟨found, hfound⟩ := answers name hname
    simp only [class?, hfound]
    rfl
  have named : ∀ name ∈ names, ∀ c, class? name = some c → c.name = name :=
    fun name hname c hc => byName names name c hnames hname (by rw [hclass name hname, hc])
  refine ⟨_, listedClasses_of_names hnames hclass, ?_, ?_⟩
  · refine List.pairwise_filterMap.mpr ((ascending_sortNames nodup).imp_of_mem ?_)
    intro name name' hname hname' hlt c hc c' hc'
    rwa [named name (mem_sortNames.mp hname) c hc, named name' (mem_sortNames.mp hname') c' hc']
  · intro c
    rw [List.mem_filterMap]
    constructor
    · rintro ⟨name, hname, hc⟩
      have hlisted := mem_sortNames.mp hname
      obtain rfl := named name hlisted c hc
      exact ⟨hlisted, by rw [hclass _ hlisted, hc]⟩
    · rintro ⟨hlisted, hc⟩
      rw [hclass _ hlisted] at hc
      exact ⟨c.name, mem_sortNames.mpr hlisted, Except.ok.inj hc⟩

/-- The classes that a model in memory lists are the ones that it knows, each once. -/
theorem exists_listed (classes : List ClassDef) (disposals : Nat) :
    ∃ listed, listedClasses (.inMemory classes disposals) = .ok listed ∧
      (listed.map (·.name)).Nodup ∧
      ∀ c, c ∈ listed ↔ (LoadedModel.inMemory classes disposals).class? c.name = .ok (some c) := by
  let names := if disposals = 0 then (Model.ofClasses classes).names else []
  have keyed : (Model.ofClasses classes).Keyed := Model.keyed_ofClasses classes
  have hnames : (LoadedModel.inMemory classes disposals).names = .ok names :=
    LoadedModel.names_inMemory
  have nodup : names.Nodup := by
    unfold names
    split
    · exact keyed.nodup
    · exact List.nodup_nil
  have answers : ∀ name ∈ names, ∃ found,
      (LoadedModel.inMemory classes disposals).class? name = .ok found := by
    intro name hname
    unfold names at hname
    split at hname
    · next hd => exact ⟨_, by rw [LoadedModel.class?_inMemory, if_pos hd]⟩
    · cases hname
  have byName : (LoadedModel.inMemory classes disposals).ListsByName :=
    fun _ _ _ _ _ hc => LoadedModel.name_of_class?_inMemory hc
  obtain ⟨listed, hlisted, ascending, hmem⟩ := exists_ascending hnames nodup answers byName
  refine ⟨listed, hlisted, nodup_keys_of_ascending ascending, fun c => (hmem c).trans ?_⟩
  apply and_iff_right_of_imp
  intro hc
  obtain ⟨hd, hfound⟩ := LoadedModel.class?_inMemory_eq_some.mp hc
  unfold names
  rw [if_pos hd]
  exact keyed.mem_names hfound

end BytecodeViewer.TreeNode
