import BytecodeViewer.Proofs.Bytecode.QualifiedName
import BytecodeViewer.Proofs.Session.MethodNodes

/-!
# Classes by package

The tree of a model groups the classes that it lists and knows by their packages, in ascending
order of packages and of names.  This determines the tree, whatever the order in which the
names are listed.
-/

namespace BytecodeViewer

namespace TreeNode

/-! ## Groups -/

/-- The nodes of classes that are grouped by package. -/
def rootsOf (groups : List (String × List ClassDef)) : List TreeNode :=
  groups.map fun (package, classes) =>
    mk .package (if package = "" then "(default package)" else package) none none <|
      classes.map fun c => mk .wholeClass c.simpleName (some c.name) none <|
        c.methods.map fun m => mk .method m.key (some c.name) (some m.key) []

/-- Some classes grouped by package, each of them once.  The packages ascend, and so do the
names of the classes of one package; no package is without classes. -/
structure Grouping (shown : ClassDef → Prop) (groups : List (String × List ClassDef)) : Prop where
  packages : groups.Pairwise (·.1 < ·.1)
  defaultFirst : ∀ group ∈ groups, group.1 = "" → groups.head? = some group
  occupied : ∀ group ∈ groups, group.2 ≠ []
  names : ∀ group ∈ groups, group.2.Pairwise (·.name < ·.name)
  housed : ∀ group ∈ groups, ∀ c ∈ group.2, InPackage c.name group.1
  once : (groups.flatMap (·.2)).Nodup
  complete : ∀ c, c ∈ groups.flatMap (·.2) ↔ shown c

namespace Grouping

variable {shown : ClassDef → Prop} {groups groups' : List (String × List ClassDef)}
  {group : String × List ClassDef} {c : ClassDef}

theorem exists_group (grouping : Grouping shown groups) (hc : shown c) :
    ∃ group ∈ groups, group.1 = c.package ∧ c ∈ group.2 := by
  obtain ⟨group, hgroup, hmem⟩ := List.mem_flatMap.mp ((grouping.complete c).mpr hc)
  have hpackage := ClassDef.package_eq_iff.mpr (grouping.housed group hgroup c hmem)
  exact ⟨group, hgroup, hpackage.symm, hmem⟩

theorem eq_of_package (grouping : Grouping shown groups) {other : String × List ClassDef}
    (hgroup : group ∈ groups) (hother : other ∈ groups) (same : other.1 = group.1) :
    other = group := by
  have nodup : (groups.map (·.1)).Nodup := nodup_keys_of_ascending grouping.packages
  have hother' : other ∈ groups.filter (·.1 == group.1) :=
    List.mem_filter.mpr ⟨hother, beq_iff_eq.mpr same⟩
  rw [filter_eq_singleton nodup hgroup] at hother'
  exact List.mem_singleton.mp hother'

theorem mem_iff (grouping : Grouping shown groups) (hgroup : group ∈ groups) :
    c ∈ group.2 ↔ shown c ∧ c.package = group.1 := by
  constructor
  · intro hmem
    exact ⟨(grouping.complete c).mp (List.mem_flatMap.mpr ⟨group, hgroup, hmem⟩),
      ClassDef.package_eq_iff.mpr (grouping.housed group hgroup c hmem)⟩
  · rintro ⟨hc, hpackage⟩
    obtain ⟨other, hother, hsame, hmem⟩ := grouping.exists_group hc
    rwa [← grouping.eq_of_package hgroup hother (hsame.trans hpackage)]

theorem mem_of_mem (grouping : Grouping shown groups) (grouping' : Grouping shown groups')
    (hgroup : group ∈ groups) : group ∈ groups' := by
  obtain ⟨c, hc⟩ := List.exists_mem_of_ne_nil _ (grouping.occupied group hgroup)
  obtain ⟨hshown, hpackage⟩ := (grouping.mem_iff hgroup).mp hc
  obtain ⟨other, hother, hsame, -⟩ := grouping'.exists_group hshown
  have hkey : other.1 = group.1 := hsame.trans hpackage
  have hclasses : other.2 = group.2 := by
    apply eq_of_ascending (grouping'.names other hother) (grouping.names group hgroup)
    intro x
    rw [grouping'.mem_iff hother, grouping.mem_iff hgroup, hkey]
  rwa [← Prod.ext hkey hclasses]

theorem unique (grouping : Grouping shown groups) (grouping' : Grouping shown groups') :
    groups = groups' :=
  eq_of_ascending grouping.packages grouping'.packages
    fun _ => ⟨grouping.mem_of_mem grouping', grouping'.mem_of_mem grouping⟩

end Grouping

/-! ## The groups of a tree -/

theorem not_lt_empty (s : String) : ¬s < "" :=
  List.not_lt_nil s.toList

/-- No package comes before the default one. -/
theorem head?_of_ascending {groups : List (String × List ClassDef)}
    {group : String × List ClassDef} (ascending : groups.Pairwise (·.1 < ·.1))
    (hgroup : group ∈ groups) (hdefault : group.1 = "") : groups.head? = some group := by
  cases groups with
  | nil => cases hgroup
  | cons first groups =>
      rcases List.mem_cons.mp hgroup with rfl | hlater
      · rfl
      · have hlt := List.rel_of_pairwise_cons ascending hlater
        rw [hdefault] at hlt
        exact absurd hlt (not_lt_empty _)

def groupsOf (classes : List ClassDef) : List (String × List ClassDef) :=
  (packagesOf classes).map fun package => (package, classes.filter (·.package == package))

theorem ofClasses_eq (classes : List ClassDef) :
    ofClasses classes = rootsOf (groupsOf classes) := by
  rw [rootsOf, groupsOf, List.map_map]
  rfl

variable {classes : List ClassDef} {group : String × List ClassDef}

theorem mem_groupsOf : group ∈ groupsOf classes ↔
    (∃ c ∈ classes, c.package = group.1) ∧ group.2 = classes.filter (·.package == group.1) := by
  rw [groupsOf, List.mem_map]
  constructor
  · rintro ⟨package, hpackage, rfl⟩
    exact ⟨mem_packagesOf.mp hpackage, rfl⟩
  · rintro ⟨hpackage, hclasses⟩
    exact ⟨group.1, mem_packagesOf.mpr hpackage, Prod.ext rfl hclasses.symm⟩

theorem grouping_groupsOf (ascending : classes.Pairwise (·.name < ·.name)) :
    Grouping (· ∈ classes) (groupsOf classes) := by
  have packages : (groupsOf classes).Pairwise (·.1 < ·.1) :=
    List.pairwise_map.mpr (ascending_sortNames (nodup_eraseDups _))
  have housed : ∀ group ∈ groupsOf classes, ∀ c ∈ group.2, c ∈ classes ∧ c.package = group.1 := by
    intro group hgroup c hc
    rw [(mem_groupsOf.mp hgroup).2] at hc
    simpa using hc
  have names : ∀ group ∈ groupsOf classes, group.2.Pairwise (·.name < ·.name) := by
    intro group hgroup
    rw [(mem_groupsOf.mp hgroup).2]
    exact ascending.filter _
  refine ⟨packages, fun _ => head?_of_ascending packages, ?_, names, ?_, ?_, ?_⟩
  · intro group hgroup
    obtain ⟨⟨c, hc, hpackage⟩, hclasses⟩ := mem_groupsOf.mp hgroup
    have hmem : c ∈ group.2 := by simp [hclasses, hc, hpackage]
    exact List.ne_nil_of_mem hmem
  · exact fun group hgroup c hc => ClassDef.package_eq_iff.mp (housed group hgroup c hc).2
  · have once : ∀ group ∈ groupsOf classes, group.2.Nodup :=
      fun group hgroup => nodup_of_ascending (names group hgroup)
    refine List.pairwise_flatMap.mpr ⟨once, ?_⟩
    -- Classes of different packages differ.
    refine packages.imp_of_mem ?_
    rintro group other hgroup hother hlt c hc _ hc' rfl
    rw [← (housed group hgroup c hc).2, ← (housed other hother c hc').2] at hlt
    exact String.lt_irrefl _ hlt
  · intro c
    rw [List.mem_flatMap]
    constructor
    · rintro ⟨group, hgroup, hc⟩
      exact (housed group hgroup c hc).1
    · intro hc
      exact ⟨(c.package, classes.filter (·.package == c.package)),
        mem_groupsOf.mpr ⟨⟨c, hc, rfl⟩, rfl⟩, by simp [hc]⟩

/-! ## Trees of models -/

variable {m : LoadedModel} {names : List String}

/-- It does not matter in which order a model lists its names. -/
theorem ofModel_congr {m' : LoadedModel} {names' : List String} (hnames : m.names = .ok names)
    (hnames' : m'.names = .ok names') (perm : names'.Perm names)
    (same : ∀ name ∈ names, m'.class? name = m.class? name) : ofModel m' = ofModel m := by
  have hsort : sortNames names' = sortNames names := sortNames_congr perm
  have hfound : (sortNames names).mapM m'.class? = (sortNames names).mapM m.class? :=
    mapM_congr_of_mem fun name hname => same name (mem_sortNames.mp hname)
  simp only [ofModel, listedClasses, hnames, hnames', bind, Except.bind, hsort, hfound]

/-- The tree of a model that answers has each class that is listed and known once, in its
package, and is the same for every order in which the names are listed. -/
theorem ofModel_canonical (hnames : m.names = .ok names) (nodup : names.Nodup)
    (answers : ∀ name ∈ names, ∃ found, m.class? name = .ok found) (byName : m.ListsByName) :
    ∃ groups, ofModel m = .ok (rootsOf groups) ∧
      (∀ others, Grouping (fun c => c.name ∈ names ∧ m.class? c.name = .ok (some c)) others ↔
        others = groups) ∧
      ∀ (m' : LoadedModel) (names' : List String), m'.names = .ok names' → names'.Perm names →
        (∀ name ∈ names, m'.class? name = m.class? name) → ofModel m' = .ok (rootsOf groups) := by
  obtain ⟨classes, hlisted, ascending, hmem⟩ := exists_ascending hnames nodup answers byName
  have htree : ofModel m = .ok (rootsOf (groupsOf classes)) := by
    rw [ofModel, hlisted, ← ofClasses_eq]
    rfl
  have grouping := grouping_groupsOf ascending
  rw [funext fun c => propext (hmem c)] at grouping
  refine ⟨groupsOf classes, htree, fun others => ⟨fun other => other.unique grouping, ?_⟩, ?_⟩
  · rintro rfl
    exact grouping
  · intro m' names' hnames' perm same
    rw [ofModel_congr hnames hnames' perm same, htree]

/-- Some classes in the order of their names. -/
def scatteredClasses : List ClassDef :=
  [{ name := ".D" }, { name := "A", methods := [{ name := "run" }] }, { name := "a.b.C" },
    { name := "b.C" }]

def scatteredNames : List String := ["b.C", "ghost", "A", "a.b.C", ".D"]

/-- A model that lists the names of these classes in some order, and one that it does not
know. -/
def scatteredModel (names : List String) : LoadedModel where
  model := .ofClasses scatteredClasses
  listing := .ok names

theorem ofModel_scattered :
    ofModel (scatteredModel scatteredNames) = .ok (ofClasses scatteredClasses) := by
  have hnames : (scatteredModel scatteredNames).names = .ok scatteredNames := rfl
  have hsorted : sortNames scatteredNames = [".D", "A", "a.b.C", "b.C", "ghost"] :=
    sortNames_eq (by decide) (by decide)
  have hclass : ∀ name ∈ scatteredNames, (scatteredModel scatteredNames).class? name =
      .ok ((Model.ofClasses scatteredClasses).class? name) := fun _ _ => rfl
  rw [ofModel, listedClasses_of_names hnames hclass, hsorted]
  rfl

theorem packagesOf_scattered : packagesOf scatteredClasses = ["", "a.b", "b"] :=
  sortNames_eq (by decide) (by decide)

theorem ofModel_canonical_scattered :
    (scatteredModel scatteredNames).names = .ok scatteredNames ∧ scatteredNames.Nodup ∧
      (∀ name ∈ scatteredNames, ∃ found,
        (scatteredModel scatteredNames).class? name = .ok found) ∧
      (scatteredModel scatteredNames).ListsByName ∧
      ∃ groups, ofModel (scatteredModel scatteredNames) = .ok (rootsOf groups) ∧
        (rootsOf groups).map (·.label) = ["(default package)", "a.b", "b"] ∧
        Grouping (fun c => c.name ∈ scatteredNames ∧
          (scatteredModel scatteredNames).class? c.name = .ok (some c)) groups ∧
        ofModel (scatteredModel scatteredNames.reverse) = .ok (rootsOf groups) := by
  have hnames (names : List String) : (scatteredModel names).names = .ok names := rfl
  have nodup : scatteredNames.Nodup := by decide
  have answers : ∀ name ∈ scatteredNames, ∃ found,
      (scatteredModel scatteredNames).class? name = .ok found := fun name _ => ⟨_, rfl⟩
  have byName : (scatteredModel scatteredNames).ListsByName := by
    intro names name c _ _ hc
    exact (Model.keyed_ofClasses _).name_eq (Except.ok.inj hc)
  obtain ⟨groups, htree, hgroups, hordered⟩ :=
    ofModel_canonical (hnames scatteredNames) nodup answers byName
  have hlabels : (rootsOf groups).map (·.label) = ["(default package)", "a.b", "b"] := by
    rw [← Except.ok.inj (ofModel_scattered.symm.trans htree), ofClasses, packagesOf_scattered]
    rfl
  exact ⟨hnames _, nodup, answers, byName, groups, htree, hlabels, (hgroups groups).mpr rfl,
    hordered _ _ (hnames _) (List.reverse_perm _) fun name _ => rfl⟩

end TreeNode

end BytecodeViewer
