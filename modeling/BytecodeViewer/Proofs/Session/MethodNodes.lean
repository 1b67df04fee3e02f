import BytecodeViewer.Proofs.Render.LookUp
import BytecodeViewer.Proofs.Session.Nodes

/-!
# The method that a node shows

A method node refers to its method by the key.  It shows its own method exactly if methods
of the class that share a key are written alike, which a method and one that only bridges to
it are not.
-/

namespace BytecodeViewer

/-! ## The nodes of the methods of a class -/

section Unique

variable {α : Type} {name : String}

theorem nodup_eraseDups : (names : List String) → names.eraseDups.Nodup
  | [] => by simp
  | name :: names => by
      rw [List.eraseDups_cons, List.nodup_cons]
      constructor
      · simp
      · exact nodup_eraseDups (names.filter fun other => !other == name)
termination_by names => names.length
decreasing_by exact Nat.lt_succ_of_le (List.length_filter_le _ _)

theorem filter_eq_singleton {nameOf : α → String} {items : List α} {x : α}
    (nodup : (items.map nameOf).Nodup) (hmem : x ∈ items) :
    items.filter (nameOf · == nameOf x) = [x] := by
  induction items with
  | nil => cases hmem
  | cons y items ih =>
      obtain ⟨hnew, hrest⟩ := List.nodup_cons.mp nodup
      rcases List.mem_cons.mp hmem with rfl | hlater
      · have hnone : items.filter (nameOf · == nameOf x) = [] := by
          rw [List.filter_eq_nil_iff]
          intro z hz hsame
          exact hnew (eq_of_beq hsame ▸ List.mem_map_of_mem hz)
        simp [hnone]
      · have hne : nameOf y ≠ nameOf x := fun e => hnew (e ▸ List.mem_map_of_mem hlater)
        simp [hne, ih hrest hlater]

theorem flatMap_eq_of_unique {f : String → List α} {names : List String} (nodup : names.Nodup)
    (hmem : name ∈ names) (hother : ∀ other, other ≠ name → f other = []) :
    names.flatMap f = f name := by
  induction names with
  | nil => cases hmem
  | cons first names ih =>
      obtain ⟨hnew, hrest⟩ := List.nodup_cons.mp nodup
      rcases List.mem_cons.mp hmem with rfl | hlater
      · have hnone : names.flatMap f = [] := by
          rw [List.flatMap_eq_nil_iff]
          intro other hmem'
          exact hother other fun e => hnew (e ▸ hmem')
        simp [hnone]
      · have hne : first ≠ name := fun e => hnew (e ▸ hlater)
        simp [hother first hne, ih hrest hlater]

end Unique

namespace TreeNode

/-- The nodes below the class node of a name. -/
def methodNodes (roots : List TreeNode) (name : String) : List TreeNode :=
  ((roots.flatMap (·.children)).filter (·.classRef == some name)).flatMap (·.children)

theorem nodup_packagesOf (classes : List ClassDef) : (packagesOf classes).Nodup :=
  (List.mergeSort_perm _ _).nodup_iff.mpr (nodup_eraseDups _)

theorem methodNodes_ofClasses {classes : List ClassDef} {c : ClassDef}
    (nodup : (classes.map (·.name)).Nodup) (hmem : c ∈ classes) :
    methodNodes (ofClasses classes) c.name = c.methods.map (ofMethod c) := by
  have hnamed : classes.filter (·.name == c.name) = [c] := filter_eq_singleton nodup hmem
  have hbelow (package : String) : ((ofPackage classes package).children).filter
      (·.classRef == some c.name) = ([c].filter (·.package == package)).map ofClass := by
    calc
      _ = ((classes.filter (·.package == package)).filter (·.name == c.name)).map ofClass := by
        have hchildren : (ofPackage classes package).children =
            (classes.filter (·.package == package)).map ofClass := rfl
        rw [hchildren, List.filter_map]
        congr 2
      _ = ((classes.filter (·.name == c.name)).filter (·.package == package)).map ofClass := by
        simp only [List.filter_filter, Bool.and_comm]
      _ = _ := by rw [hnamed]
  have hnode : ((ofClasses classes).flatMap (·.children)).filter (·.classRef == some c.name) =
      [ofClass c] := by
    rw [ofClasses, List.flatMap_map, List.filter_flatMap]
    simp only [hbelow]
    rw [flatMap_eq_of_unique (nodup_packagesOf classes) (mem_packagesOf.mpr ⟨c, hmem, rfl⟩)]
    · simp
    · intro other hother
      simp [Ne.symm hother]
  rw [methodNodes, hnode, List.flatMap_singleton]
  rfl

end TreeNode

/-! ## What the nodes show -/

theorem ClassDef.exists_findMethod? {c : ClassDef} {x : Method} (hx : x ∈ c.methods) :
    ∃ k, c.findMethod? x.key = some k ∧ k ∈ c.methods ∧ k.key = x.key := by
  have hsome := (c.isSome_findMethod?_iff x.key).mpr ⟨x, hx, rfl⟩
  obtain ⟨k, hk⟩ := Option.isSome_iff_exists.mp hsome
  exact ⟨k, hk, List.mem_of_find?_eq_some hk, by simpa using List.find?_some hk⟩

namespace TreeNode

/-- Each method of a class has a node of its own, and each renderer that needs no plug-in
renders that node as the method, whatever it has rendered before. -/
def ShowsOwnMethods (classes : List ClassDef) : Prop :=
  let m := LoadedModel.inMemory classes 0
  ∃ roots, ofModel m = .ok roots ∧
    ∀ c, m.class? c.name = .ok (some c) →
      (methodNodes roots c.name).length = c.methods.length ∧
      ∀ (i : Nat) (x : Method), c.methods[i]? = some x →
        ∃ (node : TreeNode) (s : Selection), (methodNodes roots c.name)[i]? = some node ∧
          node.selection? = some s ∧
          ∀ written ∈ Language.builtinMethodLines, ∀ id uses sections,
            (((Renderer.bind { language := written.1 } (some id)).used (some m) uses).render
              (some m) sections s).1 = .ok (joinLines (written.2 c x 0 true))

/-- Methods of one class that share a key are written alike. -/
def AlikeByKey (classes : List ClassDef) : Prop :=
  ∀ c, (LoadedModel.inMemory classes 0).class? c.name = .ok (some c) →
    ∀ x ∈ c.methods, ∀ y ∈ c.methods, x.key = y.key →
      ∀ written ∈ Language.builtinMethodLines,
        joinLines (written.2 c x 0 true) = joinLines (written.2 c y 0 true)

variable {classes : List ClassDef} {c : ClassDef} {x k : Method}

theorem render_method_eq {written : Language × (ClassDef → Method → Int → Bool → List String)}
    (hwritten : written ∈ Language.builtinMethodLines)
    (hclass : (LoadedModel.inMemory classes 0).class? c.name = .ok (some c))
    (hmethod : c.findMethod? x.key = some k) (id : ModelId) (uses : List (Sections × Selection))
    (sections : Sections) :
    (((Renderer.bind { language := written.1 } (some id)).used
      (some (.inMemory classes 0)) uses).render (some (.inMemory classes 0)) sections
        (.method c.name x.key)).1 = .ok (joinLines (written.2 c k 0 true)) :=
  Renderer.renderMethod_builtin hwritten hclass hmethod id uses 0 true

theorem ShowsOwnMethods.alikeByKey (h : ShowsOwnMethods classes) : AlikeByKey classes := by
  obtain ⟨roots, hroots, hshows⟩ := h
  intro c hc x hx y hy hkey written hwritten
  obtain ⟨listed, hlisted, nodup, hknown⟩ := exists_listed classes 0
  have htree : ofModel (.inMemory classes 0) = .ok (ofClasses listed) := by
    rw [ofModel, hlisted]
    rfl
  cases hroots.symm.trans htree
  have hnodes := methodNodes_ofClasses nodup ((hknown c).mpr hc)
  have shown {z : Method} (hz : z ∈ c.methods) :
      ∃ k, c.findMethod? z.key = some k ∧
        joinLines (written.2 c k 0 true) = joinLines (written.2 c z 0 true) := by
    obtain ⟨i, hi⟩ := List.mem_iff_getElem?.mp hz
    obtain ⟨node, s, hnode, hselection, hrenders⟩ := (hshows c hc).2 i z hi
    rw [hnodes, List.getElem?_map, hi] at hnode
    cases hnode
    cases hselection
    obtain ⟨k, hk, -, -⟩ := ClassDef.exists_findMethod? hz
    have hfound := render_method_eq hwritten hc hk 0 [] .standard
    exact ⟨k, hk, Except.ok.inj (hfound.symm.trans (hrenders written hwritten 0 [] .standard))⟩
  obtain ⟨k, hk, hkx⟩ := shown hx
  obtain ⟨k', hk', hky⟩ := shown hy
  rw [hkey] at hk
  cases hk.symm.trans hk'
  exact hkx.symm.trans hky

/-- Method nodes show their own methods exactly if methods of one class that share a key are
written alike. -/
theorem showsOwnMethods_iff (classes : List ClassDef) :
    ShowsOwnMethods classes ↔ AlikeByKey classes := by
  refine ⟨ShowsOwnMethods.alikeByKey, ?_⟩
  intro alike
  obtain ⟨listed, hlisted, nodup, hknown⟩ := exists_listed classes 0
  refine ⟨ofClasses listed, ?_, ?_⟩
  · rw [ofModel, hlisted]
    rfl
  · intro c hc
    have hnodes := methodNodes_ofClasses nodup ((hknown c).mpr hc)
    refine ⟨by rw [hnodes, List.length_map], ?_⟩
    intro i x hi
    have hx : x ∈ c.methods := List.mem_iff_getElem?.mpr ⟨i, hi⟩
    obtain ⟨k, hk, hkmem, hkey⟩ := ClassDef.exists_findMethod? hx
    refine ⟨ofMethod c x, .method c.name x.key, ?_, rfl, ?_⟩
    · rw [hnodes, List.getElem?_map, hi]
      rfl
    · intro written hwritten id uses sections
      rw [render_method_eq hwritten hc hk id uses sections,
        alike c hc k hkmem x hx hkey written hwritten]

/-- A class with a method and another one that bridges to it for an older return type. -/
def bridgedClass : ClassDef where
  name := "A"
  methods := [{ name := "get", returnType := "java.lang.Object" },
    { name := "get", returnType := "int" }]

/-- Both nodes show the first of the two methods. -/
theorem bridged_not_showsOwnMethods : ¬ShowsOwnMethods [bridgedClass] := by
  intro h
  have hclass : (LoadedModel.inMemory [bridgedClass] 0).class? bridgedClass.name =
      .ok (some bridgedClass) := rfl
  have halike := h.alikeByKey bridgedClass hclass
    { name := "get", returnType := "java.lang.Object" } (by simp [bridgedClass])
    { name := "get", returnType := "int" } (by simp [bridgedClass]) rfl
    (.dex, Dex.methodLines) (by simp [Language.builtinMethodLines])
  revert halike
  decide

end TreeNode

end BytecodeViewer
