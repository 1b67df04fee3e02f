import BytecodeViewer.Proofs.Render.Blocks
import BytecodeViewer.Proofs.Render.LookUp

/-!
# Methods in the view of their class

Where a class is shown with its methods, they stand below what is shown without them, one
block for each, and each block is the method as it is shown alone.
-/

namespace BytecodeViewer

/-- What frames the methods of a class: the level at which they stand, and the lines before the
first and after the last of them. -/
structure MethodFrame where
  level : Int := 0
  heading : List String := []
  closing : List String := []

/-- The methods stand inside the class if its name is shown. -/
def Java.methodFrame (o : Sections) : MethodFrame :=
  if o.name then { level := 1, closing := ["\x7d"] } else {}

def Dex.methodFrame : MethodFrame where
  heading := ["# methods"]

/-- A class is shown as it is without its methods, up to the lines that close it, and then with
its methods one by one. -/
def AddsMethods (classLines : ClassDef → Sections → List String)
    (methodLines : ClassDef → Method → Int → Bool → List String) (frame : MethodFrame)
    (c : ClassDef) (o : Sections) : Prop :=
  ∃ head, classLines c { o with methods := false } = head ++ frame.closing ∧
    classLines c o = head ++ (if head = [] then [] else [""]) ++ frame.heading ++
      [""].intercalate (c.methods.map fun m => methodLines c m frame.level true) ++ frame.closing

variable {c : ClassDef} {o : Sections}

/-! ## Pseudo-source -/

namespace Java

theorem memberLines_of_methods (hshown : o.methods = true) :
    memberLines c o = apart (memberLines c { o with methods := false })
      ([""].intercalate (c.methods.map (methodBlock (memberLevel o) c))) := by
  have hblocks : memberBlocks c o = memberBlocks c { o with methods := false } ++
      c.methods.map (methodBlock (memberLevel o) c) := by
    simp [memberBlocks, memberLevel, hshown]
  have filled := memberBlocks_filled c o
  rw [hblocks] at filled
  rw [memberLines, hblocks, intercalate_append filled, memberLines]

theorem addsMethods (hmethods : c.methods ≠ []) (hshown : o.methods = true) :
    AddsMethods classLines methodLines (methodFrame o) c o := by
  have hlevel : (methodFrame o).level = memberLevel o := by
    cases h : o.name <;> simp [methodFrame, memberLevel, h]
  have hheading : (methodFrame o).heading = [] := by
    cases h : o.name <;> simp [methodFrame, h]
  have hclosing : (methodFrame o).closing = if o.name then ["\x7d"] else [] := by
    cases h : o.name <;> simp [methodFrame, h]
  have hhead : headLines c { o with methods := false } = headLines c o := rfl
  have hblocks : [""].intercalate (c.methods.map (methodBlock (memberLevel o) c)) ≠ [] :=
    intercalate_map_ne_nil hmethods (methodBlock_ne_nil _ c)
  refine ⟨apart (headLines c o) (memberLines c { o with methods := false }), ?_, ?_⟩
  · rw [classLines_eq, hhead, hclosing]
  · rw [classLines_eq, memberLines_of_methods hshown, ← apart_assoc, apart_eq hblocks, hlevel,
      hheading, hclosing, List.append_nil]
    rfl

end Java

/-! ## Assembly listings -/

namespace Dex

theorem methodBlock_ne_nil (level : Int) (m : Method) : methodBlock level m ≠ [] := by
  simp [methodBlock]

/-- The sections that have lines. -/
def blocks (c : ClassDef) (o : Sections) : List (List String) :=
  ((sectionOrder.filter o.has).map (sectionLines c)).filter (!·.isEmpty)

theorem blocks_filled (c : ClassDef) (o : Sections) : ∀ block ∈ blocks c o, block ≠ [] := by
  intro block hblock
  simpa using (List.mem_filter.mp hblock).2

theorem classLines_eq (c : ClassDef) (o : Sections) :
    classLines c o = [""].intercalate (blocks c o) :=
  separate_eq (blocks c o)

theorem sectionLines_methods (hmethods : c.methods ≠ []) :
    sectionLines c .methods =
      "# methods" :: [""].intercalate (c.methods.map (methodBlock 0)) := by
  have hblocks := intercalate_map_ne_nil hmethods (methodBlock_ne_nil 0)
  rw [sectionLines, separate_eq, headed, if_neg (by simpa using hblocks)]

theorem blocks_of_methods (hmethods : c.methods ≠ []) (hshown : o.methods = true) :
    blocks c o = blocks c { o with methods := false } ++ [sectionLines c .methods] := by
  have hsections : sectionOrder.filter o.has =
      sectionOrder.filter (Sections.has { o with methods := false }) ++ [.methods] := by
    have horder : sectionOrder = [.name, .details, .annotations, .fields] ++ [.methods] := rfl
    have hfront : ∀ s ∈ [.name, .details, .annotations, .fields],
        o.has s = Sections.has { o with methods := false } s := by simp [Sections.has]
    rw [horder, List.filter_append, List.filter_append, List.filter_congr hfront]
    simp [Sections.has, hshown]
  rw [blocks, hsections, List.map_append, List.filter_append, blocks, List.map_singleton,
    sectionLines_methods hmethods]
  rfl

theorem addsMethods (hmethods : c.methods ≠ []) (hshown : o.methods = true) :
    AddsMethods classLines methodLines methodFrame c o := by
  refine ⟨classLines c { o with methods := false }, (List.append_nil _).symm, ?_⟩
  have hblocks := blocks_of_methods hmethods hshown
  have filled := blocks_filled c o
  rw [hblocks] at filled
  rw [classLines_eq, hblocks, intercalate_append filled, List.intercalate_singleton,
    ← classLines_eq, sectionLines_methods hmethods, apart_eq (List.cons_ne_nil _ _)]
  simp only [methodFrame, List.append_nil, List.append_assoc, List.singleton_append]
  rfl

end Dex

/-! ## Both -/

/-- Where a class is shown with its methods, these stand one by one below what is shown without
them, each as it is shown alone: that is how a renderer shows a method that its key finds. -/
theorem classLines_addsMethods (hmethods : c.methods ≠ []) (hshown : o.methods = true) :
    AddsMethods Java.classLines Java.methodLines (Java.methodFrame o) c o ∧
      AddsMethods Dex.classLines Dex.methodLines Dex.methodFrame c o ∧
      ∀ (m : LoadedModel) (ref : String), m.class? ref = .ok (some c) →
        ∀ x ∈ c.methods, c.findMethod? x.key = some x →
          ∀ written ∈ Language.builtinMethodLines, ∀ id uses level,
            (((Renderer.bind { language := written.1 } (some id)).used (some m) uses).renderMethod
              (some m) ref x.key level true).1 = .ok (joinLines (written.2 c x level true)) := by
  refine ⟨Java.addsMethods hmethods hshown, Dex.addsMethods hmethods hshown, ?_⟩
  intro m ref hclass x _ hfound written hwritten id uses level
  exact Renderer.renderMethod_builtin hwritten hclass hfound id uses level true

/-! ## A small class -/

def counterMethod : Method where
  name := "get"
  returnType := "int"
  registers := 2
  instructions := [{ opcode := "return", operands := ["v0"] }]

/-- A class with a method that has a body and one that has none. -/
def counterClass : ClassDef where
  name := "a.Counter"
  methods := [counterMethod, { name := "reset", access := .ofFlag .isNative }]

def counterModel : LoadedModel where
  model := .ofClasses [counterClass]

theorem classLines_addsMethods_counter :
    counterClass.methods ≠ [] ∧ Sections.all.methods = true ∧
      AddsMethods Java.classLines Java.methodLines (Java.methodFrame .all) counterClass .all ∧
      AddsMethods Dex.classLines Dex.methodLines Dex.methodFrame counterClass .all ∧
      counterModel.class? "a.Counter" = .ok (some counterClass) ∧
      counterMethod ∈ counterClass.methods ∧
      counterClass.findMethod? counterMethod.key = some counterMethod ∧
      (((Renderer.bind { language := .dex } (some 0)).used (some counterModel) []).renderMethod
        (some counterModel) "a.Counter" counterMethod.key 1 true).1 =
          .ok "    .method get()I\n        .registers 2\n        return v0\n    .end method\n" := by
  have hmethods : counterClass.methods ≠ [] := List.cons_ne_nil _ _
  have hclass : counterModel.class? "a.Counter" = .ok (some counterClass) := rfl
  have hmem : counterMethod ∈ counterClass.methods := List.mem_cons_self
  have hfound : counterClass.findMethod? counterMethod.key = some counterMethod := by
    decide +kernel
  have hdex : (Language.dex, Dex.methodLines) ∈ Language.builtinMethodLines := by
    simp [Language.builtinMethodLines]
  have htext : joinLines (Dex.methodLines counterClass counterMethod 1 true) =
      "    .method get()I\n        .registers 2\n        return v0\n    .end method\n" := by
    decide +kernel
  obtain ⟨java, dex, renders⟩ := classLines_addsMethods (o := .all) hmethods rfl
  have hrender := renders counterModel "a.Counter" hclass counterMethod hmem hfound _ hdex 0 [] 1
  rw [htext] at hrender
  exact ⟨hmethods, rfl, java, dex, hclass, hmem, hfound, hrender⟩

end BytecodeViewer
