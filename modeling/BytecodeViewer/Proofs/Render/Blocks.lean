import BytecodeViewer.Render.Dex
import BytecodeViewer.Render.Java

/-!
# Blocks of lines

A listing is made of blocks of lines, with an empty line between one block and the next.  Both
languages that need no plug-in put their blocks together in this way, and blocks can be put
together one by one or group by group.
-/

namespace BytecodeViewer

/-- Lines and other lines below them, with an empty line between them if there are both. -/
def apart (upper lower : List String) : List String :=
  upper ++ (if upper = [] ∨ lower = [] then [] else [""]) ++ lower

section Apart

variable {upper lower block : List String} {blocks more : List (List String)}

@[simp] theorem nil_apart (lower : List String) : apart [] lower = lower := by
  simp [apart]

@[simp] theorem apart_nil (upper : List String) : apart upper [] = upper := by
  simp [apart]

theorem apart_eq (hlower : lower ≠ []) :
    apart upper lower = upper ++ (if upper = [] then [] else [""]) ++ lower := by
  simp [apart, hlower]

theorem apart_of_ne_nil (hupper : upper ≠ []) (hlower : lower ≠ []) :
    apart upper lower = upper ++ "" :: lower := by
  simp [apart, hupper, hlower]

theorem apart_eq_nil_iff : apart upper lower = [] ↔ upper = [] ∧ lower = [] := by
  by_cases hupper : upper = [] <;> by_cases hlower : lower = [] <;> simp [apart, hupper, hlower]

theorem apart_assoc (first second third : List String) :
    apart (apart first second) third = apart first (apart second third) := by
  by_cases hfirst : first = []
  · simp [hfirst]
  by_cases hsecond : second = []
  · simp [hsecond]
  by_cases hthird : third = []
  · simp [hthird]
  rw [apart_of_ne_nil (by simp [apart_eq_nil_iff, hfirst]) hthird,
    apart_of_ne_nil hfirst hsecond,
    apart_of_ne_nil hfirst (by simp [apart_eq_nil_iff, hsecond]),
    apart_of_ne_nil hsecond hthird]
  simp

/-! ## Many blocks -/

theorem intercalate_eq_nil_iff (filled : ∀ block ∈ blocks, block ≠ []) :
    [""].intercalate blocks = [] ↔ blocks = [] := by
  cases blocks with
  | nil => simp
  | cons first blocks =>
      have hfirst := filled first List.mem_cons_self
      cases blocks with
      | nil => simp [hfirst]
      | cons second blocks => simp

theorem intercalate_map_ne_nil {α : Type} {block : α → List String} {items : List α}
    (hitems : items ≠ []) (filled : ∀ x, block x ≠ []) :
    [""].intercalate (items.map block) ≠ [] := by
  have hblocks : ∀ b ∈ items.map block, b ≠ [] := by
    intro b hb
    obtain ⟨x, -, rfl⟩ := List.mem_map.mp hb
    exact filled x
  rw [Ne, intercalate_eq_nil_iff hblocks, List.map_eq_nil_iff]
  exact hitems

theorem intercalate_cons (hblock : block ≠ []) (filled : ∀ block ∈ blocks, block ≠ []) :
    [""].intercalate (block :: blocks) = apart block ([""].intercalate blocks) := by
  cases blocks with
  | nil => simp
  | cons second blocks =>
      have hrest : [""].intercalate (second :: blocks) ≠ [] :=
        fun h => List.cons_ne_nil _ _ ((intercalate_eq_nil_iff filled).mp h)
      rw [List.intercalate_cons_cons, apart_of_ne_nil hblock hrest]
      simp

theorem intercalate_append (filled : ∀ block ∈ blocks ++ more, block ≠ []) :
    [""].intercalate (blocks ++ more) =
      apart ([""].intercalate blocks) ([""].intercalate more) := by
  induction blocks with
  | nil => simp
  | cons first blocks ih =>
      have hfirst := filled first (by simp)
      have hrest : ∀ block ∈ blocks ++ more, block ≠ [] :=
        fun block hblock => filled block (List.mem_cons_of_mem _ hblock)
      have hblocks : ∀ block ∈ blocks, block ≠ [] :=
        fun block hblock => hrest block (List.mem_append_left _ hblock)
      rw [List.cons_append, intercalate_cons hfirst hrest, ih hrest,
        intercalate_cons hfirst hblocks, apart_assoc]

theorem map_intercalate {f : String → String} (hf : f "" = "") (blocks : List (List String)) :
    ([""].intercalate blocks).map f = [""].intercalate (blocks.map (·.map f)) := by
  induction blocks with
  | nil => simp
  | cons first blocks ih =>
      cases blocks with
      | nil => simp
      | cons second blocks =>
          simp only [List.map_cons] at ih ⊢
          rw [List.intercalate_cons_cons, List.intercalate_cons_cons, List.map_append,
            List.map_append, ih, List.map_singleton, hf]

theorem foldl_appendBlock (filled : ∀ block ∈ blocks, block ≠ []) (lines : List String) :
    blocks.foldl Java.appendBlock lines = apart lines ([""].intercalate blocks) := by
  induction blocks generalizing lines with
  | nil => simp
  | cons first blocks ih =>
      have hfirst := filled first List.mem_cons_self
      have hrest : ∀ block ∈ blocks, block ≠ [] :=
        fun block hblock => filled block (List.mem_cons_of_mem _ hblock)
      have hstep : Java.appendBlock lines first = apart lines first := by
        cases lines <;> simp [Java.appendBlock, apart, hfirst]
      rw [List.foldl_cons, ih hrest, hstep, apart_assoc, intercalate_cons hfirst hrest]

theorem separate_eq (blocks : List (List String)) :
    Dex.separate blocks = [""].intercalate blocks := by
  fun_induction Dex.separate blocks with
  | case1 => simp
  | case2 block => simp
  | case3 block blocks several ih =>
      cases blocks with
      | nil => exact absurd rfl several
      | cons second blocks =>
          rw [ih, List.intercalate_cons_cons]
          simp

end Apart

/-! ## Members as blocks -/

namespace Java

variable {c : ClassDef} {o : Sections} {level : Int}

theorem fieldLines_ne_nil (level : Int) (f : Field) : fieldLines level f ≠ [] := by
  simp [fieldLines]

theorem methodBlock_ne_nil (level : Int) (c : ClassDef) (m : Method) :
    methodBlock level c m ≠ [] := by
  unfold methodBlock
  split <;> simp [declarationLines]

theorem memberBlocks_filled (c : ClassDef) (o : Sections) :
    ∀ block ∈ memberBlocks c o, block ≠ [] := by
  intro block hblock
  rcases List.mem_append.mp hblock with hfields | hmethods
  · split at hfields
    · next hshown =>
      have hsome : c.fields ≠ [] := by
        rintro hnone
        simp [hnone] at hshown
      obtain ⟨f, hf⟩ := List.exists_mem_of_ne_nil _ hsome
      rw [List.mem_singleton.mp hfields]
      exact mt List.flatMap_eq_nil_iff.mp fun h => fieldLines_ne_nil _ f (h f hf)
    · cases hfields
  · split at hmethods
    · obtain ⟨m, -, rfl⟩ := List.mem_map.mp hmethods
      exact methodBlock_ne_nil _ c m
    · cases hmethods

/-- The lines of the members that are shown. -/
def memberLines (c : ClassDef) (o : Sections) : List String :=
  [""].intercalate (memberBlocks c o)

theorem classLines_eq (c : ClassDef) (o : Sections) :
    classLines c o =
      apart (headLines c o) (memberLines c o) ++ if o.name then ["\x7d"] else [] := by
  rw [classLines, foldl_appendBlock (memberBlocks_filled c o), memberLines]

end Java

end BytecodeViewer
