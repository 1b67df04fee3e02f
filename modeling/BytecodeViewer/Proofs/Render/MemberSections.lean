import BytecodeViewer.Proofs.Render.Blocks

/-!
# Sections that do not disturb each other

What stands above the members of a class in pseudo-source does not depend on which members are
shown, and the members depend on what stands above them in their indentation alone.
-/

namespace BytecodeViewer

/-- A line one level deeper; an empty line stays empty. -/
def indented (line : String) : String :=
  if line = "" then "" else indentUnit ++ line

theorem indent_succ {level : Int} (hlevel : 0 ≤ level) :
    indent (level + 1) = indentUnit ++ indent level := by
  have hlength : 4 * (level + 1).toNat = 4 + 4 * level.toNat := by omega
  rw [indent, hlength, ← List.replicate_append_replicate, String.ofList_append]
  rfl

theorem append_ne_empty_left {s : String} (h : s ≠ "") (t : String) : s ++ t ≠ "" :=
  fun happend => h (String.append_eq_empty_iff.mp happend).1

theorem append_ne_empty_right {t : String} (h : t ≠ "") (s : String) : s ++ t ≠ "" :=
  fun happend => h (String.append_eq_empty_iff.mp happend).2

variable {level : Int}

theorem map_indented {α : Type} (hlevel : 0 ≤ level) {text : α → String}
    (filled : ∀ x, indent level ++ text x ≠ "") (items : List α) :
    (items.map fun x => indent level ++ text x).map indented =
      items.map fun x => indent (level + 1) ++ text x := by
  rw [List.map_map]
  refine List.map_congr_left fun x _ => ?_
  rw [Function.comp_apply, indented, if_neg (filled x), indent_succ hlevel, String.append_assoc]

theorem lastLine_succ (hlevel : 0 ≤ level) {text : String} (h : text ≠ "") :
    [indent level ++ text].map indented = [indent (level + 1) ++ text] :=
  map_indented hlevel (fun _ : Unit => append_ne_empty_right h _) [()]

namespace Java

/-! ## Members one level deeper -/

theorem annotationText_ne_empty (a : Annotation) : annotationText a ≠ "" := by
  have hname : "@" ++ TypeName.simple a.typeName ≠ "" := append_ne_empty_left (by decide) _
  unfold annotationText
  split
  · exact hname
  · exact append_ne_empty_left (append_ne_empty_left (append_ne_empty_left hname _) _) _

theorem annotationLines_succ (hlevel : 0 ≤ level) (annotations : List Annotation) :
    (annotations.map fun a => indent level ++ annotationText a).map indented =
      annotations.map fun a => indent (level + 1) ++ annotationText a :=
  map_indented hlevel (fun a => append_ne_empty_right (annotationText_ne_empty a) _) annotations

theorem fieldLines_succ (hlevel : 0 ≤ level) (f : Field) :
    fieldLines (level + 1) f = (fieldLines level f).map indented := by
  have hend : ";" ≠ "" := by decide
  have hlast := lastLine_succ hlevel (append_ne_empty_right hend (fieldDeclaration f))
  simp only [← String.append_assoc] at hlast
  rw [fieldLines, fieldLines, List.map_append, annotationLines_succ hlevel, hlast]

theorem bodyLines_succ (hlevel : 0 ≤ level) (m : Method) :
    bodyLines (level + 1 + 1) m = (bodyLines (level + 1) m).map indented := by
  have hpad : indent (level + 1) ≠ "" := by
    rw [indent_succ hlevel]
    exact append_ne_empty_left (by decide) _
  exact (map_indented (by omega) (fun i => append_ne_empty_left hpad (statement i)) _).symm

theorem declarationLines_succ (hlevel : 0 ≤ level) (c : ClassDef) (m : Method) :
    declarationLines (level + 1) c m = (declarationLines level c m).map indented := by
  have hend : (if hasBody m then " \x7b" else ";") ≠ "" := by split <;> decide
  have hlast := lastLine_succ hlevel (append_ne_empty_right hend (signature c m))
  simp only [← String.append_assoc] at hlast
  rw [declarationLines, declarationLines, List.map_append, annotationLines_succ hlevel, hlast]

theorem methodBlock_succ (hlevel : 0 ≤ level) (c : ClassDef) (m : Method) :
    methodBlock (level + 1) c m = (methodBlock level c m).map indented := by
  unfold methodBlock
  split
  · rw [List.map_append, List.map_append, ← declarationLines_succ hlevel, ← bodyLines_succ hlevel,
      lastLine_succ hlevel (by decide)]
  · exact declarationLines_succ hlevel c m

/-! ## Members below their head -/

variable {c : ClassDef} {o : Sections}

theorem flatMap_fieldLines_succ (hlevel : 0 ≤ level) (fields : List Field) :
    fields.flatMap (fieldLines (level + 1)) = (fields.flatMap (fieldLines level)).map indented := by
  rw [List.map_flatMap, funext fun f => fieldLines_succ hlevel f]

theorem memberBlocks_of_name (h : o.name = true) :
    memberBlocks c o =
      (memberBlocks c { fields := o.fields, methods := o.methods }).map (·.map indented) := by
  have hlevel : memberLevel o = 0 + 1 := if_pos h
  have hlevel₀ : memberLevel { fields := o.fields, methods := o.methods } = 0 := rfl
  have hmethods : c.methods.map (methodBlock (0 + 1) c) =
      (c.methods.map (methodBlock 0 c)).map (·.map indented) := by
    rw [List.map_map]
    exact List.map_congr_left fun m _ => methodBlock_succ (Int.le_refl 0) c m
  rw [memberBlocks, memberBlocks, hlevel, hlevel₀, flatMap_fieldLines_succ (Int.le_refl 0),
    hmethods, List.map_append, apply_ite (List.map _), apply_ite (List.map _)]
  rfl

theorem memberLines_of_name (h : o.name = true) :
    memberLines c o =
      (memberLines c { fields := o.fields, methods := o.methods }).map indented := by
  rw [memberLines, memberLines, map_intercalate (f := indented) (if_pos rfl),
    memberBlocks_of_name h]

theorem memberLines_of_not_name (h : o.name = false) :
    memberLines c o = memberLines c { fields := o.fields, methods := o.methods } := by
  simp [memberLines, memberBlocks, memberLevel, h]

theorem classLines_of_members (c : ClassDef) (fields methods : Bool) :
    classLines c { fields, methods } = memberLines c { fields, methods } := by
  have hhead : headLines c { fields, methods } = [] := by
    cases hfile : c.sourceFile <;> simp [headLines, hfile]
  rw [classLines_eq, hhead, nil_apart, if_neg Bool.false_ne_true, List.append_nil]

theorem classLines_of_head (c : ClassDef) (o : Sections) :
    classLines c { o with fields := false, methods := false } =
      headLines c o ++ if o.name then ["\x7d"] else [] := by
  have hhead : headLines c { o with fields := false, methods := false } = headLines c o := rfl
  have hmembers : memberLines c { o with fields := false, methods := false } = [] := by
    simp [memberLines, memberBlocks]
  rw [classLines_eq, hhead, hmembers, apart_nil]

theorem headLines_ne_nil (h : o.name = true) : headLines c o ≠ [] := by
  rw [headLines, if_pos h]
  apply List.append_ne_nil_of_right_ne_nil
  split <;> exact List.cons_ne_nil _ _

/-- Fields and methods are shown independently of each other. -/
theorem memberLines_split (c : ClassDef) (fields methods : Bool) :
    memberLines c { fields, methods } =
      apart (memberLines c { fields }) (memberLines c { methods }) := by
  have hblocks : memberBlocks c { fields, methods } =
      memberBlocks c { fields } ++ memberBlocks c { methods } := by
    simp [memberBlocks, memberLevel]
  have filled := memberBlocks_filled c { fields, methods }
  rw [hblocks] at filled
  rw [memberLines, hblocks, intercalate_append filled, memberLines, memberLines]

theorem apart_map_indented {upper lower : List String} (h : upper ≠ []) :
    apart upper (lower.map indented) =
      upper ++ if lower = [] then [] else "" :: lower.map indented := by
  by_cases hlower : lower = []
  · simp [hlower]
  · rw [if_neg hlower, apart_of_ne_nil h (by simpa using hlower)]

/-- A class is shown as what stands above its members and then its members, which are the same
whatever else is shown.  Where the name of the class is shown, they stand inside it, one level
deeper. -/
theorem classLines_sections (c : ClassDef) (o : Sections) :
    let head := classLines c { o with fields := false, methods := false }
    let members := classLines c { fields := o.fields, methods := o.methods }
    (if o.name then head.getLast? = some "\x7d" ∧
        classLines c o = head.dropLast ++
          (if members = [] then [] else "" :: members.map indented) ++ ["\x7d"]
      else classLines c o = apart head members) ∧
      members = apart (classLines c { fields := o.fields })
        (classLines c { methods := o.methods }) := by
  intro head members
  have hmembers : members = memberLines c { fields := o.fields, methods := o.methods } :=
    classLines_of_members c o.fields o.methods
  have hhead : head = _ := classLines_of_head c o
  refine ⟨?_, ?_⟩
  · cases hname : o.name with
    | true =>
        rw [if_pos rfl, hhead, hname, if_pos rfl, List.getLast?_concat, List.dropLast_concat,
          classLines_eq, hname, if_pos rfl, memberLines_of_name hname, ← hmembers,
          apart_map_indented (headLines_ne_nil hname)]
        exact ⟨rfl, rfl⟩
    | false =>
        rw [if_neg Bool.false_ne_true, hhead, hname, if_neg Bool.false_ne_true, List.append_nil,
          classLines_eq, hname, if_neg Bool.false_ne_true, List.append_nil,
          memberLines_of_not_name hname, ← hmembers]
  · rw [hmembers, memberLines_split, classLines_of_members c o.fields false,
      classLines_of_members c false o.methods]

end Java

end BytecodeViewer
