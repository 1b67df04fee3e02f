import BytecodeViewer.Proofs.Bytecode.Descriptor
import BytecodeViewer.Proofs.Text.FreeOf
import BytecodeViewer.Proofs.Text.Runs
import BytecodeViewer.Render.Dex
import BytecodeViewer.Render.Java

/-!
# Lines of a listing

What the lines of a listing hold comes from the texts of the class.  If these have no line breaks,
each line is on a line of its own.
-/

namespace BytecodeViewer

open Text (FreeOf Spells)

theorem toList_joinLines (lines : List String) :
    (joinLines lines).toList = lines.flatMap fun line => line.toList ++ ['\n'] := by
  simp [joinLines, String.toList_join, List.flatMap_map]

theorem joinLines_append (lines lines' : List String) :
    joinLines (lines ++ lines') = joinLines lines ++ joinLines lines' := by
  rw [← String.toList_inj, String.toList_append]
  simp only [toList_joinLines, List.flatMap_append]

theorem length_joinLines_cons (line : String) (lines : List String) :
    (joinLines (line :: lines)).length = line.length + 1 + (joinLines lines).length := by
  simp only [← String.length_toList, toList_joinLines, List.flatMap_cons, List.length_append,
    List.length_singleton]

section

variable {text : Array Char} {i : Nat} {lines : List String}

theorem spells_joinLines_cons {line : String}
    (h : Spells text i (joinLines (line :: lines)).toList) :
    Spells text i (line.toList ++ ['\n']) ∧
      Spells text (i + (line.length + 1)) (joinLines lines).toList := by
  rwa [toList_joinLines, List.flatMap_cons, ← toList_joinLines, Text.spells_append,
    List.length_append, List.length_singleton, String.length_toList] at h

theorem lineStart_of_spells (hstart : i = 0 ∨ text[i - 1]? = some '\n')
    (h : Spells text i (joinLines lines).toList) :
    i + (joinLines lines).length = 0 ∨ text[i + (joinLines lines).length - 1]? = some '\n' := by
  induction lines generalizing i with
  | nil => exact hstart
  | cons line lines ih =>
      obtain ⟨hline, hrest⟩ := spells_joinLines_cons h
      have hbreak := (Text.spells_append.mp hline).2.1
      rw [String.length_toList] at hbreak
      have hlater := ih (.inr hbreak) hrest
      rwa [Nat.add_assoc, ← length_joinLines_cons] at hlater

end

theorem length_indent (level : Int) : (indent level).length = 4 * level.toNat := by
  rw [indent, String.length_ofList, List.length_replicate]

theorem joinNonempty_cons {s : String} (hs : s ≠ "") (parts : List String) :
    Text.joinNonempty (s :: parts) =
      if Text.joinNonempty parts = "" then s else s ++ " " ++ Text.joinNonempty parts := by
  have hfilter : (s :: parts).filter (· != "") = s :: parts.filter (· != "") :=
    List.filter_cons_of_pos (by simpa using hs)
  rw [Text.joinNonempty, Text.joinNonempty, hfilter]
  cases hparts : parts.filter (· != "") with
  | nil => simp
  | cons t ts =>
      have ht : t ≠ "" := by
        have := (List.mem_filter.mp (hparts ▸ List.mem_cons_self : t ∈ parts.filter (· != ""))).2
        simpa using this
      rw [String.intercalate_cons_of_ne_nil (List.cons_ne_nil t ts), if_neg]
      intro hempty
      cases ts with
      | nil => exact ht (by simpa using hempty)
      | cons _ _ =>
          rw [String.intercalate_cons_of_ne_nil (List.cons_ne_nil _ _)] at hempty
          simp at hempty

/-! ## Line breaks -/

theorem unbroken_indent (level : Int) : FreeOf '\n' (indent level) := by
  rw [indent, Text.freeOf_ofList, List.mem_replicate]
  exact fun h => absurd h.2 (by decide)

theorem Access.unbroken_words (a : Access) (flags : List AccessFlag) :
    FreeOf '\n' (a.words flags) := by
  refine .intercalate (by decide) fun s hs => ?_
  obtain ⟨f, -, rfl⟩ := List.mem_map.mp hs
  cases f <;> decide

namespace TypeName

theorem unbroken_descriptor {name : String} (h : FreeOf '\n' name) :
    FreeOf '\n' (descriptor name) := by
  rw [FreeOf, toList_descriptor, List.mem_append, not_or]
  constructor
  · rw [List.mem_replicate]
    exact fun hmem => absurd hmem.2 (by decide)
  cases hprimitive : primitives.lookup (base name) with
  | some letter =>
      have hletters : ∀ p ∈ primitives, FreeOf '\n' p.2 := by decide
      rw [baseDescriptor_of_some hprimitive]
      exact hletters _ (mem_of_lookup hprimitive)
  | none =>
      rw [baseDescriptor_of_none hprimitive]
      simp only [List.mem_cons, List.mem_append, List.not_mem_nil, Char.reduceEq, or_false,
        false_or, slashed, List.mem_map]
      rintro ⟨d, hd, hdc⟩
      split at hdc
      · cases hdc
      · exact h (hdc ▸ mem_of_mem_base hd)

end TypeName

structure Annotation.Unbroken (a : Annotation) : Prop where
  typeName : FreeOf '\n' a.typeName
  visibility : FreeOf '\n' a.visibility
  elements : ∀ e ∈ a.elements, FreeOf '\n' e.1 ∧ FreeOf '\n' e.2

/-- No text of the method has a line break. -/
structure Method.Unbroken (m : Method) : Prop where
  name : FreeOf '\n' m.name
  returnType : FreeOf '\n' m.returnType
  parameters : ∀ p ∈ m.parameters, FreeOf '\n' p.typeName ∧ ∀ name ∈ p.name, FreeOf '\n' name
  annotations : ∀ a ∈ m.annotations, a.Unbroken
  instructions : ∀ i ∈ m.instructions, FreeOf '\n' i.opcode ∧ ∀ s ∈ i.operands, FreeOf '\n' s

namespace Dex

theorem unbroken_prototype {m : Method} (h : m.Unbroken) : FreeOf '\n' (prototype m) := by
  have hparameters : FreeOf '\n'
      (String.join (m.parameters.map fun p => TypeName.descriptor p.typeName)) := by
    refine .join fun s hs => ?_
    obtain ⟨p, hp, rfl⟩ := List.mem_map.mp hs
    exact TypeName.unbroken_descriptor (h.parameters p hp).1
  have hopen := h.name.append (t := "(") (by decide)
  have hclose := (hopen.append hparameters).append (t := ")") (by decide)
  exact hclose.append (TypeName.unbroken_descriptor h.returnType)

theorem unbroken_instructionText {m : Method} (h : m.Unbroken) {i : Instruction}
    (hi : i ∈ m.instructions) : FreeOf '\n' (instructionText i) := by
  obtain ⟨hopcode, hoperands⟩ := h.instructions i hi
  refine .joinNonempty (by decide) fun s hs => ?_
  rcases List.mem_cons.mp hs with rfl | hs
  · exact hopcode
  · rw [List.mem_singleton.mp hs]
    exact .intercalate (by decide) hoperands

end Dex

end BytecodeViewer
