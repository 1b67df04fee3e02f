import Mathlib.Data.List.Basic
import BytecodeViewer.Render.Renderer

/-!
# Methods at a level

A method is written alike at every level, only further to the right.  Alone it stands between the
lines of its declaration and a line that closes it, and its body is one level deeper.
-/

namespace BytecodeViewer

/-- Lines with some units of indentation in front of each. -/
def shifted (k : Nat) (lines : List String) : List String :=
  lines.map fun line => String.join (List.replicate k indentUnit) ++ line

/-- Lines that depend on a level by their indentation only. -/
def Shifts (lines : Int → List String) : Prop :=
  ∀ n k : Nat, lines (n + k) = shifted k (lines n)

/-! ## Indentation -/

theorem join_units (k : Nat) : String.join (List.replicate k indentUnit) = indent k := by
  rw [← String.toList_inj, String.toList_join, indent, Int.toNat_natCast, String.toList_ofList]
  induction k with
  | zero => rfl
  | succ k ih =>
      rw [List.replicate_succ, List.flatMap_cons, ih, Nat.mul_succ, Nat.add_comm,
        List.replicate_add]
      rfl

theorem indent_add (n k : Nat) : indent (n + k) = indent k ++ indent n := by
  have hlevel : ((n : Int) + k).toNat = k + n := by omega
  rw [indent, hlevel, Nat.mul_add, List.replicate_add, String.ofList_append]
  rfl

theorem shifted_append (k : Nat) (lines lines' : List String) :
    shifted k (lines ++ lines') = shifted k lines ++ shifted k lines' :=
  List.map_append

theorem shifted_flatMap {α : Type} (k : Nat) (lines : α → List String) (xs : List α) :
    shifted k (xs.flatMap lines) = xs.flatMap fun x => shifted k (lines x) :=
  List.map_flatMap

/-- Texts that are indented by a level are shifted by it. -/
theorem map_indent {α : Type} (n : Nat) (text : α → String) (xs : List α) :
    (xs.map fun x => indent n ++ text x) = shifted n (xs.map text) := by
  rw [shifted, join_units, List.map_map]
  rfl

theorem shifted_singleton (n : Nat) (text : String) : shifted n [text] = [indent n ++ text] :=
  (map_indent n id [text]).symm

/-! ## Lines that shift -/

namespace Shifts

variable {lines lines' : Int → List String}

theorem none : Shifts fun _ => [] :=
  fun _ _ => rfl

theorem items {α : Type} (text : α → String) (xs : List α) :
    Shifts fun level => xs.map fun x => indent level ++ text x := by
  intro n k
  rw [shifted, join_units, List.map_map]
  apply List.map_congr_left
  intro x _
  rw [Function.comp_apply, indent_add, String.append_assoc]

theorem line (text : String) : Shifts fun level => [indent level ++ text] :=
  items id [text]

theorem append (h : Shifts lines) (h' : Shifts lines') :
    Shifts fun level => lines level ++ lines' level := by
  intro n k
  simp only [h n k, h' n k, shifted_append]

theorem flatMap {α : Type} {lines : α → Int → List String} (xs : List α)
    (h : ∀ x, Shifts (lines x)) : Shifts fun level => xs.flatMap fun x => lines x level := by
  intro n k
  rw [shifted_flatMap]
  exact List.flatMap_congr fun x _ => h x n k

/-- Lines that are written some levels deeper shift with the level that they are counted from. -/
theorem deeper (h : Shifts lines) : Shifts fun level => lines (level + 1) := by
  intro n k
  have hlevel : (n : Int) + k + 1 = (n + 1 : Nat) + k := by omega
  have hdeeper := h (n + 1) k
  rwa [← hlevel] at hdeeper

theorem ite {p : Prop} [Decidable p] (h : Shifts lines) (h' : Shifts lines') :
    Shifts fun level => if p then lines level else lines' level := by
  by_cases hp : p
  · simpa only [if_pos hp] using h
  · simpa only [if_neg hp] using h'

end Shifts

/-! ## Around the body of a method -/

/-- What stands around the body of a method, not yet indented.  Without a closing line there is no
body, and the method ends with its declaration. -/
structure MethodEdges where
  declaration : List String
  closing : Option String

/-- The lines of a method shift with the level, and stand alone as its declaration and, if it is
closed, the lines of its body one level deeper and the line that closes it. -/
structure KeepsToLevels (methodLines : Int → Bool → List String) (edges : MethodEdges) : Prop where
  shifts : ∀ standalone, Shifts fun level => methodLines level standalone
  standalone_eq : ∀ n : Nat, methodLines n true = shifted n edges.declaration ++
    match edges.closing with
    | some text => methodLines (n + 1) false ++ shifted n [text]
    | none => []

variable {c : ClassDef} {m : Method}

namespace Java

/-- Annotations stand in front of the signature, which ends in an opening brace if there is a body
and in a semicolon if there is none. -/
def methodEdges (c : ClassDef) (m : Method) : MethodEdges where
  declaration := m.annotations.map annotationText ++
    [signature c m ++ if hasBody m then " \x7b" else ";"]
  closing := if hasBody m then some "\x7d" else none

theorem bodyLines_shifts (m : Method) : Shifts fun level => bodyLines level m :=
  .items statement m.instructions

theorem declarationLines_shifts (c : ClassDef) (m : Method) :
    Shifts fun level => declarationLines level c m := by
  have hsignature := Shifts.line (signature c m ++ if hasBody m then " \x7b" else ";")
  simp only [← String.append_assoc] at hsignature
  exact (Shifts.items annotationText m.annotations).append hsignature

theorem methodBlock_shifts (c : ClassDef) (m : Method) :
    Shifts fun level => methodBlock level c m := by
  have hdeclaration := declarationLines_shifts c m
  apply Shifts.ite
  · exact (hdeclaration.append (bodyLines_shifts m).deeper).append (.line "\x7d")
  · exact hdeclaration

theorem declarationLines_eq (n : Nat) :
    declarationLines n c m = shifted n (methodEdges c m).declaration := by
  rw [declarationLines, methodEdges, shifted_append, map_indent, shifted_singleton,
    String.append_assoc]

theorem hasBody_eq_false_iff : hasBody m = false ↔
    m.access.has .isAbstract = true ∨ m.access.has .isNative = true := by
  rw [hasBody, Bool.not_eq_false', Bool.or_eq_true]

theorem keepsToLevels (c : ClassDef) (m : Method) :
    KeepsToLevels (methodLines c m) (methodEdges c m) where
  shifts
    | true => methodBlock_shifts c m
    | false => bodyLines_shifts m
  standalone_eq n := by
    rw [← declarationLines_eq]
    cases hbody : hasBody m with
    | true => simp [methodLines, methodBlock, methodEdges, hbody, shifted_singleton]
    | false => simp [methodLines, methodBlock, methodEdges, hbody]

end Java

namespace Dex

def methodEdges (m : Method) : MethodEdges where
  declaration := [Text.joinNonempty [".method", m.access.listing, prototype m]]
  closing := some ".end method"

theorem annotationLines_shifts (a : Annotation) : Shifts fun level => annotationLines level a := by
  have hopening := Shifts.line (".annotation " ++ a.visibility ++ " " ++
    TypeName.descriptor a.typeName)
  have helements := Shifts.items (fun e : String × String => e.1 ++ " = " ++ e.2) a.elements
  simp only [← String.append_assoc] at hopening helements
  exact (hopening.append helements.deeper).append (.line ".end annotation")

theorem bodyLines_shifts (m : Method) : Shifts fun level => bodyLines level m := by
  have hregisters : Shifts fun level =>
      if m.registers ≠ 0 then [indent level ++ ".registers " ++ toString m.registers] else [] := by
    apply Shifts.ite
    · simpa only [← String.append_assoc] using Shifts.line (".registers " ++ toString m.registers)
    · exact .none
  apply Shifts.append
  · exact hregisters.append (.flatMap m.annotations annotationLines_shifts)
  · exact .items instructionText m.instructions

theorem methodBlock_shifts (m : Method) : Shifts fun level => methodBlock level m := by
  apply Shifts.append
  · exact (Shifts.line _).append (bodyLines_shifts m).deeper
  · exact .line ".end method"

theorem keepsToLevels (c : ClassDef) (m : Method) :
    KeepsToLevels (methodLines c m) (methodEdges m) where
  shifts
    | true => methodBlock_shifts m
    | false => bodyLines_shifts m
  standalone_eq n := by simp [methodLines, methodBlock, methodEdges, shifted_singleton]

end Dex

/-- At any level a method is written as at any other, but for the units of indentation between them.
Alone it is its declaration, its body one level deeper, and a closing line at its own level, but for
abstract and native methods of pseudo-source, which end with their declaration. -/
theorem methodLines_levels (c : ClassDef) (m : Method) :
    KeepsToLevels (Java.methodLines c m) (Java.methodEdges c m) ∧
      KeepsToLevels (Dex.methodLines c m) (Dex.methodEdges m) ∧
      ((Java.methodEdges c m).closing = none ↔
        m.access.has .isAbstract = true ∨ m.access.has .isNative = true) := by
  refine ⟨Java.keepsToLevels c m, Dex.keepsToLevels c m, ?_⟩
  rw [← Java.hasBody_eq_false_iff]
  cases hbody : Java.hasBody m <;> simp [Java.methodEdges, hbody]

end BytecodeViewer
