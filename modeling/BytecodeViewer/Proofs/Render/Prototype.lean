import BytecodeViewer.Proofs.Bytecode.Descriptor
import BytecodeViewer.Render.Dex

/-!
# Prototypes of methods

A listing declares a method with the descriptors of its types, one after another.  The text tells
the name, the types of the parameters and the return type apart.
-/

namespace BytecodeViewer

/-- A method whose name and types a listing shows without loss. -/
structure Method.Plain (m : Method) : Prop where
  name : '(' ∉ m.name.toList
  parameters : ∀ p ∈ m.parameters, TypeName.Plain p.typeName
  returnType : TypeName.Plain m.returnType

namespace Dex

theorem toList_prototype (m : Method) :
    (prototype m).toList = m.name.toList ++ '(' ::
      ((m.parameters.map (·.typeName)).flatMap (fun name => (TypeName.descriptor name).toList) ++
        ')' :: (TypeName.descriptor m.returnType).toList) := by
  simp [prototype, List.flatMap_map]

theorem prototype_congr {m m' : Method} (hname : m.name = m'.name)
    (hparameters : m.parameters.map (·.typeName) = m'.parameters.map (·.typeName))
    (hreturn : m.returnType = m'.returnType) : prototype m = prototype m' := by
  rw [← String.toList_inj, toList_prototype, toList_prototype, hname, hparameters, hreturn]

/-- Methods that are declared with one prototype have one name and the same types: a listing
never confuses overloaded methods, nor arrays or classes with each other or with primitives. -/
theorem prototype_eq_iff {m m' : Method} (hm : m.Plain) (hm' : m'.Plain) :
    (prototype m = prototype m' ↔ m.name = m'.name ∧
      m.parameters.map (·.typeName) = m'.parameters.map (·.typeName) ∧
      m.returnType = m'.returnType) ∧
      ∀ s t, TypeName.Plain s → TypeName.Plain t →
        (TypeName.descriptor s = TypeName.descriptor t ↔ s = t) := by
  refine ⟨⟨fun h => ?_, fun ⟨hname, hparameters, hreturn⟩ =>
    prototype_congr hname hparameters hreturn⟩, fun s t hs ht => hs.descriptor_eq_iff ht⟩
  rw [← String.toList_inj, toList_prototype, toList_prototype] at h
  have beforeParameters : ∀ {m : Method}, m.Plain → ∀ c ∈ m.name.toList, c ≠ '(' := by
    rintro m hm c hc rfl
    exact hm.name hc
  have plain : ∀ {m : Method}, m.Plain → ∀ name ∈ m.parameters.map (·.typeName),
      TypeName.Plain name := by
    intro m hm name hname
    obtain ⟨p, hp, rfl⟩ := List.mem_map.mp hname
    exact hm.parameters p hp
  obtain ⟨hname, -, hrest⟩ := append_cons_inj (beforeParameters hm) (beforeParameters hm')
    (by simp) (by simp) h
  obtain ⟨hparameters, hreturn⟩ := TypeName.descriptors_inj (plain hm) (plain hm') hrest
  exact ⟨String.toList_inj.mp hname, hparameters,
    (hm.returnType.descriptor_eq_iff hm'.returnType).mp (String.toList_inj.mp hreturn)⟩

/-- Overloaded methods: the one takes an array of a primitive type, the other one of a class
whose name is the letter of that type. -/
def takesInts : Method where
  name := "take"
  parameters := [{ typeName := "int[][]", name := some "rows" }]
  returnType := "a.B"

def takesClass : Method where
  name := "take"
  parameters := [{ typeName := "I[][]" }]
  returnType := "a.B"

theorem prototype_eq_iff_overloaded :
    takesInts.Plain ∧ takesClass.Plain ∧ prototype takesInts ≠ prototype takesClass ∧
      TypeName.Plain "int[][]" ∧ TypeName.Plain "I[][]" ∧
      TypeName.descriptor "int[][]" ≠ TypeName.descriptor "I[][]" := by
  have hints : TypeName.Plain "int[][]" := ⟨by decide, by decide⟩
  have hclass : TypeName.Plain "I[][]" := ⟨by decide, by decide⟩
  have hreturn : TypeName.Plain "a.B" := ⟨by decide, by decide⟩
  have hm : takesInts.Plain := ⟨by decide, by simpa [takesInts] using hints, hreturn⟩
  have hm' : takesClass.Plain := ⟨by decide, by simpa [takesClass] using hclass, hreturn⟩
  obtain ⟨hprototype, hdescriptor⟩ := prototype_eq_iff hm hm'
  have hother : "int[][]" ≠ "I[][]" := by decide
  refine ⟨hm, hm', ?_, hints, hclass, mt (hdescriptor _ _ hints hclass).mp hother⟩
  intro h
  exact hother (List.cons.inj (hprototype.mp h).2.1).1

end Dex

end BytecodeViewer
