import BytecodeViewer.Bytecode.ClassDef

/-!
# Qualified names

The package of a class is what stands before the last dot of its name.  A name without a dot
is in the default package, whose name is empty.
-/

namespace BytecodeViewer

/-- A name is in a package if it is the package, a dot and a simple name, which has no dot, or
if it is a simple name and the package is the default one. -/
def InPackage (name package : String) : Prop :=
  ∃ simple : String, '.' ∉ simple.toList ∧
    (name = package ++ "." ++ simple ∨ package = "" ∧ name = simple)

section Split

variable {before last cs : List Char}

theorem takeWhile_reverse_simple (hlast : '.' ∉ last) (rest : List Char) :
    (last.reverse ++ rest).takeWhile (· != '.') = last.reverse ++ rest.takeWhile (· != '.') := by
  apply List.takeWhile_append_of_pos
  intro c hc
  rw [bne_iff_ne]
  rintro rfl
  exact hlast (List.mem_reverse.mp hc)

theorem splitQualified_of_dot (hlast : '.' ∉ last) :
    splitQualified (before ++ '.' :: last) = (before, last) := by
  have htaken : (before ++ '.' :: last).reverse.takeWhile (· != '.') = last.reverse := by
    rw [List.reverse_append, List.reverse_cons, List.append_assoc, takeWhile_reverse_simple hlast]
    simp
  have hlength : (before ++ '.' :: last).length - last.length - 1 = before.length := by
    simp only [List.length_append, List.length_cons]
    omega
  simp only [splitQualified, htaken, List.reverse_reverse, hlength, List.take_left]

theorem splitQualified_of_simple (hcs : '.' ∉ cs) : splitQualified cs = ([], cs) := by
  have htaken : cs.reverse.takeWhile (· != '.') = cs.reverse := by
    simpa using takeWhile_reverse_simple hcs []
  simp [splitQualified, htaken]

theorem exists_last_dot (hcs : '.' ∈ cs) :
    ∃ before last, cs = before ++ '.' :: last ∧ '.' ∉ last := by
  obtain ⟨last, before, heq, hlast⟩ := List.eq_append_cons_of_mem (List.mem_reverse.mpr hcs)
  refine ⟨before.reverse, last.reverse, ?_, by simpa using hlast⟩
  rw [← List.reverse_reverse cs, heq]
  simp

end Split

namespace ClassDef

variable {c : ClassDef} {package : String}

theorem inPackage_package (c : ClassDef) : InPackage c.name c.package := by
  by_cases hdot : '.' ∈ c.name.toList
  · obtain ⟨before, last, heq, hlast⟩ := exists_last_dot hdot
    refine ⟨String.ofList last, by simpa using hlast, .inl ?_⟩
    rw [← String.toList_inj]
    simp [ClassDef.package, heq, splitQualified_of_dot hlast]
  · exact ⟨c.name, hdot, .inr ⟨by simp [ClassDef.package, splitQualified_of_simple hdot], rfl⟩⟩

theorem package_eq_iff : c.package = package ↔ InPackage c.name package := by
  constructor
  · rintro rfl
    exact c.inPackage_package
  · rintro ⟨simple, hsimple, heq | ⟨rfl, heq⟩⟩
    · have hchars : c.name.toList = package.toList ++ '.' :: simple.toList := by simp [heq]
      rw [ClassDef.package, hchars, splitQualified_of_dot hsimple, String.ofList_toList]
    · rw [ClassDef.package, heq, splitQualified_of_simple hsimple]

end ClassDef

end BytecodeViewer
