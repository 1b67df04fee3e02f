import Mathlib.Data.List.Nodup
import BytecodeViewer.Proofs.Render.Lines
import BytecodeViewer.Render.Java

/-!
# Names of parameters

The signature of a method names every parameter, and one that has been given no name by its place.
Nothing keeps a given name from being the one that is made for another place.  That is the only way
in which two parameters come to the same name.
-/

namespace BytecodeViewer

/-- The name that a parameter has been given.  An empty one counts as none. -/
def Parameter.given? (p : Parameter) : Option String :=
  p.name.filter (· != "")

namespace Method

def givenNames (m : Method) : List String :=
  m.parameters.filterMap (·.given?)

variable {m : Method} {name : String}

theorem mem_givenNames : name ∈ m.givenNames ↔
    ∃ j, ∃ hj : j < m.parameters.length, m.parameters[j].given? = some name := by
  rw [givenNames, List.mem_filterMap]
  constructor
  · rintro ⟨p, hp, hgiven⟩
    obtain ⟨j, hj, rfl⟩ := List.mem_iff_getElem.mp hp
    exact ⟨j, hj, hgiven⟩
  · rintro ⟨j, hj, hgiven⟩
    exact ⟨m.parameters[j], List.getElem_mem hj, hgiven⟩

/-- Where all given names differ, one name is not given at two places. -/
theorem given_ne_of_lt (distinct : m.givenNames.Nodup) {i j : Nat} (hlt : i < j)
    (hj : j < m.parameters.length) {first second : String}
    (hfirst : m.parameters[i].given? = some first)
    (hsecond : m.parameters[j].given? = some second) : first ≠ second := by
  rw [givenNames, List.Nodup, List.pairwise_filterMap, List.pairwise_iff_getElem] at distinct
  exact distinct i j (Nat.lt_trans hlt hj) hj hlt first hfirst second hsecond

end Method

namespace Java

variable {c : ClassDef} {m : Method}

/-! ## The names that are printed -/

/-- The name that is made for the parameter at a place. -/
def placeName (i : Nat) : String :=
  "p" ++ toString i

theorem placeName_inj {i j : Nat} : placeName i = placeName j ↔ i = j := by
  constructor
  · intro h
    rw [placeName, placeName, String.append_right_inj, Nat.toString_eq_ofList_toDigits,
      Nat.toString_eq_ofList_toDigits, String.ofList_inj] at h
    rw [← Nat.ofDigitChars_ten_toDigits (n := i), h, Nat.ofDigitChars_ten_toDigits]
  · exact congrArg placeName

theorem parameterName_eq (i : Nat) (p : Parameter) :
    parameterName i p = p.given?.getD (placeName i) := by
  rw [parameterName, Parameter.given?]
  cases p.name with
  | none => rfl
  | some name => by_cases hempty : name = "" <;> simp [Option.filter, hempty, placeName]

/-- The names of the parameters in the signature of a method.  A class initialiser has none. -/
def printedNames (m : Method) : List String :=
  if m.name = "<clinit>" then [] else m.parameters.mapIdx parameterName

/-- Names behind the types of the parameters that they belong to. -/
def typedNames (m : Method) (names : List String) : List String :=
  List.zipWith (fun p name => TypeName.simple p.typeName ++ " " ++ name) m.parameters names

theorem parameterTexts_eq (start : Nat) (ps : List Parameter) : parameterTexts start ps =
    List.zipWith (fun p name => TypeName.simple p.typeName ++ " " ++ name) ps
      (ps.mapIdx fun i p => parameterName (start + i) p) := by
  induction ps generalizing start with
  | nil => rfl
  | cons p ps ih =>
      rw [parameterTexts, ih, List.mapIdx_cons, List.zipWith_cons_cons]
      simp only [Nat.add_zero, Nat.add_assoc, Nat.add_comm 1]

/-- The last part is the end of what all parts are joined to, if it is not empty. -/
theorem exists_joinNonempty_eq {last : String} (hlast : last ≠ "") (parts : List String) :
    ∃ front, Text.joinNonempty (parts ++ [last]) = front ++ last := by
  induction parts with
  | nil => exact ⟨"", by simp [Text.joinNonempty, hlast]⟩
  | cons part parts ih =>
      obtain ⟨front, hjoin⟩ := ih
      by_cases hpart : part = ""
      · refine ⟨front, ?_⟩
        rw [← hjoin]
        simp [Text.joinNonempty, hpart]
      · refine ⟨part ++ " " ++ front, ?_⟩
        have hne : Text.joinNonempty (parts ++ [last]) ≠ "" := by
          rw [hjoin]
          simp [hlast]
        rw [List.cons_append, joinNonempty_cons hpart, if_neg hne, hjoin]
        simp only [String.append_assoc]

theorem exists_joinNonempty_parentheses (name inner : String) (parts : List String) :
    ∃ front, Text.joinNonempty (parts ++ [name ++ ("(" ++ inner ++ ")")]) =
      front ++ "(" ++ inner ++ ")" := by
  have hlast : name ++ ("(" ++ inner ++ ")") ≠ "" := by simp
  obtain ⟨front, hjoin⟩ := exists_joinNonempty_eq hlast parts
  refine ⟨front ++ name, ?_⟩
  rw [hjoin]
  simp only [String.append_assoc]

/-- The signature of a method prints some names, one behind the type of each parameter.  That of a
class initialiser prints none. -/
inductive Prints (c : ClassDef) (m : Method) : List String → Prop
  | initialiser (isInitialiser : m.name = "<clinit>") (signature_eq : signature c m = "static") :
      Prints c m []
  | parameters {names : List String} (front : String)
      (length_eq : names.length = m.parameters.length)
      (signature_eq : signature c m = front ++ "(" ++ commas (typedNames m names) ++ ")") :
      Prints c m names

theorem signature_prints (c : ClassDef) (m : Method) : Prints c m (printedNames m) := by
  by_cases hname : m.name = "<clinit>"
  · rw [printedNames, if_pos hname]
    exact .initialiser hname (by simp [signature, hname])
  have hlength : (printedNames m).length = m.parameters.length := by
    rw [printedNames, if_neg hname, List.length_mapIdx]
  have htexts : parameterTexts 0 m.parameters = typedNames m (printedNames m) := by
    rw [parameterTexts_eq, typedNames, printedNames, if_neg hname]
    simp only [Nat.zero_add]
  by_cases hconstructor : m.name = "<init>"
  · obtain ⟨front, hjoin⟩ := exists_joinNonempty_parentheses c.simpleName
      (commas (typedNames m (printedNames m))) [m.access.modifiers .none]
    apply Prints.parameters front hlength
    rw [← hjoin, ← htexts]
    simp [signature, hconstructor]
  · obtain ⟨front, hjoin⟩ := exists_joinNonempty_parentheses m.name
      (commas (typedNames m (printedNames m)))
      [m.access.modifiers .none, TypeName.simple m.returnType]
    apply Prints.parameters front hlength
    rw [← hjoin, ← htexts]
    simp [signature, hname, hconstructor]

/-! ## Names that differ -/

/-- No parameter has been given the name that is made for another one. -/
def PlacesFree (m : Method) : Prop :=
  ∀ (i : Nat) (hi : i < m.parameters.length),
    m.parameters[i].given? = none → placeName i ∉ m.givenNames

/-- All names of a signature differ, if those that have been given do. -/
def NamesApart (m : Method) : Prop :=
  m.givenNames.Nodup → (printedNames m).Nodup

theorem nodup_mapIdx_parameterName (distinct : m.givenNames.Nodup) (free : PlacesFree m) :
    (m.parameters.mapIdx parameterName).Nodup := by
  rw [List.Nodup, List.pairwise_iff_getElem]
  intro i j hi hj hlt
  rw [List.length_mapIdx] at hi hj
  rw [List.getElem_mapIdx, List.getElem_mapIdx, parameterName_eq, parameterName_eq]
  cases hfirst : m.parameters[i].given? with
  | some first =>
      cases hsecond : m.parameters[j].given? with
      | some second => exact Method.given_ne_of_lt distinct hlt hj hfirst hsecond
      | none =>
          intro heq
          apply free j hj hsecond
          exact Method.mem_givenNames.mpr ⟨i, hi, hfirst.trans (congrArg some heq)⟩
  | none =>
      cases hsecond : m.parameters[j].given? with
      | some second =>
          intro heq
          apply free i hi hfirst
          exact Method.mem_givenNames.mpr ⟨j, hj, hsecond.trans (congrArg some heq.symm)⟩
      | none => exact fun heq => Nat.ne_of_lt hlt (placeName_inj.mp heq)

theorem placesFree_of_nodup (apart : (m.parameters.mapIdx parameterName).Nodup) :
    PlacesFree m := by
  intro i hi hmade hgiven
  obtain ⟨j, hj, hname⟩ := Method.mem_givenNames.mp hgiven
  have hi' : i < (m.parameters.mapIdx parameterName).length := by simpa using hi
  have hj' : j < (m.parameters.mapIdx parameterName).length := by simpa using hj
  have same : (m.parameters.mapIdx parameterName)[i] =
      (m.parameters.mapIdx parameterName)[j] := by
    rw [List.getElem_mapIdx, List.getElem_mapIdx, parameterName_eq, parameterName_eq, hmade, hname]
    rfl
  have hij : i = j := (List.Nodup.getElem_inj_iff apart).mp same
  subst hij
  rw [hmade] at hname
  cases hname

/-- The names that a signature prints differ exactly if none of the given ones is made for another
parameter, provided that the given ones differ and that any are printed at all. -/
theorem namesApart_iff (c : ClassDef) (m : Method) : Prints c m (printedNames m) ∧
    (NamesApart m ↔ (m.givenNames.Nodup → m.name ≠ "<clinit>" → PlacesFree m)) := by
  refine ⟨signature_prints c m, ?_⟩
  rw [NamesApart, printedNames]
  constructor
  · intro apart distinct hname
    have hnodup := apart distinct
    rw [if_neg hname] at hnodup
    exact placesFree_of_nodup hnodup
  · intro free distinct
    split
    · exact List.nodup_nil
    · next hname => exact nodup_mapIdx_parameterName distinct (free distinct hname)

/-- The first parameter has the name that is made for the second one. -/
def clashingMethod : Method where
  name := "f"
  parameters := [{ typeName := "int", name := some "p1" }, { typeName := "int" }]

theorem clashing_not_namesApart :
    clashingMethod.givenNames = ["p1"] ∧
      signature { name := "A" } clashingMethod = "void f(int p1, int p1)" ∧
      ¬NamesApart clashingMethod := by
  refine ⟨by decide +kernel, by decide +kernel, ?_⟩
  intro apart
  have distinct : clashingMethod.givenNames.Nodup := by decide +kernel
  have hnodup := apart distinct
  revert hnodup
  decide +kernel

end Java

end BytecodeViewer
