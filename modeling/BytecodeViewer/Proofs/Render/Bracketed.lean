import BytecodeViewer.Proofs.Render.Depth
import BytecodeViewer.Proofs.Text.FreeOf

/-!
# Brackets and indentation of pseudo-source

The lines of pseudo-source are indented as deep as the braces above them say, and each brace that
is opened is closed.  What names, values and operands hold does not matter, as long as no brace
ends a line that was not meant to open or close anything.
-/

namespace BytecodeViewer

def BraceFree (s : String) : Prop :=
  '\x7b' ∉ s.toList ∧ '\x7d' ∉ s.toList

/-- The names at the ends of lines are free of braces.  Lines never end in another name, in a
value or in an operand, which may hold braces. -/
structure ClassDef.BraceFree (c : ClassDef) : Prop where
  superclass : ∀ name ∈ c.superclass, BytecodeViewer.BraceFree name
  interfaces : ∀ name ∈ c.interfaces, BytecodeViewer.BraceFree name
  annotations : ∀ a ∈ c.annotations, BytecodeViewer.BraceFree a.typeName
  fields : ∀ f ∈ c.fields, ∀ a ∈ f.annotations, BytecodeViewer.BraceFree a.typeName
  methods : ∀ m ∈ c.methods, ∀ a ∈ m.annotations, BytecodeViewer.BraceFree a.typeName

/-! ## Texts without braces -/

namespace BraceFree

variable {s t : String}

theorem append (hs : BraceFree s) (ht : BraceFree t) : BraceFree (s ++ t) :=
  ⟨Text.FreeOf.append hs.1 ht.1, Text.FreeOf.append hs.2 ht.2⟩

theorem intercalate {parts : List String} (hs : BraceFree s) (hparts : ∀ t ∈ parts, BraceFree t) :
    BraceFree (s.intercalate parts) :=
  ⟨Text.FreeOf.intercalate hs.1 fun t ht => (hparts t ht).1,
    Text.FreeOf.intercalate hs.2 fun t ht => (hparts t ht).2⟩

theorem simple (h : BraceFree s) : BraceFree (TypeName.simple s) := by
  simp only [TypeName.simple]
  split
  · simp only [BraceFree, String.toList_ofList]
    exact ⟨fun hmem => h.1 (List.mem_of_mem_drop hmem), fun hmem => h.2 (List.mem_of_mem_drop hmem)⟩
  · exact h

theorem unbraced (h : BraceFree s) (hs : s ≠ "") : Unbraced s := by
  obtain ⟨c, hmem, hc⟩ := exists_endsIn hs
  exact ⟨c, hc, fun heq => h.1 (heq ▸ hmem), fun heq => h.2 (heq ▸ hmem)⟩

end BraceFree

namespace Java

variable {c : ClassDef} {o : Sections} {m : Method} {lowest depth : Int} {s : String}

/-! ## Ends of lines -/

theorem unbraced_semicolon (h : EndsIn s ';') : Unbraced s :=
  .of_endsIn h (by decide) (by decide)

theorem annotationText_unbraced {a : Annotation} (h : BraceFree a.typeName) :
    Unbraced (annotationText a) := by
  have hat : BraceFree "@" := ⟨by decide, by decide⟩
  have hname := hat.append h.simple
  unfold annotationText
  split
  · exact hname.unbraced (by simp)
  · have hend : EndsIn ")" ')' := by decide
    exact .of_endsIn (hend.append _) (by decide) (by decide)

theorem fieldDeclaration_unbraced (f : Field) : Unbraced (fieldDeclaration f ++ ";") :=
  unbraced_semicolon (EndsIn.append (by decide) _)

theorem jumpStatement?_endsIn {condition : List Char} {operands : List String}
    (h : jumpStatement? condition operands = some s) : EndsIn s ';' := by
  unfold jumpStatement? at h
  obtain ⟨sign, -, hs⟩ := Option.bind_eq_some_iff.mp h
  have hend : EndsIn ";" ';' := by decide
  split at hs
  · cases hs
    exact hend.append _
  · cases hs
    exact hend.append _
  · cases hs

theorem eq_some_of_ite {α : Type} {p : Prop} [Decidable p] {x y : Option α} {a : α}
    (h : (if p then x else y) = some a) : x = some a ∨ y = some a := by
  by_cases hp : p
  · exact .inl (by rwa [if_pos hp] at h)
  · exact .inr (by rwa [if_neg hp] at h)

/-- Each statement ends in a semicolon, whatever its operands are. -/
theorem statement?_endsIn {opcode : String} {operands : List String}
    (h : statement? opcode operands = some s) : EndsIn s ';' := by
  have ends : ∀ {start mark : String}, EndsIn mark ';' → some (start ++ mark) = some s →
      EndsIn s ';' := by
    rintro start mark hmark ⟨⟩
    exact hmark.append start
  rcases eq_some_of_ite h with h | h
  · cases h
    decide
  rcases eq_some_of_ite h with h | h
  · exact jumpStatement?_endsIn h
  cases operands with
  | nil => cases h
  | cons a others =>
      -- five kinds of statements need one operand, three more need two
      iterate 5
        rcases eq_some_of_ite h with h | h
        · exact ends (by decide) h
      cases others with
      | nil => cases h
      | cons b others =>
          iterate 3
            rcases eq_some_of_ite h with h | h
            · exact ends (by decide) h
          cases h

theorem unknownStatement_endsIn (opcode : String) (operands : List String) :
    EndsIn (unknownStatement opcode operands) '/' := by
  have hend : EndsIn " */" '/' := by decide
  unfold unknownStatement
  split
  · exact hend.append _
  · exact hend.append _

theorem statement_unbraced (i : Instruction) : Unbraced (statement i) := by
  unfold statement
  cases h : statement? i.opcode i.operands with
  | none => exact .of_endsIn (unknownStatement_endsIn _ _) (by decide) (by decide)
  | some s => exact unbraced_semicolon (statement?_endsIn h)

theorem extendsClause_braceFree (hc : c.BraceFree) : BraceFree (extendsClause c) := by
  have hempty : BraceFree "" := ⟨by decide, by decide⟩
  have hword : BraceFree "extends " := ⟨by decide, by decide⟩
  unfold extendsClause
  cases hsuper : c.superclass with
  | none => exact hempty
  | some name =>
      simp only
      split
      · exact hempty
      · exact hword.append (hc.superclass name hsuper).simple

theorem implementsClause_braceFree (hc : c.BraceFree) : BraceFree (implementsClause c) := by
  unfold implementsClause
  split
  · exact ⟨by decide, by decide⟩
  have hword : BraceFree (if c.access.has .isInterface then "extends " else "implements ") := by
    split <;> exact ⟨by decide, by decide⟩
  have hnames : ∀ s ∈ c.interfaces.map TypeName.simple, BraceFree s := by
    intro s hs
    obtain ⟨name, hname, rfl⟩ := List.mem_map.mp hs
    exact (hc.interfaces name hname).simple
  exact hword.append (.intercalate ⟨by decide, by decide⟩ hnames)

/-! ## What the lines say -/

def fieldTexts (f : Field) : List String :=
  f.annotations.map annotationText ++ [fieldDeclaration f ++ ";"]

def methodTexts (c : ClassDef) (m : Method) : List String :=
  m.annotations.map annotationText ++
    if hasBody m then
      [signature c m ++ " \x7b"] ++ m.instructions.map statement ++ ["\x7d"]
    else [signature c m ++ ";"]

def memberTexts (c : ClassDef) (o : Sections) : List (List String) :=
  (if o.fields && !c.fields.isEmpty then [c.fields.flatMap fieldTexts] else []) ++
    if o.methods then c.methods.map (methodTexts c) else []

/-- What the lines of a class say, their indentation aside.  What stands above the members is not
indented. -/
def classTexts (c : ClassDef) (o : Sections) : List String :=
  apart (headLines c o) ([""].intercalate (memberTexts c o)) ++ if o.name then ["\x7d"] else []

/-! ## Members -/

theorem indent_zero (s : String) : indent 0 ++ s = s :=
  String.empty_append

theorem annotations_laidOut {annotations : List Annotation}
    (h : ∀ a ∈ annotations, BraceFree a.typeName) (above : lowest ≤ depth) :
    LaidOut lowest depth (annotations.map annotationText)
      (annotations.map fun a => indent depth ++ annotationText a) depth :=
  .items (fun a ha => annotationText_unbraced (h a ha)) above

theorem fieldLines_laidOut {f : Field} (h : ∀ a ∈ f.annotations, BraceFree a.typeName)
    (above : lowest ≤ depth) :
    LaidOut lowest depth (fieldTexts f) (fieldLines depth f) depth := by
  have hdeclaration := LaidOut.unbraced (fieldDeclaration_unbraced f) above
  rw [← String.append_assoc] at hdeclaration
  exact (annotations_laidOut h above).append hdeclaration

theorem bodyLines_laidOut (m : Method) (above : lowest ≤ depth) :
    LaidOut lowest depth (m.instructions.map statement) (bodyLines depth m) depth :=
  .items (fun i _ => statement_unbraced i) above

/-- A method with a body opens a brace below its annotations and closes it below its statements. -/
theorem methodBlock_laidOut (h : ∀ a ∈ m.annotations, BraceFree a.typeName)
    (above : lowest ≤ depth) :
    LaidOut lowest depth (methodTexts c m) (methodBlock depth c m) depth := by
  have hannotations := annotations_laidOut h above
  unfold methodTexts methodBlock declarationLines
  split
  · have hsignature : EndsIn (signature c m ++ " \x7b") '\x7b' := EndsIn.append (by decide) _
    have hopening := LaidOut.opening hsignature above
    have hbody : LaidOut lowest (depth + 1) (m.instructions.map statement)
        (bodyLines (depth + 1) m) (depth + 1) := bodyLines_laidOut m (by omega)
    have hclosing := LaidOut.closing above
    rw [← String.append_assoc] at hopening
    have hblock := hannotations.append ((hopening.append hbody).append hclosing)
    simpa only [List.append_assoc] using hblock
  · have hsignature : EndsIn (signature c m ++ ";") ';' := EndsIn.append (by decide) _
    have hline := LaidOut.unbraced (unbraced_semicolon hsignature) above
    rw [← String.append_assoc] at hline
    exact hannotations.append hline

theorem memberLines_laidOut (hc : c.BraceFree) (above : lowest ≤ memberLevel o) :
    LaidOut lowest (memberLevel o) ([""].intercalate (memberTexts c o)) (memberLines c o)
      (memberLevel o) := by
  refine .intercalate (List.rel_append ?_ ?_) above
  · split
    · have hfields : ∀ f ∈ c.fields, LaidOut lowest (memberLevel o) (fieldTexts f)
          (fieldLines (memberLevel o) f) (memberLevel o) :=
        fun f hf => fieldLines_laidOut (hc.fields f hf) above
      exact .cons (.flatMap hfields above) .nil
    · exact .nil
  · split
    · rw [List.forall₂_map_left_iff, List.forall₂_map_right_iff, List.forall₂_same]
      exact fun m hm => methodBlock_laidOut (hc.methods m hm) above
    · exact .nil

/-! ## What stands above the members -/

theorem flush_laidOut {texts : List String} (h : ∀ s ∈ texts, Unbraced s) :
    LaidOut 0 0 texts texts 0 := by
  have hitems : LaidOut 0 0 (texts.map id) (texts.map fun s => indent 0 ++ id s) 0 :=
    .items h (Int.le_refl 0)
  simpa [indent_zero] using hitems

theorem packageLines_laidOut (c : ClassDef) (shown : Bool) :
    let lines := if shown then ["package " ++ c.package ++ ";", ""] else []
    LaidOut 0 0 lines lines 0 := by
  intro lines
  have hpackage : Unbraced ("package " ++ c.package ++ ";") :=
    unbraced_semicolon (EndsIn.append (by decide) _)
  have hline : LaidOut 0 0 ["package " ++ c.package ++ ";"] ["package " ++ c.package ++ ";"] 0 :=
    flush_laidOut (by simpa using hpackage)
  unfold lines
  split
  · exact hline.append (.empty (Int.le_refl 0))
  · exact .nil (Int.le_refl 0)

theorem sourceLines_unbraced (c : ClassDef) (o : Sections) :
    ∀ s ∈ (match c.sourceFile with
      | some file => if o.details && file != "" then ["// Compiled from \"" ++ file ++ "\""] else []
      | none => []), Unbraced s := by
  have hend : EndsIn "\"" '"' := by decide
  intro s hs
  split at hs
  · split at hs
    · rw [List.mem_singleton.mp hs]
      exact .of_endsIn (hend.append _) (by decide) (by decide)
    · cases hs
  · cases hs

theorem clauseLines_unbraced (hc : c.BraceFree) :
    ∀ s ∈ ([extendsClause c, implementsClause c].filter (· != "")).map ("// " ++ ·),
      Unbraced s := by
  intro s hs
  obtain ⟨clause, hclause, rfl⟩ := List.mem_map.mp hs
  have hfree : BraceFree clause := by
    have hmem := (List.mem_filter.mp hclause).1
    simp only [List.mem_cons, List.not_mem_nil, or_false] at hmem
    rcases hmem with rfl | rfl
    · exact extendsClause_braceFree hc
    · exact implementsClause_braceFree hc
  have hmark : BraceFree "// " := ⟨by decide, by decide⟩
  exact (hmark.append hfree).unbraced (by simp)

theorem headerLine_laidOut (header : String) :
    LaidOut 0 0 [header ++ " \x7b"] [header ++ " \x7b"] 1 := by
  have hheader : EndsIn (header ++ " \x7b") '\x7b' := EndsIn.append (by decide) _
  have hopening := LaidOut.opening hheader (Int.le_refl 0)
  rwa [indent_zero] at hopening

/-- The header of a class is the last line above its members, and the only one that opens. -/
theorem headLines_laidOut (hc : c.BraceFree) (o : Sections) :
    LaidOut 0 0 (headLines c o) (headLines c o) (memberLevel o) := by
  have hannotations : ∀ s ∈ (if o.annotations then c.annotations.map annotationText else []),
      Unbraced s := by
    intro s hs
    split at hs
    · obtain ⟨a, ha, rfl⟩ := List.mem_map.mp hs
      exact annotationText_unbraced (hc.annotations a ha)
    · cases hs
  have habove := ((packageLines_laidOut c (o.name && c.package != "")).append
    (flush_laidOut (sourceLines_unbraced c o))).append (flush_laidOut hannotations)
  refine habove.append ?_
  cases hname : o.name with
  | true =>
      have hlevel : memberLevel o = 1 := if_pos hname
      rw [hlevel, if_pos rfl]
      split
      · exact headerLine_laidOut _
      · exact headerLine_laidOut _
  | false =>
      have hlevel : memberLevel o = 0 := if_neg (by simp [hname])
      rw [hlevel, if_neg Bool.false_ne_true]
      split
      · exact flush_laidOut (clauseLines_unbraced hc)
      · exact .nil (Int.le_refl 0)

theorem classLines_laidOut (hc : c.BraceFree) (o : Sections) :
    LaidOut 0 0 (classTexts c o) (classLines c o) 0 := by
  have hlevel : 0 ≤ memberLevel o := by
    unfold memberLevel
    split <;> decide
  have hmembers := (headLines_laidOut hc o).apart (memberLines_laidOut hc hlevel)
  rw [classLines_eq]
  refine hmembers.append ?_
  cases hname : o.name with
  | true =>
      have hclosing : LaidOut 0 (0 + 1) ["\x7d"] [indent 0 ++ "\x7d"] 0 :=
        .closing (Int.le_refl 0)
      rwa [indent_zero, show (0 : Int) + 1 = memberLevel o from (if_pos hname).symm] at hclosing
  | false =>
      rw [show memberLevel o = 0 from if_neg (by simp [hname])]
      exact .nil (Int.le_refl 0)

/-- Read in order with a depth, the lines of a class and those of a method on its own are indented
as deep as they are read.  They never go below the depth at which they begin, and lead back to
it. -/
theorem lines_laidOut (c : ClassDef) :
    (c.BraceFree → ∀ o, LaidOut 0 0 (classTexts c o) (classLines c o) 0) ∧
      ∀ m : Method, (∀ a ∈ m.annotations, BraceFree a.typeName) → ∀ n : Nat,
        LaidOut n n (methodTexts c m) (methodLines c m n true) n :=
  ⟨classLines_laidOut, fun _ hm n => methodBlock_laidOut hm (Int.le_refl n)⟩

/-- A method on its own, with an operand that is a brace. -/
def closingMethod : Method where
  name := "close"
  returnType := "char"
  annotations := [{ typeName := "a.Pure" }]
  instructions := [{ opcode := "const", operands := ["v0", "\x7d"] }, { opcode := "return-void" }]

def bracedClass : ClassDef where
  name := "a.Braced"
  fields := [{ name := "open", typeName := "char", initialValue := some "\x7b" }]
  methods := [closingMethod]

theorem lines_laidOut_braced :
    bracedClass.BraceFree ∧
      LaidOut 0 0 (classTexts bracedClass .all) (classLines bracedClass .all) 0 ∧
      classLines bracedClass .all =
        ["package a;", "", "public class Braced \x7b", "", "    char open = \x7b;", "",
          "    @a.Pure", "    char close() \x7b", "        v0 = \x7d;", "        return;",
          "    \x7d", "\x7d"] ∧
      (∀ a ∈ closingMethod.annotations, BraceFree a.typeName) ∧
      LaidOut 2 2 (methodTexts bracedClass closingMethod)
        (methodLines bracedClass closingMethod 2 true) 2 := by
  have hpure : ∀ a ∈ closingMethod.annotations, BraceFree a.typeName := by
    intro a ha
    rw [List.mem_singleton.mp ha]
    exact ⟨by decide, by decide⟩
  have hc : bracedClass.BraceFree := by
    constructor
    · rintro name ⟨⟩
      exact ⟨by decide, by decide⟩
    · intro name hname
      cases hname
    · intro a ha
      cases ha
    · intro f hf a ha
      rw [List.mem_singleton.mp hf] at ha
      cases ha
    · intro m hm
      rw [List.mem_singleton.mp hm]
      exact hpure
  obtain ⟨hclass, hmethod⟩ := lines_laidOut bracedClass
  exact ⟨hc, hclass hc .all, by decide +kernel, hpure, hmethod _ hpure 2⟩

end Java

end BytecodeViewer
