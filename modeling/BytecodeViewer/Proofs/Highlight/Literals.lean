import BytecodeViewer.Proofs.Highlight.Comments
import BytecodeViewer.Proofs.Highlight.Opcodes

/-!
# String literals

A string literal is coloured from one quote to the other.  But comments are painted over strings,
and their rules do not know what a string is: what looks like a comment inside of a literal, or
goes on into it, has the colour of comments.
-/

namespace BytecodeViewer

open Pattern (Node SetItem Outcome Captures)
open Text (hasAt IsRun Spells FreeOf isWord isDecimal)

variable {text : Array Char} {i j l a offset : Nat} {o : Outcome} {caps : Captures} {s : String}

/-! ## The string rule -/

/-- What stands for itself in a literal. -/
def isLiteralPart (c : Char) : Bool :=
  c != '"' && c != '\\' && c != '\n'

def quoted (s : String) : String :=
  "\"" ++ s ++ "\""

theorem toList_quoted (s : String) : (quoted s).toList = '"' :: (s.toList ++ ['"']) := by
  simp [quoted]

theorem length_quoted (s : String) : (quoted s).length = s.length + 2 := by
  rw [← String.length_toList, toList_quoted, List.length_cons, List.length_append,
    String.length_toList]
  rfl

namespace Java

/-- A part of a literal: a character or an escaped one. -/
def literalPart : Node :=
  .choice [
    .noneOf [.char '"', .char '\\', .char '\n'],
    .sequence [.just '\\', .char .notNewline]]

theorem mem_literalPart : o ∈ literalPart.outcomes text i caps ↔
    hasAt text isLiteralPart i = true ∧ o = (i + 1, caps) ∨
      (text[i]? = some '\\' ∧ hasAt text (· != '\n') (i + 1) = true) ∧ o = (i + 2, caps) := by
  have hplain : (fun c => !SetItem.anyHolds [.char '"', .char '\\', .char '\n'] c) =
      isLiteralPart := by
    funext c
    simp [SetItem.anyHolds, SetItem.holds_char, isLiteralPart, Bool.and_assoc, bne]
  have hescaped : Pattern.CharTest.notNewline.holds = (· != '\n') := rfl
  rw [literalPart, Node.mem_choice (List.cons_ne_nil _ _)]
  simp only [List.mem_cons, List.not_mem_nil, or_false, exists_eq_or_imp, exists_eq_left,
    Node.mem_noneOf, hplain, Node.mem_sequence_cons, Node.mem_sequence_nil, Node.mem_just,
    Node.mem_char, hescaped, and_assoc, exists_and_left]

theorem literalPart_consumes (text : Array Char) :
    (literalPart.outcomes text).Consumes text.size := by
  intro i caps o ho
  rcases mem_literalPart.mp ho with ⟨hhas, rfl⟩ | ⟨⟨-, hhas⟩, rfl⟩
  · exact ⟨Nat.lt_succ_self i, Text.lt_size_of_hasAt hhas⟩
  · exact ⟨Nat.lt_add_of_pos_right Nat.two_pos, Text.lt_size_of_hasAt hhas⟩

theorem isRun_of_mem_literalPart (ho : o ∈ literalPart.outcomes text i caps) :
    IsRun text (· != '\n') i o.1 ∧ o.2 = caps := by
  rcases mem_literalPart.mp ho with ⟨hhas, rfl⟩ | ⟨⟨hescape, hhas⟩, rfl⟩
  · refine ⟨Text.isRun_succ (Text.hasAt_mono (fun c hc => ?_) hhas), rfl⟩
    simp only [isLiteralPart, Bool.and_eq_true] at hc
    exact hc.2
  · have hfirst : hasAt text (· != '\n') i = true := Text.hasAt_of_getElem? hescape _
    exact ⟨(Text.isRun_succ hfirst).append (Text.isRun_succ hhas), rfl⟩

theorem mem_stringPattern (h : o ∈ stringPattern.root.outcomes text i []) :
    text[i]? = some '"' ∧ i < o.1 ∧ IsRun text (· != '\n') i o.1 ∧ o.2 = [(1, i, o.1)] := by
  obtain ⟨_, hbody, rfl⟩ := Node.mem_group.mp h
  obtain ⟨_, hopen, hbody⟩ := Node.mem_sequence_cons.mp hbody
  obtain ⟨hquote, rfl⟩ := Node.mem_just.mp hopen
  obtain ⟨_, hparts, hbody⟩ := Node.mem_sequence_cons.mp hbody
  obtain ⟨hle, hrun, hcaps⟩ := Node.isRun_of_mem_many (literalPart_consumes text)
    (fun _ _ _ => isRun_of_mem_literalPart) hparts
  obtain ⟨_, hclose, hbody⟩ := Node.mem_sequence_cons.mp hbody
  obtain ⟨hend, rfl⟩ := Node.mem_just.mp hclose
  obtain rfl := Node.mem_sequence_nil.mp hbody
  have hfirst : hasAt text (· != '\n') i = true := Text.hasAt_of_getElem? hquote _
  have hlast := Text.hasAt_of_getElem? hend (· != '\n')
  refine ⟨hquote, by omega, ?_, by rw [hcaps]⟩
  exact ((Text.isRun_succ hfirst).append hrun).append (Text.isRun_succ hlast)

theorem stringPattern_marks (text : Array Char) : stringPattern.Marks text where
  consumes := fun _ _ ho => (mem_stringPattern ho).2.1
  groups := Nat.one_ne_zero
  group := by
    intro i o hfirst
    obtain ⟨-, hlt, -, hcaps⟩ := mem_stringPattern (List.mem_of_head? hfirst)
    exact ⟨i, o.1, by rw [hcaps]; rfl, Nat.le_refl i, hlt, Nat.le_refl _⟩

/-- The rest of a literal without quotes and escapes goes on to the first quote. -/
theorem head?_literalRest (hij : i ≤ j) (hrun : IsRun text isLiteralPart i j)
    (hquote : text[j]? = some '"') :
    ((Node.sequence [.many literalPart, .just '"']).outcomes text i caps).head? =
      some (j + 1, caps) := by
  rw [Node.outcomes_sequence_cons]
  induction hleft : j - i generalizing i with
  | zero =>
      obtain rfl : i = j := by omega
      have hnone : literalPart.outcomes text i caps = [] := by
        refine List.eq_nil_iff_forall_not_mem.mpr fun o ho => ?_
        rcases mem_literalPart.mp ho with ⟨hhas, -⟩ | ⟨⟨hescape, -⟩, -⟩
        · rw [Text.hasAt_of_getElem? hquote] at hhas
          cases hhas
        · cases hescape.symm.trans hquote
      rw [Node.many_stop (literalPart_consumes text) hnone, List.flatMap_singleton,
        Node.outcomes_sequence_singleton, Node.outcomes_just hquote]
      rfl
  | succ left ih =>
      obtain ⟨hfirst, hrest⟩ := (Text.isRun_iff_of_lt (by omega)).mp hrun
      have hround : (literalPart.outcomes text i caps).head? = some (i + 1, caps) := by
        have hmem (o : Outcome) (ho : o ∈ literalPart.outcomes text i caps) :
            o = (i + 1, caps) := by
          rcases mem_literalPart.mp ho with ⟨-, rfl⟩ | ⟨⟨hescape, -⟩, -⟩
          · rfl
          · rw [Text.hasAt_of_getElem? hescape] at hfirst
            cases hfirst
        have hunique (o : Outcome) (ho : o ∈ literalPart.outcomes text i caps) (o' : Outcome)
            (ho' : o' ∈ literalPart.outcomes text i caps) : o = o' :=
          (hmem o ho).trans (hmem o' ho').symm
        rw [Pattern.head?_eq_some_iff_of_unique hunique]
        exact mem_literalPart.mpr (.inl ⟨hfirst, rfl⟩)
      exact Node.head?_flatMap_many_step (literalPart_consumes text) hround
        (ih (by omega) hrest (by omega))

def stringRule : HighlightRule :=
  ⟨stringPattern, ⟨0x2a, 0x00, 0xff⟩⟩

end Java

/-! ## Literals in their lines -/

/-- What opens neither a literal nor a comment, and does not end the line. -/
def isQuiet (c : Char) : Bool :=
  c != '"' && c != '/' && c != '#' && c != '\n'

/-- A literal in the line that begins at `l`, with nothing before it that opens anything. -/
structure LiteralAt (text : Array Char) (l a : Nat) (s : String) : Prop where
  lineStart : l = 0 ∨ text[l - 1]? = some '\n'
  le : l ≤ a
  before : IsRun text isQuiet l a
  spells : Spells text a (quoted s).toList
  parts : ∀ c ∈ s.toList, isLiteralPart c = true

namespace LiteralAt

variable (h : LiteralAt text l a s)

include h

theorem openingQuote : text[a]? = some '"' := by
  have hspells := h.spells
  rw [toList_quoted] at hspells
  exact hspells.1

theorem inLine : IsRun text (· != '\n') a (a + (quoted s).length) := by
  rw [← String.length_toList]
  refine h.spells.isRun fun c hc => ?_
  simp only [toList_quoted, List.mem_cons, List.mem_append, List.not_mem_nil, or_false] at hc
  rcases hc with rfl | hc | rfl
  · rfl
  · have hpart := h.parts c hc
    simp only [isLiteralPart, Bool.and_eq_true] at hpart
    exact hpart.2
  · rfl

/-- What goes on into the literal in its line begins in the literal, if it needs a character that
is not quiet to begin with. -/
theorem le_of_run {k : Nat} {c : Char} (hc : isQuiet c = false) (hk : text[k]? = some c)
    (hrun : IsRun text (· != '\n') k (a + 1)) : a ≤ k := by
  refine Nat.le_of_not_lt fun hka => ?_
  rcases Nat.lt_or_ge k l with hkl | hlk
  · rcases h.lineStart with hzero | hbreak
    · omega
    · have hinside := hrun (l - 1) (by omega) (by have := h.le; omega)
      rw [Text.hasAt_of_getElem? hbreak] at hinside
      cases hinside
  · have hquiet := h.before k hlk hka
    rw [Text.hasAt_of_getElem? hk, hc] at hquiet
    cases hquiet

/-- The string rule colours the whole literal. -/
theorem covers_stringRule (hle : a ≤ offset) (hlt : offset < a + (quoted s).length) :
    Java.stringRule.Covers text offset := by
  have hspells := h.spells
  rw [toList_quoted] at hspells
  obtain ⟨hquote, hrest⟩ := hspells
  obtain ⟨hparts, hclose⟩ := Text.spells_append.mp hrest
  have hrun := hparts.isRun h.parts
  rw [String.length_toList] at hrun hclose
  have hfirst : Java.stringPattern.first? text a =
      some (a + 1 + s.length + 1, [(1, a, a + 1 + s.length + 1)]) := by
    change ((Node.group 1 (.sequence (['"'].map .just ++
      [.many Java.literalPart, .just '"']))).outcomes text a []).head? = _
    have hopen : Spells text a ['"'] := ⟨hquote, trivial⟩
    rw [Node.head?_group, Node.outcomes_sequence_of_spells _ hopen]
    change Option.map _ ((Node.sequence [.many Java.literalPart, .just '"']).outcomes text
      (a + 1) []).head? = _
    rw [Java.head?_literalRest (Nat.le_add_right _ _) hrun hclose.1]
    rfl
  refine ⟨(a, a + 1 + s.length + 1), ?_, hle, by rw [length_quoted] at hlt; omega⟩
  refine HighlightRule.mem_ranges_of_first? (Java.stringPattern_marks text) ?_ hfirst ?_ rfl
  · exact Nat.le_of_lt (Array.getElem?_eq_some_iff.mp hquote).1
  · -- A literal that begins before has no quote to begin with in this line.
    intro k o hka hfirst'
    refine Nat.le_of_not_lt fun hlt' => ?_
    obtain ⟨hquote', -, hrun', -⟩ := Java.mem_stringPattern (List.mem_of_head? hfirst')
    have := h.le_of_run rfl hquote' (hrun'.part (Nat.le_refl k) hlt')
    omega

/-- Of line comments only one that is opened in the literal can go through an offset of it. -/
theorem covers_lineComments_iff {r : HighlightRule} {c : Char} {cs : List Char}
    (hr : r.LineComments (c :: cs)) (hc : isQuiet c = false) (hquote : c ≠ '"')
    (hle : a ≤ offset) (hlt : offset < a + (quoted s).length) :
    r.Covers text offset ↔ ∃ k, a < k ∧ k ≤ offset ∧ Spells text k (c :: cs) := by
  rw [hr.covers_iff]
  constructor
  · rintro ⟨k, hk, hspells, hrun⟩
    have hak := h.le_of_run hc hspells.1 (hrun.part (Nat.le_refl k) (Nat.succ_le_succ hle))
    refine ⟨k, Nat.lt_of_le_of_ne hak fun heq => hquote ?_, hk, hspells⟩
    have hopen := h.openingQuote
    rw [heq, hspells.1] at hopen
    exact Option.some.inj hopen
  · rintro ⟨k, hak, hk, hspells⟩
    exact ⟨k, hk, hspells, h.inLine.part (Nat.le_of_lt hak) hlt⟩

end LiteralAt

/-- Where a line of a listing has a literal. -/
theorem literalAt_of_line {text : String} {above : List String} {pre after : String}
    (htext : text = joinLines above ++ pre ++ quoted s ++ after)
    (hpre : ∀ c ∈ pre.toList, isQuiet c = true) (hparts : ∀ c ∈ s.toList, isLiteralPart c = true) :
    LiteralAt text.toList.toArray (joinLines above).length
      (joinLines above ++ pre).length s := by
  have hspells : Spells text.toList.toArray 0
      (joinLines above ++ pre ++ quoted s ++ after).toList := by
    rw [← htext]
    exact Text.spells_self _
  simp only [String.toList_append, Text.spells_append, List.length_append, String.length_toList,
    Nat.zero_add] at hspells
  obtain ⟨⟨⟨habove, hbefore⟩, hliteral⟩, -⟩ := hspells
  have hrun := hbefore.isRun hpre
  have hstart := lineStart_of_spells (.inl rfl) habove
  rw [String.length_toList, ← String.length_append] at hrun
  rw [Nat.zero_add] at hstart
  rw [← String.length_append] at hliteral
  exact ⟨hstart, by rw [String.length_append]; exact Nat.le_add_right _ _, hrun, hliteral, hparts⟩

/-! ## Comments over literals -/

namespace Java

def lineCommentRule : HighlightRule :=
  ⟨lineCommentPattern, ⟨0x3f, 0x7f, 0x5f⟩⟩

theorem lineCommentRule_lineComments : lineCommentRule.LineComments ['/', '/'] :=
  ⟨rfl, rfl, by decide, by decide⟩

/-- Whether an offset of a literal is taken for a part of a comment: of a line comment that is
opened in the literal, or of any block comment. -/
def Commented (text : String) (first offset : Nat) : Prop :=
  (∃ k, first < k ∧ k ≤ offset ∧ Spells text.toList.toArray k ['/', '/']) ∨
    ∃ range ∈ blockComments none 0 text.toList, range.1 ≤ offset ∧ offset < range.2

theorem colorAt_literal {text : String} (h : LiteralAt text.toList.toArray l a s)
    (hle : a ≤ offset) (hlt : offset < a + (quoted s).length) :
    (Commented text a offset →
      (highlighted text rules).colorAt offset = some ⟨0x3f, 0x7f, 0x5f⟩) ∧
    (¬Commented text a offset →
      (highlighted text rules).colorAt offset = some ⟨0x2a, 0x00, 0xff⟩) := by
  have hline : lineCommentRule.Covers text.toList.toArray offset ↔ _ :=
    h.covers_lineComments_iff lineCommentRule_lineComments rfl (by decide) hle hlt
  have hblock : blockCommentRule.Covers text.toList.toArray offset ↔
      ∃ range ∈ blockComments none 0 text.toList, range.1 ≤ offset ∧ offset < range.2 := by
    rw [HighlightRule.Covers, ranges_blockCommentRule]
  have hrules : rules = rules.take 4 ++ [lineCommentRule] ++ [blockCommentRule] := rfl
  have hstrings : rules.take 4 = rules.take 3 ++ [stringRule] := rfl
  rw [Commented, ← hline, ← hblock, hrules]
  constructor
  · intro hcommented
    by_cases hcovers : blockCommentRule.Covers text.toList.toArray offset
    · rw [colorAt_concat_of_covers hcovers]
      rfl
    · rw [colorAt_concat_of_not_covers hcovers,
        colorAt_concat_of_covers (hcommented.resolve_right hcovers)]
      rfl
  · intro hfree
    rw [not_or] at hfree
    rw [colorAt_concat_of_not_covers hfree.2, colorAt_concat_of_not_covers hfree.1, hstrings,
      colorAt_concat_of_covers (h.covers_stringRule hle hlt)]
    rfl

end Java

namespace Dex

def commentRule : HighlightRule :=
  ⟨commentPattern, ⟨0x3f, 0x7f, 0x5f⟩⟩

theorem commentRule_lineComments : commentRule.LineComments ['#'] :=
  ⟨rfl, rfl, by decide, by decide⟩

/-- Whether an offset of a literal is taken for a part of a comment, which is opened in it. -/
def Commented (text : String) (first offset : Nat) : Prop :=
  ∃ k, first < k ∧ k ≤ offset ∧ text.toList.toArray[k]? = some '#'

theorem colorAt_literal {text : String} (h : LiteralAt text.toList.toArray l a s)
    (hle : a ≤ offset) (hlt : offset < a + (quoted s).length) :
    (Commented text a offset →
      (highlighted text rules).colorAt offset = some ⟨0x3f, 0x7f, 0x5f⟩) ∧
    (¬Commented text a offset →
      (highlighted text rules).colorAt offset = some ⟨0x2a, 0x00, 0xff⟩) := by
  have hcomment : commentRule.Covers text.toList.toArray offset ↔ Commented text a offset := by
    rw [h.covers_lineComments_iff commentRule_lineComments rfl (by decide) hle hlt]
    simp only [Commented, Text.Spells, and_true]
  have hrules : rules = rules.take 4 ++ [Java.stringRule] ++ [commentRule] := rfl
  rw [← hcomment, hrules]
  constructor
  · intro hcovers
    rw [colorAt_concat_of_covers hcovers]
    rfl
  · intro hfree
    rw [colorAt_concat_of_not_covers hfree,
      colorAt_concat_of_covers (h.covers_stringRule hle hlt)]
    rfl

end Dex

/-! ## Literals in methods -/

/-- The name of a register, such as `v0` or `p12`. -/
def IsRegister (r : String) : Prop :=
  ∃ c ds, r.toList = c :: ds ∧ (c = 'v' ∨ c = 'p') ∧ ds ≠ [] ∧ ∀ d ∈ ds, isDecimal d = true

theorem IsRegister.quiet {r : String} (h : IsRegister r) : ∀ c ∈ r.toList, isQuiet c = true := by
  obtain ⟨c, ds, hr, hc, -, hds⟩ := h
  have hdigit (d : Char) (hd : isDecimal d = true) : isQuiet d = true := by
    rw [← Bool.not_eq_false]
    intro hloud
    simp only [isQuiet, Bool.and_eq_false_iff, bne_eq_false_iff_eq] at hloud
    rcases hloud with ((rfl | rfl) | rfl) | rfl <;> exact absurd hd (by decide +kernel)
  rw [hr]
  intro d hd
  rcases List.mem_cons.mp hd with rfl | hd
  · rcases hc with rfl | rfl <;> rfl
  · exact hdigit d (hds d hd)

theorem quiet_indent (level : Int) : ∀ c ∈ (indent level).toList, isQuiet c = true := by
  intro c hc
  rw [indent, String.toList_ofList, List.mem_replicate] at hc
  rw [hc.2]
  rfl

theorem quiet_append {s t : String} (hs : ∀ c ∈ s.toList, isQuiet c = true)
    (ht : ∀ c ∈ t.toList, isQuiet c = true) : ∀ c ∈ (s ++ t).toList, isQuiet c = true := by
  intro c hc
  rw [String.toList_append] at hc
  exact (List.mem_append.mp hc).elim (hs c) (ht c)

/-- The body of a method that only loads a text. -/
def loads (r s : String) : List Instruction :=
  [⟨"const-string", [r, quoted s]⟩]

namespace Java

/-- What a listing of the method has before the text that its body loads. -/
def beforeLiteral (c : ClassDef) (m : Method) (level : Int) (standalone : Bool) (r : String) :
    String :=
  joinLines (if standalone then declarationLines level c m else []) ++
    (indent (if standalone then level + 1 else level) ++ r ++ " = ")

theorem statement_loads (r s : String) :
    statement ⟨"const-string", [r, quoted s]⟩ = r ++ " = " ++ quoted s ++ ";" := by
  simp [statement, statement?, Text.beginsWith]

theorem joinLines_loads (c : ClassDef) {m : Method} {r s : String} (hm : m.instructions = loads r s)
    (level : Int) {standalone : Bool} (hbody : standalone = true → hasBody m = true) :
    ∃ after, joinLines (methodLines c m level standalone) =
      beforeLiteral c m level standalone r ++ quoted s ++ after := by
  cases standalone with
  | true =>
      refine ⟨";\n" ++ joinLines [indent level ++ "\x7d"], ?_⟩
      rw [methodLines, if_pos rfl, methodBlock, if_pos (hbody rfl), bodyLines, hm]
      simp [loads, statement_loads, beforeLiteral, joinLines, String.append_assoc]
  | false =>
      refine ⟨";\n", ?_⟩
      simp [methodLines, bodyLines, hm, loads, statement_loads, beforeLiteral, joinLines,
        String.append_assoc]

theorem exists_literalAt (c : ClassDef) {m : Method} {r s : String} (hr : IsRegister r)
    (hs : ∀ x ∈ s.toList, isLiteralPart x = true) (hm : m.instructions = loads r s) (level : Int)
    {standalone : Bool} (hbody : standalone = true → hasBody m = true) :
    ∃ l, LiteralAt (joinLines (methodLines c m level standalone)).toList.toArray l
      (beforeLiteral c m level standalone r).length s := by
  obtain ⟨after, htext⟩ := joinLines_loads c hm level hbody
  have hregister := quiet_append (quiet_indent (if standalone then level + 1 else level)) hr.quiet
  have hpre := quiet_append hregister (t := " = ") (List.all_eq_true.mp (by decide))
  exact ⟨_, literalAt_of_line htext hpre hs⟩

end Java

namespace Dex

/-- What a listing of the method has before the text that its body loads. -/
def beforeLiteral (m : Method) (level : Int) (standalone : Bool) (r : String) : String :=
  joinLines (if standalone then headLines level m else bodyHead level m) ++
    (indent (if standalone then level + 1 else level) ++ "const-string " ++ r ++ ", ")

theorem instructionText_loads (r s : String) :
    instructionText ⟨"const-string", [r, quoted s]⟩ = "const-string " ++ r ++ ", " ++ quoted s := by
  have hoperands : operandText ⟨"const-string", [r, quoted s]⟩ = r ++ ", " ++ quoted s := by
    simp [operandText]
  have hne : r ++ ", " ++ quoted s ≠ "" := by simp [quoted]
  rw [instructionText_eq (show "const-string" ≠ "" by decide), hoperands, if_neg hne]
  simp only [← String.append_assoc]
  rfl

theorem joinLines_loads (c : ClassDef) {m : Method} {r s : String} (hm : m.instructions = loads r s)
    (level : Int) (standalone : Bool) :
    ∃ after, joinLines (methodLines c m level standalone) =
      beforeLiteral m level standalone r ++ quoted s ++ after := by
  cases standalone with
  | true =>
      refine ⟨"\n" ++ joinLines [indent level ++ ".end method"], ?_⟩
      rw [methodLines_eq, hm]
      simp [loads, instructionLine, instructionText_loads, beforeLiteral, joinLines,
        String.append_assoc]
  | false =>
      refine ⟨"\n", ?_⟩
      rw [methodLines, if_neg Bool.false_ne_true, bodyLines_eq, hm]
      simp [loads, instructionLine, instructionText_loads, beforeLiteral, joinLines,
        String.append_assoc]

theorem exists_literalAt (c : ClassDef) {m : Method} {r s : String} (hr : IsRegister r)
    (hs : ∀ x ∈ s.toList, isLiteralPart x = true) (hm : m.instructions = loads r s) (level : Int)
    (standalone : Bool) :
    ∃ l, LiteralAt (joinLines (methodLines c m level standalone)).toList.toArray l
      (beforeLiteral m level standalone r).length s := by
  obtain ⟨after, htext⟩ := joinLines_loads c hm level standalone
  have hopcode := quiet_append (quiet_indent (if standalone then level + 1 else level))
    (t := "const-string ") (List.all_eq_true.mp (by decide))
  have hpre := quiet_append (quiet_append hopcode hr.quiet)
    (t := ", ") (List.all_eq_true.mp (by decide))
  exact ⟨_, literalAt_of_line htext hpre hs⟩

end Dex

/-- A literal that a method loads has the colour of strings from its first quote to its last one,
but for the offsets that a comment is painted over: in assembly listings those from the first
number sign of the literal on, in pseudo-source those from the first two slashes on and those in
block comments, which may have begun anywhere. -/
theorem literal_colors (c : ClassDef) {m : Method} {r s : String} (hr : IsRegister r)
    (hs : ∀ x ∈ s.toList, x ≠ '"' ∧ x ≠ '\\' ∧ x ≠ '\n') (hm : m.instructions = loads r s)
    (level : Int) (standalone : Bool) :
    ((standalone = true → Java.hasBody m = true) →
      let text := joinLines (Java.methodLines c m level standalone)
      let before := Java.beforeLiteral c m level standalone r
      (∃ after, text = before ++ quoted s ++ after) ∧
      ∀ offset : Nat, before.length ≤ offset → offset < before.length + (quoted s).length →
        (Java.Commented text before.length offset →
          (highlighted text Java.rules).colorAt offset = some ⟨0x3f, 0x7f, 0x5f⟩) ∧
        (¬Java.Commented text before.length offset →
          (highlighted text Java.rules).colorAt offset = some ⟨0x2a, 0x00, 0xff⟩)) ∧
    let text := joinLines (Dex.methodLines c m level standalone)
    let before := Dex.beforeLiteral m level standalone r
    (∃ after, text = before ++ quoted s ++ after) ∧
    ∀ offset : Nat, before.length ≤ offset → offset < before.length + (quoted s).length →
      (Dex.Commented text before.length offset →
        (highlighted text Dex.rules).colorAt offset = some ⟨0x3f, 0x7f, 0x5f⟩) ∧
      (¬Dex.Commented text before.length offset →
        (highlighted text Dex.rules).colorAt offset = some ⟨0x2a, 0x00, 0xff⟩) := by
  have hparts : ∀ x ∈ s.toList, isLiteralPart x = true := by
    intro x hx
    obtain ⟨hquote, hescape, hbreak⟩ := hs x hx
    simp [isLiteralPart, hquote, hescape, hbreak]
  constructor
  · intro hbody text before
    obtain ⟨l, hat⟩ := Java.exists_literalAt c hr hparts hm level hbody
    exact ⟨Java.joinLines_loads c hm level hbody, fun offset => Java.colorAt_literal hat⟩
  · intro text before
    obtain ⟨l, hat⟩ := Dex.exists_literalAt c hr hparts hm level standalone
    exact ⟨Dex.joinLines_loads c hm level standalone, fun offset => Dex.colorAt_literal hat⟩

/-- A link has two slashes in it, and this one has a number sign too. -/
def loadsLink : Method where
  name := "f"
  instructions := loads "v0" "http://a#b"

def linkSource : String :=
  joinLines (Java.methodLines { name := "A" } loadsLink 0 true)

def linkListing : String :=
  joinLines (Dex.methodLines { name := "A" } loadsLink 0 true)

theorem isRegister_v0 : IsRegister "v0" :=
  ⟨'v', ['0'], rfl, .inl rfl, by decide, List.all_eq_true.mp (by decide +kernel)⟩

/-- The opening quote has the colour of strings, the host and the fragment that of comments. -/
theorem literal_colors_link :
    IsRegister "v0" ∧ (∀ x ∈ "http://a#b".toList, x ≠ '"' ∧ x ≠ '\\' ∧ x ≠ '\n') ∧
    loadsLink.instructions = loads "v0" "http://a#b" ∧ Java.hasBody loadsLink = true ∧
    (highlighted linkSource Java.rules).colorAt (20 : Nat) = some ⟨0x2a, 0x00, 0xff⟩ ∧
    (highlighted linkSource Java.rules).colorAt (28 : Nat) = some ⟨0x3f, 0x7f, 0x5f⟩ ∧
    (highlighted linkListing Dex.rules).colorAt (34 : Nat) = some ⟨0x2a, 0x00, 0xff⟩ ∧
    (highlighted linkListing Dex.rules).colorAt (44 : Nat) = some ⟨0x3f, 0x7f, 0x5f⟩ := by
  have hs : ∀ x ∈ "http://a#b".toList, x ≠ '"' ∧ x ≠ '\\' ∧ x ≠ '\n' := by simp
  have hbody : Java.hasBody loadsLink = true := by decide
  have hm : loadsLink.instructions = loads "v0" "http://a#b" := rfl
  obtain ⟨hsource, hlisting⟩ := literal_colors { name := "A" } isRegister_v0 hs hm 0 true
  have hsource := (hsource fun _ => hbody).2
  have hlisting := hlisting.2
  refine ⟨isRegister_v0, hs, hm, hbody, ?_, ?_, ?_, ?_⟩
  · refine (hsource 20 (by decide +kernel) (by decide +kernel)).2 ?_
    have hstart : (Java.beforeLiteral { name := "A" } loadsLink 0 true "v0").length = 20 := by
      decide +kernel
    have hblocks : Java.blockComments none 0 linkSource.toList = [] := by decide +kernel
    rintro (⟨k, hk, hk', -⟩ | ⟨range, hrange, -⟩)
    · omega
    · rw [show joinLines _ = linkSource from rfl, hblocks] at hrange
      cases hrange
  · refine (hsource 28 (by decide +kernel) (by decide +kernel)).1 (.inl ⟨26, ?_, ?_, ?_⟩)
    all_goals decide +kernel
  · refine (hlisting 34 (by decide +kernel) (by decide +kernel)).2 ?_
    have hstart : (Dex.beforeLiteral loadsLink 0 true "v0").length = 34 := by decide +kernel
    rintro ⟨k, hk, hk', -⟩
    omega
  · refine (hlisting 44 (by decide +kernel) (by decide +kernel)).1 ⟨43, ?_, ?_, ?_⟩
    all_goals decide +kernel

/-- Whether a literal behind a part of a text has the colour of strings at every offset. -/
def StringColored (text : String) (rules : List HighlightRule) (before s : String) : Prop :=
  ∀ offset : Nat, before.length ≤ offset → offset < before.length + (quoted s).length →
    (highlighted text rules).colorAt offset = some ⟨0x2a, 0x00, 0xff⟩

/-- Neither in pseudo-source nor in an assembly listing has all of this literal the colour of
strings. -/
theorem link_not_string_colored :
    IsRegister "v0" ∧ (∀ x ∈ "http://a#b".toList, x ≠ '"' ∧ x ≠ '\\' ∧ x ≠ '\n') ∧
    loadsLink.instructions = loads "v0" "http://a#b" ∧
    ¬StringColored linkSource Java.rules
      (Java.beforeLiteral { name := "A" } loadsLink 0 true "v0") "http://a#b" ∧
    ¬StringColored linkListing Dex.rules
      (Dex.beforeLiteral loadsLink 0 true "v0") "http://a#b" := by
  have hm : loadsLink.instructions = loads "v0" "http://a#b" := rfl
  have hparts : ∀ x ∈ "http://a#b".toList, isLiteralPart x = true :=
    List.all_eq_true.mp (by decide)
  refine ⟨isRegister_v0, by simp, hm, ?_, ?_⟩
  · intro h
    obtain ⟨l, hat⟩ := Java.exists_literalAt { name := "A" } isRegister_v0 hparts hm 0
      fun _ => (by decide : Java.hasBody loadsLink = true)
    have hle : (Java.beforeLiteral { name := "A" } loadsLink 0 true "v0").length ≤ 28 := by
      decide +kernel
    have hlt : 28 < (Java.beforeLiteral { name := "A" } loadsLink 0 true "v0").length +
        (quoted "http://a#b").length := by decide +kernel
    have hcolor := (Java.colorAt_literal hat hle hlt).1
      (.inl ⟨26, by decide +kernel, by decide, by decide +kernel⟩)
    cases (h 28 hle hlt).symm.trans hcolor
  · intro h
    obtain ⟨l, hat⟩ := Dex.exists_literalAt { name := "A" } isRegister_v0 hparts hm 0 true
    have hle : (Dex.beforeLiteral loadsLink 0 true "v0").length ≤ 44 := by decide +kernel
    have hlt : 44 < (Dex.beforeLiteral loadsLink 0 true "v0").length +
        (quoted "http://a#b").length := by decide +kernel
    have hcolor := (Dex.colorAt_literal hat hle hlt).1
      ⟨43, by decide +kernel, by decide, by decide +kernel⟩
    cases (h 44 hle hlt).symm.trans hcolor

end BytecodeViewer
