import BytecodeViewer.Proofs.Highlight.Marks
import BytecodeViewer.Proofs.Pattern.Nodes
import BytecodeViewer.Proofs.Render.Lines
import BytecodeViewer.Render.Dex.Rules

/-!
# Opcodes of assembly listings

The opcode rule goes by the shape of a line alone: a word at the margin, with an operand or the
end of the line behind it.  In the listing of a method these are the lines of the instructions:
directives begin with a dot, and behind the key of an annotation stands an equals sign.
-/

namespace BytecodeViewer

open Pattern (Node SetItem Outcome Successive Match)
open Text (hasAt IsRun Spells FreeOf)

variable {text : Array Char} {i j e g : Nat} {o : Outcome}

namespace Dex

/-! ## Opcodes in a text -/

def isMargin (c : Char) : Bool :=
  c == ' ' || c == '\t'

def isOpcodePart (c : Char) : Bool :=
  c.isLower || c.isDigit || c == '/' || c == '-'

theorem anyHolds_margin : SetItem.anyHolds [.char ' ', .char '\t'] = isMargin := by
  funext c
  simp [SetItem.anyHolds, SetItem.holds_char, isMargin]

theorem holds_lower (c : Char) : (SetItem.chars 'a' 'z').holds .exact c = c.isLower := by
  change _ = (decide (97 ≤ c.val) && decide (c.val ≤ 122))
  simp [SetItem.chars, SetItem.holds_range, UInt32.le_iff_toNat_le]

theorem holds_ascii_digit (c : Char) : (SetItem.chars '0' '9').holds .exact c = c.isDigit := by
  simp [SetItem.chars, SetItem.holds_range, Char.isDigit, UInt32.le_iff_toNat_le]

theorem anyHolds_lower : SetItem.anyHolds [.chars 'a' 'z'] = Char.isLower := by
  funext c
  simp [SetItem.anyHolds, holds_lower]

theorem anyHolds_opcode :
    SetItem.anyHolds [.chars 'a' 'z', .chars '0' '9', .char '/', .char '-'] = isOpcodePart := by
  funext c
  simp [SetItem.anyHolds, holds_lower, holds_ascii_digit, SetItem.holds_char, isOpcodePart,
    Bool.or_assoc]

/-- An opcode in the line that begins at a place. -/
structure OpcodeAt (text : Array Char) (i e g : Nat) : Prop where
  lineStart : i = 0 ∨ text[i - 1]? = some '\n'
  margin_lt : i < e
  margin : IsRun text isMargin i e
  first : hasAt text Char.isLower e = true
  lt : e < g
  parts : IsRun text isOpcodePart e g
  next : text[g]? = some ' ' ∧ hasAt text (· != '=') (g + 1) = true ∨
    g = text.size ∨ text[g]? = some '\n'

namespace OpcodeAt

theorem next_stop {p : Char → Bool} (h : OpcodeAt text i e g) (hblank : p ' ' = false)
    (hbreak : p '\n' = false) : hasAt text p g = false := by
  rcases h.next with ⟨hnext, -⟩ | hsize | hnext
  · rw [Text.hasAt_of_getElem? hnext, hblank]
  · exact Text.hasAt_of_size_le (Nat.le_of_eq hsize.symm)
  · rw [Text.hasAt_of_getElem? hnext, hbreak]

theorem stop (h : OpcodeAt text i e g) : hasAt text isOpcodePart g = false :=
  h.next_stop rfl rfl

theorem margin_stop (h : OpcodeAt text i e g) : hasAt text isMargin e = false := by
  refine Text.hasAt_eq_false_of_disjoint (fun c hc => ?_) h.first
  rw [← Bool.not_eq_true, isMargin, Bool.or_eq_true, beq_iff_eq, beq_iff_eq]
  rintro (rfl | rfl) <;> cases hc

/-- In each line there is one opcode at most. -/
theorem unique {e' g' : Nat} (h : OpcodeAt text i e g) (h' : OpcodeAt text i e' g') :
    e = e' ∧ g = g' := by
  obtain rfl := h.margin.end_unique h'.margin (Nat.le_of_lt h.margin_lt)
    (Nat.le_of_lt h'.margin_lt) h.margin_stop h'.margin_stop
  exact ⟨rfl, h.parts.end_unique h'.parts (Nat.le_of_lt h.lt) (Nat.le_of_lt h'.lt) h.stop h'.stop⟩

end OpcodeAt

theorem mem_outcomes_word {caps : Pattern.Captures} :
    o ∈ (Node.sequence [.oneOf [.chars 'a' 'z'],
      .many (.oneOf [.chars 'a' 'z', .chars '0' '9', .char '/', .char '-'])]).outcomes text i caps ↔
      hasAt text Char.isLower i = true ∧ (i < o.1 ∧ IsRun text isOpcodePart i o.1) ∧
        o.2 = caps := by
  have hpart (hlower : hasAt text Char.isLower i = true) : hasAt text isOpcodePart i = true := by
    refine Text.hasAt_mono (fun c hc => ?_) hlower
    simp [isOpcodePart, hc]
  constructor
  · intro h
    obtain ⟨_, hfirst, h⟩ := Node.mem_sequence_cons.mp h
    obtain ⟨_, hrest, h⟩ := Node.mem_sequence_cons.mp h
    obtain rfl := Node.mem_sequence_nil.mp h
    rw [Node.mem_oneOf, anyHolds_lower] at hfirst
    obtain ⟨hlower, rfl⟩ := hfirst
    rw [Node.mem_many_oneOf, anyHolds_opcode] at hrest
    obtain ⟨⟨hlt, hrun⟩, hcaps⟩ := hrest
    exact ⟨hlower, ⟨hlt, (Text.isRun_iff_of_lt hlt).mpr ⟨hpart hlower, hrun⟩⟩, hcaps⟩
  · rintro ⟨hlower, ⟨hlt, hrun⟩, hcaps⟩
    refine Node.mem_sequence_cons.mpr ⟨(i + 1, caps), ?_, ?_⟩
    · rw [Node.mem_oneOf, anyHolds_lower]
      exact ⟨hlower, rfl⟩
    · refine Node.mem_sequence_cons.mpr ⟨o, ?_, List.mem_singleton_self _⟩
      rw [Node.mem_many_oneOf, anyHolds_opcode]
      exact ⟨⟨hlt, ((Text.isRun_iff_of_lt hlt).mp hrun).2⟩, hcaps⟩

theorem mem_outcomes_lookahead {caps : Pattern.Captures} :
    o ∈ (Node.look .ahead false (.choice
      [.sequence [.just ' ', .other '='], .anchor .lineEnd])).outcomes text i caps ↔
      (text[i]? = some ' ' ∧ hasAt text (· != '=') (i + 1) = true ∨
        i = text.size ∨ text[i]? = some '\n') ∧ o = (i, caps) := by
  have hbody (o' : Outcome) : o' ∈ (Node.choice
      [.sequence [.just ' ', .other '='], .anchor .lineEnd]).outcomes text i caps ↔
      (text[i]? = some ' ' ∧ hasAt text (· != '=') (i + 1) = true) ∧ o' = (i + 2, caps) ∨
        (i = text.size ∨ text[i]? = some '\n') ∧ o' = (i, caps) := by
    rw [Node.mem_choice (List.cons_ne_nil _ _)]
    simp only [List.mem_cons, List.not_mem_nil, or_false, exists_eq_or_imp, exists_eq_left,
      Node.mem_sequence_cons, Node.mem_sequence_nil, Node.mem_just, Node.mem_other,
      Node.mem_anchor, Pattern.Anchor.holds, Bool.or_eq_true, beq_iff_eq]
    simp only [and_assoc, exists_eq_left, exists_and_left]
  rw [Node.mem_look_ahead]
  constructor
  · rintro ⟨o', hfirst, rfl⟩
    rcases (hbody o').mp (List.mem_of_head? hfirst) with ⟨hnext, rfl⟩ | ⟨hnext, rfl⟩
    · exact ⟨.inl hnext, rfl⟩
    · exact ⟨.inr hnext, rfl⟩
  · rintro ⟨hnext, rfl⟩
    -- Whatever is found there first, nothing is captured in it.
    obtain ⟨o', ho'⟩ : ∃ o', o' ∈ (Node.choice
        [.sequence [.just ' ', .other '='], .anchor .lineEnd]).outcomes text i caps := by
      rcases hnext with hnext | hnext
      · exact ⟨_, (hbody _).mpr (.inl ⟨hnext, rfl⟩)⟩
      · exact ⟨_, (hbody _).mpr (.inr ⟨hnext, rfl⟩)⟩
    obtain ⟨first, hfirst⟩ := Option.ne_none_iff_exists'.mp
      (mt List.head?_eq_none_iff.mp (List.ne_nil_of_mem ho'))
    refine ⟨first, hfirst, ?_⟩
    rcases (hbody first).mp (List.mem_of_head? hfirst) with ⟨-, rfl⟩ | ⟨-, rfl⟩ <;> rfl

theorem mem_outcomes_opcodePattern :
    o ∈ opcodePattern.root.outcomes text i [] ↔
      ∃ e, OpcodeAt text i e o.1 ∧ o.2 = [(1, e, o.1)] := by
  have hlineStart : Pattern.Anchor.lineStart.holds text i = true ↔
      i = 0 ∨ text[i - 1]? = some '\n' := by
    rw [Pattern.Anchor.holds, Bool.or_eq_true, beq_iff_eq, beq_iff_eq]
  constructor
  · intro h
    obtain ⟨_, hanchor, h⟩ := Node.mem_sequence_cons.mp h
    obtain ⟨hstart, rfl⟩ := Node.mem_anchor.mp hanchor
    obtain ⟨margin, hmargin, h⟩ := Node.mem_sequence_cons.mp h
    obtain ⟨_, hgroup, h⟩ := Node.mem_sequence_cons.mp h
    obtain ⟨word, hword, rfl⟩ := Node.mem_group.mp hgroup
    obtain ⟨_, hlook, h⟩ := Node.mem_sequence_cons.mp h
    obtain ⟨hnext, rfl⟩ := mem_outcomes_lookahead.mp hlook
    obtain rfl := Node.mem_sequence_nil.mp h
    rw [Dex.margin, Node.mem_several_oneOf, anyHolds_margin] at hmargin
    obtain ⟨⟨hmarginLt, hmarginRun⟩, hmarginCaps⟩ := hmargin
    obtain ⟨hfirst, ⟨hlt, hparts⟩, hcaps⟩ := mem_outcomes_word.mp hword
    refine ⟨margin.1, ⟨hlineStart.mp hstart, hmarginLt, hmarginRun, hfirst, hlt, hparts, hnext⟩, ?_⟩
    rw [hcaps, hmarginCaps]
  · rintro ⟨e, h, hcaps⟩
    refine Node.mem_sequence_cons.mpr
      ⟨_, Node.mem_anchor.mpr ⟨hlineStart.mpr h.lineStart, rfl⟩, ?_⟩
    refine Node.mem_sequence_cons.mpr ⟨(e, []), ?_, ?_⟩
    · rw [Dex.margin, Node.mem_several_oneOf, anyHolds_margin]
      exact ⟨⟨h.margin_lt, h.margin⟩, rfl⟩
    have hword : (o.1, []) ∈ (Node.sequence [.oneOf [.chars 'a' 'z'],
        .many (.oneOf [.chars 'a' 'z', .chars '0' '9', .char '/', .char '-'])]).outcomes
          text e [] := mem_outcomes_word.mpr ⟨h.first, ⟨h.lt, h.parts⟩, rfl⟩
    refine Node.mem_sequence_cons.mpr ⟨_, Node.mem_group.mpr ⟨_, hword, rfl⟩, ?_⟩
    refine Node.mem_sequence_cons.mpr ⟨_, mem_outcomes_lookahead.mpr ⟨h.next, rfl⟩, ?_⟩
    exact Node.mem_sequence_nil.mpr (Prod.ext rfl hcaps)

theorem first?_opcodePattern :
    opcodePattern.first? text i = some o ↔ ∃ e, OpcodeAt text i e o.1 ∧ o.2 = [(1, e, o.1)] := by
  rw [Pattern.first?_eq_some_iff, mem_outcomes_opcodePattern]
  intro o ho o' ho'
  obtain ⟨e, hat, hcaps⟩ := mem_outcomes_opcodePattern.mp ho
  obtain ⟨e', hat', hcaps'⟩ := mem_outcomes_opcodePattern.mp ho'
  obtain ⟨rfl, hstop⟩ := hat.unique hat'
  exact Prod.ext hstop (by rw [hcaps, hcaps', hstop])

theorem first?_opcodePattern_eq_none_iff :
    opcodePattern.first? text i = none ↔ ∀ e g, ¬OpcodeAt text i e g := by
  rw [Option.eq_none_iff_forall_ne_some]
  constructor
  · intro h e g hat
    exact h (g, [(1, e, g)]) (first?_opcodePattern.mpr ⟨e, hat, rfl⟩)
  · intro h o ho
    obtain ⟨e, hat, -⟩ := first?_opcodePattern.mp ho
    exact h e o.1 hat

theorem opcodePattern_marks (text : Array Char) : opcodePattern.Marks text where
  consumes := by
    intro i o ho
    obtain ⟨e, hat, -⟩ := mem_outcomes_opcodePattern.mp ho
    exact Nat.lt_trans hat.margin_lt hat.lt
  groups := Nat.one_ne_zero
  group := by
    intro i o hfirst
    obtain ⟨e, hat, hcaps⟩ := first?_opcodePattern.mp hfirst
    exact ⟨e, o.1, by rw [hcaps]; rfl, Nat.le_of_lt hat.margin_lt, hat.lt, Nat.le_refl _⟩

/-! ## Lines -/

/-- Opcodes are in lines that begin where the search is. -/
theorem not_opcodeAt_inside {line : String} (hline : FreeOf '\n' line)
    (h : Spells text i line.toList) {k : Nat} (hik : i < k) (hk : k ≤ i + line.length) :
    ¬OpcodeAt text k e g := by
  intro hat
  have hrun : IsRun text (· != '\n') i (i + line.toList.length) := by
    refine h.isRun fun c hc => ?_
    rw [bne_iff_ne]
    exact fun heq => hline (heq ▸ hc)
  rw [String.length_toList] at hrun
  have hbefore := hrun (k - 1) (by omega) (by omega)
  rcases hat.lineStart with hzero | hbreak
  · omega
  · rw [Text.hasAt_of_getElem? hbreak] at hbefore
    cases hbefore

/-- A line in which no opcode is found. -/
def OpcodeFree (line : String) : Prop :=
  FreeOf '\n' line ∧ ∀ text i, Spells text i line.toList → ∀ e g, ¬OpcodeAt text i e g

theorem isMargin_of_mem_indent {level : Int} : ∀ c ∈ (indent level).toList, isMargin c = true := by
  intro c hc
  rw [indent, String.toList_ofList, List.mem_replicate] at hc
  rw [hc.2]
  rfl

theorem opcodeFree_directive (level : Int) {s : String} (hs : FreeOf '\n' s)
    (hdot : s.toList.head? = some '.') : OpcodeFree (indent level ++ s) := by
  refine ⟨(unbroken_indent level).append hs, fun text i hspells e g hat => ?_⟩
  rw [String.toList_append, Text.spells_append] at hspells
  obtain ⟨cs, hcs⟩ := List.head?_eq_some_iff.mp hdot
  rw [hcs] at hspells
  have hpad := hspells.1.isRun isMargin_of_mem_indent
  have hfirst : text[i + (indent level).toList.length]? = some '.' := hspells.2.1
  have hstop : hasAt text isMargin (i + (indent level).toList.length) = false :=
    Text.hasAt_of_getElem? hfirst isMargin
  obtain rfl := hat.margin.end_unique hpad (Nat.le_of_lt hat.margin_lt) (Nat.le_add_right _ _)
    hat.margin_stop hstop
  have hlower := hat.first
  rw [Text.hasAt_of_getElem? hfirst] at hlower
  cases hlower

/-- What looks like an opcode would be the word, and an equals sign follows that. -/
theorem not_opcodeAt_of_equals {p q : Nat} (hip : i ≤ p) (hpq : p ≤ q)
    (margin : IsRun text isMargin i p) (word : IsRun text (fun c => c != ' ' && c != '\n') p q)
    (blank : text[q]? = some ' ') (equals : text[q + 1]? = some '=') : ¬OpcodeAt text i e g := by
  intro hat
  have hpe : p ≤ e := margin.le_of_stop (Nat.le_of_lt hat.margin_lt) hat.margin_stop
  have heq : e ≤ q := by
    have hle : e ≤ q + 1 := hat.margin.le_of_stop (by omega) (Text.hasAt_of_getElem? equals _)
    refine Nat.le_of_lt_succ (Nat.lt_of_le_of_ne hle ?_)
    rintro rfl
    have hfirst := hat.first
    rw [Text.hasAt_of_getElem? equals] at hfirst
    cases hfirst
  obtain rfl : g = q := Nat.le_antisymm
    (hat.parts.le_of_stop heq (Text.hasAt_of_getElem? blank _))
    (word.le_of_stop (Nat.le_trans hpe (Nat.le_of_lt hat.lt)) (hat.next_stop rfl rfl))
  rcases hat.next with ⟨-, hnext⟩ | hsize | hnext
  · rw [Text.hasAt_of_getElem? equals] at hnext
    cases hnext
  · rw [hsize, Array.getElem?_size] at blank
    cases blank
  · cases blank.symm.trans hnext

theorem opcodeFree_element (level : Int) {key value : String} (hkey : FreeOf '\n' key)
    (hblank : FreeOf ' ' key) (hvalue : FreeOf '\n' value) :
    OpcodeFree (indent level ++ key ++ " = " ++ value) := by
  have hpadKey := (unbroken_indent level).append hkey
  refine ⟨(hpadKey.append (t := " = ") (by decide)).append hvalue, fun text i hspells e g hat => ?_⟩
  simp only [String.toList_append, Text.spells_append, List.length_append] at hspells
  obtain ⟨⟨⟨hpad, hword⟩, hequals⟩, -⟩ := hspells
  have hpadRun := hpad.isRun isMargin_of_mem_indent
  have hwordRun : IsRun text (fun c => c != ' ' && c != '\n')
      (i + (indent level).toList.length)
      (i + (indent level).toList.length + key.toList.length) := by
    refine hword.isRun fun c hc => ?_
    rw [Bool.and_eq_true, bne_iff_ne, bne_iff_ne]
    exact ⟨fun heq => hblank (heq ▸ hc), fun heq => hkey (heq ▸ hc)⟩
  rw [← Nat.add_assoc] at hequals
  exact not_opcodeAt_of_equals (Nat.le_add_right _ _) (Nat.le_add_right _ _) hpadRun hwordRun
    hequals.1 hequals.2.1 hat

/-- A text that can stand as an opcode. -/
def IsOpcode (s : String) : Prop :=
  ∃ c cs, s.toList = c :: cs ∧ c.isLower = true ∧ ∀ d ∈ cs, isOpcodePart d = true

theorem IsOpcode.ne_empty {s : String} (h : IsOpcode s) : s ≠ "" := by
  obtain ⟨c, cs, hs, -⟩ := h
  rintro rfl
  cases hs

theorem IsOpcode.isOpcodePart {s : String} (h : IsOpcode s) :
    ∀ c ∈ s.toList, isOpcodePart c = true := by
  obtain ⟨c, cs, hs, hc, hcs⟩ := h
  rw [hs]
  intro d hd
  rcases List.mem_cons.mp hd with rfl | hd
  · simp [Dex.isOpcodePart, hc]
  · exact hcs d hd

def operandText (x : Instruction) : String :=
  String.intercalate ", " x.operands

theorem instructionText_eq {x : Instruction} (h : x.opcode ≠ "") :
    instructionText x =
      x.opcode ++ if operandText x = "" then "" else " " ++ operandText x := by
  have hoperands : Text.joinNonempty [operandText x] = operandText x := by
    by_cases hempty : operandText x = "" <;> simp [Text.joinNonempty, hempty]
  change Text.joinNonempty (x.opcode :: [operandText x]) = _
  rw [joinNonempty_cons h, hoperands]
  split
  · rw [String.append_empty]
  · rw [String.append_assoc]

def instructionLine (level : Int) (x : Instruction) : String :=
  indent level ++ instructionText x

theorem opcode_within (level : Int) {x : Instruction} (h : x.opcode ≠ "") :
    (indent level).length + x.opcode.length ≤ (instructionLine level x).length := by
  rw [instructionLine, instructionText_eq h, String.length_append, String.length_append]
  omega

theorem spells_opcode {level : Int} {x : Instruction} (h : x.opcode ≠ "")
    (hspells : Spells text i (instructionLine level x).toList) :
    Spells text (i + (indent level).length) x.opcode.toList := by
  rw [instructionLine, instructionText_eq h, String.toList_append, String.toList_append,
    Text.spells_append, Text.spells_append, String.length_toList] at hspells
  exact hspells.2.1

theorem opcodeAt_instruction {level : Int} (hlevel : 0 < level) {x : Instruction}
    (hopcode : IsOpcode x.opcode) (hequals : (operandText x).toList.head? ≠ some '=')
    (hstart : i = 0 ∨ text[i - 1]? = some '\n')
    (h : Spells text i ((instructionLine level x).toList ++ ['\n'])) :
    OpcodeAt text i (i + (indent level).length)
      (i + (indent level).length + x.opcode.length) := by
  have hmargin : 0 < (indent level).length := by
    rw [length_indent]
    omega
  have hlength : 0 < x.opcode.length := by
    rw [← String.length_toList]
    exact List.length_pos_iff.mpr (mt String.toList_eq_nil_iff.mp hopcode.ne_empty)
  rw [instructionLine, instructionText_eq hopcode.ne_empty] at h
  simp only [String.toList_append, Text.spells_append, List.length_append, String.length_toList]
    at h
  obtain ⟨⟨hpad, hword, hoperands⟩, hbreak⟩ := h
  have hpadRun := hpad.isRun isMargin_of_mem_indent
  have hwordRun := hword.isRun hopcode.isOpcodePart
  rw [String.length_toList] at hpadRun hwordRun
  obtain ⟨c, cs, hcs, hlower, -⟩ := hopcode
  have hfirst : text[i + (indent level).length]? = some c := by
    rw [hcs] at hword
    exact hword.1
  refine ⟨hstart, by omega, hpadRun, ?_, by omega, hwordRun, ?_⟩
  · rw [Text.hasAt_of_getElem? hfirst, hlower]
  by_cases hnone : operandText x = ""
  · rw [if_pos hnone, String.length_empty, Nat.add_zero, ← Nat.add_assoc] at hbreak
    exact .inr (.inr hbreak.1)
  · rw [if_neg hnone, String.toList_append] at hoperands
    obtain ⟨d, ds, hds⟩ := List.exists_cons_of_ne_nil (mt String.toList_eq_nil_iff.mp hnone)
    rw [hds] at hoperands hequals
    refine .inl ⟨hoperands.1, ?_⟩
    rw [Text.hasAt_of_getElem? hoperands.2.1, bne_iff_ne]
    exact fun heq => hequals (by rw [heq, List.head?_cons])

/-! ## Methods -/

/-- The ranges of the opcodes of instructions that are printed from an offset on. -/
def opcodePlaces (level : Int) : Nat → List Instruction → List (Nat × Nat)
  | _, [] => []
  | offset, x :: xs =>
    let start := offset + (indent level).length
    (start, start + x.opcode.length) ::
      opcodePlaces level (offset + (instructionLine level x).length + 1) xs

/-- At its place each opcode is to be read. -/
theorem opcodePlaces_spells {level : Int} {xs : List Instruction}
    (hopcodes : ∀ x ∈ xs, x.opcode ≠ "")
    (hspells : Spells text i (joinLines (xs.map (instructionLine level))).toList) :
    List.Forall₂ (fun p x => Spells text p.1 x.opcode.toList ∧ p.2 = p.1 + x.opcode.length)
      (opcodePlaces level i xs) xs := by
  induction xs generalizing i with
  | nil => exact .nil
  | cons x xs ih =>
      rw [List.map_cons] at hspells
      obtain ⟨hline, hrest⟩ := spells_joinLines_cons hspells
      have hopcode := spells_opcode (hopcodes x List.mem_cons_self) (Text.spells_append.mp hline).1
      exact .cons ⟨hopcode, rfl⟩ (ih (fun y hy => hopcodes y (List.mem_cons_of_mem _ hy)) hrest)

theorem opcodePlaces_within {level : Int} {xs : List Instruction}
    (hopcodes : ∀ x ∈ xs, x.opcode ≠ "") :
    ∀ p ∈ opcodePlaces level i xs,
      i ≤ p.1 ∧ p.2 ≤ i + (joinLines (xs.map (instructionLine level))).length := by
  induction xs generalizing i with
  | nil => exact fun p hp => absurd hp List.not_mem_nil
  | cons x xs ih =>
      intro p hp
      have hwithin := opcode_within level (hopcodes x List.mem_cons_self)
      rw [List.map_cons, length_joinLines_cons]
      rcases List.mem_cons.mp hp with rfl | hp
      · simp only
        omega
      · have := ih (fun y hy => hopcodes y (List.mem_cons_of_mem _ hy)) p hp
        omega

variable {mustAdvance : Bool} {ms : List Match}

/-- Lines without opcodes are passed over. -/
theorem successive_of_opcodeFree {lines : List String} (hlines : ∀ line ∈ lines, OpcodeFree line)
    (hspells : Spells text i (joinLines lines).toList)
    (h : Successive opcodePattern text mustAdvance (i + (joinLines lines).length) ms) :
    Successive opcodePattern text false i ms := by
  have hconsumes := (opcodePattern_marks text).consumes
  induction lines generalizing i with
  | nil => exact Successive.skip hconsumes (Nat.le_refl i) (fun k hik hk => by omega) h false
  | cons line lines ih =>
      obtain ⟨hline, hrest⟩ := spells_joinLines_cons hspells
      rw [length_joinLines_cons, ← Nat.add_assoc] at h
      have hlater := ih (fun l hl => hlines l (List.mem_cons_of_mem _ hl)) hrest h
      obtain ⟨hunbroken, hfree⟩ := hlines line List.mem_cons_self
      have hline := (Text.spells_append.mp hline).1
      refine hlater.skip hconsumes (Nat.le_add_right _ _) (fun k hik hk => ?_) false
      refine first?_opcodePattern_eq_none_iff.mpr fun e g => ?_
      rcases Nat.eq_or_lt_of_le hik with rfl | hlt
      · exact hfree text i hline e g
      · exact not_opcodeAt_inside hunbroken hline hlt (by omega)

/-- In the lines of instructions their opcodes are found. -/
theorem successive_instructions {level : Int} (hlevel : 0 < level) {xs : List Instruction}
    (hunbroken : ∀ x ∈ xs, FreeOf '\n' (instructionText x))
    (hopcodes : ∀ x ∈ xs, IsOpcode x.opcode)
    (hoperands : ∀ x ∈ xs, (operandText x).toList.head? ≠ some '=')
    (hstart : i = 0 ∨ text[i - 1]? = some '\n')
    (hspells : Spells text i (joinLines (xs.map (instructionLine level))).toList)
    (h : Successive opcodePattern text false
      (i + (joinLines (xs.map (instructionLine level))).length) ms) :
    ∃ ms', Successive opcodePattern text false i (ms' ++ ms) ∧
      ms'.map (·.group? 1) = (opcodePlaces level i xs).map some := by
  have hconsumes := (opcodePattern_marks text).consumes
  induction xs generalizing i with
  | nil => exact ⟨[], h, rfl⟩
  | cons x xs ih =>
      rw [List.map_cons] at hspells h
      obtain ⟨hline, hrest⟩ := spells_joinLines_cons hspells
      rw [length_joinLines_cons, ← Nat.add_assoc] at h
      have hbreak : text[i + ((instructionLine level x).length + 1) - 1]? = some '\n' := by
        rw [← Nat.add_assoc, Nat.add_sub_cancel, ← String.length_toList]
        exact (Text.spells_append.mp hline).2.1
      obtain ⟨ms', hlater, hplaces⟩ := ih (fun y hy => hunbroken y (List.mem_cons_of_mem _ hy))
        (fun y hy => hopcodes y (List.mem_cons_of_mem _ hy))
        (fun y hy => hoperands y (List.mem_cons_of_mem _ hy)) (.inr hbreak) hrest h
      have hat := opcodeAt_instruction hlevel (hopcodes x List.mem_cons_self)
        (hoperands x List.mem_cons_self) hstart hline
      have hwithin := opcode_within level (hopcodes x List.mem_cons_self).ne_empty
      have hfirst : opcodePattern.first? text i = some
          (i + (indent level).length + x.opcode.length,
            [(1, i + (indent level).length, i + (indent level).length + x.opcode.length)]) :=
        first?_opcodePattern.mpr ⟨_, hat, rfl⟩
      have hbehind : Successive opcodePattern text false
          (i + (indent level).length + x.opcode.length) (ms' ++ ms) := by
        refine hlater.skip hconsumes (by omega) (fun k hik hk => ?_) false
        refine first?_opcodePattern_eq_none_iff.mpr fun e g => ?_
        have hwhole : FreeOf '\n' (instructionLine level x) :=
          (unbroken_indent level).append (hunbroken x List.mem_cons_self)
        exact not_opcodeAt_inside hwhole (Text.spells_append.mp hline).1
          (Nat.lt_of_lt_of_le (Nat.lt_trans hat.margin_lt hat.lt) hik) (by omega)
      refine ⟨_ :: ms', hbehind.cons hconsumes ?_ hfirst false, ?_⟩
      · have := Text.lt_size_of_hasAt hat.first
        omega
      · rw [List.map_cons, hplaces]
        rfl

/-! ## The listing of a method -/

/-- A method whose listing can be told apart into lines, and these into instructions and others. -/
structure Listable (m : Method) : Prop where
  unbroken : m.Unbroken
  keys : ∀ a ∈ m.annotations, ∀ e ∈ a.elements, FreeOf ' ' e.1
  opcodes : ∀ x ∈ m.instructions, IsOpcode x.opcode
  operands : ∀ x ∈ m.instructions, (operandText x).toList.head? ≠ some '='

/-- The lines of a body above its instructions. -/
def bodyHead (level : Int) (m : Method) : List String :=
  (if m.registers ≠ 0 then [indent level ++ ".registers " ++ toString m.registers] else []) ++
    m.annotations.flatMap (annotationLines level)

/-- The lines of a method above its instructions. -/
def headLines (level : Int) (m : Method) : List String :=
  (indent level ++ Text.joinNonempty [".method", m.access.listing, prototype m]) ::
    bodyHead (level + 1) m

theorem bodyLines_eq (level : Int) (m : Method) :
    bodyLines level m = bodyHead level m ++ m.instructions.map (instructionLine level) := rfl

theorem methodLines_eq (c : ClassDef) (m : Method) (level : Int) :
    methodLines c m level true = headLines level m ++
      m.instructions.map (instructionLine (level + 1)) ++ [indent level ++ ".end method"] := by
  rw [methodLines, if_pos rfl, methodBlock, bodyLines_eq]
  rfl

theorem opcodeFree_headLines {m : Method} (h : Listable m) (level : Int) :
    ∀ line ∈ headLines level m, OpcodeFree line := by
  intro line hline
  rcases List.mem_cons.mp hline with rfl | hline
  · refine opcodeFree_directive level (.joinNonempty (by decide) fun s hs => ?_) ?_
    · rcases List.mem_cons.mp hs with rfl | hs
      · decide
      rcases List.mem_cons.mp hs with rfl | hs
      · exact m.access.unbroken_words _
      · rw [List.mem_singleton.mp hs]
        exact unbroken_prototype h.unbroken
    · rw [joinNonempty_cons (by decide)]
      split
      · rfl
      · rw [String.append_assoc, String.toList_append]
        rfl
  rcases List.mem_append.mp hline with hregisters | hannotations
  · split at hregisters
    · rw [List.mem_singleton.mp hregisters, String.append_assoc]
      refine opcodeFree_directive _ ?_ ?_
      · exact Text.FreeOf.append (by decide) (.toString (by decide) (by decide) _)
      · rw [String.toList_append]
        rfl
    · cases hregisters
  · obtain ⟨a, ha, hline⟩ := List.mem_flatMap.mp hannotations
    have hunbroken := h.unbroken.annotations a ha
    rcases List.mem_cons.mp hline with rfl | hline
    · simp only [String.append_assoc]
      refine opcodeFree_directive _ ?_ ?_
      · exact Text.FreeOf.append (by decide) (hunbroken.visibility.append
          (Text.FreeOf.append (by decide) (TypeName.unbroken_descriptor hunbroken.typeName)))
      · rw [String.toList_append]
        rfl
    rcases List.mem_append.mp hline with helements | hend
    · obtain ⟨e, he, rfl⟩ := List.mem_map.mp helements
      have helement := hunbroken.elements e he
      exact opcodeFree_element _ helement.1 (h.keys a ha e he) helement.2
    · rw [List.mem_singleton.mp hend]
      exact opcodeFree_directive _ (by decide) rfl

/-- The opcode rule colours the opcodes of a method, in their order and where they are printed,
and nothing in the lines of the declaration, the annotations or their elements. -/
theorem opcode_spans (c : ClassDef) {m : Method} (h : Listable m) (n : Nat) :
    let above := joinLines (headLines n m)
    let instructions := joinLines (m.instructions.map (instructionLine (n + 1)))
    let text := joinLines (methodLines c m n true)
    let places := opcodePlaces (n + 1) above.length m.instructions
    text = above ++ instructions ++ joinLines [indent n ++ ".end method"] ∧
      (highlight text rules).filter (fun s => s.rule = 1) =
        places.map (fun p => ⟨p.1, p.2, ⟨0x00, 0x00, 0x7f⟩, 1⟩) ∧
      List.Forall₂ (fun p x => Spells text.toList.toArray p.1 x.opcode.toList ∧
        p.2 = p.1 + x.opcode.length) places m.instructions ∧
      ∀ p ∈ places, above.length ≤ p.1 ∧ p.2 ≤ above.length + instructions.length := by
  intro above instructions text places
  have htext : text = above ++ instructions ++ joinLines [indent n ++ ".end method"] := by
    simp only [text, above, instructions, methodLines_eq, joinLines_append]
  have hparts : Spells text.toList.toArray 0
      (above ++ instructions ++ joinLines [indent n ++ ".end method"]).toList := by
    rw [← htext]
    exact Text.spells_self _
  simp only [String.toList_append, Text.spells_append, List.length_append, String.length_toList,
    Nat.zero_add] at hparts
  obtain ⟨⟨habove, hinstructions⟩, hend⟩ := hparts
  have hopcodes : ∀ x ∈ m.instructions, x.opcode ≠ "" := fun x hx => (h.opcodes x hx).ne_empty
  refine ⟨htext, ?_, opcodePlaces_spells hopcodes hinstructions, opcodePlaces_within hopcodes⟩
  -- The search passes over the first lines, goes through the instructions and passes over the end.
  have hlength : text.toList.toArray.size = above.length + instructions.length +
      (joinLines [indent n ++ ".end method"]).length := by
    rw [List.size_toArray, String.length_toList, htext, String.length_append, String.length_append]
  have hlast := Successive.nil_of_size (opcodePattern_marks text.toList.toArray).consumes false
  rw [hlength] at hlast
  have hbelow := successive_of_opcodeFree (fun line hline => by
    rw [List.mem_singleton.mp hline]
    exact opcodeFree_directive n (by decide) rfl) hend hlast
  have hstart := lineStart_of_spells (.inl rfl) habove
  rw [Nat.zero_add] at hstart
  obtain ⟨ms, hbetween, hplaces⟩ := successive_instructions (show (0 : Int) < n + 1 by omega)
    (fun x hx => unbroken_instructionText h.unbroken hx) h.opcodes h.operands hstart
    hinstructions hbelow
  rw [← Nat.zero_add above.length] at hbetween
  have hsearch := successive_of_opcodeFree (opcodeFree_headLines h n) habove hbetween
  have hrule : rules[1]? = some ⟨opcodePattern, ⟨0x00, 0x00, 0x7f⟩⟩ := rfl
  have hmarks := opcodePattern_marks text.toList.toArray
  have hspans := filter_rule_highlight_of_marks hrule hmarks
  rw [HighlightRule.spans, HighlightRule.ranges_of_search hmarks hsearch
    (by rw [List.append_nil, hplaces])] at hspans
  exact hspans

/-- The element of the annotation reads like an instruction up to its equals sign. -/
def annotatedMethod : Method where
  name := "run"
  parameters := [⟨"int", some "count"⟩]
  annotations := [⟨"a.Note", "runtime", [("nop", "\"return v0\"")]⟩]
  registers := 2
  instructions := [⟨"const/4", ["v0", "0x1"]⟩, ⟨"nop", []⟩, ⟨"if-eq", ["v0", "p1", "= 4"]⟩]

theorem annotatedMethod_listable : Listable annotatedMethod where
  unbroken := {
    name := by decide
    returnType := by decide
    parameters := by decide
    annotations := fun a ha => by
      rw [List.mem_singleton.mp ha]
      exact ⟨by decide, by decide, by decide⟩
    instructions := by decide }
  keys := by decide
  opcodes := by
    have hopcodes : ∀ s ∈ annotatedMethod.instructions.map (·.opcode), IsOpcode s := by
      intro s hs
      simp only [annotatedMethod, List.map_cons, List.map_nil, List.mem_cons, List.not_mem_nil,
        or_false] at hs
      rcases hs with rfl | rfl | rfl <;>
        exact ⟨_, _, rfl, by decide, List.all_eq_true.mp (by decide)⟩
    exact fun x hx => hopcodes _ (List.mem_map_of_mem hx)
  operands := by decide

theorem opcode_spans_annotated : Listable annotatedMethod ∧
    (highlight (joinLines (methodLines { name := "A" } annotatedMethod 1 true)) rules).filter
      (fun s => s.rule = 1) =
      [⟨140, 147, ⟨0x00, 0x00, 0x7f⟩, 1⟩, ⟨164, 167, ⟨0x00, 0x00, 0x7f⟩, 1⟩,
        ⟨176, 181, ⟨0x00, 0x00, 0x7f⟩, 1⟩] := by
  have h := (opcode_spans { name := "A" } annotatedMethod_listable 1).2.1
  exact ⟨annotatedMethod_listable, h.trans (by decide +kernel)⟩

end Dex

end BytecodeViewer
