import BytecodeViewer.Proofs.Highlight.Marks
import BytecodeViewer.Proofs.Pattern.Nodes
import BytecodeViewer.Render.Java.Rules

/-!
# Keywords of pseudo-source

The keyword rule colours the words of a text that are keywords, each as a whole, and no part of
any other word.  That some keywords begin like others does not matter, since a match has to end
where its word does.
-/

namespace BytecodeViewer

open Pattern (Node Outcome Captures)
open Text (hasAt IsRun MaximalRun Spells isWord)

variable {text : Array Char} {i j : Nat} {o : Outcome}

namespace Pattern

/-! ## Edges of words -/

theorem isWordEdge_eq (text : Array Char) (i : Nat) :
    isWordEdge text false i =
      ((decide (0 < i) && hasAt text isWord (i - 1)) != hasAt text isWord i) := rfl

theorem isWordEdge_of_hasAt (h : hasAt text isWord i = true) :
    isWordEdge text false i = true ↔ (0 < i → hasAt text isWord (i - 1) = false) := by
  rw [isWordEdge_eq, h]
  by_cases hi : 0 < i <;> simp [hi]

theorem isWordEdge_of_hasAt_before (hi : 0 < i) (h : hasAt text isWord (i - 1) = true) :
    isWordEdge text false i = true ↔ hasAt text isWord i = false := by
  simp [isWordEdge_eq, h, hi]

/-- A run of word characters between two edges is a whole word. -/
theorem maximalRun_iff_isWordEdge (hij : i < j) (hrun : IsRun text isWord i j) :
    MaximalRun text isWord i j ↔
      isWordEdge text false i = true ∧ isWordEdge text false j = true := by
  rw [isWordEdge_of_hasAt (hrun i (Nat.le_refl i) hij),
    isWordEdge_of_hasAt_before (by omega) (hrun (j - 1) (by omega) (by omega))]
  exact ⟨fun h => ⟨h.before, h.after⟩, fun h => ⟨hij, hrun, h.1, h.2⟩⟩

end Pattern

namespace Java

theorem keywords_isWord : ∀ w ∈ keywords, w.toList ≠ [] ∧ ∀ c ∈ w.toList, isWord c = true := by
  have hascii : ∀ w ∈ keywords, w.toList ≠ [] ∧ w.toList.all Text.isAsciiWord = true := by decide
  exact fun w hw => (hascii w hw).imp_right fun h c hc =>
    Text.isWord_of_isAsciiWord (List.all_eq_true.mp h c hc)

/-- A whole word that is a keyword. -/
structure KeywordAt (text : Array Char) (i j : Nat) : Prop where
  word : MaximalRun text isWord i j
  keyword : String.ofList (text.toList.extract i j) ∈ keywords

theorem keywordAt_iff : KeywordAt text i j ↔ MaximalRun text isWord i j ∧
    ∃ w ∈ keywords, Spells text i w.toList ∧ j = i + w.length := by
  constructor
  · rintro ⟨hword, hkeyword⟩
    have hlength : i + (text.toList.extract i j).length = j := by
      have := hword.lt
      have := hword.le_size
      rw [List.extract_eq_take_drop, List.length_take, List.length_drop, Array.length_toList]
      omega
    refine ⟨hword, _, hkeyword, ?_, ?_⟩
    · rw [String.toList_ofList, Text.spells_iff_extract, hlength]
    · rw [String.length_ofList, hlength]
  · rintro ⟨hword, w, hw, hspells, rfl⟩
    rw [Text.spells_iff_extract, String.length_toList] at hspells
    refine ⟨hword, ?_⟩
    rwa [hspells, String.ofList_toList]

theorem mem_outcomes_keywords :
    o ∈ (Node.choice (keywords.map .word)).outcomes text i [] ↔
      ∃ w ∈ keywords, Spells text i w.toList ∧ o = (i + w.length, []) := by
  rw [Node.mem_choice (by decide)]
  simp only [List.mem_map, exists_exists_and_eq_and, Node.mem_word]

theorem mem_outcomes_keywordPattern :
    o ∈ keywordPattern.root.outcomes text i [] ↔
      KeywordAt text i o.1 ∧ o.2 = [(1, i, o.1)] := by
  have hword {w : String} (hw : w ∈ keywords) (hspells : Spells text i w.toList) :
      MaximalRun text isWord i (i + w.length) ↔ Pattern.isWordEdge text false i = true ∧
        Pattern.isWordEdge text false (i + w.length) = true := by
    obtain ⟨hne, hall⟩ := keywords_isWord w hw
    have hpos : 0 < w.length := by
      rw [← String.length_toList]
      exact List.length_pos_iff.mpr hne
    refine Pattern.maximalRun_iff_isWordEdge (by omega) ?_
    rw [← String.length_toList]
    exact hspells.isRun hall
  rw [keywordAt_iff]
  constructor
  · intro ho
    obtain ⟨_, hedge, ho⟩ := Node.mem_sequence_cons.mp ho
    obtain ⟨hstart, rfl⟩ := Node.mem_anchor.mp hedge
    obtain ⟨_, hgroup, ho⟩ := Node.mem_sequence_cons.mp ho
    obtain ⟨_, hchoice, rfl⟩ := Node.mem_group.mp hgroup
    obtain ⟨w, hw, hspells, rfl⟩ := mem_outcomes_keywords.mp hchoice
    obtain ⟨_, hedge, ho⟩ := Node.mem_sequence_cons.mp ho
    obtain ⟨hstop, rfl⟩ := Node.mem_anchor.mp hedge
    obtain rfl := Node.mem_sequence_nil.mp ho
    exact ⟨⟨(hword hw hspells).mpr ⟨hstart, hstop⟩, w, hw, hspells, rfl⟩, rfl⟩
  · rintro ⟨⟨hrun, w, hw, hspells, hstop⟩, hcaps⟩
    obtain rfl : o = (i + w.length, [(1, i, i + w.length)]) :=
      Prod.ext hstop (by rw [hcaps, hstop])
    obtain ⟨hstart, hstop⟩ := (hword hw hspells).mp hrun
    refine Node.mem_sequence_cons.mpr ⟨_, Node.mem_anchor.mpr ⟨hstart, rfl⟩, ?_⟩
    refine Node.mem_sequence_cons.mpr ⟨_, Node.mem_group.mpr
      ⟨_, mem_outcomes_keywords.mpr ⟨w, hw, hspells, rfl⟩, rfl⟩, ?_⟩
    refine Node.mem_sequence_cons.mpr ⟨_, Node.mem_anchor.mpr ⟨hstop, rfl⟩, ?_⟩
    exact Node.mem_sequence_nil.mpr rfl

/-- A word ends in one place only. -/
theorem first?_keywordPattern :
    keywordPattern.first? text i = some o ↔ KeywordAt text i o.1 ∧ o.2 = [(1, i, o.1)] := by
  rw [Pattern.first?_eq_some_iff, mem_outcomes_keywordPattern]
  intro o ho o' ho'
  obtain ⟨hat, hcaps⟩ := mem_outcomes_keywordPattern.mp ho
  obtain ⟨hat', hcaps'⟩ := mem_outcomes_keywordPattern.mp ho'
  have hstop := (hat.word.eq_of_meet hat'.word ⟨Nat.le_refl i, hat.word.lt⟩
    ⟨Nat.le_refl i, hat'.word.lt⟩).2
  exact Prod.ext hstop (by rw [hcaps, hcaps', hstop])

theorem keywordPattern_marks (text : Array Char) : keywordPattern.Marks text where
  consumes := fun _ _ ho => (mem_outcomes_keywordPattern.mp ho).1.word.lt
  groups := Nat.one_ne_zero
  group := by
    intro i o hfirst
    obtain ⟨hat, hcaps⟩ := first?_keywordPattern.mp hfirst
    exact ⟨i, o.1, by rw [hcaps]; rfl, Nat.le_refl i, hat.word.lt, Nat.le_refl _⟩

def keywordRule : HighlightRule :=
  ⟨keywordPattern, ⟨0x7f, 0x00, 0x55⟩⟩

/-- What is coloured are the keywords. -/
theorem mem_ranges_keywordRule :
    (i, j) ∈ keywordRule.ranges text ↔ KeywordAt text i j := by
  constructor
  · intro h
    obtain ⟨k, o, hfirst, hrange⟩ :=
      HighlightRule.first?_of_mem_ranges (keywordPattern_marks text) h
    obtain ⟨hat, hcaps⟩ := first?_keywordPattern.mp hfirst
    rw [hcaps] at hrange
    cases hrange
    exact hat
  · intro hat
    refine HighlightRule.mem_ranges_of_first? (keywordPattern_marks text) (i := i)
      (o := (j, [(1, i, j)])) ?_ (first?_keywordPattern.mpr ⟨hat, rfl⟩) ?_ rfl
    · have := hat.word.lt
      have := hat.word.le_size
      omega
    · -- A keyword that begins earlier and reached over this place would be the same word.
      intro k o' hk hfirst
      obtain ⟨hat', -⟩ := first?_keywordPattern.mp hfirst
      refine Nat.le_of_not_lt fun hlt => ?_
      have := (hat.word.eq_of_meet hat'.word ⟨Nat.le_refl i, hat.word.lt⟩
        ⟨Nat.le_of_lt hk, hlt⟩).1
      omega

/-- The keyword rule colours every whole word that is a keyword once, from the first one to the
last, and nothing else. -/
theorem keyword_spans (text : String) :
    ((highlight text rules).filter fun s => s.rule = 0).Pairwise (fun a b => a.start < b.start) ∧
    ∀ s : Span, s ∈ highlight text rules ∧ s.rule = 0 ↔
      ∃ i j : Nat, KeywordAt text.toList.toArray i j ∧ s = ⟨i, j, ⟨0x7f, 0x00, 0x55⟩, 0⟩ := by
  have hrule : rules[0]? = some keywordRule := rfl
  have hmarks := keywordPattern_marks text.toList.toArray
  constructor
  · have hspans := filter_rule_highlight_of_marks hrule hmarks
    rw [Int.natCast_zero] at hspans
    rw [hspans]
    exact HighlightRule.pairwise_spans hmarks 0
  · intro s
    refine (mem_highlight_rule_iff hrule).trans ?_
    constructor
    · rintro ⟨⟨i, j⟩, hrange, rfl⟩
      exact ⟨i, j, mem_ranges_keywordRule.mp hrange, rfl⟩
    · rintro ⟨i, j, hat, rfl⟩
      exact ⟨(i, j), mem_ranges_keywordRule.mpr hat, rfl⟩

end Java

end BytecodeViewer
