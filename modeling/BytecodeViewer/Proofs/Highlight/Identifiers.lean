import BytecodeViewer.Proofs.Highlight.Keywords

/-!
# Identifiers of pseudo-source

An identifier may hold dollar signs, as those that compilers make up do.  A number is never
coloured inside of an identifier, but a keyword is, wherever a dollar sign ends a word.
-/

namespace BytecodeViewer

open Pattern (Node SetItem Outcome Captures)
open Text (hasAt IsRun MaximalRun Spells isWord isDecimal)

variable {text : Array Char} {i j : Nat} {o : Outcome}

namespace Text

theorem isAsciiWord_iff {c : Char} : isAsciiWord c = true ↔
    (65 ≤ c.toNat ∧ c.toNat ≤ 90 ∨ 97 ≤ c.toNat ∧ c.toNat ≤ 122 ∨ 48 ≤ c.toNat ∧ c.toNat ≤ 57) ∨
      c = '_' := by
  change ((decide (65 ≤ c.val ∧ c.val ≤ 90) || (decide (97 ≤ c.val) && decide (c.val ≤ 122))) ||
    (decide (48 ≤ c.val) && decide (c.val ≤ 57)) || c == '_') = true ↔ _
  simp [UInt32.le_iff_toNat_le, or_assoc]

/-- Digits are word characters in every script. -/
theorem isWord_of_isDecimal {c : Char} (h : isDecimal c = true) : isWord c = true := by
  have hranges : (zeros.all fun z => z == 48 ||
      wordRanges.any fun r => r.1.ble z && (z + 9).ble r.2) = true := by decide +kernel
  simp only [List.all_eq_true, Bool.or_eq_true, beq_iff_eq, List.any_eq_true, Bool.and_eq_true,
    Nat.ble_eq] at hranges
  obtain ⟨v, hv⟩ := Option.isSome_iff_exists.mp h
  obtain ⟨z, hz, -⟩ := Option.map_eq_some_iff.mp hv
  have hbounds : z ≤ c.toNat ∧ c.toNat < z + 10 := by simpa using List.find?_some hz
  rcases hranges z (List.mem_of_find?_eq_some hz) with rfl | ⟨r, hr, hfirst, hlast⟩
  · exact isWord_of_isAsciiWord (isAsciiWord_iff.mpr (.inl (by omega)))
  · have hhas : wordRanges.has c = true := by
      refine List.any_eq_true.mpr ⟨r, hr, ?_⟩
      simp only [Bool.and_eq_true, decide_eq_true_eq]
      omega
    rw [isWord, hhas, Bool.or_true]

end Text

namespace Java

def isNamePart (c : Char) : Bool :=
  isWord c || c == '$'

/-- A whole identifier. -/
structure IdentifierAt (text : Array Char) (i j : Nat) : Prop where
  name : MaximalRun text isNamePart i j
  nondigit : hasAt text isDecimal i = false

/-! ## Numbers -/

theorem isNamePart_of_isWord {c : Char} (h : isWord c = true) : isNamePart c = true := by
  rw [isNamePart, h, Bool.true_or]

theorem isNamePart_of_minus (c : Char) (h : (c == '-') = true) : isNamePart c = false := by
  obtain rfl := eq_of_beq h
  decide +kernel

theorem anyHolds_nameItems_of_isNamePart {c : Char} (h : isNamePart c = true) :
    SetItem.anyHolds nameItems c = true := by
  simp only [isNamePart, Bool.or_eq_true, beq_iff_eq] at h
  simp only [SetItem.anyHolds, nameItems, List.any_cons, List.any_nil, SetItem.holds_word,
    SetItem.holds_char, Bool.or_eq_true, beq_iff_eq]
  tauto

theorem isWord_of_hexDigit {c : Char} (h : SetItem.anyHolds
    [.chars '0' '9', .chars 'a' 'f', .chars 'A' 'F'] c = true) : isWord c = true := by
  simp only [SetItem.anyHolds, SetItem.chars, List.any_cons, List.any_nil, SetItem.holds_range,
    Char.reduceToNat, Bool.or_false, Bool.or_eq_true, Bool.and_eq_true, decide_eq_true_eq] at h
  exact Text.isWord_of_isAsciiWord (Text.isAsciiWord_iff.mpr (.inl (by omega)))

theorem isWord_of_suffix {c : Char} (h : SetItem.anyHolds
    [.char 'L', .char 'l', .char 'F', .char 'f', .char 'D', .char 'd'] c = true) :
    isWord c = true := by
  simp only [SetItem.anyHolds, List.any_cons, List.any_nil, SetItem.holds_char, Bool.or_eq_true,
    beq_iff_eq, Bool.or_false] at h
  rcases h with rfl | rfl | rfl | rfl | rfl | rfl <;> decide

/-- The digits of a number, of base sixteen or of base ten, are a run of word characters. -/
theorem digits_outcome {caps : Captures} (h : o ∈ (Node.choice [
    .sequence [.just '0', .just 'x',
      .several (.oneOf [.chars '0' '9', .chars 'a' 'f', .chars 'A' 'F'])],
    .several (.oneOf [.digit])]).outcomes text i caps) :
    hasAt text isDecimal i = true ∧ i < o.1 ∧ IsRun text isWord i o.1 ∧ o.2 = caps := by
  rw [Node.mem_choice (List.cons_ne_nil _ _)] at h
  obtain ⟨n, hn, h⟩ := h
  rcases List.mem_cons.mp hn with rfl | hn
  · have hopener := (Node.mem_sequence_just ['0', 'x']
      [.several (.oneOf [.chars '0' '9', .chars 'a' 'f', .chars 'A' 'F'])]).mp h
    obtain ⟨hspells, hrest⟩ := hopener
    obtain ⟨⟨hlt, hrun⟩, hcaps⟩ := Node.mem_several_oneOf.mp hrest
    have hfirst : IsRun text isWord i (i + 2) :=
      hspells.isRun (p := isWord) (List.all_eq_true.mp (by decide))
    have hlt' : i + 2 < o.1 := hlt
    refine ⟨Text.hasAt_eq_true_iff.mpr ⟨'0', hspells.1, by decide⟩, by omega, ?_, hcaps⟩
    exact hfirst.append (hrun.mono fun c => isWord_of_hexDigit)
  · obtain rfl := List.mem_singleton.mp hn
    have hdigit (c : Char) (hc : SetItem.anyHolds [.digit] c = true) : isDecimal c = true := by
      simpa [SetItem.anyHolds, SetItem.holds_digit] using hc
    obtain ⟨⟨hlt, hrun⟩, hcaps⟩ := Node.mem_several_oneOf.mp h
    refine ⟨Text.hasAt_mono hdigit (hrun i (Nat.le_refl i) hlt), hlt, ?_, hcaps⟩
    exact hrun.mono fun c hc => Text.isWord_of_isDecimal (hdigit c hc)

theorem sign_outcome (h : o ∈ (Node.optional (.just '-')).outcomes text i []) :
    i ≤ o.1 ∧ IsRun text (· == '-') i o.1 ∧ o.2 = [] := by
  rcases Node.eq_or_mem_of_mem_optional h with rfl | hminus
  · exact ⟨Nat.le_refl i, .refl text _ i, rfl⟩
  · obtain ⟨hread, rfl⟩ := Node.mem_just.mp hminus
    refine ⟨Nat.le_succ i, Text.isRun_succ ?_, rfl⟩
    exact Text.hasAt_eq_true_iff.mpr ⟨'-', hread, beq_self_eq_true _⟩

theorem suffix_outcome {caps : Captures} (h : o ∈ (Node.optional (.oneOf
    [.char 'L', .char 'l', .char 'F', .char 'f', .char 'D', .char 'd'])).outcomes text i caps) :
    i ≤ o.1 ∧ IsRun text isWord i o.1 ∧ o.2 = caps := by
  rcases Node.eq_or_mem_of_mem_optional h with rfl | hletter
  · exact ⟨Nat.le_refl i, .refl text _ i, rfl⟩
  · obtain ⟨hread, rfl⟩ := Node.mem_oneOf.mp hletter
    exact ⟨Nat.le_succ i, Text.isRun_succ (Text.hasAt_mono (fun c => isWord_of_suffix) hread), rfl⟩

/-- A number from one place to another: behind a possible sign come word characters, the first
of which is a digit.  It does not begin behind a part of a name. -/
def NumberAt (text : Array Char) (i j : Nat) : Prop :=
  (0 < i → hasAt text isNamePart (i - 1) = false) ∧
    ∃ d, i ≤ d ∧ d < j ∧ IsRun text (· == '-') i d ∧ hasAt text isDecimal d = true ∧
      IsRun text isWord d j

theorem numberPattern_outcome (h : o ∈ numberPattern.root.outcomes text i []) :
    NumberAt text i o.1 ∧ o.2 = [(1, i, o.1)] := by
  obtain ⟨_, hlook, h⟩ := Node.mem_sequence_cons.mp h
  obtain ⟨hbehind, rfl⟩ := Node.mem_not_behind.mp hlook
  obtain ⟨_, hgroup, h⟩ := Node.mem_sequence_cons.mp h
  obtain ⟨_, hnumber, rfl⟩ := Node.mem_group.mp hgroup
  obtain ⟨_, hedge, h⟩ := Node.mem_sequence_cons.mp h
  obtain ⟨-, rfl⟩ := Node.mem_anchor.mp hedge
  obtain rfl := Node.mem_sequence_nil.mp h
  obtain ⟨sign, hsign, hnumber⟩ := Node.mem_sequence_cons.mp hnumber
  obtain ⟨digits, hdigits, hnumber⟩ := Node.mem_sequence_cons.mp hnumber
  obtain ⟨suffix, hsuffix, hnumber⟩ := Node.mem_sequence_cons.mp hnumber
  obtain rfl := Node.mem_sequence_nil.mp hnumber
  obtain ⟨hsignLe, hsignRun, hsignCaps⟩ := sign_outcome hsign
  obtain ⟨hdecimal, hdigitsLt, hdigitsRun, hdigitsCaps⟩ := digits_outcome hdigits
  obtain ⟨hsuffixLe, hsuffixRun, hsuffixCaps⟩ := suffix_outcome hsuffix
  have hlt : sign.1 < suffix.1 := Nat.lt_of_lt_of_le hdigitsLt hsuffixLe
  refine ⟨⟨fun hi => ?_, sign.1, hsignLe, hlt, hsignRun, hdecimal,
    hdigitsRun.append hsuffixRun⟩, ?_⟩
  · rw [← Bool.not_eq_true]
    intro hname
    have hmem : (i - 1 + 1, []) ∈ (Node.oneOf nameItems).outcomes text (i - 1) [] :=
      Node.mem_oneOf.mpr ⟨Text.hasAt_mono (fun c => anyHolds_nameItems_of_isNamePart) hname, rfl⟩
    rw [hbehind hi] at hmem
    cases hmem
  · rw [hsuffixCaps, hdigitsCaps, hsignCaps]

theorem numberPattern_marks (text : Array Char) : numberPattern.Marks text where
  consumes := by
    intro i o ho
    obtain ⟨⟨-, d, hid, hlt, -⟩, -⟩ := numberPattern_outcome ho
    exact Nat.lt_of_le_of_lt hid hlt
  groups := Nat.one_ne_zero
  group := by
    intro i o hfirst
    obtain ⟨⟨-, d, hid, hlt, -⟩, hcaps⟩ := numberPattern_outcome (List.mem_of_head? hfirst)
    exact ⟨i, o.1, by rw [hcaps]; rfl, Nat.le_refl i, Nat.lt_of_le_of_lt hid hlt, Nat.le_refl _⟩

def numberRule : HighlightRule :=
  ⟨numberPattern, ⟨0x00, 0x00, 0xc0⟩⟩

theorem numberAt_of_mem_ranges (h : (i, j) ∈ numberRule.ranges text) : NumberAt text i j := by
  obtain ⟨k, o, hfirst, hrange⟩ := HighlightRule.first?_of_mem_ranges (numberPattern_marks text) h
  obtain ⟨hat, hcaps⟩ := numberPattern_outcome (List.mem_of_head? hfirst)
  rw [hcaps] at hrange
  cases hrange
  exact hat

/-- A number is nowhere inside of an identifier. -/
theorem NumberAt.disjoint (h : NumberAt text i j) {a b k : Nat} (hname : IdentifierAt text a b)
    (hk : i ≤ k ∧ k < j) : ¬(a ≤ k ∧ k < b) := by
  intro hk'
  obtain ⟨hbefore, d, hid, hdj, hsign, hdigit, hword⟩ := h
  have hminus (l : Nat) (hil : i ≤ l) (hld : l < d) : hasAt text isNamePart l = false :=
    Text.hasAt_eq_false_of_disjoint isNamePart_of_minus (hsign l hil hld)
  have hdk : d ≤ k := by
    refine Nat.le_of_not_lt fun hkd => Nat.not_le_of_lt hk'.2 ?_
    exact hname.name.run.le_of_stop hk'.1 (hminus k hk.1 hkd)
  have had : a ≤ d := (hname.name.contains (hword.mono fun c => isNamePart_of_isWord)
    hk' ⟨hdk, hk.2⟩).1
  -- The identifier begins with the first digit, since it holds nothing that stands before it.
  obtain rfl : a = d := by
    refine Nat.le_antisymm had (Nat.le_of_not_lt fun hlt => ?_)
    have hstop : hasAt text isNamePart (d - 1) = false := by
      rcases Nat.lt_or_ge i d with hsigned | hplain
      · exact hminus (d - 1) (by omega) (by omega)
      · obtain rfl : i = d := Nat.le_antisymm hid hplain
        exact hbefore (by omega)
    have hle : b ≤ d - 1 := hname.name.run.le_of_stop (by omega) hstop
    omega
  rw [hname.nondigit] at hdigit
  cases hdigit

/-! ## Keywords -/

/-- Whether a span covers some of a range of the text, but not all of it. -/
def CoversPart (s : Span) (i j : Nat) : Prop :=
  (∃ k : Nat, i ≤ k ∧ k < j ∧ s.covers k = true) ∧ ∃ k : Nat, i ≤ k ∧ k < j ∧ s.covers k = false

/-- No keyword or number is coloured inside of an identifier. -/
def ColorsWhole (text : String) : Prop :=
  ∀ s ∈ highlight text rules, s.rule = 0 ∨ s.rule = 2 →
    ∀ i j, IdentifierAt text.toList.toArray i j → ¬CoversPart s i j

/-- What is covered inside of a range is a part of it unless it is the whole of it. -/
theorem coversPart_iff {s : Span} {a b : Nat}
    (hs : ∀ k : Nat, s.covers k = true ↔ i ≤ k ∧ k < j) (hij : i < j) (hai : a ≤ i) (hjb : j ≤ b) :
    CoversPart s a b ↔ ¬(i = a ∧ j = b) := by
  have hfalse (k : Nat) : s.covers k = false ↔ ¬(i ≤ k ∧ k < j) := by
    rw [← hs, Bool.not_eq_true]
  simp only [CoversPart, hs, hfalse]
  constructor
  · rintro ⟨-, k, hak, hkb, hk⟩ ⟨rfl, rfl⟩
    exact hk ⟨hak, hkb⟩
  · intro hne
    refine ⟨⟨i, hai, by omega, Nat.le_refl i, hij⟩, ?_⟩
    rcases Nat.lt_or_ge a i with hlt | hge
    · exact ⟨a, Nat.le_refl a, by omega, by omega⟩
    · exact ⟨j, by omega, by omega, by omega⟩

theorem covers_of_keyword {text : String} {s : Span} (hs : s ∈ highlight text rules)
    (hrule : s.rule = 0) : ∃ i j, KeywordAt text.toList.toArray i j ∧
      ∀ k : Nat, s.covers k = true ↔ i ≤ k ∧ k < j := by
  have hkeyword : rules[0]? = some keywordRule := rfl
  obtain ⟨⟨i, j⟩, hrange, rfl⟩ := (mem_highlight_rule_iff hkeyword).mp ⟨hs, hrule⟩
  exact ⟨i, j, mem_ranges_keywordRule.mp hrange, fun k => by simp [Span.covers]⟩

theorem covers_of_number {text : String} {s : Span} (hs : s ∈ highlight text rules)
    (hrule : s.rule = 2) : ∃ i j, NumberAt text.toList.toArray i j ∧
      ∀ k : Nat, s.covers k = true ↔ i ≤ k ∧ k < j := by
  have hnumber : rules[2]? = some numberRule := rfl
  obtain ⟨⟨i, j⟩, hrange, rfl⟩ := (mem_highlight_rule_iff hnumber).mp ⟨hs, hrule⟩
  exact ⟨i, j, numberAt_of_mem_ranges hrange, fun k => by simp [Span.covers]⟩

/-- A keyword is an identifier of its own, unless there is a dollar sign beside it. -/
theorem KeywordAt.eq_iff (h : KeywordAt text i j) {a b : Nat} (hname : IdentifierAt text a b)
    (hai : a ≤ i) (hjb : j ≤ b) : i = a ∧ j = b ↔
      hasAt text (· == '$') j = false ∧ (0 < i → hasAt text (· == '$') (i - 1) = false) := by
  constructor
  · rintro ⟨rfl, rfl⟩
    have hdollar (c : Char) (hc : (c == '$') = true) : isNamePart c = true := by
      rw [isNamePart, hc, Bool.or_true]
    have hfalse {k : Nat} (hk : hasAt text isNamePart k = false) :
        hasAt text (· == '$') k = false := by
      rw [← Bool.not_eq_true] at hk ⊢
      exact mt (Text.hasAt_mono hdollar) hk
    exact ⟨hfalse hname.name.after, fun hi => hfalse (hname.name.before hi)⟩
  · rintro ⟨hafter, hbefore⟩
    have hword {k : Nat} (hk : hasAt text isNamePart k = true)
        (hdollar : hasAt text (· == '$') k = false) : hasAt text isWord k = true := by
      obtain ⟨c, hc, hpart⟩ := Text.hasAt_eq_true_iff.mp hk
      rw [hasAt, hc] at hdollar
      rw [isNamePart, show (c == '$') = false from hdollar, Bool.or_false] at hpart
      exact Text.hasAt_eq_true_iff.mpr ⟨c, hc, hpart⟩
    constructor
    · refine Nat.le_antisymm (Nat.le_of_not_lt fun hlt => ?_) hai
      have hlt' := h.word.lt
      have hword := hword (hname.name.run (i - 1) (by omega) (by omega)) (hbefore (by omega))
      rw [h.word.before (by omega)] at hword
      cases hword
    · refine Nat.le_antisymm hjb (Nat.le_of_not_lt fun hlt => ?_)
      have hlt' := h.word.lt
      have hword := hword (hname.name.run j (by omega) hlt) hafter
      rw [h.word.after] at hword
      cases hword

/-- No identifier has a number in it.  Those that have a keyword in them, and more, are those where
a dollar sign stands beside the keyword. -/
theorem colorsWhole_iff (text : String) :
    (∀ s ∈ highlight text rules, s.rule = 2 → ∀ a b, IdentifierAt text.toList.toArray a b →
      ∀ k : Nat, a ≤ k → k < b → s.covers k = false) ∧
    (ColorsWhole text ↔ ∀ i j a b, KeywordAt text.toList.toArray i j →
      IdentifierAt text.toList.toArray a b → a ≤ i → j ≤ b →
      hasAt text.toList.toArray (· == '$') j = false ∧
        (0 < i → hasAt text.toList.toArray (· == '$') (i - 1) = false)) := by
  have hnumbers : ∀ s ∈ highlight text rules, s.rule = 2 → ∀ a b,
      IdentifierAt text.toList.toArray a b → ∀ k : Nat, a ≤ k → k < b → s.covers k = false := by
    intro s hs hrule a b hname k hak hkb
    obtain ⟨i, j, hnumber, hcovers⟩ := covers_of_number hs hrule
    rw [← Bool.not_eq_true, hcovers]
    exact fun hk => hnumber.disjoint hname hk ⟨hak, hkb⟩
  refine ⟨hnumbers, ?_⟩
  constructor
  · intro h i j a b hkeyword hname hai hjb
    have hspan : (⟨i, j, ⟨0x7f, 0x00, 0x55⟩, 0⟩ : Span) ∈ highlight text rules ∧ (0 : Int) = 0 :=
      (mem_highlight_rule_iff (show rules[0]? = some keywordRule from rfl)).mpr
        ⟨(i, j), mem_ranges_keywordRule.mpr hkeyword, rfl⟩
    have hwhole := h _ hspan.1 (.inl rfl) a b hname
    rw [coversPart_iff (by simp [Span.covers]) hkeyword.word.lt hai hjb, not_not] at hwhole
    exact (hkeyword.eq_iff hname hai hjb).mp hwhole
  · rintro h s hs (hrule | hrule) a b hname hpart
    · obtain ⟨i, j, hkeyword, hcovers⟩ := covers_of_keyword hs hrule
      obtain ⟨k, hak, hkb, hk⟩ := hpart.1
      have hinside := hname.name.contains (hkeyword.word.run.mono fun c => isNamePart_of_isWord)
        ⟨hak, hkb⟩ ((hcovers k).mp hk)
      refine (coversPart_iff hcovers hkeyword.word.lt hinside.1 hinside.2).mp hpart ?_
      exact (hkeyword.eq_iff hname hinside.1 hinside.2).mpr
        (h i j a b hkeyword hname hinside.1 hinside.2)
    · obtain ⟨k, hak, hkb, hk⟩ := hpart.1
      rw [hnumbers s hs hrule a b hname k hak hkb] at hk
      cases hk

/-- The field that an inner class refers to its outer class by is called like this. -/
theorem dollar_splits_identifier : ¬ColorsWhole "this$0" := by
  intro h
  have hspan : (⟨0, 4, ⟨0x7f, 0x00, 0x55⟩, 0⟩ : Span) ∈ highlight "this$0" rules := by
    decide +kernel
  have hspells : Spells "this$0".toList.toArray 0 "this$0".toList := Text.spells_self _
  have hname : IdentifierAt "this$0".toList.toArray 0 6 :=
    ⟨⟨by decide, hspells.isRun (List.all_eq_true.mp (by decide +kernel)), by decide,
      by decide +kernel⟩, by decide +kernel⟩
  refine h _ hspan (.inl rfl) 0 6 hname ⟨⟨0, ?_⟩, ⟨4, ?_⟩⟩
  · decide
  · decide

end Java

end BytecodeViewer
