import Mathlib.Data.List.Basic
import BytecodeViewer.Highlight
import BytecodeViewer.Proofs.Highlight.StableSort
import BytecodeViewer.Proofs.Pattern.Successive

/-!
# The spans of highlight rules

Every rule colours the first groups of its successive matches, whatever the other rules are.
The spans of all rules are sorted by where they start, and those that start together by their
rules.
-/

namespace BytecodeViewer

namespace Span

def withRule (s : Span) (rule : Int) : Span :=
  { s with rule }

def range (s : Span) : Int × Int :=
  (s.start, s.stop)

/-- A span but for the index of its rule. -/
def paint (s : Span) : Int × Int × Color :=
  (s.start, s.stop, s.color)

/-- The order of spans: by where they start, then by their rules. -/
def Precedes (a b : Span) : Prop :=
  a.start < b.start ∨ a.start = b.start ∧ a.rule ≤ b.rule

end Span

namespace HighlightRule

variable {r : HighlightRule} {text : Array Char}

/-- The first groups of some matches, where they took part and are not empty. -/
def firstGroups (r : HighlightRule) (ms : List Pattern.Match) : List (Int × Int) :=
  ms.filterMap fun m =>
    match m.group? 1 with
    | some (start, stop) =>
      if 0 < r.pattern.groups ∧ start < stop then some ((start : Int), (stop : Int)) else none
    | none => none

theorem mem_ranges {range : Nat × Nat} (h : range ∈ r.ranges text) :
    range.1 < range.2 ∧ range.2 ≤ text.size := by
  unfold ranges at h
  split at h
  · cases h
  · obtain ⟨m, hm, hgroup⟩ := List.mem_filterMap.mp h
    obtain ⟨hgroup, hne⟩ := Option.filter_eq_some_iff.mp hgroup
    obtain ⟨hle, hsize⟩ := (Pattern.successive_matchesIn r.pattern text).group_within m hm 1 _ _
      hgroup
    have hne : range.1 ≠ range.2 := by simpa using hne
    exact ⟨by omega, hsize⟩

theorem ranges_eq_firstGroups (r : HighlightRule) (text : Array Char) :
    (r.ranges text).map (fun range => ((range.1 : Int), (range.2 : Int))) =
      r.firstGroups (r.pattern.matchesIn text) := by
  unfold ranges firstGroups colorsNothing
  by_cases hnone : r.pattern.groups = 0
  · rw [if_pos (beq_iff_eq.mpr hnone), List.map_nil, eq_comm, List.filterMap_eq_nil_iff]
    intro m _
    split
    · rw [if_neg (by omega)]
    · rfl
  · rw [if_neg (by simpa using hnone), List.map_filterMap]
    refine List.filterMap_congr fun m hm => ?_
    cases hgroup : m.group? 1 with
    | none => rfl
    | some range =>
        obtain ⟨hle, -⟩ := (Pattern.successive_matchesIn r.pattern text).group_within m hm 1 _ _
          hgroup
        by_cases hempty : range.1 = range.2
        · simp [Option.filter, hempty]
        · have hlt : 0 < r.pattern.groups ∧ range.1 < range.2 := ⟨by omega, by omega⟩
          simp [Option.filter, hempty, hlt]

theorem spans_eq_map (r : HighlightRule) (text : Array Char) (index : Nat) :
    r.spans text index = (r.spans text 0).map (·.withRule index) := by
  simp only [spans, List.map_map]
  rfl

end HighlightRule

section

variable {text : Array Char} {rules : List HighlightRule} {n : Nat}

theorem ruleSpans_append (text : Array Char) (n : Nat) (xs ys : List HighlightRule) :
    ruleSpans text n (xs ++ ys) = ruleSpans text n xs ++ ruleSpans text (n + xs.length) ys := by
  induction xs generalizing n with
  | nil => rfl
  | cons r xs ih =>
      rw [List.cons_append, ruleSpans, ruleSpans, ih, List.append_assoc, List.length_cons]
      congr 3
      omega

theorem mem_ruleSpans {s : Span} (h : s ∈ ruleSpans text n rules) :
    ∃ (i : Nat) (r : HighlightRule), rules[i]? = some r ∧ s ∈ r.spans text (n + i) := by
  induction rules generalizing n with
  | nil => cases h
  | cons r rules ih =>
      rcases List.mem_append.mp h with hfirst | hrest
      · exact ⟨0, r, rfl, hfirst⟩
      · obtain ⟨i, r', hr', hs⟩ := ih hrest
        exact ⟨i + 1, r', hr', by rwa [Nat.add_assoc, Nat.add_comm 1 i] at hs⟩

theorem rule_of_mem_spans {r : HighlightRule} {index : Nat} {s : Span}
    (h : s ∈ r.spans text index) : s.rule = index := by
  obtain ⟨range, -, rfl⟩ := List.mem_map.mp h
  rfl

theorem le_rule_of_mem_ruleSpans {s : Span} (h : s ∈ ruleSpans text n rules) :
    (n : Int) ≤ s.rule ∧ s.rule < n + rules.length := by
  obtain ⟨i, r, hr, hs⟩ := mem_ruleSpans h
  have hi : i < rules.length := (List.getElem?_eq_some_iff.mp hr).1
  rw [rule_of_mem_spans hs]
  omega

/-- Before they are sorted, the spans stand in the order of their rules. -/
theorem sortedBy_ruleSpans (text : Array Char) (n : Nat) (rules : List HighlightRule) :
    SortedBy Span.rule (ruleSpans text n rules) := by
  induction rules generalizing n with
  | nil => exact .nil
  | cons r rules ih =>
      refine List.pairwise_append.mpr ⟨?_, ih (n + 1), ?_⟩
      · refine List.pairwise_of_forall_mem_list fun a ha b hb => ?_
        exact Int.le_of_eq ((rule_of_mem_spans ha).trans (rule_of_mem_spans hb).symm)
      · intro a ha b hb
        have := (le_rule_of_mem_ruleSpans hb).1
        rw [rule_of_mem_spans ha]
        omega

theorem filter_rule_ruleSpans {i : Nat} {r : HighlightRule} (hr : rules[i]? = some r) :
    (ruleSpans text n rules).filter (fun s => s.rule = ((n + i : Nat) : Int)) =
      r.spans text (n + i) := by
  induction rules generalizing n i with
  | nil => cases hr
  | cons first rules ih =>
      rw [ruleSpans, List.filter_append]
      cases i with
      | zero =>
          obtain rfl : first = r := by simpa using hr
          have hown : (first.spans text n).filter (fun s => s.rule = ((n + 0 : Nat) : Int)) =
              first.spans text n :=
            List.filter_eq_self.mpr fun s hs => decide_eq_true (rule_of_mem_spans hs)
          have hlater : (ruleSpans text (n + 1) rules).filter
              (fun s => s.rule = ((n + 0 : Nat) : Int)) = [] := by
            refine List.filter_eq_nil_iff.mpr fun s hs => ?_
            have := (le_rule_of_mem_ruleSpans hs).1
            simp only [decide_eq_true_eq]
            omega
          rw [hown, hlater, List.append_nil, Nat.add_zero]
      | succ i =>
          have hrest : rules[i]? = some r := by simpa using hr
          have hfirst : (first.spans text n).filter
              (fun s => s.rule = ((n + (i + 1) : Nat) : Int)) = [] := by
            refine List.filter_eq_nil_iff.mpr fun s hs => ?_
            rw [rule_of_mem_spans hs]
            simp only [decide_eq_true_eq]
            omega
          have hindex : n + (i + 1) = n + 1 + i := by omega
          rw [hfirst, List.nil_append, hindex]
          exact ih hrest

theorem map_paint_ruleSpans (text : Array Char) (n : Nat) (rules : List HighlightRule) :
    (ruleSpans text n rules).map Span.paint =
      rules.flatMap fun r => (r.spans text 0).map Span.paint := by
  induction rules generalizing n with
  | nil => rfl
  | cons r rules ih =>
      rw [ruleSpans, List.map_append, ih, List.flatMap_cons, HighlightRule.spans_eq_map,
        List.map_map]
      rfl

end

variable {text : String} {rules : List HighlightRule}

theorem highlight_eq (text : String) (rules : List HighlightRule) :
    highlight text rules = sortBy Span.start (ruleSpans text.toList.toArray 0 rules) := rfl

theorem mem_highlight {s : Span} (h : s ∈ highlight text rules) :
    0 ≤ s.start ∧ s.start < s.stop ∧ s.stop ≤ text.length ∧
      ∃ (i : Nat) (r : HighlightRule), rules[i]? = some r ∧ s.rule = i ∧ s.color = r.color := by
  obtain ⟨i, r, hr, hs⟩ := mem_ruleSpans ((sortBy_perm _ _).mem_iff.mp h)
  obtain ⟨range, hrange, rfl⟩ := List.mem_map.mp hs
  obtain ⟨hlt, hsize⟩ := HighlightRule.mem_ranges hrange
  have hlength : text.toList.toArray.size = text.length := String.length_toList
  refine ⟨Int.natCast_nonneg _, Int.ofNat_lt.mpr hlt, Int.ofNat_le.mpr (hlength ▸ hsize), i, r, hr,
    ?_, rfl⟩
  simp

/-- The spans of one rule are sorted by themselves. -/
theorem filter_rule_highlight {i : Nat} {r : HighlightRule} (hr : rules[i]? = some r) :
    (highlight text rules).filter (fun s => s.rule = (i : Int)) =
      sortBy Span.start (r.spans text.toList.toArray i) := by
  have hown : (ruleSpans text.toList.toArray 0 rules).filter
      (fun s => s.rule = ((0 + i : Nat) : Int)) = r.spans text.toList.toArray (0 + i) :=
    filter_rule_ruleSpans hr
  rw [Nat.zero_add] at hown
  rw [highlight_eq, filter_sortBy, hown]

/-- What one rule colours does not depend on the others. -/
theorem filter_rule_highlight_eq {i : Nat} {r : HighlightRule} (hr : rules[i]? = some r) :
    (highlight text rules).filter (fun s => s.rule = (i : Int)) =
      (highlight text [r]).map (·.withRule i) := by
  have hsingle : highlight text [r] = sortBy Span.start (r.spans text.toList.toArray 0) := by
    rw [highlight_eq, ruleSpans, ruleSpans, List.append_nil]
  have hindex (a b : Span) :
      a.start ≤ b.start ↔ (a.withRule i).start ≤ (b.withRule i).start := Iff.rfl
  rw [filter_rule_highlight hr, hsingle, HighlightRule.spans_eq_map]
  exact (map_sortBy _ fun a _ b _ => hindex a b).symm

theorem map_range_spans (r : HighlightRule) (text : Array Char) (index : Nat) :
    (r.spans text index).map Span.range = r.firstGroups (r.pattern.matchesIn text) := by
  rw [← r.ranges_eq_firstGroups, HighlightRule.spans, List.map_map]
  rfl

/-- But for the order, all is coloured as the rules do it one by one. -/
theorem map_paint_highlight (text : String) (rules : List HighlightRule) :
    ((highlight text rules).map Span.paint).Perm
      (rules.flatMap fun r => (r.spans text.toList.toArray 0).map Span.paint) := by
  rw [← map_paint_ruleSpans text.toList.toArray 0 rules]
  exact (sortBy_perm _ _).map _

/-- The spans of a text are sorted, they are ranges of the text in the colours of their rules,
and those of one rule are the first groups of its successive matches, as if there were no other
rule.  So the order of the rules does not matter for what is coloured. -/
theorem highlight_spans (text : String) (rules : List HighlightRule) :
    (highlight text rules).Pairwise Span.Precedes ∧
    (∀ s ∈ highlight text rules, 0 ≤ s.start ∧ s.start < s.stop ∧ s.stop ≤ text.length ∧
      ∃ (i : Nat) (r : HighlightRule), rules[i]? = some r ∧ s.rule = i ∧ s.color = r.color) ∧
    (∀ (i : Nat) (r : HighlightRule), rules[i]? = some r →
      (highlight text rules).filter (fun s => s.rule = (i : Int)) =
        (highlight text [r]).map (·.withRule i) ∧
      ∃ ms, r.pattern.Successive text.toList.toArray false 0 ms ∧
        (((highlight text rules).filter (fun s => s.rule = (i : Int))).map Span.range).Perm
          (r.firstGroups ms)) ∧
    ∀ rules' : List HighlightRule, rules'.Perm rules →
      ((highlight text rules').map Span.paint).Perm ((highlight text rules).map Span.paint) := by
  refine ⟨pairwise_sortBy (sortedBy_ruleSpans _ 0 rules), fun s => mem_highlight, ?_, ?_⟩
  · intro i r hr
    refine ⟨filter_rule_highlight_eq hr, _, Pattern.successive_matchesIn _ _, ?_⟩
    rw [filter_rule_highlight hr, ← map_range_spans r text.toList.toArray i]
    exact (sortBy_perm _ _).map _
  · intro rules' hperm
    have hcolored := hperm.flatMap_right fun r => (r.spans text.toList.toArray 0).map Span.paint
    exact (map_paint_highlight text rules').trans
      (hcolored.trans (map_paint_highlight text rules).symm)

end BytecodeViewer
