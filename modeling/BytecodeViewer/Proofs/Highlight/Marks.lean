import BytecodeViewer.Proofs.Highlight.Spans
import BytecodeViewer.Proofs.Pattern.Found

/-!
# Rules that mark parts of their matches

A rule whose group is a part of every match colours ranges that stand one behind another.  They
are all there in the spans of a text, in this order.
-/

namespace BytecodeViewer

open Pattern (Consumes Outcome Match)

variable {text : Array Char} {r : HighlightRule} {i : Nat} {range : Nat × Nat}

namespace Pattern

/-- Wherever the pattern is found, it consumes something and its group is part of that. -/
structure Marks (p : Pattern) (text : Array Char) : Prop where
  consumes : p.Consumes text
  groups : p.groups ≠ 0
  group : ∀ i o, p.first? text i = some o →
    ∃ a b, Captures.range? o.2 1 = some (a, b) ∧ i ≤ a ∧ a < b ∧ b ≤ o.1

end Pattern

namespace HighlightRule

section

variable (hr : r.pattern.Marks text)

include hr

theorem colorsNothing_eq_false : r.colorsNothing = false := by
  simpa [colorsNothing] using hr.groups

theorem first?_of_mem_matchesIn {m : Match} (hm : m ∈ r.pattern.matchesIn text) :
    r.pattern.first? text m.start = some (m.stop, m.captures) :=
  ((Pattern.successive_matchesIn _ text).first?_of_mem hr.consumes hm).2

theorem group_within {m : Match} (hm : m ∈ r.pattern.matchesIn text)
    (hrange : m.group? 1 = some range) :
    m.start ≤ range.1 ∧ range.1 < range.2 ∧ range.2 ≤ m.stop := by
  obtain ⟨a, b, hab, hwithin⟩ := hr.group _ _ (first?_of_mem_matchesIn hr hm)
  cases hab.symm.trans hrange
  exact hwithin

theorem ranges_eq : r.ranges text = (r.pattern.matchesIn text).filterMap (·.group? 1) := by
  rw [ranges, colorsNothing_eq_false hr, if_neg Bool.false_ne_true]
  refine List.filterMap_congr fun m hm => ?_
  cases hrange : m.group? 1 with
  | none => rfl
  | some range => simp [Nat.ne_of_lt (group_within hr hm hrange).2.1]

theorem mem_ranges_iff :
    range ∈ r.ranges text ↔ ∃ m ∈ r.pattern.matchesIn text, m.group? 1 = some range := by
  rw [ranges_eq hr, List.mem_filterMap]

theorem ranges_of_search {ms : List Match} {ranges : List (Nat × Nat)}
    (hsearch : Pattern.Successive r.pattern text false 0 ms)
    (hgroups : ms.map (·.group? 1) = ranges.map some) : r.ranges text = ranges := by
  have hsame : (ms.map (·.group? 1)).filterMap id = ms.filterMap (·.group? 1) :=
    List.filterMap_map
  rw [ranges_eq hr, (Pattern.successive_matchesIn _ text).unique hsearch, ← hsame, hgroups]
  simp

/-- A range is coloured by a match that begins somewhere. -/
theorem first?_of_mem_ranges (h : range ∈ r.ranges text) :
    ∃ i o, r.pattern.first? text i = some o ∧ Pattern.Captures.range? o.2 1 = some range := by
  obtain ⟨m, hm, hrange⟩ := (mem_ranges_iff hr).mp h
  exact ⟨m.start, _, first?_of_mem_matchesIn hr hm, hrange⟩

/-- What a match would colour is coloured if no match that begins earlier reaches into it. -/
theorem mem_ranges_of_first? {o : Outcome} (hi : i ≤ text.size)
    (hfirst : r.pattern.first? text i = some o)
    (hfree : ∀ k o', k < i → r.pattern.first? text k = some o' → o'.1 ≤ i)
    (hrange : Pattern.Captures.range? o.2 1 = some range) : range ∈ r.ranges text :=
  (mem_ranges_iff hr).mpr ⟨_, (Pattern.successive_matchesIn _ text).mem_of_first? hr.consumes
    (Nat.zero_le i) hi hfirst fun k o' _ => hfree k o', hrange⟩

theorem pairwise_ranges : (r.ranges text).Pairwise fun a b => a.2 ≤ b.1 := by
  rw [ranges_eq hr, List.pairwise_filterMap]
  refine ((Pattern.successive_matchesIn _ text).pairwise hr.consumes).imp_of_mem ?_
  intro m m' hm hm' hle range hrange range' hrange'
  have hwithin := group_within hr hm hrange
  have hwithin' := group_within hr hm' hrange'
  omega

theorem pairwise_spans (index : Nat) :
    (r.spans text index).Pairwise fun a b => a.start < b.start := by
  rw [spans, List.pairwise_map]
  refine (pairwise_ranges hr).imp_of_mem fun {a b} ha _ hle => Int.ofNat_lt.mpr ?_
  exact Nat.lt_of_lt_of_le (mem_ranges ha).1 hle

theorem sortedBy_spans (index : Nat) : SortedBy Span.start (r.spans text index) :=
  (pairwise_spans hr index).imp Int.le_of_lt

end

end HighlightRule

section

variable {text : String} {rules : List HighlightRule}

/-- Such a rule has its spans in order already. -/
theorem filter_rule_highlight_of_marks (hrule : rules[i]? = some r)
    (hr : r.pattern.Marks text.toList.toArray) :
    (highlight text rules).filter (fun s => s.rule = (i : Int)) =
      r.spans text.toList.toArray i := by
  rw [filter_rule_highlight hrule]
  exact (sortedBy_sortBy _ _).ext (HighlightRule.sortedBy_spans hr i) (filter_key_sortBy _)

theorem mem_highlight_rule_iff (hrule : rules[i]? = some r) {s : Span} :
    s ∈ highlight text rules ∧ s.rule = i ↔
      ∃ range ∈ r.ranges text.toList.toArray, s = ⟨range.1, range.2, r.color, i⟩ := by
  have hfilter : s ∈ (highlight text rules).filter (fun s => s.rule = (i : Int)) ↔
      s ∈ r.spans text.toList.toArray i := by
    rw [filter_rule_highlight hrule]
    exact (sortBy_perm _ _).mem_iff
  rw [List.mem_filter, decide_eq_true_eq] at hfilter
  rw [hfilter, HighlightRule.spans, List.mem_map]
  simp only [eq_comm]

end

end BytecodeViewer
