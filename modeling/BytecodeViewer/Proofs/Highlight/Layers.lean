import BytecodeViewer.Proofs.Highlight.Spans

/-!
# Layers of colour

A document shows at an offset the colour of the span that is painted there last.  Rules that
are added behind others paint a new layer over what the others have painted.
-/

namespace BytecodeViewer

/-- The colour of the last span that covers an offset. -/
def lastColor (spans : List Span) (offset : Int) : Option Color :=
  ((spans.filter (·.covers offset)).getLast?).map (·.color)

theorem lastColor_append (below above : List Span) (offset : Int) :
    lastColor (below ++ above) offset = (lastColor above offset).or (lastColor below offset) := by
  simp only [lastColor, List.filter_append, List.getLast?_append]
  cases (above.filter (·.covers offset)).getLast? <;> rfl

/-- The first span is seen where no later one covers it, and what is under it elsewhere. -/
theorem lastColor_cons_or (s : Span) (spans : List Span) (offset : Int) (under : Option Color) :
    (lastColor (s :: spans) offset).or under =
      (lastColor spans offset).or (if s.covers offset then some s.color else under) := by
  have hcons : lastColor (s :: spans) offset =
      (lastColor spans offset).or (lastColor [s] offset) := lastColor_append [s] spans offset
  rw [hcons, Option.or_assoc]
  cases h : s.covers offset <;> simp [lastColor, h]

namespace Document

theorem colorAt_eq (d : Document) (offset : Int) :
    d.colorAt offset = lastColor d.drawOrder offset := by
  have general (spans : List Span) (seen : Option Color) :
      spans.foldl (fun seen s => if s.covers offset then some s.color else seen) seen =
        (lastColor spans offset).or seen := by
    induction spans generalizing seen with
    | nil => rfl
    | cons s spans ih => rw [List.foldl_cons, ih, lastColor_cons_or]
  rw [colorAt, general, Option.or_none]

theorem drawOrder_eq (d : Document) : d.drawOrder = sortBy Span.rule d.spans := rfl

end Document

/-- A text in the colours of some rules. -/
def highlighted (text : String) (rules : List HighlightRule) : Document :=
  ⟨text, highlight text rules⟩

def Span.above (n : Nat) (s : Span) : Span :=
  { s with rule := s.rule + n }

/-- Which rule a span is of does not matter for what it covers. -/
theorem lastColor_map_above (n : Nat) (spans : List Span) (offset : Int) :
    lastColor (spans.map (Span.above n)) offset = lastColor spans offset := by
  have hcovers (s : Span) : (s.above n).covers offset = s.covers offset := rfl
  have hcolor (s : Span) : (s.above n).color = s.color := rfl
  simp only [lastColor, List.filter_map, Function.comp_def, hcovers, List.getLast?_map,
    Option.map_map, hcolor]

theorem ruleSpans_above (text : Array Char) (n k : Nat) (rules : List HighlightRule) :
    ruleSpans text (k + n) rules = (ruleSpans text k rules).map (Span.above n) := by
  induction rules generalizing k with
  | nil => rfl
  | cons r rules ih =>
      have hnext : k + n + 1 = k + 1 + n := by omega
      rw [ruleSpans, ruleSpans, List.map_append, hnext, ih]
      congr 1
      simp only [HighlightRule.spans, List.map_map]
      rfl

section

variable (text : Array Char) (xs ys : List HighlightRule)

theorem filter_lt_ruleSpans :
    (ruleSpans text 0 (xs ++ ys)).filter (fun s => s.rule < (xs.length : Int)) =
      ruleSpans text 0 xs := by
  rw [ruleSpans_append, List.filter_append, List.filter_eq_self.mpr fun s hs => ?_,
    List.filter_eq_nil_iff.mpr fun s hs => ?_, List.append_nil]
  · have := (le_rule_of_mem_ruleSpans hs).1
    simp only [decide_eq_true_eq]
    omega
  · have := (le_rule_of_mem_ruleSpans hs).2
    simp only [decide_eq_true_eq]
    omega

theorem filter_le_ruleSpans :
    (ruleSpans text 0 (xs ++ ys)).filter (fun s => (xs.length : Int) ≤ s.rule) =
      (ruleSpans text 0 ys).map (Span.above xs.length) := by
  rw [ruleSpans_append, ← ruleSpans_above, List.filter_append,
    List.filter_eq_nil_iff.mpr fun s hs => ?_, List.filter_eq_self.mpr fun s hs => ?_,
    List.nil_append]
  · have := (le_rule_of_mem_ruleSpans hs).1
    simp only [decide_eq_true_eq]
    omega
  · have := (le_rule_of_mem_ruleSpans hs).2
    simp only [decide_eq_true_eq]
    omega

end

theorem map_above_sortBy {key : Span → Int} (n : Nat)
    (hkey : ∀ a b : Span, key a ≤ key b ↔ key (a.above n) ≤ key (b.above n)) (spans : List Span) :
    (sortBy key spans).map (Span.above n) = sortBy key (spans.map (Span.above n)) :=
  map_sortBy spans fun a _ b _ => hkey a b

/-- What the rules behind others paint is painted after all that the others paint. -/
theorem drawOrder_highlighted_append (text : String) (xs ys : List HighlightRule) :
    (highlighted text (xs ++ ys)).drawOrder = (highlighted text xs).drawOrder ++
      (highlighted text ys).drawOrder.map (Span.above xs.length) := by
  have hunder : (highlight text (xs ++ ys)).filter (fun s => s.rule < (xs.length : Int)) =
      highlight text xs := by
    rw [highlight_eq, filter_sortBy, filter_lt_ruleSpans, highlight_eq]
  have hover : (highlight text (xs ++ ys)).filter (fun s => (xs.length : Int) ≤ s.rule) =
      (highlight text ys).map (Span.above xs.length) := by
    rw [highlight_eq, filter_sortBy, filter_le_ruleSpans, highlight_eq,
      map_above_sortBy _ fun a b => by simp [Span.above]]
  have hsplit := (sortedBy_sortBy Span.rule (highlight text (xs ++ ys))).filter_append_filter
    xs.length
  rw [filter_sortBy, filter_sortBy, hunder, hover] at hsplit
  simp only [Document.drawOrder_eq, highlighted]
  rw [← hsplit, map_above_sortBy _ fun a b => by simp [Span.above]]

namespace Document

variable (d : Document) (offset : Int)

/-- Of the spans that cover an offset, the last one with the greatest rule is painted last. -/
theorem colorAt_eq_map_getLast? : d.colorAt offset =
    ((sortBy Span.rule (d.spans.filter (·.covers offset))).getLast?).map (·.color) := by
  rw [colorAt_eq, drawOrder_eq, lastColor, filter_sortBy]

theorem colorAt_eq_none_iff :
    d.colorAt offset = none ↔ ∀ s ∈ d.spans, s.covers offset = false := by
  have hperm := sortBy_perm Span.rule (d.spans.filter (·.covers offset))
  rw [colorAt_eq_map_getLast?, Option.map_eq_none_iff, List.getLast?_eq_none_iff]
  constructor
  · intro hnone s hs
    rw [hnone, List.nil_perm] at hperm
    simpa using List.filter_eq_nil_iff.mp hperm s hs
  · intro hnone
    have hempty : d.spans.filter (·.covers offset) = [] :=
      List.filter_eq_nil_iff.mpr fun s hs => by simp [hnone s hs]
    rw [hempty, List.perm_nil] at hperm
    rw [hempty, hperm]

theorem colorAt_eq_some_iff {c : Color} :
    d.colorAt offset = some c ↔ ∃ before s after, d.spans = before ++ s :: after ∧
      s.covers offset = true ∧ s.color = c ∧
      (∀ s' ∈ before, s'.covers offset = true → s'.rule ≤ s.rule) ∧
      ∀ s' ∈ after, s'.covers offset = true → s'.rule < s.rule := by
  rw [colorAt_eq_map_getLast?, Option.map_eq_some_iff]
  constructor
  · rintro ⟨s, hlast, hcolor⟩
    obtain ⟨before', after', hfilter, hbefore, hafter⟩ := getLast?_sortBy_eq_some.mp hlast
    obtain ⟨before, rest, hspans, rfl, hrest⟩ := List.filter_eq_append_iff.mp hfilter
    obtain ⟨skipped, after, rfl, hskipped, hcovers, rfl⟩ := List.filter_eq_cons_iff.mp hrest
    refine ⟨before ++ skipped, s, after, by simp [hspans], hcovers, hcolor, ?_, ?_⟩
    · intro s' hs' hcovers'
      rcases List.mem_append.mp hs' with hin | hin
      · exact hbefore s' (List.mem_filter.mpr ⟨hin, hcovers'⟩)
      · exact absurd hcovers' (hskipped s' hin)
    · intro s' hs' hcovers'
      exact hafter s' (List.mem_filter.mpr ⟨hs', hcovers'⟩)
  · rintro ⟨before, s, after, hspans, hcovers, hcolor, hbefore, hafter⟩
    refine ⟨s, getLast?_sortBy_eq_some.mpr ⟨before.filter (·.covers offset),
      after.filter (·.covers offset), ?_, ?_, ?_⟩, hcolor⟩
    · simp only [hspans, List.filter_append, List.filter_cons, hcovers, if_true]
    · intro s' hs'
      obtain ⟨hin, hcovers'⟩ := List.mem_filter.mp hs'
      exact hbefore s' hin hcovers'
    · intro s' hs'
      obtain ⟨hin, hcovers'⟩ := List.mem_filter.mp hs'
      exact hafter s' hin hcovers'

end Document

theorem colorAt_highlighted_append (text : String) (xs ys : List HighlightRule) (offset : Int) :
    (highlighted text (xs ++ ys)).colorAt offset =
      ((highlighted text ys).colorAt offset).or ((highlighted text xs).colorAt offset) := by
  simp only [Document.colorAt_eq, drawOrder_highlighted_append, lastColor_append]
  rw [lastColor_map_above]

/-- Where rules are added behind others, their colours win.  In any document the colour at an
offset is that of the covering span with the greatest rule, and of several such spans that of
the last one. -/
theorem colorAt_layers :
    (∀ (text : String) (xs ys : List HighlightRule) (offset : Int),
      (highlighted text (xs ++ ys)).colorAt offset =
        ((highlighted text ys).colorAt offset).or ((highlighted text xs).colorAt offset)) ∧
    ∀ (d : Document) (offset : Int),
      (d.colorAt offset = none ↔ ∀ s ∈ d.spans, s.covers offset = false) ∧
      ∀ c, d.colorAt offset = some c ↔ ∃ before s after, d.spans = before ++ s :: after ∧
        s.covers offset = true ∧ s.color = c ∧
        (∀ s' ∈ before, s'.covers offset = true → s'.rule ≤ s.rule) ∧
        ∀ s' ∈ after, s'.covers offset = true → s'.rule < s.rule := by
  exact ⟨colorAt_highlighted_append, fun d offset => ⟨d.colorAt_eq_none_iff offset, fun c =>
    d.colorAt_eq_some_iff offset⟩⟩

/-! ## One more rule -/

/-- Whether a rule colours the character at an offset. -/
def HighlightRule.Covers (r : HighlightRule) (text : Array Char) (offset : Nat) : Prop :=
  ∃ range ∈ r.ranges text, range.1 ≤ offset ∧ offset < range.2

section

variable {text : String} {r : HighlightRule} {offset : Nat}

theorem mem_highlight_single {s : Span} :
    s ∈ highlight text [r] ↔
      ∃ range ∈ r.ranges text.toList.toArray, s = ⟨range.1, range.2, r.color, 0⟩ := by
  rw [highlight_eq, (sortBy_perm _ _).mem_iff, ruleSpans, ruleSpans, List.append_nil,
    HighlightRule.spans, List.mem_map]
  simp only [eq_comm]
  rfl

theorem colorAt_single_of_not_covers (h : ¬r.Covers text.toList.toArray offset) :
    (highlighted text [r]).colorAt offset = none := by
  rw [Document.colorAt_eq_none_iff]
  intro s hs
  obtain ⟨range, hrange, rfl⟩ := mem_highlight_single.mp hs
  rw [← Bool.not_eq_true, Span.covers]
  intro hcovers
  exact h ⟨range, hrange, by simpa using hcovers⟩

theorem colorAt_single_of_covers (h : r.Covers text.toList.toArray offset) :
    (highlighted text [r]).colorAt offset = some r.color := by
  obtain ⟨range, hrange, hle, hlt⟩ := h
  cases hcolor : (highlighted text [r]).colorAt offset with
  | none =>
      have hnone := (Document.colorAt_eq_none_iff _ _).mp hcolor _
        (mem_highlight_single.mpr ⟨range, hrange, rfl⟩)
      simp only [Span.covers, Bool.and_eq_false_iff, decide_eq_false_iff_not] at hnone
      omega
  | some c =>
      obtain ⟨before, s, after, hspans, -, rfl, -⟩ :=
        (Document.colorAt_eq_some_iff _ _).mp hcolor
      have hs : s ∈ highlight text [r] := by
        change s ∈ (highlighted text [r]).spans
        rw [hspans]
        exact List.mem_append_right _ List.mem_cons_self
      obtain ⟨_, -, rfl⟩ := mem_highlight_single.mp hs
      rfl

/-- What the last rule colours has its colour, and the other rules colour the rest. -/
theorem colorAt_concat_of_covers {rules : List HighlightRule}
    (h : r.Covers text.toList.toArray offset) :
    (highlighted text (rules ++ [r])).colorAt offset = some r.color := by
  rw [colorAt_highlighted_append, colorAt_single_of_covers h, Option.some_or]

theorem colorAt_concat_of_not_covers {rules : List HighlightRule}
    (h : ¬r.Covers text.toList.toArray offset) :
    (highlighted text (rules ++ [r])).colorAt offset =
      (highlighted text rules).colorAt offset := by
  rw [colorAt_highlighted_append, colorAt_single_of_not_covers h, Option.none_or]

end

end BytecodeViewer
