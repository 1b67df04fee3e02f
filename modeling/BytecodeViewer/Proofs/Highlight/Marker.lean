import BytecodeViewer.Pattern.Reader
import BytecodeViewer.Proofs.Highlight.Layers

/-!
# Marking one character

For every offset there is a rule that colours the character at this offset and nothing else.
-/

namespace BytecodeViewer

open Pattern (Node Way Captures Rest Successive)

variable {α : Type} {text : Array Char}

namespace Pattern

theorem any_ways (i : Nat) (caps : Captures) (rest : Rest α) :
    Node.ways text (.char .any) i caps rest =
      if i < text.size then rest (i + 1) caps else none := by
  by_cases hi : i < text.size
  · simp [Node.ways, hi, CharTest.holds]
  · simp [Node.ways, hi]

theorem times_any (n i : Nat) (caps : Captures) (rest : Rest α) (hi : i ≤ text.size) :
    Way.times (Node.ways text (.char .any)) n i caps rest =
      if i + n ≤ text.size then rest (i + n) caps else none := by
  induction n generalizing i with
  | zero => simp [Way.times, hi]
  | succ n ih =>
      have hfirst : Way.times (Node.ways text (.char .any)) (n + 1) i caps rest =
          if i < text.size then Way.times (Node.ways text (.char .any)) n (i + 1) caps rest
          else none :=
        any_ways i caps fun j caps' => Way.times (Node.ways text (.char .any)) n j caps' rest
      rw [hfirst]
      by_cases hlt : i < text.size
      · rw [if_pos hlt, ih (i + 1) hlt, Nat.add_assoc, Nat.add_comm 1 n]
      · rw [if_neg hlt, if_neg (by omega)]

theorem greedy_limit_zero (body : Way α) (fuel i : Nat) (caps : Captures) (rest : Rest α) :
    body.greedy fuel (some 0) i caps rest = rest i caps := by
  cases fuel <;> rfl

end Pattern

/-- The pattern of the character at an offset, which is its group. -/
def markerPattern (offset : Nat) : Pattern where
  source := "(?s)\\A.\x7b" ++ toString offset ++ "\x7d(.)"
  groups := 1
  root := .sequence [.anchor .textStart, .repetition (.char .any) offset (some offset) .greedy,
    .group 1 (.char .any)]

example : (Pattern.read "(?s)\\A.\x7b3\x7d(.)" {}).toOption = some (markerPattern 3) := by
  decide +kernel

def marker (offset : Nat) (color : Color) : HighlightRule :=
  ⟨markerPattern offset, color⟩

variable {offset : Nat}

theorem matchAt?_marker_eq (mustAdvance : Bool) (i : Nat) :
    (markerPattern offset).matchAt? text mustAdvance i =
      if Pattern.Anchor.textStart.holds text i then
        Way.times (Node.ways text (.char .any)) offset i [] fun j caps =>
          Way.greedy (Node.ways text (.char .any)) (text.size + 1 - j) (some (offset - offset)) j
            caps fun j caps => Node.ways text (.char .any) j caps fun k caps =>
              if mustAdvance && k == i then none else some ⟨i, k, (1, j, k) :: caps⟩
      else none := rfl

theorem matchAt?_marker (hoffset : offset < text.size) (mustAdvance : Bool) :
    (markerPattern offset).matchAt? text mustAdvance 0 =
      some ⟨0, offset + 1, [(1, offset, offset + 1)]⟩ := by
  have hstart : Pattern.Anchor.textStart.holds text 0 = true := rfl
  have hle : 0 + offset ≤ text.size := by omega
  rw [matchAt?_marker_eq, if_pos hstart, Pattern.times_any _ _ _ _ (Nat.zero_le _), if_pos hle,
    Nat.sub_self, Pattern.greedy_limit_zero, Pattern.any_ways, Nat.zero_add, if_pos hoffset]
  simp

theorem matchAt?_marker_of_ne {i : Nat} (hi : i ≠ 0) (mustAdvance : Bool) :
    (markerPattern offset).matchAt? text mustAdvance i = none := by
  have hstart : ¬Pattern.Anchor.textStart.holds text i = true := by
    simpa [Pattern.Anchor.holds] using hi
  rw [matchAt?_marker_eq, if_neg hstart]

theorem matchesIn_marker (hoffset : offset < text.size) :
    (markerPattern offset).matchesIn text = [⟨0, offset + 1, [(1, offset, offset + 1)]⟩] := by
  refine (Pattern.successive_matchesIn _ text).unique
    (.next (Nat.le_refl 0) (Nat.zero_le _) (matchAt?_marker hoffset _) ?_ (.done ?_))
  · intro k _ hk
    exact absurd hk (Nat.not_lt_zero k)
  · intro k hk _
    exact matchAt?_marker_of_ne (Nat.ne_of_gt (Nat.lt_of_lt_of_le (Nat.succ_pos offset) hk)) _

theorem highlight_marker {text : String} (hoffset : offset < text.length) (color : Color) :
    highlight text [marker offset color] = [⟨offset, (offset + 1 : Nat), color, 0⟩] := by
  have hsize : offset < text.toList.toArray.size := by
    rwa [List.size_toArray, String.length_toList]
  have hspans : (marker offset color).spans text.toList.toArray 0 =
      [⟨offset, (offset + 1 : Nat), color, 0⟩] := by
    have hranges : (marker offset color).ranges text.toList.toArray = [(offset, offset + 1)] := by
      simp [HighlightRule.ranges, HighlightRule.colorsNothing, marker, matchesIn_marker hsize,
        Pattern.Match.group?, Captures.range?, Option.filter]
      exact Nat.one_ne_zero
    rw [HighlightRule.spans, hranges]
    rfl
  rw [highlight_eq, ruleSpans, ruleSpans, hspans]
  exact List.mergeSort_singleton _

/-- The rule colours the one character. -/
theorem colorAt_marker {text : String} (hoffset : offset < text.length) (color : Color)
    (other : Nat) :
    (highlighted text [marker offset color]).colorAt other =
      if other = offset then some color else none := by
  have hdraw : (highlighted text [marker offset color]).drawOrder =
      [⟨offset, (offset + 1 : Nat), color, 0⟩] := by
    rw [Document.drawOrder_eq, highlighted, highlight_marker hoffset]
    exact List.mergeSort_singleton _
  have hcovers : Span.covers ⟨offset, (offset + 1 : Nat), color, 0⟩ other =
      decide (other = offset) := by
    rw [Bool.eq_iff_iff]
    simp only [Span.covers, Bool.and_eq_true, decide_eq_true_eq]
    omega
  rw [Document.colorAt_eq, hdraw, lastColor, List.filter_cons, hcovers]
  by_cases h : other = offset <;> simp [h]

end BytecodeViewer
