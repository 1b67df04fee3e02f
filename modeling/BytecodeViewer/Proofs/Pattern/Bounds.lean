import BytecodeViewer.Pattern.Matching

/-!
# Patterns stay in the text

Whatever part of a pattern is matched, the position only moves forward, never beyond the end
of the text, and every group captures a range of the text.
-/

namespace BytecodeViewer.Pattern

variable {α : Type} {size : Nat}

def Captures.Within (size : Nat) (caps : Captures) : Prop :=
  ∀ index start stop, (index, start, stop) ∈ caps → start ≤ stop ∧ stop ≤ size

theorem Captures.Within.nil : Captures.Within size [] :=
  fun _ _ _ h => absurd h List.not_mem_nil

theorem Captures.Within.cons {caps : Captures} {index start stop : Nat} (h : caps.Within size)
    (hstart : start ≤ stop) (hstop : stop ≤ size) :
    Captures.Within size ((index, start, stop) :: caps) := by
  intro k a b hmem
  rcases List.mem_cons.mp hmem with hnew | hold
  · cases hnew
    exact ⟨hstart, hstop⟩
  · exact h k a b hold

theorem Captures.Within.range {caps : Captures} {index start stop : Nat} (h : caps.Within size)
    (hrange : caps.range? index = some (start, stop)) : start ≤ stop ∧ stop ≤ size := by
  obtain ⟨before, after, rfl, -⟩ := List.lookup_eq_some_iff.mp hrange
  exact h index start stop (by simp)

namespace Way

/-- Where a way succeeds, it has handed a later position of the text to the rest. -/
def Advances (size : Nat) (way : Way α) : Prop :=
  ∀ ⦃i : Nat⦄ ⦃caps : Captures⦄ ⦃rest : Rest α⦄ ⦃a : α⦄, i ≤ size → caps.Within size →
    way i caps rest = some a →
      ∃ j caps', i ≤ j ∧ j ≤ size ∧ caps'.Within size ∧ rest j caps' = some a

theorem eq_some_of_orTry {first : Option α} {second : Unit → Option α} {a : α}
    (h : orTry first second = some a) : first = some a ∨ second () = some a := by
  cases first with
  | some b => exact .inl h
  | none => exact .inr h

namespace Advances

theorem stay : Advances size (fun i caps rest => rest i caps : Way α) :=
  fun i caps _ _ hi hcaps h => ⟨i, caps, Nat.le_refl i, hi, hcaps, h⟩

/-- The second way may depend on where the first one ends. -/
theorem andThen (first : Way α) (second : Nat → Way α) (hfirst : first.Advances size)
    (hsecond : ∀ j, (second j).Advances size) :
    Advances size fun i caps rest => first i caps fun j caps' => second j j caps' rest := by
  intro i caps rest a hi hcaps h
  obtain ⟨j, caps₁, hij, hj, hcaps₁, hnext⟩ := hfirst hi hcaps h
  obtain ⟨k, caps₂, hjk, hk, hcaps₂, hrest⟩ := hsecond j hj hcaps₁ hnext
  exact ⟨k, caps₂, Nat.le_trans hij hjk, hk, hcaps₂, hrest⟩

theorem orElse (first second : Way α) (hfirst : first.Advances size)
    (hsecond : second.Advances size) :
    Advances size fun i caps rest => orTry (first i caps rest) fun _ => second i caps rest := by
  intro i caps rest a hi hcaps h
  rcases eq_some_of_orTry h with h | h
  · exact hfirst hi hcaps h
  · exact hsecond hi hcaps h

/-- One round of a repetition, which ends the repetition if it consumes nothing. -/
theorem round (body next : Way α) (hbody : body.Advances size) (hnext : next.Advances size) :
    Advances size fun i caps rest => body i caps fun j caps' =>
      if j = i then rest j caps' else next j caps' rest := by
  intro i caps rest a hi hcaps h
  obtain ⟨j, caps₁, hij, hj, hcaps₁, hround⟩ := hbody hi hcaps h
  split at hround
  · exact ⟨j, caps₁, hij, hj, hcaps₁, hround⟩
  · obtain ⟨k, caps₂, hjk, hk, hcaps₂, hrest⟩ := hnext hj hcaps₁ hround
    exact ⟨k, caps₂, Nat.le_trans hij hjk, hk, hcaps₂, hrest⟩

theorem times {body : Way α} (hbody : body.Advances size) (n : Nat) :
    (body.times n).Advances size := by
  induction n with
  | zero => exact stay
  | succ n ih => exact andThen body (fun _ => body.times n) hbody fun _ => ih

theorem greedy {body : Way α} (hbody : body.Advances size) (fuel : Nat) (limit : Option Nat) :
    (body.greedy fuel limit).Advances size := by
  induction fuel generalizing limit with
  | zero => exact stay
  | succ fuel ih =>
      match limit with
      | some 0 => exact stay
      | some (n + 1) => exact orElse _ _ (round _ _ hbody (ih _)) stay
      | none => exact orElse _ _ (round _ _ hbody (ih _)) stay

theorem «lazy» {body : Way α} (hbody : body.Advances size) (fuel : Nat) (limit : Option Nat) :
    (body.lazy fuel limit).Advances size := by
  induction fuel generalizing limit with
  | zero => exact stay
  | succ fuel ih =>
      match limit with
      | some 0 => exact stay
      | some (n + 1) => exact orElse _ _ stay (round _ _ hbody (ih _))
      | none => exact orElse _ _ stay (round _ _ hbody (ih _))

/-- Where a search alone ends, with nothing to go on to. -/
theorem found {body : Way (Nat × Captures)} (hbody : body.Advances size) {i j : Nat}
    {caps caps' : Captures} (hi : i ≤ size) (hcaps : caps.Within size)
    (h : (body i caps fun k caps₁ => some (k, caps₁)) = some (j, caps')) :
    i ≤ j ∧ j ≤ size ∧ caps'.Within size := by
  obtain ⟨k, caps₁, hik, hk, hcaps₁, hend⟩ := hbody hi hcaps h
  cases hend
  exact ⟨hik, hk, hcaps₁⟩

theorem first {body : Way (Nat × Captures)} (hbody : body.Advances size) :
    (body.first : Way α).Advances size := by
  intro i caps rest a hi hcaps h
  unfold Way.first at h
  split at h
  · next j caps' hfound =>
    obtain ⟨hij, hj, hcaps'⟩ := hbody.found hi hcaps hfound
    exact ⟨j, caps', hij, hj, hcaps', h⟩
  · cases h

theorem possessive {body : Way (Nat × Captures)} (hbody : body.Advances size) (least fuel : Nat)
    (limit : Option Nat) : (body.possessive least fuel limit : Way α).Advances size :=
  first (andThen _ (fun _ => Way.greedy body.first fuel limit) (times (first hbody) least)
    fun _ => greedy (first hbody) fuel limit)

end Advances

end Way

theorem le_size_of_copyEnd? {text : Array Char} {rule : CaseRule} {start stop i j : Nat}
    (h : copyEnd? text rule start stop i = some j) : i ≤ j ∧ j ≤ text.size := by
  simp only [copyEnd?, Option.ite_none_right_eq_some, Option.some.injEq] at h
  omega

open Way (Advances) in
/-- The induction is on the tree; what a node does with the rest of the pattern does not
matter, so each case is about the node alone. -/
theorem Node.advances (text : Array Char) (n : Node) {α : Type} :
    Advances text.size (n.ways text : Way α) := by
  induction n generalizing α with
  | empty => exact .stay
  | char test =>
      intro i caps rest a hi hcaps h
      simp only [ways] at h
      split at h
      · next c hc =>
        have hlt : i < text.size := (Array.getElem?_eq_some_iff.mp hc).1
        split at h
        · exact ⟨i + 1, caps, Nat.le_succ i, hlt, hcaps, h⟩
        · cases h
      · cases h
  | seq first second ihFirst ihSecond =>
      exact .andThen (first.ways text) (fun _ => second.ways text) ihFirst fun _ => ihSecond
  | alt first second ihFirst ihSecond =>
      exact .orElse (first.ways text) (second.ways text) ihFirst ihSecond
  | group index body ih =>
      intro i caps rest a hi hcaps h
      obtain ⟨j, caps', hij, hj, hcaps', hrest⟩ := ih hi hcaps h
      exact ⟨j, _, hij, hj, hcaps'.cons hij hj, hrest⟩
  | atomic body ih => exact .first ih
  | repetition body least most greed ih =>
      cases greed with
      | greedy =>
          exact .andThen (Way.times (body.ways text) least)
            (fun j => Way.greedy (body.ways text) (text.size + 1 - j) (most.map (· - least)))
            (.times ih least) fun j => .greedy ih _ _
      | «lazy» =>
          exact .andThen (Way.times (body.ways text) least)
            (fun j => Way.lazy (body.ways text) (text.size + 1 - j) (most.map (· - least)))
            (.times ih least) fun j => .lazy ih _ _
      | possessive =>
          intro i caps rest a hi hcaps h
          exact Advances.possessive ih least _ _ hi hcaps h
  | look side negated body ih =>
      intro i caps rest a hi hcaps h
      simp only [ways] at h
      split at h
      · next j caps' hfound =>
        have hcaps' : caps'.Within text.size := by
          split at hfound
          · exact (ih.found hi hcaps hfound).2.2
          · next width =>
            split at hfound
            · exact (ih.found (Nat.le_trans (Nat.sub_le i width) hi) hcaps hfound).2.2
            · cases hfound
        exact ⟨i, caps', Nat.le_refl i, hi, hcaps', h⟩
      · exact ⟨i, caps, Nat.le_refl i, hi, hcaps, h⟩
      · cases h
  | anchor anchor =>
      intro i caps rest a hi hcaps h
      simp only [ways] at h
      split at h
      · exact ⟨i, caps, Nat.le_refl i, hi, hcaps, h⟩
      · cases h
  | backreference index rule =>
      intro i caps rest a hi hcaps h
      simp only [ways] at h
      split at h
      · split at h
        · next j hcopy =>
          have hj := le_size_of_copyEnd? hcopy
          exact ⟨j, caps, hj.1, hj.2, hcaps, h⟩
        · cases h
      · cases h
  | ifGroup index yes no ihYes ihNo =>
      intro i caps rest a hi hcaps h
      simp only [ways] at h
      split at h
      · exact ihYes hi hcaps h
      · exact ihNo hi hcaps h

end BytecodeViewer.Pattern
