import Mathlib.Data.List.Infix
import BytecodeViewer.Text.Case

/-!
# Parts of texts in lower case

A capital sigma is lowered to its final form at the end of a word, so what stands around a
text may change its lower-case form.  A text that says by itself what becomes of its sigmas
is found in lower case wherever it occurs, and any other one is missed somewhere.
-/

namespace BytecodeViewer.Text

/-- A text is a contiguous part of another one. -/
def Occurs (part s : String) : Prop :=
  part.toList <:+: s.toList

/-! ## Characters in context -/

variable {before after before' after' cs ds u v w : List Char} {c : Char}

/-- The lower-case form of a character between others, those before it reversed. -/
def lowerAt (before after : List Char) (c : Char) : List Char :=
  if c = 'Σ' then if touchesCased before && !touchesCased after then ['ς'] else ['σ']
  else lowerForm c

/-- The lower-case form of a part of a text between the other parts, the one before it
reversed. -/
def lowerWithin (before after : List Char) : List Char → List Char
  | [] => []
  | c :: cs => lowerAt before (cs ++ after) c ++ lowerWithin (c :: before) after cs

theorem lowerAfter_cons : lowerAfter before (c :: cs) =
    lowerAt before cs c ++ lowerAfter (c :: before) cs := rfl

theorem lowerAfter_append (before cs after : List Char) : lowerAfter before (cs ++ after) =
    lowerWithin before after cs ++ lowerAfter (cs.reverse ++ before) after := by
  induction cs generalizing before with
  | nil => rfl
  | cons c cs ih =>
      rw [List.cons_append, lowerAfter_cons, ih, lowerWithin, List.append_assoc]
      simp

theorem toList_lower (s : String) : (lower s).toList = lowerWithin [] [] s.toList := by
  have happend := lowerAfter_append [] s.toList []
  rw [List.append_nil] at happend
  simp [lower, happend, lowerAfter]

theorem lowerWithin_append (before after cs ds : List Char) :
    lowerWithin before after (cs ++ ds) =
      lowerWithin before (ds ++ after) cs ++ lowerWithin (cs.reverse ++ before) after ds := by
  induction cs generalizing before with
  | nil => rfl
  | cons c cs ih => simp [lowerWithin, ih]

theorem length_lowerAt (before after before' after' : List Char) (c : Char) :
    (lowerAt before after c).length = (lowerAt before' after' c).length := by
  unfold lowerAt
  split
  · split <;> split <;> rfl
  · rfl

theorem length_lowerWithin (before after before' after' cs : List Char) :
    (lowerWithin before after cs).length = (lowerWithin before' after' cs).length := by
  induction cs generalizing before before' with
  | nil => rfl
  | cons c cs ih =>
      rw [lowerWithin, lowerWithin, List.length_append, List.length_append,
        length_lowerAt before (cs ++ after) before' (cs ++ after'), ih (c :: before) (c :: before')]

/-! ## Texts that say what becomes of their sigmas -/

/-- Whether one of some characters is not passed over in the search for a letter. -/
def stops (cs : List Char) : Bool :=
  cs.any (!caseIgnorableRanges.has ·)

theorem touchesCased_append (cs ds : List Char) :
    touchesCased (cs ++ ds) = if stops cs then touchesCased cs else touchesCased ds := by
  induction cs with
  | nil => rfl
  | cons c cs ih =>
      by_cases hc : caseIgnorableRanges.has c = true
      · simp [touchesCased, stops, hc, ih]
      · simp [touchesCased, stops, hc]

theorem touchesCased_of_not_stops (h : ¬stops cs = true) : touchesCased cs = false := by
  have happend := touchesCased_append cs []
  rw [List.append_nil, if_neg h] at happend
  exact happend

theorem stops_reverse : stops cs.reverse = stops cs :=
  List.any_reverse

/-- Around each capital sigma a text says whether letters stand next to it, as far as that
matters: one after it, or none before it, is enough. -/
def Steady (w : List Char) : Prop :=
  ∀ u v, w = u ++ 'Σ' :: v → touchesCased v = true ∨
    stops u = true ∧ (touchesCased u.reverse = false ∨ stops v = true)

theorem touchesCased_around (u before : List Char) : touchesCased (u.reverse ++ before) =
    if stops u then touchesCased u.reverse else touchesCased before := by
  rw [touchesCased_append, stops_reverse]

theorem lowerAt_sigma : lowerAt before after 'Σ' =
    if touchesCased before && !touchesCased after then ['ς'] else ['σ'] := rfl

theorem Steady.lowerAt_eq (steady : Steady w) (hw : w = u ++ c :: v) (before after : List Char) :
    lowerAt (u.reverse ++ before) (v ++ after) c = lowerAt u.reverse v c := by
  by_cases hc : c = 'Σ'
  · subst hc
    rw [lowerAt_sigma, lowerAt_sigma, touchesCased_around, touchesCased_append]
    rcases steady u v hw with hafter | ⟨hu, hbefore | hv⟩
    · have hv : stops v = true := by
        by_contra hv
        rw [touchesCased_of_not_stops hv] at hafter
        cases hafter
      simp [hv, hafter]
    · simp [hu, hbefore]
    · simp [hu, hv]
  · rw [lowerAt, lowerAt, if_neg hc, if_neg hc]

theorem Steady.lowerWithin_eq (steady : Steady w) (hw : w = u ++ v) (before after : List Char) :
    lowerWithin (u.reverse ++ before) after v = lowerWithin u.reverse [] v := by
  induction v generalizing u with
  | nil => rfl
  | cons c v ih =>
      have hrest := ih (show w = (u ++ [c]) ++ v by simp [hw])
      have hreverse : (u ++ [c]).reverse = c :: u.reverse := by simp
      rw [hreverse, List.cons_append] at hrest
      rw [lowerWithin, lowerWithin, hrest, steady.lowerAt_eq hw before after, List.append_nil]

theorem Steady.infix_lower (steady : Steady w) (before after : List Char) :
    lowerWithin [] [] w <:+: lowerWithin [] [] (before ++ w ++ after) := by
  have hsame : lowerWithin before.reverse after w = lowerWithin [] [] w := by
    have heq := steady.lowerWithin_eq (show w = [] ++ w from rfl) before.reverse after
    exact heq
  rw [lowerWithin_append, lowerWithin_append, List.append_nil, List.append_nil,
    List.append_nil, hsame]
  exact List.infix_append _ _ _

/-! ## Texts that are missed -/

theorem lowerAt_eq_of_lowerWithin_eq
    (h : lowerWithin before after (u ++ c :: v) = lowerWithin before' after' (u ++ c :: v)) :
    lowerAt (u.reverse ++ before) (v ++ after) c =
      lowerAt (u.reverse ++ before') (v ++ after') c := by
  rw [lowerWithin_append, lowerWithin_append] at h
  have hrest := (List.append_inj h (length_lowerWithin _ _ _ _ _)).2
  exact (List.append_inj hrest (length_lowerAt _ _ _ _ _)).1

/-- There are small letters other than a given character. -/
theorem exists_letter (last : Option Char) :
    ∃ x, last ≠ some x ∧ touchesCased [x] = true ∧
      ∀ before after, lowerAt before after x = [x] := by
  by_cases hx : last = some 'x'
  · exact ⟨'y', by simp [hx], by decide +kernel, fun _ _ => rfl⟩
  · exact ⟨'x', hx, by decide +kernel, fun _ _ => rfl⟩

theorem not_infix_concat {x : Char} (hlast : cs.getLast? ≠ some x) (hlength : cs.length = ds.length)
    (hne : cs ≠ ds) (hcs : cs ≠ []) : ¬cs <:+: ds ++ [x] := by
  intro h
  rcases List.infix_concat_iff.mp h with hend | hinner
  · rcases List.suffix_concat_iff.mp hend with hnil | ⟨t, rfl, -⟩
    · exact hcs hnil
    · simp at hlast
  · exact hne (hinner.eq_of_length hlength)

theorem not_infix_cons {x : Char} (hhead : cs.head? ≠ some x) (hlength : cs.length = ds.length)
    (hne : cs ≠ ds) (hcs : cs ≠ []) : ¬cs <:+: x :: ds := by
  intro h
  rcases List.infix_cons_iff.mp h with hstart | hinner
  · rcases List.prefix_cons_iff.mp hstart with hnil | ⟨t, rfl, -⟩
    · exact hcs hnil
    · simp at hhead
  · exact hne (hinner.eq_of_length hlength)

theorem lowerWithin_ne_nil (before after u v : List Char) :
    lowerWithin before after (u ++ 'Σ' :: v) ≠ [] := by
  have hsigma (before after : List Char) : lowerAt before after 'Σ' ≠ [] := by
    rw [lowerAt_sigma]
    split <;> simp
  simp [lowerWithin_append, lowerWithin, hsigma]

/-- A text that is not steady is missed with one more letter behind it or in front of it. -/
theorem exists_missed (unsteady : ¬Steady w) :
    ∃ before after, ¬lowerWithin [] [] w <:+: lowerWithin [] [] (before ++ w ++ after) := by
  simp only [Steady, not_forall, not_or, not_and, Bool.not_eq_true, Bool.not_eq_false] at unsteady
  obtain ⟨u, v, rfl, hafter, hbefore⟩ := unsteady
  let lowered := lowerWithin [] [] (u ++ 'Σ' :: v)
  have hnil : lowered ≠ [] := lowerWithin_ne_nil _ _ _ _
  by_cases hu : stops u = true
  · -- The sigma is final, unless a letter comes next.
    obtain ⟨htouches, hv⟩ := hbefore hu
    obtain ⟨x, hx, hcased, hlower⟩ := exists_letter lowered.getLast?
    have hchanged : lowered ≠ lowerWithin [] [x] (u ++ 'Σ' :: v) := by
      intro hsame
      have hform := lowerAt_eq_of_lowerWithin_eq hsame
      simp [lowerAt_sigma, touchesCased_append, hv, hafter, htouches, hcased] at hform
    refine ⟨[], [x], ?_⟩
    have hletter (before after : List Char) : lowerWithin before after [x] = [x] := by
      rw [lowerWithin, hlower, lowerWithin, List.append_nil]
    rw [List.nil_append, lowerWithin_append [] [] (u ++ 'Σ' :: v) [x], hletter]
    exact not_infix_concat hx (length_lowerWithin _ _ _ _ _) hchanged hnil
  · -- The sigma is not final, unless a letter comes before it.
    obtain ⟨x, hx, hcased, hlower⟩ := exists_letter lowered.head?
    have htouches := touchesCased_of_not_stops (stops_reverse.trans_ne hu)
    have hchanged : lowered ≠ lowerWithin [x] [] (u ++ 'Σ' :: v) := by
      intro hsame
      have hform := lowerAt_eq_of_lowerWithin_eq hsame
      simp [lowerAt_sigma, touchesCased_around, hu, hafter, htouches, hcased] at hform
    refine ⟨[x], [], ?_⟩
    rw [List.append_nil, List.singleton_append, lowerWithin, hlower]
    exact not_infix_cons hx (length_lowerWithin _ _ _ _ _) hchanged hnil

/-- A text is found in lower case wherever it occurs exactly if it is steady. -/
theorem steady_iff {w : String} :
    Steady w.toList ↔ ∀ s, Occurs w s → Occurs (lower w) (lower s) := by
  constructor
  · rintro steady s ⟨before, after, hs⟩
    rw [Occurs, toList_lower, toList_lower, ← hs]
    exact steady.infix_lower before after
  · intro found
    by_contra unsteady
    obtain ⟨before, after, hmissed⟩ := exists_missed unsteady
    have hoccurs : Occurs w (String.ofList (before ++ w.toList ++ after)) := by
      rw [Occurs, String.toList_ofList]
      exact List.infix_append _ _ _
    have hlower := found _ hoccurs
    rw [Occurs, toList_lower, toList_lower, String.toList_ofList] at hlower
    exact hmissed hlower

end BytecodeViewer.Text
