import BytecodeViewer.Proofs.Pattern.Outcomes
import BytecodeViewer.Proofs.Pattern.Successive

/-!
# What a search finds

A pattern that always consumes something is found at a position with its first outcome there,
whatever was found before.  A search from left to right finds it wherever no match that begins
earlier reaches over the position.
-/

namespace BytecodeViewer.Pattern

variable {p : Pattern} {text : Array Char} {mustAdvance : Bool} {i j : Nat} {o : Outcome}
  {m : Match} {ms : List Match}

def first? (p : Pattern) (text : Array Char) (i : Nat) : Option Outcome :=
  (p.root.outcomes text i []).head?

/-- The pattern matches nowhere without consuming anything. -/
def Consumes (p : Pattern) (text : Array Char) : Prop :=
  ∀ i, ∀ o ∈ p.root.outcomes text i [], i < o.1

def found (i : Nat) (o : Outcome) : Match :=
  ⟨i, o.1, o.2⟩

theorem Consumes.matchAt?_eq (h : p.Consumes text) (mustAdvance : Bool) (i : Nat) :
    p.matchAt? text mustAdvance i = (p.first? text i).map (found i) := by
  rw [matchAt?, p.root.explores text i, first?]
  cases houtcomes : p.root.outcomes text i [] with
  | nil => rfl
  | cons o os =>
      have hlt : i < o.1 := h i o (by rw [houtcomes]; exact List.mem_cons_self)
      simp [found, Nat.ne_of_gt hlt]

theorem Consumes.first?_of_matchAt? (h : p.Consumes text)
    (hhere : p.matchAt? text mustAdvance m.start = some m) :
    p.first? text m.start = some (m.stop, m.captures) := by
  rw [h.matchAt?_eq, Option.map_eq_some_iff] at hhere
  obtain ⟨o, hfirst, hfound⟩ := hhere
  rw [hfirst, ← hfound]
  rfl

theorem Consumes.matchAt?_eq_none_iff (h : p.Consumes text) :
    p.matchAt? text mustAdvance i = none ↔ p.first? text i = none := by
  rw [h.matchAt?_eq, Option.map_eq_none_iff]

theorem Consumes.lt_of_first? (h : p.Consumes text) (hfirst : p.first? text i = some o) :
    i < o.1 :=
  h i o (List.mem_of_head? hfirst)

theorem first?_eq_some_iff
    (hunique : ∀ o ∈ p.root.outcomes text i [], ∀ o' ∈ p.root.outcomes text i [], o = o') :
    p.first? text i = some o ↔ o ∈ p.root.outcomes text i [] :=
  head?_eq_some_iff_of_unique hunique

namespace Successive

/-- Each match is found where it begins, and the next one does not begin before it ends. -/
theorem first?_of_mem (hp : p.Consumes text) (h : Successive p text mustAdvance i ms)
    (hm : m ∈ ms) : i ≤ m.start ∧ p.first? text m.start = some (m.stop, m.captures) := by
  induction h with
  | done none => cases hm
  | @next mustAdvance i m' ms start_ge start_le here first rest ih =>
      rcases List.mem_cons.mp hm with rfl | hm
      · exact ⟨start_ge, hp.first?_of_matchAt? here⟩
      · have hstop := (matchAt?_bounds start_le here).2.1
        obtain ⟨hge, hfirst⟩ := ih hm
        exact ⟨by omega, hfirst⟩

theorem pairwise (hp : p.Consumes text) (h : Successive p text mustAdvance i ms) :
    ms.Pairwise fun m m' => m.stop ≤ m'.start := by
  induction h with
  | done none => exact .nil
  | next start_ge start_le here first rest ih =>
      exact .cons (fun m' hm' => (rest.first?_of_mem hp hm').1) ih

/-- A search finds a match that no earlier one reaches into. -/
theorem mem_of_first? (hp : p.Consumes text) (h : Successive p text mustAdvance i ms) (hij : i ≤ j)
    (hj : j ≤ text.size) (hfirst : p.first? text j = some o)
    (hfree : ∀ k o', i ≤ k → k < j → p.first? text k = some o' → o'.1 ≤ j) :
    found j o ∈ ms := by
  induction h with
  | done none =>
      have hnone := hp.matchAt?_eq_none_iff.mp (none j hij hj)
      rw [hfirst] at hnone
      cases hnone
  | @next mustAdvance i m ms start_ge start_le here first rest ih =>
      have hhere := hp.first?_of_matchAt? here
      rcases Nat.lt_trichotomy m.start j with hlt | heq | hgt
      · have hstop : m.stop ≤ j := hfree m.start _ start_ge hlt hhere
        have hmove : m.start < m.stop := hp.lt_of_first? hhere
        exact List.mem_cons_of_mem m (ih hstop fun k o' hk => hfree k o' (by omega))
      · subst heq
        rw [hfirst] at hhere
        cases hhere
        exact List.mem_cons_self
      · have hnone := hp.matchAt?_eq_none_iff.mp (first j hij hgt)
        rw [hfirst] at hnone
        cases hnone

theorem nil_of_size (hp : p.Consumes text) (mustAdvance : Bool) :
    Successive p text mustAdvance text.size [] := by
  refine .done fun k hik hk => hp.matchAt?_eq_none_iff.mpr ?_
  obtain rfl := Nat.le_antisymm hk hik
  refine Option.eq_none_iff_forall_ne_some.mpr fun o hfirst => ?_
  have hhere : p.matchAt? text false text.size = some (found text.size o) := by
    rw [hp.matchAt?_eq, hfirst]
    rfl
  exact absurd (hp.lt_of_first? hfirst)
    (Nat.not_lt.mpr (matchAt?_bounds (Nat.le_refl _) hhere).2.2.1)

/-- Whether a match at the first position has to advance makes no difference, and a position
where the pattern is not found may be passed over. -/
theorem skip (hp : p.Consumes text) (hij : i ≤ j)
    (hnone : ∀ k, i ≤ k → k < j → p.first? text k = none)
    (h : Successive p text mustAdvance j ms) (mustAdvance' : Bool) :
    Successive p text mustAdvance' i ms := by
  cases h with
  | done none =>
      refine .done fun k hik hk => hp.matchAt?_eq_none_iff.mpr ?_
      rcases Nat.lt_or_ge k j with hlt | hge
      · exact hnone k hik hlt
      · exact hp.matchAt?_eq_none_iff.mp (none k hge hk)
  | @next _ _ m ms start_ge start_le here first rest =>
      refine .next (Nat.le_trans hij start_ge) start_le ?_ (fun k hik hk => ?_) rest
      · rw [hp.matchAt?_eq, hp.first?_of_matchAt? here]
        rfl
      · rw [hp.matchAt?_eq_none_iff]
        rcases Nat.lt_or_ge k j with hlt | hge
        · exact hnone k hik hlt
        · exact hp.matchAt?_eq_none_iff.mp (first k hge hk)

theorem cons (hp : p.Consumes text) (hi : i ≤ text.size) (hfirst : p.first? text i = some o)
    (h : Successive p text mustAdvance o.1 ms) (mustAdvance' : Bool) :
    Successive p text mustAdvance' i (found i o :: ms) := by
  refine .next (Nat.le_refl i) hi ?_ (fun k hik hk => absurd hk (Nat.not_lt.mpr hik)) ?_
  · change p.matchAt? text _ i = _
    rw [hp.matchAt?_eq, hfirst]
    rfl
  · exact skip hp (Nat.le_refl _) (fun k hik hk => absurd hk (Nat.not_lt.mpr hik)) h _

end Successive

end BytecodeViewer.Pattern
