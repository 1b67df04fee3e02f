import BytecodeViewer.Proofs.Pattern.Bounds

/-!
# Successive matches

The matches of a pattern in a text are exactly those that a search from left to right finds:
each one is the first that begins where the last one ended or later, and behind an empty one
the next may not be empty at the same position.
-/

namespace BytecodeViewer.Pattern

/-- All matches from a position on, where a match at the position itself may have to
advance. -/
inductive Successive (p : Pattern) (text : Array Char) : Bool → Nat → List Match → Prop
  | done {mustAdvance : Bool} {i : Nat}
      (none : ∀ k, i ≤ k → k ≤ text.size → p.matchAt? text (mustAdvance && k == i) k = none) :
      Successive p text mustAdvance i []
  | next {mustAdvance : Bool} {i : Nat} {m : Match} {ms : List Match} (start_ge : i ≤ m.start)
      (start_le : m.start ≤ text.size)
      (here : p.matchAt? text (mustAdvance && m.start == i) m.start = some m)
      (first : ∀ k, i ≤ k → k < m.start → p.matchAt? text (mustAdvance && k == i) k = none)
      (rest : Successive p text (m.stop == m.start) m.stop ms) :
      Successive p text mustAdvance i (m :: ms)

variable {p : Pattern} {text : Array Char} {mustAdvance : Bool} {i : Nat} {m : Match}

theorem matchAt?_bounds (hi : i ≤ text.size) (h : p.matchAt? text mustAdvance i = some m) :
    m.start = i ∧ i ≤ m.stop ∧ m.stop ≤ text.size ∧ m.captures.Within text.size ∧
      (mustAdvance = true → m.stop ≠ i) := by
  obtain ⟨j, caps, hij, hj, hcaps, hend⟩ := Node.advances text p.root hi .nil h
  split at hend
  · cases hend
  · next hne =>
    cases hend
    refine ⟨rfl, hij, hj, hcaps, fun hadvance hstop => hne ?_⟩
    simpa [hadvance] using hstop

/-- Only at the first position a match can have to advance. -/
theorem matchAt?_of_ne {k : Nat} (hne : k ≠ i) :
    p.matchAt? text (mustAdvance && k == i) k = p.matchAt? text false k := by
  rw [beq_false_of_ne hne, Bool.and_false]

theorem firstMatch?_eq_none {count : Nat} (h : p.firstMatch? text mustAdvance count i = none)
    {k : Nat} (hik : i ≤ k) (hk : k < i + count) :
    p.matchAt? text (mustAdvance && k == i) k = none := by
  induction count generalizing mustAdvance i with
  | zero => omega
  | succ count ih =>
      unfold firstMatch? at h
      split at h
      · cases h
      · next hnone =>
        by_cases hsame : k = i
        · simpa [hsame] using hnone
        · rw [matchAt?_of_ne hsame]
          exact ih h (by omega) (by omega)

theorem firstMatch?_eq_some {count : Nat} (h : p.firstMatch? text mustAdvance count i = some m)
    (hcount : i + count ≤ text.size + 1) :
    i ≤ m.start ∧ m.start < i + count ∧
      p.matchAt? text (mustAdvance && m.start == i) m.start = some m ∧
      ∀ k, i ≤ k → k < m.start → p.matchAt? text (mustAdvance && k == i) k = none := by
  induction count generalizing mustAdvance i with
  | zero => cases h
  | succ count ih =>
      unfold firstMatch? at h
      split at h
      · next m' hhere =>
        cases h
        have hstart : m.start = i := (matchAt?_bounds (by omega) hhere).1
        refine ⟨by omega, by omega, ?_, fun k hik hk => by omega⟩
        simpa [hstart] using hhere
      · next hnone =>
        obtain ⟨hge, hlt, hhere, hfirst⟩ := ih h (by omega)
        have hne : m.start ≠ i := by omega
        refine ⟨by omega, by omega, matchAt?_of_ne hne ▸ hhere, fun k hik hk => ?_⟩
        by_cases hsame : k = i
        · simpa [hsame] using hnone
        · rw [matchAt?_of_ne hsame]
          exact hfirst k (by omega) hk

/-- What is left to search, in half positions: behind an empty match only the next position
is new. -/
def left (text : Array Char) (mustAdvance : Bool) (i : Nat) : Nat :=
  2 * (text.size - i) + (if mustAdvance then 0 else 1)

/-- Each match leaves less, unless it is empty at a position where it had to advance. -/
theorem left_lt (hge : i ≤ m.start) (hstop : m.start ≤ m.stop) (hsize : m.stop ≤ text.size)
    (hmoves : mustAdvance = true → m.stop = m.start → i < m.start) :
    left text (m.stop == m.start) m.stop < left text mustAdvance i := by
  unfold left
  by_cases hempty : m.stop = m.start
  · cases mustAdvance with
    | true =>
        have hlt := hmoves rfl hempty
        simp only [hempty, beq_self_eq_true, if_true]
        omega
    | false =>
        simp only [hempty, beq_self_eq_true, if_true, Bool.false_eq_true, if_false]
        omega
  · simp only [beq_false_of_ne hempty, Bool.false_eq_true, if_false]
    cases mustAdvance <;> omega

theorem successive_matchesFrom {fuel : Nat} (hi : i ≤ text.size)
    (hfuel : left text mustAdvance i < fuel) :
    Successive p text mustAdvance i (p.matchesFrom text fuel mustAdvance i) := by
  induction fuel generalizing mustAdvance i with
  | zero => omega
  | succ fuel ih =>
      unfold matchesFrom
      split
      · next m hfound =>
        obtain ⟨hge, hlt, hhere, hfirst⟩ := firstMatch?_eq_some hfound (by omega)
        have hstart : m.start ≤ text.size := by omega
        obtain ⟨-, hstop, hsize, -, hadvance⟩ := matchAt?_bounds hstart hhere
        -- An empty match where the last one ended has not been allowed.
        have hmoves : mustAdvance = true → m.stop = m.start → i < m.start := by
          intro hmust hempty
          refine Nat.lt_of_le_of_ne hge fun hsame => hadvance ?_ hempty
          simp [hmust, hsame]
        have hless := left_lt hge hstop hsize hmoves
        exact .next hge hstart hhere hfirst (ih hsize (by omega))
      · next hnone =>
        refine .done fun k hik hk => firstMatch?_eq_none hnone hik (by omega)

theorem successive_matchesIn (p : Pattern) (text : Array Char) :
    Successive p text false 0 (p.matchesIn text) := by
  apply successive_matchesFrom (Nat.zero_le _)
  simp only [left, Bool.false_eq_true, if_false]
  omega

/-- There is only one way to search. -/
theorem Successive.unique {ms ms' : List Match} (h : Successive p text mustAdvance i ms)
    (h' : Successive p text mustAdvance i ms') : ms = ms' := by
  induction h generalizing ms' with
  | done none =>
      cases h' with
      | done _ => rfl
      | next start_ge start_le here _ _ => cases (none _ start_ge start_le).symm.trans here
  | @next mustAdvance i m ms start_ge start_le here first rest ih =>
      cases h' with
      | done none => cases (none _ start_ge start_le).symm.trans here
      | @next _ _ m' ms' start_ge' _ here' first' rest' =>
          have hstart : m.start = m'.start := by
            rcases Nat.lt_trichotomy m.start m'.start with hlt | heq | hgt
            · cases (first' _ start_ge hlt).symm.trans here
            · exact heq
            · cases (first _ start_ge' hgt).symm.trans here'
          rw [← hstart] at here'
          cases here.symm.trans here'
          rw [ih rest']

/-- The groups of a match are ranges of the text. -/
theorem Successive.group_within {ms : List Match}
    (h : Successive p text mustAdvance i ms) : ∀ m ∈ ms, ∀ index start stop,
      m.group? index = some (start, stop) → start ≤ stop ∧ stop ≤ text.size := by
  induction h with
  | done none => exact fun m hm => absurd hm List.not_mem_nil
  | next start_ge start_le here first rest ih =>
      intro m hm index start stop hgroup
      rcases List.mem_cons.mp hm with rfl | hlater
      · exact (matchAt?_bounds start_le here).2.2.2.1.range hgroup
      · exact ih m hlater index start stop hgroup

end BytecodeViewer.Pattern
