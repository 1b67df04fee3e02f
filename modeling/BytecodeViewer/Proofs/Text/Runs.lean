/-!
# Runs of characters

What a text reads from a place on, and how far it goes on with characters of one kind.  A
maximal run cannot be made longer on either side, so runs of one kind that meet are the same.
-/

namespace BytecodeViewer.Text

variable {text : Array Char} {p q : Char → Bool} {cs ds : List Char} {i j k : Nat}

def hasAt (text : Array Char) (p : Char → Bool) (i : Nat) : Bool :=
  text[i]?.any p

theorem hasAt_eq_true_iff : hasAt text p i = true ↔ ∃ c, text[i]? = some c ∧ p c = true := by
  rw [hasAt, Option.any_eq_true]

theorem hasAt_of_getElem? {c : Char} (h : text[i]? = some c) (p : Char → Bool) :
    hasAt text p i = p c := by
  rw [hasAt, h]
  rfl

theorem lt_size_of_hasAt (h : hasAt text p i = true) : i < text.size := by
  obtain ⟨c, hc, -⟩ := hasAt_eq_true_iff.mp h
  exact (Array.getElem?_eq_some_iff.mp hc).1

theorem hasAt_of_size_le (h : text.size ≤ i) : hasAt text p i = false := by
  rw [hasAt, Array.getElem?_eq_none h]
  rfl

theorem hasAt_mono (hpq : ∀ c, p c = true → q c = true) (h : hasAt text p i = true) :
    hasAt text q i = true := by
  obtain ⟨c, hc, hp⟩ := hasAt_eq_true_iff.mp h
  exact hasAt_eq_true_iff.mpr ⟨c, hc, hpq c hp⟩

/-- No character is of both kinds. -/
theorem hasAt_eq_false_of_disjoint (hpq : ∀ c, p c = true → q c = false)
    (h : hasAt text p i = true) : hasAt text q i = false := by
  obtain ⟨c, hc, hp⟩ := hasAt_eq_true_iff.mp h
  rw [hasAt, hc]
  exact hpq c hp

/-- All characters from one place to another are of one kind. -/
def IsRun (text : Array Char) (p : Char → Bool) (i j : Nat) : Prop :=
  ∀ k, i ≤ k → k < j → hasAt text p k = true

theorem IsRun.refl (text : Array Char) (p : Char → Bool) (i : Nat) : IsRun text p i i :=
  fun _ hik hki => absurd hki (Nat.not_lt.mpr hik)

theorem IsRun.mono (h : IsRun text p i j) (hpq : ∀ c, p c = true → q c = true) :
    IsRun text q i j :=
  fun k hik hkj => hasAt_mono hpq (h k hik hkj)

theorem IsRun.part {i' j' : Nat} (h : IsRun text p i j) (hi : i ≤ i') (hj : j' ≤ j) :
    IsRun text p i' j' :=
  fun k hik hkj => h k (Nat.le_trans hi hik) (Nat.lt_of_lt_of_le hkj hj)

theorem IsRun.append (h : IsRun text p i j) (h' : IsRun text p j k) : IsRun text p i k := by
  intro l hil hlk
  rcases Nat.lt_or_ge l j with hlj | hjl
  · exact h l hil hlj
  · exact h' l hjl hlk

/-- A run has come to its end wherever there is a character of another kind. -/
theorem IsRun.le_of_stop (h : IsRun text p i j) (hik : i ≤ k) (hstop : hasAt text p k = false) :
    j ≤ k := by
  refine Nat.le_of_not_lt fun hkj => ?_
  rw [h k hik hkj] at hstop
  cases hstop

theorem isRun_succ (h : hasAt text p i = true) : IsRun text p i (i + 1) := by
  intro k hik hk
  obtain rfl : k = i := by omega
  exact h

theorem isRun_iff_of_lt (h : i < j) :
    IsRun text p i j ↔ hasAt text p i = true ∧ IsRun text p (i + 1) j :=
  ⟨fun hrun => ⟨hrun i (Nat.le_refl i) h, hrun.part (Nat.le_succ i) (Nat.le_refl j)⟩,
    fun hrun => (isRun_succ hrun.1).append hrun.2⟩

theorem run_iff_of_hasAt (h : hasAt text p i = true) :
    i ≤ j ∧ IsRun text p i j ↔ j = i ∨ i + 1 ≤ j ∧ IsRun text p (i + 1) j := by
  constructor
  · rintro ⟨hij, hrun⟩
    rcases Nat.eq_or_lt_of_le hij with rfl | hlt
    · exact .inl rfl
    · exact .inr ⟨hlt, hrun.part (Nat.le_succ i) (Nat.le_refl j)⟩
  · rintro (rfl | ⟨hij, hrun⟩)
    · exact ⟨Nat.le_refl j, .refl text p j⟩
    · exact ⟨Nat.le_of_succ_le hij, (isRun_iff_of_lt hij).mpr ⟨h, hrun⟩⟩

theorem run_iff_of_not_hasAt (h : hasAt text p i = false) : i ≤ j ∧ IsRun text p i j ↔ j = i := by
  constructor
  · rintro ⟨hij, hrun⟩
    exact Nat.le_antisymm (hrun.le_of_stop (Nat.le_refl i) h) hij
  · rintro rfl
    exact ⟨Nat.le_refl j, .refl text p j⟩

/-- A run ends somewhere, at the end of the text at the latest. -/
theorem exists_run_end (text : Array Char) (p : Char → Bool) (i : Nat) :
    ∃ j, i ≤ j ∧ IsRun text p i j ∧ hasAt text p j = false := by
  induction hleft : text.size - i generalizing i with
  | zero => exact ⟨i, Nat.le_refl i, .refl text p i, hasAt_of_size_le (by omega)⟩
  | succ left ih =>
      cases hfirst : hasAt text p i with
      | false => exact ⟨i, Nat.le_refl i, .refl text p i, hfirst⟩
      | true =>
          obtain ⟨j, hij, hrun, hstop⟩ := ih (i + 1) (by omega)
          exact ⟨j, by omega, (isRun_succ hfirst).append hrun, hstop⟩

/-- From one place on, there is only one place where a run has to end. -/
theorem IsRun.end_unique {j' : Nat} (h : IsRun text p i j) (h' : IsRun text p i j') (hij : i ≤ j)
    (hij' : i ≤ j') (hj : hasAt text p j = false) (hj' : hasAt text p j' = false) : j = j' :=
  Nat.le_antisymm (h.le_of_stop hij' hj') (h'.le_of_stop hij hj)

/-- A run that is as long as it can be. -/
structure MaximalRun (text : Array Char) (p : Char → Bool) (i j : Nat) : Prop where
  lt : i < j
  run : IsRun text p i j
  before : 0 < i → hasAt text p (i - 1) = false
  after : hasAt text p j = false

namespace MaximalRun

theorem le_size (h : MaximalRun text p i j) : j ≤ text.size := by
  have hlt := h.lt
  have := lt_size_of_hasAt (h.run (j - 1) (by omega) (by omega))
  omega

/-- A run that meets a maximal one is part of it. -/
theorem contains {i' j' : Nat} (h : MaximalRun text p i j) (h' : IsRun text p i' j')
    (hk : i ≤ k ∧ k < j) (hk' : i' ≤ k ∧ k < j') : i ≤ i' ∧ j' ≤ j := by
  constructor
  · refine Nat.le_of_not_lt fun hlt => ?_
    have hle : j' ≤ i - 1 := h'.le_of_stop (by omega) (h.before (by omega))
    omega
  · exact h'.le_of_stop (by omega) h.after

theorem eq_of_meet {i' j' : Nat} (h : MaximalRun text p i j) (h' : MaximalRun text p i' j')
    (hk : i ≤ k ∧ k < j) (hk' : i' ≤ k ∧ k < j') : i = i' ∧ j = j' := by
  have hpart := h.contains h'.run hk hk'
  have hpart' := h'.contains h.run hk' hk
  omega

end MaximalRun

/-! ## What a text reads -/

/-- The text has these characters from a place on. -/
def Spells (text : Array Char) : Nat → List Char → Prop
  | _, [] => True
  | i, c :: cs => text[i]? = some c ∧ Spells text (i + 1) cs

instance decidableSpells : (i : Nat) → (cs : List Char) → Decidable (Spells text i cs)
  | _, [] => inferInstanceAs (Decidable True)
  | i, c :: cs =>
    have := decidableSpells (i + 1) cs
    inferInstanceAs (Decidable (text[i]? = some c ∧ Spells text (i + 1) cs))

theorem spells_iff : Spells text i cs ↔ ∀ k < cs.length, text[i + k]? = cs[k]? := by
  induction cs generalizing i with
  | nil => simp [Spells]
  | cons c cs ih =>
      rw [Spells, ih]
      constructor
      · rintro ⟨hfirst, hrest⟩ k hk
        cases k with
        | zero => simpa using hfirst
        | succ k =>
            have := hrest k (by simpa using hk)
            rwa [Nat.add_assoc, Nat.add_comm 1 k] at this
      · intro h
        refine ⟨by simpa using h 0 (Nat.succ_pos _), fun k hk => ?_⟩
        have := h (k + 1) (by simpa using hk)
        rwa [Nat.add_assoc, Nat.add_comm 1 k]

theorem spells_append :
    Spells text i (cs ++ ds) ↔ Spells text i cs ∧ Spells text (i + cs.length) ds := by
  induction cs generalizing i with
  | nil => simp [Spells]
  | cons c cs ih =>
      rw [List.cons_append, Spells, Spells, ih, and_assoc, List.length_cons, Nat.add_assoc,
        Nat.add_comm 1]

theorem spells_self (text : Array Char) : Spells text 0 text.toList :=
  spells_iff.mpr fun k _ => by rw [Nat.zero_add, Array.getElem?_toList]

theorem Spells.isRun (h : Spells text i cs) (hall : ∀ c ∈ cs, p c = true) :
    IsRun text p i (i + cs.length) := by
  intro k hik hk
  have hlt : k - i < cs.length := by omega
  have hget := spells_iff.mp h (k - i) hlt
  rw [Nat.add_sub_cancel' hik, List.getElem?_eq_getElem hlt] at hget
  exact hasAt_eq_true_iff.mpr ⟨_, hget, hall _ (List.getElem_mem hlt)⟩

theorem spells_iff_begins : Spells text i cs ↔ cs <+: text.toList.drop i := by
  rw [spells_iff, List.prefix_iff_getElem?]
  refine forall_congr' fun k => ?_
  constructor
  · intro h hk
    rw [List.getElem?_drop, Array.getElem?_toList, h hk, List.getElem?_eq_getElem hk]
  · intro h hk
    rw [← Array.getElem?_toList, ← List.getElem?_drop, h hk, List.getElem?_eq_getElem hk]

theorem spells_iff_extract :
    Spells text i cs ↔ text.toList.extract i (i + cs.length) = cs := by
  rw [spells_iff_begins, List.prefix_iff_eq_take, List.extract_eq_take_drop,
    Nat.add_sub_cancel_left, eq_comm]

end BytecodeViewer.Text
