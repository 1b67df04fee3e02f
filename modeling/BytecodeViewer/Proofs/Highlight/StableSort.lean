/-!
# Stable sorting

Sorting by a key keeps the order of what has the same key, and this says all about the result.
So sorting commutes with choosing some of the entries, and its last entry is the last one of
those with the greatest key.
-/

namespace BytecodeViewer

variable {α : Type} {key : α → Int} {l : List α}

def sortBy (key : α → Int) (l : List α) : List α :=
  l.mergeSort fun a b => key a ≤ key b

def SortedBy (key : α → Int) (l : List α) : Prop :=
  l.Pairwise fun a b => key a ≤ key b

theorem key_le_trans (key : α → Int) (a b c : α) (hab : decide (key a ≤ key b) = true)
    (hbc : decide (key b ≤ key c) = true) : decide (key a ≤ key c) = true :=
  decide_eq_true (Int.le_trans (of_decide_eq_true hab) (of_decide_eq_true hbc))

theorem key_le_total (key : α → Int) (a b : α) :
    (decide (key a ≤ key b) || decide (key b ≤ key a)) = true := by
  rw [Bool.or_eq_true, decide_eq_true_eq, decide_eq_true_eq]
  exact Int.le_total (key a) (key b)

theorem sortedBy_sortBy (key : α → Int) (l : List α) : SortedBy key (sortBy key l) :=
  (List.pairwise_mergeSort (key_le_trans key) (key_le_total key) l).imp of_decide_eq_true

theorem sortBy_perm (key : α → Int) (l : List α) : (sortBy key l).Perm l :=
  List.mergeSort_perm l _

theorem filter_key_sortBy (l : List α) (k : Int) :
    (sortBy key l).filter (key · = k) = l.filter (key · = k) := by
  have hsorted : (l.filter (key · = k)).Pairwise fun a b => decide (key a ≤ key b) = true := by
    refine List.pairwise_of_forall_mem_list fun a ha b hb => ?_
    have hka : key a = k := of_decide_eq_true (List.mem_filter.mp ha).2
    have hkb : key b = k := of_decide_eq_true (List.mem_filter.mp hb).2
    exact decide_eq_true (by omega)
  have hsub : (l.filter (key · = k)).Sublist (sortBy key l) :=
    List.sublist_mergeSort (key_le_trans key) (key_le_total key) hsorted List.filter_sublist
  have hfilter := hsub.filter (key · = k)
  rw [List.filter_filter] at hfilter
  simp only [Bool.and_self] at hfilter
  exact (hfilter.eq_of_length ((sortBy_perm key l).filter _).length_eq.symm).symm

theorem filter_cons_of_key {a : α} {k : Int} (h : key a = k) (l : List α) :
    (a :: l).filter (key · = k) = a :: l.filter (key · = k) :=
  List.filter_cons_of_pos (decide_eq_true h)

theorem mem_iff_of_filter_key {l' : List α}
    (same : ∀ k, l.filter (key · = k) = l'.filter (key · = k)) (a : α) : a ∈ l ↔ a ∈ l' := by
  have hkey := congrArg (a ∈ ·) (same (key a))
  simpa [List.mem_filter] using hkey

/-- Two sorted lists are the same if they have the same entries, in one order, for each key. -/
theorem SortedBy.ext {l' : List α} (h : SortedBy key l) (h' : SortedBy key l')
    (same : ∀ k, l.filter (key · = k) = l'.filter (key · = k)) : l = l' := by
  induction l generalizing l' with
  | nil =>
      cases l' with
      | nil => rfl
      | cons b l' =>
          exact absurd ((mem_iff_of_filter_key same b).mpr List.mem_cons_self) List.not_mem_nil
  | cons a l ih =>
      have mem_iff := mem_iff_of_filter_key same
      cases l' with
      | nil => exact absurd ((mem_iff a).mp List.mem_cons_self) List.not_mem_nil
      | cons b l' =>
          have hab : key a ≤ key b := by
            rcases List.mem_cons.mp ((mem_iff b).mpr List.mem_cons_self) with rfl | hb
            · exact Int.le_refl _
            · exact (List.pairwise_cons.mp h).1 b hb
          have hba : key b ≤ key a := by
            rcases List.mem_cons.mp ((mem_iff a).mp List.mem_cons_self) with rfl | ha
            · exact Int.le_refl _
            · exact (List.pairwise_cons.mp h').1 a ha
          have hkey : key b = key a := Int.le_antisymm hba hab
          have hheads := same (key a)
          rw [filter_cons_of_key rfl, filter_cons_of_key hkey] at hheads
          obtain ⟨rfl, -⟩ := List.cons.inj hheads
          have tails (k : Int) : l.filter (key · = k) = l'.filter (key · = k) := by
            have hk := same k
            by_cases hcase : key a = k
            · simpa [List.filter_cons, hcase] using hk
            · simpa [List.filter_cons, hcase] using hk
          rw [ih (List.pairwise_cons.mp h).2 (List.pairwise_cons.mp h').2 tails]

theorem filter_sortBy (p : α → Bool) (l : List α) :
    (sortBy key l).filter p = sortBy key (l.filter p) := by
  refine SortedBy.ext ((sortedBy_sortBy key l).sublist List.filter_sublist)
    (sortedBy_sortBy key _) fun k => ?_
  have swap (xs : List α) :
      (xs.filter p).filter (key · = k) = (xs.filter (key · = k)).filter p := by
    rw [List.filter_filter, List.filter_filter]
    exact List.filter_congr fun a _ => Bool.and_comm _ _
  rw [swap, filter_key_sortBy, filter_key_sortBy, swap]

/-- Sorting by one key what is sorted by another sorts by both. -/
theorem pairwise_sortBy {other : α → Int} (h : SortedBy other l) :
    (sortBy key l).Pairwise fun a b => key a < key b ∨ key a = key b ∧ other a ≤ other b := by
  refine List.pairwise_iff_forall_sublist.mpr fun {a b} hab => ?_
  have hle : key a ≤ key b :=
    List.pairwise_iff_forall_sublist.mp (sortedBy_sortBy key l) hab
  rcases Int.lt_or_eq_of_le hle with hlt | heq
  · exact .inl hlt
  · refine .inr ⟨heq, List.pairwise_iff_forall_sublist.mp h ?_⟩
    have hfilter := hab.filter (key · = key b)
    rw [filter_cons_of_key heq, filter_cons_of_key rfl, List.filter_nil,
      filter_key_sortBy] at hfilter
    exact hfilter.trans List.filter_sublist

theorem map_sortBy {β : Type} {key' : β → Int} {f : α → β} (l : List α)
    (hkey : ∀ a ∈ l, ∀ b ∈ l, key a ≤ key b ↔ key' (f a) ≤ key' (f b)) :
    (sortBy key l).map f = sortBy key' (l.map f) :=
  List.map_mergeSort fun a ha b hb => decide_eq_decide.mpr (hkey a ha b hb)

/-- A sorted list is made of those entries below a bound and the others. -/
theorem SortedBy.filter_append_filter (h : SortedBy key l) (bound : Int) :
    l.filter (key · < bound) ++ l.filter (bound ≤ key ·) = l := by
  induction l with
  | nil => rfl
  | cons a l ih =>
      obtain ⟨hle, htail⟩ := List.pairwise_cons.mp h
      by_cases hlt : key a < bound
      · have hnot : ¬bound ≤ key a := by omega
        simp only [List.filter_cons, hlt, hnot, decide_true, decide_false, if_true,
          Bool.false_eq_true, if_false, List.cons_append, ih htail]
      · have hall : ∀ b ∈ a :: l, bound ≤ key b := by
          intro b hb
          rcases List.mem_cons.mp hb with rfl | hb
          · omega
          · have := hle b hb
            omega
        have hnone : (a :: l).filter (key · < bound) = [] :=
          List.filter_eq_nil_iff.mpr fun b hb => by
            have := hall b hb
            simp only [decide_eq_true_eq]
            omega
        rw [hnone, List.filter_eq_self.mpr fun b hb => decide_eq_true (hall b hb)]
        rfl

theorem SortedBy.le_last (h : SortedBy key l) {a : α} (hlast : l.getLast? = some a) :
    ∀ b ∈ l, key b ≤ key a := by
  obtain ⟨firsts, rfl⟩ := List.getLast?_eq_some_iff.mp hlast
  intro b hb
  rcases List.mem_append.mp hb with hb | hb
  · exact (List.pairwise_append.mp h).2.2 b hb a List.mem_cons_self
  · exact Int.le_of_eq (congrArg key (List.mem_singleton.mp hb))

/-- A sorted list ends with the entries that have the greatest key. -/
theorem SortedBy.filter_append_filter_key (h : SortedBy key l) {k : Int}
    (hle : ∀ b ∈ l, key b ≤ k) : l.filter (key · < k) ++ l.filter (key · = k) = l := by
  have htop : l.filter (k ≤ key ·) = l.filter (key · = k) := by
    refine List.filter_congr fun b hb => decide_eq_decide.mpr ?_
    have := hle b hb
    omega
  rw [← htop]
  exact h.filter_append_filter k

/-- The last entry is the last one of those with the greatest key. -/
theorem getLast?_sortBy_eq_some {a : α} :
    (sortBy key l).getLast? = some a ↔ ∃ before after, l = before ++ a :: after ∧
      (∀ b ∈ before, key b ≤ key a) ∧ ∀ b ∈ after, key b < key a := by
  have hequal : (sortBy key l).filter (key · = key a) = l.filter (key · = key a) :=
    filter_key_sortBy l (key a)
  have hmem (b : α) : b ∈ sortBy key l ↔ b ∈ l := (sortBy_perm key l).mem_iff
  constructor
  · intro hlast
    have hgreatest (b : α) (hb : b ∈ l) : key b ≤ key a :=
      (sortedBy_sortBy key l).le_last hlast b ((hmem b).mpr hb)
    obtain ⟨firsts, hfirsts⟩ := List.getLast?_eq_some_iff.mp hlast
    rw [hfirsts, List.filter_append, filter_cons_of_key rfl, List.filter_nil] at hequal
    obtain ⟨before, rest, rfl, -, hrest⟩ := List.filter_eq_append_iff.mp hequal.symm
    obtain ⟨skipped, after, rfl, hskipped, -, hafter⟩ := List.filter_eq_cons_iff.mp hrest
    refine ⟨before ++ skipped, after, by simp, ?_, ?_⟩
    · intro b hb
      refine hgreatest b ?_
      rcases List.mem_append.mp hb with hb | hb <;> simp [hb]
    · intro b hb
      have hle := hgreatest b (by simp [hb])
      have hne := List.filter_eq_nil_iff.mp hafter b hb
      simp only [decide_eq_true_eq] at hne
      omega
  · rintro ⟨before, after, rfl, hbefore, hafter⟩
    have hgreatest : ∀ b ∈ sortBy key (before ++ a :: after), key b ≤ key a := by
      intro b hb
      rcases List.mem_append.mp ((hmem b).mp hb) with hb | hb
      · exact hbefore b hb
      · rcases List.mem_cons.mp hb with rfl | hb
        · exact Int.le_refl _
        · exact Int.le_of_lt (hafter b hb)
    have hnone : after.filter (key · = key a) = [] := by
      refine List.filter_eq_nil_iff.mpr fun b hb => ?_
      have := hafter b hb
      simp only [decide_eq_true_eq]
      omega
    rw [← (sortedBy_sortBy key _).filter_append_filter_key hgreatest, hequal, List.filter_append,
      filter_cons_of_key rfl, hnone]
    simp

end BytecodeViewer
