import Mathlib.Data.List.Basic
import BytecodeViewer.Pattern.Build
import BytecodeViewer.Proofs.Pattern.Outcomes
import BytecodeViewer.Proofs.Text.Runs

/-!
# Outcomes of built patterns

What the nodes that patterns are built of can end at.  A repetition may go as far as its
characters do: the rounds that it is given always suffice, so it can be taken apart round by
round.
-/

namespace BytecodeViewer.Pattern

open Text (hasAt IsRun Spells)

variable {text : Array Char} {size i j : Nat} {caps : Captures} {o : Outcome}

namespace Branch

variable {b : Branch}

/-- Every outcome is further on in the text. -/
def Consumes (size : Nat) (b : Branch) : Prop :=
  ∀ ⦃i : Nat⦄ ⦃caps : Captures⦄ ⦃o : Outcome⦄, o ∈ b i caps → i < o.1 ∧ o.1 ≤ size

theorem Consumes.eq_nil (h : b.Consumes size) (hi : size ≤ i) : b i caps = [] := by
  refine List.eq_nil_iff_forall_not_mem.mpr fun o ho => ?_
  have := h ho
  omega

theorem round_of_consumes (h : b.Consumes size) (next : Branch) :
    b.round next i caps = (b i caps).flatMap fun o => next o.1 o.2 :=
  List.flatMap_congr fun _ ho => if_neg (Nat.ne_of_gt (h ho).1)

theorem greedy_step (h : b.Consumes size) (fuel : Nat) :
    b.greedy (fuel + 1) none i caps =
      ((b i caps).flatMap fun o => b.greedy fuel none o.1 o.2) ++ [(i, caps)] := by
  rw [← round_of_consumes h]
  rfl

/-- As many rounds as there are characters left are enough. -/
theorem greedy_succ (h : b.Consumes size) {fuel : Nat} (hfuel : size + 1 - i ≤ fuel) :
    b.greedy (fuel + 1) none i caps = b.greedy fuel none i caps := by
  induction fuel generalizing i caps with
  | zero =>
      rw [greedy_step h, h.eq_nil (by omega)]
      rfl
  | succ fuel ih =>
      rw [greedy_step h, greedy_step h]
      congr 1
      refine List.flatMap_congr fun o ho => ih ?_
      have := h ho
      omega

theorem greedy_of_le (h : b.Consumes size) {fuel : Nat} (hfuel : size + 1 - i ≤ fuel) :
    b.greedy fuel none i caps = b.greedy (size + 1 - i) none i caps := by
  obtain ⟨extra, rfl⟩ := Nat.exists_eq_add_of_le hfuel
  induction extra with
  | zero => rfl
  | succ extra ih => rw [← Nat.add_assoc, greedy_succ h (by omega), ih (by omega)]

def many (size : Nat) (b : Branch) : Branch := fun i =>
  b.greedy (size + 1 - i) none i

/-- A repetition goes on after one more round, or it ends. -/
theorem many_eq (h : b.Consumes size) :
    b.many size i caps = ((b i caps).flatMap fun o => b.many size o.1 o.2) ++ [(i, caps)] := by
  rw [many, ← greedy_succ h (Nat.le_refl _), greedy_step h]
  congr 1
  refine List.flatMap_congr fun o ho => greedy_of_le h ?_
  have := h ho
  omega

end Branch

/-! ## Tests on one character -/

theorem SetItem.holds_range (first last : Nat) (c : Char) :
    (SetItem.range first last).holds .exact c = (first ≤ c.toNat && c.toNat ≤ last) := by
  rw [Bool.eq_iff_iff]
  simp only [SetItem.holds, CaseRule.forms, List.any_cons, List.any_nil, Bool.or_false,
    bne_self_eq_false, Bool.and_false, Bool.false_and, Bool.or_eq_true, Bool.and_eq_true,
    decide_eq_true_eq]
  omega

theorem SetItem.holds_char (x c : Char) : (SetItem.char x).holds .exact c = (c == x) := by
  rw [SetItem.char, SetItem.one, holds_range, Bool.eq_iff_iff]
  simp only [Bool.and_eq_true, decide_eq_true_eq, beq_iff_eq, ← Char.toNat_inj]
  omega

theorem SetItem.holds_word (c : Char) : SetItem.word.holds .exact c = Text.isWord c :=
  Bool.bne_false _

theorem SetItem.holds_digit (c : Char) : SetItem.digit.holds .exact c = Text.isDecimal c :=
  Bool.bne_false _

theorem CharTest.holds_literal (x c : Char) (negated : Bool) :
    (CharTest.literal x.toNat .exact negated).holds c = ((c == x) != negated) := by
  have hsame : (c.toNat == x.toNat) = (c == x) := by
    rw [Bool.eq_iff_iff, beq_iff_eq, beq_iff_eq, Char.toNat_inj]
  simp [CharTest.holds, CaseRule.forms, CaseRule.fold, hsame]

theorem CharTest.holds_other (x : Char) :
    (CharTest.literal x.toNat .exact true).holds = (· != x) := by
  funext c
  rw [holds_literal, Bool.bne_true]
  rfl

/-- The characters of a set that is compared exactly. -/
def SetItem.anyHolds (items : List SetItem) (c : Char) : Bool :=
  items.any (·.holds .exact c)

theorem CharTest.holds_set (items : List SetItem) :
    (CharTest.set items .exact false).holds = SetItem.anyHolds items := by
  funext c
  simp [CharTest.holds, CaseRule.fold, SetItem.anyHolds]

theorem CharTest.holds_noneOf (items : List SetItem) :
    (CharTest.set items .exact true).holds = fun c => !SetItem.anyHolds items c := by
  funext c
  simp [CharTest.holds, CaseRule.fold, SetItem.anyHolds]

namespace Node

variable {n : Node} {ns : List Node} {cs : List Char}

theorem mem_char {test : CharTest} :
    o ∈ (Node.char test).outcomes text i caps ↔
      hasAt text test.holds i = true ∧ o = (i + 1, caps) := by
  simp only [outcomes_char, hasAt]
  cases text[i]? with
  | none => simp
  | some c => cases h : test.holds c <;> simp [h]

theorem char_consumes (text : Array Char) (test : CharTest) :
    ((Node.char test).outcomes text).Consumes text.size := by
  intro i caps o ho
  obtain ⟨hhas, rfl⟩ := mem_char.mp ho
  exact ⟨Nat.lt_succ_self i, Text.lt_size_of_hasAt hhas⟩

theorem mem_just {c : Char} :
    o ∈ (just c).outcomes text i caps ↔ text[i]? = some c ∧ o = (i + 1, caps) := by
  rw [just, mem_char, Text.hasAt_eq_true_iff]
  simp [CharTest.holds_literal]

theorem mem_oneOf {items : List SetItem} :
    o ∈ (oneOf items).outcomes text i caps ↔
      hasAt text (SetItem.anyHolds items) i = true ∧ o = (i + 1, caps) := by
  rw [oneOf, mem_char, CharTest.holds_set]

theorem mem_noneOf {items : List SetItem} :
    o ∈ (noneOf items).outcomes text i caps ↔
      hasAt text (fun c => !SetItem.anyHolds items c) i = true ∧ o = (i + 1, caps) := by
  rw [noneOf, mem_char, CharTest.holds_noneOf]

theorem mem_other {c : Char} :
    o ∈ (other c).outcomes text i caps ↔
      hasAt text (· != c) i = true ∧ o = (i + 1, caps) := by
  rw [other, mem_char, CharTest.holds_other]

/-! ## Nodes in a row -/

theorem outcomes_sequence_cons :
    (sequence (n :: ns)).outcomes text i caps =
      (n.outcomes text i caps).flatMap fun o => (sequence ns).outcomes text o.1 o.2 := by
  cases ns with
  | nil =>
      change n.outcomes text i caps = (n.outcomes text i caps).flatMap fun o => [(o.1, o.2)]
      simp
  | cons _ _ => rfl

theorem mem_sequence_nil : o ∈ (sequence []).outcomes text i caps ↔ o = (i, caps) :=
  List.mem_singleton

theorem outcomes_sequence_singleton :
    (sequence [n]).outcomes text i caps = n.outcomes text i caps := rfl

theorem mem_sequence_cons :
    o ∈ (sequence (n :: ns)).outcomes text i caps ↔
      ∃ o' ∈ n.outcomes text i caps, o ∈ (sequence ns).outcomes text o'.1 o'.2 := by
  rw [outcomes_sequence_cons, List.mem_flatMap]

theorem outcomes_just {c : Char} (h : text[i]? = some c) :
    (just c).outcomes text i caps = [(i + 1, caps)] := by
  simp [just, outcomes_char, h, CharTest.holds_literal]

/-- Characters in a row are matched where the text reads so, and then the rest is. -/
theorem outcomes_sequence_of_spells (ns : List Node) (h : Spells text i cs) :
    (sequence (cs.map just ++ ns)).outcomes text i caps =
      (sequence ns).outcomes text (i + cs.length) caps := by
  induction cs generalizing i with
  | nil => rfl
  | cons c cs ih =>
      rw [List.map_cons, List.cons_append, outcomes_sequence_cons, outcomes_just h.1,
        List.flatMap_singleton, ih h.2, List.length_cons, Nat.add_assoc, Nat.add_comm 1]

theorem spells_of_mem_sequence (h : o ∈ (sequence (cs.map just ++ ns)).outcomes text i caps) :
    Spells text i cs := by
  induction cs generalizing i with
  | nil => trivial
  | cons c cs ih =>
      rw [List.map_cons, List.cons_append, mem_sequence_cons] at h
      obtain ⟨o', hfirst, hrest⟩ := h
      obtain ⟨hc, rfl⟩ := mem_just.mp hfirst
      exact ⟨hc, ih hrest⟩

theorem mem_sequence_just (cs : List Char) (ns : List Node) :
    o ∈ (sequence (cs.map just ++ ns)).outcomes text i caps ↔
      Spells text i cs ∧ o ∈ (sequence ns).outcomes text (i + cs.length) caps := by
  refine ⟨fun h => ?_, fun h => by rw [outcomes_sequence_of_spells ns h.1]; exact h.2⟩
  have hspells := spells_of_mem_sequence h
  exact ⟨hspells, outcomes_sequence_of_spells ns hspells ▸ h⟩

theorem mem_word {w : String} :
    o ∈ (word w).outcomes text i caps ↔ Spells text i w.toList ∧ o = (i + w.length, caps) := by
  rw [word, ← List.append_nil (w.toList.map just), mem_sequence_just, mem_sequence_nil,
    String.length_toList]

theorem mem_choice (hns : ns ≠ []) :
    o ∈ (choice ns).outcomes text i caps ↔ ∃ n ∈ ns, o ∈ n.outcomes text i caps := by
  induction ns with
  | nil => exact absurd rfl hns
  | cons n ns ih =>
      cases ns with
      | nil => simp [choice]
      | cons n' ns =>
          have hrest := ih (List.cons_ne_nil n' ns)
          change o ∈ n.outcomes text i caps ++ (choice (n' :: ns)).outcomes text i caps ↔ _
          rw [List.mem_append, hrest]
          simp only [List.mem_cons, or_and_right, exists_or, exists_eq_left]

theorem mem_group {index : Nat} :
    o ∈ (group index n).outcomes text i caps ↔
      ∃ o' ∈ n.outcomes text i caps, o = (o'.1, (index, i, o'.1) :: o'.2) := by
  simp [outcomes_group, eq_comm]

theorem head?_group {index : Nat} :
    ((group index n).outcomes text i caps).head? =
      (n.outcomes text i caps).head?.map fun o => (o.1, (index, i, o.1) :: o.2) := by
  simp [outcomes_group]

theorem mem_anchor {a : Anchor} :
    o ∈ (anchor a).outcomes text i caps ↔ a.holds text i = true ∧ o = (i, caps) := by
  cases h : a.holds text i <;> simp [outcomes_anchor, h]

/-! ## Repetitions -/

theorem outcomes_many (n : Node) :
    (many n).outcomes text i caps = (n.outcomes text).many text.size i caps := by
  simp [many, outcomes_greedy, Branch.andThen, Branch.times, Branch.stay, Branch.many]

theorem outcomes_several (n : Node) :
    (several n).outcomes text i caps =
      (n.outcomes text i caps).flatMap fun o => (many n).outcomes text o.1 o.2 := by
  simp only [outcomes_many]
  simp [several, outcomes_greedy, Branch.andThen, Branch.times, Branch.stay, Branch.many]

theorem mem_several :
    o ∈ (several n).outcomes text i caps ↔
      ∃ o' ∈ n.outcomes text i caps, o ∈ (many n).outcomes text o'.1 o'.2 := by
  rw [outcomes_several, List.mem_flatMap]

theorem many_eq (hn : (n.outcomes text).Consumes text.size) :
    (many n).outcomes text i caps =
      ((n.outcomes text i caps).flatMap fun o => (many n).outcomes text o.1 o.2) ++
        [(i, caps)] := by
  simp only [outcomes_many, ← Branch.many_eq hn]

/-- What every round reads and leaves as it was, all rounds together do. -/
theorem isRun_of_mem_many {p : Char → Bool} (hn : (n.outcomes text).Consumes text.size)
    (hround : ∀ i caps, ∀ o ∈ n.outcomes text i caps, IsRun text p i o.1 ∧ o.2 = caps)
    (h : o ∈ (many n).outcomes text i caps) : i ≤ o.1 ∧ IsRun text p i o.1 ∧ o.2 = caps := by
  induction hleft : text.size - i using Nat.strongRecOn generalizing i caps with
  | ind left ih =>
      rw [many_eq hn, List.mem_append, List.mem_singleton, List.mem_flatMap] at h
      rcases h with ⟨o', hfirst, hrest⟩ | rfl
      · have hmoves := hn hfirst
        obtain ⟨hrun, hcaps⟩ := hround i caps o' hfirst
        obtain ⟨hle, hrun', hcaps'⟩ := ih _ (by omega) hrest rfl
        exact ⟨by omega, hrun.append hrun', hcaps'.trans hcaps⟩
      · exact ⟨Nat.le_refl _, .refl text p _, rfl⟩

theorem head?_flatMap_many_step {f : Outcome → List Outcome} {o' : Outcome}
    (hn : (n.outcomes text).Consumes text.size)
    (hround : (n.outcomes text i caps).head? = some o')
    (hrest : (((many n).outcomes text o'.1 o'.2).flatMap f).head? = some o) :
    (((many n).outcomes text i caps).flatMap f).head? = some o := by
  obtain ⟨os, hos⟩ := List.head?_eq_some_iff.mp hround
  rw [many_eq hn, hos, List.flatMap_cons, List.append_assoc, List.flatMap_append, List.head?_append,
    hrest]
  rfl

theorem many_stop (hn : (n.outcomes text).Consumes text.size)
    (hround : n.outcomes text i caps = []) : (many n).outcomes text i caps = [(i, caps)] := by
  rw [many_eq hn, hround]
  rfl

theorem many_char_step {test : CharTest} (h : hasAt text test.holds i = true) :
    (many (.char test)).outcomes text i caps =
      (many (.char test)).outcomes text (i + 1) caps ++ [(i, caps)] := by
  obtain ⟨c, hc, htest⟩ := Text.hasAt_eq_true_iff.mp h
  have hround : (Node.char test).outcomes text i caps = [(i + 1, caps)] := by
    simp [outcomes_char, hc, htest]
  rw [many_eq (char_consumes text test), hround, List.flatMap_singleton]

theorem many_char_stop {test : CharTest} (h : hasAt text test.holds i = false) :
    (many (.char test)).outcomes text i caps = [(i, caps)] := by
  refine many_stop (char_consumes text test) (List.eq_nil_iff_forall_not_mem.mpr fun o ho => ?_)
  rw [(mem_char.mp ho).1] at h
  cases h

/-- A repetition of a test may end anywhere in the run of characters that pass it. -/
theorem mem_many_char {test : CharTest} :
    o ∈ (many (.char test)).outcomes text i caps ↔
      (i ≤ o.1 ∧ IsRun text test.holds i o.1) ∧ o.2 = caps := by
  induction hleft : text.size - i generalizing i with
  | zero =>
      have hstop : hasAt text test.holds i = false := Text.hasAt_of_size_le (by omega)
      rw [many_char_stop hstop, List.mem_singleton, Text.run_iff_of_not_hasAt hstop, Prod.ext_iff]
  | succ left ih =>
      cases hfirst : hasAt text test.holds i with
      | true =>
          rw [many_char_step hfirst, List.mem_append, List.mem_singleton, ih (by omega),
            Text.run_iff_of_hasAt hfirst, or_and_right, Prod.ext_iff, or_comm]
      | false =>
          rw [many_char_stop hfirst, List.mem_singleton, Text.run_iff_of_not_hasAt hfirst,
            Prod.ext_iff]

/-- But it prefers to go on to the end of the run. -/
theorem head?_many_char {test : CharTest} (hij : i ≤ j) (hrun : IsRun text test.holds i j)
    (hstop : hasAt text test.holds j = false) :
    ((many (.char test)).outcomes text i caps).head? = some (j, caps) := by
  induction hleft : j - i generalizing i with
  | zero =>
      obtain rfl : i = j := by omega
      rw [many_char_stop hstop]
      rfl
  | succ left ih =>
      have hlt : i < j := by omega
      obtain ⟨hfirst, hrest⟩ := (Text.isRun_iff_of_lt hlt).mp hrun
      rw [many_char_step hfirst, List.head?_append, ih hlt hrest (by omega)]
      rfl

theorem mem_many_other {c : Char} :
    o ∈ (many (other c)).outcomes text i caps ↔
      (i ≤ o.1 ∧ IsRun text (· != c) i o.1) ∧ o.2 = caps := by
  rw [other, mem_many_char, CharTest.holds_other]

theorem head?_many_other {c : Char} (hij : i ≤ j) (hrun : IsRun text (· != c) i j)
    (hstop : hasAt text (· != c) j = false) :
    ((many (other c)).outcomes text i caps).head? = some (j, caps) := by
  rw [← CharTest.holds_other] at hrun hstop
  exact head?_many_char hij hrun hstop

theorem mem_several_char {test : CharTest} :
    o ∈ (several (.char test)).outcomes text i caps ↔
      (i < o.1 ∧ IsRun text test.holds i o.1) ∧ o.2 = caps := by
  rw [mem_several]
  constructor
  · rintro ⟨o', hfirst, hrest⟩
    obtain ⟨hhas, rfl⟩ := mem_char.mp hfirst
    obtain ⟨⟨hle, hrun⟩, hcaps⟩ := mem_many_char.mp hrest
    exact ⟨⟨hle, (Text.isRun_iff_of_lt hle).mpr ⟨hhas, hrun⟩⟩, hcaps⟩
  · rintro ⟨⟨hlt, hrun⟩, hcaps⟩
    obtain ⟨hhas, hrest⟩ := (Text.isRun_iff_of_lt hlt).mp hrun
    exact ⟨(i + 1, caps), mem_char.mpr ⟨hhas, rfl⟩, mem_many_char.mpr ⟨⟨hlt, hrest⟩, hcaps⟩⟩

theorem mem_several_oneOf {items : List SetItem} :
    o ∈ (several (oneOf items)).outcomes text i caps ↔
      (i < o.1 ∧ IsRun text (SetItem.anyHolds items) i o.1) ∧ o.2 = caps := by
  rw [oneOf, mem_several_char, CharTest.holds_set]

theorem mem_many_oneOf {items : List SetItem} :
    o ∈ (many (oneOf items)).outcomes text i caps ↔
      (i ≤ o.1 ∧ IsRun text (SetItem.anyHolds items) i o.1) ∧ o.2 = caps := by
  rw [oneOf, mem_many_char, CharTest.holds_set]

theorem eq_or_mem_of_mem_optional (h : o ∈ (optional n).outcomes text i caps) :
    o = (i, caps) ∨ o ∈ n.outcomes text i caps := by
  have hstay (fuel : Nat) : (n.outcomes text).greedy fuel (some 0) = Branch.stay := by
    cases fuel <;> rfl
  have hround : o ∈ (n.outcomes text).greedy (text.size + 1 - i) (some 1) i caps := by
    simpa [optional, outcomes_greedy, Branch.andThen, Branch.times, Branch.stay] using h
  cases hfuel : text.size + 1 - i with
  | zero =>
      rw [hfuel] at hround
      exact .inl (List.mem_singleton.mp hround)
  | succ fuel =>
      rw [hfuel, Branch.greedy, Branch.orElse, List.mem_append] at hround
      · rcases hround with hround | hend
        · obtain ⟨o', ho', ho⟩ := List.mem_flatMap.mp hround
          rw [fewer, hstay] at ho
          obtain rfl : o = o' := by split at ho <;> exact List.mem_singleton.mp ho
          exact .inr ho'
        · exact .inl (List.mem_singleton.mp hend)
      · simp

def lazyAny : Node :=
  .repetition (.char .any) 0 none .lazy

theorem outcomes_lazyAny : lazyAny.outcomes text i caps =
    ((Node.char .any).outcomes text).lazy (text.size + 1 - i) none i caps := by
  simp [lazyAny, outcomes_lazy, Branch.andThen, Branch.times, Branch.stay]

theorem lazyAny_stop (hi : text.size ≤ i) : lazyAny.outcomes text i caps = [(i, caps)] := by
  rw [outcomes_lazyAny]
  cases text.size + 1 - i with
  | zero => rfl
  | succ fuel =>
      change (i, caps) :: Branch.round _ _ i caps = _
      rw [Branch.round, (char_consumes text .any).eq_nil hi]
      rfl

theorem lazyAny_step (hi : i < text.size) :
    lazyAny.outcomes text i caps = (i, caps) :: lazyAny.outcomes text (i + 1) caps := by
  have hround : (Node.char .any).outcomes text i caps = [(i + 1, caps)] := by
    simp [outcomes_char, hi, CharTest.holds]
  have hfuel : text.size + 1 - i = text.size + 1 - (i + 1) + 1 := by omega
  rw [outcomes_lazyAny, outcomes_lazyAny, hfuel]
  change (i, caps) :: Branch.round _ _ i caps = _
  rw [Branch.round, hround, List.flatMap_singleton, if_neg (Nat.succ_ne_self i)]
  rfl

theorem mem_lazyAny (hi : i ≤ text.size) :
    o ∈ lazyAny.outcomes text i caps ↔ (i ≤ o.1 ∧ o.1 ≤ text.size) ∧ o.2 = caps := by
  induction hleft : text.size - i generalizing i with
  | zero =>
      obtain rfl : i = text.size := by omega
      rw [lazyAny_stop (Nat.le_refl _), List.mem_singleton, Prod.ext_iff, Nat.le_antisymm_iff,
        and_comm (a := o.1 ≤ _)]
  | succ left ih =>
      have hlt : i < text.size := by omega
      rw [lazyAny_step hlt, List.mem_cons, ih hlt (by omega), Prod.ext_iff, ← or_and_right]
      refine and_congr_left fun _ => ?_
      omega

/-- It prefers to end as soon as the rest can go on. -/
theorem head?_lazyAny {f : Outcome → List Outcome} (hij : i ≤ j) (hj : j ≤ text.size)
    (hnone : ∀ k, i ≤ k → k < j → f (k, caps) = []) (hsome : (f (j, caps)).head? = some o) :
    ((lazyAny.outcomes text i caps).flatMap f).head? = some o := by
  induction hleft : j - i generalizing i with
  | zero =>
      obtain rfl : i = j := by omega
      rcases Nat.eq_or_lt_of_le hj with heq | hlt
      · rw [lazyAny_stop (Nat.le_of_eq heq.symm), List.flatMap_singleton, hsome]
      · rw [lazyAny_step hlt, List.flatMap_cons, List.head?_append, hsome]
        rfl
  | succ left ih =>
      have hrest := ih (i := i + 1) (by omega) (fun k hk => hnone k (by omega)) (by omega)
      rw [lazyAny_step (by omega), List.flatMap_cons, hnone i (Nat.le_refl i) (by omega),
        List.nil_append, hrest]

/-! ## Conditions on the text around -/

theorem mem_look_ahead :
    o ∈ (look .ahead false n).outcomes text i caps ↔
      ∃ o', (n.outcomes text i caps).head? = some o' ∧ o = (i, o'.2) := by
  simp only [outcomes_look]
  cases n.outcomes text i caps <;> simp

theorem mem_not_behind {width : Nat} :
    o ∈ (look (.behind width) true n).outcomes text i caps ↔
      (width ≤ i → n.outcomes text (i - width) caps = []) ∧ o = (i, caps) := by
  simp only [outcomes_look]
  by_cases hwidth : width ≤ i
  · rw [if_pos hwidth]
    cases n.outcomes text (i - width) caps <;> simp [hwidth]
  · simp [hwidth]

end Node

end BytecodeViewer.Pattern
