import Mathlib.Data.Nat.Find
import BytecodeViewer.Proofs.Highlight.Layers
import BytecodeViewer.Proofs.Highlight.Marks
import BytecodeViewer.Proofs.Pattern.Nodes
import BytecodeViewer.Render.Java.Rules

/-!
# Comments

A line comment goes from its opener to the end of the line.  Block comments are those that are
found by going through the text character by character, always either outside or inside of one.
Neither takes notice of anything else in the text, such as string literals.
-/

namespace BytecodeViewer

open Pattern (Node Outcome Captures Successive Match)
open Text (hasAt IsRun Spells)

variable {text : Array Char} {i j : Nat} {o : Outcome}

/-! ## Line comments -/

def lineComment (opener : List Char) : Node :=
  .group 1 (.sequence (opener.map .just ++ [.many (.other '\n')]))

section

variable {opener : List Char}

theorem mem_lineComment :
    o ∈ (lineComment opener).outcomes text i [] ↔ Spells text i opener ∧
      (i + opener.length ≤ o.1 ∧ IsRun text (· != '\n') (i + opener.length) o.1) ∧
      o.2 = [(1, i, o.1)] := by
  rw [lineComment, Node.mem_group]
  simp only [Node.mem_sequence_just, Node.outcomes_sequence_singleton, Node.mem_many_other]
  constructor
  · rintro ⟨o', ⟨hspells, hrun, hcaps⟩, rfl⟩
    exact ⟨hspells, hrun, by rw [hcaps]⟩
  · rintro ⟨hspells, hrun, hcaps⟩
    exact ⟨(o.1, []), ⟨hspells, hrun, rfl⟩, Prod.ext rfl hcaps⟩

theorem head?_lineComment (hspells : Spells text i opener) (hij : i + opener.length ≤ j)
    (hrun : IsRun text (· != '\n') (i + opener.length) j)
    (hstop : hasAt text (· != '\n') j = false) :
    ((lineComment opener).outcomes text i []).head? = some (j, [(1, i, j)]) := by
  rw [lineComment, Node.head?_group, Node.outcomes_sequence_of_spells _ hspells,
    Node.outcomes_sequence_singleton, Node.head?_many_other hij hrun hstop]
  rfl

/-- A rule for line comments. -/
structure HighlightRule.LineComments (r : HighlightRule) (opener : List Char) : Prop where
  root : r.pattern.root = lineComment opener
  groups : r.pattern.groups = 1
  nonempty : opener ≠ []
  inLine : '\n' ∉ opener

namespace HighlightRule.LineComments

variable {r : HighlightRule} (hr : r.LineComments opener)

include hr

theorem of_first? (hfirst : r.pattern.first? text i = some o) :
    Spells text i opener ∧ i < o.1 ∧ IsRun text (· != '\n') i o.1 ∧ o.2 = [(1, i, o.1)] := by
  have hmem := List.mem_of_head? hfirst
  rw [hr.root, mem_lineComment] at hmem
  obtain ⟨hspells, ⟨hle, hrun⟩, hcaps⟩ := hmem
  have hpos := List.length_pos_iff.mpr hr.nonempty
  have hopener : IsRun text (· != '\n') i (i + opener.length) := by
    refine hspells.isRun fun c hc => ?_
    rw [bne_iff_ne]
    exact fun heq => hr.inLine (heq ▸ hc)
  exact ⟨hspells, by omega, hopener.append hrun, hcaps⟩

theorem marks (text : Array Char) : r.pattern.Marks text where
  consumes := by
    intro i o ho
    rw [hr.root, mem_lineComment] at ho
    have hpos := List.length_pos_iff.mpr hr.nonempty
    omega
  groups := by
    rw [hr.groups]
    exact Nat.one_ne_zero
  group := by
    intro i o hfirst
    obtain ⟨-, hlt, -, hcaps⟩ := hr.of_first? hfirst
    exact ⟨i, o.1, by rw [hcaps]; rfl, Nat.le_refl i, hlt, Nat.le_refl _⟩

/-- An offset is in a comment if there is an opener before it in its line. -/
theorem covers_iff {offset : Nat} : r.Covers text offset ↔
    ∃ k, k ≤ offset ∧ Spells text k opener ∧ IsRun text (· != '\n') k (offset + 1) := by
  constructor
  · rintro ⟨range, hrange, hle, hlt⟩
    obtain ⟨k, o, hfirst, hgroup⟩ := first?_of_mem_ranges (hr.marks text) hrange
    obtain ⟨hspells, -, hrun, hcaps⟩ := hr.of_first? hfirst
    rw [hcaps] at hgroup
    cases hgroup
    exact ⟨k, hle, hspells, hrun.part (Nat.le_refl k) hlt⟩
  · intro hopened
    -- The first opener of the line is not in a comment that has begun before.
    classical
    have hleast (k : Nat) (hk : k < Nat.find hopened) := Nat.find_min hopened hk
    obtain ⟨hle, hspells, hrun⟩ := Nat.find_spec hopened
    generalize Nat.find hopened = k at hle hspells hrun hleast
    obtain ⟨j, hkj, hline, hstop⟩ := Text.exists_run_end text (· != '\n') (k + opener.length)
    have hfirst : r.pattern.first? text k = some (j, [(1, k, j)]) := by
      rw [Pattern.first?, hr.root]
      exact head?_lineComment hspells hkj hline hstop
    have hj : offset < j := by
      refine Nat.lt_of_not_le fun hjo => ?_
      rw [hrun j (Nat.le_trans (Nat.le_add_right _ _) hkj) (Nat.lt_succ_of_le hjo)] at hstop
      cases hstop
    refine ⟨(k, j), mem_ranges_of_first? (hr.marks text) ?_ hfirst ?_ rfl, hle, hj⟩
    · have := Text.lt_size_of_hasAt (hrun k (Nat.le_refl k) (Nat.lt_succ_of_le hle))
      omega
    · intro k' o' hk' hfirst'
      refine Nat.le_of_not_lt fun hlt => hleast k' hk' ?_
      obtain ⟨hspells', -, hrun', -⟩ := hr.of_first? hfirst'
      have hto : IsRun text (· != '\n') k' k := hrun'.part (Nat.le_refl k') (Nat.le_of_lt hlt)
      exact ⟨by omega, hspells', hto.append hrun⟩

end HighlightRule.LineComments

end

/-! ## Block comments -/

namespace Java

/-- The block comments in the rest of a text, which begins at an offset and either outside of a
comment or inside of one that has begun before. -/
def blockComments : Option Nat → Nat → List Char → List (Nat × Nat)
  | none, i, '/' :: '*' :: cs => blockComments (some i) (i + 2) cs
  | none, i, _ :: cs => blockComments none (i + 1) cs
  | some start, i, '*' :: '/' :: cs => (start, i + 2) :: blockComments none (i + 2) cs
  | some start, i, _ :: cs => blockComments (some start) (i + 1) cs
  | _, _, [] => []

theorem mem_blockCommentPattern (h : o ∈ blockCommentPattern.root.outcomes text i []) :
    Spells text i ['/', '*'] ∧
      ∃ k, i + 2 ≤ k ∧ Spells text k ['*', '/'] ∧ o = (k + 2, [(1, i, k + 2)]) := by
  obtain ⟨o, hbody, rfl⟩ := Node.mem_group.mp h
  obtain ⟨hopener, hbody⟩ := (Node.mem_sequence_just ['/', '*']
    [Node.lazyAny, .just '*', .just '/']).mp hbody
  obtain ⟨o', hlazy, hcloser⟩ := Node.mem_sequence_cons.mp hbody
  have hsize : i + 2 ≤ text.size := (Array.getElem?_eq_some_iff.mp hopener.2.1).1
  obtain ⟨⟨hle, -⟩, hcaps⟩ := (Node.mem_lazyAny hsize).mp hlazy
  obtain ⟨hspells, hend⟩ := (Node.mem_sequence_just ['*', '/'] []).mp hcloser
  obtain rfl := Node.mem_sequence_nil.mp hend
  exact ⟨hopener, o'.1, hle, hspells, by rw [hcaps]; rfl⟩

/-- A comment ends where it is closed first. -/
theorem first?_blockCommentPattern (hopener : Spells text i ['/', '*']) (hij : i + 2 ≤ j)
    (hopen : ∀ k, i + 2 ≤ k → k < j → ¬Spells text k ['*', '/'])
    (hcloser : Spells text j ['*', '/']) :
    blockCommentPattern.first? text i = some (j + 2, [(1, i, j + 2)]) := by
  let closer : Outcome → List Outcome := fun o =>
    (Node.sequence [.just '*', .just '/']).outcomes text o.1 o.2
  have hsize : j ≤ text.size := Nat.le_of_lt (Array.getElem?_eq_some_iff.mp hcloser.1).1
  have hnone (k : Nat) (hik : i + 2 ≤ k) (hk : k < j) : closer (k, []) = [] := by
    refine List.eq_nil_iff_forall_not_mem.mpr fun o ho => hopen k hik hk ?_
    exact ((Node.mem_sequence_just ['*', '/'] []).mp ho).1
  have hsome : (closer (j, [])).head? = some (j + 2, []) := by
    change ((Node.sequence (['*', '/'].map .just ++ [])).outcomes text j []).head? = _
    rw [Node.outcomes_sequence_of_spells [] hcloser]
    rfl
  have hbody := Node.head?_lazyAny hij hsize hnone hsome
  change ((Node.group 1 (.sequence (['/', '*'].map .just ++
    [Node.lazyAny, .just '*', .just '/']))).outcomes text i []).head? = _
  rw [Node.head?_group, Node.outcomes_sequence_of_spells _ hopener, Node.outcomes_sequence_cons]
  change Option.map _ ((Node.lazyAny.outcomes text (i + 2) []).flatMap closer).head? = _
  rw [hbody]
  rfl

theorem blockCommentPattern_marks (text : Array Char) : blockCommentPattern.Marks text where
  consumes := by
    intro i o ho
    obtain ⟨-, k, hik, -, rfl⟩ := mem_blockCommentPattern ho
    exact Nat.lt_of_lt_of_le (Nat.lt_add_of_pos_right Nat.two_pos) (Nat.le_add_right_of_le hik)
  groups := Nat.one_ne_zero
  group := by
    intro i o hfirst
    obtain ⟨-, k, hik, -, rfl⟩ := mem_blockCommentPattern (List.mem_of_head? hfirst)
    exact ⟨i, k + 2, rfl, Nat.le_refl i, by omega, Nat.le_refl _⟩

theorem first?_blockCommentPattern_eq_none (h : ¬Spells text i ['/', '*']) :
    blockCommentPattern.first? text i = none :=
  Option.eq_none_iff_forall_ne_some.mpr fun _ hfirst =>
    h (mem_blockCommentPattern (List.mem_of_head? hfirst)).1

/-- A comment that has begun and is not closed up to a place. -/
structure OpenBlock (text : Array Char) (start i : Nat) : Prop where
  opener : Spells text start ['/', '*']
  le : start + 2 ≤ i
  unclosed : ∀ k, start + 2 ≤ k → k < i → ¬Spells text k ['*', '/']

theorem OpenBlock.succ {start : Nat} (h : OpenBlock text start i)
    (hopen : ¬Spells text i ['*', '/']) : OpenBlock text start (i + 1) where
  opener := h.opener
  le := Nat.le_succ_of_le h.le
  unclosed := by
    intro k hk hki
    rcases Nat.eq_or_lt_of_le (Nat.le_of_lt_succ hki) with rfl | hlt
    · exact hopen
    · exact h.unclosed k hk hlt

/-- At the end of the text no comment can be found any more, not even one that has begun. -/
theorem search_of_size_le {state : Option Nat} (hsize : text.size ≤ i)
    (hopen : ∀ start ∈ state, OpenBlock text start i) :
    Successive blockCommentPattern text false (state.getD i) [] := by
  have hconsumes := (blockCommentPattern_marks text).consumes
  refine .done fun k hik hk => hconsumes.matchAt?_eq_none_iff.mpr ?_
  refine Option.eq_none_iff_forall_ne_some.mpr fun o hfirst => ?_
  obtain ⟨hopener, l, hkl, hcloser, -⟩ := mem_blockCommentPattern (List.mem_of_head? hfirst)
  have hl := (Array.getElem?_eq_some_iff.mp hcloser.1).1
  cases state with
  | none =>
      have hle : i ≤ k := hik
      omega
  | some start =>
      have hle : start ≤ k := hik
      exact (hopen start rfl).unclosed l (by omega) (by omega) hcloser

theorem search_blockComments (text : Array Char) (state : Option Nat) {cs : List Char}
    (hcs : text.toList.drop i = cs) (hopen : ∀ start ∈ state, OpenBlock text start i) :
    ∃ ms, Successive blockCommentPattern text false (state.getD i) ms ∧
      ms.map (·.group? 1) = (blockComments state i cs).map some := by
  have hconsumes := (blockCommentPattern_marks text).consumes
  have htail {c : Char} {cs : List Char} {i : Nat} (h : text.toList.drop i = c :: cs) :
      text.toList.drop (i + 1) = cs := by
    rw [← List.tail_drop, h, List.tail_cons]
  have hspells {c d : Char} {cs : List Char} {i : Nat} (h : text.toList.drop i = c :: d :: cs) :
      Spells text i [c, d] :=
    Text.spells_iff_begins.mpr (h ▸ ⟨cs, rfl⟩)
  have hother {a b c : Char} {cs : List Char} {i : Nat} (h : text.toList.drop i = c :: cs)
      (hne : ∀ cs', c = a → cs = b :: cs' → False) : ¬Spells text i [a, b] := by
    rw [Text.spells_iff_begins, h]
    rintro ⟨rest, hrest⟩
    obtain ⟨hfirst, hsecond⟩ := List.cons.inj hrest
    exact hne rest hfirst.symm hsecond.symm
  fun_induction blockComments state i cs with
  | case1 i cs ih =>
      refine ih (htail (htail hcs)) fun start hstart => ?_
      cases hstart
      exact ⟨hspells hcs, Nat.le_refl _, fun k hk hki => absurd hki (Nat.not_lt.mpr hk)⟩
  | case2 i c cs hne ih =>
      obtain ⟨ms, hsearch, hgroups⟩ := ih (htail hcs) fun start hstart => nomatch hstart
      refine ⟨ms, hsearch.skip hconsumes (Nat.le_succ i) (fun k hik hk => ?_) false, hgroups⟩
      obtain rfl := Nat.le_antisymm (Nat.le_of_lt_succ hk) hik
      exact first?_blockCommentPattern_eq_none (hother hcs hne)
  | case3 start i cs ih =>
      obtain ⟨ms, hsearch, hgroups⟩ := ih (htail (htail hcs)) fun start hstart => nomatch hstart
      obtain ⟨hopener, hle, hunclosed⟩ := hopen start rfl
      have hfirst := first?_blockCommentPattern hopener hle hunclosed (hspells hcs)
      have hsize := (Array.getElem?_eq_some_iff.mp hopener.1).1
      refine ⟨_, hsearch.cons hconsumes (Nat.le_of_lt hsize) hfirst false, ?_⟩
      rw [List.map_cons, List.map_cons, hgroups]
      rfl
  | case4 start i c cs hne ih =>
      refine ih (htail hcs) fun start' hstart' => ?_
      cases hstart'
      exact (hopen start rfl).succ (hother hcs hne)
  | case5 state i =>
      rw [List.drop_eq_nil_iff, Array.length_toList] at hcs
      exact ⟨[], search_of_size_le hcs hopen, rfl⟩

def blockCommentRule : HighlightRule :=
  ⟨blockCommentPattern, ⟨0x3f, 0x7f, 0x5f⟩⟩

theorem ranges_blockCommentRule (text : Array Char) :
    blockCommentRule.ranges text = blockComments none 0 text.toList := by
  obtain ⟨ms, hsearch, hgroups⟩ := search_blockComments text none
    (List.drop_zero (l := text.toList)) fun start hstart => nomatch hstart
  exact HighlightRule.ranges_of_search (blockCommentPattern_marks text) hsearch hgroups

/-- The opener of a comment is not part of its closer, and the last one is never closed. -/
example : blockComments none 0 "/*/ a */ b /* c".toList = [(0, 8)] := by decide

end Java

end BytecodeViewer
