import Mathlib.Data.List.DropRight
import BytecodeViewer.Text.Blank

/-!
# Trimming

Trimming a text again changes nothing, and nothing is left of a text exactly if all of it can be
dropped.
-/

namespace BytecodeViewer.Text

variable {p q : Char → Bool} {cs : List Char}

theorem trimBy_eq (p : Char → Bool) (cs : List Char) :
    trimBy p cs = (cs.dropWhile p).rdropWhile p := rfl

theorem dropWhile_congr (same : ∀ c ∈ cs, p c = q c) : cs.dropWhile p = cs.dropWhile q := by
  induction cs with
  | nil => rfl
  | cons c cs ih =>
      obtain ⟨hc, hcs⟩ := List.forall_mem_cons.mp same
      rw [List.dropWhile_cons, List.dropWhile_cons, hc, ih hcs]

theorem trimBy_congr (same : ∀ c ∈ cs, p c = q c) : trimBy p cs = trimBy q cs := by
  have hfront : ∀ c ∈ (cs.dropWhile q).reverse, p c = q c := fun c hc =>
    same c ((List.dropWhile_sublist q).subset (List.mem_reverse.mp hc))
  rw [trimBy, trimBy, dropWhile_congr same, dropWhile_congr hfront]

theorem trimBy_subset {c : Char} (hc : c ∈ trimBy p cs) : c ∈ cs :=
  (List.dropWhile_sublist p).subset ((List.rdropWhile_prefix p _).subset hc)

/-- Only what can be dropped is lost. -/
theorem mem_trimBy {c : Char} (hc : c ∈ cs) (kept : p c = false) : c ∈ trimBy p cs := by
  have hdropped {cs : List Char} (hc : c ∈ cs) : c ∈ cs.dropWhile p := by
    rw [← List.takeWhile_append_dropWhile (p := p) (l := cs), List.mem_append] at hc
    exact hc.resolve_left fun htaken => Bool.eq_false_iff.mp kept (List.mem_takeWhile_imp htaken)
  rw [trimBy, List.mem_reverse]
  exact hdropped (List.mem_reverse.mpr (hdropped hc))

theorem trimBy_map (p : Char → Bool) (f : Char → Char) (cs : List Char) :
    trimBy p (cs.map f) = (trimBy (p ∘ f) cs).map f := by
  rw [trimBy, trimBy, List.dropWhile_map, ← List.map_reverse, List.dropWhile_map, List.map_reverse]

theorem not_of_head?_dropWhile {c : Char} (hc : (cs.dropWhile p).head? = some c) :
    p c = false := by
  have hhead := List.head?_dropWhile_not p cs
  rwa [hc] at hhead

@[simp] theorem trimBy_trimBy (p : Char → Bool) (cs : List Char) :
    trimBy p (trimBy p cs) = trimBy p cs := by
  have hfront : (trimBy p cs).dropWhile p = trimBy p cs := by
    cases htrimmed : trimBy p cs with
    | nil => rfl
    | cons c rest =>
        obtain ⟨more, hmore⟩ := List.rdropWhile_prefix p (cs.dropWhile p)
        rw [← trimBy_eq, htrimmed] at hmore
        have hc : (cs.dropWhile p).head? = some c := by
          rw [← hmore]
          rfl
        exact List.dropWhile_cons_of_neg (by simp [not_of_head?_dropWhile hc])
  rw [trimBy_eq, hfront, trimBy_eq, List.rdropWhile_idempotent]

theorem trimBy_eq_nil_iff : trimBy p cs = [] ↔ ∀ c ∈ cs, p c = true := by
  constructor
  · intro hnil
    rw [trimBy_eq, List.rdropWhile_eq_nil_iff] at hnil
    refine List.dropWhile_eq_nil_iff.mp ?_
    cases hleft : cs.dropWhile p with
    | nil => rfl
    | cons c rest =>
        have hhead : (cs.dropWhile p).head? = some c := by rw [hleft, List.head?_cons]
        have hc := hnil c (hleft ▸ List.mem_cons_self)
        cases hc.symm.trans (not_of_head?_dropWhile hhead)
  · exact fun hall => trimBy_eq_nil_of_all (List.all_eq_true.mpr hall)

@[simp] theorem toList_trim (s : String) : (trim s).toList = trimBy isBlank s.toList :=
  String.toList_ofList

theorem trim_eq_empty_iff {s : String} : trim s = "" ↔ isAllBlank s = true := by
  rw [← String.toList_eq_nil_iff, toList_trim, trimBy_eq_nil_iff, isAllBlank, List.all_eq_true]

end BytecodeViewer.Text
