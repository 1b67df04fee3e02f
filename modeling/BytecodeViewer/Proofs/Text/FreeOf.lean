import BytecodeViewer.Text.Parts

/-!
# Texts without a character

What a text is put together of says whether it holds a character.
-/

namespace BytecodeViewer.Text

variable {c : Char} {s t : String} {parts : List String}

def FreeOf (c : Char) (s : String) : Prop :=
  c ∉ s.toList

instance : Decidable (FreeOf c s) :=
  inferInstanceAs (Decidable (c ∉ s.toList))

theorem freeOf_append : FreeOf c (s ++ t) ↔ FreeOf c s ∧ FreeOf c t := by
  simp only [FreeOf, String.toList_append, List.mem_append, not_or]

theorem freeOf_ofList {cs : List Char} : FreeOf c (String.ofList cs) ↔ c ∉ cs := by
  rw [FreeOf, String.toList_ofList]

namespace FreeOf

theorem empty (c : Char) : FreeOf c "" :=
  List.not_mem_nil

theorem append (hs : FreeOf c s) (ht : FreeOf c t) : FreeOf c (s ++ t) :=
  freeOf_append.mpr ⟨hs, ht⟩

theorem join (hparts : ∀ s ∈ parts, FreeOf c s) : FreeOf c (String.join parts) := by
  rw [FreeOf, String.toList_join, List.mem_flatMap]
  rintro ⟨s, hs, hc⟩
  exact hparts s hs hc

theorem intercalate (hs : FreeOf c s) (hparts : ∀ t ∈ parts, FreeOf c t) :
    FreeOf c (s.intercalate parts) := by
  induction parts with
  | nil =>
      rw [String.intercalate_nil]
      exact .empty c
  | cons t parts ih =>
      have ht := hparts t List.mem_cons_self
      have hrest := ih fun t ht => hparts t (List.mem_cons_of_mem _ ht)
      by_cases hnil : parts = []
      · rwa [hnil, String.intercalate_singleton]
      · rw [String.intercalate_cons_of_ne_nil hnil]
        exact (ht.append hs).append hrest

theorem joinNonempty (hc : c ≠ ' ') (hparts : ∀ s ∈ parts, FreeOf c s) :
    FreeOf c (joinNonempty parts) := by
  have hblank : FreeOf c " " := by
    rw [FreeOf, show (" " : String).toList = [' '] from rfl, List.mem_singleton]
    exact hc
  exact hblank.intercalate fun s hs => hparts s (List.mem_filter.mp hs).1

/-- A number is written with digits and possibly a sign. -/
theorem toString (hdigit : c.isDigit = false) (hminus : c ≠ '-') (n : Int) :
    FreeOf c (toString n) := by
  have hnat (k : Nat) : FreeOf c k.repr := by
    intro hmem
    rw [Nat.toList_repr] at hmem
    rw [Nat.isDigit_of_mem_toDigits (by decide) (by decide) hmem] at hdigit
    cases hdigit
  cases n with
  | ofNat k => exact hnat k
  | negSucc k =>
      have hsign : FreeOf c "-" := by
        rw [FreeOf, show ("-" : String).toList = ['-'] from rfl, List.mem_singleton]
        exact hminus
      exact hsign.append (hnat k.succ)

end FreeOf

end BytecodeViewer.Text
