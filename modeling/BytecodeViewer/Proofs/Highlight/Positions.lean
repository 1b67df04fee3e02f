import Mathlib.Algebra.GroupWithZero.Nat
import BytecodeViewer.Proofs.Highlight.Marker
import BytecodeViewer.Text.Units

/-!
# Positions of spans

A text control finds the characters of a span by positions in 16-bit units.  The units between
the positions of a span are those of its characters, whether or not the text has characters that
take two.
-/

namespace BytecodeViewer

namespace Text

/-- The 16-bit units of a character; one beyond the first 65536 is written as a pair. -/
def codeUnits (c : Char) : List UInt16 :=
  if c.toNat ≤ 0xFFFF then [c.toNat.toUInt16]
  else
    [(0xD800 + (c.toNat - 0x10000) / 0x400).toUInt16,
      (0xDC00 + (c.toNat - 0x10000) % 0x400).toUInt16]

def utf16 (cs : List Char) : List UInt16 :=
  cs.flatMap codeUnits

variable {cs ds : List Char} {m n : Nat}

@[simp] theorem utf16_append (cs ds : List Char) : utf16 (cs ++ ds) = utf16 cs ++ utf16 ds :=
  List.flatMap_append

theorem length_codeUnits (c : Char) : (codeUnits c).length = units16 c := by
  unfold codeUnits units16
  split <;> rfl

theorem length_utf16 (cs : List Char) : (utf16 cs).length = (cs.map units16).sum := by
  rw [utf16, List.length_flatMap]
  simp only [length_codeUnits]

theorem length_utf16_cons (c : Char) (cs : List Char) :
    (utf16 (c :: cs)).length = units16 c + (utf16 cs).length := by
  rw [length_utf16, length_utf16, List.map_cons, List.sum_cons]

/-- Every character takes at least one unit. -/
theorem length_le_length_utf16 (cs : List Char) : cs.length ≤ (utf16 cs).length := by
  induction cs with
  | nil => exact Nat.le_refl 0
  | cons c cs ih =>
      have hpos : 1 ≤ units16 c := by
        unfold units16
        split <;> omega
      rw [length_utf16_cons, List.length_cons]
      omega

/-- Where no character takes two units, offsets are positions. -/
theorem length_utf16_of_narrow (narrow : cs.any isWide16 = false) :
    (utf16 cs).length = cs.length := by
  induction cs with
  | nil => rfl
  | cons c cs ih =>
      obtain ⟨hc, hcs⟩ : isWide16 c = false ∧ cs.any isWide16 = false := by
        simpa using narrow
      have hunits : units16 c = 1 := if_pos (by simpa [isWide16] using hc)
      rw [length_utf16_cons, ih hcs, hunits, List.length_cons, Nat.add_comm]

theorem unitPositions_getElem? (hn : n ≤ cs.length) :
    (unitPositions cs)[n]? = some (utf16 (cs.take n)).length := by
  induction cs generalizing n with
  | nil =>
      obtain rfl : n = 0 := Nat.le_zero.mp hn
      rfl
  | cons c cs ih =>
      cases n with
      | zero => rfl
      | succ n =>
          rw [unitPositions, List.getElem?_cons_succ, List.getElem?_map,
            ih (Nat.le_of_succ_le_succ hn), List.take_succ_cons, length_utf16_cons]
          rfl

/-- The position of an offset is the number of units before it. -/
theorem unitPosition?_eq (hn : n ≤ cs.length) :
    unitPosition? cs n = some (utf16 (cs.take n)).length := by
  unfold unitPosition?
  split
  · exact unitPositions_getElem? hn
  · next hwide =>
    have hnarrow : (cs.take n).any isWide16 = false := by
      refine List.any_eq_false.mpr fun c hc => ?_
      exact List.any_eq_false.mp (Bool.not_eq_true _ ▸ hwide) c (List.mem_of_mem_take hc)
    rw [length_utf16_of_narrow hnarrow, List.length_take, Nat.min_eq_left hn]

/-! ## Parts of a text -/

theorem utf16_take_add (cs : List Char) (m n : Nat) :
    utf16 (cs.take (m + n)) = utf16 (cs.take m) ++ utf16 ((cs.drop m).take n) := by
  rw [List.take_add, utf16_append]

/-- The units between the positions of two offsets are those of the characters between them. -/
theorem extract_utf16 (cs : List Char) (hmn : m ≤ n) :
    (utf16 cs).extract (utf16 (cs.take m)).length (utf16 (cs.take n)).length =
      utf16 (cs.extract m n) := by
  obtain ⟨k, rfl⟩ := Nat.exists_eq_add_of_le hmn
  have hparts : utf16 cs = utf16 (cs.take m) ++
      (utf16 ((cs.drop m).take k) ++ utf16 ((cs.drop m).drop k)) := by
    rw [← utf16_append, ← utf16_append, List.take_append_drop, List.take_append_drop]
  rw [utf16_take_add, List.extract_eq_take_drop, List.extract_eq_take_drop, List.length_append,
    Nat.add_sub_cancel_left, Nat.add_sub_cancel_left]
  conv_lhs => rw [hparts]
  rw [List.drop_left, List.take_left]

theorem length_utf16_take_lt (hmn : m < n) (hn : n ≤ cs.length) :
    (utf16 (cs.take m)).length < (utf16 (cs.take n)).length := by
  obtain ⟨k, rfl⟩ := Nat.exists_eq_add_of_lt hmn
  have hpart := length_le_length_utf16 ((cs.drop m).take (k + 1))
  rw [List.length_take, List.length_drop] at hpart
  rw [Nat.add_assoc, utf16_take_add, List.length_append]
  omega

theorem length_utf16_take_le (cs : List Char) (n : Nat) :
    (utf16 (cs.take n)).length ≤ (utf16 cs).length := by
  conv_rhs => rw [← List.take_append_drop n cs, utf16_append, List.length_append]
  exact Nat.le_add_right _ _

end Text

/-- The position of an offset is the number of units of the characters before it, of which each
takes one or two.  So the spans of a text have positions in it, and between them stand the units
of the characters that are coloured. -/
theorem span_positions (text : String) :
    (∀ offset ≤ text.length,
      Text.unitPosition? text.toList offset =
        some (Text.utf16 (text.toList.take offset)).length ∧
      (Text.utf16 (text.toList.take offset)).length =
        ((text.toList.take offset).map fun c => if c.toNat ≤ 0xFFFF then 1 else 2).sum) ∧
    ∀ rules, ∀ s ∈ highlight text rules, ∃ start stop p q : Nat,
      s.start = start ∧ s.stop = stop ∧
      Text.unitPosition? text.toList start = some p ∧
      Text.unitPosition? text.toList stop = some q ∧
      p < q ∧ q ≤ (Text.utf16 text.toList).length ∧
      (Text.utf16 text.toList).extract p q = Text.utf16 (text.toList.extract start stop) := by
  have hlength : text.toList.length = text.length := String.length_toList
  constructor
  · intro offset hoffset
    exact ⟨Text.unitPosition?_eq (hlength ▸ hoffset), Text.length_utf16 _⟩
  · intro rules s hs
    obtain ⟨hstart, hlt, hstop, -⟩ := mem_highlight hs
    obtain ⟨start, hstart⟩ := Int.eq_ofNat_of_zero_le hstart
    obtain ⟨stop, hnat⟩ := Int.eq_ofNat_of_zero_le (by omega : 0 ≤ s.stop)
    have hlt : start < stop := by omega
    have hle : start ≤ stop := Nat.le_of_lt hlt
    have hstop : stop ≤ text.toList.length := by omega
    exact ⟨start, stop, _, _, hstart, hnat, Text.unitPosition?_eq (Nat.le_trans hle hstop),
      Text.unitPosition?_eq hstop, Text.length_utf16_take_lt hlt hstop,
      Text.length_utf16_take_le _ _, Text.extract_utf16 _ hle⟩

/-- A face that takes two units, coloured between two letters. -/
theorem span_positions_face :
    2 ≤ "a😀b".length ∧ Text.unitPosition? "a😀b".toList 2 = some 3 ∧
    (⟨1, 2, ⟨0xff, 0, 0⟩, 0⟩ : Span) ∈ highlight "a😀b" [marker 1 ⟨0xff, 0, 0⟩] ∧
    (Text.utf16 "a😀b".toList).extract 1 3 = [0xD83D, 0xDE00] := by
  obtain ⟨hoffsets, hspans⟩ := span_positions "a😀b"
  have hlength : "a😀b".length = 3 := by decide
  have hmem : (⟨1, 2, ⟨0xff, 0, 0⟩, 0⟩ : Span) ∈
      highlight "a😀b" [marker 1 ⟨0xff, 0, 0⟩] := by
    rw [highlight_marker (by omega)]
    exact List.mem_singleton.mpr rfl
  obtain ⟨start, stop, p, q, hstart, hstop, hp, hq, -, -, hunits⟩ := hspans _ _ hmem
  obtain rfl : 1 = start := Int.ofNat_inj.mp hstart
  obtain rfl : 2 = stop := Int.ofNat_inj.mp hstop
  have hone : Text.unitPosition? "a😀b".toList 1 = some 1 := by decide
  obtain rfl : 1 = p := Option.some.inj (hone.symm.trans hp)
  have htwo : Text.unitPosition? "a😀b".toList 2 = some 3 := (hoffsets 2 (by omega)).1
  obtain rfl : 3 = q := Option.some.inj (htwo.symm.trans hq)
  exact ⟨by omega, htwo, hmem, hunits.trans (by decide)⟩

end BytecodeViewer
