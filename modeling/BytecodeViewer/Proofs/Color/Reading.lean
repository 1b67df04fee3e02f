import Mathlib.Data.List.TakeWhile
import BytecodeViewer.Failure
import BytecodeViewer.Proofs.Text.PairNumerals

/-!
# Reading a colour

A colour is meant to be written as six digits of base sixteen, with or without one `#` in front of
them.  What is read is more: any number of `#`, and pairs in which one of the two characters is a
sign or a blank, or a decimal digit of another script.  Each text is read as it is meant exactly
when it is not one of these.
-/

namespace BytecodeViewer.Color

open Text

/-- Six characters that are read, two by two, as the channels of a colour. -/
inductive Channels : List Char → Color → Prop
  | pairs {r₁ r₂ g₁ g₂ b₁ b₂ : Char} {c : Color} (red : ReadsPair r₁ r₂ c.red.toNat)
      (green : ReadsPair g₁ g₂ c.green.toNat) (blue : ReadsPair b₁ b₂ c.blue.toNat) :
      Channels [r₁, r₂, g₁, g₂, b₁, b₂] c

def hexAlphabet : List Char :=
  "0123456789abcdefABCDEF".toList

/-- A text that a colour is meant to be written as. -/
structure HexColor (s : String) (digits : List Char) : Prop where
  marked : s.toList = digits ∨ s.toList = '#' :: digits
  length : digits.length = 6
  alphabet : ∀ d ∈ digits, d ∈ hexAlphabet

/-- A text is read exactly if it is six digits of base sixteen with or without a `#`, as the colour
that is written with these digits in lower case. -/
structure ReadsExactly (s : String) : Prop where
  accepts : (∃ c, parse s = .ok c) ↔ ∃ digits, HexColor s digits
  writes : ∀ digits c, HexColor s digits → parse s = .ok c →
    c.hex = String.ofList ('#' :: digits.map Char.toLower)
  refuses : ∀ why, parse s = .error why → (Failure.badColor why).kind = "ValueError"

/-- A text that is read as a colour although it has two marks in front, or characters that are not
digits of base sixteen. -/
def Loose (s : String) : Prop :=
  ∃ n digits c, s.toList = List.replicate n '#' ++ digits ∧ Channels digits c ∧
    (2 ≤ n ∨ ∃ d ∈ digits, d ∉ hexAlphabet)

variable {s : String} {c : Color} {x y : Char} {n : Int} {u : UInt8} {digits : List Char}

/-! ## Reading the channels -/

theorem channel_eq_ok_iff : channel n = .ok u ↔ n = u.toNat := by
  have hlt := u.toNat_lt
  rw [channel]
  split
  case isTrue h =>
    obtain ⟨m, rfl⟩ := Int.eq_ofNat_of_zero_le h.1
    have hm : m % 256 = m := Nat.mod_eq_of_lt (by omega)
    rw [Except.ok.injEq, ← UInt8.toNat_inj, Int.natCast_inj]
    simp [Nat.toUInt8, hm]
  case isFalse h =>
    simp only [reduceCtorEq, false_iff]
    omega

theorem readPair_eq_ok_iff : readPair [x, y] = .ok n ↔ ReadsPair x y n := by
  rw [← readInteger?_pair, readPair, parseInteger]
  cases readInteger? 16 (String.ofList [x, y]) <;> simp

theorem bind_eq_ok_iff {ε α β : Type} {a : Except ε α} {f : α → Except ε β} {b : β} :
    (a >>= f) = .ok b ↔ ∃ v, a = .ok v ∧ f v = .ok b := by
  cases a <;> simp [bind, Except.bind]

theorem ofChannels_eq_ok_iff {red green blue : Int} : ofChannels red green blue = .ok c ↔
    red = c.red.toNat ∧ green = c.green.toNat ∧ blue = c.blue.toNat := by
  simp only [ofChannels, bind_eq_ok_iff, channel_eq_ok_iff, pure, Except.pure, Except.ok.injEq]
  constructor
  · rintro ⟨r, hr, g, hg, b, hb, rfl⟩
    exact ⟨hr, hg, hb⟩
  · rintro ⟨hr, hg, hb⟩
    exact ⟨c.red, hr, c.green, hg, c.blue, hb, rfl⟩

theorem exists_of_length_six (h : digits.length = 6) :
    ∃ r₁ r₂ g₁ g₂ b₁ b₂, digits = [r₁, r₂, g₁, g₂, b₁, b₂] := by
  match digits, h with
  | [r₁, r₂, g₁, g₂, b₁, b₂], _ => exact ⟨r₁, r₂, g₁, g₂, b₁, b₂, rfl⟩

theorem parse_eq_ok_iff_channels :
    parse s = .ok c ↔ Channels (s.toList.dropWhile (· == '#')) c := by
  rw [parse]
  generalize s.toList.dropWhile (· == '#') = digits
  by_cases hlength : digits.length = 6
  · obtain ⟨r₁, r₂, g₁, g₂, b₁, b₂, rfl⟩ := exists_of_length_six hlength
    simp only [hlength, ne_eq, not_true_eq_false, if_false, List.take_succ_cons, List.take_zero,
      List.drop_succ_cons, List.drop_zero, bind_eq_ok_iff, readPair_eq_ok_iff,
      ofChannels_eq_ok_iff]
    constructor
    · rintro ⟨r, hred, g, hgreen, b, hblue, rfl, rfl, rfl⟩
      exact .pairs hred hgreen hblue
    · rintro ⟨hred, hgreen, hblue⟩
      exact ⟨_, hred, _, hgreen, _, hblue, rfl, rfl, rfl⟩
  · simp only [hlength, ne_eq, not_false_eq_true, if_true, bind_eq_ok_iff]
    constructor
    · rintro ⟨_, hthrow, -⟩
      cases hthrow
    · rintro ⟨⟩
      exact absurd rfl hlength

theorem not_readsPair_mark : ¬ReadsPair '#' y n := by
  have hvalue : hexValue? '#' = none := by decide
  have hpadding : isPadding '#' = false := by decide
  intro h
  cases h with
  | digits ha _ => exact nomatch hvalue.symm.trans ha
  | padded hu _ => exact nomatch hpadding.symm.trans hu
  | trailed ha _ => exact nomatch hvalue.symm.trans ha

theorem Channels.length_eq (h : Channels digits c) : digits.length = 6 := by
  cases h
  rfl

theorem Channels.dropWhile_append (h : Channels digits c) (n : Nat) :
    (List.replicate n '#' ++ digits).dropWhile (· == '#') = digits := by
  induction n with
  | zero =>
      obtain @⟨r₁, _, _, _, _, _, _, hred, -, -⟩ := h
      have hfirst : r₁ ≠ '#' := by
        rintro rfl
        exact not_readsPair_mark hred
      simp [hfirst]
  | succ n ih => simpa [List.replicate_succ] using ih

theorem parse_eq_ok_iff : parse s = .ok c ↔
    ∃ n digits, s.toList = List.replicate n '#' ++ digits ∧ Channels digits c := by
  rw [parse_eq_ok_iff_channels]
  constructor
  · intro h
    refine ⟨(s.toList.takeWhile (· == '#')).length, _, ?_, h⟩
    have hmarks : s.toList.takeWhile (· == '#') =
        List.replicate (s.toList.takeWhile (· == '#')).length '#' := by
      rw [List.eq_replicate_iff]
      exact ⟨rfl, fun d hd => by simpa using List.mem_takeWhile_imp hd⟩
    rw [← hmarks, List.takeWhile_append_dropWhile]
  · rintro ⟨n, digits, htext, h⟩
    rw [htext, h.dropWhile_append]
    exact h

/-! ## Texts that are meant to be read -/

theorem hexValue?_of_mem (h : x ∈ hexAlphabet) :
    ∃ a, hexValue? x = some a ∧ hexDigit a = x.toLower := by
  have hvalues : hexAlphabet.all (fun d => (hexValue? d).map hexDigit == some d.toLower) = true := by
    decide
  exact Option.map_eq_some_iff.mp (beq_iff_eq.mp (List.all_eq_true.mp hvalues x h))

theorem exists_readsPair (hx : x ∈ hexAlphabet) (hy : y ∈ hexAlphabet) :
    ∃ u : UInt8, ReadsPair x y u.toNat := by
  obtain ⟨a, ha, -⟩ := hexValue?_of_mem hx
  obtain ⟨b, hb, -⟩ := hexValue?_of_mem hy
  have hlt : 16 * a + b < 256 := by
    have := hexValue?_lt ha
    have := hexValue?_lt hb
    omega
  have hvalue : (16 * a + b).toUInt8.toNat = 16 * a + b := by
    simp [Nat.toUInt8, Nat.mod_eq_of_lt hlt]
  refine ⟨(16 * a + b).toUInt8, ?_⟩
  rw [hvalue]
  exact .digits ha hb

/-- A pair of digits is written as it was read, so no pair is read in two ways. -/
theorem hexDigits_of_readsPair (hx : x ∈ hexAlphabet) (hy : y ∈ hexAlphabet) {m : Nat}
    (h : ReadsPair x y m) : hexDigits 2 m = [x.toLower, y.toLower] := by
  obtain ⟨a, ha, hlowx⟩ := hexValue?_of_mem hx
  obtain ⟨b, hb, hlowy⟩ := hexValue?_of_mem hy
  obtain rfl : 16 * a + b = m := by
    generalize hm : (m : Int) = k at h
    cases h with
    | digits ha' hb' =>
        obtain rfl := Option.some.inj (ha.symm.trans ha')
        obtain rfl := Option.some.inj (hb.symm.trans hb')
        exact (Int.natCast_inj.mp hm).symm
    | padded hu => exact nomatch ha.symm.trans (hexValue?_of_isPadding hu)
    | trailed _ hv => exact nomatch hb.symm.trans (hexValue?_of_isPadding hv)
    | plus => exact absurd hx (by decide)
    | minus => exact absurd hx (by decide)
  have := hexValue?_lt ha
  have := hexValue?_lt hb
  have hhigh : (16 * a + b) / 16 % 16 = a := by omega
  have hlow : (16 * a + b) % 16 = b := by omega
  simp [hexDigits, hhigh, hlow, hlowx, hlowy]

/-- The parts of a colour that six digits of base sixteen are read as. -/
theorem exists_channels (hlength : digits.length = 6) (halphabet : ∀ d ∈ digits, d ∈ hexAlphabet) :
    ∃ c, Channels digits c := by
  obtain ⟨r₁, r₂, g₁, g₂, b₁, b₂, rfl⟩ := exists_of_length_six hlength
  simp only [List.forall_mem_cons] at halphabet
  obtain ⟨hr₁, hr₂, hg₁, hg₂, hb₁, hb₂, -⟩ := halphabet
  obtain ⟨red, hred⟩ := exists_readsPair hr₁ hr₂
  obtain ⟨green, hgreen⟩ := exists_readsPair hg₁ hg₂
  obtain ⟨blue, hblue⟩ := exists_readsPair hb₁ hb₂
  exact ⟨⟨red, green, blue⟩, hred, hgreen, hblue⟩

theorem Channels.hex_eq (h : Channels digits c) (halphabet : ∀ d ∈ digits, d ∈ hexAlphabet) :
    c.hex = String.ofList ('#' :: digits.map Char.toLower) := by
  obtain ⟨hred, hgreen, hblue⟩ := h
  simp only [List.forall_mem_cons] at halphabet
  obtain ⟨hr₁, hr₂, hg₁, hg₂, hb₁, hb₂, -⟩ := halphabet
  rw [hex, hexChars, hexDigits_of_readsPair hr₁ hr₂ hred, hexDigits_of_readsPair hg₁ hg₂ hgreen,
    hexDigits_of_readsPair hb₁ hb₂ hblue]
  rfl

theorem HexColor.exists_marks (h : HexColor s digits) :
    ∃ k ≤ 1, s.toList = List.replicate k '#' ++ digits := by
  cases h.marked with
  | inl hbare => exact ⟨0, Nat.zero_le 1, hbare⟩
  | inr hmarked => exact ⟨1, Nat.le_refl 1, hmarked⟩

theorem HexColor.exists_parse (h : HexColor s digits) : ∃ c, parse s = .ok c := by
  obtain ⟨k, -, htext⟩ := h.exists_marks
  obtain ⟨c, hc⟩ := exists_channels h.length h.alphabet
  exact ⟨c, parse_eq_ok_iff.mpr ⟨k, digits, htext, hc⟩⟩

/-- A text that is written as it is meant is read in one way only. -/
theorem HexColor.eq_of_channels {n : Nat} {others : List Char} (h : HexColor s digits)
    (htext : s.toList = List.replicate n '#' ++ others) (hothers : Channels others c) :
    n ≤ 1 ∧ others = digits := by
  obtain ⟨k, hk, hmeant⟩ := h.exists_marks
  obtain ⟨c', hdigits⟩ := exists_channels h.length h.alphabet
  have heq : others = digits := by
    rw [← hothers.dropWhile_append n, ← hdigits.dropWhile_append k, ← htext, hmeant]
  subst heq
  have hlength := congrArg List.length (htext.symm.trans hmeant)
  simp only [List.length_append, List.length_replicate] at hlength
  exact ⟨by omega, rfl⟩

/-- What is not loose is written as it is meant. -/
theorem hexColor_of_not_loose (h : ¬Loose s) (hc : parse s = .ok c) :
    ∃ digits, HexColor s digits := by
  obtain ⟨n, digits, htext, hdigits⟩ := parse_eq_ok_iff.mp hc
  have hmarks : n < 2 := by
    by_contra hmore
    exact h ⟨n, digits, c, htext, hdigits, .inl (Nat.not_lt.mp hmore)⟩
  have halphabet : ∀ d ∈ digits, d ∈ hexAlphabet := by
    intro d hd
    by_contra hodd
    exact h ⟨n, digits, c, htext, hdigits, .inr ⟨d, hd, hodd⟩⟩
  refine ⟨digits, ?_, hdigits.length_eq, halphabet⟩
  obtain rfl | rfl : n = 0 ∨ n = 1 := by omega
  · exact .inl htext
  · exact .inr htext

theorem readsExactly_iff (s : String) : ReadsExactly s ↔ ¬Loose s := by
  constructor
  · rintro h ⟨n, digits, c, htext, hdigits, hloose⟩
    have hparse := parse_eq_ok_iff.mpr ⟨n, digits, htext, hdigits⟩
    obtain ⟨meant, hmeant⟩ := h.accepts.mp ⟨c, hparse⟩
    obtain ⟨hmarks, rfl⟩ := hmeant.eq_of_channels htext hdigits
    rcases hloose with hmore | ⟨d, hd, hodd⟩
    · omega
    · exact hodd (hmeant.alphabet d hd)
  · intro h
    refine ⟨⟨?_, ?_⟩, ?_, fun _ _ => rfl⟩
    · rintro ⟨c, hc⟩
      exact hexColor_of_not_loose h hc
    · rintro ⟨digits, hdigits⟩
      exact hdigits.exists_parse
    · intro digits c hdigits hc
      obtain ⟨n, others, htext, hothers⟩ := parse_eq_ok_iff.mp hc
      obtain ⟨-, rfl⟩ := hdigits.eq_of_channels htext hothers
      exact hothers.hex_eq hdigits.alphabet

/-- Signs are read as parts of the pairs. -/
theorem signs_not_readsExactly : ¬ReadsExactly "+1+2+3" := by
  intro h
  have hpairs : Channels ['+', '1', '+', '2', '+', '3'] ⟨1, 2, 3⟩ :=
    .pairs (.plus (by decide)) (.plus (by decide)) (.plus (by decide))
  obtain ⟨digits, hdigits⟩ := h.accepts.mp ⟨_, parse_eq_ok_iff.mpr ⟨0, _, rfl, hpairs⟩⟩
  obtain ⟨-, rfl⟩ := hdigits.eq_of_channels (n := 0) rfl hpairs
  have hsign : '+' ∈ hexAlphabet := hdigits.alphabet '+' List.mem_cons_self
  revert hsign
  decide

end BytecodeViewer.Color
