import Mathlib.Data.Nat.Digits.Defs
import BytecodeViewer.Proofs.Text.PairNumerals
import BytecodeViewer.Proofs.Text.Trimming

/-!
# Numerals of decimal digits

A text of decimal digits, of any script and with blanks around them, is read as the number that the
digits denote, unless there are too many of them.  Not all that looks like such a text can be read:
digit signs have no place in a numeral, and the separators of ASCII are blanks that may not stand
around one.
-/

namespace BytecodeViewer.Text

/-- One of the four separators of ASCII. -/
def isSeparator (c : Char) : Bool :=
  0x1C ≤ c.toNat && c.toNat ≤ 0x1F

/-- The number that decimal digits denote, the first digit having the highest place. -/
def decimalNumber (digits : List Char) : Nat :=
  Nat.ofDigits 10 (digits.map fun c => (digitValue? c).getD 0).reverse

variable {c x : Char} {s : String} {cs : List Char} {d : Nat}

/-! ## Digits and blanks -/

theorem mem_zeros_of_digitValue? (h : digitValue? c = some d) :
    d < 10 ∧ ∃ z ∈ zeros, c.toNat = z + d := by
  refine ⟨digitValue?_lt h, ?_⟩
  obtain ⟨z, hz, rfl⟩ := Option.map_eq_some_iff.mp h
  have hrange := List.find?_some hz
  simp only [Bool.and_eq_true, decide_eq_true_eq] at hrange
  exact ⟨z, List.mem_of_find?_eq_some hz, by omega⟩

theorem not_isBlank_of_isDecimal (h : isDecimal c = true) : isBlank c = false := by
  obtain ⟨d, hd⟩ := Option.isSome_iff_exists.mp h
  obtain ⟨hlt, z, hz, hc⟩ := mem_zeros_of_digitValue? hd
  have hdigits : ∀ z ∈ zeros, ∀ d < 10, isBlank (Char.ofNat (z + d)) = false := by
    decide +kernel
  rw [← Char.ofNat_toNat c, hc]
  exact hdigits z hz d hlt

/-- Decimal digits of ASCII are its digits. -/
theorem digitIn?_of_lt (h : c.toNat < 0x7F) : digitIn? 10 c = digitValue? c := by
  have hascii : ∀ n < 0x7F, digitIn? 10 (Char.ofNat n) = digitValue? (Char.ofNat n) := by
    decide +kernel
  rw [← Char.ofNat_toNat c]
  exact hascii c.toNat h

theorem digitIn?_asciiForm (h : digitValue? c = some d) : digitIn? 10 (asciiForm c) = some d := by
  by_cases hlt : c.toNat < 0x7F
  · rwa [asciiForm_of_lt hlt, digitIn?_of_lt hlt]
  · have hblank : isBlank c = false := not_isBlank_of_isDecimal (by rw [isDecimal, h]; rfl)
    have hform : asciiForm c = Char.ofNat (48 + d) := by simp [asciiForm, hlt, hblank, h]
    have hdigits : ∀ d < 10, digitIn? 10 (Char.ofNat (48 + d)) = some d := by decide
    rw [hform]
    exact hdigits d (digitValue?_lt h)

/-- A digit sign has no form in ASCII. -/
theorem asciiForm_of_sign (like : isDigitLike c = true) (sign : isDecimal c = false) :
    asciiForm c = '?' := by
  have hsign : digitSignRanges.has c = true := by simpa [isDigitLike, sign] using like
  obtain ⟨⟨first, last⟩, hmem, hrange⟩ := List.any_eq_true.mp hsign
  simp only [Bool.and_eq_true, decide_eq_true_eq] at hrange
  have hbeyond : ∀ r ∈ digitSignRanges, 0x7F ≤ r.1 ∧
      ∀ n ≤ r.2 - r.1, isBlank (Char.ofNat (r.1 + n)) = false := by
    decide +kernel
  obtain ⟨hfirst, hblanks⟩ := hbeyond _ hmem
  have hlt : ¬c.toNat < 0x7F := by omega
  have hblank : isBlank c = false := by
    have hc := hblanks (c.toNat - first) (by omega)
    rwa [Nat.add_sub_cancel' hrange.1, Char.ofNat_toNat] at hc
  have hvalue : digitValue? c = none := by simpa [isDecimal] using sign
  simp [asciiForm, hlt, hblank, hvalue]

/-- What may stand around a numeral is what is blank, but for the separators. -/
theorem isPadding_eq (c : Char) : isPadding c = (isBlank c && !isSeparator c) := by
  by_cases hlt : c.toNat < 0x7F
  · have hascii : ∀ n < 0x7F, isAsciiBlank (Char.ofNat n) =
        (isBlank (Char.ofNat n) && !isSeparator (Char.ofNat n)) := by decide +kernel
    rw [isPadding, asciiForm_of_lt hlt]
    simpa only [Char.ofNat_toNat] using hascii c.toNat hlt
  · have hseparator : isSeparator c = false := by
      simp only [isSeparator, Bool.and_eq_false_iff, decide_eq_false_iff_not]
      omega
    rw [hseparator, Bool.not_false, Bool.and_true]
    cases hblank : isBlank c with
    | true => simp [isPadding, asciiForm, hlt, hblank, isAsciiBlank]
    | false =>
        cases hd : digitValue? c with
        | none => simp [isPadding, asciiForm, hlt, hblank, hd, isAsciiBlank]
        | some d =>
            have hdigits : ∀ d < 10, isAsciiBlank (Char.ofNat (48 + d)) = false := by decide
            simpa [isPadding, asciiForm, hlt, hblank, hd] using hdigits d (digitValue?_lt hd)

/-! ## Reading digits -/

theorem decimalNumber_cons (hd : digitValue? c = some d) (cs : List Char) :
    decimalNumber (c :: cs) = d * 10 ^ cs.length + decimalNumber cs := by
  rw [decimalNumber, List.map_cons, hd, Option.getD_some, Nat.ofDigits_reverse_cons,
    List.length_map, Nat.add_comm, Nat.mul_comm, decimalNumber]

theorem readDigits?_decimal (acc : Nat) (hcs : ∀ c ∈ cs, isDecimal c = true) :
    readDigits? 10 acc (cs.map asciiForm) = some (acc * 10 ^ cs.length + decimalNumber cs) := by
  induction cs generalizing acc with
  | nil => simp [readDigits?, decimalNumber]
  | cons c cs ih =>
      obtain ⟨hc, hrest⟩ := List.forall_mem_cons.mp hcs
      obtain ⟨d, hd⟩ := Option.isSome_iff_exists.mp hc
      have hdigit := digitIn?_asciiForm hd
      have hmark : asciiForm c ≠ '_' := by
        intro h
        rw [h] at hdigit
        cases hdigit
      have hplaces : (acc * 10 + d) * 10 ^ cs.length =
          acc * 10 ^ (cs.length + 1) + d * 10 ^ cs.length := by ring
      rw [List.map_cons, readDigits?_cons hmark, hdigit, Option.bind_some, ih _ hrest,
        decimalNumber_cons hd, List.length_cons, hplaces, Nat.add_assoc]

/-! ## Reading numerals -/

/-- The characters of a text in the forms in which a numeral is read. -/
def numeralForms (cs : List Char) : List Char :=
  if cs.all (·.toNat < 0x80) then cs else cs.map asciiForm

theorem trimBy_map_asciiForm (cs : List Char) :
    trimBy isAsciiBlank (cs.map asciiForm) = (trimBy isPadding cs).map asciiForm :=
  trimBy_map isAsciiBlank asciiForm cs

theorem dropBaseMark_ten (cs : List Char) : dropBaseMark 10 cs = cs := by
  unfold dropBaseMark
  split
  · simp [baseMark?]
  · rfl

/-- Whether a character may stand in a decimal numeral. -/
def isNumeralPart (c : Char) : Bool :=
  c == '+' || c == '-' || c == '_' || (digitIn? 10 c).isSome

theorem isNumeralPart_of_readDigits? {acc n : Nat} (h : readDigits? 10 acc cs = some n) :
    ∀ c ∈ cs, isNumeralPart c = true := by
  fun_induction readDigits? 10 acc cs generalizing n <;> grind [isNumeralPart]

theorem isNumeralPart_of_readNatural? {n : Nat} (h : readNatural? 10 cs = some n) :
    ∀ c ∈ cs, isNumeralPart c = true := by
  rw [readNatural?, dropBaseMark_ten] at h
  split at h
  · cases h
  · cases h
  · exact isNumeralPart_of_readDigits? h

theorem isNumeralPart_of_readSigned? {n : Int} (h : readSigned? 10 cs = some n) :
    ∀ c ∈ cs, isNumeralPart c = true := by
  simp only [readSigned?.eq_def, map_of_natural] at h
  split at h
  case h_1 rest =>
    obtain ⟨m, hm, -⟩ := Option.map_eq_some_iff.mp h
    exact List.forall_mem_cons.mpr ⟨by decide, isNumeralPart_of_readNatural? hm⟩
  case h_2 rest =>
    obtain ⟨m, hm, -⟩ := Option.map_eq_some_iff.mp h
    exact List.forall_mem_cons.mpr ⟨by decide, isNumeralPart_of_readNatural? hm⟩
  case h_3 =>
    obtain ⟨m, hm, -⟩ := Option.map_eq_some_iff.mp h
    exact isNumeralPart_of_readNatural? hm

/-! ## Texts of digits -/

theorem isBlank_or_mem_trim (hc : c ∈ s.toList) : isBlank c = true ∨ c ∈ (trim s).toList := by
  cases hblank : isBlank c with
  | true => exact .inl rfl
  | false =>
      rw [toList_trim]
      exact .inr (mem_trimBy hc hblank)

/-- The one character of ASCII that is read in another form is neither blank nor a digit. -/
theorem numeralForms_eq (h : ∀ c ∈ cs, isBlank c = true ∨ isDigitLike c = true) :
    numeralForms cs = cs.map asciiForm := by
  rw [numeralForms]
  split
  case isFalse => rfl
  case isTrue hascii =>
      have hsame : ∀ c ∈ cs, asciiForm c = c := by
        intro c hc
        have hlt : c.toNat < 0x80 := by simpa using List.all_eq_true.mp hascii c hc
        apply asciiForm_of_lt
        by_contra hge
        obtain rfl := eq_last_of_lt hlt hge
        exact absurd (h _ hc) (by decide +kernel)
      rw [List.map_congr_left hsame, List.map_id']

theorem isSome_digitIn?_of_mem_map (hdigits : ∀ c ∈ cs, isDecimal c = true)
    (hx : x ∈ cs.map asciiForm) : (digitIn? 10 x).isSome = true := by
  obtain ⟨c, hc, rfl⟩ := List.mem_map.mp hx
  obtain ⟨d, hd⟩ := Option.isSome_iff_exists.mp (hdigits c hc)
  rw [digitIn?_asciiForm hd, Option.isSome_some]

/-- Digits are no marks of numerals. -/
theorem ne_of_isSome_digitIn? (hx : (digitIn? 10 x).isSome = true) :
    x ≠ '-' ∧ x ≠ '+' ∧ x ≠ '_' := by
  refine ⟨?_, ?_, ?_⟩
  all_goals
    rintro rfl
    cases hx

theorem readSigned?_decimal (hne : cs ≠ []) (hdigits : ∀ c ∈ cs, isDecimal c = true) :
    readSigned? 10 (cs.map asciiForm) = some (decimalNumber cs : Int) := by
  have hread := readDigits?_decimal 0 hdigits
  rw [Nat.zero_mul, Nat.zero_add] at hread
  cases hforms : cs.map asciiForm with
  | nil => exact absurd (List.map_eq_nil_iff.mp hforms) hne
  | cons x rest =>
      obtain ⟨hminus, hplus, hmark⟩ :=
        ne_of_isSome_digitIn? (isSome_digitIn?_of_mem_map hdigits (hforms ▸ List.mem_cons_self))
      have hnatural : readNatural? 10 (x :: rest) = readDigits? 10 0 (x :: rest) := by
        simp [readNatural?, dropBaseMark_ten, hmark]
      rw [readSigned?_of_unsigned 10 hminus hplus, hnatural, ← hforms, hread]
      rfl

theorem leadingDigits_decimal (hdigits : ∀ c ∈ cs, isDecimal c = true)
    (hforms : trimBy isAsciiBlank (s.toList.map asciiForm) = cs.map asciiForm) :
    leadingDigits s = cs.length := by
  have hsome : ∀ x ∈ cs.map asciiForm, (digitIn? 10 x).isSome = true :=
    fun x => isSome_digitIn?_of_mem_map hdigits
  have htaken : (cs.map asciiForm).takeWhile (fun c => c == '_' || (digitIn? 10 c).isSome) =
      cs.map asciiForm := by
    rw [List.takeWhile_eq_self_iff]
    intro x hx
    rw [hsome x hx, Bool.or_true]
  have hkept : (cs.map asciiForm).filter (· != '_') = cs.map asciiForm := by
    rw [List.filter_eq_self]
    intro x hx
    simpa using (ne_of_isSome_digitIn? (hsome x hx)).2.2
  rw [leadingDigits, hforms]
  split
  case h_1 rest heq =>
    have hminus := hsome '-' (heq ▸ List.mem_cons_self)
    cases hminus
  case h_2 rest heq =>
    have hplus := hsome '+' (heq ▸ List.mem_cons_self)
    cases hplus
  case h_3 => rw [htaken, hkept, List.length_map]

/-- What a text of digits must be for its number to be read. -/
structure ReadableDigits (s : String) : Prop where
  decimal : ∀ c ∈ (trim s).toList, isDecimal c = true
  plain : ∀ c ∈ s.toList, isSeparator c = false
  short : (trim s).length ≤ maxDigits

theorem trimBy_forms (plain : ∀ c ∈ cs, isSeparator c = false) :
    trimBy isAsciiBlank (cs.map asciiForm) = (trimBy isBlank cs).map asciiForm := by
  have hsame : ∀ c ∈ cs, isPadding c = isBlank c := by
    intro c hc
    rw [isPadding_eq, plain c hc, Bool.not_false, Bool.and_true]
  rw [trimBy_map_asciiForm, trimBy_congr hsame]

theorem parseInteger_decimal (hne : trim s ≠ "")
    (decimal : ∀ c ∈ (trim s).toList, isDecimal c = true)
    (plain : ∀ c ∈ s.toList, isSeparator c = false) :
    parseInteger 10 s = if maxDigits < (trim s).length then .error (.tooManyDigits (trim s).length)
      else .ok (decimalNumber (trim s).toList) := by
  have hforms : numeralForms s.toList = s.toList.map asciiForm := by
    apply numeralForms_eq
    intro c hc
    exact (isBlank_or_mem_trim hc).imp_right fun h => isDigitLike_of_isDecimal (decimal c h)
  have htrim := trimBy_forms plain
  rw [← toList_trim] at htrim
  have hread : readInteger? 10 s = some (decimalNumber (trim s).toList : Int) := by
    rw [readInteger?_eq, ← numeralForms, hforms, htrim]
    exact readSigned?_decimal (mt String.toList_eq_nil_iff.mp hne) decimal
  rw [parseInteger, leadingDigits_decimal decimal htrim, hread, String.length_toList]
  simp

theorem separator_strays (h : isSeparator c = true) :
    isPadding c = false ∧ isNumeralPart (asciiForm c) = false := by
  simp only [isSeparator, Bool.and_eq_true, decide_eq_true_eq] at h
  have hseparators : ∀ n ≤ 0x1F, 0x1C ≤ n → isPadding (Char.ofNat n) = false ∧
      isNumeralPart (asciiForm (Char.ofNat n)) = false := by decide +kernel
  rw [← Char.ofNat_toNat c]
  exact hseparators c.toNat h.2 h.1

/-- A text that looks like digits is read exactly if these are not too many decimal digits, without
separators around them. -/
theorem parseInteger_eq_ok_iff (hne : trim s ≠ "")
    (like : ∀ c ∈ (trim s).toList, isDigitLike c = true) {n : Int} :
    parseInteger 10 s = .ok n ↔ ReadableDigits s ∧ n = decimalNumber (trim s).toList := by
  constructor
  · intro h
    have hforms : numeralForms s.toList = s.toList.map asciiForm := by
      apply numeralForms_eq
      intro c hc
      exact (isBlank_or_mem_trim hc).imp_right (like c)
    have hread : readSigned? 10 (trimBy isAsciiBlank (s.toList.map asciiForm)) = some n := by
      rw [← hforms, numeralForms, ← readInteger?_eq]
      rw [parseInteger] at h
      split at h
      · cases h
      · split at h
        · cases h
          assumption
        · cases h
    -- what is not dropped as a blank has to be a part of a numeral
    have hparts : ∀ c ∈ s.toList, isPadding c = false → isNumeralPart (asciiForm c) = true := by
      intro c hc hpadding
      exact isNumeralPart_of_readSigned? hread _ (mem_trimBy (List.mem_map_of_mem hc) hpadding)
    have decimal : ∀ c ∈ (trim s).toList, isDecimal c = true := by
      intro c hc
      by_contra hsign
      have hform := asciiForm_of_sign (like c hc) (Bool.eq_false_iff.mpr hsign)
      have hpart := hparts c (trimBy_subset (toList_trim s ▸ hc)) (by rw [isPadding, hform]; rfl)
      rw [hform] at hpart
      cases hpart
    have plain : ∀ c ∈ s.toList, isSeparator c = false := by
      intro c hc
      by_contra hseparator
      obtain ⟨hpadding, hstray⟩ := separator_strays (eq_true_of_ne_false hseparator)
      rw [hparts c hc hpadding] at hstray
      cases hstray
    rw [parseInteger_decimal hne decimal plain] at h
    split at h
    · cases h
    · cases h
      exact ⟨⟨decimal, plain, by omega⟩, rfl⟩
  · rintro ⟨readable, rfl⟩
    rw [parseInteger_decimal hne readable.decimal readable.plain,
      if_neg (Nat.not_lt.mpr readable.short)]

end BytecodeViewer.Text
