import BytecodeViewer.Text.Numeral

/-!
# Numerals of two characters

Two characters are a numeral of base sixteen if they are two digits, or one digit that has a sign or
a blank in front of it or a blank behind it.  A digit may be a decimal one of any script.
-/

namespace BytecodeViewer.Text

/-- The value of a digit of base sixteen. -/
def hexValue? (c : Char) : Option Nat :=
  digitIn? 16 (asciiForm c)

/-- Whether a character may stand around a numeral. -/
def isPadding (c : Char) : Bool :=
  isAsciiBlank (asciiForm c)

/-- How two characters can be a numeral. -/
inductive ReadsPair : Char → Char → Int → Prop
  | digits {x y : Char} {a b : Nat} (first : hexValue? x = some a) (second : hexValue? y = some b) :
      ReadsPair x y (16 * a + b : Nat)
  | padded {x y : Char} {b : Nat} (first : isPadding x = true) (second : hexValue? y = some b) :
      ReadsPair x y b
  | trailed {x y : Char} {a : Nat} (first : hexValue? x = some a) (second : isPadding y = true) :
      ReadsPair x y a
  | plus {y : Char} {b : Nat} (second : hexValue? y = some b) : ReadsPair '+' y b
  | minus {y : Char} {b : Nat} (second : hexValue? y = some b) : ReadsPair '-' y (-b)

variable {c u v x y : Char} {a b : Nat} {n : Int}

/-! ## Characters in their ASCII forms -/

theorem digitIn?_lt {base : Nat} (h : digitIn? base c = some a) : a < base := by
  obtain ⟨d, -, hd⟩ := Option.bind_eq_some_iff.mp h
  split at hd
  · cases hd
    assumption
  · cases hd

theorem hexValue?_lt (h : hexValue? c = some a) : a < 16 :=
  digitIn?_lt h

theorem digitValue?_lt (h : digitValue? c = some a) : a < 10 := by
  obtain ⟨z, hz, rfl⟩ := Option.map_eq_some_iff.mp h
  have hrange := List.find?_some hz
  simp only [Bool.and_eq_true, decide_eq_true_eq] at hrange
  omega

theorem asciiForm_of_lt (h : c.toNat < 0x7F) : asciiForm c = c := by
  simp [asciiForm, h]

/-- Beyond ASCII there are only forms of blanks, digits and what is neither. -/
theorem asciiForm_of_le (h : 0x7F ≤ c.toNat) : asciiForm c ∈ " 0123456789?".toList := by
  have hlt : ¬c.toNat < 0x7F := Nat.not_lt.mpr h
  rw [asciiForm, if_neg hlt]
  split
  · decide
  · cases hd : digitValue? c with
    | none => decide
    | some d =>
        have hforms : ∀ d < 10, Char.ofNat (48 + d) ∈ " 0123456789?".toList := by decide
        exact hforms d (digitValue?_lt hd)

theorem asciiForm_eq_iff (hc : c ∉ " 0123456789?".toList) (hlt : c.toNat < 0x7F) :
    asciiForm x = c ↔ x = c := by
  constructor
  · intro hform
    by_cases hx : x.toNat < 0x7F
    · rwa [asciiForm_of_lt hx] at hform
    · have hmem := asciiForm_of_le (Nat.not_lt.mp hx)
      rw [hform] at hmem
      exact absurd hmem hc
  · rintro rfl
    exact asciiForm_of_lt hlt

theorem eq_last_of_lt (hlt : c.toNat < 0x80) (hge : ¬c.toNat < 0x7F) : c = Char.ofNat 0x7F := by
  have hn : c.toNat = 0x7F := by omega
  rw [← hn, Char.ofNat_toNat]

/-- The last character of ASCII is the only one that has another form, and neither is a digit or a
blank. -/
theorem form_alike (h : c.toNat < 0x80) :
    digitIn? 16 (asciiForm c) = digitIn? 16 c ∧ isAsciiBlank (asciiForm c) = isAsciiBlank c := by
  by_cases hlt : c.toNat < 0x7F
  · rw [asciiForm_of_lt hlt]
    exact ⟨rfl, rfl⟩
  · obtain rfl := eq_last_of_lt h hlt
    decide +kernel

theorem asciiForm_lt (c : Char) : (asciiForm c).toNat < 0x7F := by
  by_cases h : c.toNat < 0x7F
  · rwa [asciiForm_of_lt h]
  · have hforms : " 0123456789?".toList.all (·.toNat < 0x7F) = true := by decide
    simpa using List.all_eq_true.mp hforms _ (asciiForm_of_le (Nat.not_lt.mp h))

@[simp] theorem asciiForm_asciiForm (c : Char) : asciiForm (asciiForm c) = asciiForm c :=
  asciiForm_of_lt (asciiForm_lt c)

theorem digitIn?_of_isAsciiBlank (h : isAsciiBlank c = true) : digitIn? 16 c = none := by
  have hle : c.toNat ≤ 32 := by
    simp only [isAsciiBlank, Bool.or_eq_true, Bool.and_eq_true, decide_eq_true_eq,
      beq_iff_eq] at h
    omega
  have hblanks : ∀ n ≤ 32, digitIn? 16 (Char.ofNat n) = none := by decide
  rw [← Char.ofNat_toNat c]
  exact hblanks c.toNat hle

theorem hexValue?_of_isPadding (h : isPadding c = true) : hexValue? c = none :=
  digitIn?_of_isAsciiBlank h

theorem not_isAsciiBlank_of_digitIn? (h : digitIn? 16 c = some a) : isAsciiBlank c = false := by
  rw [Bool.eq_false_iff]
  intro hblank
  rw [digitIn?_of_isAsciiBlank hblank] at h
  cases h

/-! ## Reading forms -/

/-- What is read of the characters of a numeral, once there are no blanks around them. -/
def readSigned? (base : Nat) (cs : List Char) : Option Int :=
  match cs with
  | '-' :: rest => (readNatural? base rest).map fun n => -(n : Int)
  | '+' :: rest => (readNatural? base rest).map fun n => (n : Int)
  | rest => (readNatural? base rest).map fun n => (n : Int)

/-- A number is taken for an integer before it is negated. -/
theorem map_of_natural (f : Int → Int) (o : Option Nat) :
    Option.map f (do let n ← o; pure (n : Int)) = o.map fun (n : Nat) => f n := by
  cases o <;> rfl

theorem readDigits?_cons {base acc : Nat} {cs : List Char} (hmark : c ≠ '_') :
    readDigits? base acc (c :: cs) =
      (digitIn? base c).bind fun d => readDigits? base (acc * base + d) cs := by
  rw [readDigits?]
  · cases digitIn? base c <;> rfl
  · simp [hmark]
  · simp [hmark]

theorem readNatural?_single (v : Char) : readNatural? 16 [v] = digitIn? 16 v := by
  by_cases hmark : v = '_'
  · subst hmark
    decide
  · have hread : readNatural? 16 [v] = readDigits? 16 0 [v] := by
      simp [readNatural?, dropBaseMark, hmark]
    rw [hread, readDigits?_cons hmark]
    simp [readDigits?]

theorem digitIn?_of_toLower (h : v.toLower = 'x') : digitIn? 16 v = none := by
  unfold Char.toLower at h
  split at h
  · have hval := congrArg Char.val h
    have hv : v = 'X' := by
      apply Char.ext
      simp only at hval ⊢
      grind
    subst hv
    decide
  · subst h
    decide

/-- No digit is lost to the mark of the base, since an `x` is not a digit. -/
theorem readNatural?_pair (u v : Char) : readNatural? 16 [u, v] =
    (digitIn? 16 u).bind fun a => (digitIn? 16 v).map fun b => 16 * a + b := by
  by_cases hbase : u = '0' ∧ v.toLower = 'x'
  · obtain ⟨rfl, hx⟩ := hbase
    simp [readNatural?, dropBaseMark, baseMark?, hx, digitIn?_of_toLower hx]
  have hkept : dropBaseMark 16 [u, v] = [u, v] := by
    by_cases hu : u = '0'
    · subst hu
      simpa [dropBaseMark, baseMark?] using hbase
    · simp [dropBaseMark, hu]
  by_cases hu : u = '_'
  · subst hu
    simp [readNatural?, hkept, show digitIn? 16 '_' = none by decide]
  have hread : readNatural? 16 [u, v] = readDigits? 16 0 [u, v] := by
    simp [readNatural?, hkept, hu]
  rw [hread, readDigits?_cons hu]
  by_cases hv : v = '_'
  · subst hv
    simp [readDigits?, show digitIn? 16 '_' = none by decide]
  · simp only [readDigits?_cons hv]
    cases digitIn? 16 u <;> cases digitIn? 16 v <;> simp [readDigits?, Nat.mul_comm]

theorem readSigned?_of_unsigned (base : Nat) (hminus : u ≠ '-') (hplus : u ≠ '+')
    (cs : List Char) :
    readSigned? base (u :: cs) = (readNatural? base (u :: cs)).map fun (n : Nat) => (n : Int) := by
  simp only [readSigned?, map_of_natural]
  simp [hminus, hplus]

theorem readSigned?_single (v : Char) :
    readSigned? 16 [v] = (digitIn? 16 v).map fun (b : Nat) => (b : Int) := by
  by_cases hminus : v = '-'
  · subst hminus
    decide
  by_cases hplus : v = '+'
  · subst hplus
    decide
  rw [readSigned?_of_unsigned 16 hminus hplus, readNatural?_single]

theorem readSigned?_digits (ha : digitIn? 16 u = some a) (hb : digitIn? 16 v = some b) :
    readSigned? 16 [u, v] = some (16 * a + b : Nat) := by
  have hminus : u ≠ '-' := by
    rintro rfl
    cases ha
  have hplus : u ≠ '+' := by
    rintro rfl
    cases ha
  rw [readSigned?_of_unsigned 16 hminus hplus, readNatural?_pair, ha, hb]
  rfl

theorem trimBy_pair (p : Char → Bool) (u v : Char) : trimBy p [u, v] =
    if p u then if p v then [] else [v] else if p v then [u] else [u, v] := by
  cases hu : p u <;> cases hv : p v <;> simp [trimBy, hu, hv]

theorem ReadsPair.of_readSigned? (hult : u.toNat < 0x80) (hvlt : v.toNat < 0x80)
    (h : readSigned? 16 [u, v] = some n) : ReadsPair u v n := by
  simp only [readSigned?.eq_def, map_of_natural] at h
  split at h
  case h_1 rest heq =>
    obtain ⟨rfl, rfl⟩ : u = '-' ∧ [v] = rest := by simpa using heq
    obtain ⟨b, hb, rfl⟩ := Option.map_eq_some_iff.mp h
    exact .minus ((form_alike hvlt).1.trans (readNatural?_single v ▸ hb))
  case h_2 rest heq =>
    obtain ⟨rfl, rfl⟩ : u = '+' ∧ [v] = rest := by simpa using heq
    obtain ⟨b, hb, rfl⟩ := Option.map_eq_some_iff.mp h
    exact .plus ((form_alike hvlt).1.trans (readNatural?_single v ▸ hb))
  case h_3 =>
    obtain ⟨m, hm, rfl⟩ := Option.map_eq_some_iff.mp h
    rw [readNatural?_pair] at hm
    obtain ⟨a, ha, hm⟩ := Option.bind_eq_some_iff.mp hm
    obtain ⟨b, hb, rfl⟩ := Option.map_eq_some_iff.mp hm
    exact .digits ((form_alike hult).1.trans ha) ((form_alike hvlt).1.trans hb)

theorem readSigned?_trimBy_pair (hult : u.toNat < 0x80) (hvlt : v.toNat < 0x80) :
    readSigned? 16 (trimBy isAsciiBlank [u, v]) = some n ↔ ReadsPair u v n := by
  have hdigit : ∀ {c : Char} {a : Nat}, c.toNat < 0x80 → hexValue? c = some a →
      digitIn? 16 c = some a ∧ isAsciiBlank c = false := fun hlt ha =>
    have hd := (form_alike hlt).1.symm.trans ha
    ⟨hd, not_isAsciiBlank_of_digitIn? hd⟩
  constructor
  · intro h
    rw [trimBy_pair] at h
    cases hu : isAsciiBlank u <;> cases hv : isAsciiBlank v <;>
      simp only [hu, hv, if_true, if_false, Bool.false_eq_true] at h
    case false.false => exact .of_readSigned? hult hvlt h
    case false.true =>
      rw [readSigned?_single] at h
      obtain ⟨a, ha, rfl⟩ := Option.map_eq_some_iff.mp h
      exact .trailed ((form_alike hult).1.trans ha) ((form_alike hvlt).2.trans hv)
    case true.false =>
      rw [readSigned?_single] at h
      obtain ⟨b, hb, rfl⟩ := Option.map_eq_some_iff.mp h
      exact .padded ((form_alike hult).2.trans hu) ((form_alike hvlt).1.trans hb)
    case true.true => cases h
  · rintro (⟨ha, hb⟩ | ⟨hu, hb⟩ | ⟨ha, hv⟩ | ⟨hb⟩ | ⟨hb⟩)
    · obtain ⟨ha, hu⟩ := hdigit hult ha
      obtain ⟨hb, hv⟩ := hdigit hvlt hb
      simp [trimBy_pair, hu, hv, readSigned?_digits ha hb]
    · obtain ⟨hb, hv⟩ := hdigit hvlt hb
      have hu : isAsciiBlank u = true := (form_alike hult).2.symm.trans hu
      simp [trimBy_pair, hu, hv, readSigned?_single, hb]
    · obtain ⟨ha, hu⟩ := hdigit hult ha
      have hv : isAsciiBlank v = true := (form_alike hvlt).2.symm.trans hv
      simp [trimBy_pair, hu, hv, readSigned?_single, ha]
    · obtain ⟨hb, hv⟩ := hdigit hvlt hb
      have hplus : isAsciiBlank '+' = false := by decide
      simp [trimBy_pair, hplus, hv, readSigned?, readNatural?_single, hb]
    · obtain ⟨hb, hv⟩ := hdigit hvlt hb
      have hminus : isAsciiBlank '-' = false := by decide
      simp [trimBy_pair, hminus, hv, readSigned?, readNatural?_single, hb]

/-- Signs are the same in their ASCII forms. -/
theorem readsPair_asciiForm : ReadsPair (asciiForm x) (asciiForm y) n ↔ ReadsPair x y n := by
  have hvalue (c : Char) : hexValue? (asciiForm c) = hexValue? c := by simp [hexValue?]
  have hpadding (c : Char) : isPadding (asciiForm c) = isPadding c := by simp [isPadding]
  constructor
  · intro h
    generalize hx : asciiForm x = u at h
    cases h with
    | digits ha hb => exact .digits (hvalue x ▸ hx ▸ ha) (hvalue y ▸ hb)
    | padded hu hb => exact .padded (hpadding x ▸ hx ▸ hu) (hvalue y ▸ hb)
    | trailed ha hv => exact .trailed (hvalue x ▸ hx ▸ ha) (hpadding y ▸ hv)
    | plus hb =>
        obtain rfl := (asciiForm_eq_iff (by decide) (by decide)).mp hx
        exact .plus (hvalue y ▸ hb)
    | minus hb =>
        obtain rfl := (asciiForm_eq_iff (by decide) (by decide)).mp hx
        exact .minus (hvalue y ▸ hb)
  · rintro (⟨ha, hb⟩ | ⟨hu, hb⟩ | ⟨ha, hv⟩ | ⟨hb⟩ | ⟨hb⟩)
    · exact .digits ((hvalue x).trans ha) ((hvalue y).trans hb)
    · exact .padded ((hpadding x).trans hu) ((hvalue y).trans hb)
    · exact .trailed ((hvalue x).trans ha) ((hpadding y).trans hv)
    · exact .plus ((hvalue y).trans hb)
    · exact .minus ((hvalue y).trans hb)

theorem readInteger?_eq (base : Nat) (s : String) :
    readInteger? base s = readSigned? base (trimBy isAsciiBlank
      (if s.toList.all (·.toNat < 0x80) then s.toList else s.toList.map asciiForm)) :=
  rfl

theorem readInteger?_pair : readInteger? 16 (String.ofList [x, y]) = some n ↔ ReadsPair x y n := by
  rw [readInteger?_eq, String.toList_ofList]
  by_cases hascii : x.toNat < 0x80 ∧ y.toNat < 0x80
  · rw [if_pos (by simpa using hascii)]
    exact readSigned?_trimBy_pair hascii.1 hascii.2
  · rw [if_neg (by simpa using hascii), List.map_cons, List.map_cons, List.map_nil,
      readSigned?_trimBy_pair (Nat.lt_succ_of_lt (asciiForm_lt x))
        (Nat.lt_succ_of_lt (asciiForm_lt y)), readsPair_asciiForm]

end BytecodeViewer.Text
