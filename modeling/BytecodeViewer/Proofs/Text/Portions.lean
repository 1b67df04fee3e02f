import BytecodeViewer.Text.Portions

/-!
# Where portions end

Bytes that are read portion by portion give the text that they give when they are read at
once: a character that is cut in two is read with the next portion, and what is no character
stays none, whatever follows.
-/

namespace BytecodeViewer.Text

variable {b first : UInt8} {bytes rest more tail : List UInt8} {c : Char} {cs ds : List Char}
  {length : Nat} {f : Utf8Fault}

/-! ## Single characters -/

theorem wellFormedTail_le (first : UInt8) (tail : List UInt8) :
    wellFormedTail first tail ≤ tail.length := by
  cases tail with
  | nil => exact Nat.le_refl 0
  | cons b rest =>
      have hle := (List.takeWhile_sublist isContinuation (l := rest)).length_le
      rw [wellFormedTail, List.length_cons]
      split <;> omega

theorem takeWhile_append_of_lt {p : UInt8 → Bool} (hlt : (tail.takeWhile p).length < tail.length)
    (more : List UInt8) : (tail ++ more).takeWhile p = tail.takeWhile p := by
  rw [List.takeWhile_append, if_neg (Nat.ne_of_lt hlt)]

/-- A byte that does not fit stays where it is. -/
theorem wellFormedTail_append (hlt : wellFormedTail first tail < tail.length)
    (more : List UInt8) : wellFormedTail first (tail ++ more) = wellFormedTail first tail := by
  cases tail with
  | nil => cases hlt
  | cons b rest =>
      rw [List.cons_append, wellFormedTail, wellFormedTail] at *
      by_cases hsecond : maySecond first b = true
      · rw [if_pos hsecond, List.length_cons] at hlt
        rw [if_pos hsecond, if_pos hsecond, takeWhile_append_of_lt (by omega)]
      · rw [if_neg hsecond, if_neg hsecond]

theorem length_pos_of_sequenceLength? {n : Nat} (h : sequenceLength? b = some n) : 0 < n := by
  unfold sequenceLength? at h
  grind

/-- A character is told by its own bytes. -/
theorem readUtf8Char_take (hread : readUtf8Char b rest = .ok (c, length)) :
    0 < length ∧ length - 1 ≤ rest.length ∧
      ∀ more, readUtf8Char b (rest.take (length - 1) ++ more) = .ok (c, length) := by
  unfold readUtf8Char at hread
  split at hread
  · cases hread
  · next n hn =>
    simp only at hread
    split at hread
    · cases hread
    · split at hread
      · cases hread
      · have hgood := wellFormedTail_le b (rest.take (n - 1))
        have hlength : (rest.take (n - 1)).length = n - 1 := by
          rw [List.length_take] at *
          omega
        cases hread
        refine ⟨length_pos_of_sequenceLength? hn, ?_, ?_⟩
        · rw [List.length_take] at hlength
          omega
        · intro more
          have htake : (rest.take (length - 1) ++ more).take (length - 1) =
              rest.take (length - 1) := List.take_left' hlength
          simp_all [readUtf8Char]

theorem readUtf8Char_append (hread : readUtf8Char b rest = .ok (c, length)) (more : List UInt8) :
    readUtf8Char b (rest ++ more) = .ok (c, length) := by
  have hsame := (readUtf8Char_take hread).2.2 (rest.drop (length - 1) ++ more)
  rwa [← List.append_assoc, List.take_append_drop] at hsame

/-- What is no character is none with more bytes behind it, if it does not just end early. -/
theorem readUtf8Char_append_error (hread : readUtf8Char b rest = .error f)
    (hreason : f.reason ≠ .unexpectedEnd) (more : List UInt8) :
    ∃ f', readUtf8Char b (rest ++ more) = .error f' := by
  unfold readUtf8Char at hread ⊢
  split at hread
  · exact ⟨_, rfl⟩
  · next n hn =>
    simp only at hread ⊢
    split at hread
    · next hlt =>
      have hgood := wellFormedTail_append hlt (more.take (n - 1 - rest.length))
      rw [← List.take_append] at hgood
      refine ⟨_, if_pos ?_⟩
      rw [hgood, List.take_append, List.length_append]
      omega
    · split at hread
      · cases hread
        exact absurd rfl hreason
      · cases hread

/-! ## Texts -/

/-- Bytes are the characters of a text, one after the other. -/
inductive Reads : List UInt8 → List Char → Prop
  | nil : Reads [] []
  | cons {b : UInt8} {rest : List UInt8} {c : Char} {length : Nat} {cs : List Char}
      (first : readUtf8Char b rest = .ok (c, length))
      (further : Reads (rest.drop (length - 1)) cs) : Reads (b :: rest) (c :: cs)

/-- The bytes from a place on are no character; those before it are read. -/
inductive StopsAt (reason : Utf8Reason) : Nat → List UInt8 → Prop
  | mk {before : List UInt8} {cs : List Char} {b : UInt8} {rest : List UInt8} {f : Utf8Fault}
      (reads : Reads before cs) (stop : readUtf8Char b rest = .error f) (why : f.reason = reason) :
      StopsAt reason before.length (before ++ b :: rest)

theorem Reads.unique (reads : Reads bytes cs) (reads' : Reads bytes ds) : cs = ds := by
  induction reads generalizing ds with
  | nil =>
      cases reads'
      rfl
  | cons first _ ih =>
      cases reads' with
      | cons first' further' =>
          cases first.symm.trans first'
          rw [ih further']

theorem reads_cons_iff (first : readUtf8Char b rest = .ok (c, length)) :
    Reads (b :: rest) ds ↔ ∃ cs, Reads (rest.drop (length - 1)) cs ∧ ds = c :: cs := by
  constructor
  · intro reads
    cases reads with
    | cons first' further =>
        cases first.symm.trans first'
        exact ⟨_, further, rfl⟩
  · rintro ⟨cs, further, rfl⟩
    exact .cons first further

theorem Reads.append_iff (reads : Reads bytes cs) :
    Reads (bytes ++ more) ds ↔ ∃ es, Reads more es ∧ ds = cs ++ es := by
  induction reads generalizing ds with
  | nil => simp
  | cons first _ ih =>
      obtain ⟨-, hlength, -⟩ := readUtf8Char_take first
      rw [List.cons_append, reads_cons_iff (readUtf8Char_append first more),
        List.drop_append_of_le_length hlength]
      simp only [ih, List.cons_append]
      constructor
      · rintro ⟨_, ⟨es, hes, rfl⟩, rfl⟩
        exact ⟨es, hes, rfl⟩
      · rintro ⟨es, hes, rfl⟩
        exact ⟨_, ⟨es, hes, rfl⟩, rfl⟩

theorem StopsAt.cons {reason : Utf8Reason} {place : Nat}
    (first : readUtf8Char b rest = .ok (c, length))
    (stops : StopsAt reason place (rest.drop (length - 1))) :
    StopsAt reason (length + place) (b :: rest) := by
  obtain ⟨hpos, hlength, hown⟩ := readUtf8Char_take first
  generalize hdrop : rest.drop (length - 1) = further at stops
  cases stops with
  | @mk before cs b' rest' _ reads stop why =>
      have hbytes : b :: rest = (b :: (rest.take (length - 1) ++ before)) ++ b' :: rest' := by
        rw [List.cons_append, List.append_assoc, ← hdrop, List.take_append_drop]
      have hplace : length + before.length = (b :: (rest.take (length - 1) ++ before)).length := by
        simp
        omega
      have hreads : Reads (b :: (rest.take (length - 1) ++ before)) (c :: cs) := by
        refine .cons (hown before) ?_
        rwa [List.drop_left' (by simp; omega)]
      rw [hbytes, hplace]
      exact .mk hreads stop why

theorem readUtf8From_spec (fuel place : Nat) (hfuel : bytes.length ≤ fuel) :
    match readUtf8From fuel place bytes with
    | .ok cs => Reads bytes cs
    | .error f => ∃ n, f.start = place + n ∧ StopsAt f.reason n bytes := by
  induction fuel generalizing place bytes with
  | zero =>
      cases List.length_eq_zero_iff.mp (Nat.le_zero.mp hfuel)
      exact .nil
  | succ fuel ih =>
      cases bytes with
      | nil => exact .nil
      | cons b rest =>
          rw [readUtf8From.eq_def]
          simp only
          cases hfirst : readUtf8Char b rest with
          | error g => exact ⟨0, rfl, .mk .nil hfirst rfl⟩
          | ok found =>
              obtain ⟨c, length⟩ := found
              have hrest : (rest.drop (length - 1)).length ≤ fuel := by
                rw [List.length_cons] at hfuel
                rw [List.length_drop]
                omega
              have hspec := ih (place + length) hrest
              simp only
              cases hread : readUtf8From fuel (place + length) (rest.drop (length - 1)) with
              | ok cs =>
                  rw [hread] at hspec
                  exact .cons hfirst hspec
              | error f =>
                  rw [hread] at hspec
                  obtain ⟨n, hstart, stops⟩ := hspec
                  exact ⟨length + n, by rw [hstart, Nat.add_assoc], .cons hfirst stops⟩

theorem readUtf8_ok (hread : readUtf8 bytes = .ok cs) : Reads bytes cs := by
  have hspec := readUtf8From_spec bytes.length 0 (Nat.le_refl bytes.length)
  rw [← readUtf8, hread] at hspec
  exact hspec

theorem readUtf8_error (hread : readUtf8 bytes = .error f) : StopsAt f.reason f.start bytes := by
  have hspec := readUtf8From_spec bytes.length 0 (Nat.le_refl bytes.length)
  rw [← readUtf8, hread] at hspec
  obtain ⟨n, hstart, stops⟩ := hspec
  rw [hstart, Nat.zero_add]
  exact stops

theorem StopsAt.not_reads {reason : Utf8Reason} {place : Nat} (stops : StopsAt reason place bytes)
    (hends : reason ≠ .unexpectedEnd ∨ more = []) : ¬Reads (bytes ++ more) ds := by
  cases stops with
  | mk reads stop why =>
      rw [List.append_assoc, reads.append_iff]
      rintro ⟨es, hes, -⟩
      rw [List.cons_append] at hes
      cases hes with
      | cons first _ =>
          rcases hends with hreason | rfl
          · obtain ⟨_, hstop⟩ := readUtf8Char_append_error stop (why ▸ hreason) more
            cases first.symm.trans hstop
          · rw [List.append_nil, stop] at first
            cases first

theorem readUtf8_eq_ok_iff : readUtf8 bytes = .ok cs ↔ Reads bytes cs := by
  refine ⟨readUtf8_ok, fun reads => ?_⟩
  cases hread : readUtf8 bytes with
  | ok ds => rw [(readUtf8_ok hread).unique reads]
  | error f =>
      have hnot : ¬Reads (bytes ++ []) cs := (readUtf8_error hread).not_reads (.inr rfl)
      rw [List.append_nil] at hnot
      exact absurd reads hnot

/-! ## Portions -/

theorem map_append_eq_ok_iff {x : Except Utf8Fault (List Char)} :
    x.map (ds ++ ·) = .ok cs ↔ ∃ es, x = .ok es ∧ cs = ds ++ es := by
  cases x with
  | error f => simp [Except.map]
  | ok es => simp [Except.map, eq_comm]

/-- The character that the end of a portion cuts in two is read with the next portion. -/
theorem readPortionsFrom_cut {fuel : Nat} {cut : List UInt8}
    (hread : readUtf8 (cut ++ rest.take portionSize) = .error f)
    (hgoesOn : f.reason = .unexpectedEnd ∧ rest ≠ []) :
    ∃ before after ds, cut ++ rest.take portionSize = before ++ after ∧ Reads before ds ∧
      readPortionsFrom (fuel + 1) cut rest =
        (readPortionsFrom fuel after (rest.drop portionSize)).map (ds ++ ·) := by
  have stops := readUtf8_error hread
  rw [readPortionsFrom, hread]
  simp only [if_pos hgoesOn]
  generalize hplace : f.start = place at stops ⊢
  generalize cut ++ rest.take portionSize = bytes at stops ⊢
  cases stops with
  | @mk before ds b after _ reads =>
      refine ⟨before, b :: after, ds, rfl, reads, ?_⟩
      rw [List.take_left, List.drop_left, readUtf8_eq_ok_iff.mpr reads]
      cases readPortionsFrom fuel (b :: after) (rest.drop portionSize) <;> rfl

theorem readPortionsFrom_eq_ok_iff {fuel : Nat} {cut : List UInt8}
    (hfuel : rest.length + portionSize ≤ fuel * portionSize) :
    readPortionsFrom fuel cut rest = .ok cs ↔ Reads (cut ++ rest) cs := by
  induction fuel generalizing cut rest cs with
  | zero => simp [portionSize] at hfuel
  | succ fuel ih =>
      have hparts : cut ++ rest = (cut ++ rest.take portionSize) ++ rest.drop portionSize := by
        rw [List.append_assoc, List.take_append_drop]
      have hnext (hrest : rest ≠ []) :
          (rest.drop portionSize).length + portionSize ≤ fuel * portionSize := by
        have hpos := List.length_pos_iff.mpr hrest
        rw [List.length_drop]
        simp only [portionSize] at hfuel ⊢
        omega
      cases hread : readUtf8 (cut ++ rest.take portionSize) with
      | ok ds =>
          have reads := readUtf8_ok hread
          rw [readPortionsFrom, hread]
          by_cases hrest : rest = []
          · subst hrest
            rw [List.take_nil] at reads
            simp only [List.isEmpty_nil, if_true, Except.ok.injEq]
            constructor
            · rintro rfl
              exact reads
            · exact reads.unique
          · have hempty : ¬rest.isEmpty = true := mt List.isEmpty_iff.mp hrest
            simp only [if_neg hempty]
            rw [map_append_eq_ok_iff, hparts, reads.append_iff]
            simp only [ih (hnext hrest), List.nil_append]
      | error f =>
          by_cases hgoesOn : f.reason = .unexpectedEnd ∧ rest ≠ []
          · obtain ⟨before, after, ds, hbytes, reads, heq⟩ := readPortionsFrom_cut hread hgoesOn
            rw [heq, map_append_eq_ok_iff, hparts, hbytes, List.append_assoc, reads.append_iff]
            simp only [ih (hnext hgoesOn.2)]
          · have hends : f.reason ≠ .unexpectedEnd ∨ rest.drop portionSize = [] := by
              by_cases hrest : rest = []
              · rw [hrest]
                exact .inr rfl
              · exact .inl fun hreason => hgoesOn ⟨hreason, hrest⟩
            have hnot : ¬Reads (cut ++ rest) cs := by
              rw [hparts]
              exact (readUtf8_error hread).not_reads hends
            rw [readPortionsFrom, hread]
            simp only [if_neg hgoesOn, hnot, reduceCtorEq]

/-- Portions give the text that all the bytes give, or none if there is no such text. -/
theorem readPortions_eq_ok_iff : readPortions bytes = .ok cs ↔ readUtf8 bytes = .ok cs := by
  have hfuel : bytes.length + portionSize ≤ (bytes.length / portionSize + 3) * portionSize := by
    simp only [portionSize]
    omega
  rw [readPortions, readPortionsFrom_eq_ok_iff hfuel, readUtf8_eq_ok_iff, List.nil_append]

end BytecodeViewer.Text
