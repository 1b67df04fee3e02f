import BytecodeViewer.Pattern.Build
import BytecodeViewer.Proofs.Highlight.Marker
import BytecodeViewer.StyledText

/-!
# Colours on a terminal

A terminal leaves some control characters out, but the ranges that it colours are still counted
with them.  So a character gets the colour that the document has at the place where it is shown,
and not the one at its own offset.
-/

namespace BytecodeViewer

/-- The characters that a terminal shows, with their offsets in a text whose first one is
`first`. -/
def shownFrom (first : Nat) (cs : List Char) : List (Char × Nat) :=
  (cs.zipIdx first).filter fun c => !isCursorControl c.1

def shown (text : String) : List (Char × Nat) :=
  shownFrom 0 text.toList

section

variable {first : Nat} {c : Char} {cs : List Char}

theorem shownFrom_cons_of_control (h : isCursorControl c = true) :
    shownFrom first (c :: cs) = shownFrom (first + 1) cs := by
  simp [shownFrom, List.zipIdx_cons, h]

theorem shownFrom_cons (h : isCursorControl c = false) :
    shownFrom first (c :: cs) = (c, first) :: shownFrom (first + 1) cs := by
  simp [shownFrom, List.zipIdx_cons, h]

theorem map_fst_shownFrom : (shownFrom first cs).map Prod.fst = withoutControls cs := by
  induction cs generalizing first with
  | nil => rfl
  | cons c cs ih =>
      cases h : isCursorControl c with
      | true =>
          rw [shownFrom_cons_of_control h, ih]
          simp [withoutControls, h]
      | false =>
          rw [shownFrom_cons h, List.map_cons, ih]
          simp [withoutControls, h]

theorem le_of_mem_shownFrom {offset : Nat} (h : (c, offset) ∈ shownFrom first cs) :
    first ≤ offset :=
  List.le_snd_of_mem_zipIdx (List.mem_filter.mp h).1

theorem snd_lt_of_shown {text : String} {place offset : Nat}
    (h : (shown text)[place]? = some (c, offset)) : offset < text.toList.length := by
  have hmem := (List.mem_filter.mp (List.mem_of_getElem? h)).1
  simpa using List.snd_lt_add_of_mem_zipIdx hmem

theorem shownFrom_eq_nil_iff : shownFrom first cs = [] ↔ ∀ c ∈ cs, isCursorControl c = true := by
  rw [← List.map_eq_nil_iff (f := Prod.fst), map_fst_shownFrom, withoutControls,
    List.filter_eq_nil_iff]
  simp

theorem pairwise_of_forall_control (h : ∀ c ∈ cs, isCursorControl c = true) :
    cs.Pairwise fun a b => isCursorControl a = true → isCursorControl b = true :=
  List.pairwise_of_forall_mem_list fun _ _ b hb _ => h b hb

/-- Behind a character that is left out none keeps its offset. -/
theorem shownFrom_succ_eq_nil (hkeep : ∀ place c offset,
    (shownFrom (first + 1) cs)[place]? = some (c, offset) → offset = first + place) :
    shownFrom (first + 1) cs = [] := by
  cases hlist : shownFrom (first + 1) cs with
  | nil => rfl
  | cons head rest =>
      have hmem : (head.1, head.2) ∈ shownFrom (first + 1) cs := by simp [hlist]
      have hlow := le_of_mem_shownFrom hmem
      have hhigh := hkeep 0 head.1 head.2 (by simp [hlist])
      omega

/-- The characters that are shown keep their offsets if and only if the others come last. -/
theorem forall_shownFrom_iff :
    (∀ place c offset, (shownFrom first cs)[place]? = some (c, offset) → offset = first + place) ↔
      cs.Pairwise fun a b => isCursorControl a = true → isCursorControl b = true := by
  induction cs generalizing first with
  | nil => simp [shownFrom]
  | cons c cs ih =>
      cases h : isCursorControl c with
      | true =>
          rw [shownFrom_cons_of_control h]
          constructor
          · intro hkeep
            have hlast := shownFrom_eq_nil_iff.mp (shownFrom_succ_eq_nil hkeep)
            exact pairwise_of_forall_control (List.forall_mem_cons.mpr ⟨h, hlast⟩)
          · intro hpairwise place b offset hplace
            have hlast b (hb : b ∈ cs) := List.rel_of_pairwise_cons hpairwise hb h
            rw [shownFrom_eq_nil_iff.mpr hlast] at hplace
            cases hplace
      | false =>
          rw [shownFrom_cons h, List.pairwise_cons, ← @ih (first + 1)]
          constructor
          · intro hkeep
            refine ⟨by simp [h], fun place b offset hplace => ?_⟩
            have := hkeep (place + 1) b offset (by simpa using hplace)
            omega
          · rintro ⟨-, hkeep⟩ place b offset hplace
            cases place with
            | zero =>
                cases hplace
                rfl
            | succ place =>
                have := hkeep place b offset (by simpa using hplace)
                omega

end

def StyledRange.covers (r : StyledRange) (place : Nat) : Bool :=
  r.start ≤ place && place < r.stop

namespace StyledText

/-- The colour of the last range that covers a place. -/
def colorAt (t : StyledText) (place : Nat) : Option Color :=
  ((t.ranges.filter (·.covers place)).getLast?).map (·.color)

variable {t : StyledText} {place : Nat}

theorem colorAt_append (t : StyledText) (r : StyledRange) (place : Nat) :
    { t with ranges := t.ranges ++ [r] }.colorAt place =
      if r.covers place then some r.color else t.colorAt place := by
  rw [colorAt, List.filter_append, List.filter_singleton]
  cases r.covers place <;> simp [colorAt]

@[simp] theorem plain_paint (t : StyledText) (color : Color) (start stop : Int) :
    (t.paint color start stop).plain = t.plain := by
  unfold paint
  simp only
  split <;> rfl

/-- Painting colours the places of a range as far as the text goes. -/
theorem colorAt_paint (hplace : place < t.plain.length) {s : Span} (hstart : 0 ≤ s.start)
    (hstop : 0 ≤ s.stop) :
    (t.paint s.color s.start s.stop).colorAt place =
      if s.covers place then some s.color else t.colorAt place := by
  have hcovers : s.covers place = true ↔ s.start ≤ place ∧ (place : Int) < s.stop := by
    simp [Span.covers]
  unfold paint
  simp only [offsetIn, if_neg (Int.not_lt.mpr hstart), if_neg (Int.not_lt.mpr hstop)]
  split
  · next hdropped =>
      rw [if_neg (by rw [hcovers]; omega)]
  · next hkept =>
      have hclipped : StyledRange.covers ⟨s.start, min t.plain.length s.stop, s.color⟩ place =
          s.covers place := by
        rw [Bool.eq_iff_iff, hcovers]
        simp only [StyledRange.covers, Bool.and_eq_true, decide_eq_true_eq]
        omega
      rw [colorAt_append, hclipped]

theorem plain_foldl_paint (spans : List Span) (t : StyledText) :
    (spans.foldl (fun t s => t.paint s.color s.start s.stop) t).plain = t.plain := by
  induction spans generalizing t with
  | nil => rfl
  | cons s spans ih => rw [List.foldl_cons, ih, plain_paint]

theorem colorAt_foldl_paint (spans : List Span) (hspans : ∀ s ∈ spans, 0 ≤ s.start ∧ 0 ≤ s.stop)
    (hplace : place < t.plain.length) :
    (spans.foldl (fun t s => t.paint s.color s.start s.stop) t).colorAt place =
      (lastColor spans place).or (t.colorAt place) := by
  induction spans generalizing t with
  | nil => rfl
  | cons s spans ih =>
      obtain ⟨hstart, hstop⟩ := hspans s List.mem_cons_self
      have hrest : ∀ s' ∈ spans, 0 ≤ s'.start ∧ 0 ≤ s'.stop :=
        fun s' hs' => hspans s' (List.mem_cons_of_mem s hs')
      rw [List.foldl_cons, ih hrest (by rwa [plain_paint]), colorAt_paint hplace hstart hstop,
        lastColor_cons_or]

theorem plain_ofDocument (d : Document) :
    (ofDocument d).plain.toList = (shown d.text).map Prod.fst := by
  rw [ofDocument, plain_foldl_paint, shown, map_fst_shownFrom]
  exact String.toList_ofList

/-- A place on the terminal has the colour that the document has at this offset. -/
theorem colorAt_ofDocument {d : Document} (hspans : ∀ s ∈ d.spans, 0 ≤ s.start ∧ 0 ≤ s.stop)
    (hplace : place < (shown d.text).length) :
    (ofDocument d).colorAt place = d.colorAt place := by
  have hlength : place < (ofPlain d.text).plain.length := by
    rw [← plain_foldl_paint d.drawOrder, ← String.length_toList]
    change place < (ofDocument d).plain.toList.length
    rwa [plain_ofDocument, List.length_map]
  have hdraw : ∀ s ∈ d.drawOrder, 0 ≤ s.start ∧ 0 ≤ s.stop := fun s hs =>
    hspans s ((sortBy_perm Span.rule d.spans).mem_iff.mp hs)
  rw [ofDocument, colorAt_foldl_paint _ hdraw hlength, d.colorAt_eq]
  exact Option.or_none

end StyledText

/-- Every character that is shown has the colour that the document has at its offset. -/
def ShowsColors (text : String) (rules : List HighlightRule) : Prop :=
  ∀ (place : Nat) (c : Char) (offset : Nat), (shown text)[place]? = some (c, offset) →
    (StyledText.ofDocument (highlighted text rules)).colorAt place =
      (highlighted text rules).colorAt offset

section

variable {text : String} {rules : List HighlightRule}

theorem colorAt_shown {place offset : Nat} {c : Char}
    (hshown : (shown text)[place]? = some (c, offset)) :
    (StyledText.ofDocument (highlighted text rules)).colorAt place =
      (highlighted text rules).colorAt place := by
  obtain ⟨hplace, -⟩ := List.getElem?_eq_some_iff.mp hshown
  refine StyledText.colorAt_ofDocument (fun s hs => ?_) hplace
  obtain ⟨hstart, hlt, -⟩ := mem_highlight hs
  exact ⟨hstart, Int.le_of_lt (Int.lt_of_le_of_lt hstart hlt)⟩

theorem showsColors_iff_colorAt :
    ShowsColors text rules ↔ ∀ (place : Nat) (c : Char) (offset : Nat),
      (shown text)[place]? = some (c, offset) →
        (highlighted text rules).colorAt place = (highlighted text rules).colorAt offset := by
  refine forall_congr' fun place => forall_congr' fun c => forall_congr' fun offset =>
    forall_congr' fun hshown => ?_
  rw [colorAt_shown hshown]

/-- The rule that colours one character shows whether it is displaced. -/
theorem eq_of_showsColors_marker {place offset : Nat} {c : Char} {color : Color}
    (hshown : (shown text)[place]? = some (c, offset))
    (h : ShowsColors text [marker offset color]) : offset = place := by
  have hoffset : offset < text.length := by
    rw [← String.length_toList]
    exact snd_lt_of_shown hshown
  have hsame := showsColors_iff_colorAt.mp h place c offset hshown
  rw [colorAt_marker hoffset, colorAt_marker hoffset, if_pos rfl] at hsame
  by_contra hne
  rw [if_neg (Ne.symm hne)] at hsame
  cases hsame

end

/-- The terminal shows the characters of the text that do not move the cursor.  They have their
colours exactly if the colour at the place of each of them is the one at its offset.  This holds
for all rules if and only if the characters that are left out come last. -/
theorem showsColors_iff (text : String) :
    (∀ rules : List HighlightRule,
      (StyledText.ofDocument (highlighted text rules)).plain.toList =
        (shown text).map Prod.fst ∧
      (ShowsColors text rules ↔ ∀ (place : Nat) (c : Char) (offset : Nat),
        (shown text)[place]? = some (c, offset) →
          (highlighted text rules).colorAt place = (highlighted text rules).colorAt offset)) ∧
    ((∀ rules, ShowsColors text rules) ↔ text.toList.Pairwise fun a b =>
      isCursorControl a = true → isCursorControl b = true) := by
  refine ⟨fun rules => ⟨StyledText.plain_ofDocument _, showsColors_iff_colorAt⟩, ?_⟩
  rw [← @forall_shownFrom_iff 0]
  constructor
  · intro hall place c offset hshown
    rw [Nat.zero_add]
    exact eq_of_showsColors_marker hshown (hall [marker offset default])
  · intro hkeep rules
    refine showsColors_iff_colorAt.mpr fun place c offset hshown => ?_
    rw [hkeep place c offset hshown, Nat.zero_add]

def classRule : HighlightRule :=
  ⟨⟨"(class)", 1, .group 1 (Pattern.Node.word "class")⟩, ⟨1, 2, 3⟩⟩

/-- After a carriage return the colour of a word is one character late. -/
theorem return_displaces_color : ¬ShowsColors "\rclass A" [classRule] := by
  intro h
  have hfirst := h 0 'c' 1 (by decide +kernel)
  have hnone : (StyledText.ofDocument (highlighted "\rclass A" [classRule])).colorAt 0 = none := by
    decide +kernel
  have hclass : (highlighted "\rclass A" [classRule]).colorAt (1 : Nat) = some ⟨1, 2, 3⟩ := by
    decide +kernel
  rw [hnone, hclass] at hfirst
  cases hfirst

end BytecodeViewer
