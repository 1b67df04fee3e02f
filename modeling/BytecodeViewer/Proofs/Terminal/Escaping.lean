import BytecodeViewer.Terminal.Markup

/-!
# Escaped text

Whatever a text holds, once it has been escaped it can be shown between tags.  If it holds no
backslashes and no codes of emoji, it is shown as it is.
-/

namespace BytecodeViewer.Terminal

/-! ## Tags -/

def BracketFree (cs : List Char) : Prop :=
  ∀ c ∈ cs, c ≠ ']' ∧ c ≠ '['

theorem isTagStart_bracketFree {c : Char} (start : isTagStart c = true) : c ≠ ']' ∧ c ≠ '[' := by
  constructor
  · rintro rfl
    exact absurd start (by decide)
  · rintro rfl
    exact absurd start (by decide)

/-- What stands between the brackets of a tag. -/
inductive IsContent : List Char → Prop
  | intro {c : Char} {body : List Char} (start : isTagStart c = true) (free : BracketFree body) :
      IsContent (c :: body)

theorem IsContent.free {content : List Char} (h : IsContent content) : BracketFree content := by
  obtain ⟨start, free⟩ := h
  intro d hd
  rcases List.mem_cons.mp hd with rfl | hd
  · exact isTagStart_bracketFree start
  · exact free d hd

theorem tagContent?_append {content : List Char} (h : IsContent content) (more : List Char) :
    tagContent? (content ++ ']' :: more) = some content := by
  obtain @⟨c, body, start, free⟩ := h
  have hbody : (body ++ ']' :: more).takeWhile (fun c => c != ']' && c != '[') = body := by
    rw [List.takeWhile_append_of_pos]
    · simp
    · intro d hd
      simpa using free d hd
  simp [tagContent?, hbody, start]

theorem tagContent?_eq_some {cs content : List Char} (h : tagContent? cs = some content) :
    IsContent content ∧ cs = content ++ ']' :: cs.drop (content.length + 1) := by
  cases cs with
  | nil => cases h
  | cons c cs =>
      simp only [tagContent?] at h
      split at h
      · next htag =>
        cases h
        obtain ⟨start, hclosed⟩ := Bool.and_eq_true_iff.mp htag
        let body := cs.takeWhile fun c => c != ']' && c != '['
        have hclosed' : (cs.drop body.length).head? = some ']' := by simpa using hclosed
        obtain ⟨more, hmore⟩ := List.head?_eq_some_iff.mp hclosed'
        have hsplit : body ++ ']' :: more = cs := by
          rw [← hmore]
          exact List.prefix_iff_eq_append.mp (List.takeWhile_prefix _)
        refine ⟨⟨start, ?_⟩, ?_⟩
        · intro d hd
          have hd' := List.all_eq_true.mp List.all_takeWhile d hd
          simpa using hd'
        · have hrest : cs.drop (body.length + 1) = more := by
            rw [← List.drop_drop, hmore]
            rfl
          change c :: cs = c :: (body ++ ']' :: cs.drop (body.length + 1))
          rw [hrest, hsplit]
      · cases h

/-! ## Pieces -/

variable {pending : Nat} {c : Char} {rest content : List Char}

theorem markupPieces_slash :
    markupPieces pending ('\\' :: rest) = markupPieces (pending + 1) rest := by
  rw [markupPieces, if_pos rfl]

theorem markupPieces_tag (htag : tagContent? rest = some content) :
    markupPieces pending ('[' :: rest) =
      .tag pending content :: markupPieces 0 (rest.drop (content.length + 1)) := by
  rw [markupPieces, if_neg (by decide), if_pos rfl, htag]

theorem markupPieces_bracket (hnone : tagContent? rest = none) :
    markupPieces pending ('[' :: rest) =
      .plain (slashes pending ++ ['[']) :: markupPieces 0 rest := by
  rw [markupPieces, if_neg (by decide), if_pos rfl, hnone]

theorem markupPieces_plain (hslash : c ≠ '\\') (hbracket : c ≠ '[') :
    markupPieces pending (c :: rest) = .plain (slashes pending ++ [c]) :: markupPieces 0 rest := by
  rw [markupPieces, if_neg hslash, if_neg hbracket]

theorem slashes_succ_append (n : Nat) (cs : List Char) :
    slashes (n + 1) ++ cs = slashes n ++ '\\' :: cs := by
  rw [slashes, List.replicate_succ', List.append_assoc]
  rfl

theorem markupPieces_slashes (n pending : Nat) (cs : List Char) :
    markupPieces pending (slashes n ++ cs) = markupPieces (pending + n) cs := by
  induction n generalizing pending with
  | zero => rfl
  | succ n ih =>
      change markupPieces pending ('\\' :: (slashes n ++ cs)) = _
      rw [markupPieces_slash, ih, Nat.add_right_comm, Nat.add_assoc]

/-- What opens with a bracket does not close with the first one. -/
theorem opened_ne_closed {n : Nat} {content more rest : List Char} (free : BracketFree content) :
    slashes n ++ '[' :: rest ≠ content ++ ']' :: more := by
  induction content generalizing n with
  | nil => cases n <;> intro h <;> cases h
  | cons c content ih =>
      have hc := free c List.mem_cons_self
      intro h
      cases n with
      | zero =>
          cases h
          exact hc.2 rfl
      | succ n =>
          exact ih (fun d hd => free d (List.mem_cons_of_mem c hd)) (List.cons.inj h).2

/-! ## Escaping -/

/-- A text with its tags escaped, when there are backslashes before it. -/
def escaped (pending : Nat) (cs : List Char) : List Char :=
  (markupPieces pending cs).flatMap escapePiece

theorem escaped_nil : escaped pending [] = slashes pending := by
  simp [escaped, markupPieces, escapePiece]

theorem escaped_slash : escaped pending ('\\' :: rest) = escaped (pending + 1) rest := by
  rw [escaped, markupPieces_slash, escaped]

theorem escaped_tag (htag : tagContent? rest = some content) :
    escaped pending ('[' :: rest) = slashes (2 * pending + 1) ++ bracketed content ++
      escaped 0 (rest.drop (content.length + 1)) := by
  rw [escaped, markupPieces_tag htag]
  rfl

theorem escaped_bracket (hnone : tagContent? rest = none) :
    escaped pending ('[' :: rest) = slashes pending ++ '[' :: escaped 0 rest := by
  rw [escaped, markupPieces_bracket hnone]
  simp [escapePiece, escaped]

theorem escaped_plain (hslash : c ≠ '\\') (hbracket : c ≠ '[') :
    escaped pending (c :: rest) = slashes pending ++ c :: escaped 0 rest := by
  rw [escaped, markupPieces_plain hslash hbracket]
  simp [escapePiece, escaped]

theorem slashes_double (pending : Nat) :
    slashes (2 * pending + 1) = slashes pending ++ slashes (pending + 1) := by
  simp only [slashes, List.replicate_append_replicate]
  congr 1
  omega

/-- Texts are read from the left, with the number of backslashes just before. -/
@[elab_as_elim]
theorem markup_induction {motive : Nat → List Char → Prop}
    (nil : ∀ pending, motive pending [])
    (slash : ∀ pending rest, motive (pending + 1) rest → motive pending ('\\' :: rest))
    (tag : ∀ pending rest content, tagContent? rest = some content →
      motive 0 (rest.drop (content.length + 1)) → motive pending ('[' :: rest))
    (bracket : ∀ pending rest, tagContent? rest = none → motive 0 rest →
      motive pending ('[' :: rest))
    (plain : ∀ pending c rest, c ≠ '\\' → c ≠ '[' → motive 0 rest → motive pending (c :: rest))
    (pending : Nat) (cs : List Char) : motive pending cs :=
  markupPieces.induct motive nil slash (fun p rest content htag _ ih => tag p rest content htag ih)
    (fun p rest hnone _ ih => bracket p rest hnone ih) plain pending cs

theorem escaped_eq_slashes (pending : Nat) (cs : List Char) :
    ∃ more, escaped pending cs = slashes pending ++ more := by
  induction pending, cs using markup_induction with
  | nil pending => exact ⟨[], by rw [escaped_nil, List.append_nil]⟩
  | slash pending rest ih =>
      obtain ⟨more, hmore⟩ := ih
      exact ⟨'\\' :: more, by rw [escaped_slash, hmore, slashes_succ_append]⟩
  | tag pending rest content htag ih =>
      rw [escaped_tag htag, slashes_double, List.append_assoc, List.append_assoc]
      exact ⟨_, rfl⟩
  | bracket pending rest hnone ih => exact ⟨_, escaped_bracket hnone⟩
  | plain pending c rest hslash hbracket ih => exact ⟨_, escaped_plain hslash hbracket⟩

/-- Escaping a text and putting a bracket behind it makes no new tag: what reads as the content
of a tag afterwards did so before. -/
theorem content_of_escaped {pending n : Nat} {cs more rest content : List Char}
    (free : BracketFree content)
    (h : escaped pending cs ++ (slashes n ++ '[' :: rest) =
      slashes pending ++ (content ++ ']' :: more)) :
    ∃ more', cs = content ++ ']' :: more' := by
  induction pending, cs using markup_induction generalizing content with
  | nil pending =>
      rw [escaped_nil] at h
      exact absurd (List.append_cancel_left h) (opened_ne_closed free)
  | slash pending cs ih =>
      obtain ⟨tail, htail⟩ := escaped_eq_slashes (pending + 1) cs
      rw [escaped_slash, htail, List.append_assoc, slashes_succ_append] at h
      have h' := List.append_cancel_left h
      cases content with
      | nil => cases h'
      | cons d content =>
          obtain ⟨rfl, htail'⟩ := List.cons.inj h'
          obtain ⟨more', rfl⟩ := ih (fun e he => free e (List.mem_cons_of_mem _ he))
            (by rw [htail, List.append_assoc, htail']; rfl)
          exact ⟨more', rfl⟩
  | tag pending cs content' htag ih =>
      rw [escaped_tag htag, slashes_double, bracketed] at h
      simp only [List.append_assoc, List.cons_append] at h
      exact absurd (List.append_cancel_left h) (opened_ne_closed free)
  | bracket pending cs hnone ih =>
      rw [escaped_bracket hnone, List.append_assoc] at h
      exact absurd (List.append_cancel_left h) (opened_ne_closed (n := 0) free)
  | plain pending c cs hslash hbracket ih =>
      rw [escaped_plain hslash hbracket, List.append_assoc] at h
      have h' := List.append_cancel_left h
      cases content with
      | nil =>
          cases h'
          exact ⟨cs, rfl⟩
      | cons d content =>
          obtain ⟨rfl, hrest⟩ := List.cons.inj h'
          obtain ⟨more', rfl⟩ := ih (fun e he => free e (List.mem_cons_of_mem _ he)) hrest
          exact ⟨more', rfl⟩

theorem tagContent?_escaped {cs : List Char} (hnone : tagContent? cs = none) (n : Nat)
    (rest : List Char) : tagContent? (escaped 0 cs ++ (slashes n ++ '[' :: rest)) = none := by
  cases htag : tagContent? (escaped 0 cs ++ (slashes n ++ '[' :: rest)) with
  | none => rfl
  | some content =>
      obtain ⟨isContent, hsplit⟩ := tagContent?_eq_some htag
      obtain ⟨more, rfl⟩ := content_of_escaped isContent.free hsplit
      cases hnone.symm.trans (tagContent?_append isContent more)

/-! ## Codes of emoji -/

/-- No colon opens a code that stands for an emoji. -/
def EmojiFree (emoji : EmojiTable) (cs : List Char) : Prop :=
  ∀ after code, ':' :: after <:+ cs → emojiCode? after = some code → code.shown? emoji = none

theorem withEmoji_of_free {emoji : EmojiTable} {cs : List Char} (free : EmojiFree emoji cs)
    (skip : Nat) : withEmoji emoji skip cs = cs.drop skip := by
  induction cs generalizing skip with
  | nil => simp [withEmoji]
  | cons c cs ih =>
      have rest : EmojiFree emoji cs := fun after code hafter hcode =>
        free after code (hafter.trans (List.suffix_cons c cs)) hcode
      cases skip with
      | succ skip => simp [withEmoji, ih rest]
      | zero =>
          rw [withEmoji, List.drop_zero]
          split
          · rw [ih rest, List.drop_zero]
          · next code hcode =>
            split at hcode
            · next hcolon =>
              subst hcolon
              rw [free cs code (List.suffix_refl _) hcode, ih rest]
              simp
            · cases hcode

/-- The name of an emoji ends with a text that has a colon as its last character only. -/
theorem codeEnd?_cases {cs : List Char} {code : EmojiCode} (h : codeEnd? cs = some code) :
    ∃ body, ':' ∉ body ∧ body ++ [':'] <+: cs ∧
      ∀ more, body ++ [':'] <+: more → codeEnd? more = some code := by
  unfold codeEnd? at h
  split at h
  · next hstart =>
    refine ⟨['-', 'e', 'm', 'o', 'j', 'i'], by decide, List.isPrefixOf_iff_prefix.mp hstart, ?_⟩
    rintro _ ⟨more, rfl⟩
    rw [← h]
    rfl
  · split at h
    · next hstart =>
      refine ⟨['-', 't', 'e', 'x', 't'], by decide, List.isPrefixOf_iff_prefix.mp hstart, ?_⟩
      rintro _ ⟨more, rfl⟩
      rw [← h]
      rfl
    · split at h
      · next hstart =>
        refine ⟨[], by decide, List.isPrefixOf_iff_prefix.mp hstart, ?_⟩
        rintro _ ⟨more, rfl⟩
        rw [← h]
        rfl
      · cases h

theorem colon_mem_of_emojiCode? {cs : List Char} {code : EmojiCode}
    (h : emojiCode? cs = some code) : ':' ∈ cs := by
  induction cs generalizing code with
  | nil => cases h
  | cons c cs ih =>
      rw [emojiCode?] at h
      split at h
      · next hend =>
        obtain ⟨body, -, hstart, -⟩ := codeEnd?_cases hend
        exact hstart.subset (by simp)
      · split at h
        · cases h
        · obtain ⟨inner, hinner, -⟩ := Option.map_eq_some_iff.mp h
          exact List.mem_cons_of_mem c (ih hinner)

/-- What follows a code does not end the name of the code before. -/
theorem codeEnd?_append_none {c : Char} {cs : List Char} (hnone : codeEnd? (c :: cs) = none)
    (hcolon : ':' ∈ cs) (more : List Char) : codeEnd? (c :: cs ++ more) = none := by
  cases hend : codeEnd? (c :: cs ++ more) with
  | none => rfl
  | some code =>
      obtain ⟨body, hbody, hstart, hall⟩ := codeEnd?_cases hend
      -- The end lies within the text before, or the text before ends within its body.
      have within : body ++ [':'] <+: c :: cs := by
        rcases List.prefix_or_prefix_of_prefix hstart (List.prefix_append (c :: cs) more) with
          hin | hout
        · exact hin
        · rcases List.prefix_concat_iff.mp hout with hsame | hshort
          · exact hsame ▸ List.prefix_refl _
          · exact absurd (hshort.subset (List.mem_cons_of_mem c hcolon)) hbody
      cases hnone.symm.trans (hall _ within)

/-- A code that has been read is read as well when more follows. -/
theorem emojiCode?_append {cs : List Char} {code : EmojiCode} (h : emojiCode? cs = some code)
    (more : List Char) : emojiCode? (cs ++ more) = some code := by
  induction cs generalizing code with
  | nil => cases h
  | cons c cs ih =>
      rw [emojiCode?] at h
      rw [List.cons_append, emojiCode?]
      split at h
      · next hend =>
        obtain ⟨body, -, hstart, hall⟩ := codeEnd?_cases hend
        have hend' := hall (c :: (cs ++ more)) (hstart.trans (List.prefix_append (c :: cs) more))
        rw [hend']
        exact h
      · next hnone =>
        split at h
        · cases h
        · next hblank =>
          obtain ⟨inner, hinner, hcode⟩ := Option.map_eq_some_iff.mp h
          have hnone' : codeEnd? (c :: (cs ++ more)) = none :=
            codeEnd?_append_none hnone (colon_mem_of_emojiCode? hinner) more
          rw [hnone', if_neg hblank, ih hinner]
          exact congrArg some hcode

namespace EmojiFree

variable {emoji : EmojiTable} {cs ds : List Char}

theorem right (free : EmojiFree emoji (cs ++ ds)) : EmojiFree emoji ds :=
  fun after code hafter hcode => free after code (hafter.trans (List.suffix_append cs ds)) hcode

theorem left (free : EmojiFree emoji (cs ++ ds)) : EmojiFree emoji cs := by
  rintro after code ⟨before, rfl⟩ hcode
  refine free (after ++ ds) code ⟨before, by simp⟩ (emojiCode?_append hcode ds)

end EmojiFree

/-! ## Showing what has been escaped -/

/-- What stands behind the bracket of the closing tag. -/
def closing : List Char := ['/', 'r', 'e', 'd', ']']

theorem markupPieces_closing (pending : Nat) :
    markupPieces pending ('[' :: closing) = [.tag pending ['/', 'r', 'e', 'd'], .plain []] := by
  have htag : tagContent? closing = some ['/', 'r', 'e', 'd'] := by decide
  rw [markupPieces_tag htag]
  simp [closing, markupPieces, slashes]

theorem applyTag_closing (position : Nat) :
    applyTag position ['/', 'r', 'e', 'd'] ["red"] = .ok [] := by
  have hname : Text.trim (String.ofList ['r', 'e', 'd']) = "red" := by decide +kernel
  have hnormal : normalTag ['r', 'e', 'd'] = "red" := by decide +kernel
  simp [applyTag, tagName, hname, hnormal, closeTag?]

theorem shownPlain_single (c : Char) : shownPlain [c] = [c] := by
  simp [shownPlain]

/-- Escaping doubles the backslashes before a tag and puts one more, by which the tag is text. -/
theorem markupPieces_escaped_tag (htag : tagContent? rest = some content) (more : List Char) :
    markupPieces 0 (escaped pending ('[' :: rest) ++ more) = .tag (2 * pending + 1) content ::
      markupPieces 0 (escaped 0 (rest.drop (content.length + 1)) ++ more) := by
  obtain ⟨isContent, -⟩ := tagContent?_eq_some htag
  have hfound (ds : List Char) : tagContent? (content ++ ']' :: ds) = some content :=
    tagContent?_append isContent ds
  rw [escaped_tag htag, List.append_assoc, List.append_assoc, markupPieces_slashes]
  simp only [bracketed, List.cons_append, List.append_assoc, List.nil_append]
  rw [markupPieces_tag (hfound _)]
  simp

theorem markupPieces_escaped_plain (hslash : c ≠ '\\') (hbracket : c ≠ '[') (more : List Char) :
    markupPieces 0 (escaped pending (c :: rest) ++ more) =
      .plain (slashes pending ++ [c]) :: markupPieces 0 (escaped 0 rest ++ more) := by
  rw [escaped_plain hslash hbracket, List.append_assoc, List.cons_append, markupPieces_slashes,
    markupPieces_plain hslash hbracket, Nat.zero_add]

/-- Escaped text between tags is shown, whatever it holds and whatever comes before it. -/
theorem showPieces_escaped (emoji : EmojiTable) (pending n position : Nat) (before cs : List Char) :
    ∃ text, showPieces emoji position ["red"] before
        (markupPieces 0 (escaped pending cs ++ (slashes n ++ '[' :: closing))) = .ok text ∧
      (pending = 0 → n = 0 → '\\' ∉ cs → EmojiFree emoji (before ++ cs) →
        text = before ++ cs) := by
  induction pending, cs using markup_induction generalizing position before with
  | nil pending =>
      rw [escaped_nil, markupPieces_slashes, markupPieces_slashes, markupPieces_closing]
      by_cases hodd : (0 + pending + n) % 2 = 1
      · refine ⟨_, by rw [showPieces, if_pos hodd]; rfl, ?_⟩
        rintro rfl rfl -
        cases hodd
      · refine ⟨_, by rw [showPieces, if_neg hodd, applyTag_closing]; rfl, ?_⟩
        rintro rfl rfl - free
        simp [withEmoji_of_free free.left, slashes, shownPlain, withEmoji]
  | slash pending cs ih =>
      rw [escaped_slash]
      obtain ⟨text, hshow, -⟩ := ih position before
      refine ⟨text, hshow, ?_⟩
      intro _ _ hnone
      exact absurd List.mem_cons_self hnone
  | tag pending cs content htag ih =>
      obtain ⟨-, hsplit⟩ := tagContent?_eq_some htag
      obtain ⟨text, hshow, hsame⟩ := ih (position + (2 * pending + 1) + content.length + 2) []
      have hodd : (2 * pending + 1) % 2 = 1 := by omega
      rw [markupPieces_escaped_tag htag, showPieces, if_pos hodd, hshow]
      refine ⟨_, rfl, ?_⟩
      rintro rfl rfl hnone free
      have hnone' : '\\' ∉ cs.drop (content.length + 1) := by
        intro hmem
        exact hnone (List.mem_cons_of_mem _ (List.mem_of_mem_drop hmem))
      have hparts : '[' :: cs = bracketed content ++ cs.drop (content.length + 1) := by
        simp only [bracketed, List.cons_append, List.append_assoc, List.nil_append]
        rw [← hsplit]
      rw [hparts] at free ⊢
      rw [hsame rfl rfl hnone' free.right.right, withEmoji_of_free free.left,
        withEmoji_of_free free.right.left]
      simp [slashes]
  | bracket pending cs hnone ih =>
      obtain ⟨text, hshow, hsame⟩ := ih (position + (slashes pending ++ ['[']).length)
        (before ++ shownPlain (slashes pending ++ ['[']))
      rw [escaped_bracket hnone, List.append_assoc, List.cons_append, markupPieces_slashes,
        markupPieces_bracket (tagContent?_escaped hnone n closing)]
      refine ⟨text, by simp only [Nat.zero_add, showPieces, hshow], ?_⟩
      rintro rfl rfl hfree free
      have hbefore : before ++ shownPlain (slashes 0 ++ ['[']) ++ cs = before ++ '[' :: cs := by
        rw [List.append_assoc]
        exact congrArg (fun shown => before ++ (shown ++ cs)) (shownPlain_single '[')
      rw [hbefore] at hsame
      exact hsame rfl rfl (fun hmem => hfree (List.mem_cons_of_mem _ hmem)) free
  | plain pending c cs hslash hbracket ih =>
      obtain ⟨text, hshow, hsame⟩ := ih (position + (slashes pending ++ [c]).length)
        (before ++ shownPlain (slashes pending ++ [c]))
      rw [markupPieces_escaped_plain hslash hbracket]
      refine ⟨text, by simp only [showPieces, hshow], ?_⟩
      rintro rfl rfl hfree free
      have hbefore : before ++ shownPlain (slashes 0 ++ [c]) ++ cs = before ++ c :: cs := by
        rw [List.append_assoc]
        exact congrArg (fun shown => before ++ (shown ++ cs)) (shownPlain_single c)
      rw [hbefore] at hsame
      exact hsame rfl rfl (fun hmem => hfree (List.mem_cons_of_mem _ hmem)) free

theorem getLast?_escaped {pending : Nat} {cs : List Char} (hpending : pending = 0)
    (free : '\\' ∉ cs) : (escaped pending cs).getLast? ≠ some '\\' := by
  induction pending, cs using markup_induction with
  | nil pending =>
      subst hpending
      rw [escaped_nil]
      nofun
  | slash pending cs ih => exact absurd List.mem_cons_self free
  | tag pending cs content htag ih =>
      have hlast := ih rfl fun hmem => free (List.mem_cons_of_mem _ (List.mem_of_mem_drop hmem))
      rw [escaped_tag htag, List.getLast?_append]
      cases hrest : (escaped 0 (cs.drop (content.length + 1))).getLast? with
      | none =>
          rw [bracketed, ← List.append_assoc, List.getLast?_append]
          simp
      | some c => simpa [hrest] using hlast
  | bracket pending cs hnone ih =>
      have hlast := ih rfl fun hmem => free (List.mem_cons_of_mem _ hmem)
      rw [escaped_bracket hnone, List.getLast?_append, List.getLast?_cons]
      cases hrest : (escaped 0 cs).getLast? with
      | none => simp
      | some c => simpa [hrest] using hlast
  | plain pending c cs hslash hbracket ih =>
      have hlast := ih rfl fun hmem => free (List.mem_cons_of_mem _ hmem)
      rw [escaped_plain hslash hbracket, List.getLast?_append, List.getLast?_cons]
      cases hrest : (escaped 0 cs).getLast? with
      | none => simpa using hslash
      | some d => simpa [hrest] using hlast

theorem escape_eq (s : String) :
    ∃ n, escape s = String.ofList (escaped 0 s.toList ++ slashes n) ∧
      ('\\' ∉ s.toList → n = 0) := by
  change ∃ n, String.ofList (escapeEnd (escaped 0 s.toList)) = _ ∧ _
  unfold escapeEnd
  split
  · exact ⟨0, by simp [slashes], fun _ => rfl⟩
  · next more _ hreverse =>
    refine ⟨1, rfl, fun free => ?_⟩
    have hlast : (escaped 0 s.toList).getLast? = some '\\' := by
      rw [← List.head?_reverse, hreverse]
      rfl
    exact absurd hlast (getLast?_escaped rfl free)
  · exact ⟨0, by simp [slashes], fun _ => rfl⟩

/-- A text that has been escaped can be shown in red.  Without backslashes and codes of emoji it
is shown as it is. -/
theorem plainOfMarkup_escape (emoji : EmojiTable) (s : String) :
    ∃ text, plainOfMarkup emoji ("[red]" ++ escape s ++ "[/red]") = .ok text ∧
      ('\\' ∉ s.toList → EmojiFree emoji s.toList → text = s) := by
  obtain ⟨n, hescape, hzero⟩ := escape_eq s
  obtain ⟨text, hshow, hsame⟩ := showPieces_escaped emoji 0 n 5 [] s.toList
  have hpieces : markupPieces 0 ("[red]" ++ escape s ++ "[/red]").toList =
      .tag 0 ['r', 'e', 'd'] ::
        markupPieces 0 (escaped 0 s.toList ++ (slashes n ++ '[' :: closing)) := by
    have isContent : IsContent ['r', 'e', 'd'] := ⟨by decide, by simp [BracketFree]⟩
    have htag (rest : List Char) :
        tagContent? ('r' :: 'e' :: 'd' :: ']' :: rest) = some ['r', 'e', 'd'] :=
      tagContent?_append isContent rest
    have hopen : "[red]".toList = ['[', 'r', 'e', 'd', ']'] := by decide
    have hclose : "[/red]".toList = '[' :: closing := by decide
    have htext : ("[red]" ++ escape s ++ "[/red]").toList = '[' :: 'r' :: 'e' :: 'd' :: ']' ::
        (escaped 0 s.toList ++ (slashes n ++ '[' :: closing)) := by
      rw [hescape, String.toList_append, String.toList_append, hopen, hclose]
      simp
    rw [htext, markupPieces_tag (htag _)]
    rfl
  have hopened : applyTag 0 ['r', 'e', 'd'] [] = .ok ["red"] := by
    have hnormal : normalTag ['r', 'e', 'd'] = "red" := by decide +kernel
    simp [applyTag, tagName, hnormal]
  refine ⟨String.ofList text, ?_, ?_⟩
  · have hall : showPieces emoji 0 [] [] (.tag 0 ['r', 'e', 'd'] ::
        markupPieces 0 (escaped 0 s.toList ++ (slashes n ++ '[' :: closing))) = .ok text := by
      have hposition : 0 + 0 + ['r', 'e', 'd'].length + 2 = 5 := rfl
      rw [showPieces, if_neg (by decide), hopened, hposition]
      simp only [bind, Except.bind, hshow]
      simp [withEmoji, slashes, pure, Except.pure]
    rw [plainOfMarkup, hpieces, hall]
    rfl
  · intro hfree free
    rw [hsame rfl (hzero hfree) hfree free, List.nil_append, String.ofList_toList]

/-- Codes of emoji are replaced in what has been escaped. -/
example : (plainOfMarkup (fun name => if name = "x" then some "❌" else none)
    ("[red]" ++ escape "a[b]:X:c" ++ "[/red]")).toOption = some "a[b]❌c" := by
  decide +kernel

end BytecodeViewer.Terminal
