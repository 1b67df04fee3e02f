import Mathlib.Data.List.Forall2
import BytecodeViewer.Proofs.Render.Blocks
import BytecodeViewer.Text.Blank

/-!
# The depth of lines

Lines are read in order with a depth.  A line that ends in an opening brace puts the lines below
it one level deeper, and a line of a closing brace goes back one level.  Lines are laid out if
each of them is a text that is indented by the depth at which the line is read.
-/

namespace BytecodeViewer

def EndsIn (text : String) (c : Char) : Prop :=
  text.toList.getLast? = some c

instance (text : String) (c : Char) : Decidable (EndsIn text c) :=
  inferInstanceAs (Decidable (text.toList.getLast? = some c))

def opens (line : String) : Bool :=
  line.toList.getLast? == some '\x7b'

/-- Blanks, if any, and then just a closing brace. -/
def closes (line : String) : Bool :=
  line.toList.dropWhile Text.isBlank == ['\x7d']

/-- The depth at which a line is read, below lines that lead to a depth. -/
def depthAt (depth : Int) (line : String) : Int :=
  if closes line then depth - 1 else depth

/-- The depth to which a line leads. -/
def depthBelow (depth : Int) (line : String) : Int :=
  if opens line then depthAt depth line + 1 else depthAt depth line

/-- A text at a depth.  An empty line is not indented. -/
def placed (depth : Int) (text : String) : String :=
  if text = "" then "" else indent depth ++ text

/-- The lines are the texts, each at the depth at which it is read.  Read from one depth on, they
lead to another one and never go below a lowest depth. -/
inductive LaidOut (lowest : Int) : Int → List String → List String → Int → Prop
  | nil {depth : Int} (above : lowest ≤ depth) : LaidOut lowest depth [] [] depth
  | cons {depth final : Int} {text line : String} {texts lines : List String}
      (above : lowest ≤ depthAt depth line)
      (place : line = placed (depthAt depth line) text)
      (below : LaidOut lowest (depthBelow depth line) texts lines final) :
      LaidOut lowest depth (text :: texts) (line :: lines) final

/-! ## Ends of texts -/

section Ends

variable {text : String} {c d : Char}

theorem EndsIn.append (h : EndsIn text c) (start : String) : EndsIn (start ++ text) c := by
  have hlast : text.toList.getLast? = some c := h
  simp [EndsIn, String.toList_append, List.getLast?_append, hlast]

theorem EndsIn.unique (hc : EndsIn text c) (hd : EndsIn text d) : c = d :=
  Option.some.inj (hc.symm.trans hd)

theorem EndsIn.ne_empty (h : EndsIn text c) : text ≠ "" := by
  rintro rfl
  simp [EndsIn] at h

theorem exists_endsIn (h : text ≠ "") : ∃ c ∈ text.toList, EndsIn text c := by
  have hchars : text.toList ≠ [] := by simpa using h
  exact ⟨_, List.getLast_mem hchars, List.getLast?_eq_getLast_of_ne_nil hchars⟩

theorem opens_iff : opens text = true ↔ EndsIn text '\x7b' := by
  simp [opens, EndsIn]

theorem EndsIn.of_closes (h : closes text = true) : EndsIn text '\x7d' := by
  have hdropped : text.toList.dropWhile Text.isBlank = ['\x7d'] := by simpa [closes] using h
  rw [EndsIn, ← List.takeWhile_append_dropWhile (p := Text.isBlank) (l := text.toList), hdropped,
    List.getLast?_concat]

/-- A text that no brace ends. -/
def Unbraced (text : String) : Prop :=
  ∃ c, EndsIn text c ∧ c ≠ '\x7b' ∧ c ≠ '\x7d'

theorem Unbraced.of_endsIn (h : EndsIn text c) (hopen : c ≠ '\x7b') (hclose : c ≠ '\x7d') :
    Unbraced text :=
  ⟨c, h, hopen, hclose⟩

end Ends

/-! ## Single lines -/

namespace LaidOut

variable {lowest depth final : Int} {text line : String}

theorem single {depth' : Int} (hat : depthAt depth line = depth')
    (hbelow : depthBelow depth line = final) (place : line = placed depth' text)
    (above : lowest ≤ depth') (hfinal : lowest ≤ final) :
    LaidOut lowest depth [text] [line] final := by
  subst hat hbelow
  exact .cons above place (.nil hfinal)

theorem empty (above : lowest ≤ depth) : LaidOut lowest depth [""] [""] depth :=
  single rfl rfl rfl above above

theorem placed_of_endsIn {c : Char} (htext : EndsIn text c) :
    indent depth ++ text = placed depth text :=
  (if_neg htext.ne_empty).symm

theorem unbraced (htext : Unbraced text) (above : lowest ≤ depth) :
    LaidOut lowest depth [text] [indent depth ++ text] depth := by
  obtain ⟨c, hc, hopen, hclose⟩ := htext
  have hline := hc.append (indent depth)
  have hat : depthAt depth (indent depth ++ text) = depth :=
    if_neg fun h => hclose (hline.unique (.of_closes h))
  have hbelow : depthBelow depth (indent depth ++ text) = depth := by
    rw [depthBelow, if_neg fun h => hopen (hline.unique (opens_iff.mp h)), hat]
  exact single hat hbelow (placed_of_endsIn hc) above above

theorem opening (htext : EndsIn text '\x7b') (above : lowest ≤ depth) :
    LaidOut lowest depth [text] [indent depth ++ text] (depth + 1) := by
  have hline := htext.append (indent depth)
  have hat : depthAt depth (indent depth ++ text) = depth :=
    if_neg fun h => absurd (hline.unique (.of_closes h)) (by decide)
  have hbelow : depthBelow depth (indent depth ++ text) = depth + 1 := by
    rw [depthBelow, if_pos (opens_iff.mpr hline), hat]
  exact single hat hbelow (placed_of_endsIn htext) above (by omega)

theorem closes_indent (level : Int) : closes (indent level ++ "\x7d") = true := by
  have hblanks : ∀ c ∈ List.replicate (4 * level.toNat) ' ', Text.isBlank c = true := by
    intro c hc
    rw [List.eq_of_mem_replicate hc]
    rfl
  simp only [closes, indent, String.toList_append, String.toList_ofList,
    List.dropWhile_append_of_pos hblanks]
  decide

theorem closing (above : lowest ≤ depth) :
    LaidOut lowest (depth + 1) ["\x7d"] [indent depth ++ "\x7d"] depth := by
  have hbrace : EndsIn "\x7d" '\x7d' := by decide
  have hline := hbrace.append (indent depth)
  have hat : depthAt (depth + 1) (indent depth ++ "\x7d") = depth := by
    rw [depthAt, if_pos (closes_indent depth)]
    omega
  have hbelow : depthBelow (depth + 1) (indent depth ++ "\x7d") = depth := by
    rw [depthBelow, if_neg fun h => absurd (hline.unique (opens_iff.mp h)) (by decide), hat]
  exact single hat hbelow (placed_of_endsIn hbrace) above above

/-! ## Lines below other lines -/

variable {texts texts' lines lines' : List String} {between : Int}

theorem append (h : LaidOut lowest depth texts lines between)
    (h' : LaidOut lowest between texts' lines' final) :
    LaidOut lowest depth (texts ++ texts') (lines ++ lines') final := by
  induction h with
  | nil => exact h'
  | cons above place _ ih => exact .cons above place (ih h')

theorem above (h : LaidOut lowest depth texts lines final) : lowest ≤ final := by
  induction h with
  | nil above => exact above
  | cons _ _ _ ih => exact ih

theorem nil_iff (h : LaidOut lowest depth texts lines final) : texts = [] ↔ lines = [] := by
  cases h <;> simp

theorem apart (h : LaidOut lowest depth texts lines between)
    (h' : LaidOut lowest between texts' lines' between) :
    LaidOut lowest depth (apart texts texts') (apart lines lines') between := by
  -- an empty line stands between the texts exactly if one stands between the lines
  have hgap : LaidOut lowest between (if texts = [] ∨ texts' = [] then [] else [""])
      (if lines = [] ∨ lines' = [] then [] else [""]) between := by
    simp only [h.nil_iff, h'.nil_iff]
    split
    · exact .nil h'.above
    · exact .empty h'.above
  exact (h.append hgap).append h'

theorem items {α : Type} {text : α → String} {items : List α}
    (htexts : ∀ x ∈ items, Unbraced (text x)) (above : lowest ≤ depth) :
    LaidOut lowest depth (items.map text) (items.map fun x => indent depth ++ text x) depth := by
  induction items with
  | nil => exact .nil above
  | cons x items ih =>
      have hfirst := unbraced (htexts x List.mem_cons_self) above
      exact hfirst.append (ih fun y hy => htexts y (List.mem_cons_of_mem _ hy))

theorem flatMap {α : Type} {texts lines : α → List String} {items : List α}
    (hitems : ∀ x ∈ items, LaidOut lowest depth (texts x) (lines x) depth)
    (above : lowest ≤ depth) :
    LaidOut lowest depth (items.flatMap texts) (items.flatMap lines) depth := by
  induction items with
  | nil => exact .nil above
  | cons x items ih =>
      have hfirst := hitems x List.mem_cons_self
      exact hfirst.append (ih fun y hy => hitems y (List.mem_cons_of_mem _ hy))

/-- Blocks that lead back to the depth at which they begin can stand one below the other. -/
theorem intercalate {texts lines : List (List String)}
    (hblocks : List.Forall₂ (fun texts lines => LaidOut lowest depth texts lines depth) texts lines)
    (above : lowest ≤ depth) :
    LaidOut lowest depth ([""].intercalate texts) ([""].intercalate lines) depth := by
  induction hblocks with
  | nil => exact .nil above
  | cons hfirst hrest ih =>
      cases hrest with
      | nil => simpa using hfirst
      | cons hsecond hrest =>
          rw [List.intercalate_cons_cons, List.intercalate_cons_cons]
          exact (hfirst.append (.empty above)).append ih

end LaidOut

end BytecodeViewer
