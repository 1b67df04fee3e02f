/-!
# Blank characters

White space in the sense of Unicode, together with the ASCII separators 28 to
31.  Trimming removes it from both ends of a text.
-/

namespace BytecodeViewer.Text

def isBlank (c : Char) : Bool :=
  let n := c.toNat
  (9 ≤ n && n ≤ 13) || (28 ≤ n && n ≤ 32) || n == 0x85 || n == 0xA0 || n == 0x1680 ||
    (0x2000 ≤ n && n ≤ 0x200A) || n == 0x2028 || n == 0x2029 || n == 0x202F || n == 0x205F ||
    n == 0x3000

def isAsciiBlank (c : Char) : Bool :=
  let n := c.toNat
  (9 ≤ n && n ≤ 13) || n == 32

/-- Drops the characters of `p` from both ends. -/
def trimBy (p : Char → Bool) (cs : List Char) : List Char :=
  ((cs.dropWhile p).reverse.dropWhile p).reverse

def trim (s : String) : String :=
  String.ofList (trimBy isBlank s.toList)

def isAllBlank (s : String) : Bool :=
  s.toList.all isBlank

theorem trimBy_eq_nil_of_all {p : Char → Bool} {cs : List Char} (h : cs.all p = true) :
    trimBy p cs = [] := by
  have hd : cs.dropWhile p = [] := by
    induction cs with
    | nil => rfl
    | cons c cs ih =>
        simp only [List.all_cons, Bool.and_eq_true] at h
        simp [h.1, ih h.2]
  simp [trimBy, hd]

end BytecodeViewer.Text
