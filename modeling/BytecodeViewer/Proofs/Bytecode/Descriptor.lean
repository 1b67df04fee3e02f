import BytecodeViewer.Bytecode.TypeName
import BytecodeViewer.Proofs.Bytecode.InMemory

/-!
# Type descriptors

A descriptor says where it ends: array marks come first, a primitive type is one letter, and the
name of a class runs to a semicolon.  So descriptors can be written one after another without
marks between them, and the type names can be read off again.
-/

namespace BytecodeViewer

/-- Lists that run up to the first element without a property agree on both sides of it. -/
theorem append_cons_inj {α : Type} {p : α → Prop} {xs ys us vs : List α} {a b : α}
    (hxs : ∀ x ∈ xs, p x) (hys : ∀ y ∈ ys, p y) (ha : ¬p a) (hb : ¬p b)
    (h : xs ++ a :: us = ys ++ b :: vs) : xs = ys ∧ a = b ∧ us = vs := by
  induction xs generalizing ys with
  | nil =>
      cases ys with
      | nil => simpa using h
      | cons y ys =>
          have hay : a = y := (List.cons.inj h).1
          exact absurd (hys y List.mem_cons_self) (hay ▸ ha)
  | cons x xs ih =>
      cases ys with
      | nil =>
          have hxb : x = b := (List.cons.inj h).1
          exact absurd (hxs x List.mem_cons_self) (hxb ▸ hb)
      | cons y ys =>
          obtain ⟨hxy, hrest⟩ := List.cons.inj h
          obtain ⟨heq, hcut⟩ := ih (fun x hx => hxs x (List.mem_cons_of_mem _ hx))
            (fun y hy => hys y (List.mem_cons_of_mem _ hy)) hrest
          exact ⟨by rw [hxy, heq], hcut⟩

namespace TypeName

/-- A type name without the marks that a descriptor writes into names or after them. -/
structure Plain (name : String) : Prop where
  noSlash : '/' ∉ name.toList
  noSemicolon : ';' ∉ name.toList

variable {s t name letter : String}

/-! ## Array marks -/

theorem splitDimensions_spec (cs : List Char) :
    (List.replicate (splitDimensions cs).1 [']', '[']).flatten ++ (splitDimensions cs).2 = cs := by
  fun_induction splitDimensions cs with
  | case1 rest n base hsplit ih => simpa [hsplit, List.replicate_succ] using ih
  | case2 base => rfl

theorem splitDimensions_injective : Function.Injective splitDimensions := by
  intro cs ds h
  rw [← splitDimensions_spec cs, h, splitDimensions_spec]

/-- The type of the elements of an array, through all dimensions. -/
def base (name : String) : String :=
  String.ofList (splitDimensions name.toList.reverse).2.reverse

def dimensions (name : String) : Nat :=
  (splitDimensions name.toList.reverse).1

theorem toList_descriptor (name : String) :
    (descriptor name).toList =
      List.replicate (dimensions name) '[' ++ (baseDescriptor (base name)).toList := by
  simp [descriptor, dimensions, base]

theorem eq_of_base (hdimensions : dimensions s = dimensions t) (hbase : base s = base t) :
    s = t := by
  have hchars : (splitDimensions s.toList.reverse).2 = (splitDimensions t.toList.reverse).2 :=
    List.reverse_inj.mp (String.ofList_injective hbase)
  have hreverse := splitDimensions_injective (Prod.ext hdimensions hchars)
  exact String.toList_inj.mp (List.reverse_inj.mp hreverse)

theorem mem_of_mem_base {c : Char} (h : c ∈ (base name).toList) : c ∈ name.toList := by
  rw [← List.mem_reverse, ← splitDimensions_spec name.toList.reverse]
  exact List.mem_append_right _ (by simpa [base] using h)

theorem plain_base (h : Plain name) : Plain (base name) :=
  ⟨fun hslash => h.noSlash (mem_of_mem_base hslash),
    fun hmark => h.noSemicolon (mem_of_mem_base hmark)⟩

/-! ## Types that are no arrays -/

theorem letter_of_lookup (h : primitives.lookup name = some letter) :
    ∃ c, letter.toList = [c] ∧ c ∉ ['L', '[', ')'] := by
  have hmem := mem_of_lookup h
  simp only [primitives, List.mem_cons, Prod.mk.injEq, List.not_mem_nil, or_false] at hmem
  rcases hmem with h | h | h | h | h | h | h | h | h
  all_goals
    rw [h.2]
    exact ⟨_, rfl, by decide⟩

theorem primitives_inj (hs : primitives.lookup s = some letter)
    (ht : primitives.lookup t = some letter) : s = t := by
  have hunique : ∀ x ∈ primitives, ∀ y ∈ primitives, x.2 = y.2 → x.1 = y.1 := by decide
  exact hunique _ (mem_of_lookup hs) _ (mem_of_lookup ht) rfl

/-- What stands for the name of a class between the marks around it. -/
def slashed (name : String) : List Char :=
  name.toList.map fun c => if c = '.' then '/' else c

theorem baseDescriptor_of_some (h : primitives.lookup name = some letter) :
    (baseDescriptor name).toList = letter.toList := by
  simp [baseDescriptor, h]

theorem baseDescriptor_of_none (h : primitives.lookup name = none) :
    (baseDescriptor name).toList = 'L' :: (slashed name ++ [';']) := by
  simp [baseDescriptor, h, slashed]

theorem Plain.slashed_back (h : Plain name) :
    (slashed name).map (fun c => if c = '/' then '.' else c) = name.toList := by
  rw [slashed, List.map_map]
  refine (List.map_congr_left fun c hc => ?_).trans (List.map_id _)
  have hslash : c ≠ '/' := fun heq => h.noSlash (heq ▸ hc)
  by_cases hdot : c = '.' <;> simp [hdot, hslash]

theorem Plain.slashed_inj (hs : Plain s) (ht : Plain t) (h : slashed s = slashed t) : s = t := by
  rw [← String.toList_inj, ← hs.slashed_back, h, ht.slashed_back]

theorem Plain.not_mem_slashed (h : Plain name) : ∀ c ∈ slashed name, c ≠ ';' := by
  rintro c hc rfl
  obtain ⟨d, hd, hmark⟩ := List.mem_map.mp hc
  by_cases hdot : d = '.'
  · simp [hdot] at hmark
  · rw [if_neg hdot] at hmark
    exact h.noSemicolon (hmark ▸ hd)

theorem exists_baseDescriptor_cons (name : String) :
    ∃ c cs, (baseDescriptor name).toList = c :: cs ∧ c ∉ ['[', ')'] := by
  cases h : primitives.lookup name with
  | none => exact ⟨_, _, baseDescriptor_of_none h, by decide⟩
  | some letter =>
      obtain ⟨c, hc, hother⟩ := letter_of_lookup h
      exact ⟨c, [], (baseDescriptor_of_some h).trans hc, fun hmem =>
        hother (List.mem_cons_of_mem _ hmem)⟩

/-- A letter and the name of a class begin differently, and each shows where it ends. -/
theorem Plain.baseDescriptor_append_inj (hs : Plain s) (ht : Plain t) {us vs : List Char}
    (h : (baseDescriptor s).toList ++ us = (baseDescriptor t).toList ++ vs) :
    s = t ∧ us = vs := by
  cases hlookup : primitives.lookup s with
  | none =>
      cases hlookup' : primitives.lookup t with
      | none =>
          rw [baseDescriptor_of_none hlookup, baseDescriptor_of_none hlookup'] at h
          have hrest : slashed s ++ ';' :: us = slashed t ++ ';' :: vs := by simpa using h
          obtain ⟨heq, -, hend⟩ := append_cons_inj hs.not_mem_slashed ht.not_mem_slashed
            (by simp) (by simp) hrest
          exact ⟨hs.slashed_inj ht heq, hend⟩
      | some letter =>
          obtain ⟨c, hc, hother⟩ := letter_of_lookup hlookup'
          rw [baseDescriptor_of_none hlookup, baseDescriptor_of_some hlookup', hc] at h
          have hletter : 'L' = c := (List.cons.inj h).1
          simp [← hletter] at hother
  | some letter =>
      obtain ⟨c, hc, hother⟩ := letter_of_lookup hlookup
      rw [baseDescriptor_of_some hlookup, hc] at h
      cases hlookup' : primitives.lookup t with
      | none =>
          rw [baseDescriptor_of_none hlookup'] at h
          have hletter : c = 'L' := (List.cons.inj h).1
          simp [hletter] at hother
      | some letter' =>
          obtain ⟨d, hd, -⟩ := letter_of_lookup hlookup'
          rw [baseDescriptor_of_some hlookup', hd] at h
          obtain ⟨hcd, hrest⟩ := List.cons.inj h
          have hletters : letter = letter' := by rw [← String.toList_inj, hc, hd, hcd]
          exact ⟨primitives_inj hlookup (hletters ▸ hlookup'), hrest⟩

/-! ## Descriptors one after another -/

theorem exists_descriptor_cons (name : String) :
    ∃ c cs, (descriptor name).toList = c :: cs ∧ c ≠ ')' := by
  obtain ⟨c, cs, hc, hother⟩ := exists_baseDescriptor_cons (base name)
  rw [toList_descriptor, hc]
  cases dimensions name with
  | zero => exact ⟨c, cs, rfl, fun heq => by simp [heq] at hother⟩
  | succ n => exact ⟨'[', _, rfl, by decide⟩

/-- No descriptor is the beginning of another one. -/
theorem Plain.descriptor_append_inj (hs : Plain s) (ht : Plain t) {us vs : List Char}
    (h : (descriptor s).toList ++ us = (descriptor t).toList ++ vs) : s = t ∧ us = vs := by
  obtain ⟨c, cs, hc, hother⟩ := exists_baseDescriptor_cons (base s)
  obtain ⟨d, ds, hd, hother'⟩ := exists_baseDescriptor_cons (base t)
  rw [toList_descriptor, toList_descriptor, List.append_assoc, List.append_assoc, hc, hd,
    List.cons_append, List.cons_append] at h
  have marks : ∀ n, ∀ x ∈ List.replicate n '[', x = '[' := fun n x hx => List.eq_of_mem_replicate hx
  obtain ⟨hmarks, hhead, htail⟩ := append_cons_inj (marks _) (marks _)
    (fun heq => by simp [heq] at hother) (fun heq => by simp [heq] at hother') h
  have hdimensions : dimensions s = dimensions t := by simpa using congrArg List.length hmarks
  have hbase : (baseDescriptor (base s)).toList ++ us = (baseDescriptor (base t)).toList ++ vs := by
    rw [hc, hd, hhead, List.cons_append, List.cons_append, htail]
  obtain ⟨heq, hrest⟩ := (plain_base hs).baseDescriptor_append_inj (plain_base ht) hbase
  exact ⟨eq_of_base hdimensions heq, hrest⟩

theorem Plain.descriptor_eq_iff (hs : Plain s) (ht : Plain t) :
    descriptor s = descriptor t ↔ s = t := by
  refine ⟨fun h => ?_, congrArg descriptor⟩
  have hchars : (descriptor s).toList ++ [] = (descriptor t).toList ++ [] := by rw [h]
  exact (hs.descriptor_append_inj ht hchars).1

/-- Descriptors in a row end where something stands that begins none. -/
theorem descriptors_inj {names names' : List String} {us vs : List Char}
    (hnames : ∀ name ∈ names, Plain name) (hnames' : ∀ name ∈ names', Plain name)
    (h : names.flatMap (fun name => (descriptor name).toList) ++ ')' :: us =
      names'.flatMap (fun name => (descriptor name).toList) ++ ')' :: vs) :
    names = names' ∧ us = vs := by
  induction names generalizing names' with
  | nil =>
      cases names' with
      | nil => simpa using h
      | cons name' names' =>
          obtain ⟨c, cs, hc, hother⟩ := exists_descriptor_cons name'
          rw [List.flatMap_cons, hc] at h
          exact absurd (List.cons.inj h).1.symm hother
  | cons name names ih =>
      cases names' with
      | nil =>
          obtain ⟨c, cs, hc, hother⟩ := exists_descriptor_cons name
          rw [List.flatMap_cons, hc] at h
          exact absurd (List.cons.inj h).1 hother
      | cons name' names' =>
          rw [List.flatMap_cons, List.flatMap_cons, List.append_assoc, List.append_assoc] at h
          obtain ⟨heq, hrest⟩ := (hnames name List.mem_cons_self).descriptor_append_inj
            (hnames' name' List.mem_cons_self) h
          obtain ⟨heqs, hend⟩ := ih (fun x hx => hnames x (List.mem_cons_of_mem _ hx))
            (fun x hx => hnames' x (List.mem_cons_of_mem _ hx)) hrest
          exact ⟨by rw [heq, heqs], hend⟩

end TypeName

end BytecodeViewer
