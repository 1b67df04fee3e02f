import BytecodeViewer.Proofs.Render.MethodBlocks

/-!
# Sections one below the other

A listing shows each section of a class as a block of its own, which does not depend on the other
sections.  So what several sections show is what each of them shows alone, in one fixed order.
-/

namespace BytecodeViewer

/-- If all that has the one property comes before all that has the other, what has either of them
is found in two passes. -/
theorem filter_or_of_before {α : Type} {place : α → Nat} {p q : α → Bool} {items : List α}
    (ordered : items.Pairwise (place · < place ·))
    (before : ∀ x y, p x = true → q y = true → place x < place y) :
    items.filter (fun x => p x || q x) = items.filter p ++ items.filter q := by
  induction items with
  | nil => rfl
  | cons x items ih =>
      obtain ⟨hx, hrest⟩ := List.pairwise_cons.mp ordered
      have hfiltered := ih hrest
      cases hp : p x with
      | true =>
          have hq : q x = false := by
            rw [← Bool.not_eq_true]
            exact fun hq => Nat.lt_irrefl _ (before x x hp hq)
          simp [hp, hq, hfiltered]
      | false =>
          cases hq : q x with
          | false => simp [hp, hq, hfiltered]
          | true =>
              have hnone : items.filter p = [] := by
                rw [List.filter_eq_nil_iff]
                exact fun y hy hpy => Nat.lt_asymm (hx y hy) (before y x hpy hq)
              simp [hp, hq, hfiltered, hnone]

/-- A class that has nothing to show in a section. -/
def ClassDef.Lacks (c : ClassDef) : Section → Prop
  | .name => False
  | .details => c.superclass.getD "" = "" ∧ c.sourceFile.getD "" = "" ∧ c.interfaces = []
  | .annotations => c.annotations = []
  | .fields => c.fields = []
  | .methods => c.methods = []

namespace Dex

variable {c : ClassDef} {o o' : Sections}

/-! ## Single sections -/

theorem filter_ofSection (s : Section) : sectionOrder.filter (Sections.ofSection s).has = [s] := by
  cases s <;> rfl

theorem classLines_ofSection (c : ClassDef) (s : Section) :
    classLines c (.ofSection s) = sectionLines c s := by
  rw [classLines_eq, blocks, filter_ofSection, List.map_singleton]
  by_cases hempty : sectionLines c s = [] <;> simp [hempty]

theorem annotationLines_ne_nil (level : Int) (a : Annotation) : annotationLines level a ≠ [] := by
  simp [annotationLines]

theorem fieldLines_ne_nil (f : Field) : fieldLines f ≠ [] := by
  simp only [fieldLines]
  split <;> simp

theorem headed_eq_nil_iff {heading : String} {lines : List String} :
    headed heading lines = [] ↔ lines = [] := by
  cases lines <;> simp [headed]

theorem flatMap_lines_eq_nil_iff {α : Type} {lines : α → List String}
    (filled : ∀ x, lines x ≠ []) {items : List α} : items.flatMap lines = [] ↔ items = [] := by
  cases items <;> simp [filled]

theorem detailLines_eq_nil_iff : detailLines c = [] ↔ c.Lacks .details := by
  simp only [detailLines, List.append_eq_nil_iff, ClassDef.Lacks, and_assoc]
  refine and_congr ?_ (and_congr ?_ ?_)
  · rcases c.superclass with - | name
    · simp
    · by_cases hname : name = "" <;> simp [hname]
  · rcases c.sourceFile with - | file
    · simp
    · by_cases hfile : file = "" <;> simp [hfile]
  · by_cases hinterfaces : c.interfaces = [] <;> simp [hinterfaces]

/-- A section has lines exactly if the class has something to show in it. -/
theorem sectionLines_eq_nil_iff (s : Section) : sectionLines c s = [] ↔ c.Lacks s := by
  cases s with
  | name => simp [sectionLines, nameLines, ClassDef.Lacks]
  | details => exact detailLines_eq_nil_iff
  | annotations =>
      exact headed_eq_nil_iff.trans (flatMap_lines_eq_nil_iff (annotationLines_ne_nil 0))
  | fields => exact headed_eq_nil_iff.trans (flatMap_lines_eq_nil_iff fieldLines_ne_nil)
  | methods =>
      by_cases hmethods : c.methods = []
      · simp [sectionLines, ClassDef.Lacks, hmethods, headed, separate]
      · simp [sectionLines_methods hmethods, ClassDef.Lacks, hmethods]

/-! ## Several sections -/

theorem blocks_eq (c : ClassDef) (o : Sections) :
    blocks c o = ((sectionOrder.filter o.has).map
      fun s => classLines c (.ofSection s)).filter (· ≠ []) := by
  simp only [classLines_ofSection]
  exact List.filter_congr fun lines _ => by cases lines <;> rfl

/-- All sections of the one set are shown above all those of the other. -/
def Above (o o' : Sections) : Prop :=
  ∀ s s', o.has s = true → o'.has s' = true → sectionOrder.idxOf s < sectionOrder.idxOf s'

theorem blocks_union (habove : Above o o') :
    blocks c (o.union o') = blocks c o ++ blocks c o' := by
  have ordered : sectionOrder.Pairwise (sectionOrder.idxOf · < sectionOrder.idxOf ·) := by decide
  have hunion : (o.union o').has = fun s => o.has s || o'.has s := by
    funext s
    cases s <;> rfl
  rw [blocks, hunion, filter_or_of_before ordered habove, List.map_append, List.filter_append,
    blocks, blocks]

/-- A class is shown as its sections are shown one by one, with an empty line between those that
have something to show, in an order that does not depend on which of them are shown.  So the lines
of sets of sections are put together in the same way. -/
theorem classLines_compose (c : ClassDef) (o : Sections) :
    classLines c o = [""].intercalate
        ((([.name, .details, .annotations, .fields, .methods].filter o.has).map
          fun s => classLines c (.ofSection s)).filter (· ≠ [])) ∧
      (∀ s, classLines c (.ofSection s) = [] ↔ c.Lacks s) ∧
      ∀ o', Above o o' → classLines c (o.union o') = apart (classLines c o) (classLines c o') := by
  refine ⟨?_, fun s => ?_, fun o' habove => ?_⟩
  · rw [classLines_eq, blocks_eq]
    rfl
  · rw [classLines_ofSection, sectionLines_eq_nil_iff]
  · have filled := blocks_filled c (o.union o')
    rw [blocks_union habove] at filled
    rw [classLines_eq, blocks_union habove, intercalate_append filled, classLines_eq, classLines_eq]

theorem classLines_compose_counter :
    Above { name := true, details := true } { fields := true, methods := true } ∧
      classLines counterClass
          (Sections.union { name := true, details := true } { fields := true, methods := true }) =
        apart [".class public La/Counter;", "", ".super Ljava/lang/Object;"]
          (classLines counterClass { fields := true, methods := true }) := by
  have habove : Above { name := true, details := true } { fields := true, methods := true } := by
    rintro (_ | _ | _ | _ | _) (_ | _ | _ | _ | _) <;> decide
  have hupper : classLines counterClass { name := true, details := true } =
      [".class public La/Counter;", "", ".super Ljava/lang/Object;"] := by decide +kernel
  obtain ⟨-, -, union⟩ := classLines_compose counterClass { name := true, details := true }
  rw [union _ habove, hupper]
  exact ⟨habove, rfl⟩

end Dex

end BytecodeViewer
