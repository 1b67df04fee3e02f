import BytecodeViewer.Proofs.Render.ClassCache

/-!
# Looking up what is selected

A renderer that has been bound to a model finds what a selection refers to exactly if the
model has it, whatever it has rendered before.
-/

namespace BytecodeViewer

/-- Whether a model has the class or the method that a selection refers to. -/
def LoadedModel.Has (m : LoadedModel) : Selection → Prop
  | .wholeClass ref => ∃ c, m.class? ref = .ok (some c)
  | .method ref key => ∃ c, m.class? ref = .ok (some c) ∧ ∃ x ∈ c.methods, x.key = key
  | .unsupported _ => False

theorem ClassDef.isSome_findMethod?_iff (c : ClassDef) (key : String) :
    (c.findMethod? key).isSome ↔ ∃ x ∈ c.methods, x.key = key := by
  simp [findMethod?, List.find?_isSome]

namespace Renderer

/-- Looks up the class or the method that a selection refers to. -/
def lookUp (r : Renderer) (m : Option LoadedModel) : Selection → Except Failure Unit
  | .wholeClass ref => (r.resolveClass m ref).1.map fun _ => ()
  | .method ref key => (r.resolveMethod m ref key).1.map fun _ => ()
  | .unsupported text => .error (.unsupportedTarget text)

/-- The renderer once it has rendered some selections for a model. -/
def used (r : Renderer) (m : Option LoadedModel) (uses : List (Sections × Selection)) : Renderer :=
  uses.foldl (fun r u => (r.render m u.1 u.2).2) r

variable {r : Renderer} {m : Option LoadedModel}

theorem KnownIn.render (h : r.KnownIn m) (o : Sections) (s : Selection) :
    (r.render m o s).2.KnownIn m := by
  cases s with
  | wholeClass ref => exact (h.answer (.wholeClass ref o)).2
  | method ref key => exact (h.answer (.method ref key 0 true)).2
  | unsupported text => exact h

theorem KnownIn.used (h : r.KnownIn m) (uses : List (Sections × Selection)) :
    (r.used m uses).KnownIn m := by
  induction uses generalizing r with
  | nil => exact h
  | cons u uses ih => exact ih (h.render u.1 u.2)

theorem used_same (r : Renderer) (m : Option LoadedModel) (uses : List (Sections × Selection)) :
    SameButKnown r (r.used m uses) := by
  induction uses generalizing r with
  | nil => exact .refl r
  | cons u uses ih =>
      have first := r.render_same m u.1 u.2
      have others := ih (r.render m u.1 u.2).2
      exact ⟨others.language.trans first.language, others.bound.trans first.bound⟩

/-- Binding forgets what another model was asked for. -/
theorem knownIn_used_bind (r : Renderer) (id : Option ModelId) (m : Option LoadedModel)
    (uses : List (Sections × Selection)) : ((r.bind id).used m uses).KnownIn m :=
  (KnownIn.of_nil rfl m).used uses

theorem KnownIn.resolveClass_eq {x : LoadedModel} (h : r.KnownIn (some x)) (ref : String) :
    (r.resolveClass (some x) ref).1 = match x.class? ref with
      | .error f => .error f
      | .ok none => .error (.noClass ref r.language.name)
      | .ok (some c) => .ok c := by
  rw [(h.resolveClass ref).1]
  simp only [Renderer.resolveClass, List.lookup_nil]
  rcases x.class? ref with f | _ | c <;> rfl

theorem KnownIn.resolveMethod_eq {x : LoadedModel} (h : r.KnownIn (some x))
    (ref methodRef : String) :
    (r.resolveMethod (some x) ref methodRef).1 = match x.class? ref with
      | .error f => .error f
      | .ok none => .error (.noClass ref r.language.name)
      | .ok (some c) =>
        match c.findMethod? methodRef with
        | some k => .ok (c, k)
        | none => .error (.noMethod ref methodRef r.language.name) := by
  have hclass := h.resolveClass_eq ref
  rcases hr : r.resolveClass (some x) ref with ⟨outcome, r'⟩
  rw [hr] at hclass
  simp only at hclass
  subst hclass
  simp only [Renderer.resolveMethod, hr]
  rcases x.class? ref with f | _ | c
  · rfl
  · rfl
  · cases hmethod : c.findMethod? methodRef <;> simp [hmethod]

/-- A method that the model has is written from its definition. -/
theorem KnownIn.renderMethod_eq {x : LoadedModel} (h : r.KnownIn (some x)) {ref key : String}
    {classLines : ClassDef → Sections → Except Failure (List String)}
    {methodLines : ClassDef → Method → Int → Bool → Except Failure (List String)}
    (hwriter : r.language.writer = .lines classLines methodLines) {c : ClassDef} {k : Method}
    (hclass : x.class? ref = .ok (some c)) (hmethod : c.findMethod? key = some k) (level : Int)
    (standalone : Bool) : (r.renderMethod (some x) ref key level standalone).1 =
      (methodLines c k level standalone).map joinLines := by
  have hfound := h.resolveMethod_eq ref key
  simp only [hclass, hmethod] at hfound
  rcases hr : r.resolveMethod (some x) ref key with ⟨outcome, r'⟩
  rw [hr] at hfound
  simp only at hfound
  subst hfound
  simp only [Renderer.renderMethod, hwriter, hr]

theorem KnownIn.lookUp_iff {x : LoadedModel} (h : r.KnownIn (some x)) (s : Selection) :
    r.lookUp (some x) s = .ok () ↔ x.Has s := by
  cases s with
  | wholeClass ref =>
      simp only [lookUp, h.resolveClass_eq ref, LoadedModel.Has]
      rcases x.class? ref with f | _ | c <;> simp [Except.map]
  | method ref key =>
      simp only [lookUp, h.resolveMethod_eq ref key, LoadedModel.Has]
      rcases x.class? ref with f | _ | c
      · simp [Except.map]
      · simp [Except.map]
      · have hfound := c.isSome_findMethod?_iff key
        cases hmethod : c.findMethod? key <;> simp_all [Except.map]
  | unsupported text => simp [lookUp, LoadedModel.Has]

/-- While the model answers, what cannot be found is an unresolved reference. -/
theorem KnownIn.lookUp_unresolved {x : LoadedModel} (h : r.KnownIn (some x))
    (answers : ∀ ref, ∃ found, x.class? ref = .ok found) {s : Selection} {f : Failure}
    (hlook : r.lookUp (some x) s = .error f) :
    f.family? = some .unresolvedReference ∨ ∃ text, s = .unsupported text := by
  cases s with
  | wholeClass ref =>
      obtain ⟨found, hfound⟩ := answers ref
      simp only [lookUp, h.resolveClass_eq ref, hfound] at hlook
      cases found with
      | none =>
          cases hlook
          exact .inl rfl
      | some c => cases hlook
  | method ref key =>
      obtain ⟨found, hfound⟩ := answers ref
      simp only [lookUp, h.resolveMethod_eq ref key, hfound] at hlook
      cases found with
      | none =>
          cases hlook
          exact .inl rfl
      | some c =>
          cases hmethod : c.findMethod? key with
          | none =>
              simp only [hmethod] at hlook
              cases hlook
              exact .inl rfl
          | some k =>
              simp only [hmethod] at hlook
              cases hlook
  | unsupported text => exact .inr ⟨text, rfl⟩

end Renderer

/-! ## Languages without plug-ins -/

/-- The languages that need no plug-in, with the lines in which they write a method. -/
def Language.builtinMethodLines :
    List (Language × (ClassDef → Method → Int → Bool → List String)) :=
  [(.java, Java.methodLines), (.dex, Dex.methodLines)]

theorem Language.exists_writer
    {written : Language × (ClassDef → Method → Int → Bool → List String)}
    (hwritten : written ∈ builtinMethodLines) : ∃ classLines, written.1.writer = .lines classLines
      fun c x level standalone => .ok (written.2 c x level standalone) := by
  simp only [builtinMethodLines, List.mem_cons, List.not_mem_nil, or_false] at hwritten
  rcases hwritten with rfl | rfl
  · exact ⟨_, rfl⟩
  · exact ⟨_, rfl⟩

/-- A renderer of such a language, whatever it has rendered since it was bound, renders the
method that a key finds first. -/
theorem Renderer.renderMethod_builtin
    {written : Language × (ClassDef → Method → Int → Bool → List String)}
    (hwritten : written ∈ Language.builtinMethodLines) {m : LoadedModel} {ref key : String}
    {c : ClassDef} {k : Method} (hclass : m.class? ref = .ok (some c))
    (hmethod : c.findMethod? key = some k) (id : ModelId) (uses : List (Sections × Selection))
    (level : Int) (standalone : Bool) :
    (((Renderer.bind { language := written.1 } (some id)).used (some m) uses).renderMethod
      (some m) ref key level standalone).1 = .ok (joinLines (written.2 c k level standalone)) := by
  let r := (Renderer.bind { language := written.1 } (some id)).used (some m) uses
  have known : r.KnownIn (some m) := knownIn_used_bind _ (some id) (some m) uses
  have hlanguage : r.language = written.1 := (used_same _ (some m) uses).language
  obtain ⟨classLines, hlines⟩ := Language.exists_writer hwritten
  rw [← hlanguage] at hlines
  exact known.renderMethod_eq hlines hclass hmethod level standalone

end BytecodeViewer
