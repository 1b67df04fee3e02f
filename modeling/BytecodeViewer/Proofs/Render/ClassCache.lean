import BytecodeViewer.Render.Renderer
import BytecodeViewer.Session.Selection

/-!
# The classes a renderer remembers

A renderer remembers the classes that it has looked up.  As long as these are classes
of the bound model, the renderer renders as one that has rendered nothing before.
-/

namespace BytecodeViewer

/-- Languages that need no plug-in write every class and method that they find. -/
theorem Language.exists_lines {l : Language} (hl : l ∈ builtin) :
    ∃ (classLines : ClassDef → Sections → List String)
      (methodLines : ClassDef → Method → Int → Bool → List String),
      l.writer = .lines (fun c o => .ok (classLines c o))
        fun c x level standalone => .ok (methodLines c x level standalone) := by
  simp only [builtin, List.mem_cons, List.not_mem_nil, or_false] at hl
  rcases hl with rfl | rfl
  · exact ⟨Java.classLines, Java.methodLines, rfl⟩
  · exact ⟨Dex.classLines, Dex.methodLines, rfl⟩

namespace Language

/-- What binding a renderer of a language, which holds one model, to another one comes to. -/
def binding (l : Language) (held m : Option LoadedModel) : Except Failure Unit :=
  match l.bindFault? held m with
  | some fault => .error fault.failure
  | none => .ok ()

/-- What taking a renderer into use comes to: it is bound and gives its rules. -/
def taking (l : Language) (held m : Option LoadedModel) : Except Failure Unit :=
  match l.binding held m, l.rulesFault? m with
  | .error f, _ => .error f
  | .ok (), some f => .error f
  | .ok (), none => .ok ()

/-- Renderers of the language can be bound and unbound, and give their rules. -/
structure Cooperative (l : Language) : Prop where
  binds : ∀ held m, l.bindFault? held m = none
  givesRules : ∀ m, l.rulesFault? m = none

variable {l : Language} {held m : Option LoadedModel}

theorem binding_of_taking (taken : l.taking held m = .ok ()) : l.binding held m = .ok () := by
  unfold taking at taken
  split at taken
  · cases taken
  · cases taken
  · assumption

theorem rulesFault?_of_taking (taken : l.taking held m = .ok ()) : l.rulesFault? m = none := by
  unfold taking at taken
  split at taken
  · cases taken
  · cases taken
  · assumption

theorem Cooperative.binding (cooperative : l.Cooperative) (held m : Option LoadedModel) :
    l.binding held m = .ok () := by
  simp [Language.binding, cooperative.binds held m]

theorem Cooperative.taking (cooperative : l.Cooperative) (held m : Option LoadedModel) :
    l.taking held m = .ok () := by
  simp [Language.taking, cooperative.binding held m, cooperative.givesRules m]

theorem cooperative_of_builtin (hl : l ∈ builtin) : l.Cooperative := by
  simp only [builtin, List.mem_cons, List.not_mem_nil, or_false] at hl
  rcases hl with rfl | rfl
  · exact ⟨fun _ _ => rfl, fun _ => rfl⟩
  · exact ⟨fun _ _ => rfl, fun _ => rfl⟩

end Language

namespace Renderer

/-! ## Binding -/

variable {r : Renderer} {held m : Option LoadedModel} {id : Option ModelId}

theorem tryBind_fst : (r.tryBind held id m).1 = r.language.binding held m := by
  unfold tryBind Language.binding
  cases r.language.bindFault? held m <;> rfl

/-- Bound or not, a renderer keeps its language. -/
theorem tryBind_language : (r.tryBind held id m).2.language = r.language := by
  unfold tryBind
  repeat' split
  all_goals rfl

theorem tryBind_bound :
    (r.tryBind held id m).2.bound = r.bound ∨ (r.tryBind held id m).2.bound = id := by
  unfold tryBind
  repeat' split
  · exact .inr rfl
  · exact .inr rfl
  · exact .inl rfl

theorem tryBind_eq (binds : r.language.binding held m = .ok ()) :
    r.tryBind held id m = (.ok (), r.bind id) := by
  unfold Language.binding at binds
  unfold tryBind
  cases hfault : r.language.bindFault? held m with
  | none => rfl
  | some fault =>
      rw [hfault] at binds
      cases binds

theorem rules_eq (gives : r.language.rulesFault? m = none) : r.rules m = .ok r.language.rules := by
  simp [rules, gives]

theorem rules_eq_error {f : Failure} (fails : r.language.rulesFault? m = some f) :
    r.rules m = .error f := by
  simp [rules, fails]

/-! ## Looking up and rendering -/

/-- What a renderer is asked for. -/
inductive Question where
  | wholeClass (ref : String) (o : Sections)
  | method (ref key : String) (level : Int) (standalone : Bool)

def Question.ref : Question → String
  | .wholeClass ref _ => ref
  | .method ref _ _ _ => ref

def answer (r : Renderer) (m : Option LoadedModel) : Question → Except Failure String × Renderer
  | .wholeClass ref o => r.renderClass m ref o
  | .method ref key level standalone => r.renderMethod m ref key level standalone

def render (r : Renderer) (now : Option LoadedModel) (o : Sections) :
    Selection → Except Failure String × Renderer
  | .wholeClass c => r.renderClass now c o
  | .method c k => r.renderMethod now c k 0 true
  | .unsupported text => (.error (.unsupportedTarget text), r)

structure SameButKnown (r r' : Renderer) : Prop where
  language : r'.language = r.language
  bound : r'.bound = r.bound

theorem SameButKnown.refl (r : Renderer) : SameButKnown r r := ⟨rfl, rfl⟩

theorem resolveClass_same (r : Renderer) (now : Option LoadedModel) (ref : String) :
    SameButKnown r (r.resolveClass now ref).2 := by
  unfold resolveClass
  repeat' split
  all_goals exact ⟨rfl, rfl⟩

theorem resolveMethod_same (r : Renderer) (now : Option LoadedModel) (ref methodRef : String) :
    SameButKnown r (r.resolveMethod now ref methodRef).2 := by
  have h := r.resolveClass_same now ref
  unfold resolveMethod
  split
  · simp_all
  · split <;> simp_all

theorem answer_same (r : Renderer) (m : Option LoadedModel) (q : Question) :
    SameButKnown r (r.answer m q).2 := by
  cases q with
  | wholeClass ref o =>
      have h := r.resolveClass_same m ref
      simp only [answer, renderClass]
      split
      · exact .refl r
      · split <;> simp_all
  | method ref key level standalone =>
      have h := r.resolveMethod_same m ref key
      simp only [answer, renderMethod]
      split
      · exact .refl r
      · split <;> simp_all

theorem render_same (r : Renderer) (now : Option LoadedModel) (o : Sections) (s : Selection) :
    SameButKnown r (r.render now o s).2 := by
  cases s with
  | wholeClass c => exact r.answer_same now (.wholeClass c o)
  | method c k => exact r.answer_same now (.method c k 0 true)
  | unsupported text => exact .refl r

def KnownIn (r : Renderer) (m : Option LoadedModel) : Prop :=
  ∀ ref c, r.known.lookup ref = some c → ∃ x, m = some x ∧ x.class? ref = .ok (some c)

theorem KnownIn.of_nil {r : Renderer} (h : r.known = []) (m : Option LoadedModel) :
    r.KnownIn m := by
  intro ref c hc
  simp [h] at hc

theorem KnownIn.insert {r : Renderer} {x : LoadedModel} {ref : String} {c : ClassDef}
    (h : r.KnownIn (some x)) (hc : x.class? ref = .ok (some c)) :
    KnownIn { r with known := (ref, c) :: r.known } (some x) := by
  intro ref' c' hc'
  by_cases href : ref' = ref
  · subst href
    have hcc : c = c' := by simpa using hc'
    exact ⟨x, rfl, hcc ▸ hc⟩
  · have hbeq : (ref' == ref) = false := by simpa using href
    simp only [List.lookup_cons, hbeq] at hc'
    exact h ref' c' hc'

/-- Looking a class up gives what a new renderer finds, and what is remembered stays true. -/
theorem KnownIn.resolveClass {r : Renderer} {m : Option LoadedModel} (h : r.KnownIn m)
    (ref : String) :
    (r.resolveClass m ref).1 =
        (Renderer.resolveClass { language := r.language } m ref).1 ∧
      (r.resolveClass m ref).2.KnownIn m := by
  cases m with
  | none => exact ⟨rfl, h⟩
  | some x =>
      cases hk : r.known.lookup ref with
      | some c =>
          obtain ⟨y, hy, hc⟩ := h ref c hk
          cases hy
          simp [Renderer.resolveClass, hk, hc, h]
      | none =>
          cases hc : x.class? ref with
          | error f => simp [Renderer.resolveClass, hk, hc, h]
          | ok found =>
              cases found with
              | none => simp [Renderer.resolveClass, hk, hc, h]
              | some c =>
                  have hinsert := h.insert hc
                  simp only [Renderer.resolveClass, hk, hc, List.lookup_nil]
                  exact ⟨trivial, hinsert⟩

theorem KnownIn.resolveMethod {r : Renderer} {m : Option LoadedModel} (h : r.KnownIn m)
    (ref methodRef : String) :
    (r.resolveMethod m ref methodRef).1 =
        (Renderer.resolveMethod { language := r.language } m ref methodRef).1 ∧
      (r.resolveMethod m ref methodRef).2.KnownIn m := by
  obtain ⟨heq, hknown⟩ := h.resolveClass ref
  rcases hr : r.resolveClass m ref with ⟨outcome, r'⟩
  rcases hn : Renderer.resolveClass { language := r.language } m ref with ⟨outcome', n'⟩
  simp only [hr, hn] at heq hknown
  subst heq
  cases outcome with
  | error f => simp [Renderer.resolveMethod, hr, hn, hknown]
  | ok c =>
      cases hm : c.findMethod? methodRef <;>
        simp [Renderer.resolveMethod, hr, hn, hm, hknown]

/-- A renderer that remembers nothing but classes of its model answers as a new one, and then
still remembers nothing else. -/
theorem KnownIn.answer {r : Renderer} {m : Option LoadedModel} (h : r.KnownIn m) (q : Question) :
    (r.answer m q).1 = (Renderer.answer { language := r.language } m q).1 ∧
      (r.answer m q).2.KnownIn m := by
  cases hw : r.language.writer with
  | texts classText methodText =>
      cases q <;> simp [Renderer.answer, renderClass, renderMethod, hw, h]
  | lines classLines methodLines =>
      cases q with
      | wholeClass ref o =>
          obtain ⟨heq, hknown⟩ := h.resolveClass ref
          rcases hr : r.resolveClass m ref with ⟨outcome, r'⟩
          rcases hn : Renderer.resolveClass { language := r.language } m ref with ⟨outcome', n'⟩
          simp only [hr, hn] at heq hknown
          subst heq
          cases outcome <;> simp [Renderer.answer, renderClass, hw, hr, hn, hknown]
      | method ref key level standalone =>
          obtain ⟨heq, hknown⟩ := h.resolveMethod ref key
          rcases hr : r.resolveMethod m ref key with ⟨outcome, r'⟩
          rcases hn : Renderer.resolveMethod { language := r.language } m ref key with
            ⟨outcome', n'⟩
          simp only [hr, hn] at heq hknown
          subst heq
          cases outcome <;> simp [Renderer.answer, renderMethod, hw, hr, hn, hknown]

/-- Bound to a model that is `now`, the renderer renders as a new one does for `m`. -/
def RendersFor (r : Renderer) (now m : Option LoadedModel) : Prop :=
  match r.language.writer with
  | .lines .. => now = m ∧ r.KnownIn m
  | .texts classText methodText =>
    classText now = classText m ∧ ∀ c k, methodText now c k 0 true = methodText m c k 0 true

theorem RendersFor.of_known_nil {r : Renderer} (h : r.known = []) (m : Option LoadedModel) :
    r.RendersFor m m := by
  unfold RendersFor
  split
  · exact ⟨rfl, .of_nil h m⟩
  · exact ⟨rfl, fun _ _ => rfl⟩

theorem RendersFor.of_same {r r' : Renderer} {m : Option LoadedModel} (h : r.RendersFor m m)
    (same : SameButKnown r r') (known : r.KnownIn m → r'.KnownIn m) : r'.RendersFor m m := by
  unfold RendersFor at h ⊢
  rw [same.language]
  split
  · next hw =>
    simp only [hw] at h
    exact ⟨rfl, known h.2⟩
  · exact ⟨rfl, fun _ _ => rfl⟩

end Renderer

/-- What a renderer of the language renders that has rendered nothing before. -/
def Language.textOf (l : Language) (m : Option LoadedModel) (o : Sections) (s : Selection) :
    Except Failure String :=
  (Renderer.render { language := l } m o s).1

namespace Renderer

theorem RendersFor.wholeClass {r : Renderer} {now m : Option LoadedModel}
    (h : r.RendersFor now m) (o : Sections) (c : String) :
    (r.renderClass now c o).1 = r.language.textOf m o (.wholeClass c) ∧
      (r.renderClass now c o).2.RendersFor now m := by
  cases hw : r.language.writer with
  | texts classText methodText =>
      have hsame := h
      simp only [RendersFor, hw] at hsame
      simp [renderClass, Language.textOf, render, hw, hsame.1, h]
  | lines classLines methodLines =>
      have hlines := h
      simp only [RendersFor, hw] at hlines
      obtain ⟨rfl, hknown⟩ := hlines
      obtain ⟨heq, hknown'⟩ := hknown.answer (.wholeClass c o)
      exact ⟨heq, h.of_same (r.answer_same now (.wholeClass c o)) fun _ => hknown'⟩

theorem RendersFor.method {r : Renderer} {now m : Option LoadedModel}
    (h : r.RendersFor now m) (o : Sections) (c k : String) :
    (r.renderMethod now c k 0 true).1 = r.language.textOf m o (.method c k) ∧
      (r.renderMethod now c k 0 true).2.RendersFor now m := by
  cases hw : r.language.writer with
  | texts classText methodText =>
      have hsame := h
      simp only [RendersFor, hw] at hsame
      simp [renderMethod, Language.textOf, render, hw, hsame.2, h]
  | lines classLines methodLines =>
      have hlines := h
      simp only [RendersFor, hw] at hlines
      obtain ⟨rfl, hknown⟩ := hlines
      obtain ⟨heq, hknown'⟩ := hknown.answer (.method c k 0 true)
      exact ⟨heq, h.of_same (r.answer_same now (.method c k 0 true)) fun _ => hknown'⟩

/-- One rendering gives the text of a new renderer and leaves the renderer as good as new. -/
theorem RendersFor.render {r : Renderer} {now m : Option LoadedModel}
    (h : r.RendersFor now m) (o : Sections) (s : Selection) :
    (r.render now o s).1 = r.language.textOf m o s ∧ (r.render now o s).2.RendersFor now m := by
  cases s with
  | wholeClass c => exact h.wholeClass o c
  | method c k => exact h.method o c k
  | unsupported text => exact ⟨rfl, h⟩

end Renderer

end BytecodeViewer
