import BytecodeViewer.Proofs.Render.LookUp

/-!
# Renderers that are bound again and again

A renderer is bound to one model after another, or to none, and is asked for classes and methods in
between.  What it remembers never shows: it answers as if it were made anew for each question, as
long as a model keeps its classes while it is bound.
-/

namespace BytecodeViewer

namespace Renderer

open Question

/-- What happens one after another: the renderer is bound or asked, or models become others. -/
inductive Event where
  | bind (model : Option ModelId)
  | ask (q : Question)
  | change (models : ModelId → LoadedModel)

/-- The answers of a renderer to the questions among some events. -/
def answers (r : Renderer) (models : ModelId → LoadedModel) :
    List Event → List (Except Failure String)
  | [] => []
  | .bind model :: events => (r.bind model).answers models events
  | .ask q :: events =>
    let (outcome, r') := r.answer (r.bound.map models) q
    outcome :: r'.answers models events
  | .change models' :: events => r.answers models' events

/-- The answers of renderers that are made anew for each question, and bound only to the model
that has been bound last. -/
def freshAnswers (l : Language) (bound : Option ModelId) (models : ModelId → LoadedModel) :
    List Event → List (Except Failure String)
  | [] => []
  | .bind model :: events => freshAnswers l model models events
  | .ask q :: events =>
    ((bind { language := l } bound).answer (bound.map models) q).1 ::
      freshAnswers l bound models events
  | .change models' :: events => freshAnswers l bound models' events

/-- A model keeps its classes while it is bound. -/
def Steady (bound : Option ModelId) (models : ModelId → LoadedModel) : List Event → Prop
  | [] => True
  | .bind model :: events => Steady model models events
  | .ask _ :: events => Steady bound models events
  | .change models' :: events =>
    (∀ id ∈ bound, (models' id).class? = (models id).class?) ∧ Steady bound models' events

variable {r : Renderer} {l : Language} {m : Option LoadedModel}

/-! ## Single questions -/

theorem KnownIn.answer_eq {r' : Renderer} (h : r.KnownIn m) (h' : r'.KnownIn m)
    (same : r.language = r'.language) (q : Question) : (r.answer m q).1 = (r'.answer m q).1 := by
  rw [(h.answer q).1, (h'.answer q).1, same]

theorem KnownIn.change {bound : Option ModelId} {models models' : ModelId → LoadedModel}
    (h : r.KnownIn (bound.map models))
    (kept : ∀ id ∈ bound, (models' id).class? = (models id).class?) :
    r.KnownIn (bound.map models') := by
  intro ref c hc
  obtain ⟨x, hx, hclass⟩ := h ref c hc
  obtain ⟨id, hid, rfl⟩ := Option.map_eq_some_iff.mp hx
  exact ⟨models' id, by rw [hid]; rfl, by rw [kept id hid]; exact hclass⟩

/-! ## Questions that are refused -/

/-- Why there is no text: no model is bound, the model itself fails, or it does not have the class
or the class not the method. -/
inductive Refused (l : Language) : Option LoadedModel → Question → Failure → Prop
  | unbound {q : Question} : Refused l none q (.unboundRenderer l.name)
  | failed {x : LoadedModel} {q : Question} {f : Failure} (hclass : x.class? q.ref = .error f) :
      Refused l (some x) q f
  | noClass {x : LoadedModel} {q : Question} (hclass : x.class? q.ref = .ok none) :
      Refused l (some x) q (.noClass q.ref l.name)
  | noMethod {x : LoadedModel} {c : ClassDef} {ref key : String} {level : Int} {standalone : Bool}
      (hclass : x.class? ref = .ok (some c)) (hmethod : c.findMethod? key = none) :
      Refused l (some x) (method ref key level standalone) (.noMethod ref key l.name)

theorem Refused.kind_of_unbound {q : Question} {f : Failure} (h : Refused l none q f) :
    f.kind = "RuntimeError" := by
  cases h
  rfl

theorem Refused.kind_of_bound {x : LoadedModel} {q : Question} {f : Failure}
    (h : Refused l (some x) q f) :
    x.class? q.ref = .error f ∨ f.kind = "UnresolvedReference" := by
  cases h with
  | failed hclass => exact .inl hclass
  | noClass => exact .inr rfl
  | noMethod => exact .inr rfl

section Written

variable {classLines : ClassDef → Sections → List String}
  {methodLines : ClassDef → Method → Int → Bool → List String}
  (hw : r.language.writer = .lines (fun c o => .ok (classLines c o))
    fun c x level standalone => .ok (methodLines c x level standalone))

include hw

theorem answer_none (q : Question) :
    (r.answer none q).1 = .error (.unboundRenderer r.language.name) := by
  cases q <;> simp [answer, renderClass, renderMethod, resolveClass, resolveMethod, hw]

theorem KnownIn.answer_some {x : LoadedModel} (h : r.KnownIn (some x)) (q : Question) :
    (r.answer (some x) q).1 = match x.class? q.ref with
      | .error f => .error f
      | .ok none => .error (.noClass q.ref r.language.name)
      | .ok (some c) =>
        match q with
        | wholeClass _ o => .ok (joinLines (classLines c o))
        | method ref key level standalone =>
          match c.findMethod? key with
          | some k => .ok (joinLines (methodLines c k level standalone))
          | none => .error (.noMethod ref key r.language.name) := by
  cases q with
  | wholeClass ref o =>
      have hfound := h.resolveClass_eq ref
      rcases hr : r.resolveClass (some x) ref with ⟨outcome, r'⟩
      rw [hr] at hfound
      simp only at hfound
      subst hfound
      simp only [Renderer.answer, renderClass, hw, hr, Question.ref]
      rcases x.class? ref with f | _ | c <;> rfl
  | method ref key level standalone =>
      have hfound := h.resolveMethod_eq ref key
      rcases hr : r.resolveMethod (some x) ref key with ⟨outcome, r'⟩
      rw [hr] at hfound
      simp only at hfound
      subst hfound
      simp only [Renderer.answer, renderMethod, hw, hr, Question.ref]
      rcases x.class? ref with f | _ | c
      · rfl
      · rfl
      · cases hmethod : c.findMethod? key <;> simp [hmethod, Except.map]

end Written

theorem KnownIn.answer_eq_error_iff (hl : r.language ∈ Language.builtin) (h : r.KnownIn m)
    (q : Question) (f : Failure) :
    (r.answer m q).1 = .error f ↔ Refused r.language m q f := by
  obtain ⟨classLines, methodLines, hw⟩ := Language.exists_lines hl
  cases m with
  | none =>
      rw [answer_none hw]
      constructor
      · rintro ⟨⟩
        exact .unbound
      · rintro ⟨⟩
        rfl
  | some x =>
      rw [h.answer_some hw]
      constructor
      · intro hf
        split at hf
        · next hclass =>
          cases hf
          exact .failed hclass
        · next hclass =>
          cases hf
          exact .noClass hclass
        · next hclass =>
          split at hf
          · cases hf
          · split at hf
            · cases hf
            · next hmethod =>
              cases hf
              exact .noMethod hclass hmethod
      · intro hrefused
        cases hrefused with
        | failed hclass => rw [hclass]
        | noClass hclass => rw [hclass]
        | noMethod hclass hmethod => simp only [Question.ref, hclass, hmethod]

/-! ## Questions one after another -/

theorem KnownIn.answers_eq {bound : Option ModelId} {models : ModelId → LoadedModel}
    {events : List Event} (hlanguage : r.language = l) (hbound : r.bound = bound)
    (h : r.KnownIn (bound.map models)) (steady : Steady bound models events) :
    r.answers models events = freshAnswers l bound models events := by
  induction events generalizing r bound models with
  | nil => rfl
  | cons event events ih =>
      cases event with
      | bind model => exact ih (r := r.bind model) hlanguage rfl (.of_nil rfl _) steady
      | ask q =>
          subst hlanguage hbound
          have same := r.answer_same (r.bound.map models) q
          have hfresh : KnownIn (bind { language := r.language } r.bound) (r.bound.map models) :=
            .of_nil rfl _
          have hanswer := h.answer_eq hfresh rfl q
          have hrest := ih same.language same.bound (h.answer q).2 steady
          simp only [answers, freshAnswers, hanswer, hrest]
      | change models' => exact ih hlanguage hbound (h.change steady.1) steady.2

/-- However a renderer is bound and asked, it answers each question as one that is made anew and
bound only to the model that has been bound last.  Without a model it fails, and with one it fails
for the classes and methods that the model does not have. -/
theorem answers_eq_fresh (hl : l ∈ Language.builtin) {models : ModelId → LoadedModel}
    {events : List Event} (steady : Steady none models events) :
    answers { language := l } models events = freshAnswers l none models events ∧
      (∀ bound now q f, ((bind { language := l } bound).answer (bound.map now) q).1 = .error f ↔
        Refused l (bound.map now) q f) ∧
      (∀ q f, Refused l none q f → f.kind = "RuntimeError") ∧
      ∀ x q f, Refused l (some x) q f →
        x.class? q.ref = .error f ∨ f.kind = "UnresolvedReference" := by
  refine ⟨KnownIn.answers_eq rfl rfl (.of_nil rfl _) steady, fun bound now q f => ?_,
    fun q f h => h.kind_of_unbound, fun x q f h => h.kind_of_bound⟩
  have known : KnownIn (bind { language := l } bound) (bound.map now) := .of_nil rfl _
  exact known.answer_eq_error_iff hl q f

/-! ## A class of two models -/

/-- A model of one class, which extends another one. -/
def extending (superclass : String) : LoadedModel where
  model := .ofClasses [{ name := "A", superclass := some superclass }]

def extendingModels (others : String) : ModelId → LoadedModel
  | 0 => extending "B"
  | _ => extending others

/-- Both models are bound one after the other.  The second one becomes another before. -/
def reboundEvents : List Event :=
  [.ask (wholeClass "A" (.ofSection .details)), .bind (some 0),
    .ask (wholeClass "A" (.ofSection .details)), .change (extendingModels "D"),
    .ask (method "A" "f()" 0 true), .bind (some 1), .ask (wholeClass "A" (.ofSection .details)),
    .bind none, .ask (wholeClass "A" (.ofSection .details))]

theorem answers_eq_fresh_rebound :
    Language.dex ∈ Language.builtin ∧ Steady none (extendingModels "C") reboundEvents ∧
      answers { language := .dex } (extendingModels "C") reboundEvents =
        freshAnswers .dex none (extendingModels "C") reboundEvents ∧
      (answers { language := .dex } (extendingModels "C") reboundEvents).map Except.toOption =
        [none, some ".super LB;\n", none, some ".super LD;\n", none] := by
  have hdex : Language.dex ∈ Language.builtin := by simp [Language.builtin]
  have steady : Steady none (extendingModels "C") reboundEvents := by
    refine ⟨fun id hid => ?_, trivial⟩
    cases hid
    rfl
  exact ⟨hdex, steady, (answers_eq_fresh hdex steady).1, by decide +kernel⟩

end Renderer

end BytecodeViewer
