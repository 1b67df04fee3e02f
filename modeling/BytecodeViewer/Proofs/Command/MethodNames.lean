import BytecodeViewer.Proofs.Bytecode.Descriptor
import BytecodeViewer.Proofs.Command.Requests
import BytecodeViewer.Proofs.Session.MethodNodes
import BytecodeViewer.Proofs.Text.FreeOf

/-!
# Methods by their names

Names and keys are texts alike, but each key holds the parenthesis in front of the parameters, and
no name of a method is to hold one.  So a key shows the name that it begins with, and a bare name is
never taken for a key.  A name leads to a method exactly if no other method of the class has it.
-/

namespace BytecodeViewer

open Text (FreeOf)

/-! ## Names in keys -/

namespace Method

variable {x y : Method}

theorem toList_key (x : Method) : x.key.toList = x.name.toList ++
    '(' :: (String.intercalate "," (x.parameters.map (·.typeName)) ++ ")").toList := by
  simp [key, String.toList_append]

/-- A key shows the name of its method, unless names hold parentheses too. -/
theorem name_eq_of_key_eq (hx : FreeOf '(' x.name) (hy : FreeOf '(' y.name)
    (hkey : x.key = y.key) : x.name = y.name := by
  rw [← String.toList_inj, toList_key, toList_key] at hkey
  have before {z : Method} (hz : FreeOf '(' z.name) : ∀ d ∈ z.name.toList, d ≠ '(' := by
    rintro d hd rfl
    exact hz hd
  obtain ⟨hname, -, -⟩ := append_cons_inj (before hx) (before hy) (by simp) (by simp) hkey
  exact String.toList_inj.mp hname

end Method

namespace ClassDef

variable {c : ClassDef} {name : String} {x : Method}

/-- The methods of a name, in the order of their declaration. -/
def named (c : ClassDef) (name : String) : List Method :=
  c.methods.filter (·.name == name)

theorem mem_named : x ∈ c.named name ↔ x ∈ c.methods ∧ x.name = name := by
  rw [named, List.mem_filter, beq_iff_eq]

/-- The key of the only method of a name finds no other method. -/
theorem findMethod?_of_named (bare : ∀ x ∈ c.methods, FreeOf '(' x.name)
    (alone : c.named name = [x]) : c.findMethod? x.key = some x := by
  have hx : x ∈ c.named name := by simp [alone]
  obtain ⟨hmem, hname⟩ := mem_named.mp hx
  obtain ⟨k, hfound, hk, hkey⟩ := exists_findMethod? hmem
  have hkname := Method.name_eq_of_key_eq (bare k hk) (bare x hmem) hkey
  have hknamed : k ∈ c.named name := mem_named.mpr ⟨hk, hkname.trans hname⟩
  rw [alone, List.mem_singleton] at hknamed
  rw [hfound, hknamed]

/-- A text without a parenthesis is the key of no method. -/
theorem findMethod?_of_bare (hname : FreeOf '(' name) : c.findMethod? name = none := by
  rw [← Option.not_isSome_iff_eq_none, isSome_findMethod?_iff]
  rintro ⟨x, -, rfl⟩
  exact hname x.paren_mem_key

end ClassDef

/-! ## Renderers of a model -/

namespace Renderer

/-- A renderer that is bound to a model, whatever it has rendered since. -/
def Serves (r : Renderer) (m : LoadedModel) : Prop :=
  ∃ (start : Renderer) (id : ModelId) (uses : List (Sections × Selection)),
    r = (start.bind (some id)).used (some m) uses

theorem Serves.knownIn {r : Renderer} {m : LoadedModel} (serves : r.Serves m) :
    r.KnownIn (some m) := by
  obtain ⟨start, id, uses, rfl⟩ := serves
  exact knownIn_used_bind start (some id) (some m) uses

end Renderer

namespace LoadedModel

variable {m : LoadedModel} {c : ClassDef} {x : Method} {ref key name : String}

/-- Every renderer of the model finds this method of this class. -/
def LeadsTo (m : LoadedModel) (ref key : String) (c : ClassDef) (x : Method) : Prop :=
  ∀ r : Renderer, r.Serves m → (r.resolveMethod (some m) ref key).1 = .ok (c, x)

/-- No renderer of the model finds a method, and to render it is refused. -/
def LeadsNowhere (m : LoadedModel) (ref key : String) : Prop :=
  ∀ r : Renderer, r.Serves m → ∃ f : Failure, f.kind = "UnresolvedReference" ∧
    (r.resolveMethod (some m) ref key).1 = .error f ∧
    ∀ classLines methodLines, r.language.writer = .lines classLines methodLines →
      ∀ level standalone, (r.renderMethod (some m) ref key level standalone).1 = .error f

theorem leadsTo_of_findMethod? (known : m.class? ref = .ok (some c))
    (found : c.findMethod? key = some x) : m.LeadsTo ref key c x := by
  intro r serves
  rw [serves.knownIn.resolveMethod_eq, known]
  simp only [found]

theorem leadsNowhere_of_findMethod? (known : m.class? ref = .ok (some c))
    (missing : c.findMethod? key = none) : m.LeadsNowhere ref key := by
  intro r serves
  have hresolve : (r.resolveMethod (some m) ref key).1 =
      .error (.noMethod ref key r.language.name) := by
    rw [serves.knownIn.resolveMethod_eq, known]
    simp only [missing]
  refine ⟨_, rfl, hresolve, ?_⟩
  intro classLines methodLines hwriter level standalone
  rcases hr : r.resolveMethod (some m) ref key with ⟨outcome, r'⟩
  rw [hr] at hresolve
  simp only at hresolve
  subst hresolve
  simp only [Renderer.renderMethod, hwriter, hr]

/-! ## What a name leads to -/

theorem methodKey_bare (known : m.class? ref = .ok (some c)) (hname : FreeOf '(' name) :
    m.methodKey ref name = match (c.named name).map (·.key) with
      | [] => .ok name
      | [key] => .ok key
      | keys => .error (.ambiguousMethod ref name keys) := by
  have hnone : '(' ∉ name.toList := hname
  simp only [methodKey, known, bind, Except.bind, hnone, ClassDef.named]
  rfl

/-- A name is refused exactly if several methods have it, with the keys of all of them. -/
theorem methodKey_eq_error_iff (known : m.class? ref = .ok (some c)) (hname : FreeOf '(' name)
    (f : Failure) : m.methodKey ref name = .error f ↔ 2 ≤ (c.named name).length ∧
      f = .ambiguousMethod ref name ((c.named name).map (·.key)) := by
  rw [methodKey_bare known hname]
  match c.named name with
  | [] => simp
  | [x] => simp
  | x :: y :: rest => simp [eq_comm]

/-- How the texts that can stand for methods of a class are understood. -/
structure ResolvesMethods (m : LoadedModel) (ref : String) (c : ClassDef) : Prop where
  /-- A name is refused if several methods have it, and only then. -/
  ambiguous : ∀ name, FreeOf '(' name → ∀ f, m.methodKey ref name = .error f ↔
    2 ≤ (c.named name).length ∧ f = .ambiguousMethod ref name ((c.named name).map (·.key))
  told : ∀ name, FreeOf '(' name → ∀ f, m.methodKey ref name = .error f →
    f.kind = "UnresolvedReference" ∧ f.message = "Method name '" ++ name ++ "' is ambiguous: " ++
      String.intercalate ", " ((c.named name).map (·.key))
  single : ∀ name, FreeOf '(' name → ∀ x, c.named name = [x] →
    ∃ key, m.methodKey ref name = .ok key ∧ m.LeadsTo ref key c x
  missing : ∀ name, FreeOf '(' name → c.named name = [] →
    ∃ key, m.methodKey ref name = .ok key ∧ m.LeadsNowhere ref key
  /-- A key is understood as itself, and leads to a method that has it. -/
  keys : ∀ x ∈ c.methods, ∃ key k, m.methodKey ref x.key = .ok key ∧
    m.LeadsTo ref key c k ∧ m.LeadsTo ref x.key c k ∧
    k ∈ c.methods ∧ k.key = x.key ∧ k.name = x.name

/-- In a class of a model whose methods have names without parentheses, names and keys lead to the
methods that have them, and to no others. -/
theorem methods_resolve {classes : List ClassDef} {disposals : Nat}
    (known : (inMemory classes disposals).class? ref = .ok (some c))
    (bare : ∀ x ∈ c.methods, FreeOf '(' x.name) :
    (inMemory classes disposals).ResolvesMethods ref c where
  ambiguous name hname f := methodKey_eq_error_iff known hname f
  told name hname f hf := by
    obtain ⟨-, rfl⟩ := (methodKey_eq_error_iff known hname f).mp hf
    exact ⟨rfl, rfl⟩
  single name hname x alone := by
    have hkey := methodKey_bare known hname
    rw [alone] at hkey
    refine ⟨x.key, hkey, ?_⟩
    apply leadsTo_of_findMethod? known
    exact ClassDef.findMethod?_of_named bare alone
  missing name hname none := by
    have hkey := methodKey_bare known hname
    rw [none] at hkey
    refine ⟨name, hkey, ?_⟩
    apply leadsNowhere_of_findMethod? known
    exact ClassDef.findMethod?_of_bare hname
  keys x hx := by
    obtain ⟨k, hfound, hk, hkey⟩ := ClassDef.exists_findMethod? hx
    have leads := leadsTo_of_findMethod? known hfound
    have hname := Method.name_eq_of_key_eq (bare k hk) (bare x hx) hkey
    have hc : c.name = ref := name_of_class?_inMemory known
    subst hc
    exact ⟨x.key, k, methodKey_key known x, leads, leads, hk, hkey, hname⟩

/-- A class with two methods of one name and one of another name. -/
def overloadedClass : ClassDef where
  name := "A"
  methods := [{ name := "f", parameters := [{ typeName := "int" }] }, { name := "g" },
    { name := "f" }]

theorem methods_resolve_overloaded :
    (inMemory [overloadedClass] 0).class? "A" = .ok (some overloadedClass) ∧
      (∀ x ∈ overloadedClass.methods, FreeOf '(' x.name) ∧
      (inMemory [overloadedClass] 0).methodKey "A" "f" =
        .error (.ambiguousMethod "A" "f" ["f(int)", "f()"]) ∧
      (∃ key, (inMemory [overloadedClass] 0).methodKey "A" "g" = .ok key ∧
        (inMemory [overloadedClass] 0).LeadsTo "A" key overloadedClass { name := "g" }) ∧
      (∃ key, (inMemory [overloadedClass] 0).methodKey "A" "h" = .ok key ∧
        (inMemory [overloadedClass] 0).LeadsNowhere "A" key) ∧
      ∃ key, (inMemory [overloadedClass] 0).methodKey "A" "f()" = .ok key ∧
        (inMemory [overloadedClass] 0).LeadsTo "A" key overloadedClass { name := "f" } := by
  have known : (inMemory [overloadedClass] 0).class? "A" = .ok (some overloadedClass) := rfl
  have bare : ∀ x ∈ overloadedClass.methods, FreeOf '(' x.name := by decide +kernel
  have resolves := methods_resolve known bare
  have hkeys : (overloadedClass.named "f").map (·.key) = ["f(int)", "f()"] := by decide +kernel
  have onlyKey : ∀ k ∈ overloadedClass.methods, k.key = "f()" → k = { name := "f" } := by
    decide +kernel
  obtain ⟨key, k, hkey, leads, -, hk, hkkey, -⟩ :=
    resolves.keys { name := "f" } (by decide +kernel)
  obtain rfl := onlyKey k hk (by rw [hkkey]; decide +kernel)
  refine ⟨known, bare, ?_, ?_, ?_, key, hkey, leads⟩
  · rw [← hkeys]
    exact (resolves.ambiguous "f" (by decide) _).mpr ⟨by decide +kernel, rfl⟩
  · exact resolves.single "g" (by decide) _ (by decide +kernel)
  · exact resolves.missing "h" (by decide) (by decide +kernel)

end LoadedModel

end BytecodeViewer
