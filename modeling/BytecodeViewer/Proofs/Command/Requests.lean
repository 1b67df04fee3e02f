import BytecodeViewer.Command.Shell
import BytecodeViewer.Proofs.Session.Nodes

/-!
# What a request asks for

Every class and method of a tree can be asked for: a class by its name, and a method by its key.
The name of a method does as well, unless other methods of the class have it or it reads as a key
or as no method.
-/

namespace BytecodeViewer

namespace TreeNode

variable {m : LoadedModel} {classes : List ClassDef} {c : ClassDef} {node : TreeNode}

theorem mem_of_mapM {α β : Type} {f : α → Except Failure β} {items : List α} {results : List β}
    {y : β} (hmap : items.mapM f = .ok results) (hy : y ∈ results) : ∃ x ∈ items, f x = .ok y := by
  induction items generalizing results with
  | nil =>
      cases hmap
      cases hy
  | cons x items ih =>
      rw [List.mapM_cons] at hmap
      cases hx : f x with
      | error g => simp [hx, bind, Except.bind] at hmap
      | ok first =>
          cases hrest : items.mapM f with
          | error g => simp [hx, hrest, bind, Except.bind] at hmap
          | ok others =>
              simp only [hx, hrest, bind, Except.bind, pure, Except.pure] at hmap
              cases hmap
              rcases List.mem_cons.mp hy with rfl | hlater
              · exact ⟨x, List.mem_cons_self, hx⟩
              · obtain ⟨z, hz, hfz⟩ := ih hrest hlater
                exact ⟨z, List.mem_cons_of_mem _ hz, hfz⟩

/-- The classes of a tree are known by their names. -/
theorem class?_of_listed (byName : m.ListsByName) (hlisted : listedClasses m = .ok classes)
    (hc : c ∈ classes) : m.class? c.name = .ok (some c) := by
  unfold listedClasses at hlisted
  cases hnames : m.names with
  | error f => simp [hnames, bind, Except.bind] at hlisted
  | ok names =>
      cases hfound : (sortNames names).mapM m.class? with
      | error f => simp [hnames, hfound, bind, Except.bind] at hlisted
      | ok found =>
          simp only [hnames, hfound, bind, Except.bind, pure, Except.pure] at hlisted
          cases hlisted
          obtain ⟨known, hknown, hsome⟩ := List.mem_filterMap.mp hc
          obtain ⟨name, hname, hclass⟩ := mem_of_mapM hfound hknown
          rw [show known = some c from hsome] at hclass
          rw [byName names name c hnames (mem_sortNames.mp hname) hclass]
          exact hclass

end TreeNode

namespace RenderRequest

open TreeNode (ofClass ofMethod walkAll)

variable {r : RenderRequest} {c : ClassDef} {m : LoadedModel} {node : TreeNode}

/-- A request leaves language and sections to the settings. -/
structure Plain (r : RenderRequest) : Prop where
  language : r.language = none
  switches : ∀ switch ∈ r.switches, switch.2 = none

/-- A request asks for what a node of a class stands for. -/
inductive AsksFor (r : RenderRequest) (c : ClassDef) : TreeNode → Prop
  | wholeClass (classRef : r.classRef = c.name) (method : r.method = none) :
      AsksFor r c (ofClass c)
  | key {x : Method} (mem : x ∈ c.methods) (classRef : r.classRef = c.name)
      (method : r.method = some x.key) : AsksFor r c (ofMethod c x)
  | name {x : Method} (alone : c.methods.filter (·.name == x.name) = [x])
      (classRef : r.classRef = c.name) (method : r.method = some x.name)
      (nonempty : x.name ≠ "") (bare : '(' ∉ x.name.toList) : AsksFor r c (ofMethod c x)

/-- A request asks for a node of the tree of a model. -/
def AsksIn (r : RenderRequest) (m : LoadedModel) (node : TreeNode) : Prop :=
  ∃ classes c, TreeNode.listedClasses m = .ok classes ∧ c ∈ classes ∧ r.AsksFor c node

theorem AsksIn.mem_tree (asks : r.AsksIn m node) :
    ∃ roots, TreeNode.ofModel m = .ok roots ∧ node ∈ walkAll roots := by
  obtain ⟨classes, c, hlisted, hc, asks⟩ := asks
  refine ⟨TreeNode.ofClasses classes, by rw [TreeNode.ofModel, hlisted]; rfl, ?_⟩
  refine TreeNode.mem_walkAll_ofClasses.mpr (.inr ⟨c, hc, TreeNode.mem_walk_ofClass.mpr ?_⟩)
  cases asks with
  | wholeClass => exact .inl rfl
  | key mem => exact .inr ⟨_, mem, rfl⟩
  | @name x alone =>
      have hmem : x ∈ c.methods.filter (·.name == x.name) := by simp [alone]
      exact .inr ⟨x, (List.mem_filter.mp hmem).1, rfl⟩

/-- Every class and method of a tree can be asked for. -/
theorem exists_asksIn {roots : List TreeNode} {s : Selection}
    (htree : TreeNode.ofModel m = .ok roots) (hnode : node ∈ walkAll roots)
    (hselection : node.selection? = some s) : ∃ r : RenderRequest, r.Plain ∧ r.AsksIn m node := by
  cases hlisted : TreeNode.listedClasses m with
  | error f => simp [TreeNode.ofModel, hlisted, Except.map] at htree
  | ok classes =>
      simp only [TreeNode.ofModel, hlisted, Except.map] at htree
      cases htree
      rcases TreeNode.mem_walkAll_ofClasses.mp hnode with ⟨package, -, rfl⟩ | ⟨c, hc, hbelow⟩
      · cases hselection
      · rcases TreeNode.mem_walk_ofClass.mp hbelow with rfl | ⟨x, hx, rfl⟩
        · exact ⟨{ classRef := c.name }, ⟨rfl, nofun⟩, classes, c, hlisted, hc, .wholeClass rfl rfl⟩
        · exact ⟨{ classRef := c.name, method := some x.key }, ⟨rfl, nofun⟩, classes, c, hlisted,
            hc, .key hx rfl rfl⟩

end RenderRequest

theorem Method.paren_mem_key (x : Method) : '(' ∈ x.key.toList := by
  simp [Method.key]

theorem Method.key_ne_empty (x : Method) : x.key ≠ "" := by
  intro hempty
  have hmem := x.paren_mem_key
  simp [hempty] at hmem

namespace LoadedModel

variable {m : LoadedModel} {c : ClassDef} {x : Method}

theorem methodKey_key (known : m.class? c.name = .ok (some c)) (x : Method) :
    m.methodKey c.name x.key = .ok x.key := by
  simp [methodKey, known, x.paren_mem_key, bind, Except.bind, pure, Except.pure]

theorem methodKey_name (known : m.class? c.name = .ok (some c))
    (alone : c.methods.filter (·.name == x.name) = [x]) (bare : '(' ∉ x.name.toList) :
    m.methodKey c.name x.name = .ok x.key := by
  simp [methodKey, known, alone, bare, bind, Except.bind, pure, Except.pure]

end LoadedModel

/-- What is selected for a request is what the node stands for. -/
theorem Shell.selectionOf_asksIn {r : RenderRequest} {m : LoadedModel} {node : TreeNode}
    (byName : m.ListsByName) (asks : r.AsksIn m node) :
    ∃ s, node.selection? = some s ∧ selectionOf r m = .ok s := by
  obtain ⟨classes, c, hlisted, hc, asks⟩ := asks
  have known := TreeNode.class?_of_listed byName hlisted hc
  cases asks with
  | wholeClass classRef method =>
      exact ⟨.wholeClass c.name, rfl, by simp [selectionOf, classRef, method, pure, Except.pure]⟩
  | @key x mem classRef method =>
      refine ⟨.method c.name x.key, rfl, ?_⟩
      simp [selectionOf, classRef, method, Option.filter, x.key_ne_empty,
        LoadedModel.methodKey_key known, bind, Except.bind, pure, Except.pure]
  | @name x alone classRef method nonempty bare =>
      refine ⟨.method c.name x.key, rfl, ?_⟩
      simp [selectionOf, classRef, method, Option.filter, nonempty,
        LoadedModel.methodKey_name known alone bare, bind, Except.bind, pure, Except.pure]

theorem Sections.toggleAll_of_none {switches : List (Sections × Option Bool)}
    (unset : ∀ switch ∈ switches, switch.2 = Option.none) (base : Sections) :
    base.toggleAll switches = base := by
  induction switches generalizing base with
  | nil => rfl
  | cons first switches ih =>
      have hfirst : first.2 = Option.none := unset first List.mem_cons_self
      have htoggle : base.toggle first.1 first.2 = base := by rw [hfirst]; rfl
      have hrest : base.toggleAll (first :: switches) =
          (base.toggle first.1 first.2).toggleAll switches := rfl
      rw [hrest, htoggle]
      exact ih (fun switch hlater => unset switch (List.mem_cons_of_mem _ hlater)) base

end BytecodeViewer
