import BytecodeViewer.Proofs.Session.Filtering

/-!
# Several filters

A forest that is filtered by several texts one after the other keeps what they keep together.
So neither their order nor a text that comes again makes a difference.
-/

namespace BytecodeViewer.TreeNode

variable {node : TreeNode} {nodes below : List TreeNode} {needles needles' more : List String}

/-! ## Several texts at once -/

/-- The node with other nodes below it, if there are any. -/
def withChildren? (node : TreeNode) (below : List TreeNode) : Option TreeNode :=
  if below.isEmpty then none else some (node.withChildren below)

/-- Whether each text is in the name of the class that a node refers to. -/
def isNamedBy (needles : List String) (node : TreeNode) : Bool :=
  needles.all fun needle => matchesLower needle (node.classRef.getD "")

/-- Whether each text is in the name of a class or in the key of a method below it. -/
def holdsEach (needles : List String) (node child : TreeNode) : Bool :=
  needles.all fun needle =>
    matchesLower needle (node.classRef.getD "") || matchesLower needle child.label

/-- A class stays as it is if its name holds all the texts, else with the methods that hold
those that its name does not. -/
def narrowClass (needles : List String) (node : TreeNode) : Option TreeNode :=
  if node.isNamedBy needles then some node
  else node.withChildren? (node.children.filter (node.holdsEach needles))

def narrowPackage (needles : List String) (node : TreeNode) : Option TreeNode :=
  node.withChildren? (node.children.filterMap (narrowClass needles))

/-- What some texts keep together of a forest, all of it if there are none. -/
def narrow (needles : List String) (nodes : List TreeNode) : List TreeNode :=
  if needles = [] then nodes else nodes.filterMap (narrowPackage needles)

/-- Texts as they are looked for: in lower case, and the empty one not at all. -/
def needlesOf (texts : List String) : List String :=
  (texts.filter (· != "")).map Text.lower

/-! ## Texts after other texts -/

theorem withChildren?_of_ne_nil (h : below ≠ []) :
    node.withChildren? below = some (node.withChildren below) :=
  if_neg (mt List.isEmpty_iff.mp h)

/-- A step from a node over some nodes leads to the node over what is left of them. -/
theorem withChildren?_bind {step : TreeNode → Option TreeNode} {left : List TreeNode}
    (hnone : below = [] → left = [])
    (hsome : below ≠ [] → step (node.withChildren below) = node.withChildren? left) :
    (node.withChildren? below).bind step = node.withChildren? left := by
  by_cases h : below = []
  · rw [h, hnone h]
    rfl
  · rw [withChildren?_of_ne_nil h, Option.bind_some, hsome h]

theorem isNamedBy_append (node : TreeNode) (needles more : List String) :
    node.isNamedBy (needles ++ more) = (node.isNamedBy needles && node.isNamedBy more) :=
  List.all_append

theorem holdsEach_append (node child : TreeNode) (needles more : List String) :
    node.holdsEach (needles ++ more) child =
      (node.holdsEach needles child && node.holdsEach more child) :=
  List.all_append

theorem holdsEach_of_isNamedBy (h : node.isNamedBy needles = true) (child : TreeNode) :
    node.holdsEach needles child = true := by
  rw [isNamedBy, List.all_eq_true] at h
  rw [holdsEach, List.all_eq_true]
  intro needle hneedle
  rw [h needle hneedle, Bool.true_or]

theorem isNamedBy_withChildren (node : TreeNode) (below : List TreeNode) (needles : List String) :
    (node.withChildren below).isNamedBy needles = node.isNamedBy needles := by
  rw [isNamedBy, classRef_withChildren, isNamedBy]

theorem holdsEach_withChildren (node : TreeNode) (below : List TreeNode) (needles : List String) :
    (node.withChildren below).holdsEach needles = node.holdsEach needles := by
  funext child
  rw [holdsEach, classRef_withChildren, holdsEach]

theorem narrowClass_withChildren (hbelow : below ≠ []) (needles : List String) :
    narrowClass needles (node.withChildren below) =
      node.withChildren? (below.filter (node.holdsEach needles)) := by
  rw [narrowClass, isNamedBy_withChildren, holdsEach_withChildren, children_withChildren]
  cases hnamed : node.isNamedBy needles with
  | true =>
      have hall : below.filter (node.holdsEach needles) = below :=
        List.filter_eq_self.mpr fun child _ => holdsEach_of_isNamedBy hnamed child
      rw [if_pos rfl, hall, withChildren?_of_ne_nil hbelow]
  | false => rw [if_neg Bool.false_ne_true, withChildren?, withChildren?, withChildren_withChildren]

theorem filter_holdsEach_append (node : TreeNode) (needles more : List String) :
    node.children.filter (node.holdsEach (needles ++ more)) =
      (node.children.filter (node.holdsEach needles)).filter (node.holdsEach more) := by
  rw [List.filter_filter]
  apply List.filter_congr
  intro child _
  rw [holdsEach_append, Bool.and_comm]

theorem narrowClass_bind (needles more : List String) (node : TreeNode) :
    (narrowClass needles node).bind (narrowClass more) = narrowClass (needles ++ more) node := by
  cases hnamed : node.isNamedBy needles with
  | true =>
      -- The class is still whole, and all its methods hold the texts that are in its name.
      have hall : node.children.filter (node.holdsEach needles) = node.children :=
        List.filter_eq_self.mpr fun child _ => holdsEach_of_isNamedBy hnamed child
      have hwhole : narrowClass needles node = some node := if_pos hnamed
      rw [hwhole, Option.bind_some, narrowClass, narrowClass, isNamedBy_append, hnamed,
        Bool.true_and, filter_holdsEach_append, hall]
  | false =>
      have hcut : narrowClass needles node =
          node.withChildren? (node.children.filter (node.holdsEach needles)) :=
        if_neg (by rw [hnamed]; exact Bool.false_ne_true)
      rw [hcut, narrowClass, isNamedBy_append, hnamed, Bool.false_and,
        if_neg Bool.false_ne_true, filter_holdsEach_append]
      apply withChildren?_bind
      · intro hnone
        rw [hnone, List.filter_nil]
      · exact fun hsome => narrowClass_withChildren hsome more

theorem narrowPackage_bind (needles more : List String) (node : TreeNode) :
    (narrowPackage needles node).bind (narrowPackage more) =
      narrowPackage (needles ++ more) node := by
  have hclasses : node.children.filterMap (narrowClass (needles ++ more)) =
      (node.children.filterMap (narrowClass needles)).filterMap (narrowClass more) := by
    rw [List.filterMap_filterMap]
    exact List.filterMap_congr fun child _ => (narrowClass_bind needles more child).symm
  rw [narrowPackage, narrowPackage, hclasses]
  apply withChildren?_bind
  · intro hnone
    rw [hnone, List.filterMap_nil]
  · intro _
    rw [narrowPackage, children_withChildren, withChildren?, withChildren?,
      withChildren_withChildren]

theorem narrow_narrow (needles more : List String) (nodes : List TreeNode) :
    narrow more (narrow needles nodes) = narrow (needles ++ more) nodes := by
  by_cases hneedles : needles = []
  · rw [narrow, narrow, hneedles, if_pos rfl, List.nil_append, narrow]
  by_cases hmore : more = []
  · rw [narrow, if_pos hmore, hmore, List.append_nil]
  rw [narrow, if_neg hmore, narrow, if_neg hneedles, narrow, if_neg (by simp [hneedles]),
    List.filterMap_filterMap]
  exact List.filterMap_congr fun node _ => narrowPackage_bind needles more node

/-! ## Filters -/

theorem filterClass_eq (needle : String) (node : TreeNode) :
    filterClass needle node = narrowClass [needle] node := by
  have hnamed : node.isNamedBy [needle] = matchesLower needle (node.classRef.getD "") := by
    simp [isNamedBy]
  rw [filterClass, narrowClass, hnamed]
  cases hname : matchesLower needle (node.classRef.getD "") with
  | true => rw [if_pos rfl, if_pos rfl]
  | false =>
      have hholds : node.holdsEach [needle] = fun child => matchesLower needle child.label := by
        funext child
        simp [holdsEach, hname]
      rw [if_neg Bool.false_ne_true, if_neg Bool.false_ne_true, hholds, withChildren?]

theorem filterAll_eq (nodes : List TreeNode) (text : String) :
    filterAll nodes text = narrow (needlesOf [text]) nodes := by
  by_cases h : text = ""
  · simp [h, needlesOf, narrow]
  · have hneedles : needlesOf [text] = [Text.lower text] := by simp [needlesOf, h]
    have hpackage : filterPackage (Text.lower text) = narrowPackage [Text.lower text] := by
      funext node
      rw [filterPackage, narrowPackage, withChildren?]
      simp only [filterClass_eq]
    rw [filterAll, if_neg h, hneedles, narrow, if_neg (List.cons_ne_nil _ _), hpackage]

/-- What successive filters leave is what all of their texts keep together. -/
theorem foldl_filterAll (texts : List String) (nodes : List TreeNode) :
    texts.foldl filterAll nodes = narrow (needlesOf texts) nodes := by
  induction texts generalizing nodes with
  | nil => rfl
  | cons text texts ih =>
      have hneedles : needlesOf (text :: texts) = needlesOf [text] ++ needlesOf texts := by
        rw [← List.singleton_append, needlesOf, List.filter_append, List.map_append]
        rfl
      rw [List.foldl_cons, ih, filterAll_eq, narrow_narrow, hneedles]

theorem narrow_congr (same : ∀ needle, needle ∈ needles ↔ needle ∈ needles') :
    narrow needles = narrow needles' := by
  have hall (p : String → Bool) : needles.all p = needles'.all p := by
    rw [Bool.eq_iff_iff, List.all_eq_true, List.all_eq_true]
    exact forall_congr' fun needle => imp_congr_left (same needle)
  have hclass : narrowClass needles = narrowClass needles' := by
    funext node
    have hholds : node.holdsEach needles = node.holdsEach needles' := funext fun child => hall _
    rw [narrowClass, narrowClass, isNamedBy, hall, hholds, isNamedBy]
  have hnil : needles = [] ↔ needles' = [] := by
    simp only [List.eq_nil_iff_forall_not_mem, same]
  funext nodes
  unfold narrow narrowPackage
  simp only [hnil, hclass]

/-- It does not matter how often and in which order texts are filtered by. -/
theorem foldl_filterAll_congr {texts texts' : List String}
    (same : ∀ text, text ∈ texts ↔ text ∈ texts') (nodes : List TreeNode) :
    texts.foldl filterAll nodes = texts'.foldl filterAll nodes := by
  have hneedles : narrow (needlesOf texts) = narrow (needlesOf texts') := by
    apply narrow_congr
    intro needle
    simp only [needlesOf, List.mem_map, List.mem_filter, same]
  rw [foldl_filterAll, foldl_filterAll, hneedles]

/-- A forest that is filtered by two texts keeps what they keep together, in whichever order
they come, and filtering by a text once more changes nothing. -/
theorem filterAll_comm_idem (nodes : List TreeNode) (s t : String) :
    filterAll (filterAll nodes s) t = narrow (needlesOf [s, t]) nodes ∧
      filterAll (filterAll nodes s) t = filterAll (filterAll nodes t) s ∧
      filterAll (filterAll nodes s) s = filterAll nodes s := by
  have swapped (text : String) : text ∈ [s, t] ↔ text ∈ [t, s] := by simp [or_comm]
  have repeated (text : String) : text ∈ [s, s] ↔ text ∈ [s] := by simp
  exact ⟨foldl_filterAll [s, t] nodes, foldl_filterAll_congr swapped nodes,
    foldl_filterAll_congr repeated nodes⟩

end BytecodeViewer.TreeNode
