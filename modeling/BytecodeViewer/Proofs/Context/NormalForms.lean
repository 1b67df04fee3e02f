import BytecodeViewer.Context

/-!
# Normal contexts

A context is normal if it is made of maps, lists and plain leaves only.  Every context has a normal
form with the same outline: the same keys, the same number of items in each sequence, and the same
leaves up to the texts that things are displayed as.  A normal context is its own normal form.
-/

namespace BytecodeViewer

/-! ## Values by their parts -/

namespace ContextValue

/-- Induction on a value, for all of its items or fields at once. -/
@[elab_as_elim, induction_eliminator]
theorem induction {motive : ContextValue → Prop} (null : motive .null)
    (bool : ∀ b, motive (.bool b)) (number : ∀ digits places, motive (.number digits places))
    (text : ∀ s, motive (.text s)) (list : ∀ items, (∀ v ∈ items, motive v) → motive (.list items))
    (tuple : ∀ items, (∀ v ∈ items, motive v) → motive (.tuple items))
    (map : ∀ fields, (∀ f ∈ fields, motive f.2) → motive (.map fields))
    (thing : ∀ displayed, motive (.thing displayed)) (v : ContextValue) : motive v := by
  apply @ContextValue.rec motive (fun items => ∀ v ∈ items, motive v)
    (fun fields => ∀ f ∈ fields, motive f.2) (fun f => motive f.2) null bool number text list tuple
    map thing
  case nil => exact fun _ h => nomatch h
  case cons => exact fun _ _ first others => List.forall_mem_cons.mpr ⟨first, others⟩
  case nil => exact fun _ h => nomatch h
  case cons => exact fun _ _ first others => List.forall_mem_cons.mpr ⟨first, others⟩
  case mk => exact fun _ _ value => value

end ContextValue

theorem normalizeItems_eq (items : List ContextValue) :
    normalizeItems items = items.map .normalize := by
  induction items with
  | nil => rfl
  | cons v items ih => rw [normalizeItems, ih, List.map_cons]

theorem normalizeFields_eq (fields : Context) :
    normalizeFields fields = fields.map fun f => (f.1, f.2.normalize) := by
  induction fields with
  | nil => rfl
  | cons f fields ih => rw [normalizeFields, ih, List.map_cons]

/-! ## Normal values -/

/-- A value that is made of maps, lists and leaves that can be displayed as they are. -/
inductive ContextValue.Normal : ContextValue → Prop
  | null : Normal .null
  | bool (b : Bool) : Normal (.bool b)
  | number (digits : Int) (places : Nat) : Normal (.number digits places)
  | text (s : String) : Normal (.text s)
  | list {items : List ContextValue} (each : ∀ v ∈ items, Normal v) : Normal (.list items)
  | map {fields : Context} (each : ∀ f ∈ fields, Normal f.2) : Normal (.map fields)

def Context.Normal (c : Context) : Prop :=
  ∀ f ∈ c, f.2.Normal

namespace ContextValue

theorem normal_normalize (v : ContextValue) : v.normalize.Normal := by
  have hitems {items : List ContextValue} (ih : ∀ v ∈ items, v.normalize.Normal) :
      Normal (.list (normalizeItems items)) := by
    apply Normal.list
    rw [normalizeItems_eq, List.forall_mem_map]
    exact ih
  induction v with
  | null => exact .null
  | bool b => exact .bool b
  | number digits places => exact .number digits places
  | text s => exact .text s
  | list items ih => exact hitems ih
  | tuple items ih => exact hitems ih
  | map fields ih =>
      apply Normal.map
      rw [normalizeFields_eq, List.forall_mem_map]
      exact ih
  | thing displayed => exact .text displayed

theorem Normal.normalize_eq {v : ContextValue} (h : v.Normal) : v.normalize = v := by
  induction h with
  | null => rfl
  | bool b => rfl
  | number digits places => rfl
  | text s => rfl
  | list _ ih => rw [normalize, normalizeItems_eq, List.map_congr_left ih, List.map_id']
  | @map fields _ ih =>
      have hfields : ∀ f ∈ fields, (f.1, f.2.normalize) = f := fun f hf => Prod.ext rfl (ih f hf)
      rw [normalize, normalizeFields_eq, List.map_congr_left hfields, List.map_id']

/-- The normal values are those that normalising leaves as they are. -/
theorem normalize_eq_self_iff {v : ContextValue} : v.normalize = v ↔ v.Normal := by
  constructor
  · intro h
    rw [← h]
    exact normal_normalize v
  · exact Normal.normalize_eq

end ContextValue

/-! ## Outlines -/

/-- What is displayed of a value, whether its sequences are lists or tuples and whether its texts
stand for things. -/
inductive ContextOutline where
  | null
  | bool (b : Bool)
  | number (digits : Int) (places : Nat)
  | text (s : String)
  | sequence (items : List ContextOutline)
  | map (fields : List (String × ContextOutline))

mutual

def ContextValue.outline : ContextValue → ContextOutline
  | .null => .null
  | .bool b => .bool b
  | .number digits places => .number digits places
  | .text s => .text s
  | .list items => .sequence (outlineItems items)
  | .tuple items => .sequence (outlineItems items)
  | .map fields => .map (outlineFields fields)
  | .thing displayed => .text displayed

def outlineItems : List ContextValue → List ContextOutline
  | [] => []
  | v :: vs => v.outline :: outlineItems vs

def outlineFields : List (String × ContextValue) → List (String × ContextOutline)
  | [] => []
  | (k, v) :: fs => (k, v.outline) :: outlineFields fs

end

def Context.outline (c : Context) : List (String × ContextOutline) :=
  outlineFields c

theorem outlineItems_eq (items : List ContextValue) :
    outlineItems items = items.map ContextValue.outline := by
  induction items with
  | nil => rfl
  | cons v items ih => rw [outlineItems, ih, List.map_cons]

theorem outlineFields_eq (fields : Context) :
    outlineFields fields = fields.map fun f => (f.1, f.2.outline) := by
  induction fields with
  | nil => rfl
  | cons f fields ih => rw [outlineFields, ih, List.map_cons]

theorem outlineFields_normalizeFields {fields : Context}
    (each : ∀ f ∈ fields, f.2.normalize.outline = f.2.outline) :
    outlineFields (normalizeFields fields) = outlineFields fields := by
  rw [outlineFields_eq, outlineFields_eq, normalizeFields_eq, List.map_map]
  exact List.map_congr_left fun f hf => Prod.ext rfl (each f hf)

theorem ContextValue.outline_normalize (v : ContextValue) : v.normalize.outline = v.outline := by
  have hitems {items : List ContextValue} (ih : ∀ v ∈ items, v.normalize.outline = v.outline) :
      outlineItems (normalizeItems items) = outlineItems items := by
    rw [outlineItems_eq, outlineItems_eq, normalizeItems_eq, List.map_map]
    exact List.map_congr_left ih
  induction v with
  | null => rfl
  | bool b => rfl
  | number digits places => rfl
  | text s => rfl
  | list items ih => exact congrArg ContextOutline.sequence (hitems ih)
  | tuple items ih => exact congrArg ContextOutline.sequence (hitems ih)
  | map fields ih => exact congrArg ContextOutline.map (outlineFields_normalizeFields ih)
  | thing displayed => rfl

/-! ## Normal forms of contexts -/

/-- The normal form of a context is normal, has its outline, and is its own normal form. -/
theorem Context.normalize_canonical (c : Context) :
    c.normalize.Normal ∧ c.normalize.outline = c.outline ∧
      c.normalize.normalize = c.normalize := by
  have hnormal : (ContextValue.map c).normalize.Normal := ContextValue.normal_normalize (.map c)
  refine ⟨?_, ?_, ?_⟩
  · cases hnormal with
    | map each => exact each
  · exact outlineFields_normalizeFields fun f _ => f.2.outline_normalize
  · exact ContextValue.map.inj (ContextValue.normalize_eq_self_iff.mpr hnormal)

example : Context.normalize [("path", .thing "/tmp/app.apk"),
      ("nested", .map [("items", .tuple [.number 1 0, .thing "x"])])] =
    [("path", .text "/tmp/app.apk"),
      ("nested", .map [("items", .list [.number 1 0, .text "x"])])] := rfl

end BytecodeViewer
