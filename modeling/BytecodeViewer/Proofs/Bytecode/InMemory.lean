import BytecodeViewer.Bytecode.Model

/-!
# Models in memory

A model of some classes lists each class once, under its name.  Looking a class up finds
exactly the classes that are listed.
-/

namespace BytecodeViewer

/-! ## Entries by their keys -/

section Keys

variable {α : Type} {key : String} {value : α} {entries : List (String × α)}

theorem lookup_insertKey (key other : String) (value : α) (entries : List (String × α)) :
    (insertKey key value entries).lookup other =
      if other = key then some value else entries.lookup other := by
  induction entries with
  | nil =>
      by_cases h : other = key
      · simp [insertKey, h]
      · simp [insertKey, List.lookup_cons, h, beq_false_of_ne h]
  | cons entry rest ih =>
      obtain ⟨k, v⟩ := entry
      by_cases hk : k = key
      · subst hk
        by_cases h : other = k
        · simp [insertKey, h]
        · simp [insertKey, List.lookup_cons, h, beq_false_of_ne h]
      · by_cases h : other = k
        · subst h
          simp [insertKey, hk]
        · simp [insertKey, hk, List.lookup_cons, beq_false_of_ne h, ih]

theorem map_insertKey_of_notMem (value : α) (h : key ∉ entries.map (·.1)) :
    (insertKey key value entries).map (·.1) = entries.map (·.1) ++ [key] := by
  induction entries with
  | nil => rfl
  | cons entry rest ih =>
      obtain ⟨k, v⟩ := entry
      simp only [List.map_cons, List.mem_cons, not_or] at h
      simp [insertKey, Ne.symm h.1, ih h.2]

theorem map_insertKey_of_mem (value : α) (h : key ∈ entries.map (·.1)) :
    (insertKey key value entries).map (·.1) = entries.map (·.1) := by
  induction entries with
  | nil => cases h
  | cons entry rest ih =>
      obtain ⟨k, v⟩ := entry
      by_cases hk : k = key
      · simp [insertKey, hk]
      · have hrest : key ∈ rest.map (·.1) := (List.mem_cons.mp h).resolve_left (Ne.symm hk)
        simp [insertKey, hk, ih hrest]

theorem nodup_insertKey (value : α) (nodup : (entries.map (·.1)).Nodup) :
    ((insertKey key value entries).map (·.1)).Nodup := by
  by_cases hmem : key ∈ entries.map (·.1)
  · rwa [map_insertKey_of_mem value hmem]
  · rw [map_insertKey_of_notMem value hmem, List.nodup_append]
    refine ⟨nodup, by simp, ?_⟩
    intro k hk k' hk'
    rw [List.mem_singleton.mp hk']
    rintro rfl
    exact hmem hk

theorem mem_insertKey {entry : String × α} (h : entry ∈ insertKey key value entries) :
    entry = (key, value) ∨ entry ∈ entries := by
  induction entries with
  | nil => exact .inl (List.mem_singleton.mp h)
  | cons first rest ih =>
      obtain ⟨k, v⟩ := first
      unfold insertKey at h
      split at h
      · next hk =>
        subst hk
        exact (List.mem_cons.mp h).imp_right (List.mem_cons_of_mem _)
      · rcases List.mem_cons.mp h with rfl | hrest
        · exact .inr List.mem_cons_self
        · exact (ih hrest).imp_right (List.mem_cons_of_mem _)

theorem mem_of_lookup {value : α} (h : entries.lookup key = some value) :
    (key, value) ∈ entries := by
  obtain ⟨before, after, rfl, -⟩ := List.lookup_eq_some_iff.mp h
  simp

end Keys

/-! ## Models of classes -/

/-- Each class is there once, under its name. -/
structure Model.Keyed (m : Model) : Prop where
  names_eq : m.names = m.classes.map (·.1)
  nodup : m.names.Nodup
  named : ∀ entry ∈ m.classes, entry.2.name = entry.1

namespace Model

theorem keyed_ofClasses (classes : List ClassDef) : (ofClasses classes).Keyed := by
  -- What holds of the entries so far holds once the other classes are added.
  have adding (entries : List (String × ClassDef)) (nodup : (entries.map (·.1)).Nodup)
      (named : ∀ entry ∈ entries, entry.2.name = entry.1) :
      let table := classes.foldl (fun acc c => insertKey c.name c acc) entries
      (table.map (·.1)).Nodup ∧ ∀ entry ∈ table, entry.2.name = entry.1 := by
    induction classes generalizing entries with
    | nil => exact ⟨nodup, named⟩
    | cons c classes ih =>
        apply ih
        · exact nodup_insertKey c nodup
        · intro entry hentry
          rcases mem_insertKey hentry with rfl | hold
          · rfl
          · exact named entry hold
  obtain ⟨nodup, named⟩ := adding [] List.nodup_nil (by simp)
  exact ⟨rfl, nodup, named⟩

variable {m : Model} {name : String} {c : ClassDef}

theorem Keyed.mem_names (keyed : m.Keyed) (h : m.class? name = some c) : name ∈ m.names := by
  rw [keyed.names_eq]
  exact List.mem_map.mpr ⟨(name, c), mem_of_lookup h, rfl⟩

theorem Keyed.name_eq (keyed : m.Keyed) (h : m.class? name = some c) : c.name = name :=
  keyed.named _ (mem_of_lookup h)

end Model

/-! ## Models in use -/

/-- The classes that a model lists have the names that it lists. -/
def LoadedModel.ListsByName (m : LoadedModel) : Prop :=
  ∀ names name c, m.names = .ok names → name ∈ names → m.class? name = .ok (some c) → c.name = name

/-- A model of some classes that has been disposed some times. -/
def LoadedModel.inMemory (classes : List ClassDef) (disposals : Nat) : LoadedModel where
  model := .ofClasses classes
  disposals

namespace LoadedModel

variable {classes : List ClassDef} {disposals : Nat} {name : String} {c : ClassDef}

theorem class?_inMemory : (inMemory classes disposals).class? name =
    if disposals = 0 then .ok ((Model.ofClasses classes).class? name)
    else .error .modelDisposed := by
  by_cases hd : disposals = 0 <;> simp [class?, inMemory, isDisposed, hd]

theorem names_inMemory : (inMemory classes disposals).names =
    .ok (if disposals = 0 then (Model.ofClasses classes).names else []) := by
  by_cases hd : disposals = 0 <;> simp [names, inMemory, isDisposed, hd]

theorem class?_inMemory_eq_some : (inMemory classes disposals).class? name = .ok (some c) ↔
    disposals = 0 ∧ (Model.ofClasses classes).class? name = some c := by
  rw [class?_inMemory]
  by_cases hd : disposals = 0 <;> simp [hd]

theorem name_of_class?_inMemory
    (h : (inMemory classes disposals).class? name = .ok (some c)) : c.name = name :=
  (Model.keyed_ofClasses classes).name_eq (class?_inMemory_eq_some.mp h).2

end LoadedModel

end BytecodeViewer
