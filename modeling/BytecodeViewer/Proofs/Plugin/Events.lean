import BytecodeViewer.Proofs.Plugin.Resolution

/-!
# What changes a registry

A registry changes only when a renderer is put under a name, and when the plug-in that waits
under a name is loaded.  `Leads` says that some such events, one after the other, make one
registry of another, and what names stand for and which plug-ins wait can be read off them.
-/

namespace BytecodeViewer

namespace Registry

inductive Event where
  | put (name : String) (id : RendererId)
  /-- A plug-in has been loaded, and has given a renderer or nothing. -/
  | load (e : EntryPoint) (given : Option RendererId)

namespace Event

def name : Event → String
  | put name _ => name
  | load e _ => e.name

def registered? : Event → Option (String × RendererId)
  | put name id => some (name, id)
  | load e given => given.map (e.name, ·)

def loaded? : Event → Option EntryPoint
  | put _ _ => none
  | load e _ => some e

def apply (r : Registry) : Event → Registry
  | put name id => r.put name id
  | load e (some id) => r.put e.name id
  | load e none => r.dropPending e.name

/-- Only a plug-in that waits can be loaded. -/
def Fits (r : Registry) : Event → Prop
  | put _ _ => True
  | load e _ => r.pending? e.name = some e

end Event

/-- The renderer that was registered last under a name. -/
def last? (events : List Event) (name : String) : Option RendererId :=
  (events.filterMap Event.registered?).reverse.lookup name

/-- The plug-ins that have been loaded, in their order. -/
def loads (events : List Event) : List EntryPoint :=
  events.filterMap Event.loaded?

@[simp] theorem loads_nil : loads [] = [] := rfl

@[simp] theorem loads_append (events more : List Event) :
    loads (events ++ more) = loads events ++ loads more :=
  List.filterMap_append ..

theorem last?_append (events more : List Event) (name : String) :
    last? (events ++ more) name = (last? more name).or (last? events name) := by
  simp only [last?, List.filterMap_append, List.reverse_append, List.lookup_append]

theorem last?_cons (ev : Event) (events : List Event) (name : String) :
    last? (ev :: events) name = (last? events name).or (last? [ev] name) :=
  last?_append [ev] events name

theorem mem_names_of_last? {events : List Event} {name : String} {id : RendererId}
    (hid : last? events name = some id) : name ∈ events.map Event.name := by
  have hmem := List.mem_reverse.mp (mem_of_lookup hid)
  obtain ⟨ev, hev, hregistered⟩ := List.mem_filterMap.mp hmem
  cases ev with
  | put name' id' =>
      cases hregistered
      exact List.mem_map_of_mem hev
  | load e given =>
      obtain ⟨_, rfl, hsame⟩ := Option.map_eq_some_iff.mp hregistered
      cases hsame
      exact List.mem_map_of_mem hev

/-! ## One event -/

variable {r r' r'' : Registry} {ev : Event} {events more : List Event} {name : String}

/-- An event puts a renderer under its name, or the plug-in that waits there is given up. -/
theorem apply_cases (r : Registry) (ev : Event) :
    (∃ id, ev.registered? = some (ev.name, id) ∧ ev.apply r = r.put ev.name id) ∨
      ev.registered? = none ∧ ev.apply r = r.dropPending ev.name := by
  cases ev with
  | put name id => exact .inl ⟨id, rfl, rfl⟩
  | load e given =>
      cases given with
      | none => exact .inr ⟨rfl, rfl⟩
      | some id => exact .inl ⟨id, rfl, rfl⟩

theorem renderer?_apply (r : Registry) (ev : Event) (name : String) :
    (ev.apply r).renderer? name = (last? [ev] name).or (r.renderer? name) := by
  obtain ⟨id, hregistered, happly⟩ | ⟨hregistered, happly⟩ := apply_cases r ev
  · rw [happly, renderer?_put]
    by_cases h : name = ev.name <;>
      simp [last?, hregistered, List.lookup_cons, h, beq_false_of_ne]
  · rw [happly]
    simp [last?, hregistered, renderer?_dropPending]

theorem pending_apply (r : Registry) (ev : Event) :
    (ev.apply r).pending = r.pending.filter (·.name != ev.name) := by
  obtain ⟨id, -, happly⟩ | ⟨-, happly⟩ := apply_cases r ev <;> rw [happly] <;> rfl

theorem names_prefix_apply (r : Registry) (ev : Event) : r.names <+: (ev.apply r).names := by
  obtain ⟨id, -, happly⟩ | ⟨-, happly⟩ := apply_cases r ev
  · rw [happly]
    by_cases h : ev.name ∈ r.names
    · have hsame : (r.put ev.name id).names = r.names := map_insertKey_of_mem id h
      exact hsame ▸ List.prefix_rfl
    · have hmore : (r.put ev.name id).names = r.names ++ [ev.name] := map_insertKey_of_notMem id h
      rw [hmore]
      exact List.prefix_append _ _
  · rw [happly]
    exact List.prefix_rfl

theorem nodup_names_apply (nodup : r.names.Nodup) (ev : Event) : (ev.apply r).names.Nodup := by
  obtain ⟨id, -, happly⟩ | ⟨-, happly⟩ := apply_cases r ev
  · rw [happly]
    exact nodup_insertKey id nodup
  · rw [happly]
    exact nodup

theorem WaitsFree.apply (free : r.WaitsFree) (ev : Event) : (ev.apply r).WaitsFree := by
  obtain ⟨id, -, happly⟩ | ⟨-, happly⟩ := apply_cases r ev
  · rw [happly]
    exact free.put ev.name id
  · rw [happly]
    exact fun other hother => free other (ne_of_waits hother).2

/-! ## Some events -/

/-- Some events, each of which fits, make a registry of another. -/
inductive Leads : Registry → List Event → Registry → Prop
  | refl {r : Registry} : Leads r [] r
  | step {r r' : Registry} {ev : Event} {events : List Event} (fits : ev.Fits r)
      (rest : Leads (ev.apply r) events r') : Leads r (ev :: events) r'

namespace Leads

theorem trans (first : Leads r events r') (second : Leads r' more r'') :
    Leads r (events ++ more) r'' := by
  induction first with
  | refl => exact second
  | step fits _ ih => exact .step fits (ih second)

/-- What holds of a registry and is kept by each event holds in the end. -/
theorem keeps {p : Registry → Prop} (leads : Leads r events r')
    (kept : ∀ r ev, p r → p (Event.apply r ev)) (start : p r) : p r' := by
  induction leads with
  | refl => exact start
  | step _ _ ih => exact ih (kept _ _ start)

theorem names_prefix (leads : Leads r events r') : r.names <+: r'.names :=
  leads.keeps (p := fun r₁ => r.names <+: r₁.names)
    (fun r₁ ev before => before.trans (names_prefix_apply r₁ ev)) List.prefix_rfl

theorem nodup_names (leads : Leads r events r') (nodup : r.names.Nodup) : r'.names.Nodup :=
  leads.keeps (p := fun r₁ => r₁.names.Nodup) (fun _ ev before => nodup_names_apply before ev)
    nodup

theorem waitsFree (leads : Leads r events r') (free : r.WaitsFree) : r'.WaitsFree :=
  leads.keeps (p := WaitsFree) (fun _ ev before => before.apply ev) free

theorem renderer?_eq (leads : Leads r events r') (name : String) :
    r'.renderer? name = (last? events name).or (r.renderer? name) := by
  induction leads with
  | refl => rfl
  | @step _ _ ev events _ _ ih => rw [ih, renderer?_apply, last?_cons ev events, Option.or_assoc]

/-- A plug-in waits until something happens under its name. -/
theorem pending_eq (leads : Leads r events r') :
    r'.pending = r.pending.filter fun e => e.name ∉ events.map Event.name := by
  induction leads with
  | refl => exact (List.filter_eq_self.mpr fun e _ => by simp).symm
  | @step _ _ ev events _ _ ih =>
      rw [ih, pending_apply, List.filter_filter]
      refine List.filter_congr fun e _ => ?_
      by_cases h : e.name = ev.name <;> simp [h]

theorem mem_pending (leads : Leads r events r') {e : EntryPoint} (he : e ∈ r'.pending) :
    e ∈ r.pending ∧ e.name ∉ events.map Event.name := by
  rw [leads.pending_eq] at he
  obtain ⟨hpending, hname⟩ := List.mem_filter.mp he
  exact ⟨hpending, of_decide_eq_true hname⟩

theorem loads_pending (leads : Leads r events r') : ∀ e ∈ loads events, e ∈ r.pending := by
  induction leads with
  | refl => exact fun e he => absurd he List.not_mem_nil
  | @step r _ ev events fits _ ih =>
      have hrest : ∀ e ∈ loads events, e ∈ r.pending := by
        intro e he
        have hlater := ih e he
        rw [pending_apply] at hlater
        exact (List.mem_filter.mp hlater).1
      cases ev with
      | put name id => exact hrest
      | load e given =>
          rintro e' he'
          rcases List.mem_cons.mp he' with rfl | hin
          · exact List.mem_of_find?_eq_some fits
          · exact hrest e' hin

/-- Of the plug-ins with one name at most one is loaded, and it is loaded once. -/
theorem nodup_loads (leads : Leads r events r') : ((loads events).map (·.name)).Nodup := by
  induction leads with
  | refl => exact List.nodup_nil
  | @step _ _ ev events _ rest ih =>
      cases ev with
      | put name id => exact ih
      | load e given =>
          refine List.nodup_cons.mpr ⟨fun hmem => ?_, ih⟩
          obtain ⟨e', he', hsame⟩ := List.mem_map.mp hmem
          have hwaits := rest.loads_pending e' he'
          rw [pending_apply] at hwaits
          have hne := (List.mem_filter.mp hwaits).2
          simp [Event.name, hsame] at hne

theorem split {before after : List Event} (leads : Leads r (before ++ after) r') :
    ∃ r₁, Leads r before r₁ ∧ Leads r₁ after r' := by
  induction before generalizing r with
  | nil => exact ⟨r, .refl, leads⟩
  | cons ev before ih =>
      cases leads with
      | step fits rest =>
          obtain ⟨r₁, hbefore, hafter⟩ := ih rest
          exact ⟨r₁, .step fits hbefore, hafter⟩

/-- When a plug-in is loaded, nothing is registered under its name. -/
theorem free_of_load {before after : List Event} {e : EntryPoint} {given : Option RendererId}
    (leads : Leads r (before ++ .load e given :: after) r') (free : r.WaitsFree) :
    last? before e.name = none ∧ r.renderer? e.name = none := by
  obtain ⟨r₁, hbefore, hafter⟩ := leads.split
  cases hafter with
  | step fits _ =>
      have hfree := hbefore.waitsFree free e.name (Option.isSome_of_eq_some fits)
      rwa [hbefore.renderer?_eq, Option.or_eq_none_iff] at hfree

end Leads

end Registry

end BytecodeViewer
