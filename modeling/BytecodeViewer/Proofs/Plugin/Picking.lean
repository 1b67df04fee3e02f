import BytecodeViewer.Proofs.Plugin.Installation
import BytecodeViewer.Proofs.Plugin.Loading

/-!
# Picking a language

A preferred language is picked if a registry has it or its plug-in waits.  What is picked can
be resolved, and is picked again once all plug-ins have been loaded, unless the plug-in that
waits under the preferred name offers nothing.
-/

namespace BytecodeViewer.Registry

variable {name preferred : String} {r r' : Registry} {h h' : Host}

/-- The preferred language if it is available, else the first one. -/
def picked (r : Registry) (preferred : String) : Option String :=
  if preferred ≠ "" ∧ r.contains preferred = true then some preferred else r.names.head?

theorem pickLanguage_on_eq (preferred : String) (r : Registry) (h : Host) :
    ∃ h', (pickLanguage (some preferred)).on (r, h) = (.ok (r.picked preferred), r, h') ∧
      h'.rest = h.rest ∧ h'.renderers = h.renderers := by
  by_cases hempty : preferred = ""
  · exact ⟨h, by simp [pickLanguage, picked, Option.filter, hempty, Except.map], rfl, rfl⟩
  · cases hcontains : r.contains preferred with
    | true =>
        refine ⟨h, ?_, rfl, rfl⟩
        simp [pickLanguage, picked, Option.filter, hempty, hcontains]
    | false =>
        refine ⟨h.logged "dv_core.session" .info ("Language " ++ preferred ++
          " is not available; using " ++ r.names.head?.getD "None"), ?_, by simp, rfl⟩
        simp [pickLanguage, picked, Option.filter, hempty, hcontains, Except.map]

/-- Unless its plug-in offers nothing, a language that is available can be resolved. -/
theorem contains_eq_resolves (offers : ∀ e, r.pending? name = some e → e.offer ≠ .nothing) :
    r.contains name = r.resolves name := by
  cases hr : r.renderer? name with
  | some id => simp [contains, resolves, hr]
  | none =>
      cases hp : r.pending? name with
      | none => simp [contains, resolves, hr, hp]
      | some e =>
          have hoffer := offers e hp
          cases he : e.offer with
          | nothing => exact absurd he hoffer
          | own l => simp [contains, resolves, hr, hp, he]
          | shared id => simp [contains, resolves, hr, hp, he]

/-! ## New registries -/

/-- A plug-in waits under the name in new registries, but it offers no renderer. -/
def WaitsInVain (plugins : Except Failure (List EntryPoint)) (name : String) : Prop :=
  ∃ e, (waiting plugins).find? (·.name == name) = some e ∧ e.offer = .nothing

/-- The language that is picked from a new registry. -/
def usual (plugins : Except Failure (List EntryPoint)) (preferred : String) : String :=
  if preferred ≠ "" ∧ (fresh plugins 0).contains preferred = true then preferred else "Java"

variable {plugins : Except Failure (List EntryPoint)} {n : Nat}

theorem contains_fresh (name : String) :
    (fresh plugins n).contains name = (fresh plugins 0).contains name := by
  simp only [contains, renderer?_fresh]
  by_cases hjava : name = "Java"
  · simp [hjava]
  · by_cases hdex : name = "Dex"
    · simp [hdex]
    · simp only [hjava, hdex, if_false]
      rfl

theorem picked_fresh (preferred : String) :
    (fresh plugins n).picked preferred = some (usual plugins preferred) := by
  simp only [picked, usual, contains_fresh (n := n)]
  split <;> rfl

theorem offers_of_not_vain (sound : ¬WaitsInVain plugins name) {e : EntryPoint}
    (he : (fresh plugins n).pending? name = some e) : e.offer ≠ .nothing :=
  fun hnothing => sound ⟨e, he, hnothing⟩

theorem resolves_usual (sound : preferred = "" ∨ ¬WaitsInVain plugins preferred) :
    (fresh plugins n).resolves (usual plugins preferred) = true := by
  unfold usual
  split
  · next hpick =>
    have hvain := sound.resolve_left hpick.1
    rw [← contains_eq_resolves fun e he => offers_of_not_vain hvain he, contains_fresh]
    exact hpick.2
  · simp [resolves, renderer?_fresh]

/-- What waits in vain is picked, but it cannot be resolved. -/
theorem usual_of_vain (vain : WaitsInVain plugins name) (hname : name ≠ "") :
    usual plugins name = name ∧ (fresh plugins n).resolves name = false := by
  obtain ⟨e, he, hnothing⟩ := vain
  have hwaits : (fresh plugins n).pending? name = some e := he
  have hwaits₀ : (fresh plugins 0).pending? name = some e := he
  have hfree := renderer?_fresh_of_waits (Option.isSome_of_eq_some hwaits)
  constructor
  · simp [usual, hname, contains, hwaits₀]
  · simp [resolves, hfree, hwaits, hnothing]

/-! ## Registries whose plug-ins have been loaded -/

namespace Resolution

variable {outcome : Except Failure RendererId}

/-- Names are added behind those that are in use. -/
theorem names_prefix (res : Resolution name r h (outcome, r', h')) : r.names <+: r'.names := by
  cases res with
  | inUse found => exact List.prefix_rfl
  | unknown free idle => exact List.prefix_rfl
  | made free waits offers rest renderers =>
      rw [names_put_of_free free]
      exact List.prefix_append _ _
  | shared free waits offers rest renderers =>
      rw [names_put_of_free free]
      exact List.prefix_append _ _
  | failed free waits offers rest renderers => exact List.prefix_rfl

theorem pending?_eq (res : Resolution name r h (outcome, r', h')) (free : r.WaitsFree)
    (other : String) :
    r'.pending? other = if other = name then none else r.pending? other := by
  cases res with
  | @inUse id found =>
      split
      · next hsame =>
        subst hsame
        apply Option.not_isSome_iff_eq_none.mp
        intro hwaits
        cases found.symm.trans (free _ hwaits)
      · rfl
  | unknown _ idle =>
      split
      · next hsame => rw [hsame, idle]
      · rfl
  | made _ waits offers rest renderers => rw [pending?_put, pending?_dropPending]
  | shared _ waits offers rest renderers => rw [pending?_put, pending?_dropPending]
  | failed _ waits offers rest renderers => exact pending?_dropPending r name other

end Resolution

theorem loadEach_loads (names : List String) (free : r.WaitsFree) (h : Host) :
    ∃ r' h', (loadEach names).on (r, h) = (.ok (), r', h') ∧ r.names <+: r'.names ∧
      ∀ other, r'.pending? other = if other ∈ names then none else r.pending? other := by
  induction names generalizing r h with
  | nil => exact ⟨r, h, rfl, List.prefix_rfl, by simp⟩
  | cons name names ih =>
      obtain ⟨outcome, r₁, h₁, hload, res⟩ := loadPending_on free name h
      obtain ⟨r', h', hrest, hprefix, hpending⟩ := ih (res.waitsFree free) h₁
      refine ⟨r', h', by simp [loadEach, hload, hrest], res.names_prefix.trans hprefix, ?_⟩
      intro other
      rw [hpending, res.pending?_eq free]
      by_cases hsame : other = name
      · simp [hsame]
      · simp [hsame]

/-- Once all plug-ins have been loaded, none waits any longer. -/
theorem loadedNames_loads (free : r.WaitsFree) (h : Host) :
    ∃ r' h', loadedNames.on (r, h) = (.ok r'.names, r', h') ∧ r.names <+: r'.names ∧
      ∀ other, r'.pending? other = none := by
  obtain ⟨r', h', hon, hprefix, hpending⟩ := loadEach_loads (r.pending.map (·.name)) free h
  refine ⟨r', h', by simp [loadedNames, loadAll, hon, Except.map], hprefix, ?_⟩
  intro other
  rw [hpending]
  split
  · rfl
  · next hout =>
    cases hp : r.pending? other with
    | none => rfl
    | some e =>
        have hin : other ∈ r.pending.map (·.name) :=
          List.mem_map.mpr ⟨e, List.mem_of_find?_eq_some hp, pending?_name hp⟩
        exact absurd hin hout

theorem loadedNames_picks (grounded : r.Grounded h) (free : r.WaitsFree)
    (sound : preferred = "" ∨ ∀ e, r.pending? preferred = some e → e.offer ≠ .nothing)
    (hpicked : r.picked preferred = some name) :
    ∃ r' h', loadedNames.on (r, h) = (.ok r'.names, r', h') ∧ h'.rest = h.rest ∧
      r'.picked preferred = some name ∧ name ∈ r'.names := by
  obtain ⟨r', h', hon, hprefix, hpending⟩ := loadedNames_loads free h
  obtain ⟨r₂, h₂, hon₂, grown⟩ := loadedNames_on grounded free
  obtain ⟨rfl, rfl⟩ : r' = r₂ ∧ h' = h₂ :=
    Prod.mk.inj (congrArg Prod.snd (hon.symm.trans hon₂))
  have hcontains : preferred = "" ∨ r'.contains preferred = r.contains preferred := by
    refine sound.imp_right fun offers => ?_
    calc
      r'.contains preferred = r'.resolves preferred :=
        contains_eq_resolves fun e he => by cases (hpending preferred).symm.trans he
      _ = r.resolves preferred := by
        rw [resolves_eq grown.grounded, resolves_eq grounded, grown.languages]
      _ = r.contains preferred := (contains_eq_resolves offers).symm
  by_cases hpick : preferred ≠ "" ∧ r.contains preferred = true
  · have hsame : preferred = name := by
      rw [picked, if_pos hpick] at hpicked
      exact Option.some.inj hpicked
    have hcontains' : r'.contains preferred = true :=
      (hcontains.resolve_left hpick.1).trans hpick.2
    refine ⟨r', h', hon, grown.rest, ?_, ?_⟩
    · rw [picked, if_pos ⟨hpick.1, hcontains'⟩, hsame]
    · rw [← hsame, ← isSome_renderer?_iff]
      simpa [contains, hpending] using hcontains'
  · rw [picked, if_neg hpick] at hpicked
    have hhead : r'.names.head? = some name := by
      obtain ⟨more, hmore⟩ := hprefix
      rw [← hmore, List.head?_append, hpicked]
      rfl
    have hpick' : ¬(preferred ≠ "" ∧ r'.contains preferred = true) := by
      rintro ⟨hne, hin⟩
      exact hpick ⟨hne, (hcontains.resolve_left hne).symm.trans hin⟩
    refine ⟨r', h', hon, grown.rest, ?_, List.mem_of_head? hhead⟩
    rw [picked, if_neg hpick', hhead]

end BytecodeViewer.Registry
