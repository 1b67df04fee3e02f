import BytecodeViewer.Plugin.Registry
import BytecodeViewer.Proofs.Bytecode.InMemory
import BytecodeViewer.Proofs.Host.Rest

/-!
# Resolving the names of languages

A name that is in use stands for a renderer of the host, and a name that waits for what
its plug-in offers.  `resolve_on` says all that can come of resolving a name.
-/

namespace BytecodeViewer

/-- What a plug-in gives a registry once it has been loaded. -/
inductive Offer where
  | nothing
  /-- A renderer that is made for the registry. -/
  | own (l : Language)
  /-- A renderer that is there already. -/
  | shared (id : RendererId)

def EntryPoint.offer (e : EntryPoint) : Offer :=
  if Text.isAllBlank e.name then .nothing
  else
    match e.load with
    | .ok (.language l) => .own l
    | .ok (.renderer id) => .shared id
    | _ => .nothing

namespace Registry

/-! ## Loading one plug-in -/

theorem register_blank_on {name : String} (hblank : Text.isAllBlank name = true)
    (candidate : Candidate) (r : Registry) (h : Host) :
    (register (some name) candidate).on (r, h) = (.error .badRendererName, r, h) := by
  simp [register, Option.filter, hblank]

theorem register_renderer_on {name : String} (hblank : Text.isAllBlank name = false)
    (id : RendererId) (r : Registry) (h : Host) :
    ∃ h', (register (some name) (.renderer id)).on (r, h) = (.ok (), r.put name id, h') ∧
      h'.renderers = h.renderers ∧ h'.rest = h.rest := by
  cases hr : (r.renderer? name).isSome with
  | true =>
      refine ⟨h.logged channel .debug ("Replacing renderer " ++ name), ?_, rfl, by simp⟩
      simp [register, Option.filter, hblank, hr]
  | false =>
      refine ⟨h, ?_, rfl, rfl⟩
      simp [register, Option.filter, hblank, hr]

theorem register_other_on (name typeName : String) (r : Registry) (h : Host) :
    ∃ f, (register (some name) (.other typeName)).on (r, h) = (.error f, r, h) := by
  cases hblank : Text.isAllBlank name <;> simp [register, Option.filter, hblank]

/-- What a registry and the renderers of the host become when a plug-in is loaded. -/
def Taken (e : EntryPoint) (r : Registry) (before : List Renderer) (r' : Registry)
    (after : List Renderer) : Prop :=
  match e.offer with
  | .own l => r' = r.put e.name before.length ∧ after = before ++ [{ language := l }]
  | .shared id => r' = r.put e.name id ∧ after = before
  | .nothing => r' = r ∧ ∃ more, after = before ++ more

theorem registerPublished_on {e : EntryPoint} {published : Published}
    (hload : e.load = .ok published) (r : Registry) (h : Host) :
    let after := ((registerPublished e.name published).on (r, h)).2
    Taken e r h.renderers after.1 after.2.renderers ∧ after.2.rest = h.rest := by
  cases published with
  | language l =>
      cases hblank : Text.isAllBlank e.name with
      | true =>
          simp only [Taken, EntryPoint.offer, hblank, registerPublished, Host.newRenderer,
            register_blank_on hblank, Act.on_bind, Act.on_onHost, Act.on_ofFunction]
          exact ⟨⟨trivial, _, rfl⟩, rfl⟩
      | false =>
          obtain ⟨h', hreg, hrenderers, hrest⟩ :=
            register_renderer_on hblank h.renderers.length r (h.addRenderer l)
          simp only [Taken, EntryPoint.offer, hload, hblank, registerPublished,
            Host.newRenderer, Act.on_bind, Act.on_onHost, Act.on_ofFunction, hreg]
          exact ⟨⟨trivial, hrenderers⟩, hrest⟩
  | renderer id =>
      cases hblank : Text.isAllBlank e.name with
      | true =>
          simp only [Taken, EntryPoint.offer, hblank, registerPublished,
            register_blank_on hblank]
          exact ⟨⟨trivial, [], by simp⟩, trivial⟩
      | false =>
          obtain ⟨h', hreg, hrenderers, hrest⟩ := register_renderer_on hblank id r h
          simp only [Taken, EntryPoint.offer, hload, hblank, registerPublished, hreg]
          exact ⟨⟨rfl, hrenderers⟩, hrest⟩
  | parser p =>
      obtain ⟨f, hf⟩ := register_other_on e.name p.typeName r h
      simp [Taken, EntryPoint.offer, hload, registerPublished, hf]
  | other typeName =>
      obtain ⟨f, hf⟩ := register_other_on e.name typeName r h
      simp [Taken, EntryPoint.offer, hload, registerPublished, hf]
  | broken f => simp [Taken, EntryPoint.offer, hload, registerPublished]

theorem load_on (e : EntryPoint) (label : String) (r : Registry) (h : Host) :
    ∃ b r' h', (Discovery.load e label (registerPublished e.name)).on (r, h) = (.ok b, r', h') ∧
      Taken e r h.renderers r' h'.renderers ∧ h'.rest = h.rest := by
  cases hload : e.load with
  | error f =>
      have htaken : Taken e r h.renderers r h.renderers := by
        simp [Taken, EntryPoint.offer, hload]
      cases hm : f.isMissingDependency <;>
        simp only [Discovery.load, hload, hm, Act.on_bind, Act.on_onHost, Act.on_change,
          Host.on_record, Act.on_pure, if_true, Bool.false_eq_true, if_false]
      all_goals exact ⟨_, _, _, rfl, htaken, by simp only [Host.rest_logged]; rfl⟩
  | ok published =>
      obtain ⟨htaken, hrest⟩ :=
        registerPublished_on hload r { h with loaded := h.loaded ++ [e.place] }
      simp only [Discovery.load, hload, Act.on_bind, Act.on_onHost, Act.on_change,
        Act.on_attempt]
      rcases hu : (registerPublished e.name published).on
        (r, { h with loaded := h.loaded ++ [e.place] }) with ⟨outcome, r', h'⟩
      simp only [hu] at htaken hrest
      cases outcome with
      | ok u => exact ⟨true, r', h', rfl, htaken, hrest⟩
      | error f =>
          refine ⟨false, r', _, rfl, htaken, ?_⟩
          exact (Host.rest_logged ..).trans hrest

/-! ## Resolving a name -/

/-- All that can come of resolving a name. -/
inductive Resolution (name : String) (r : Registry) (h : Host) :
    Except Failure RendererId × Registry × Host → Prop
  | inUse {id : RendererId} (found : r.renderer? name = some id) :
      Resolution name r h (.ok id, r, h)
  | unknown (free : r.renderer? name = none) (idle : r.pending? name = none) :
      Resolution name r h (.error (.noRenderer name r.names), r, h)
  | made {e : EntryPoint} {l : Language} {h' : Host} (free : r.renderer? name = none)
      (waits : r.pending? name = some e) (offers : e.offer = .own l) (rest : h'.rest = h.rest)
      (renderers : h'.renderers = h.renderers ++ [{ language := l }]) :
      Resolution name r h (.ok h.renderers.length, r.put name h.renderers.length, h')
  | shared {e : EntryPoint} {id : RendererId} {h' : Host} (free : r.renderer? name = none)
      (waits : r.pending? name = some e) (offers : e.offer = .shared id)
      (rest : h'.rest = h.rest) (renderers : h'.renderers = h.renderers) :
      Resolution name r h (.ok id, r.put name id, h')
  | failed {e : EntryPoint} {more : List Renderer} {h' : Host} (free : r.renderer? name = none)
      (waits : r.pending? name = some e) (offers : e.offer = .nothing)
      (rest : h'.rest = h.rest) (renderers : h'.renderers = h.renderers ++ more) :
      Resolution name r h (.error (.noRenderer name r.names), r.dropPending name, h')

theorem pending?_name {r : Registry} {name : String} {e : EntryPoint}
    (h : r.pending? name = some e) : e.name = name := by
  simpa using List.find?_some h

@[simp] theorem dropPending_put (r : Registry) (name : String) (id : RendererId) :
    (r.dropPending name).put name id = r.put name id := by
  simp [dropPending, put, List.filter_filter]

theorem renderer?_put (r : Registry) (name other : String) (id : RendererId) :
    (r.put name id).renderer? other = if other = name then some id else r.renderer? other :=
  lookup_insertKey name other id r.renderers

theorem resolve_on (name : String) (r : Registry) (h : Host) :
    Resolution name r h ((resolve name).on (r, h)) := by
  cases hr : r.renderer? name with
  | some id =>
      simp only [resolve, Act.on_bind, Act.on_own, hr, Option.isNone_some, Bool.false_and,
        Bool.false_eq_true, if_false, Act.on_pure]
      exact .inUse hr
  | none =>
      cases hp : r.pending? name with
      | none =>
          simp only [resolve, Act.on_bind, Act.on_own, hr, hp, Option.isSome_none,
            Bool.and_false, Bool.false_eq_true, if_false, Act.on_throw]
          exact .unknown hr hp
      | some e =>
          have hname := pending?_name hp
          obtain ⟨b, r', h', hload, htaken, hrest⟩ :=
            load_on e "renderer entry point" (r.dropPending name) h
          simp only [resolve, loadPending, Act.on_bind, Act.on_own, hr, hp, Option.isNone_none,
            Option.isSome_some, Bool.and_true, if_true, Act.on_setOwn, hload, Act.on_pure]
          cases hoffer : e.offer with
          | own l =>
              simp only [Taken, hoffer, hname, dropPending_put] at htaken
              obtain ⟨rfl, hrenderers⟩ := htaken
              simp only [renderer?_put, if_true, Act.on_pure]
              exact .made hr hp hoffer hrest hrenderers
          | shared id =>
              simp only [Taken, hoffer, hname, dropPending_put] at htaken
              obtain ⟨rfl, hrenderers⟩ := htaken
              simp only [renderer?_put, if_true, Act.on_pure]
              exact .shared hr hp hoffer hrest hrenderers
          | nothing =>
              simp only [Taken, hoffer] at htaken
              obtain ⟨rfl, more, hrenderers⟩ := htaken
              have hfree : (r.dropPending name).renderer? name = none := hr
              simp only [hfree, Act.on_throw]
              exact .failed hr hp hoffer hrest hrenderers

/-! ## What names stand for -/

@[simp] theorem renderer?_dropPending (r : Registry) (name other : String) :
    (r.dropPending name).renderer? other = r.renderer? other := rfl

theorem pending?_dropPending (r : Registry) (name other : String) :
    (r.dropPending name).pending? other = if other = name then none else r.pending? other := by
  simp only [pending?, dropPending, List.find?_filter]
  split
  · simp_all
  · next hne =>
    congr 1
    funext e
    by_cases he : e.name = other <;> simp [he, hne]

theorem ne_of_waits {r : Registry} {name other : String}
    (h : ((r.dropPending name).pending? other).isSome) :
    other ≠ name ∧ (r.pending? other).isSome := by
  rw [pending?_dropPending] at h
  by_cases ho : other = name
  · simp [ho] at h
  · exact ⟨ho, by simpa [ho] using h⟩

@[simp] theorem pending?_put (r : Registry) (name other : String) (id : RendererId) :
    (r.put name id).pending? other = (r.dropPending name).pending? other := rfl

theorem isSome_renderer?_iff (r : Registry) (name : String) :
    (r.renderer? name).isSome ↔ name ∈ r.names := by
  simp only [renderer?, names, List.lookup_isSome_iff, List.mem_map, beq_iff_eq]
  exact exists_congr fun _ => and_congr_right fun _ => eq_comm

theorem names_put_of_free {r : Registry} {name : String} (h : r.renderer? name = none)
    (id : RendererId) : (r.put name id).names = r.names ++ [name] := by
  apply map_insertKey_of_notMem
  have hnone : ¬(r.renderer? name).isSome := by simp [h]
  exact fun hmem => hnone ((isSome_renderer?_iff r name).mpr hmem)

/-- The language that a name stands for, whether its renderer is there or its plug-in
waits. -/
def language? (r : Registry) (h : Host) (name : String) : Option Language :=
  match r.renderer? name with
  | some id => h.languageOf? id
  | none =>
    match (r.pending? name).map EntryPoint.offer with
    | some (.own l) => some l
    | some (.shared id) => h.languageOf? id
    | _ => none

/-- The renderer that a name stands for; one that is to be made has no model yet. -/
def rendererFor? (r : Registry) (h : Host) (name : String) : Option Renderer :=
  match r.renderer? name with
  | some id => h.renderer? id
  | none =>
    match (r.pending? name).map EntryPoint.offer with
    | some (.own l) => some { language := l }
    | some (.shared id) => h.renderer? id
    | _ => none

theorem language?_eq_map (r : Registry) (h : Host) (name : String) :
    r.language? h name = (r.rendererFor? h name).map (·.language) := by
  unfold language? rendererFor?
  split
  · rfl
  · split <;> rfl

theorem rendererFor?_congr {r : Registry} {h h' : Host} (e : h'.renderers = h.renderers)
    (name : String) : r.rendererFor? h' name = r.rendererFor? h name := by
  simp only [rendererFor?, Host.renderer?, e]

/-- Whether a name is in use or its plug-in offers a renderer. -/
def resolves (r : Registry) (name : String) : Bool :=
  (r.renderer? name).isSome || (r.pending? name).any fun e =>
    match e.offer with
    | .nothing => false
    | _ => true

/-- The names in use once a name has been resolved. -/
def namesAfter (languages : String → Option Language) (names : List String) (name : String) :
    List String :=
  if (languages name).isSome ∧ name ∉ names then names ++ [name] else names

def WaitsFree (r : Registry) : Prop :=
  ∀ name, (r.pending? name).isSome → r.renderer? name = none

theorem WaitsFree.put {r : Registry} (free : r.WaitsFree) (name : String) (id : RendererId) :
    (r.put name id).WaitsFree := by
  intro other hother
  obtain ⟨ho, hwaits⟩ := ne_of_waits hother
  rw [renderer?_put, if_neg ho, free other hwaits]

def Reaches (r : Registry) (id : RendererId) : Prop :=
  (∃ name, r.renderer? name = some id) ∨
    ∃ name e, r.pending? name = some e ∧ e.offer = .shared id

theorem reaches_dropPending {r : Registry} {name : String} {id : RendererId}
    (h : (r.dropPending name).Reaches id) : r.Reaches id := by
  rcases h with hinUse | ⟨other, e, he, hid⟩
  · exact .inl hinUse
  · rw [pending?_dropPending] at he
    split at he
    · cases he
    · exact .inr ⟨other, e, he, hid⟩

theorem reaches_put {r : Registry} {name : String} {id other : RendererId}
    (h : (r.put name id).Reaches other) : other = id ∨ r.Reaches other := by
  rcases h with ⟨name', hname⟩ | hwaits
  · rw [renderer?_put] at hname
    split at hname
    · exact .inl (Option.some.inj hname).symm
    · exact .inr (.inl ⟨name', hname⟩)
  · exact .inr (reaches_dropPending (.inr hwaits))

/-- All renderers that a registry has or waits for are there. -/
def Grounded (r : Registry) (h : Host) : Prop :=
  ∀ id, r.Reaches id → id < h.renderers.length

theorem Grounded.mono {r : Registry} {h h' : Host} (g : r.Grounded h)
    (k : h.KeepsLanguages h') : r.Grounded h' :=
  fun id hid => Nat.lt_of_lt_of_le (g id hid) k.length_le

theorem Grounded.inUse {r : Registry} {h : Host} (g : r.Grounded h) {name : String}
    {id : RendererId} (hid : r.renderer? name = some id) : id < h.renderers.length :=
  g id (.inl ⟨name, hid⟩)

theorem Grounded.waiting {r : Registry} {h : Host} (g : r.Grounded h) {name : String}
    {e : EntryPoint} {id : RendererId} (he : r.pending? name = some e)
    (hid : e.offer = .shared id) : id < h.renderers.length :=
  g id (.inr ⟨name, e, he, hid⟩)

theorem Grounded.language?_eq {r : Registry} {h h' : Host} (g : r.Grounded h)
    (k : h.KeepsLanguages h') (name : String) : r.language? h' name = r.language? h name := by
  unfold language?
  cases hr : r.renderer? name with
  | some id => exact k id (g.inUse hr)
  | none =>
      cases hp : r.pending? name with
      | none => rfl
      | some e =>
          cases hoffer : e.offer with
          | nothing => simp [hoffer]
          | own l => simp [hoffer]
          | shared id =>
              simpa [hoffer] using k id (g.waiting hp hoffer)

namespace Resolution

variable {name : String} {r r' : Registry} {h h' : Host} {outcome : Except Failure RendererId}

theorem rest_eq (res : Resolution name r h (outcome, r', h')) : h'.rest = h.rest := by
  cases res <;> first | rfl | assumption

theorem renderers_eq (res : Resolution name r h (outcome, r', h')) :
    ∃ more, h'.renderers = h.renderers ++ more := by
  cases res with
  | inUse found => exact ⟨[], by simp⟩
  | unknown free idle => exact ⟨[], by simp⟩
  | made free waits offers rest renderers => exact ⟨_, renderers⟩
  | shared free waits offers rest renderers => exact ⟨[], by simpa using renderers⟩
  | failed free waits offers rest renderers => exact ⟨_, renderers⟩

theorem renderer?_eq (res : Resolution name r h (outcome, r', h')) {id : RendererId}
    (hid : id < h.renderers.length) : h'.renderer? id = h.renderer? id := by
  obtain ⟨more, hmore⟩ := res.renderers_eq
  exact Host.renderer?_of_append hmore hid

theorem keepsLanguages (res : Resolution name r h (outcome, r', h')) : h.KeepsLanguages h' := by
  obtain ⟨more, hmore⟩ := res.renderers_eq
  exact .of_append hmore

/-- A registry comes to reach new renderers only. -/
theorem reaches (res : Resolution name r h (outcome, r', h')) {id : RendererId}
    (hid : r'.Reaches id) : r.Reaches id ∨ h.renderers.length ≤ id := by
  cases res with
  | inUse found => exact .inl hid
  | unknown free idle => exact .inl hid
  | made free waits offers rest renderers =>
      exact (reaches_put hid).symm.imp_right fun e => Nat.le_of_eq e.symm
  | shared free waits offers rest renderers =>
      refine .inl ((reaches_put hid).elim ?_ fun hr => hr)
      rintro rfl
      exact .inr ⟨name, _, waits, offers⟩
  | failed free waits offers rest renderers => exact .inl (reaches_dropPending hid)

theorem grounded (res : Resolution name r h (outcome, r', h')) (g : r.Grounded h) :
    r'.Grounded h' := by
  have g' : r.Grounded h' := g.mono res.keepsLanguages
  intro id hid
  cases res with
  | inUse found => exact g' id hid
  | unknown free idle => exact g' id hid
  | made free waits offers rest renderers =>
      rcases reaches_put hid with rfl | hr
      · simp [renderers]
      · exact g' id hr
  | shared free waits offers rest renderers =>
      rcases reaches_put hid with rfl | hr
      · exact g'.waiting waits offers
      · exact g' id hr
  | failed free waits offers rest renderers => exact g' id (reaches_dropPending hid)

theorem language?_eq (res : Resolution name r h (outcome, r', h')) (g : r.Grounded h)
    (other : String) : r'.language? h' other = r.language? h other := by
  have hsame := g.language?_eq res.keepsLanguages other
  cases res with
  | inUse found => rfl
  | unknown free idle => rfl
  | made free waits offers rest renderers =>
      by_cases ho : other = name
      · subst ho
        simp [language?, renderer?_put, free, waits, offers, Host.languageOf?, Host.renderer?,
          renderers]
      · rw [← hsame]
        simp [language?, renderer?_put, pending?_dropPending, ho]
  | shared free waits offers rest renderers =>
      by_cases ho : other = name
      · subst ho
        simp [language?, renderer?_put, free, waits, offers, Host.languageOf?, Host.renderer?,
          renderers]
      · rw [← hsame]
        simp [language?, renderer?_put, pending?_dropPending, ho]
  | failed free waits offers rest renderers =>
      by_cases ho : other = name
      · subst ho
        simp [language?, pending?_dropPending, free, waits, offers]
      · rw [← hsame]
        simp [language?, pending?_dropPending, ho]

/-- A name that is resolved is in use from then on; one that is not stands for nothing. -/
theorem outcome_eq (res : Resolution name r h (outcome, r', h')) (g : r.Grounded h) :
    (∃ id l, outcome = .ok id ∧ r'.renderer? name = some id ∧ h'.languageOf? id = some l ∧
      r.language? h name = some l) ∨
    (outcome = .error (.noRenderer name r.names) ∧ r.language? h name = none) := by
  cases res with
  | inUse found =>
      obtain ⟨l, hl⟩ := Host.exists_languageOf? (g.inUse found)
      exact .inl ⟨_, l, rfl, found, hl, by simpa [language?, found] using hl⟩
  | unknown free idle => exact .inr ⟨rfl, by simp [language?, free, idle]⟩
  | @made _ l _ free waits offers rest renderers =>
      refine .inl ⟨_, l, rfl, by simp [renderer?_put], ?_, by simp [language?, free, waits, offers]⟩
      simp [Host.languageOf?, Host.renderer?, renderers]
  | shared free waits offers rest renderers =>
      obtain ⟨l, hl⟩ := Host.exists_languageOf? (g.waiting waits offers)
      refine .inl ⟨_, l, rfl, by simp [renderer?_put], ?_, ?_⟩
      · simpa [Host.languageOf?, Host.renderer?, renderers] using hl
      · simpa [language?, free, waits, offers] using hl
  | failed free waits offers rest renderers =>
      exact .inr ⟨rfl, by simp [language?, free, waits, offers]⟩

/-- What is found is the renderer that the name stands for. -/
theorem renderer?_found {id : RendererId} (res : Resolution name r h (.ok id, r', h')) :
    h'.renderer? id = r.rendererFor? h name := by
  cases res with
  | inUse found => simp [rendererFor?, found]
  | made free waits offers rest renderers =>
      simp [rendererFor?, free, waits, offers, Host.renderer?, renderers]
  | shared free waits offers rest renderers =>
      simp [rendererFor?, free, waits, offers, Host.renderer?, renderers]

theorem outcome_cases (res : Resolution name r h (outcome, r', h')) :
    (r.resolves name = true ∧ ∃ id, outcome = .ok id) ∨
      (r.resolves name = false ∧ outcome = .error (.noRenderer name r.names)) := by
  cases res with
  | inUse found => exact .inl ⟨by simp [resolves, found], _, rfl⟩
  | unknown free idle => exact .inr ⟨by simp [resolves, free, idle], rfl⟩
  | made free waits offers rest renderers =>
      exact .inl ⟨by simp [resolves, waits, offers], _, rfl⟩
  | shared free waits offers rest renderers =>
      exact .inl ⟨by simp [resolves, waits, offers], _, rfl⟩
  | failed free waits offers rest renderers =>
      exact .inr ⟨by simp [resolves, free, waits, offers], rfl⟩

theorem names_eq (res : Resolution name r h (outcome, r', h')) (g : r.Grounded h) :
    r'.names = namesAfter (r.language? h) r.names name := by
  have hmem := isSome_renderer?_iff r name
  rcases res.outcome_eq g with ⟨id, l, houtcome, -, -, hl⟩ | ⟨houtcome, hl⟩
  · cases res with
    | inUse found =>
        have hin : name ∈ r.names := hmem.mp (by simp [found])
        simp [namesAfter, hin]
    | unknown free idle => cases houtcome
    | made free waits offers rest renderers =>
        have hout : name ∉ r.names := fun hin => by simp [free, hin] at hmem
        simp [namesAfter, hl, hout, names_put_of_free free]
    | shared free waits offers rest renderers =>
        have hout : name ∉ r.names := fun hin => by simp [free, hin] at hmem
        simp [namesAfter, hl, hout, names_put_of_free free]
    | failed free waits offers rest renderers => cases houtcome
  · cases res with
    | inUse found => cases houtcome
    | unknown free idle => simp [namesAfter, hl]
    | made free waits offers rest renderers => cases houtcome
    | shared free waits offers rest renderers => cases houtcome
    | failed free waits offers rest renderers =>
        simp only [namesAfter, hl, Option.isSome_none, Bool.false_eq_true, false_and, if_false]
        rfl

theorem keeps (res : Resolution name r h (outcome, r', h')) {other : String} {id : RendererId}
    (hother : r.renderer? other = some id) : r'.renderer? other = some id := by
  cases res with
  | inUse found => exact hother
  | unknown free idle => exact hother
  | made free waits offers rest renderers =>
      have hne : other ≠ name := by
        rintro rfl
        simp [free] at hother
      simp [renderer?_put, hne, hother]
  | shared free waits offers rest renderers =>
      have hne : other ≠ name := by
        rintro rfl
        simp [free] at hother
      simp [renderer?_put, hne, hother]
  | failed free waits offers rest renderers => exact hother

theorem renderer?_of_shared (res : Resolution name r h (outcome, r', h'))
    (free : r.renderer? name = none) {e : EntryPoint} (waits : r.pending? name = some e)
    {id : RendererId} (offers : e.offer = .shared id) : r'.renderer? name = some id := by
  cases res with
  | inUse found => cases free.symm.trans found
  | unknown _ idle => cases idle.symm.trans waits
  | made _ waits' offers' _ _ =>
      cases waits.symm.trans waits'
      cases offers.symm.trans offers'
  | shared _ waits' offers' _ _ =>
      cases waits.symm.trans waits'
      cases offers.symm.trans offers'
      simp [renderer?_put]
  | failed _ waits' offers' _ _ =>
      cases waits.symm.trans waits'
      cases offers.symm.trans offers'

theorem waitsFree (res : Resolution name r h (outcome, r', h')) (free : r.WaitsFree) :
    r'.WaitsFree := by
  cases res with
  | inUse found => exact free
  | unknown _ idle => exact free
  | made _ waits offers rest renderers => exact free.put _ _
  | shared _ waits offers rest renderers => exact free.put _ _
  | failed _ waits offers rest renderers =>
      exact fun other hother => free other (ne_of_waits hother).2

end Resolution

theorem resolves_eq {r : Registry} {h : Host} (g : r.Grounded h) (name : String) :
    r.resolves name = (r.language? h name).isSome := by
  have res := resolve_on name r h
  rcases hresolve : (resolve name).on (r, h) with ⟨outcome, r', h'⟩
  rw [hresolve] at res
  rcases res.outcome_cases with ⟨hresolves, id, rfl⟩ | ⟨hresolves, rfl⟩
  · rcases res.outcome_eq g with ⟨_, l, -, -, -, hl⟩ | ⟨houtcome, -⟩
    · rw [hresolves, hl, Option.isSome_some]
    · cases houtcome
  · rcases res.outcome_eq g with ⟨_, l, houtcome, -⟩ | ⟨-, hl⟩
    · cases houtcome
    · rw [hresolves, hl, Option.isSome_none]

end Registry

end BytecodeViewer
