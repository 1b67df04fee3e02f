import BytecodeViewer.Proofs.Plugin.Builtin

/-!
# What is installed

Plug-ins publish kinds of renderers, or renderers that are ready and shared by all.  Where
these are installed, the names of a new registry stand for the same languages on any host.
-/

namespace BytecodeViewer

/-- What the plug-in offers that waits under a name in a new registry. -/
def Registry.offered (plugins : Except Failure (List EntryPoint)) (name : String) : Offer :=
  match (waiting plugins).find? (·.name == name) with
  | some e => e.offer
  | none => .nothing

/-- The entry points, and the languages of the renderers that they share. -/
structure Installation where
  plugins : Except Failure (List EntryPoint)
  ready : List Language
  published : ∀ name id, Registry.offered plugins name = .shared id → id < ready.length

namespace Installation

def language? (i : Installation) (name : String) : Option Language :=
  if name = "Java" then some .java
  else if name = "Dex" then some .dex
  else
    match Registry.offered i.plugins name with
    | .own l => some l
    | .shared id => i.ready[id]?
    | .nothing => none

def shared? (i : Installation) (name : String) : Option Language :=
  match Registry.offered i.plugins name with
  | .shared id => i.ready[id]?
  | _ => none

/-- Renderers of what is installed let themselves be bound, and give their rules. -/
def Cooperative (i : Installation) : Prop :=
  ∀ name l, i.language? name = some l → l.Cooperative

/-- The renderers that are shared are the first ones of the host. -/
structure On (i : Installation) (h : Host) : Prop where
  plugins : h.plugins = i.plugins
  ready : ∀ id < i.ready.length, h.languageOf? id = i.ready[id]?

variable {i : Installation} {h h' : Host} {r : Registry} {n : Nat}

theorem On.lt (on : i.On h) {id : RendererId} (hid : id < i.ready.length) :
    id < h.renderers.length := by
  have hlanguage := on.ready id hid
  cases hr : h.renderer? id with
  | some found => exact Host.lt_of_renderer? hr
  | none => simp [Host.languageOf?, hr, hid] at hlanguage

theorem On.mono (on : i.On h) (plugins : h'.plugins = h.plugins) (k : h.KeepsLanguages h') :
    i.On h' :=
  ⟨plugins.trans on.plugins, fun id hid => (k id (on.lt hid)).trans (on.ready id hid)⟩

/-- A registry has been made for one session.  Apart from renderers that are shared, it
reaches only renderers that have been made since there were `n` of them. -/
structure Owns (i : Installation) (n : Nat) (r : Registry) (h : Host) : Prop where
  start : n ≤ h.renderers.length
  names : r.names = ["Java", "Dex"]
  languages : ∀ name, r.language? h name = i.language? name
  grounded : r.Grounded h
  reaches : ∀ id, r.Reaches id →
    (∃ name, Registry.offered i.plugins name = .shared id) ∨ n ≤ id
  free : r.WaitsFree
  shares : ∀ name id, Registry.offered i.plugins name = .shared id →
    ∃ e, r.pending? name = some e ∧ e.offer = .shared id

/-- A registry that has been made for one session has resolved a name. -/
structure Serves (i : Installation) (n : Nat) (name : String) (r : Registry) : Prop where
  names : r.names = Registry.namesAfter i.language? ["Java", "Dex"] name
  reaches : ∀ id, r.Reaches id →
    (∃ name, Registry.offered i.plugins name = .shared id) ∨ n ≤ id
  free : r.WaitsFree
  shared : ∀ id, Registry.offered i.plugins name = .shared id → r.renderer? name = some id

theorem Owns.serves (owns : i.Owns n r h) (name : String) :
    i.Serves n name ((Registry.resolve name).on (r, h)).2.1 := by
  have res := Registry.resolve_on name r h
  refine ⟨?_, ?_, res.waitsFree owns.free, ?_⟩
  · have names := res.names_eq owns.grounded
    rwa [funext owns.languages, owns.names] at names
  · intro id hid
    rcases res.reaches hid with hold | hnew
    · exact owns.reaches id hold
    · exact .inr (Nat.le_trans owns.start hnew)
  · intro id hoffered
    obtain ⟨e, he, hoffer⟩ := owns.shares _ _ hoffered
    exact res.renderer?_of_shared (owns.free _ (Option.isSome_of_eq_some he)) he hoffer

end Installation

namespace Registry

variable {i : Installation} {h h' : Host} {r : Registry}
  {plugins : Except Failure (List EntryPoint)} {name : String} {n : Nat}

theorem renderer?_fresh : (fresh plugins n).renderer? name =
    if name = "Java" then some n else if name = "Dex" then some (n + 1) else none :=
  renderer?_bare n name

theorem offered_of_waits {e : EntryPoint} (he : (fresh plugins n).pending? name = some e) :
    offered plugins name = e.offer := by
  have hfound : (waiting plugins).find? (·.name == name) = some e := he
  simp [offered, hfound]

theorem offered_of_not_waits (he : (fresh plugins n).pending? name = none) :
    offered plugins name = .nothing := by
  have hfound : (waiting plugins).find? (·.name == name) = none := he
  simp [offered, hfound]

theorem waits_of_offered {id : RendererId} (hshared : offered plugins name = .shared id) :
    ∃ e, (fresh plugins n).pending? name = some e ∧ e.offer = .shared id := by
  cases he : (fresh plugins n).pending? name with
  | none => cases (offered_of_not_waits he).symm.trans hshared
  | some e => exact ⟨e, rfl, (offered_of_waits he).symm.trans hshared⟩

/-- The names of the languages that need no plug-in do not wait. -/
theorem renderer?_fresh_of_waits (hwaits : ((fresh plugins n).pending? name).isSome) :
    (fresh plugins n).renderer? name = none := by
  obtain ⟨e, he⟩ := Option.isSome_iff_exists.mp hwaits
  have hname := pending?_name he
  have hmem : e ∈ waiting plugins := List.mem_of_find?_eq_some he
  have hfree := (List.mem_filter.mp hmem).2
  simp only [hname, Bool.and_eq_true, bne_iff_ne] at hfree
  rw [renderer?_fresh, if_neg hfree.1, if_neg hfree.2]

theorem language?_of_shared {l : Language} (hl : i.shared? name = some l) :
    ∃ id, offered i.plugins name = .shared id ∧ i.ready[id]? = some l ∧
      i.language? name = some l := by
  cases hoffer : offered i.plugins name with
  | nothing => simp [Installation.shared?, hoffer] at hl
  | own l' => simp [Installation.shared?, hoffer] at hl
  | shared id =>
      have hready : i.ready[id]? = some l := by simpa [Installation.shared?, hoffer] using hl
      refine ⟨id, rfl, hready, ?_⟩
      obtain ⟨e, he, -⟩ := waits_of_offered (n := 0) hoffer
      have hnone := renderer?_fresh_of_waits (Option.isSome_of_eq_some he)
      rw [renderer?_fresh] at hnone
      by_cases hjava : name = "Java"
      · simp [hjava] at hnone
      · by_cases hdex : name = "Dex"
        · simp [hdex] at hnone
        · simp [Installation.language?, hjava, hdex, hoffer, hready]

theorem fresh_cases {id : RendererId} (hid : (fresh plugins n).Reaches id) :
    (∃ name, offered plugins name = .shared id) ∨ id = n ∨ id = n + 1 := by
  rcases hid with ⟨name, hname⟩ | ⟨name, e, he, hoffer⟩
  · rw [renderer?_fresh] at hname
    split at hname
    · exact .inr (.inl (Option.some.inj hname).symm)
    · split at hname
      · exact .inr (.inr (Option.some.inj hname).symm)
      · cases hname
  · exact .inl ⟨name, (offered_of_waits he).trans hoffer⟩

theorem language?_fresh (on : i.On h)
    (hrenderers : h'.renderers = h.renderers ++ freshRenderers) (name : String) :
    (fresh h.plugins h.renderers.length).language? h' name = i.language? name := by
  rw [on.plugins]
  by_cases hjava : name = "Java"
  · subst hjava
    simp [language?, renderer?_fresh, Installation.language?, Host.languageOf?, Host.renderer?,
      hrenderers, freshRenderers, Language.builtin]
  · by_cases hdex : name = "Dex"
    · subst hdex
      simp [language?, renderer?_fresh, Installation.language?, Host.languageOf?, Host.renderer?,
        hrenderers, freshRenderers, Language.builtin]
    · have hnone : (fresh i.plugins h.renderers.length).renderer? name = none := by
        rw [renderer?_fresh, if_neg hjava, if_neg hdex]
      rw [Installation.language?, if_neg hjava, if_neg hdex]
      cases he : (fresh i.plugins h.renderers.length).pending? name with
      | none => simp [language?, hnone, he, offered_of_not_waits he]
      | some e =>
          have hoffered := offered_of_waits he
          cases hoffer : e.offer with
          | nothing => simp [language?, hnone, he, hoffer, hoffered]
          | own l => simp [language?, hnone, he, hoffer, hoffered]
          | shared id =>
              rw [hoffer] at hoffered
              have hid := i.published name id hoffered
              have hready := on.ready id hid
              have hlt := on.lt hid
              simp only [Host.languageOf?, Host.renderer?] at hready
              simp [language?, hnone, he, hoffer, hoffered, Host.languageOf?, Host.renderer?,
                hrenderers, List.getElem?_append_left hlt, hready]

theorem owns_fresh (on : i.On h) (hrenderers : h'.renderers = h.renderers ++ freshRenderers) :
    i.Owns h.renderers.length (fresh h.plugins h.renderers.length) h' where
  start := (Host.KeepsLanguages.of_append hrenderers).length_le
  names := rfl
  languages := language?_fresh on hrenderers
  grounded id hid := by
    have hlength : h'.renderers.length = h.renderers.length + 2 := by
      simp [hrenderers, freshRenderers, Language.builtin]
    rw [hlength]
    rcases fresh_cases hid with ⟨name, hshared⟩ | rfl | rfl
    · exact Nat.lt_add_right 2 (on.lt (i.published name id (on.plugins ▸ hshared)))
    · exact Nat.lt_add_of_pos_right Nat.two_pos
    · exact Nat.lt_succ_self _
  reaches id hid := by
    rcases fresh_cases hid with ⟨name, hshared⟩ | rfl | rfl
    · exact .inl ⟨name, on.plugins ▸ hshared⟩
    · exact .inr (Nat.le_refl _)
    · exact .inr (Nat.le_succ _)
  free _ := renderer?_fresh_of_waits
  shares name id hshared := by
    rw [on.plugins]
    exact waits_of_offered hshared

end Registry

namespace Installation

/-- No plug-in is installed. -/
def bare : Installation where
  plugins := .ok []
  ready := []
  published _ _ hshared := nomatch hshared

/-- A plug-in that cannot be loaded. -/
def smali : Installation where
  plugins := .ok [⟨0, .renderers, "Smali", .error (.raised "RuntimeError" "boom")⟩]
  ready := []
  published name id hoffered := by
    have hwaiting : Registry.waiting
        (.ok [⟨0, .renderers, "Smali", .error (.raised "RuntimeError" "boom")⟩]) =
        [⟨0, .renderers, "Smali", .error (.raised "RuntimeError" "boom")⟩] := rfl
    simp only [Registry.offered, hwaiting, List.find?_cons, List.find?_nil] at hoffered
    split at hoffered
    · next hfound =>
      split at hfound
      · cases hfound
        cases hoffered
      · cases hfound
    · cases hoffered

end Installation

end BytecodeViewer
