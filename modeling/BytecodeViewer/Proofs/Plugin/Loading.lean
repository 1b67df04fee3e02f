import BytecodeViewer.Plugin.ParserLookup
import BytecodeViewer.Proofs.Plugin.Builtin

/-!
# Loading plug-ins

Loading the plug-ins that wait in a registry makes no difference to what names stand for,
and looking for a parser leaves all renderers alone.
-/

namespace BytecodeViewer

namespace Registry

structure Grown (r : Registry) (h : Host) (r' : Registry) (h' : Host) : Prop where
  rest : h'.rest = h.rest
  renderers : ∃ more, h'.renderers = h.renderers ++ more
  languages : ∀ name, r'.language? h' name = r.language? h name
  keeps : ∀ name id, r.renderer? name = some id → r'.renderer? name = some id
  grounded : r'.Grounded h'
  free : r'.WaitsFree

variable {name : String} {r r' r'' : Registry} {h h' h'' : Host}

theorem Grown.trans (g : Grown r h r' h') (g' : Grown r' h' r'' h'') : Grown r h r'' h'' where
  rest := g'.rest.trans g.rest
  renderers := by
    obtain ⟨more, hmore⟩ := g.renderers
    obtain ⟨more', hmore'⟩ := g'.renderers
    exact ⟨more ++ more', by rw [hmore', hmore, List.append_assoc]⟩
  languages name := (g'.languages name).trans (g.languages name)
  keeps name id hid := g'.keeps name id (g.keeps name id hid)
  grounded := g'.grounded
  free := g'.free

/-- Loading what waits under a name is resolving the name. -/
theorem loadPending_on (free : r.WaitsFree) (name : String) (h : Host) :
    ∃ outcome r' h', (loadPending name).on (r, h) = (.ok (), r', h') ∧
      Resolution name r h (outcome, r', h') := by
  have res := resolve_on name r h
  cases hp : r.pending? name with
  | none =>
      have hload : (loadPending name).on (r, h) = (.ok (), r, h) := by simp [loadPending, hp]
      cases hr : r.renderer? name with
      | none => exact ⟨_, r, h, hload, .unknown hr hp⟩
      | some id => exact ⟨_, r, h, hload, .inUse hr⟩
  | some e =>
      have hfree := free name (Option.isSome_of_eq_some hp)
      obtain ⟨b, r', h', hload, -⟩ := load_on e "renderer entry point" (r.dropPending name) h
      have hon : (loadPending name).on (r, h) = (.ok (), r', h') := by
        simp [loadPending, hp, hload, Except.map]
      have hresolve : (resolve name).on (r, h) =
          ((r'.renderer? name).elim (.error (.noRenderer name r'.names)) .ok, r', h') := by
        simp only [resolve, Act.on_bind, Act.on_own, hfree, hp, Option.isNone_none,
          Option.isSome_some, Bool.and_true, if_true, hon]
        cases r'.renderer? name <;> rfl
      rw [hresolve] at res
      exact ⟨_, r', h', hon, res⟩

theorem loadEach_on (names : List String) (grounded : r.Grounded h)
    (free : r.WaitsFree) :
    ∃ r' h', (loadEach names).on (r, h) = (.ok (), r', h') ∧ Grown r h r' h' := by
  induction names generalizing r h with
  | nil => exact ⟨r, h, rfl, rfl, ⟨[], by simp⟩, fun _ => rfl, fun _ _ hid => hid, grounded, free⟩
  | cons name names ih =>
      obtain ⟨outcome, r₁, h₁, hload, res⟩ := loadPending_on free name h
      have grown : Grown r h r₁ h₁ := ⟨res.rest_eq, res.renderers_eq, res.language?_eq grounded,
        fun _ _ hid => res.keeps hid, res.grounded grounded, res.waitsFree free⟩
      obtain ⟨r', h', hrest, grown'⟩ := ih grown.grounded grown.free
      exact ⟨r', h', by simp [loadEach, hload, hrest], grown.trans grown'⟩

/-- Loading all plug-ins gives the names that are then in use. -/
theorem loadedNames_on (grounded : r.Grounded h)
    (free : r.WaitsFree) :
    ∃ r' h', loadedNames.on (r, h) = (.ok r'.names, r', h') ∧ Grown r h r' h' := by
  obtain ⟨r', h', hon, grown⟩ := loadEach_on (r.pending.map (·.name)) grounded free
  exact ⟨r', h', by simp [loadedNames, loadAll, hon, Except.map], grown⟩

theorem pickLanguage_on (preferred : Option String) (r : Registry) (h : Host) :
    ∃ language h', (pickLanguage preferred).on (r, h) = (.ok language, r, h') ∧
      h'.rest = h.rest ∧ h'.renderers = h.renderers := by
  cases hname : preferred.filter (· != "") with
  | none => exact ⟨r.names.head?, h, by simp [pickLanguage, hname, Except.map], rfl, rfl⟩
  | some name =>
      cases hcontains : r.contains name with
      | true => exact ⟨some name, h, by simp [pickLanguage, hname, hcontains], rfl, rfl⟩
      | false =>
          refine ⟨r.names.head?, h.logged "dv_core.session" .info ("Language " ++ name ++
            " is not available; using " ++ r.names.head?.getD "None"), ?_, by simp, rfl⟩
          simp [pickLanguage, hname, hcontains, Except.map]

end Registry

namespace ParserLookup

theorem accept_on (name : String) (published : Published) (p : Option Parser) (h : Host) :
    ∃ outcome p', (accept name published).on (p, h) = (outcome, p', h) := by
  cases published <;> simp [accept]

theorem load_on (e : EntryPoint) (p : Option Parser) (h : Host) :
    ∃ b p' h', (Discovery.load e "parser entry point" (accept e.name)).on (p, h) =
        (.ok b, p', h') ∧ h'.rest = h.rest ∧ h'.renderers = h.renderers := by
  cases hload : e.load with
  | error f =>
      cases hm : f.isMissingDependency <;>
        simp only [Discovery.load, hload, hm, Act.on_bind, Act.on_onHost, Act.on_change,
          Host.on_record, Act.on_pure, if_true, Bool.false_eq_true, if_false]
      all_goals exact ⟨_, _, _, rfl, Host.rest_logged .., rfl⟩
  | ok published =>
      obtain ⟨outcome, p', haccept⟩ :=
        accept_on e.name published p { h with loaded := h.loaded ++ [e.place] }
      simp only [Discovery.load, hload, Act.on_bind, Act.on_onHost, Act.on_change,
        Act.on_attempt, haccept]
      cases outcome with
      | ok u => exact ⟨true, p', _, rfl, rfl, rfl⟩
      | error f => exact ⟨false, p', _, rfl, Host.rest_logged .., rfl⟩

theorem tryEach_on (es : List EntryPoint) (p : Option Parser) (h : Host) :
    ∃ p' h', (tryEach es).on (p, h) = (.ok (), p', h') ∧ h'.rest = h.rest ∧
      h'.renderers = h.renderers := by
  induction es generalizing p h with
  | nil => exact ⟨p, h, rfl, rfl, rfl⟩
  | cons e es ih =>
      obtain ⟨b, p₁, h₁, hload, hrest, hrenderers⟩ := load_on e p h
      cases b with
      | true =>
          refine ⟨p₁, h₁.logged channel .debug ("Using bytecode parser " ++ e.name), ?_, ?_,
            hrenderers⟩
          · simp [tryEach, hload]
          · simpa using hrest
      | false =>
          obtain ⟨p', h', htry, hrest', hrenderers'⟩ := ih p₁ h₁
          exact ⟨p', h', by simp [tryEach, hload, htry], hrest'.trans hrest,
            hrenderers'.trans hrenderers⟩

theorem first_on (es : List EntryPoint) (f : Failure) (h : Host) :
    ∃ outcome h', (do
        let ((), parser) ← Act.carrying none (tryEach es)
        match parser with
        | some p => return p
        | none => throw f : Act Host Parser).on h = (outcome, h') ∧ h'.rest = h.rest ∧
      h'.renderers = h.renderers := by
  obtain ⟨p, h', htry, hrest, hrenderers⟩ := tryEach_on es none h
  cases p with
  | none => exact ⟨.error f, h', by simp [htry, Except.map], hrest, hrenderers⟩
  | some p => exact ⟨.ok p, h', by simp [htry, Except.map], hrest, hrenderers⟩

theorem find_on (name : Option String) (h : Host) :
    ∃ outcome h', (find name).on h = (outcome, h') ∧ h'.rest = h.rest ∧
      h'.renderers = h.renderers := by
  obtain ⟨h₁, hpending, hrest, hrenderers⟩ := Discovery.pending_on .parsers h
  obtain ⟨outcome, h', hfirst, hrest', hrenderers'⟩ := first_on
    (name.elim (byName (Discovery.listed .parsers h.plugins)) fun n =>
      (byName (Discovery.listed .parsers h.plugins)).filter (·.name == n))
    (.noParser name ((byName (Discovery.listed .parsers h.plugins)).map (·.name))) h₁
  refine ⟨outcome, h', ?_, hrest'.trans hrest, hrenderers'.trans hrenderers⟩
  rw [find, Act.on_bind, hpending]
  cases name with
  | none => exact hfirst
  | some n => exact hfirst

end ParserLookup

end BytecodeViewer
