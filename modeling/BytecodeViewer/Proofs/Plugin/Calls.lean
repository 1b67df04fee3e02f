import BytecodeViewer.Proofs.Plugin.Builtin
import BytecodeViewer.Proofs.Plugin.Events

/-!
# Calls of a registry

What a call answers is read off the registry as it is afterwards, and what it changes are the
events that it makes happen.
-/

namespace BytecodeViewer

/-! ## The plug-ins that can be loaded -/

namespace Discovery

theorem nodup_firstOfEachName (es : List EntryPoint) :
    ((firstOfEachName es).map (·.name)).Nodup := by
  induction es with
  | nil => exact List.nodup_nil
  | cons first rest ih =>
      refine List.nodup_cons.mpr ⟨fun hmem => ?_, ih.sublist (List.filter_sublist.map _)⟩
      obtain ⟨e, he, hsame⟩ := List.mem_map.mp hmem
      simpa [hsame] using (List.mem_filter.mp he).2

/-- An entry point that is listed is the first one of its name. -/
theorem find?_of_mem_firstOfEachName {e : EntryPoint} {es : List EntryPoint}
    (he : e ∈ firstOfEachName es) : es.find? (·.name == e.name) = some e := by
  induction es with
  | nil => cases he
  | cons first rest ih =>
      rcases List.mem_cons.mp he with rfl | hrest
      · simp
      · obtain ⟨hin, hne⟩ := List.mem_filter.mp hrest
        have hfirst : (first.name == e.name) = false :=
          beq_false_of_ne (Ne.symm (by simpa using hne))
        rw [List.find?_cons, hfirst]
        exact ih hin

theorem pending_loaded (group : PluginGroup) (h : Host) :
    ((pending group).on h).2.loaded = h.loaded := by
  cases hplugins : h.plugins with
  | ok entryPoints => simp [pending, hplugins]
  | error f => simp [pending, hplugins, Host.logged]

end Discovery

namespace Registry

theorem mem_waiting {plugins : Except Failure (List EntryPoint)} {e : EntryPoint}
    (he : e ∈ waiting plugins) :
    ∃ es, plugins = .ok es ∧
      es.find? (fun e' => e'.group == .renderers && e'.name == e.name) = some e := by
  have hlisted := (List.mem_filter.mp he).1
  cases plugins with
  | error f => cases hlisted
  | ok es =>
      refine ⟨es, rfl, ?_⟩
      rw [← Discovery.find?_of_mem_firstOfEachName hlisted, List.find?_filter]
      simp only [Bool.decide_and, Bool.decide_eq_true]

theorem nodup_waiting (plugins : Except Failure (List EntryPoint)) :
    ((waiting plugins).map (·.name)).Nodup := by
  have hlisted : ((Discovery.listed .renderers plugins).map (·.name)).Nodup := by
    cases plugins with
    | error f => exact List.nodup_nil
    | ok es => exact Discovery.nodup_firstOfEachName _
  exact hlisted.sublist (List.filter_sublist.map _)

/-- Making a registry loads no plug-in. -/
theorem builtin_loaded (h : Host) : ((builtin true).on h).2.loaded = h.loaded := by
  have hloaded := Discovery.pending_loaded .renderers
    { h with renderers := h.renderers ++ freshRenderers }
  obtain ⟨h', hpending, -⟩ := Discovery.pending_on .renderers
    { h with renderers := h.renderers ++ freshRenderers }
  rw [hpending] at hloaded
  have hnames : (Language.builtin.map (·.name)).zip ([h.renderers.length,
      h.renderers.length + 1].map Candidate.renderer) =
      [("Java", .renderer h.renderers.length), ("Dex", .renderer (h.renderers.length + 1))] := rfl
  simp only [builtin, Act.on_bind, newRenderers_builtin_on, make, hnames, Act.on_carrying,
    registerOwn_builtin_on, if_true, discover, Act.on_onHost, hpending, Act.on_setOwn]
  exact hloaded

/-! ## Loading -/

theorem register_loaded (name : String) (candidate : Candidate) (r : Registry) (h : Host) :
    ((register (some name) candidate).on (r, h)).2.2.loaded = h.loaded := by
  cases hblank : Text.isAllBlank name with
  | true => rw [register_blank_on hblank]
  | false =>
      cases candidate with
      | other typeName => simp [register, Option.filter, hblank]
      | renderer id =>
          cases hr : (r.renderer? name).isSome with
          | true => simp [register, Option.filter, hblank, hr, Host.logged]
          | false => simp [register, Option.filter, hblank, hr]

theorem registerPublished_loaded (name : String) (published : Published) (r : Registry)
    (h : Host) : ((registerPublished name published).on (r, h)).2.2.loaded = h.loaded := by
  cases published with
  | language l => simp [registerPublished, Host.newRenderer, register_loaded, Host.addRenderer]
  | renderer id => exact register_loaded name _ r h
  | parser p => exact register_loaded name _ r h
  | other typeName => exact register_loaded name _ r h
  | broken f => rfl

theorem load_loaded (e : EntryPoint) (label : String) (r : Registry) (h : Host) :
    ((Discovery.load e label (registerPublished e.name)).on (r, h)).2.2.loaded =
      h.loaded ++ [e.place] := by
  cases hload : e.load with
  | error f =>
      cases hm : f.isMissingDependency <;>
        simp [Discovery.load, hload, hm, Host.logged]
  | ok published =>
      have hkept := registerPublished_loaded e.name published r
        { h with loaded := h.loaded ++ [e.place] }
      simp only [Discovery.load, hload, Act.on_bind, Act.on_onHost, Act.on_change,
        Act.on_attempt]
      rcases hu : (registerPublished e.name published).on
        (r, { h with loaded := h.loaded ++ [e.place] }) with ⟨outcome, r', h'⟩
      rw [hu] at hkept
      cases outcome with
      | ok u => exact hkept
      | error f => simpa [Host.logged] using hkept

/-- The renderer that a plug-in gives when it is loaded. -/
def given (e : EntryPoint) (h : Host) : Option RendererId :=
  match e.offer with
  | .own _ => some h.renderers.length
  | .shared id => some id
  | .nothing => none

def loading (name : String) (r : Registry) (h : Host) : List Event :=
  (r.pending? name).toList.map fun e => .load e (given e h)

def loadingEach : List String → Registry → Host → List Event
  | [], _, _ => []
  | name :: names, r, h =>
    loading name r h ++ loadingEach names ((loadPending name).on (r, h)).2.1
      ((loadPending name).on (r, h)).2.2

/-- A host has loaded the plug-ins that some events load. -/
def HasLoaded (events : List Event) (h h' : Host) : Prop :=
  h'.loaded = h.loaded ++ (loads events).map (·.place)

theorem HasLoaded.trans {events more : List Event} {h h' h'' : Host}
    (first : HasLoaded events h h') (second : HasLoaded more h' h'') :
    HasLoaded (events ++ more) h h'' := by
  unfold HasLoaded at first second ⊢
  rw [second, first, loads_append, List.map_append, List.append_assoc]

theorem loadPending_leads (name : String) (r : Registry) (h : Host) :
    ∃ r' h', (loadPending name).on (r, h) = (.ok (), r', h') ∧
      Leads r (loading name r h) r' ∧ HasLoaded (loading name r h) h h' := by
  cases hp : r.pending? name with
  | none =>
      refine ⟨r, h, by simp [loadPending, hp], ?_, ?_⟩
      · simpa [loading, hp] using Leads.refl
      · simp [loading, hp, HasLoaded]
  | some e =>
      have hname := pending?_name hp
      obtain ⟨b, r', h', hload, htaken, -⟩ :=
        load_on e "renderer entry point" (r.dropPending name) h
      have hloaded := load_loaded e "renderer entry point" (r.dropPending name) h
      rw [hload] at hloaded
      have happly : Event.apply r (.load e (given e h)) = r' := by
        unfold Taken at htaken
        cases hoffer : e.offer with
        | own l =>
            rw [hoffer] at htaken
            rw [htaken.1, given, hoffer, ← hname, dropPending_put]
            rfl
        | shared id =>
            rw [hoffer] at htaken
            rw [htaken.1, given, hoffer, ← hname, dropPending_put]
            rfl
        | nothing =>
            rw [hoffer] at htaken
            rw [htaken.1, given, hoffer, ← hname]
            rfl
      have hfits : Event.Fits r (.load e (given e h)) := by
        change r.pending? e.name = some e
        rw [hname, hp]
      refine ⟨r', h', by simp [loadPending, hp, hload, Except.map], ?_, ?_⟩
      · simp only [loading, hp, Option.toList_some, List.map_cons, List.map_nil]
        exact .step hfits (happly ▸ .refl)
      · simpa [loading, hp, HasLoaded, loads, Event.loaded?] using hloaded

/-- Whether it can be loaded or not, a plug-in does not wait once it has been asked for. -/
theorem loading_idle {name : String} {r r' : Registry} {h : Host}
    (leads : Leads r (loading name r h) r') :
    name ∉ r'.pending.map (·.name) := by
  intro hwaits
  obtain ⟨e, he, hname⟩ := List.mem_map.mp hwaits
  obtain ⟨hpending, hevents⟩ := leads.mem_pending he
  have hsome : (r.pending? name).isSome :=
    List.find?_isSome.mpr ⟨e, hpending, beq_iff_eq.mpr hname⟩
  obtain ⟨e', he'⟩ := Option.isSome_iff_exists.mp hsome
  apply hevents
  simp [loading, he', Event.name, pending?_name he', hname]

theorem loadEach_leads (names : List String) (r : Registry) (h : Host) :
    ∃ r' h', (loadEach names).on (r, h) = (.ok (), r', h') ∧
      Leads r (loadingEach names r h) r' ∧ HasLoaded (loadingEach names r h) h h' := by
  induction names generalizing r h with
  | nil => exact ⟨r, h, rfl, .refl, by simp [loadingEach, HasLoaded]⟩
  | cons name names ih =>
      obtain ⟨r₁, h₁, hload, leads₁, loaded₁⟩ := loadPending_leads name r h
      obtain ⟨r', h', hrest, leads', loaded'⟩ := ih r₁ h₁
      have hevents : loadingEach (name :: names) r h =
          loading name r h ++ loadingEach names r₁ h₁ := by simp [loadingEach, hload]
      rw [hevents]
      exact ⟨r', h', by simp [loadEach, hload, hrest], leads₁.trans leads', loaded₁.trans loaded'⟩

/-! ## Calls -/

inductive Call where
  /-- Registers something under a name, if it is a text. -/
  | register (name : Option String) (candidate : Candidate)
  | resolve (name : String)
  /-- Lists the names, of the plug-ins that wait too if these are loaded first. -/
  | names (loading : Bool)
  | contains (name : String)

inductive Answer where
  | done
  | renderer (id : RendererId)
  | names (names : List String)
  | truth (b : Bool)
  deriving DecidableEq

namespace Call

def act : Call → HostedAct Registry Answer
  | register name candidate => do
    Registry.register name candidate
    return .done
  | resolve name => do
    let id ← Registry.resolve name
    return .renderer id
  | names true => do
    let names ← loadedNames
    return .names names
  | names false => do
    let r ← Act.own
    return .names r.names
  | contains name => do
    let r ← Act.own
    return .truth (r.contains name)

/-- What a call makes happen. -/
def events (r : Registry) (h : Host) : Call → List Event
  | register (some name) (.renderer id) => if Text.isAllBlank name then [] else [.put name id]
  | register _ _ => []
  | resolve name => if (r.renderer? name).isNone then loading name r h else []
  | names true => loadingEach (r.pending.map (·.name)) r h
  | names false => []
  | contains _ => []

/-- What a call answers, by the registry as it is afterwards. -/
def answer (after : Registry) : Call → Except Failure Answer
  | register name candidate =>
    match name.filter (!Text.isAllBlank ·), candidate with
    | none, _ => .error .badRendererName
    | some _, .other typeName => .error (.notRenderer typeName)
    | some _, .renderer _ => .ok .done
  | resolve name =>
    match after.renderer? name with
    | some id => .ok (.renderer id)
    | none => .error (.noRenderer name after.names)
  | names _ => .ok (.names after.names)
  | contains name => .ok (.truth (after.contains name))

/-- Why a call fails: what is registered has no proper name or is no renderer, or nothing is
registered under a name or waits under it. -/
inductive Refused (after : Registry) : Call → Failure → Prop
  | badName {name : Option String} {candidate : Candidate}
      (blank : ∀ n, name = some n → Text.isAllBlank n = true) :
      Refused after (register name candidate) .badRendererName
  | badObject {name typeName : String} (named : Text.isAllBlank name = false) :
      Refused after (register (some name) (.other typeName)) (.notRenderer typeName)
  | unknown {name : String} (free : name ∉ after.names)
      (idle : name ∉ after.pending.map (·.name)) :
      Refused after (resolve name) (.noRenderer name after.names)

theorem register_on (name : Option String) (candidate : Candidate) (r : Registry) (h : Host) :
    ∃ r' h', (register name candidate).act.on (r, h) =
        ((register name candidate).answer r', r', h') ∧
      Leads r ((register name candidate).events r h) r' ∧ h'.loaded = h.loaded := by
  cases name with
  | none => exact ⟨r, h, rfl, .refl, rfl⟩
  | some name =>
      cases hblank : Text.isAllBlank name with
      | true =>
          refine ⟨r, h, ?_, ?_, rfl⟩
          · simp [act, answer, register_blank_on hblank, Option.filter, hblank, Except.map]
          · cases candidate <;> simpa [events, hblank] using Leads.refl
      | false =>
          cases candidate with
          | other typeName =>
              refine ⟨r, h, ?_, .refl, rfl⟩
              simp [act, answer, Registry.register, Option.filter, hblank]
          | renderer id =>
              obtain ⟨h', hon, -⟩ := register_renderer_on hblank id r h
              have hloaded := register_loaded name (.renderer id) r h
              rw [hon] at hloaded
              refine ⟨r.put name id, h', ?_, ?_, hloaded⟩
              · simp [act, answer, hon, Option.filter, hblank, Except.map]
              · simp only [events, hblank, Bool.false_eq_true, if_false]
                exact .step trivial .refl

theorem resolve_leads (name : String) (r : Registry) (h : Host) :
    ∃ r' h', (resolve name).act.on (r, h) = ((resolve name).answer r', r', h') ∧
      Leads r ((resolve name).events r h) r' ∧ HasLoaded ((resolve name).events r h) h h' := by
  cases hr : r.renderer? name with
  | some id =>
      refine ⟨r, h, ?_, ?_, ?_⟩
      · simp [act, answer, Registry.resolve, hr]
      · simpa [events, hr] using Leads.refl
      · simp [events, hr, HasLoaded]
  | none =>
      obtain ⟨r', h', hload, leads, loaded⟩ := loadPending_leads name r h
      refine ⟨r', h', ?_, by simpa [events, hr] using leads, by simpa [events, hr] using loaded⟩
      have hres : (Registry.resolve name).on (r, h) = (match r'.renderer? name with
          | some id => .ok id
          | none => .error (.noRenderer name r'.names), r', h') := by
        cases hp : r.pending? name with
        | none =>
            have hsame : (loadPending name).on (r, h) = (.ok (), r, h) := by
              simp [loadPending, hp]
            cases hsame.symm.trans hload
            simp [Registry.resolve, hr, hp]
        | some e =>
            simp only [Registry.resolve, Act.on_bind, Act.on_own, hr, hp, Option.isNone_none,
              Option.isSome_some, Bool.and_true, if_true, hload]
            cases r'.renderer? name <;> rfl
      simp only [act, answer, Act.on_bind, hres]
      cases r'.renderer? name <;> rfl

/-- What cannot be resolved does not wait any longer. -/
theorem idle_of_resolve {name : String} {r r' : Registry} {h : Host}
    (leads : Leads r ((resolve name).events r h) r') (free : name ∉ r'.names) :
    name ∉ r'.pending.map (·.name) := by
  have hnone : r.renderer? name = none := by
    rw [← Option.not_isSome_iff_eq_none, isSome_renderer?_iff]
    exact fun hmem => free (leads.names_prefix.subset hmem)
  simp only [events, hnone, Option.isNone_none, if_true] at leads
  exact loading_idle leads

theorem act_on (call : Call) (r : Registry) (h : Host) :
    ∃ r' h', call.act.on (r, h) = (call.answer r', r', h') ∧
      Leads r (call.events r h) r' ∧ HasLoaded (call.events r h) h h' := by
  cases call with
  | register name candidate =>
      obtain ⟨r', h', hon, leads, loaded⟩ := register_on name candidate r h
      refine ⟨r', h', hon, leads, ?_⟩
      have hnone : loads ((register name candidate).events r h) = [] := by
        cases name with
        | none => rfl
        | some name =>
            cases candidate with
            | other typeName => rfl
            | renderer id =>
                cases hblank : Text.isAllBlank name <;>
                  simp [events, hblank, loads, Event.loaded?]
      simp [HasLoaded, hnone, loaded]
  | resolve name => exact resolve_leads name r h
  | names load =>
      cases load with
      | true =>
          obtain ⟨r', h', hon, leads, loaded⟩ := loadEach_leads (r.pending.map (·.name)) r h
          refine ⟨r', h', ?_, leads, loaded⟩
          simp [act, answer, loadedNames, loadAll, hon, Except.map]
      | false => exact ⟨r, h, rfl, .refl, by simp [HasLoaded, events]⟩
  | contains name => exact ⟨r, h, rfl, .refl, by simp [HasLoaded, events]⟩

/-- A call fails for the reasons that are given, and for no others. -/
theorem answer_eq_error_iff (call : Call) {r r' : Registry} {h : Host} {f : Failure}
    (leads : Leads r (call.events r h) r') : call.answer r' = .error f ↔ call.Refused r' f := by
  cases call with
  | register name candidate =>
      constructor
      · intro hfails
        simp only [answer] at hfails
        split at hfails
        · next hname =>
          cases hfails
          refine .badName fun n hn => ?_
          subst hn
          simpa [Option.filter] using hname
        · next n typeName hname =>
          cases hfails
          obtain ⟨rfl, hnamed⟩ := Option.filter_eq_some_iff.mp hname
          exact .badObject (by simpa using hnamed)
        · cases hfails
      · rintro (⟨blank⟩ | ⟨named⟩)
        · have hname : name.filter (!Text.isAllBlank ·) = none := by
            cases name with
            | none => rfl
            | some n => simp [Option.filter, blank n rfl]
          simp [answer, hname]
        · simp [answer, Option.filter, named]
  | resolve name =>
      constructor
      · intro hfails
        simp only [answer] at hfails
        split at hfails
        · cases hfails
        · next hnone =>
          cases hfails
          have free : name ∉ r'.names := by
            rw [← isSome_renderer?_iff, hnone]
            exact Bool.false_ne_true
          exact .unknown free (idle_of_resolve leads free)
      · rintro ⟨⟩
        next free idle =>
        have hnone : r'.renderer? name = none := by
          rw [← Option.not_isSome_iff_eq_none, isSome_renderer?_iff]
          exact free
        simp [answer, hnone]
  | names loading => exact ⟨nofun, nofun⟩
  | contains name => exact ⟨nofun, nofun⟩

theorem register_unchanged {name : Option String} {candidate : Candidate} {r r' : Registry}
    {h : Host} {f : Failure} (leads : Leads r ((register name candidate).events r h) r')
    (fails : (register name candidate).answer r' = .error f) : r' = r := by
  have hnone : (register name candidate).events r h = [] := by
    cases ((register name candidate).answer_eq_error_iff leads).mp fails with
    | badName blank =>
        cases name with
        | none => rfl
        | some n => cases candidate <;> simp [events, blank n rfl]
    | badObject named => rfl
  rw [hnone] at leads
  cases leads
  rfl

end Call

/-!
## When all plug-ins have been loaded

Loading all plug-ins that wait leaves none that waits, whatever they give.  From then on a
registry does not change when names are listed or resolved.
-/

variable {r : Registry}

theorem loadEach_idle (names : List String) (r : Registry) (h : Host) :
    ∃ r' h', (loadEach names).on (r, h) = (.ok (), r', h') ∧
      ∀ e ∈ r'.pending, e ∈ r.pending ∧ e.name ∉ names := by
  induction names generalizing r h with
  | nil => exact ⟨r, h, rfl, fun e he => ⟨he, List.not_mem_nil⟩⟩
  | cons name names ih =>
      obtain ⟨r₁, h₁, hload, leads, -⟩ := loadPending_leads name r h
      obtain ⟨r', h', hrest, idle⟩ := ih r₁ h₁
      refine ⟨r', h', by simp [loadEach, hload, hrest], fun e he => ?_⟩
      obtain ⟨he₁, hnames⟩ := idle e he
      have hne : e.name ≠ name := by
        rintro rfl
        exact loading_idle leads (List.mem_map_of_mem he₁)
      exact ⟨(leads.mem_pending he₁).1, by simp [hne, hnames]⟩

theorem loadedNames_idle (r : Registry) (h : Host) :
    ∃ r' h', loadedNames.on (r, h) = (.ok r'.names, r', h') ∧ r'.pending = [] := by
  obtain ⟨r', h', hon, idle⟩ := loadEach_idle (r.pending.map (·.name)) r h
  refine ⟨r', h', by simp [loadedNames, loadAll, hon, Except.map], ?_⟩
  refine List.eq_nil_iff_forall_not_mem.mpr fun e he => ?_
  obtain ⟨hpending, hnames⟩ := idle e he
  exact hnames (List.mem_map_of_mem hpending)

/-- Where no plug-in waits, listing the names changes nothing. -/
theorem loadedNames_on_idle (idle : r.pending = []) (h : Host) :
    loadedNames.on (r, h) = (.ok r.names, r, h) := by
  simp [loadedNames, loadAll, idle, loadEach, Except.map]

/-- Where no plug-in waits, resolving a name changes nothing. -/
theorem resolve_on_idle (idle : r.pending = []) (name : String) (h : Host) :
    ((resolve name).on (r, h)).2 = (r, h) := by
  have hwaits : r.pending? name = none := by simp [pending?, idle]
  cases hfound : r.renderer? name <;> simp [resolve, hfound, hwaits]

end Registry

end BytecodeViewer
