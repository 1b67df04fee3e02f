import BytecodeViewer.Proofs.Plugin.Calls
import BytecodeViewer.Proofs.Plugin.Installation
import BytecodeViewer.Proofs.Plugin.Loading
import BytecodeViewer.Proofs.Session.Changes

/-!
# Calls that fail

A call fails in one of two ways.  The name of a language cannot be resolved: then nothing that
is set, shown or bound changes.  Or rendering fails: then what the call sets has been set, all
else stays as it was, and the document is empty.
-/

namespace BytecodeViewer

namespace Registry

/-! ## Registries that are in order -/

/-- All renderers of a registry are there, and no plug-in waits under a name in use. -/
structure InOrder (r : Registry) (h : Host) : Prop where
  grounded : r.Grounded h
  free : r.WaitsFree

/-- If a renderer is registered, it is there. -/
def Call.Offers (h : Host) : Call → Prop
  | register _ (.renderer id) => id < h.renderers.length
  | _ => True

variable {r r' : Registry} {h h' : Host}

theorem InOrder.of_length_le (order : r.InOrder h)
    (stay : h.renderers.length ≤ h'.renderers.length) : r.InOrder h' :=
  ⟨fun id hid => Nat.lt_of_lt_of_le (order.grounded id hid) stay, order.free⟩

theorem InOrder.put {id : RendererId} (order : r.InOrder h) (hid : id < h.renderers.length)
    (name : String) : (r.put name id).InOrder h := by
  refine ⟨?_, order.free.put name id⟩
  intro other hother
  rcases reaches_put hother with rfl | hold
  · exact hid
  · exact order.grounded other hold

/-- A registry in order has become another one, and all renderers are still there. -/
structure Goes (h : Host) (r' : Registry) (h' : Host) : Prop where
  order : r'.InOrder h'
  stay : h.renderers.length ≤ h'.renderers.length

theorem InOrder.register (order : r.InOrder h) (name : String) (candidate : Candidate)
    (offers : (Call.register (some name) candidate).Offers h) :
    ∃ outcome r' h', (Registry.register (some name) candidate).on (r, h) = (outcome, r', h') ∧
      Goes h r' h' := by
  cases hblank : Text.isAllBlank name with
  | true => exact ⟨_, r, h, register_blank_on hblank candidate r h, order, Nat.le_refl _⟩
  | false =>
      cases candidate with
      | other typeName =>
          obtain ⟨f, hon⟩ := register_other_on name typeName r h
          exact ⟨_, r, h, hon, order, Nat.le_refl _⟩
      | renderer id =>
          obtain ⟨h', hon, hrenderers, -⟩ := register_renderer_on hblank id r h
          have stay : h.renderers.length ≤ h'.renderers.length := by simp [hrenderers]
          exact ⟨_, _, h', hon, (order.put offers name).of_length_le stay, stay⟩

theorem InOrder.resolve (order : r.InOrder h) (name : String) :
    ∃ outcome r' h', (Registry.resolve name).on (r, h) = (outcome, r', h') ∧ Goes h r' h' := by
  have res := resolve_on name r h
  rcases hon : (Registry.resolve name).on (r, h) with ⟨outcome, r', h'⟩
  rw [hon] at res
  exact ⟨outcome, r', h', rfl, ⟨res.grounded order.grounded, res.waitsFree order.free⟩,
    res.keepsLanguages.length_le⟩

/-- Whatever is called, a registry stays in order. -/
theorem InOrder.call (order : r.InOrder h) (call : Call) (offers : call.Offers h) :
    ∃ outcome r' h', call.act.on (r, h) = (outcome, r', h') ∧ Goes h r' h' := by
  cases call with
  | register name candidate =>
      cases name with
      | none => exact ⟨_, r, h, rfl, order, Nat.le_refl _⟩
      | some name =>
          obtain ⟨f | _, r', h', hon, goes⟩ := order.register name candidate offers
          · exact ⟨.error f, r', h', by simp [Call.act, hon, Except.map], goes⟩
          · exact ⟨.ok .done, r', h', by simp [Call.act, hon, Except.map], goes⟩
  | resolve name =>
      obtain ⟨f | id, r', h', hon, goes⟩ := order.resolve name
      · exact ⟨.error f, r', h', by simp [Call.act, hon, Except.map], goes⟩
      · exact ⟨.ok (.renderer id), r', h', by simp [Call.act, hon, Except.map], goes⟩
  | names loading =>
      cases loading with
      | false => exact ⟨_, r, h, rfl, order, Nat.le_refl _⟩
      | true =>
          obtain ⟨r', h', hon, grown⟩ := loadedNames_on order.grounded order.free
          obtain ⟨more, hmore⟩ := grown.renderers
          exact ⟨.ok (.names r'.names), r', h', by simp [Call.act, hon, Except.map],
            ⟨grown.grounded, grown.free⟩, by simp [hmore]⟩
  | contains name => exact ⟨_, r, h, rfl, order, Nat.le_refl _⟩

theorem inOrder_new {i : Installation} {h₀ : Host} (on : i.On h₀)
    (hbuiltin : (builtin true).on h₀ = (.ok r, h)) : r.InOrder h := by
  obtain ⟨k, hon, -, hrenderers⟩ := builtin_on h₀
  cases hbuiltin.symm.trans hon
  have owns := owns_fresh on hrenderers
  exact ⟨owns.grounded, owns.free⟩

end Registry

namespace Pipeline

/-! ## Pipelines that can be reached -/

/-- A pipeline and its host, some time after the pipeline was made for a new registry.  It has
been called, its registry has been called, and others have used the host, in any order. -/
inductive Reached (i : Installation) : Pipeline → Host → Prop
  | new {h₀ h : Host} {registry : Registry} (on : i.On h₀)
      (made : (Registry.builtin true).on h₀ = (.ok registry, h)) (sections : Sections)
      (highlighter : Highlighter) : Reached i { registry, sections, highlighter } h
  | call {p : Pipeline} {h : Host} (reached : Reached i p h) (call : Call) :
      Reached i (call.act.on (p, h)).2.1 (call.act.on (p, h)).2.2
  | registry {p : Pipeline} {h : Host} (reached : Reached i p h) (call : Registry.Call)
      (offers : call.Offers h) :
      Reached i ((onRegistry call.act).on (p, h)).2.1 ((onRegistry call.act).on (p, h)).2.2
  /-- Others may bind renderers and dispose models as they like. -/
  | meanwhile {p : Pipeline} {h h' : Host} (reached : Reached i p h)
      (stay : h.renderers.length ≤ h'.renderers.length) : Reached i p h'

/-- The registry is in order, and the renderer in use is there. -/
structure InOrder (p : Pipeline) (h : Host) : Prop where
  registry : p.registry.InOrder h
  renderer : ∀ id, p.renderer = some id → id < h.renderers.length

/-- What a call has set, and the document that is left. -/
def Call.Sets (p : Pipeline) (h : Host) (document : Document) (p' : Pipeline) (h' : Host) :
    Call → Prop
  | .language name => ∃ id r, p'.registry.renderer? name = some id ∧ h'.renderer? id = some r ∧
      r.bound = p.model ∧
      p' = { p with
        registry := (Call.language name).registry p.registry h
        language := some name, renderer := some id, rules := r.language.rules, document }
  | .selection s => p' = { p with selection := s, document }
  | .model m => p' = { p with model := m, selection := none, document }
  | .sections o => p' = { p with sections := o, document }
  | .render => p' = { p with document }

theorem Call.Sets.document {p p' : Pipeline} {h h' : Host} {document : Document} {call : Call}
    (sets : call.Sets p h document p' h') : p'.document = document := by
  cases call with
  | language name =>
      obtain ⟨id, r, -, -, -, rfl⟩ := sets
      rfl
  | selection s => rw [show p' = _ from sets]
  | model m => rw [show p' = _ from sets]
  | sections o => rw [show p' = _ from sets]
  | render => rw [show p' = _ from sets]

/-- Nothing has changed but the plug-ins that wait: neither what is set or shown, nor what is
registered, nor any renderer that was there. -/
structure Untouched (p : Pipeline) (h : Host) (p' : Pipeline) (h' : Host) : Prop where
  pipeline : p' = { p with registry := p'.registry }
  registered : p'.registry.renderers = p.registry.renderers
  found : ∀ name id, p.registry.renderer? name = some id → ∃ r, h.renderer? id = some r
  renderers : ∀ id r, h.renderer? id = some r → h'.renderer? id = some r

variable {i : Installation} {p p' : Pipeline} {h h' : Host} {f : Failure}

theorem InOrder.of_length_le (order : p.InOrder h)
    (stay : h.renderers.length ≤ h'.renderers.length) : p.InOrder h' :=
  ⟨order.registry.of_length_le stay, fun id hid => Nat.lt_of_lt_of_le (order.renderer id hid) stay⟩

/-- Rendering uses a renderer that is there, and leaves the document that it gives. -/
theorem InOrder.render_on (order : p.InOrder h) :
    ∃ outcome h', render.on (p, h) = (outcome, { p with document := shown outcome }, h') ∧
      UsesCurrent p h h' := by
  by_cases hidle : p.selection = none ∨ p.renderer = none
  · exact ⟨.ok .empty, h, render_idle_on hidle h, .of_kept fun _ _ => rfl⟩
  · obtain ⟨hs, hid⟩ := not_or.mp hidle
    obtain ⟨s, hs⟩ := Option.ne_none_iff_exists'.mp hs
    obtain ⟨id, hid⟩ := Option.ne_none_iff_exists'.mp hid
    obtain ⟨r, hr⟩ : ∃ r, h.renderer? id = some r :=
      ⟨_, List.getElem?_eq_getElem (order.renderer id hid)⟩
    obtain ⟨h', hon, -, hrenderers⟩ := Pipeline.render_on hs hid hr
    have same := r.render_same (h.model? r.bound) p.sections s
    exact ⟨_, h', hon, .of_set hid hr hrenderers same.language (.inl same.bound)⟩

/-- A call that ends with rendering leaves what it has set, and the document. -/
theorem InOrder.of_render {call : Call} {p₁ : Pipeline} {h₁ : Host} (order : p₁.InOrder h₁)
    (hon : call.act.on (p, h) = Pipeline.render.on (p₁, h₁))
    (sets : ∀ document h', UsesCurrent p₁ h₁ h' →
      call.Sets p h document { p₁ with document } h') :
    ∃ outcome p' h', call.act.on (p, h) = (outcome, p', h') ∧ p'.InOrder h' ∧
      call.Sets p h (shown outcome) p' h' := by
  obtain ⟨outcome, h', hrender, uses⟩ := order.render_on
  have order' : p₁.InOrder h' := order.of_length_le uses.keepsLanguages.length_le
  exact ⟨outcome, _, h', hon.trans hrender, ⟨order'.registry, order'.renderer⟩, sets _ h' uses⟩

theorem InOrder.language_sets (order : p.InOrder h) {name : String}
    (resolves : p.registry.resolves name = true)
    (binds : (Call.language name).Binds p h) :
    ∃ outcome p' h', (Call.act (.language name)).on (p, h) = (outcome, p', h') ∧
      p'.InOrder h' ∧ (Call.language name).Sets p h (shown outcome) p' h' := by
  have res := Registry.resolve_on name p.registry h
  obtain ⟨outcome, registry, h₁, hresolve, order₁, stay₁⟩ := order.registry.resolve name
  rw [hresolve] at res
  rcases res.outcome_eq order.registry.grounded with
    ⟨id, l, rfl, hnamed, hl, hlanguage⟩ | ⟨rfl, hlanguage⟩
  · obtain ⟨r, hr, rfl⟩ : ∃ r, h₁.renderer? id = some r ∧ r.language = l := by
      simpa [Host.languageOf?] using hl
    have taken : r.language.taking (h₁.model? r.bound) (h₁.model? p.model) = .ok () :=
      (taking_of_resolved res hr).symm.trans binds
    obtain ⟨h₂, hon, -, hrenderers⟩ := setLanguage_on_taken hresolve hr taken
    have hr₂ : h₂.renderer? id = some (r.bind p.model) := by
      simp [Host.renderer?, hrenderers, Host.lt_of_renderer? hr]
    have stay : h₁.renderers.length ≤ h₂.renderers.length := by simp [hrenderers]
    refine InOrder.of_render ⟨order₁.of_length_le stay, ?_⟩ hon ?_
    · intro other hother
      cases hother
      exact Host.lt_of_renderer? hr₂
    · intro document h' uses
      obtain ⟨r', hr', hsame, hbound⟩ := uses.current id _ rfl hr₂
      refine ⟨id, r', hnamed, hr', hbound.elim (fun e => e) fun e => e, ?_⟩
      simp [inLanguage, Call.registry, hresolve, hsame, Renderer.bind]
  · rw [Registry.resolves_eq order.registry.grounded, hlanguage] at resolves
    cases resolves

/-- What comes of a call whose language, if it sets one, can be resolved, and whose renderer
lets itself be bound. -/
theorem InOrder.call_sets (order : p.InOrder h) (call : Call)
    (resolves : ∀ name, call = .language name → p.registry.resolves name = true)
    (binds : call.Binds p h) :
    ∃ outcome p' h', call.act.on (p, h) = (outcome, p', h') ∧ p'.InOrder h' ∧
      call.Sets p h (shown outcome) p' h' := by
  cases call with
  | language name => exact order.language_sets (resolves name rfl) binds
  | selection s =>
      have order₁ : InOrder { p with selection := s } h := ⟨order.registry, order.renderer⟩
      exact order₁.of_render (by simp [Call.act, setSelection]) fun _ _ _ => rfl
  | model m =>
      obtain ⟨h', hon, -, uses⟩ := setModel_on p m h
      rw [show h.binding p.renderer m = .ok () from binds] at hon
      have order' := order.of_length_le uses.keepsLanguages.length_le
      refine ⟨.ok .empty, { p with model := m, selection := none, document := .empty }, h', ?_,
        ⟨order'.registry, order'.renderer⟩, rfl⟩
      simp [Call.act, hon, Except.map]
  | sections o =>
      have order₁ : InOrder { p with sections := o } h := ⟨order.registry, order.renderer⟩
      exact order₁.of_render (by simp [Call.act, setSections]) fun _ _ _ => rfl
  | render => exact order.of_render rfl fun _ _ _ => rfl

/-- A name that cannot be resolved changes nothing. -/
theorem InOrder.call_refused (order : p.InOrder h) {name : String}
    (unresolved : p.registry.resolves name = false) :
    ∃ p' h', (Call.act (.language name)).on (p, h) =
        (.error (.noRenderer name p.registry.names), p', h') ∧ p'.InOrder h' ∧
      Untouched p h p' h' := by
  have res := Registry.resolve_on name p.registry h
  obtain ⟨outcome, registry, h₁, hresolve, order₁, stay₁⟩ := order.registry.resolve name
  rw [hresolve] at res
  rcases res.outcome_cases with ⟨hresolves, -⟩ | ⟨-, rfl⟩
  · cases unresolved.symm.trans hresolves
  · refine ⟨_, h₁, setLanguage_on_error hresolve,
      ⟨order₁, (order.of_length_le stay₁).renderer⟩, rfl, ?_, ?_, ?_⟩
    · cases res <;> rfl
    · intro other id hid
      exact ⟨_, List.getElem?_eq_getElem (order.registry.grounded.inUse hid)⟩
    · intro id r hr
      rw [res.renderer?_eq (Host.lt_of_renderer? hr), hr]

theorem InOrder.setLanguage (order : p.InOrder h) (name : String) :
    ((Pipeline.setLanguage name).on (p, h)).2.1.InOrder
      ((Pipeline.setLanguage name).on (p, h)).2.2 := by
  cases resolves : p.registry.resolves name with
  | false =>
      obtain ⟨p', h', hon, order', -⟩ := order.call_refused resolves
      rw [show (Pipeline.setLanguage name).on (p, h) = _ from hon]
      exact order'
  | true =>
      have res := Registry.resolve_on name p.registry h
      obtain ⟨outcome, registry, h₁, hresolve, order₁, stay₁⟩ := order.registry.resolve name
      rw [hresolve] at res
      rcases res.outcome_eq order.registry.grounded with
        ⟨id, l, rfl, hnamed, hl, hlanguage⟩ | ⟨rfl, hlanguage⟩
      · obtain ⟨r, hr, rfl⟩ : ∃ r, h₁.renderer? id = some r ∧ r.language = l := by
          simpa [Host.languageOf?] using hl
        cases htaken : r.language.taking (h₁.model? r.bound) (h₁.model? p.model) with
        | ok _ =>
            have binds : (Call.language name).Binds p h :=
              (taking_of_resolved res hr).trans htaken
            obtain ⟨outcome, p', h', hon, order', -⟩ := order.language_sets resolves binds
            rw [show (Pipeline.setLanguage name).on (p, h) = _ from hon]
            exact order'
        | error f =>
            obtain ⟨p', h₂, hon, -, hlength, hset⟩ := setLanguage_on_refused hresolve hr htaken
            have order₂ := order₁.of_length_le (Nat.le_of_eq hlength.symm)
            rw [hon]
            rcases hset with rfl | rfl
            · exact ⟨order₂, fun other hother =>
                hlength ▸ Nat.lt_of_lt_of_le (order.renderer other hother) stay₁⟩
            · refine ⟨order₂, ?_⟩
              rintro _ ⟨⟩
              exact hlength ▸ Host.lt_of_renderer? hr
      · rw [Registry.resolves_eq order.registry.grounded, hlanguage] at resolves
        cases resolves

/-- Whatever is called, and whether renderers let themselves be bound or not, a pipeline stays
in order. -/
theorem InOrder.call (order : p.InOrder h) (call : Call) :
    (call.act.on (p, h)).2.1.InOrder (call.act.on (p, h)).2.2 := by
  have of_binds (keeps : ∀ name, call ≠ .language name) (binds : call.Binds p h) :
      (call.act.on (p, h)).2.1.InOrder (call.act.on (p, h)).2.2 := by
    obtain ⟨outcome, p', h', hon, order', -⟩ :=
      order.call_sets call (fun name hcall => absurd hcall (keeps name)) binds
    rw [hon]
    exact order'
  cases call with
  | language name => exact order.setLanguage name
  | model m =>
      cases hbinding : h.binding p.renderer m with
      | ok _ => exact of_binds (by simp) hbinding
      | error f =>
          obtain ⟨h', hon, -, uses⟩ := setModel_on p m h
          rw [hbinding] at hon
          have order' := order.of_length_le uses.keepsLanguages.length_le
          simp only [Call.act, Act.on_map, hon]
          exact ⟨order'.registry, order'.renderer⟩
  | selection s => exact of_binds (by simp) trivial
  | sections o => exact of_binds (by simp) trivial
  | render => exact of_binds (by simp) trivial

theorem Reached.inOrder (reached : Reached i p h) : p.InOrder h := by
  induction reached with
  | new on made sections highlighter => exact ⟨Registry.inOrder_new on made, nofun⟩
  | call reached call ih => exact ih.call call
  | @registry p h reached call offers ih =>
      obtain ⟨outcome, r', h', hon, order', stay⟩ := ih.registry.call call offers
      simp only [onRegistry, Act.on_onPart, hon]
      exact ⟨order', (ih.of_length_le stay).renderer⟩
  | meanwhile reached stay ih => exact ih.of_length_le stay

/-- A call of a pipeline that can be reached has failed, although the renderer that it binds, if
any, lets itself be bound and gives its rules.  Either it was to switch to a language
whose name cannot be resolved, and then nothing has changed but the plug-ins that wait; or the
document is empty, what the call sets has been set, and all else is as it was. -/
theorem failed_call_atomic (reached : Reached i p h) (call : Call)
    (binds : call.Binds p h)
    (fails : call.act.on (p, h) = (.error f, p', h')) :
    (∃ name, call = .language name ∧ p.registry.resolves name = false ∧
      f = .noRenderer name p.registry.names ∧ Untouched p h p' h') ∨
    ((∀ name, call = .language name → p.registry.resolves name = true) ∧
      p'.document = .empty ∧ call.Sets p h .empty p' h') := by
  have order := reached.inOrder
  by_cases resolves : ∀ name, call = .language name → p.registry.resolves name = true
  · obtain ⟨outcome, p₁, h₁, hon, -, sets⟩ := order.call_sets call resolves binds
    cases hon.symm.trans fails
    exact .inr ⟨resolves, sets.document, sets⟩
  · obtain ⟨name, resolves⟩ := Classical.not_forall.mp resolves
    obtain ⟨rfl, unresolved⟩ := Classical.not_imp.mp resolves
    rw [Bool.not_eq_true] at unresolved
    obtain ⟨p₁, h₁, hon, -, untouched⟩ := order.call_refused unresolved
    cases hon.symm.trans fails
    exact .inl ⟨name, rfl, unresolved, rfl, untouched⟩

/-! ## A small pipeline -/

def smaliHost : Host where
  models := [{ model := Model.ofClasses [{ name := "A" }] }]
  plugins := Installation.smali.plugins

/-- A class is shown in Java, while a plug-in that cannot be loaded waits. -/
def smallShown : Pipeline × Host :=
  match (Registry.builtin true).on smaliHost with
  | (.error _, h) => ({}, h)
  | (.ok registry, h) =>
    [Call.model (some 0), .language "Java", .selection (some (.wholeClass "A"))].foldl
      (fun s call => (call.act.on s).2) ({ registry }, h)

theorem smallShown_reached : Reached .smali smallShown.1 smallShown.2 := by
  obtain ⟨h, hbuiltin, -, -⟩ := Registry.builtin_on smaliHost
  have on : Installation.smali.On smaliHost := ⟨rfl, fun id hid => absurd hid (Nat.not_lt_zero id)⟩
  have reached := (((Reached.new on hbuiltin .standard
    fun text rules => .ok (highlight text rules)).call (.model (some 0))).call
    (.language "Java")).call (.selection (some (.wholeClass "A")))
  simp only [smallShown, hbuiltin]
  exact reached

theorem failed_call_atomic_unknown_or_missing :
    smallShown.1.document.text = "public class A \x7b\n\x7d\n" ∧
      (∃ f p' h', (Call.act (.language "Smali")).on smallShown = (.error f, p', h') ∧
        Untouched smallShown.1 smallShown.2 p' h') ∧
      ∃ f p' h', (Call.act (.selection (some (.wholeClass "B")))).on smallShown =
          (.error f, p', h') ∧
        p' = { smallShown.1 with selection := some (.wholeClass "B"), document := .empty } := by
  have shownText : smallShown.1.document.text = "public class A \x7b\n\x7d\n" := by decide +kernel
  have unresolved : smallShown.1.registry.resolves "Smali" = false := by decide +kernel
  have refused : ((Call.act (.language "Smali")).on smallShown).1.isOk = false := by
    decide +kernel
  have missing : ((Call.act (.selection (some (.wholeClass "B")))).on smallShown).1.isOk =
      false := by decide +kernel
  refine ⟨shownText, ?_, ?_⟩
  · rcases hon : (Call.act (.language "Smali")).on smallShown with ⟨_ | _, p', h'⟩
    · have binds : (Call.language "Smali").Binds smallShown.1 smallShown.2 :=
        taking_of_unresolved unresolved
      rcases failed_call_atomic smallShown_reached _ binds hon with
        ⟨_, -, -, -, untouched⟩ | ⟨resolves, -, -⟩
      · exact ⟨_, p', h', rfl, untouched⟩
      · cases unresolved.symm.trans (resolves "Smali" rfl)
    · rw [hon] at refused
      cases refused
  · rcases hon : (Call.act (.selection (some (.wholeClass "B")))).on smallShown with
      ⟨_ | _, p', h'⟩
    · rcases failed_call_atomic smallShown_reached (.selection (some (.wholeClass "B"))) trivial
        hon with
        ⟨_, hcall, -⟩ | ⟨-, -, sets⟩
      · cases hcall
      · exact ⟨_, p', h', rfl, sets⟩
    · rw [hon] at missing
      cases missing

end Pipeline

end BytecodeViewer
