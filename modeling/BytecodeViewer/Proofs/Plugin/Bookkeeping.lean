import BytecodeViewer.Proofs.Plugin.Calls

/-!
# The books of a registry

Whatever is asked of a new registry, what it holds is what its events say: no name is taken
twice, a plug-in is loaded once at most and only while its name is free, and a name stands for
the renderer that was registered last.
-/

namespace BytecodeViewer.Registry

/-- A registry and its host, with all that has happened to the registry. -/
structure Trace where
  registry : Registry
  host : Host
  history : List Event

namespace Trace

def step (t : Trace) (call : Call) : Trace where
  registry := (call.act.on (t.registry, t.host)).2.1
  host := (call.act.on (t.registry, t.host)).2.2
  history := t.history ++ call.events t.registry t.host

/-- A new registry, with renderers from the number `n` on. -/
def start (n : Nat) (r : Registry) (h : Host) : Trace :=
  ⟨r, h, [.put "Java" n, .put "Dex" (n + 1)]⟩

/-- The names that are taken and the plug-ins that wait and have been loaded, since a host
was as `h₀`. -/
structure Sound (h₀ : Host) (t : Trace) : Prop where
  nodup_names : t.registry.names.Nodup
  nodup_pending : (t.registry.pending.map (·.name)).Nodup
  disjoint : ∀ name ∈ t.registry.names, name ∉ t.registry.pending.map (·.name)
  loaded : t.host.loaded = h₀.loaded ++ (loads t.history).map (·.place)
  once : ((loads t.history).map (·.name)).Nodup
  first : ∀ e ∈ loads t.history, ∃ es, h₀.plugins = .ok es ∧
    es.find? (fun e' => e'.group == .renderers && e'.name == e.name) = some e
  free : ∀ before e given after, t.history = before ++ .load e given :: after →
    last? before e.name = none
  resolves : ∀ name ∈ t.registry.names, ∃ id, last? t.history name = some id ∧
    (resolve name).on (t.registry, t.host) = (.ok id, t.registry, t.host)

/-- What comes of one more call. -/
structure Orderly (t : Trace) (call : Call) : Prop where
  names_prefix : t.registry.names <+: (t.step call).registry.names
  answers : (call.act.on (t.registry, t.host)).1 = call.answer (t.step call).registry
  refused : ∀ f, (call.act.on (t.registry, t.host)).1 = .error f ↔
    call.Refused (t.step call).registry f
  unchanged : ∀ name candidate f, call = .register name candidate →
    (call.act.on (t.registry, t.host)).1 = .error f → (t.step call).registry = t.registry

/-- All that happened since nothing was registered has led to the registry. -/
structure Recorded (h₀ : Host) (t : Trace) : Prop where
  leads : Leads { pending := waiting h₀.plugins } t.history t.registry
  loaded : HasLoaded t.history h₀ t.host

variable {h₀ : Host} {t : Trace}

theorem recorded_start {h : Host} (hloaded : h.loaded = h₀.loaded) :
    (start h₀.renderers.length (fresh h₀.plugins h₀.renderers.length) h).Recorded h₀ := by
  refine ⟨?_, by simp [HasLoaded, start, loads, Event.loaded?, hloaded]⟩
  have hwaiting : ∀ e ∈ waiting h₀.plugins, e.name ≠ "Java" ∧ e.name ≠ "Dex" := by
    intro e he
    simpa using (List.mem_filter.mp he).2
  have hregistry : Event.apply (Event.apply { pending := waiting h₀.plugins }
      (.put "Java" h₀.renderers.length)) (.put "Dex" (h₀.renderers.length + 1)) =
      fresh h₀.plugins h₀.renderers.length := by
    have hpending : (waiting h₀.plugins).filter
        (fun e => e.name != "Dex" && e.name != "Java") = waiting h₀.plugins := by
      refine List.filter_eq_self.mpr fun e he => ?_
      simpa using (hwaiting e he).symm
    simp [Event.apply, put, List.filter_filter, hpending, fresh, bare, insertKey]
  exact .step trivial (.step trivial (hregistry ▸ .refl))

theorem Recorded.step (recorded : t.Recorded h₀) (call : Call) : (t.step call).Recorded h₀ := by
  obtain ⟨r', h', hon, leads, loaded⟩ := call.act_on t.registry t.host
  unfold Trace.step
  rw [hon]
  exact ⟨recorded.leads.trans leads, recorded.loaded.trans loaded⟩

theorem Recorded.steps (recorded : t.Recorded h₀) (calls : List Call) :
    (calls.foldl Trace.step t).Recorded h₀ := by
  induction calls generalizing t with
  | nil => exact recorded
  | cons call calls ih => exact ih (recorded.step call)

theorem Recorded.renderer?_eq (recorded : t.Recorded h₀) (name : String) :
    t.registry.renderer? name = last? t.history name := by
  rw [recorded.leads.renderer?_eq]
  exact Option.or_none

theorem Recorded.sound (recorded : t.Recorded h₀) : t.Sound h₀ where
  nodup_names := recorded.leads.nodup_names List.nodup_nil
  nodup_pending := by
    rw [recorded.leads.pending_eq]
    exact (nodup_waiting h₀.plugins).sublist (List.filter_sublist.map _)
  disjoint name hname hwaits := by
    obtain ⟨e, he, rfl⟩ := List.mem_map.mp hwaits
    obtain ⟨id, hid⟩ := Option.isSome_iff_exists.mp ((isSome_renderer?_iff _ _).mpr hname)
    rw [recorded.renderer?_eq] at hid
    exact (recorded.leads.mem_pending he).2 (mem_names_of_last? hid)
  loaded := recorded.loaded
  once := recorded.leads.nodup_loads
  first e he := mem_waiting (recorded.leads.loads_pending e he)
  free before e given after hhistory :=
    (Leads.free_of_load (hhistory ▸ recorded.leads) fun _ _ => rfl).1
  resolves name hname := by
    obtain ⟨id, hid⟩ := Option.isSome_iff_exists.mp ((isSome_renderer?_iff _ _).mpr hname)
    exact ⟨id, recorded.renderer?_eq name ▸ hid, by simp [resolve, hid]⟩

theorem orderly (t : Trace) (call : Call) : t.Orderly call := by
  obtain ⟨r', h', hon, leads, -⟩ := call.act_on t.registry t.host
  have hstep : (t.step call).registry = r' := by rw [Trace.step, hon]
  refine ⟨hstep ▸ leads.names_prefix, by rw [hstep, hon], fun f => ?_, ?_⟩
  · rw [hstep, hon]
    exact call.answer_eq_error_iff leads
  · rintro name candidate f rfl hfails
    rw [hon] at hfails
    rw [hstep]
    exact Call.register_unchanged leads hfails

/-- After any calls of a new registry its books are sound, and one more call is orderly. -/
theorem sound_of_calls (h₀ : Host) :
    ∃ r h, (builtin true).on h₀ = (.ok r, h) ∧ ∀ calls : List Call,
      (calls.foldl step (start h₀.renderers.length r h)).Sound h₀ ∧
        ∀ call, (calls.foldl step (start h₀.renderers.length r h)).Orderly call := by
  obtain ⟨h, hon, -, -⟩ := builtin_on h₀
  have hloaded : h.loaded = h₀.loaded := by
    rw [← builtin_loaded h₀, hon]
  refine ⟨_, h, hon, fun calls => ?_⟩
  have recorded := (recorded_start hloaded).steps calls
  exact ⟨recorded.sound, orderly _⟩

end Trace

end BytecodeViewer.Registry
