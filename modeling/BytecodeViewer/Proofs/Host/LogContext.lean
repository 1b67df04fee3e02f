import BytecodeViewer.Proofs.Host.Rest

/-!
# The context of the log

An act is bracketed if it leaves the context that is bound as it was, however it ends.  What all
steps of an act keep, the act keeps, and what is bound when it begins is carried by every record
that is logged in it.  A block of its own binds more for the time of an act; it is left key by key.
-/

namespace BytecodeViewer

/-! ## Contexts -/

namespace LogContext

/-- Contexts are the same if each key has the same value in them. -/
def Same (c c' : LogContext) : Prop :=
  ∀ key, c.lookup key = c'.lookup key

/-- Each of some keys has its value in a context. -/
def Has (items c : LogContext) : Prop :=
  ∀ item ∈ items, c.lookup item.1 = some item.2

variable {items c c' c'' : LogContext}

theorem Same.refl (c : LogContext) : Same c c := fun _ => rfl

theorem Same.trans (h : Same c c') (h' : Same c' c'') : Same c c'' :=
  fun key => (h key).trans (h' key)

theorem Has.of_same (h : Has items c) (same : Same c' c) : Has items c' :=
  fun item hitem => (same item.1).trans (h item hitem)

theorem has_nil (c : LogContext) : Has [] c := by
  intro item hitem
  cases hitem

theorem lookup_filter (p : String → Bool) (c : LogContext) (key : String) :
    (c.filter fun item => p item.1).lookup key = if p key then c.lookup key else none := by
  induction c with
  | nil => simp
  | cons item c ih =>
      obtain ⟨k, v⟩ := item
      by_cases hkey : key = k
      · subst hkey
        cases hp : p key <;> simp [hp, ih]
      · have hbeq : (key == k) = false := beq_eq_false_iff_ne.mpr hkey
        cases hp : p k <;> simp [hp, ih, List.lookup_cons, hbeq]

end LogContext

namespace Log

variable {l : Log} {items extra outer : LogContext}

theorem lookup_bind (l : Log) (extra : LogContext) (key : String) :
    (l.bind extra).bound.lookup key = (extra.lookup key).or (l.bound.lookup key) := by
  have hbound : (l.bind extra).bound =
      l.bound.filter (fun item => (extra.lookup item.1).isNone) ++ extra := rfl
  rw [hbound, List.lookup_append, LogContext.lookup_filter fun key => (extra.lookup key).isNone]
  cases extra.lookup key <;> simp

theorem has_bind_of_given (given : ∀ item ∈ items, extra.lookup item.1 = some item.2) :
    LogContext.Has items (l.bind extra).bound := by
  intro item hitem
  rw [lookup_bind, given item hitem, Option.some_or]

/-- Keys that are not bound again keep their values. -/
theorem has_bind (free : ∀ item ∈ items, extra.lookup item.1 = none)
    (h : LogContext.Has items l.bound) : LogContext.Has items (l.bind extra).bound := by
  intro item hitem
  rw [lookup_bind, free item hitem, Option.none_or]
  exact h item hitem

/-- Only the keys that are named are bound, and of these only those with a value. -/
theorem lookup_present_of_ne {values : List (String × Option String)} {key : String}
    (ne : ∀ v ∈ values, v.1 ≠ key) : (present values).lookup key = none := by
  rw [List.lookup_eq_none_iff]
  intro item hitem
  obtain ⟨v, hv, hsome⟩ := List.mem_filterMap.mp hitem
  obtain ⟨text, -, rfl⟩ := Option.map_eq_some_iff.mp hsome
  simpa using (ne v hv).symm

def unbind (l : Log) (extra : LogContext) : Log :=
  { l with bound := l.bound.filter fun item => (extra.lookup item.1).isNone }

/-- Unbinds the keys of a block, and binds those again that had a value outside of it. -/
def leave (l : Log) (outer extra : LogContext) : Log :=
  (l.unbind extra).bind (outer.filter fun item => (extra.lookup item.1).isSome)

/-- A block whose inside is bracketed is bracketed, whatever it shadows. -/
theorem leave_same {l' : Log} (inside : LogContext.Same l'.bound (l.bind extra).bound) :
    LogContext.Same (l'.leave l.bound extra).bound l.bound := by
  intro key
  have hinside := inside key
  rw [lookup_bind] at hinside
  rw [leave, lookup_bind, LogContext.lookup_filter fun key => (extra.lookup key).isSome, unbind,
    LogContext.lookup_filter fun key => (extra.lookup key).isNone, hinside]
  cases extra.lookup key <;> simp

end Log

/-! ## Bracketed changes of a host -/

namespace Host

/-- The context is the same as before, and all that has been logged carries some items. -/
structure LogsWith (items : LogContext) (h h' : Host) : Prop where
  bound : LogContext.Same h'.log.bound h.log.bound
  records : ∃ new, h'.log.records = h.log.records ++ new ∧
    ∀ r ∈ new, LogContext.Has items r.context

variable {items : LogContext} {h h' h'' : Host} {values : List (String × Option String)}

namespace LogsWith

theorem of_log_eq (e : h'.log = h.log) : LogsWith items h h' := by
  refine ⟨?_, [], ?_, ?_⟩
  · rw [e]
    exact .refl _
  · rw [e, List.append_nil]
  · intro r hr
    cases hr

theorem mono {fewer : LogContext} (h₁ : LogsWith items h h')
    (sub : ∀ c, LogContext.Has items c → LogContext.Has fewer c) : LogsWith fewer h h' := by
  obtain ⟨new, hnew, hcarried⟩ := h₁.records
  exact ⟨h₁.bound, new, hnew, fun r hr => sub r.context (hcarried r hr)⟩

theorem trans (first : LogsWith items h h') (second : LogsWith items h' h'') :
    LogsWith items h h'' := by
  obtain ⟨new, hnew, hcarried⟩ := first.records
  obtain ⟨more, hmore, hcarried'⟩ := second.records
  refine ⟨second.bound.trans first.bound, new ++ more, ?_, ?_⟩
  · rw [hmore, hnew, List.append_assoc]
  · intro r hr
    rcases List.mem_append.mp hr with hr | hr
    · exact hcarried r hr
    · exact hcarried' r hr

theorem logged (has : LogContext.Has items h.log.bound) (channel : String) (level : LogLevel)
    (message : String) (withTrace : Bool) :
    LogsWith items h (h.logged channel level message withTrace) := by
  rw [Host.logged, Log.add]
  split
  · refine ⟨.refl _, [⟨channel, level, message, h.log.bound, withTrace⟩], rfl, ?_⟩
    intro r hr
    obtain rfl := List.mem_singleton.mp hr
    exact has
  · exact .of_log_eq rfl

/-- A block that is left at once is left as it was entered. -/
theorem rebound (inside : LogsWith items (h.within values) h') :
    LogsWith items h (h'.rebound h.log.bound) :=
  ⟨.refl _, inside.records⟩

end LogsWith

/-- Leaves a block in which some values were bound. -/
def leaving (h : Host) (outer : LogContext) (values : List (String × Option String)) : Host :=
  { h with log := h.log.leave outer (Log.present values) }

theorem LogsWith.leaving (inside : LogsWith items (h.within values) h') :
    LogsWith items h (h'.leaving h.log.bound values) :=
  ⟨Log.leave_same inside.bound, inside.records⟩

/-- Runs an act in a block that is left key by key. -/
def block {τ α : Type} (values : List (String × Option String)) (a : HostedAct τ α) :
    HostedAct τ α :=
  .ofFunction fun s =>
    let (outcome, s') := a.on (s.1, s.2.within values)
    (outcome, s'.1, s'.2.leaving s.2.log.bound values)

end Host

/-! ## Bracketed acts -/

namespace Act

variable {σ τ υ α β : Type} {hostOf : σ → Host} {items : LogContext}

/-- However an act ends, the context is the same as before, and if some items are bound when it
begins, all that is logged in it carries them. -/
def Bracketed (hostOf : σ → Host) (items : LogContext) (a : Act σ α) : Prop :=
  ∀ s, LogContext.Has items (hostOf s).log.bound →
    Host.LogsWith items (hostOf s) (hostOf (a.on s).2)

namespace Bracketed

variable {a : Act σ α}

theorem of_log_eq (e : ∀ s, (hostOf (a.on s).2).log = (hostOf s).log) : Bracketed hostOf items a :=
  fun s _ => .of_log_eq (e s)

theorem pure (x : α) : Bracketed hostOf items (Pure.pure x : Act σ α) := of_log_eq fun _ => rfl

theorem throw (f : Failure) : Bracketed hostOf items (MonadExcept.throw f : Act σ α) :=
  of_log_eq fun _ => rfl

theorem ofExcept (e : Except Failure α) : Bracketed hostOf items (Act.ofExcept e : Act σ α) :=
  of_log_eq fun _ => rfl

theorem look (f : σ → α) : Bracketed hostOf items (Act.look f) := of_log_eq fun _ => rfl

theorem bind {next : α → Act σ β} (first : Bracketed hostOf items a)
    (others : ∀ x, Bracketed hostOf items (next x)) : Bracketed hostOf items (a >>= next) := by
  intro s has
  have hfirst := first s has
  rw [on_bind]
  rcases hon : a.on s with ⟨outcome, s'⟩
  rw [hon] at hfirst
  cases outcome with
  | error f => exact hfirst
  | ok x => exact hfirst.trans (others x s' (has.of_same hfirst.bound))

theorem map {f : α → β} (h : Bracketed hostOf items a) : Bracketed hostOf items (f <$> a) := by
  rw [map_eq_pure_bind]
  exact h.bind fun _ => .pure _

theorem attempt (h : Bracketed hostOf items a) : Bracketed hostOf items a.attempt := h

theorem ensuring {after : Act σ Unit} (h : Bracketed hostOf items a)
    (hafter : Bracketed hostOf items after) : Bracketed hostOf items (a.ensuring after) :=
  h.attempt.bind fun outcome => hafter.bind fun _ => .ofExcept outcome

theorem record {channel message : String} {level : LogLevel} {withTrace : Bool} :
    Bracketed id items (Host.record channel level message withTrace) :=
  fun _ has => .logged has channel level message withTrace

/-! ### Acts with a host -/

theorem onHost {a : Act Host α} (h : Bracketed id items a) :
    Bracketed Prod.snd items (Act.onHost a : HostedAct τ α) :=
  fun s => h s.2

theorem setOwn (f : τ → τ) : Bracketed Prod.snd items (Act.setOwn f) := of_log_eq fun _ => rfl

theorem onPart {part : τ → υ} {put : υ → τ → τ} {a : HostedAct υ α}
    (h : Bracketed Prod.snd items a) : Bracketed Prod.snd items (a.onPart part put) :=
  fun s => h (part s.1, s.2)

theorem carrying {a : HostedAct τ α} (h : Bracketed Prod.snd items a) (v : τ) :
    Bracketed id items (Act.carrying v a) :=
  fun k => h (v, k)

/-! ### Acts in blocks -/

variable {a : HostedAct τ α} {values : List (String × Option String)}

/-- All that is logged in a block carries what is bound in it. -/
theorem inContext_on (h : Bracketed Prod.snd items a) (t : τ) {k : Host}
    (has : LogContext.Has items (k.within values).log.bound) :
    Host.LogsWith items k ((Host.inContext values a).on (t, k)).2.2 :=
  .rebound (h (t, k.within values) has)

theorem inContext (h : Bracketed Prod.snd items a)
    (free : ∀ item ∈ items, (Log.present values).lookup item.1 = none) :
    Bracketed Prod.snd items (Host.inContext values a) :=
  fun s has => h.inContext_on s.1 (Log.has_bind free has)

theorem block (h : Bracketed Prod.snd items a)
    (free : ∀ item ∈ items, (Log.present values).lookup item.1 = none) :
    Bracketed Prod.snd items (Host.block values a) :=
  fun s has => .leaving (h (s.1, s.2.within values) (Log.has_bind free has))

end Bracketed

/-- For an act that is bracketed, it is the same whether a block is left key by key or whether the
context of before is bound again as a whole. -/
theorem block_on {a : HostedAct τ α} (h : Bracketed Prod.snd [] a)
    (values : List (String × Option String)) (t : τ) (k : Host) :
    ∃ outer, LogContext.Same outer k.log.bound ∧
      (Host.block values a).on (t, k) =
        (((Host.inContext values a).on (t, k)).1, ((Host.inContext values a).on (t, k)).2.1,
          ((Host.inContext values a).on (t, k)).2.2.rebound outer) := by
  have inside := h (t, k.within values) (LogContext.has_nil _)
  exact ⟨_, Log.leave_same inside.bound, rfl⟩

end Act

end BytecodeViewer
