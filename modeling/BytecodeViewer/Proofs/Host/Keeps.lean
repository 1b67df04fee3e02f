import BytecodeViewer.Proofs.Host.Rest

/-!
# What acts keep, and what they fail with

An act keeps a part of its state if that part is the same afterwards, however the act ends.
What the steps of an act keep, the act keeps.  It fails with what its steps fail with.
-/

namespace BytecodeViewer.Act

variable {σ τ υ α β κ μ : Type}

def Keeps (kept : σ → κ) (a : Act σ α) : Prop :=
  ∀ s, kept (a.on s).2 = kept s

/-- What is kept of a state that comes with a host: a part of it, and the host but for its
renderers and records. -/
def beside (kept : τ → κ) (s : τ × Host) : κ × Host :=
  (kept s.1, s.2.rest)

namespace Keeps

variable {kept : σ → κ} {a : Act σ α}

theorem pure (x : α) : Keeps kept (Pure.pure x : Act σ α) := fun _ => rfl

theorem throw (f : Failure) : Keeps kept (MonadExcept.throw f : Act σ α) := fun _ => rfl

theorem ofExcept (e : Except Failure α) : Keeps kept (Act.ofExcept e : Act σ α) := fun _ => rfl

theorem look (f : σ → α) : Keeps kept (Act.look f) := fun _ => rfl

theorem bind {next : α → Act σ β} (first : Keeps kept a) (others : ∀ x, Keeps kept (next x)) :
    Keeps kept (a >>= next) := by
  intro s
  have hfirst := first s
  rw [on_bind]
  rcases hon : a.on s with ⟨outcome, s'⟩
  rw [hon] at hfirst
  cases outcome with
  | error f => exact hfirst
  | ok x => exact (others x s').trans hfirst

theorem attempt (h : Keeps kept a) : Keeps kept a.attempt := h

/-! ## Acts with a host -/

variable {own : τ → κ} {part : τ → υ} {put : υ → τ → τ}

theorem record {channel message : String} {level : LogLevel} {withTrace : Bool} :
    Keeps Host.rest (Host.record channel level message withTrace) :=
  fun h => Host.rest_logged h channel level message withTrace

theorem onHost {a : Act Host α} (h : Keeps Host.rest a) :
    Keeps (beside own) (Act.onHost a) := by
  rintro ⟨t, k⟩
  exact Prod.ext rfl (h k)

theorem setOwn {f : τ → τ} (h : ∀ t, own (f t) = own t) : Keeps (beside own) (Act.setOwn f) := by
  rintro ⟨t, k⟩
  exact Prod.ext (h t) rfl

theorem onPart {part' : υ → μ} {a : HostedAct υ α} (h : Keeps (beside part') a)
    (hput : ∀ u t, own (put u t) = own t) : Keeps (beside own) (a.onPart part put) := by
  rintro ⟨t, k⟩
  have hrest : (a.on (part t, k)).2.2.rest = k.rest := congrArg Prod.snd (h (part t, k))
  exact Prod.ext (hput _ t) hrest

theorem inContext {a : HostedAct τ α} (h : Keeps (beside own) a)
    (values : List (String × Option String)) :
    Keeps (beside own) (Host.inContext values a) := by
  rintro ⟨t, k⟩
  have hown : own (a.on (t, k.within values)).2.1 = own t :=
    congrArg Prod.fst (h (t, k.within values))
  have hrest : (a.on (t, k.within values)).2.2.rest = (k.within values).rest :=
    congrArg Prod.snd (h (t, k.within values))
  rw [Host.on_inContext]
  exact Prod.ext hown (Host.rest_rebound hrest)

end Keeps

/-! ## Failures -/

/-- All failures of an act are of a kind. -/
def FailsWith (kind : Failure → Prop) (a : Act σ α) : Prop :=
  ∀ ⦃s f s'⦄, a.on s = (.error f, s') → kind f

namespace FailsWith

variable {kind : Failure → Prop} {a : Act σ α}

theorem pure (x : α) : FailsWith kind (Pure.pure x : Act σ α) := by
  intro s f s' hon
  cases hon

theorem throw {f : Failure} (hf : kind f) : FailsWith kind (MonadExcept.throw f : Act σ α) := by
  intro s g s' hon
  cases hon
  exact hf

theorem ofExcept {e : Except Failure α} (he : ∀ f, e = .error f → kind f) :
    FailsWith kind (Act.ofExcept e : Act σ α) := by
  intro s f s' hon
  exact he f (congrArg Prod.fst hon)

theorem look (f : σ → α) : FailsWith kind (Act.look f) := by
  intro s g s' hon
  cases hon

theorem change (f : σ → σ) : FailsWith kind (Act.change f) := by
  intro s g s' hon
  cases hon

theorem bind {next : α → Act σ β} (first : FailsWith kind a)
    (others : ∀ x, FailsWith kind (next x)) : FailsWith kind (a >>= next) := by
  intro s f s' hon
  rw [on_bind] at hon
  rcases hfirst : a.on s with ⟨g | x, s₁⟩
  · rw [hfirst] at hon
    cases hon
    exact first hfirst
  · rw [hfirst] at hon
    exact others x hon

end FailsWith

end BytecodeViewer.Act
