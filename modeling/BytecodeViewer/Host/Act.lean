import BytecodeViewer.Failure

/-!
# Acts

An act changes a state and ends with a value or a failure.  What it has changed
before it fails stays changed.
-/

namespace BytecodeViewer

abbrev Act (σ : Type) := ExceptT Failure (StateM σ)

namespace Act

variable {σ τ α β : Type}

def on (a : Act σ α) (s : σ) : Except Failure α × σ :=
  a.run.run s

def ofFunction (f : σ → Except Failure α × σ) : Act σ α :=
  ExceptT.mk fun s => f s

def ofExcept (e : Except Failure α) : Act σ α :=
  ofFunction fun s => (e, s)

def look (f : σ → α) : Act σ α :=
  ofFunction fun s => (.ok (f s), s)

def change (f : σ → σ) : Act σ Unit :=
  ofFunction fun s => (.ok (), f s)

def within (part : σ → τ) (put : τ → σ → σ) (a : Act τ α) : Act σ α :=
  ofFunction fun s =>
    let (outcome, t) := a.on (part s)
    (outcome, put t s)

def attempt (a : Act σ α) : Act σ (Except Failure α) :=
  ofFunction fun s =>
    let (outcome, s') := a.on s
    (.ok outcome, s')

/-- Runs a second act after a first one, whether that fails or not.  A failure of the
second act wins. -/
def ensuring (a : Act σ α) (after : Act σ Unit) : Act σ α := do
  let outcome ← a.attempt
  after
  ofExcept outcome

/-! ## What acts do on a state -/

@[simp] theorem on_pure (x : α) (s : σ) : (pure x : Act σ α).on s = (.ok x, s) := rfl

@[simp] theorem on_throw (f : Failure) (s : σ) :
    (throw f : Act σ α).on s = (.error f, s) := rfl

@[simp] theorem on_bind (a : Act σ α) (next : α → Act σ β) (s : σ) :
    (a >>= next).on s = match a.on s with
      | (.ok x, s') => (next x).on s'
      | (.error f, s') => (.error f, s') := by
  have h : (a >>= next).on s = match a.on s with
      | (outcome, s') => (ExceptT.bindCont next outcome : StateM σ _).run s' := rfl
  rw [h]
  rcases a.on s with ⟨_ | _, _⟩ <;> rfl

@[simp] theorem on_map (g : α → β) (a : Act σ α) (s : σ) :
    (g <$> a).on s = ((a.on s).1.map g, (a.on s).2) := by
  rw [map_eq_pure_bind, on_bind]
  rcases a.on s with ⟨_ | _, _⟩ <;> rfl

@[simp] theorem on_ofFunction (f : σ → Except Failure α × σ) (s : σ) :
    (ofFunction f).on s = f s := rfl

@[simp] theorem on_ofExcept (e : Except Failure α) (s : σ) :
    (ofExcept e).on s = (e, s) := rfl

@[simp] theorem on_look (f : σ → α) (s : σ) : (look f).on s = (.ok (f s), s) := rfl

@[simp] theorem on_change (f : σ → σ) (s : σ) : (change f).on s = (.ok (), f s) := rfl

@[simp] theorem on_within (part : σ → τ) (put : τ → σ → σ) (a : Act τ α) (s : σ) :
    (a.within part put).on s = ((a.on (part s)).1, put (a.on (part s)).2 s) := rfl

@[simp] theorem on_attempt (a : Act σ α) (s : σ) :
    a.attempt.on s = (.ok (a.on s).1, (a.on s).2) := rfl

@[simp] theorem on_ensuring (a : Act σ α) (after : Act σ Unit) (s : σ) :
    (a.ensuring after).on s = match after.on (a.on s).2 with
      | (.ok (), s') => ((a.on s).1, s')
      | (.error f, s') => (.error f, s') := by
  simp only [ensuring, on_bind, on_attempt, on_ofExcept]
  rcases after.on (a.on s).2 with ⟨_ | _, _⟩ <;> rfl

end Act

end BytecodeViewer
