import BytecodeViewer.Proofs.Session.Neighbours

/-!
# Calls of two sessions in any order

Whatever the order of the calls, each session gives what it gives alone.
-/

namespace BytecodeViewer.Session

/-- Runs calls one after the other, and gives what they give. -/
def run : List Call → Session × Host → List (Except Failure Document) × Session × Host
  | [], state => ([], state)
  | c :: cs, state =>
    let (outcome, state') := c.act.on state
    let (outcomes, last) := run cs state'
    (outcome :: outcomes, last)

inductive Side where
  | first
  | second
  deriving DecidableEq, Repr

/-- Runs calls of two sessions on one host, and gives what those of each give. -/
def runBoth : List (Side × Call) → Session → Session → Host →
    List (Except Failure Document) × List (Except Failure Document)
  | [], _, _, _ => ([], [])
  | (.first, c) :: cs, s, t, h =>
    let (outcome, s', h') := c.act.on (s, h)
    let (firsts, seconds) := runBoth cs s' t h'
    (outcome :: firsts, seconds)
  | (.second, c) :: cs, s, t, h =>
    let (outcome, t', h') := c.act.on (t, h)
    let (firsts, seconds) := runBoth cs s t' h'
    (firsts, outcome :: seconds)

def callsOf (side : Side) (schedule : List (Side × Call)) : List Call :=
  (schedule.filter (·.1 = side)).map (·.2)

variable {v w : View} {s s' s'' t : Session} {h h' h'' : Host}

structure Onward (s : Session) (h : Host) (s' : Session) (h' : Host) : Prop where
  number : s'.model = s.model
  models : h'.models.length = h.models.length
  plugins : h'.plugins = h.plugins
  languages : h.KeepsLanguages h'
  files : ∀ fs, Stored fs s h → Stored fs s' h'

theorem Onward.refl (s : Session) (h : Host) : Onward s h s h :=
  ⟨rfl, rfl, rfl, fun _ _ => rfl, fun _ stored => stored⟩

theorem Onward.trans (o : Onward s h s' h') (o' : Onward s' h' s'' h'') : Onward s h s'' h'' :=
  ⟨o'.number.trans o.number, o'.models.trans o.models, o'.plugins.trans o.plugins,
    o.languages.trans o'.languages, fun fs stored => o'.files fs (o.files fs stored)⟩

theorem Turn.onward {c : Call} {outcome : Except Failure Document}
    (turn : Turn v c s h outcome s' h') : Onward s h s' h' :=
  ⟨turn.number, turn.models_length, turn.plugins, turn.uses.keepsLanguages, turn.files⟩

/-- A session that is alone gives what its view says. -/
theorem Safe.run_eq (safe : Safe v s h) (cs : List Call) :
    ∃ w s' h', run cs (s, h) = (v.run cs, s', h') ∧ Safe w s' h' ∧ Onward s h s' h' := by
  induction cs generalizing v s h with
  | nil => exact ⟨v, s, h, rfl, safe, .refl s h⟩
  | cons c cs ih =>
      obtain ⟨outcome, s₁, h₁, hon, turn⟩ := safe.turn c
      obtain ⟨w, s', h', hrun, safe', onward⟩ := ih (turn.safe safe)
      refine ⟨w, s', h', ?_, safe', turn.onward.trans onward⟩
      simp only [run, hon, hrun, View.run, turn.outcome_eq]

/-- Two sessions side by side give what their views say. -/
theorem Together.runBoth_eq (together : Together v w s t h) (schedule : List (Side × Call)) :
    runBoth schedule s t h =
      (v.run (callsOf .first schedule), w.run (callsOf .second schedule)) := by
  induction schedule generalizing v w s t h with
  | nil => rfl
  | cons entry schedule ih =>
      obtain ⟨side, c⟩ := entry
      cases side with
      | first =>
          obtain ⟨outcome, s', h', hon, turn⟩ := together.first.turn c
          simp only [runBoth, hon, ih (together.turn turn), turn.outcome_eq]
          simp [callsOf, View.run]
      | second =>
          obtain ⟨outcome, t', h', hon, turn⟩ := together.second.turn c
          simp only [runBoth, hon, ih (together.symm.turn turn).symm, turn.outcome_eq]
          simp [callsOf, View.run]

end BytecodeViewer.Session
