import BytecodeViewer.Proofs.Session.Keeping
import BytecodeViewer.Proofs.Viewer.Telling
import BytecodeViewer.Viewer.Viewer

/-!
# What can be done with the viewer

Of all operations, only opening and closing files change which session the viewer holds, and
the files and models of the host.
-/

namespace BytecodeViewer.Viewer

open Act (Keeps beside)

inductive Operation where
  | openFile (path : Path)
  | selectLanguage (name : String)
  | selectNode (node : Option TreeNode)
  | setFilter (text : String)
  | close

def Operation.act : Operation → HostedAct Viewer Unit
  | .openFile path => do
    let _ ← «open» path
  | .selectLanguage name => Viewer.selectLanguage name
  | .selectNode node => Viewer.selectNode node
  | .setFilter text => Viewer.setFilter text
  | .close => Viewer.close

/-- The session that is held, but for what it shows. -/
def hold (v : Viewer) : Option ((Path × ModelId × Option Path) × Bool) :=
  v.session.map (·.hold)

theorem hold_cases {v v' : Viewer} (hhold : v'.hold = v.hold) :
    (v.session = none ∧ v'.session = none) ∨
    ∃ s s', v.session = some s ∧ v'.session = some s' ∧ s'.file = s.file ∧
      s'.closed = s.closed := by
  cases hs : v.session with
  | none =>
      have hnone : v'.session.map (·.hold) = none := by rw [← hold, hhold, hold, hs, Option.map_none]
      exact .inl ⟨rfl, Option.map_eq_none_iff.mp hnone⟩
  | some s =>
      have hsome : v'.session.map (·.hold) = some s.hold := by
        rw [← hold, hhold, hold, hs, Option.map_some]
      obtain ⟨s', hs', hsame⟩ := Option.map_eq_some_iff.mp hsome
      exact .inr ⟨s, s', rfl, hs', congrArg Prod.fst hsame, congrArg Prod.snd hsame⟩

theorem signal_keeps (s : Signal) : Keeps (beside hold) (signal s) :=
  .setOwn fun _ => rfl

theorem onSession_keeps {α : Type} {a : HostedAct Session α}
    (keeps : Keeps (beside Session.hold) a) : Keeps (beside hold) (onSession a) := by
  rintro ⟨v, h⟩
  cases hsession : v.session with
  | none => simp [onSession, hsession]
  | some s =>
      have hkept := keeps (s, h)
      rcases hon : a.on (s, h) with ⟨outcome, s', h'⟩
      rw [hon] at hkept
      have hhold : s'.hold = s.hold := congrArg Prod.fst hkept
      have hrest : h'.rest = h.rest := congrArg Prod.snd hkept
      have hon' : (onSession a).on (v, h) =
          (outcome.map some, { v with session := some s' }, h') := by
        simp [onSession, hsession, hon, Except.map]
      rw [hon']
      refine Prod.ext ?_ hrest
      change some s'.hold = v.session.map (·.hold)
      rw [hsession, hhold]
      rfl

theorem languages_keeps : Keeps (beside hold) languages :=
  .bind (onSession_keeps (Session.onPipeline_keeps
    (Pipeline.onRegistry_keeps Registry.loadedNames_keeps))) fun _ => .pure _

theorem display_keeps {a : HostedAct Pipeline Document} (keeps : Keeps (beside fun _ => ()) a) :
    Keeps (beside hold) (display a) := by
  refine .bind (.attempt (onSession_keeps (Session.onPipeline_keeps keeps))) fun outcome => ?_
  split
  · exact .bind (.look _) fun _ => signal_keeps _
  · exact .bind (signal_keeps _) fun _ => .bind (.look _) fun _ => signal_keeps _

theorem selectLanguage_keeps (name : String) : Keeps (beside hold) (selectLanguage name) := by
  refine .bind (.look _) fun v => ?_
  split
  · exact display_keeps (Pipeline.setLanguage_keeps name)
  · exact .pure ()

theorem selectNode_keeps (node : Option TreeNode) : Keeps (beside hold) (selectNode node) := by
  refine .bind (.look _) fun v => ?_
  dsimp only
  split
  · exact display_keeps (Pipeline.setSelection_keeps _)
  · exact .pure ()

theorem setFilter_keeps (text : String) : Keeps (beside hold) (setFilter text) := by
  refine .bind (onSession_keeps (Session.setFilter_keeps text)) fun _ => .bind (.look _) fun v => ?_
  split
  · refine .bind (signal_keeps _) fun _ => ?_
    split
    · exact .pure ()
    · exact selectNode_keeps none
  · exact .pure ()

/-!
## Changing the session

The session is closed when the viewer is closed, and once another file has been opened.
A file that cannot be opened changes no session.
-/

variable {v v₁ v₂ : Viewer} {h h₁ h₂ : Host} {s : Session} {path : Path}

theorem close_on_some {outcome : Except Failure Unit} {s' : Session}
    (hsession : v.session = some s) (hclose : Session.close.on (s, h) = (outcome, s', h₁)) :
    ∃ v' h', close.on (v, h) = (.ok (), v', h') ∧ v'.session = none ∧ h'.rest = h₁.rest := by
  obtain ⟨h', hon, hlogged⟩ := close_on_held hsession hclose
  refine ⟨_, h', hon, rfl, ?_⟩
  rcases hlogged with rfl | ⟨message, rfl⟩
  · rfl
  · exact Host.rest_logged ..

theorem open_on_failed {f : Failure} (hopen : (openSession path).on (v, h) = (.error f, v₁, h₁)) :
    ∃ v' h', («open» path).on (v, h) = (.ok false, v', h') ∧ v'.session = v₁.session ∧
      h'.rest = h₁.rest := by
  obtain ⟨h', hon, hrest⟩ := open_refused hopen
  exact ⟨_, h', hon, rfl, hrest⟩

theorem announce_keeps (s : Session) : Keeps (beside hold) (announce s) :=
  .bind (signal_keeps _) fun _ => .bind languages_keeps fun _ => .bind (.look _) fun _ =>
    .bind (signal_keeps _) fun _ => .bind (signal_keeps _) fun _ => .bind (.look _) fun _ =>
      .bind (signal_keeps _) fun _ => .pure true

/-- A session that has been opened is held in place of the one before. -/
theorem open_on_opened (hopen : (openSession path).on (v, h) = (.ok s, v₁, h₁))
    (hclose : close.on (v₁, h₁) = (.ok (), v₂, h₂)) :
    ∃ outcome v' h', («open» path).on (v, h) = (outcome, v', h') ∧ v'.hold = some s.hold ∧
      h'.rest = h₂.rest := by
  have hkept := announce_keeps s ({ v₂ with session := some s }, h₂)
  rw [← open_on_announce hopen hclose] at hkept
  exact ⟨_, _, _, rfl, congrArg Prod.fst hkept, congrArg Prod.snd hkept⟩

end BytecodeViewer.Viewer
