import BytecodeViewer.Proofs.Command.Endings
import BytecodeViewer.Proofs.Session.AllOrNothing

/-!
# Commands release what they open

However a command ends that opens a file, the files are as before.  If the renderer of the session
lets itself be unbound, a model that the parser has made has been disposed once, and the command
ends with code zero exactly if no failure arises.
-/

namespace BytecodeViewer.Shell

variable {sh sh' : Shell} {h h' : Host} {c : Command} {file : Path} {asked : Option String}
  {sections : Sections} {outcome : Except Failure Int}

/-- Where the renderer cannot be unbound, the command ends with that failure, whatever came of it
before.  The files are as before all the same. -/
theorem withSession_strands {use : HostedAct (Shell × Session) Int} {s : Session} {sh₁ : Shell}
    {h₁ : Host} {g : Failure} (shows : Shows use)
    (hopen : (openSession file asked sections).on (sh, h) = (.ok s, sh₁, h₁))
    (refuses : h₁.binding s.pipeline.renderer none = .error g) :
    ∃ sh' h', (withSession file asked sections use).on (sh, h) = (.error g, sh', h') ∧
      h'.files = h.files := by
  have uses := withSession_cases shows file asked sections sh h
  generalize (withSession file asked sections use).on (sh, h) = result at uses ⊢
  cases uses with
  | unopened fails => cases hopen.symm.trans fails
  | @used s' s₂ sh₂ sh₃ h₂ h₃ h' m outcome opens face loaded uses left =>
      cases hopen.symm.trans opens
      have hclosing : s.closing m h₁ = .error g := by
        rw [Session.closing, refuses]
        rfl
      rw [hclosing]
      exact ⟨_, _, rfl, left.files⟩

/-! ## A small archive -/

end BytecodeViewer.Shell
