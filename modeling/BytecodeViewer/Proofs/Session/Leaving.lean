import BytecodeViewer.Proofs.Session.Keeping
import BytecodeViewer.Proofs.Session.View

/-!
# Leaving a session

Closing a session disposes its model once and takes its temporary copy away, also where
another session has made a copy of its own in the meantime.
-/

namespace BytecodeViewer

namespace Files

theorem erase_put_ne {fs : Files} {place other : Location} (hne : other ≠ place)
    (content : Option Bytes) :
    (fs.put other content).erase place = (fs.erase place).put other content := by
  simp [erase, put, List.filter_append, List.filter_filter, Bool.and_comm, hne]

theorem entries_put_of_free {fs : Files} {place : Location} (hfree : fs.at? place = none)
    (content : Option Bytes) : (fs.put place content).entries = fs.entries ++ [(place, content)] := by
  have hkept : fs.entries.filter (fun e => e.1 != place) = fs.entries :=
    congrArg (·.entries) (erase_of_free hfree)
  simp only [put, hkept]

end Files

namespace BytecodeSource

variable {fs fs₁ fs₂ : Files} {content content' : Bytes} {temp temp' : Option Path}

/-- Deleting a temporary copy gives some files, whatever else the host is like. -/
def RemovesTo (temp : Option Path) (before after : Files) : Prop :=
  ∀ h : Host, h.files = before → (removeTemp temp).on h = (.ok true, { h with files := after })

theorem InUse.removesTo (inUse : InUse fs content temp fs₁) : RemovesTo temp fs₁ fs := by
  rintro h rfl
  exact inUse.removeTemp_on

theorem InUse.eq_of_none (inUse : InUse fs content none fs₁) : fs₁ = fs := by
  cases inUse
  rfl

/-- The first of two copies can be taken away, and the second one stays. -/
theorem CopyAdded.removesTo_beside {path path' : Path} (copy : CopyAdded fs content path fs₁)
    (copy' : CopyAdded fs₁ content' path' fs₂) :
    ∃ fs', RemovesTo (some path) fs₂ fs' ∧ CopyAdded fs content' path' fs' := by
  cases copy with
  | @mk n dir free =>
    cases copy' with
    | @mk n' dir' free' =>
      have hself : (fs.put (tempPlace n) (some content)).at? (tempPlace n) =
          some (some content) := Files.at?_put_self (tempPlace_ne_root n) _
      have hne : tempPlace n' ≠ tempPlace n := by
        intro hsame
        rw [hsame, hself] at free'
        cases free'
      refine ⟨fs.put (tempPlace n') (some content'), ?_, .mk dir ?_⟩
      · intro h hfiles
        have hdir : HasTempDirectory h.files := by
          rw [HasTempDirectory, hfiles, Files.at?_put_ne (tempDirectory_ne_place n')]
          exact dir'
        have hcopy : h.files.at? (tempPlace n) = some (some content) := by
          rw [hfiles, Files.at?_put_ne hne.symm, hself]
        have hstatus := status_temp hdir hcopy
        have herase : h.files.erase (tempPlace n) = fs.put (tempPlace n') (some content') := by
          rw [hfiles, Files.erase_put_ne hne, Files.erase_put, Files.erase_of_free free]
        have hdiscard : (discard ⟨"", tempPlace n⟩).on h =
            (.ok (), { h with files := fs.put (tempPlace n') (some content') }) := by
          simp only [discard, Act.on_change, hstatus, herase]
        simp only [removeTemp, deletionFault?, Act.on_bind, Act.on_look, hstatus, hdiscard,
          Act.on_pure]
      · rw [← Files.at?_put_ne hne]
        exact free'

theorem InUse.removesTo_beside (inUse : InUse fs content temp fs₁)
    (inUse' : InUse fs₁ content' temp' fs₂) :
    ∃ fs', RemovesTo temp fs₂ fs' ∧ InUse fs content' temp' fs' := by
  cases inUse with
  | plain =>
      refine ⟨fs₂, ?_, inUse'⟩
      rintro h rfl
      simp [removeTemp]
  | copied copy =>
      cases inUse' with
      | plain => exact ⟨fs, (InUse.copied copy).removesTo, .plain⟩
      | copied copy' =>
          obtain ⟨fs', removes, added⟩ := copy.removesTo_beside copy'
          exact ⟨fs', removes, .copied added⟩

/-- The temporary directory has the copy, if there is one, and what was there before. -/
theorem InUse.filesIn_eq (inUse : InUse fs content temp fs₁) :
    fs₁.filesIn tempDirectory =
      fs.filesIn tempDirectory ++ (temp.map Files.placeOf).toList := by
  cases inUse with
  | plain => simp
  | copied copy =>
    cases copy with
    | @mk n dir free =>
      have hplace : Files.placeOf ⟨"", tempPlace n⟩ = tempPlace n := rfl
      have hin : (tempPlace n).dropLast = tempDirectory ∧ tempPlace n ≠ [] := ⟨rfl, nofun⟩
      simp [Files.filesIn, Files.entries_put_of_free free, hplace, hin]

end BytecodeSource

namespace Session

variable {s : Session} {h : Host} {m : LoadedModel} {fs : Files}

/-- Closing an open session whose renderer can be unbound ends as disposing its model does. -/
theorem close_disposes (hopen : s.closed = false) (hm : h.models[s.model]? = some m)
    (unbinds : h.binding s.pipeline.renderer none = .ok ())
    (removes : BytecodeSource.RemovesTo s.temp h.files fs) :
    ∃ s' h', close.on (s, h) = (m.disposal, s', h') ∧ s'.file = s.file ∧ s'.closed = true ∧
      h'.models = h.models.set s.model m.dispose ∧ h'.files = fs ∧ h'.parsed = h.parsed := by
  obtain ⟨h₁, hset, hrest, -⟩ :=
    Pipeline.setModel_on s.pipeline none (h.within [("file", some s.source.name)])
  have unbinds' : (h.within [("file", some s.source.name)]).binding s.pipeline.renderer none =
      .ok () := unbinds
  rw [unbinds'] at hset
  have hmodels : h₁.models = h.models := (Host.rest_models hrest :)
  have hfiles : h₁.files = h.files := (Host.rest_files hrest :)
  have hparsed : h₁.parsed = h.parsed := (Host.rest_parsed hrest :)
  have hdispose : (Host.disposeModel s.model).on h₁ =
      (m.disposal, h₁.setModel s.model m.dispose) := disposeModel_on (hmodels ▸ hm)
  have hremove := removes (h₁.setModel s.model m.dispose) hfiles
  refine ⟨_, _, close_on_steps hopen hset hdispose hremove, rfl, rfl, ?_, rfl, hparsed⟩
  exact congrArg (·.set s.model m.dispose) hmodels

/-- Closing an open session whose renderer cannot be unbound ends as unbinding it does.  The
temporary copy is deleted, but the model is never disposed. -/
theorem close_strands {f : Failure} (hopen : s.closed = false)
    (refuses : h.binding s.pipeline.renderer none = .error f)
    (removes : BytecodeSource.RemovesTo s.temp h.files fs) :
    ∃ s' h', close.on (s, h) = (.error f, s', h') ∧ s'.file = s.file ∧ s'.closed = true ∧
      h'.models = h.models ∧ h'.files = fs ∧ h'.parsed = h.parsed := by
  obtain ⟨h₁, hset, hrest, -⟩ :=
    Pipeline.setModel_on s.pipeline none (h.within [("file", some s.source.name)])
  have refuses' : (h.within [("file", some s.source.name)]).binding s.pipeline.renderer none =
      .error f := refuses
  rw [refuses'] at hset
  have hremove := removes h₁ (Host.rest_files hrest :)
  exact ⟨_, _, close_on_refused hopen hset hremove, rfl, rfl, (Host.rest_models hrest :), rfl,
    (Host.rest_parsed hrest :)⟩

end Session

end BytecodeViewer
