import BytecodeViewer.Proofs.Command.Sessions
import BytecodeViewer.Proofs.Terminal.Escaping

/-!
# How commands end

The work of a command is what it does before it prints, with no failure caught.  When the work is
done, the command ends with code zero; when a failure arises in it, the command tells the failure
and ends with code one, or lets it through.
-/

namespace BytecodeViewer

open Act (Keeps beside)

/-- A command that opens a session and shows something of it. -/
def Command.Browses : Command → Prop
  | .classes .. | .render .. => True
  | _ => False

namespace Shell

variable {sh sh₁ sh' : Shell} {h h₁ h' : Host} {c : Command} {file : Path} {f : Failure}
  {asked : Option String} {sections : Sections}

/-! ## The work of a command -/

/-- Opens the session of a command that has one. -/
def opened : Command → HostedAct Shell (Option Session)
  | .languages => do
    let registry ← Act.onHost (Registry.builtin true)
    let (_, registry) ← Act.onHost (Act.carrying registry Registry.loadedNames)
    let usual := (← findSettings).language
    let _ ← Act.onHost (Act.carrying registry (Registry.pickLanguage (some usual)))
    return none
  | .classes file _ => some <$> openSession file none .standard
  | .render file r => do
    let base ← findSections
    some <$> openSession file r.language (base.toggleAll r.switches)
  | .gui _ => do
    let _ ← findSettings
    return none

/-- Shows in a session what a command asks for. -/
def showing : Command → Session → Act Host Unit
  | .render _ r, session => do
    let _ ← Act.carrying session (select r)
  | _, _ => return

def work (c : Command) : HostedAct Shell Unit := do
  if let some session ← opened c then
    Act.onHost (showing c session)

/-- The renderer of the session that a command opens lets itself be unbound. -/
def Unbinds (c : Command) (sh : Shell) (h : Host) : Prop :=
  ∀ s sh₁ h₁, (opened c).on (sh, h) = (.ok (some s), sh₁, h₁) →
    h₁.binding s.pipeline.renderer none = .ok ()

theorem unbinds_of_isOk (hall : (match (opened c).on (sh, h) with
    | (.ok (some s), _, h₁) => (h₁.binding s.pipeline.renderer none).isOk
    | _ => true) = true) : Unbinds c sh h := by
  intro s sh₁ h₁ hopened
  rw [hopened] at hall
  cases hbinding : h₁.binding s.pipeline.renderer none with
  | ok _ => rfl
  | error f =>
      simp only [hbinding] at hall
      cases hall

/-- The session that a command opens cannot be closed: its renderer cannot be unbound, or its
model cannot be disposed. -/
def Unclosed (c : Command) (sh : Shell) (h : Host) (g : Failure) : Prop :=
  ∃ s sh₁ h₁ m, (opened c).on (sh, h) = (.ok (some s), sh₁, h₁) ∧
    h₁.models[s.model]? = some m ∧ s.closing m h₁ = .error g

/-! ## Telling failures -/

/-- A failure has been told: its description has been printed, and nothing else.  Backslashes
and codes of emoji apart, it is shown as it is. -/
def Told (f : Failure) (sh sh' : Shell) : Prop :=
  ∃ text, Terminal.plainOfMarkup sh.emoji ("[red]" ++ Terminal.escape f.describe ++ "[/red]") =
      .ok text ∧
    sh'.printed = sh.printed ++ Terminal.shown sh.width text "\n" ∧
    ('\\' ∉ f.describe.toList → Terminal.EmojiFree sh.emoji f.describe.toList → text = f.describe)

theorem report_on (f : Failure) (sh : Shell) (h : Host) :
    ∃ sh', (report f).on (sh, h) = (.ok 1, sh', h) ∧ Told f sh sh' := by
  obtain ⟨text, hplain, hsame⟩ := Terminal.plainOfMarkup_escape sh.emoji f.describe
  refine ⟨{ sh with printed := sh.printed ++ Terminal.shown sh.width text "\n" }, ?_, text, hplain,
    rfl, hsame⟩
  simp [report, printMarkup, hplain, printText, write, Except.map]

theorem Told.of_face (told : Told f sh₁ sh') (face : sh₁.face = sh.face) : Told f sh sh' := by
  obtain ⟨text, hplain, hprinted, hsame⟩ := told
  rw [face_printed face, face_width face] at hprinted
  rw [face_emoji face] at hplain hsame
  exact ⟨text, hplain, hprinted, hsame⟩

/-- How a command ends, by what its work has come to. -/
inductive Ends (sh : Shell) : Except Failure Unit → Except Failure Int → Shell → Prop
  | done {sh' : Shell} : Ends sh (.ok ()) (.ok 0) sh'
  | told {f : Failure} {sh' : Shell} (told : Told f sh sh') : Ends sh (.error f) (.ok 1) sh'
  | raised {f : Failure} {sh' : Shell} (untyped : f.isTyped = false) :
      Ends sh (.error f) (.error f) sh'

theorem Ends.of_face {worked : Except Failure Unit} {outcome : Except Failure Int}
    (ends : Ends sh₁ worked outcome sh') (face : sh₁.face = sh.face) :
    Ends sh worked outcome sh' := by
  cases ends with
  | done => exact .done
  | told told => exact .told (told.of_face face)
  | raised untyped => exact .raised untyped

/-- A failure that is not told is let through; where typed failures are told, it is not typed. -/
theorem reportIf_ends (isTold : Failure → Bool) (typed : f.isTyped = true → isTold f = true)
    (sh : Shell) (h : Host) :
    ∃ outcome sh', (reportIf isTold f).on (sh, h) = (outcome, sh', h) ∧
      Ends sh (.error f) outcome sh' := by
  cases htold : isTold f with
  | true =>
      obtain ⟨sh', hreport, told⟩ := report_on f sh h
      exact ⟨.ok 1, sh', by simp [reportIf, htold, hreport], .told told⟩
  | false =>
      refine ⟨.error f, sh, by simp [reportIf, htold], .raised ?_⟩
      cases hf : f.isTyped with
      | false => rfl
      | true => cases htold.symm.trans (typed hf)

/-! ## Using the session -/

/-- Prints what is visible of the tree of a session. -/
def printTree (filter : String) : HostedAct (Shell × Session) Int := do
  onSession (Session.setFilter filter)
  let session := (← Act.own).2
  match session.tree.visible with
  | [] => onShell (printText "No matching classes." "\n")
  | nodes =>
    let outline : Outline := .mk session.source.name (outlinesOf nodes)
    onShell do write (outline.shown (← Act.own).width)
  return 0

/-- Prints the document that a request asks for. -/
def printDocument (r : RenderRequest) : HostedAct (Shell × Session) Int := do
  match ← (onSession (select r)).attempt with
  | .ok document => do
    onShell (printText document.text "")
    return 0
  | .error f => onShell (reportIf Failure.isTyped f)

theorem printTree_on (filter : String) (sh : Shell) (s : Session) (h : Host) :
    ∃ sh' s', (printTree filter).on ((sh, s), h) = (.ok 0, (sh', s'), h) ∧ s'.hold = s.hold ∧
      s'.pipeline = s.pipeline := by
  let s' : Session := { s with tree := s.tree.setFilter filter }
  cases hvisible : (s.tree.setFilter filter).visible with
  | nil =>
      let line := Terminal.shown sh.width "No matching classes." "\n"
      refine ⟨{ sh with printed := sh.printed ++ line }, s', ?_, rfl, rfl⟩
      simp [printTree, onSession, onShell, Session.setFilter, hvisible, printText, write,
        Except.map, s', line]
  | cons node nodes =>
      let outline : Outline := .mk s.source.name (outlinesOf (node :: nodes))
      refine ⟨{ sh with printed := sh.printed ++ outline.shown sh.width }, s', ?_, rfl, rfl⟩
      simp [printTree, onSession, onShell, Session.setFilter, hvisible, write, Except.map, s',
        outline]

theorem printTree_shows (filter : String) : Shows (printTree filter) where
  keeps := by
    rintro ⟨⟨sh, s⟩, h⟩
    obtain ⟨sh', s', hon, hhold, -⟩ := printTree_on filter sh s h
    rw [hon]
    exact Prod.ext hhold rfl
  unbinding := by
    rintro ⟨⟨sh, s⟩, h⟩
    obtain ⟨sh', s', hon, -, hpipeline⟩ := printTree_on filter sh s h
    rw [hon]
    simp only [Session.unbinding, hpipeline]

theorem select_keeps (r : RenderRequest) : Keeps (beside Session.hold) (select r) := by
  refine .bind (.look _) fun s => .bind (.onHost (.look _)) fun m => ?_
  split
  · exact .pure _
  · exact .bind (.ofExcept _) fun selection =>
      Session.onPipeline_keeps (Pipeline.setSelection_keeps _)

theorem select_keeps_unbinding (r : RenderRequest) : Keeps Session.unbinding (select r) := by
  refine .bind (.look _) fun s => .bind (fun _ => rfl) fun m => ?_
  split
  · exact .pure _
  · exact .bind (.ofExcept _) fun selection =>
      fun state => Pipeline.setSelection_keeps_unbinding (some selection)
        (state.1.pipeline, state.2)

/-- What is printed is the document that is selected. -/
theorem printDocument_on_ok {r : RenderRequest} {s s' : Session} {document : Document}
    (hselect : (select r).on (s, h) = (.ok document, s', h')) (sh : Shell) :
    (printDocument r).on ((sh, s), h) = (.ok 0, ({ sh with
      printed := sh.printed ++ Terminal.shown sh.width document.text "" }, s'), h') := by
  simp [printDocument, onSession, onShell, hselect, printText, write, Except.map]

theorem printDocument_on_error {r : RenderRequest} {s s' : Session}
    (hselect : (select r).on (s, h) = (.error f, s', h')) (sh : Shell) :
    ∃ outcome sh', (printDocument r).on ((sh, s), h) = (outcome, (sh', s'), h') ∧
      Ends sh (.error f) outcome sh' := by
  obtain ⟨outcome, sh', hreport, ends⟩ :=
    reportIf_ends Failure.isTyped (fun typed : f.isTyped = true => typed) sh h'
  exact ⟨outcome, sh', by simp [printDocument, onSession, onShell, hselect, hreport], ends⟩

theorem printDocument_on (file : Path) (r : RenderRequest) (sh : Shell) (s : Session) (h : Host) :
    ∃ outcome sh', (printDocument r).on ((sh, s), h) =
        (outcome, (sh', ((select r).on (s, h)).2.1), ((select r).on (s, h)).2.2) ∧
      Ends sh ((showing (.render file r) s).on h).1 outcome sh' := by
  rcases hselect : (select r).on (s, h) with ⟨f | document, s', h'⟩
  · obtain ⟨outcome, sh', hon, ends⟩ := printDocument_on_error hselect sh
    refine ⟨outcome, sh', hon, ?_⟩
    simpa [showing, hselect, Except.map] using ends
  · refine ⟨.ok 0, _, printDocument_on_ok hselect sh, ?_⟩
    simpa [showing, hselect, Except.map] using .done

theorem printDocument_shows (r : RenderRequest) : Shows (printDocument r) where
  keeps := by
    rintro ⟨⟨sh, s⟩, h⟩
    have hkept := select_keeps r (s, h)
    obtain ⟨outcome, sh', hon, -⟩ := printDocument_on s.source r sh s h
    rw [hon]
    exact hkept
  unbinding := by
    rintro ⟨⟨sh, s⟩, h⟩
    have hkept := select_keeps_unbinding r (s, h)
    obtain ⟨outcome, sh', hon, -⟩ := printDocument_on s.source r sh s h
    rw [hon]
    exact hkept

/-! ## Commands that browse -/

/-- What a command does with its session is what its use of the session comes to. -/
def Fits (c : Command) (use : HostedAct (Shell × Session) Int) : Prop :=
  ∀ sh s h, ∃ outcome sh' s' h', use.on ((sh, s), h) = (outcome, (sh', s'), h') ∧
    Ends sh ((showing c s).on h).1 outcome sh'

/-- Either the session can be closed, and the command ends as its work does; or it ends with
the failure of closing, which is that of disposing the model if the renderer can be unbound. -/
def EndsUnless (c : Command) (sh : Shell) (h : Host) (result : Except Failure Int × Shell × Host) :
    Prop :=
  ((∀ g, ¬Unclosed c sh h g) ∧ Ends sh ((work c).on (sh, h)).1 result.1 result.2.1) ∨
    ∃ g, Unclosed c sh h g ∧ result.1 = .error g ∧ (Unbinds c sh h →
      ∃ m ∈ result.2.2.models.drop h.models.length, m.disposeFailure = some g)

theorem work_on_unopened (hopened : (opened c).on (sh, h) = (.error f, sh', h')) :
    ((work c).on (sh, h)).1 = .error f := by
  simp [work, hopened]

theorem work_on_opened {s : Session} (hopened : (opened c).on (sh, h) = (.ok (some s), sh', h')) :
    ((work c).on (sh, h)).1 = ((showing c s).on h').1 := by
  simp [work, hopened]

theorem EndsUnless.of_unopened {result : Except Failure Int × Shell × Host}
    (hopened : (opened c).on (sh, h) = (.error f, sh₁, h₁))
    (ends : Ends sh (.error f) result.1 result.2.1) : EndsUnless c sh h result := by
  refine .inl ⟨?_, by rwa [work_on_unopened hopened]⟩
  rintro g ⟨s, sh', h', m, hopened', -⟩
  cases hopened.symm.trans hopened'

/-- Where the renderer can be unbound, closing fails as disposing the model does. -/
theorem disposeFailure_of_closing {s : Session} {m : LoadedModel} {g : Failure}
    (unbinds : h.binding s.pipeline.renderer none = .ok ()) (fails : s.closing m h = .error g) :
    m.disposeFailure = some g := by
  simp only [Session.closing, unbinds] at fails
  cases hdispose : m.disposeFailure with
  | none =>
      simp only [LoadedModel.disposal, hdispose] at fails
      cases fails
  | some f =>
      simp only [LoadedModel.disposal, hdispose] at fails
      cases fails
      rfl

theorem withSession_ends {use : HostedAct (Shell × Session) Int}
    (hopened : (opened c).on (sh, h) = (some <$> openSession file asked sections).on (sh₁, h₁))
    (kept : beside face (sh₁, h₁) = beside face (sh, h)) (shows : Shows use) (fits : Fits c use) :
    EndsUnless c sh h ((withSession file asked sections use).on (sh₁, h₁)) := by
  have face : sh₁.face = sh.face := congrArg Prod.fst kept
  have models : h₁.models = h.models := Host.rest_models (congrArg Prod.snd kept)
  have uses := withSession_cases shows file asked sections sh₁ h₁
  generalize (withSession file asked sections use).on (sh₁, h₁) = result at uses ⊢
  cases uses with
  | @unopened f sh₂ h₂ fails face₂ released =>
      have typed (hf : f.isTyped = true) : (f.isTyped || f.isSystem) = true := by simp [hf]
      obtain ⟨outcome, sh', hreport, ends⟩ :=
        reportIf_ends (fun f => f.isTyped || f.isSystem) typed sh₂ h₂
      rw [Act.on_map, fails] at hopened
      rw [hreport]
      exact .of_unopened hopened ((ends.of_face face₂).of_face face)
  | @used s s₂ sh₂ sh₃ h₂ h₃ h' m outcome opens face₂ loaded huse left =>
      obtain ⟨outcome', sh₃', s₂', h₃', hon, ends⟩ := fits sh₂ s h₂
      cases huse.symm.trans hon
      rw [Act.on_map, opens] at hopened
      have hwork := work_on_opened hopened
      cases hclosing : s.closing m h₂ with
      | error g =>
          refine .inr ⟨g, ⟨s, sh₂, h₂, m, hopened, loaded, hclosing⟩, rfl, fun unbinds => ?_⟩
          obtain ⟨m', hmodels, hsame⟩ := left.model
          refine ⟨m', by simp [hmodels, models], hsame.trans ?_⟩
          exact disposeFailure_of_closing (unbinds s sh₂ h₂ hopened) hclosing
      | ok _ =>
          refine .inl ⟨?_, ?_⟩
          · rintro g ⟨s', sh', h'', m', hopened', loaded', hfails'⟩
            cases hopened.symm.trans hopened'
            cases loaded.symm.trans loaded'
            cases hclosing.symm.trans hfails'
          · rw [hwork]
            exact (ends.of_face face₂).of_face face

theorem listClasses_ends (file : Path) (filter : String) (sh : Shell) (h : Host) :
    EndsUnless (.classes file filter) sh h ((run (.classes file filter)).on (sh, h)) := by
  have fits : Fits (.classes file filter) (printTree filter) := by
    intro sh s h
    obtain ⟨sh', s', hon, -⟩ := printTree_on filter sh s h
    exact ⟨_, _, _, _, hon, .done⟩
  exact withSession_ends rfl rfl (printTree_shows filter) fits

theorem findSections_kept {outcome : Except Failure Sections}
    (hsections : findSections.on (sh, h) = (outcome, sh₁, h₁)) :
    beside face (sh₁, h₁) = beside face (sh, h) := by
  have hkept := findSections_keeps (sh, h)
  rwa [hsections] at hkept

theorem render_on_error (hsections : findSections.on (sh, h) = (.error f, sh₁, h₁)) (file : Path)
    (r : RenderRequest) :
    (render file r).on (sh, h) =
      (reportIf (fun f => f.isTyped || f.isValueFailure) f).on (sh₁, h₁) := by
  simp only [render, Act.on_bind, Act.on_attempt, hsections]

theorem render_on_ok {base : Sections} (hsections : findSections.on (sh, h) = (.ok base, sh₁, h₁))
    (file : Path) (r : RenderRequest) :
    (render file r).on (sh, h) =
      (withSession file r.language (base.toggleAll r.switches) (printDocument r)).on (sh₁, h₁) := by
  simp only [render, Act.on_bind, Act.on_attempt, hsections]
  rfl

theorem render_ends (file : Path) (r : RenderRequest) (sh : Shell) (h : Host) :
    EndsUnless (.render file r) sh h ((run (.render file r)).on (sh, h)) := by
  rw [run]
  rcases hsections : findSections.on (sh, h) with ⟨f | base, sh₁, h₁⟩
  · have hopened : (opened (.render file r)).on (sh, h) = (.error f, sh₁, h₁) := by
      simp [opened, hsections]
    have typed (hf : f.isTyped = true) : (f.isTyped || f.isValueFailure) = true := by simp [hf]
    obtain ⟨outcome, sh', hreport, ends⟩ :=
      reportIf_ends (fun f => f.isTyped || f.isValueFailure) typed sh₁ h₁
    rw [render_on_error hsections, hreport]
    exact .of_unopened hopened (ends.of_face (congrArg Prod.fst (findSections_kept hsections)))
  · have hopened : (opened (.render file r)).on (sh, h) =
        (some <$> openSession file r.language (base.toggleAll r.switches)).on (sh₁, h₁) := by
      simp [opened, hsections]
    have fits : Fits (.render file r) (printDocument r) := by
      intro sh s h
      obtain ⟨outcome, sh', hon, ends⟩ := printDocument_on file r sh s h
      exact ⟨_, _, _, _, hon, ends⟩
    rw [render_on_ok hsections]
    exact withSession_ends hopened (findSections_kept hsections) (printDocument_shows r) fits

end Shell

end BytecodeViewer
