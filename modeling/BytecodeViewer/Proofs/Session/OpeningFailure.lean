import BytecodeViewer.Proofs.Host.Keeps
import BytecodeViewer.Proofs.Session.Opening

/-!
# Why a file is not opened

When the language can be resolved, opening a file fails with an unknown renderer only if the
parser, the model that it makes or the renderer of the language does.
-/

namespace BytecodeViewer

/-- A parser fails with a failure, or it makes a model that does. -/
def Parser.Raises (p : Parser) (f : Failure) : Prop :=
  ∃ content, p.parse content = .error f ∨ ∃ m, p.parse content = .ok m ∧
    (m.disposeFailure = some f ∨ TreeNode.ofModel m = .error f)

/-- Binding a renderer of the language or asking it for its rules fails with a failure. -/
def Language.Raises (l : Language) (f : Failure) : Prop :=
  ∃ held m, l.binding held m = .error f ∨ l.rulesFault? m = some f

theorem Language.raises_of_taking {l : Language} {held m : Option LoadedModel} {f : Failure}
    (refused : l.taking held m = .error f) : l.Raises f := by
  unfold taking at refused
  split at refused
  · next hbinding =>
    cases refused
    exact ⟨held, m, .inl hbinding⟩
  · next hrules =>
    cases refused
    exact ⟨held, m, .inr hrules⟩
  · cases refused

namespace BytecodeSource

open Act (FailsWith)

variable {path : Path} {content : Bytes} {r : Archive.EndRecord}

theorem archiveFailure_family (path : Path) (why : ArchiveFault) :
    (archiveFailure path why).family? ≠ some .unknownRenderer := by
  unfold archiveFailure
  split <;> simp [Failure.family?]

theorem findEntry_family (f : Failure) (he : findEntry path content r = .error f) :
    f.family? ≠ some .unknownRenderer := by
  unfold findEntry at he
  split at he
  · cases he
    exact archiveFailure_family path _
  · split at he
    · cases he
      simp [Failure.family?]
    · cases he

theorem makeTemp_family : FailsWith (·.family? ≠ some .unknownRenderer) makeTemp := by
  intro h f h' hon
  simp only [makeTemp, Act.on_ofFunction] at hon
  split at hon
  · split at hon
    · cases hon
    · cases hon
      simp [Failure.family?]
  · cases hon
    simp [Failure.family?]
  · cases hon
    simp [Failure.family?]

theorem copyEntry_family (path : Path) (content : Bytes) (r : Archive.EndRecord) :
    FailsWith (·.family? ≠ some .unknownRenderer) (copyEntry path content r) := by
  refine .bind (.ofExcept findEntry_family) fun e => .bind makeTemp_family fun temp => ?_
  split
  · exact .bind (.change _) fun _ => .pure temp
  · exact .bind (.change _) fun _ => .throw (archiveFailure_family path _)

/-- Looking for the bytecode of a file has nothing to do with renderers. -/
theorem locate_family (source : Path) :
    FailsWith (·.family? ≠ some .unknownRenderer) (locate source) := by
  refine .bind (.look _) fun status => ?_
  split
  · split
    · exact .pure _
    · exact .throw (by simp [Failure.family?])
    · exact .bind (copyEntry_family source _ _) fun temp => .bind (.change _) fun _ => .pure _
  · exact .throw (by simp [Failure.family?])

end BytecodeSource

namespace Session

variable {source : Path} {temp : Option Path} {parser : Parser} {o : OpenOptions}
  {content : Bytes} {m : LoadedModel} {f g : Failure} {h h₁ h₂ h' : Host}

theorem parseFailure_eq (family : (parseFailure source g).family? = some .unknownRenderer) :
    parseFailure source g = g := by
  unfold parseFailure at family ⊢
  split at family
  · next hraised => rw [if_pos hraised]
  · cases family

/-- Steps in a row fail at the first of them, or after it. -/
theorem error_of_bind {α β : Type} {x : Except Failure α} {g : α → Except Failure β}
    (fails : x >>= g = .error f) : x = .error f ∨ ∃ a, x = .ok a ∧ g a = .error f := by
  cases x with
  | error e =>
      cases fails
      exact .inl rfl
  | ok a => exact .inr ⟨a, rfl, fails⟩

theorem error_of_forM {α : Type} {x : Option α} {g : α → Except Failure Unit}
    (fails : x.forM g = .error f) : ∃ a, x = some a ∧ g a = .error f := by
  cases x with
  | none => cases fails
  | some a => exact ⟨a, rfl, fails⟩

/-- The language that is chosen, if any, can be resolved. -/
def Settled (o : OpenOptions) (h : Host) : Prop :=
  ∀ name, o.languageOn h = some name → (o.registryOn h).resolves name = true

/-- A session cannot be made where its tree cannot be made, or where its renderer cannot be
taken into use. -/
theorem making_raises (making : o.making h m = .error f) :
    TreeNode.ofModel m = .error f ∨ ∃ r, o.rendererOn? h = some r ∧ r.language.Raises f := by
  unfold OpenOptions.making at making
  rcases error_of_bind making with taken | ⟨_, -, rest⟩
  · obtain ⟨r, hr, htaken⟩ := error_of_forM taken
    exact .inr ⟨r, hr, Language.raises_of_taking htaken⟩
  · rcases error_of_bind rest with htree | ⟨_, -, bound⟩
    · exact .inl htree
    · obtain ⟨r, hr, hbound⟩ := error_of_forM bound
      exact .inr ⟨r, hr, none, some m, .inl hbound⟩

theorem refusal?_raises (settled : Settled o h) (refusal : o.refusal? h m = some f) :
    TreeNode.ofModel m = .error f ∨ ∃ r, o.rendererOn? h = some r ∧ r.language.Raises f := by
  have hnone : ((o.languageOn h).filter fun name => !(o.registryOn h).resolves name) = none := by
    cases hlanguage : o.languageOn h with
    | none => rfl
    | some name => simp [Option.filter, settled name hlanguage]
  simp only [OpenOptions.refusal?, hnone] at refusal
  split at refusal
  · next making =>
    cases refusal
    exact making_raises making
  · cases refusal

theorem Parsed.settled (known : Parsed source parser temp content m h h₁)
    (settled : Settled o h) : Settled o h₁ := by
  intro name hname
  rw [known.registryOn_eq]
  exact settled name (known.languageOn_eq ▸ hname)

/-- Where no session can be made for a model, this is told unless disposing the model fails. -/
theorem openSource_on_unmade {path : Path} {id : ModelId}
    (hparse : (BytecodeSource.parse parser path).on h = (.ok id, h₁))
    (hassemble : (assemble source temp id o).on h₁ = (.error f, h₂))
    (hm : h₂.models[id]? = some m) :
    ∃ h', (openSource source ⟨path, temp⟩ parser o).on h =
      (.error (m.disposeFailure.getD f), h') := by
  have hdispose := disposeModel_on hm
  cases hd : m.disposeFailure with
  | none =>
      obtain ⟨gone, h₃, hremove, -⟩ :=
        BytecodeSource.removeTemp_total temp (h₂.setModel id m.dispose)
      rw [hd] at hdispose
      exact ⟨h₃, by simp [openSource, hparse, hassemble, hdispose, hremove]⟩
  | some g =>
      rw [hd] at hdispose
      exact ⟨_, by simp [openSource, hparse, hassemble, hdispose]; rfl⟩

theorem openSource_raises {place : Location} {path : Path} (settled : Settled o h)
    (holds : BytecodeSource.Holds h.files source content temp.isSome)
    (reads : h₁.files.status path = .file place content)
    (inUse : BytecodeSource.InUse h.files content temp h₁.files)
    (fileless : h₁.fileless = h.fileless)
    (hon : (openSource source ⟨path, temp⟩ parser o).on h₁ = (.error f, h'))
    (family : f.family? = some .unknownRenderer) :
    parser.Raises f ∨ ∃ r, o.rendererOn? h = some r ∧ r.language.Raises f := by
  have hparse := parse_on parser reads
  obtain ⟨gone, k, hremove, -⟩ := BytecodeSource.removeTemp_total temp
    { h₁ with parsed := h₁.parsed ++ [(parser.label, content)] }
  cases hp : parser.parse content with
  | error g =>
      rw [hp] at hparse
      simp only [openSource, Act.on_bind, Act.on_attempt, hparse, hremove, Act.on_throw] at hon
      cases hon
      rw [parseFailure_eq family]
      exact .inl ⟨content, .inl hp⟩
  | ok m =>
      rw [hp] at hparse
      let h₂ := { h₁ with
        parsed := h₁.parsed ++ [(parser.label, content)], models := h₁.models ++ [m] }
      have hmodels : h₁.models = h.models := congrArg (·.models) fileless
      have hparsed : h₁.parsed = h.parsed := congrArg (·.parsed) fileless
      have known : Parsed source parser temp content m h h₂ := by
        refine ⟨holds, hp, inUse, ?_, congrArg (·.plugins) fileless,
          congrArg (·.renderers) fileless, ?_⟩
        · simp only [h₂, hmodels]
        · simp only [h₂, hparsed]
      have assembly : Assembly source temp h₁.models.length m o h₂
          ((assemble source temp h₁.models.length o).on h₂) := assemble_on (by simp [h₂])
      rcases hassemble : (assemble source temp h₁.models.length o).on h₂ with ⟨outcome, h₃⟩
      rw [hassemble] at assembly
      cases assembly with
      | made =>
          simp only [openSource, Act.on_bind, Act.on_attempt, hparse, hassemble, h₂,
            Host.on_record, Act.on_pure] at hon
          cases hon
      | @failed g _ fault rest =>
          have raised := refusal?_raises (known.settled settled) fault
          rw [known.rendererOn?_eq] at raised
          have hm : h₃.models[h₁.models.length]? = some m := by
            rw [Host.rest_models rest]
            simp [h₂]
          obtain ⟨k, hunmade⟩ := openSource_on_unmade hparse hassemble hm
          rw [hunmade] at hon
          cases hon
          cases hd : m.disposeFailure with
          | none =>
              rcases raised with htree | hrenderer
              · exact .inl ⟨content, .inr ⟨m, hp, .inr htree⟩⟩
              · exact .inr hrenderer
          | some g => exact .inl ⟨content, .inr ⟨m, hp, .inl hd⟩⟩

/-- When the language can be resolved, only the parser, its model and the renderer of the
language raise an unknown renderer. -/
theorem open_raises (settled : Settled o h)
    (hon : (Session.«open» source parser o).on h = (.error f, h'))
    (family : f.family? = some .unknownRenderer) :
    parser.Raises f ∨ ∃ r, o.rendererOn? h = some r ∧ r.language.Raises f := by
  have located := BytecodeSource.locate_on source (h.within [("file", some source.name)])
  rcases hlocate : (BytecodeSource.locate source).on (h.within [("file", some source.name)]) with
    ⟨outcome, h₁⟩
  rw [hlocate] at located
  simp only [Session.«open», inFileContext_on, Act.on_bind, hlocate] at hon
  cases located with
  | failed files fileless notPlain =>
      cases hon
      exact absurd family (BytecodeSource.locate_family source hlocate)
  | @found _ path content temp _ holds reads inUse fileless =>
      rcases hopen : (openSource source ⟨path, temp⟩ parser o).on h₁ with ⟨outcome, h₂⟩
      simp only [hopen] at hon
      cases hon
      have settled' : Settled o (h.within [("file", some source.name)]) := settled
      exact openSource_raises settled' holds reads inUse fileless hopen family

theorem open_language {s : Session}
    (hon : (Session.«open» source parser o).on h = (.ok s, h')) :
    s.pipeline.language = o.languageOn h := by
  have opening := open_on source parser o h
  rw [hon] at opening
  cases opening with
  | opened _ _ _ language => exact language

end Session

end BytecodeViewer
