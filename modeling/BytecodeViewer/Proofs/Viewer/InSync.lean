import BytecodeViewer.Proofs.Viewer.Trace
import BytecodeViewer.Proofs.Viewer.Turn

/-!
# The window is in sync

The window knows of the viewer what it has been told.  Whatever is done, what it has been told
last is what the viewer holds.
-/

namespace BytecodeViewer

namespace Signal

def title? : Signal → Option String
  | title text => some text
  | _ => none

def names? : Signal → Option (List String)
  | languages names _ => some names
  | _ => none

def tree? : Signal → Option (List TreeNode)
  | tree nodes => some nodes
  | _ => none

def document? : Signal → Option Document
  | document d => some d
  | _ => none

@[simp] theorem title?_error (text : String) : title? (error text) = none := rfl

@[simp] theorem names?_error (text : String) : names? (error text) = none := rfl

@[simp] theorem tree?_error (text : String) : tree? (error text) = none := rfl

@[simp] theorem document?_error (text : String) : document? (error text) = none := rfl

end Signal

namespace Viewer

variable {α : Type} {told? : Signal → Option α}

/-- What has been told last among the signals of one kind. -/
def lastTold (told? : Signal → Option α) (signals : List Signal) : Option α :=
  (signals.filterMap told?).getLast?

@[simp] theorem lastTold_nil : lastTold told? [] = none := rfl

@[simp] theorem lastTold_append (before after : List Signal) :
    lastTold told? (before ++ after) = (lastTold told? after).or (lastTold told? before) := by
  simp [lastTold]

theorem lastTold_singleton (signal : Signal) : lastTold told? [signal] = told? signal := by
  cases hsignal : told? signal <;> simp [lastTold, hsignal]

@[simp] theorem lastTold_cons (signal : Signal) (signals : List Signal) :
    lastTold told? (signal :: signals) = (lastTold told? signals).or (told? signal) := by
  rw [← List.singleton_append, lastTold_append, lastTold_singleton]

@[simp] theorem lastTold_complaint (failure : Option Failure) :
    lastTold told? (complaint failure) = failure.bind fun f => told? (.error f.describe) := by
  cases failure <;> simp [complaint]

theorem title_eq (v : Viewer) : v.title = (v.session.map Session.title).getD appTitle := by
  cases hsession : v.session <;> simp [title, hsession]

theorem document_eq (v : Viewer) :
    v.document = (v.session.map (·.pipeline.document)).getD .empty := by
  cases hsession : v.session <;> simp [document, hsession]

/-- What has been told last is what there is of the session. -/
structure InSync (session : Option Session) (signals : List Signal) : Prop where
  title : (lastTold Signal.title? signals).getD appTitle =
    (session.map Session.title).getD appTitle
  document : (lastTold Signal.document? signals).getD .empty =
    (session.map (·.pipeline.document)).getD .empty
  tree : ∀ s, session = some s → lastTold Signal.tree? signals = some s.tree.visible
  names : ∀ s, session = some s →
    lastTold Signal.names? signals = some s.pipeline.registry.names
  /-- Listing the languages loads nothing more. -/
  loaded : ∀ s, session = some s → s.pipeline.registry.pending = []

theorem inSync_start : InSync none [] where
  title := rfl
  document := rfl
  tree _ hs := by cases hs
  names _ hs := by cases hs
  loaded _ hs := by cases hs

theorem InSync.turn {v : Viewer} {h : Host} {op : Operation} {session : Option Session}
    {told : List Signal} (sync : InSync v.session v.signals) (turn : Turn v h op session told) :
    InSync session (v.signals ++ told) := by
  cases turn with
  | idle => rwa [List.append_nil]
  | @shown _ s call _ held asks after =>
      rw [held] at sync
      subst after
      have hregistry : (call.act.on (s.pipeline, h)).2.1.registry = s.pipeline.registry := by
        rw [call.on_registry s.pipeline h, call.registry_idle (sync.loaded s rfl)]
      constructor
      · simpa [Signal.title?, Session.title] using sync.title
      · simp [Signal.document?]
      · rintro _ ⟨⟩
        simpa [Signal.tree?] using sync.tree s rfl
      · rintro _ ⟨⟩
        simpa [Signal.names?, hregistry] using sync.names s rfl
      · rintro _ ⟨⟩
        simpa [hregistry] using sync.loaded s rfl
  | @filtered s text held visible =>
      rw [held] at sync
      constructor
      · simpa [Signal.title?, Session.title] using sync.title
      · simpa [Signal.document?] using sync.document
      · rintro _ ⟨⟩
        simp [Signal.tree?]
      · rintro _ ⟨⟩
        simpa [Signal.names?] using sync.names s rfl
      · rintro _ ⟨⟩
        exact sync.loaded s rfl
  | @hidden s text held hides =>
      rw [held] at sync
      constructor
      · simpa [Session.hiding, Signal.title?, Session.title] using sync.title
      · simp [Session.hiding, Signal.document?]
      · rintro _ ⟨⟩
        simp [Session.hiding, Signal.tree?]
      · rintro _ ⟨⟩
        simpa [Session.hiding, Signal.names?] using sync.names s rfl
      · rintro _ ⟨⟩
        exact sync.loaded s rfl
  | left held => constructor <;> simp [Signal.title?, Signal.document?]
  | refused fails =>
      constructor
      · simpa [refusal, Signal.title?] using sync.title
      · simpa [refusal, Signal.document?] using sync.document
      · simpa [refusal, Signal.tree?] using sync.tree
      · simpa [refusal, Signal.names?] using sync.names
      · exact sync.loaded
  | @opened path s registry opens untouched idle =>
      constructor
      · simp [welcome, Signal.title?, Session.title]
      · simp [welcome, Signal.document?]
      · rintro _ ⟨⟩
        simp [welcome, Signal.tree?]
      · rintro _ ⟨⟩
        simp [welcome, Signal.names?]
      · rintro _ ⟨⟩
        exact idle

theorem languages_on_loaded {v : Viewer} {s : Session} (hsession : v.session = some s)
    (loaded : s.pipeline.registry.pending = []) (h : Host) :
    languages.on (v, h) = (.ok s.pipeline.registry.names, v, h) := by
  rw [languages_on hsession (Registry.loadedNames_on_idle loaded h), ← hsession]

/-- After any operations the title and the document that have been told last are those of the
viewer, and while a file is open so are its tree and the languages. -/
theorem in_sync_of_run {v₀ v : Viewer} {ops : List Operation} (unheld : v₀.session = none)
    (silent : v₀.signals = []) (run : Run (fun _ _ => True) v₀ ops v) :
    (lastTold Signal.title? v.signals).getD appTitle = v.title ∧
      (lastTold Signal.document? v.signals).getD .empty = v.document ∧
      ∀ s, v.session = some s →
        lastTold Signal.tree? v.signals = some s.tree.visible ∧
        ∀ h, ∃ names, languages.on (v, h) = (.ok names, v, h) ∧
          lastTold Signal.names? v.signals = some names := by
  have sync : InSync v.session v.signals := by
    refine run.invariant (fun v => InSync v.session v.signals) ?_ ?_
    · rw [unheld, silent]
      exact inSync_start
    · exact fun _ _ _ _ _ _ _ sync turn => sync.turn turn
  refine ⟨sync.title.trans (title_eq v).symm, sync.document.trans (document_eq v).symm, ?_⟩
  intro s hs
  refine ⟨sync.tree s hs, fun h => ⟨_, languages_on_loaded hs (sync.loaded s hs) h, ?_⟩⟩
  exact sync.names s hs

/-- A file is opened, its tree is filtered, and a file that is missing is opened. -/
theorem in_sync_after_missing_file :
    Trace.smallViewer.session = none ∧ Trace.smallViewer.signals = [] ∧
      ∃ v, Run (fun _ _ => True) Trace.smallViewer [.openFile Session.smallSource, .setFilter "a",
          .openFile ⟨"", ["none.apk"]⟩] v ∧
        (v.title = "Dex Viewer - app.apk" ∧ v.signals.length = 6 ∧
          lastTold Signal.names? v.signals = some ["Java", "Dex"]) ∧
        (lastTold Signal.title? v.signals).getD appTitle = v.title ∧
        (lastTold Signal.document? v.signals).getD .empty = v.document ∧
        ∀ s, v.session = some s →
          lastTold Signal.tree? v.signals = some s.tree.visible ∧
          ∀ h, ∃ names, languages.on (v, h) = (.ok names, v, h) ∧
            lastTold Signal.names? v.signals = some names := by
  have begun : Run (fun _ _ => True) Trace.smallViewer [] _ := .start
  have opened := begun.step (.openFile Session.smallSource) Session.smallHost trivial
  have filtered := opened.step (.setFilter "a") Session.smallHost trivial
  have run := filtered.step (.openFile ⟨"", ["none.apk"]⟩) Session.smallHost trivial
  exact ⟨rfl, rfl, _, run, by decide +kernel, in_sync_of_run rfl rfl run⟩

end Viewer

end BytecodeViewer
