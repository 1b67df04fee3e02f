import BytecodeViewer.Proofs.Session.AllOrNothing
import BytecodeViewer.Proofs.Session.Leaving
import BytecodeViewer.Proofs.Viewer.Operation
import BytecodeViewer.Proofs.Viewer.OpenSession

/-!
# No session is lost

A trace records, beside the viewer and the host, all sessions that have been opened and all
that have been left.  Whatever is done with the viewer, what has been opened is left but for
the session that is held.
-/

namespace BytecodeViewer.Viewer

open BytecodeSource (Holds InUse)

/-- A session as it has been opened, with the host before and after. -/
structure OpenedSession where
  session : Session
  before : Host
  after : Host

/-- What closing makes of the session that is held. -/
def leaves (v : Viewer) (h : Host) : List Session :=
  v.session.toList.map fun s => (Session.close.on (s, h)).2.1

/-- The renderer of the session that is held lets itself be unbound from its model. -/
def Unbinds (v : Viewer) (h : Host) : Prop :=
  ∀ s, v.session = some s → h.binding s.pipeline.renderer none = .ok ()

namespace Operation

def opened (v : Viewer) (h : Host) : Operation → List OpenedSession
  | .openFile path =>
    match (openSession path).on (v, h) with
    | (.ok s, _, h') => [⟨s, h, h'⟩]
    | (.error _, _) => []
  | _ => []

/-- The sessions that are closed: the one that is held, once another one is open. -/
def left (v : Viewer) (h : Host) : Operation → List Session
  | .openFile path =>
    match (openSession path).on (v, h) with
    | (.ok _, v', h') => v'.leaves h'
    | (.error _, _) => []
  | .close => v.leaves h
  | _ => []

/-- Where a file is not opened, the models that have been made can be disposed. -/
def Undoes (v : Viewer) (h : Host) : Operation → Prop
  | .openFile path => ∀ f v' h', (openSession path).on (v, h) = (.error f, v', h') →
      ∀ m ∈ h'.models.drop h.models.length, m.disposeFailure = none
  | _ => True

/-- Where a session is closed, its renderer lets itself be unbound. -/
def Unbinds (v : Viewer) (h : Host) : Operation → Prop
  | .openFile path => ∀ s v' h', (openSession path).on (v, h) = (.ok s, v', h') → v'.Unbinds h'
  | .close => v.Unbinds h
  | _ => True

theorem undoes_of_models {v : Viewer} {h : Host} {path : Path}
    (hall : ((openSession path).on (v, h)).2.2.models.all (·.disposeFailure.isNone) = true) :
    (openFile path).Undoes v h := by
  intro f v' h' hopen m hm
  rw [hopen] at hall
  have hnone := List.all_eq_true.mp hall m (List.mem_of_mem_drop hm)
  exact Option.isNone_iff_eq_none.mp hnone

theorem unbinds_of_isOk {v : Viewer} {h : Host} {path : Path}
    (hall : (((openSession path).on (v, h)).2.1.session.all fun s =>
      (((openSession path).on (v, h)).2.2.binding s.pipeline.renderer none).isOk) = true) :
    (openFile path).Unbinds v h := by
  intro s v' h' hopen s' hs'
  rw [hopen] at hall
  simp only [hs', Option.all_some] at hall
  cases hbinding : h'.binding s'.pipeline.renderer none with
  | ok _ => rfl
  | error f =>
      rw [hbinding] at hall
      cases hall

end Operation

structure Trace where
  viewer : Viewer
  host : Host
  opened : List OpenedSession := []
  left : List Session := []

namespace Trace

variable {h₀ : Host} {t : Trace} {op : Operation}

def step (t : Trace) (op : Operation) : Trace where
  viewer := (op.act.on (t.viewer, t.host)).2.1
  host := (op.act.on (t.viewer, t.host)).2.2
  opened := t.opened ++ op.opened t.viewer t.host
  left := t.left ++ op.left t.viewer t.host

/-- The number of the model of the session that is held. -/
def model? (t : Trace) : Option ModelId :=
  t.viewer.session.map (·.model)

/-- Every session that has been opened is held and open, or it is closed and its model has
been disposed once. -/
structure Tidy (t : Trace) : Prop where
  sessions : t.left.map (·.file) ++ t.viewer.session.toList.map (·.file) =
    t.opened.map (·.session.file)
  closed : ∀ s ∈ t.left, s.closed = true
  held : ∀ s, t.viewer.session = some s → s.closed = false
  distinct : (t.opened.map (·.session.model)).Nodup
  models : ∀ e ∈ t.opened, ∃ m, e.after.models[e.session.model]? = some m ∧
    t.host.models[e.session.model]? =
      some (if t.model? = some e.session.model then m else m.dispose)

/-- The files are those of a host, and the temporary copy of the session that is held. -/
inductive Stores (h₀ : Host) (t : Trace) : Prop
  | nothing (session : t.viewer.session = none) (files : t.host.files = h₀.files)
  | copy {s : Session} {e : OpenedSession} {content : Bytes}
      (session : t.viewer.session = some s) (opened : e ∈ t.opened)
      (file : e.session.file = s.file)
      (holds : Holds e.before.files s.source content s.temp.isSome)
      (inUse : InUse h₀.files content s.temp t.host.files)

/-! ## What one operation does -/

theorem Tidy.model_lt (tidy : t.Tidy) {e : OpenedSession} (he : e ∈ t.opened) :
    e.session.model < t.host.models.length := by
  obtain ⟨m, -, hnow⟩ := tidy.models e he
  exact (List.getElem?_eq_some_iff.mp hnow).1

theorem Tidy.of_more {v : Viewer} {h : Host} {more : List LoadedModel} (tidy : t.Tidy)
    (hhold : v.hold = t.viewer.hold) (hmodels : h.models = t.host.models ++ more) :
    Tidy ⟨v, h, t.opened, t.left⟩ := by
  have hmodel : model? ⟨v, h, t.opened, t.left⟩ = t.model? := by
    rcases hold_cases hhold with ⟨hnone, hnone'⟩ | ⟨s, s', hs, hs', hfile, -⟩
    · simp only [model?, hnone, hnone']
    · have hsame : s'.model = s.model := congrArg (·.2.1) hfile
      simp only [model?, hs, hs', Option.map_some, hsame]
  refine ⟨?_, tidy.closed, ?_, tidy.distinct, ?_⟩
  · rw [← tidy.sessions]
    rcases hold_cases hhold with ⟨hnone, hnone'⟩ | ⟨s, s', hs, hs', hfile, -⟩
    · rw [hnone, hnone']
    · simp [hs, hs', hfile]
  · intro s' hs'
    rcases hold_cases hhold with ⟨-, hnone'⟩ | ⟨s, s'', hs, hs'', -, hclosed⟩
    · cases hnone'.symm.trans hs'
    · cases hs''.symm.trans hs'
      rw [hclosed]
      exact tidy.held s hs
  · intro e he
    obtain ⟨m, hm, hnow⟩ := tidy.models e he
    refine ⟨m, hm, ?_⟩
    rw [hmodels, List.getElem?_append_left (tidy.model_lt he), hnow, hmodel]

theorem Stores.of_same {v : Viewer} {h : Host} (stores : t.Stores h₀)
    (hhold : v.hold = t.viewer.hold) (hfiles : h.files = t.host.files) :
    Stores h₀ ⟨v, h, t.opened, t.left⟩ := by
  cases stores with
  | nothing session files =>
      rcases hold_cases hhold with ⟨-, hnone'⟩ | ⟨s, s', hs, -⟩
      · exact .nothing hnone' (hfiles.trans files)
      · cases session.symm.trans hs
  | @copy s e content session opened file holds inUse =>
      rcases hold_cases hhold with ⟨hnone, -⟩ | ⟨s', s'', hs, hs', hfile, -⟩
      · cases hnone.symm.trans session
      · cases hs.symm.trans session
        have hsource : s''.source = s.source := congrArg (·.1) hfile
        have htemp : s''.temp = s.temp := congrArg (·.2.2) hfile
        rw [← hsource, ← htemp] at holds
        rw [← htemp, ← hfiles] at inUse
        exact .copy hs' opened (file.trans hfile.symm) holds inUse

/-- Once the session that is held has been closed, none is open. -/
theorem Tidy.closing {s s' : Session} {m : LoadedModel} {v : Viewer} {h : Host}
    {more : List LoadedModel} (tidy : t.Tidy) (hs : t.viewer.session = some s)
    (hm : t.host.models[s.model]? = some m) (hfile : s'.file = s.file)
    (hclosed : s'.closed = true) (hnone : v.session = none)
    (hmodels : h.models = t.host.models.set s.model m.dispose ++ more) :
    Tidy ⟨v, h, t.opened, t.left ++ [s']⟩ := by
  refine ⟨?_, ?_, ?_, tidy.distinct, ?_⟩
  · rw [← tidy.sessions, hnone, hs]
    simp [hfile]
  · intro x hx
    rcases List.mem_append.mp hx with hx | hx
    · exact tidy.closed x hx
    · rw [List.mem_singleton.mp hx]
      exact hclosed
  · intro x hx
    cases hnone.symm.trans hx
  · intro e he
    obtain ⟨x, hx, hnow⟩ := tidy.models e he
    have hlt : e.session.model < (t.host.models.set s.model m.dispose).length := by
      rw [List.length_set]
      exact tidy.model_lt he
    have hheld : t.model? = some s.model := by rw [model?, hs, Option.map_some]
    have hnobody : model? ⟨v, h, t.opened, t.left ++ [s']⟩ = none := by
      rw [model?, hnone, Option.map_none]
    refine ⟨x, hx, ?_⟩
    rw [hnobody, if_neg nofun, hmodels, List.getElem?_append_left hlt]
    -- Only the model of the session that was held is disposed now; the others were before.
    by_cases hsame : s.model = e.session.model
    · rw [hheld, hsame, if_pos rfl, ← hsame, hm] at hnow
      cases hnow
      rw [← hsame, List.getElem?_set_self (List.getElem?_eq_some_iff.mp hm).1]
    · have hother : t.model? ≠ some e.session.model := by
        rw [hheld]
        exact fun hsome => hsame (Option.some.inj hsome)
      rw [List.getElem?_set_ne hsame, hnow, if_neg hother]

/-- The session that is held has been closed, maybe after something more has been loaded. -/
structure Leaving (h₀ : Host) (t : Trace) (left : List Session) (more : List LoadedModel)
    (content : Bytes) (temp : Option Path) (v : Viewer) (h : Host) : Prop where
  session : v.session = none
  tidy : Tidy ⟨v, h, t.opened, t.left ++ left⟩
  models : ∃ before, before.length = t.host.models.length ∧ h.models = before ++ more
  inUse : InUse h₀.files content temp h.files

theorem Tidy.leaving {v : Viewer} {h : Host} {more : List LoadedModel} {content : Bytes}
    {temp : Option Path} (tidy : t.Tidy) (stores : t.Stores h₀)
    (hsession : v.session = t.viewer.session) (unbinds : v.Unbinds h)
    (hmodels : h.models = t.host.models ++ more)
    (inUse : InUse t.host.files content temp h.files) :
    ∃ v' h', close.on (v, h) = (.ok (), v', h') ∧
      Leaving h₀ t (v.leaves h) more content temp v' h' := by
  cases stores with
  | nothing session files =>
      rw [files] at inUse
      have hnone : v.session = none := hsession.trans session
      have hleaves : v.leaves h = [] := by simp [leaves, hnone]
      have hhold : v.hold = t.viewer.hold := by simp [hold, hnone, session]
      rw [hleaves]
      refine ⟨v, h, close_on_none hnone h, hnone, ?_, ⟨_, rfl, hmodels⟩, inUse⟩
      rw [List.append_nil]
      exact tidy.of_more hhold hmodels
  | @copy s e content' session opened file holds inUse' =>
      have hs : v.session = some s := hsession.trans session
      have hmodel : e.session.model = s.model := congrArg (·.2.1) file
      have hlt : s.model < t.host.models.length := hmodel ▸ tidy.model_lt opened
      have hm : h.models[s.model]? = some t.host.models[s.model] := by
        rw [hmodels, List.getElem?_append_left hlt, List.getElem?_eq_getElem hlt]
      -- The copy of the session that is held goes; one that was made after it stays.
      obtain ⟨fs, removes, inUse₀⟩ := inUse'.removesTo_beside inUse
      obtain ⟨s', h₁, hon, hfile, hclosed, hset, hfiles, -⟩ :=
        Session.close_disposes (tidy.held s session) hm (unbinds s hs) removes
      obtain ⟨v', h', hclose, hnone, hrest⟩ := close_on_some hs hon
      have hleaves : v.leaves h = [s'] := by simp [leaves, hs, hon]
      have hmodels' : h'.models =
          t.host.models.set s.model t.host.models[s.model].dispose ++ more := by
        rw [Host.rest_models hrest, hset, hmodels, List.set_append_left _ _ hlt]
      rw [hleaves]
      refine ⟨v', h', hclose, hnone, ?_, ⟨_, List.length_set, hmodels'⟩, ?_⟩
      · exact tidy.closing session (List.getElem?_eq_getElem hlt) hfile hclosed hnone hmodels'
      · rw [Host.rest_files hrest, hfiles]
        exact inUse₀

/-- A session that has been opened is held, when no other one is. -/
theorem Tidy.holding {v : Viewer} {h : Host} {e : OpenedSession} {m : LoadedModel} (tidy : t.Tidy)
    (hnone : t.viewer.session = none) (hhold : v.hold = some e.session.hold)
    (hopen : e.session.closed = false) (hm : e.after.models[e.session.model]? = some m)
    (hfresh : ∀ x ∈ t.opened, x.session.model ≠ e.session.model)
    (hmodels : h.models = t.host.models) (hnow : h.models[e.session.model]? = some m) :
    Tidy ⟨v, h, t.opened ++ [e], t.left⟩ := by
  obtain ⟨s, hs, hsame⟩ := Option.map_eq_some_iff.mp hhold
  have hfile : s.file = e.session.file := congrArg Prod.fst hsame
  have hmodel : model? ⟨v, h, t.opened ++ [e], t.left⟩ = some e.session.model := by
    have hsm : s.model = e.session.model := congrArg (·.2.1) hfile
    rw [model?, hs, Option.map_some, hsm]
  refine ⟨?_, tidy.closed, ?_, ?_, ?_⟩
  · have hsessions := tidy.sessions
    rw [hnone] at hsessions
    simp only [Option.toList_none, List.map_nil, List.append_nil] at hsessions
    simp [hs, hfile, hsessions]
  · intro x hx
    cases hs.symm.trans hx
    have hclosed : s.closed = e.session.closed := congrArg Prod.snd hsame
    exact hclosed.trans hopen
  · rw [List.map_append, List.nodup_append]
    refine ⟨tidy.distinct, List.pairwise_singleton _ _, ?_⟩
    intro a ha b hb
    obtain ⟨x, hx, rfl⟩ := List.mem_map.mp ha
    rw [List.mem_singleton.mp hb]
    exact hfresh x hx
  · intro x hx
    rw [hmodel]
    rcases List.mem_append.mp hx with hx | hx
    · obtain ⟨mx, hmx, hnowx⟩ := tidy.models x hx
      have hother : some e.session.model ≠ some x.session.model :=
        fun hsome => hfresh x hx (Option.some.inj hsome).symm
      have hnobody : t.model? = none := by rw [model?, hnone, Option.map_none]
      rw [hnobody, if_neg nofun, ← hmodels] at hnowx
      exact ⟨mx, hmx, by rw [if_neg hother, hnowx]⟩
    · rw [List.mem_singleton.mp hx]
      exact ⟨m, hm, by rw [if_pos rfl, hnow]⟩

/-- An operation that opens and closes no session. -/
theorem step_of_keeps (ho : op.opened t.viewer t.host = []) (hl : op.left t.viewer t.host = [])
    (keeps : Act.Keeps (Act.beside hold) op.act) (tidy : t.Tidy) (stores : t.Stores h₀) :
    (t.step op).Tidy ∧ (t.step op).Stores h₀ := by
  have hkept := keeps (t.viewer, t.host)
  have hhold : (op.act.on (t.viewer, t.host)).2.1.hold = t.viewer.hold := congrArg Prod.fst hkept
  have hrest : (op.act.on (t.viewer, t.host)).2.2.rest = t.host.rest := congrArg Prod.snd hkept
  have hmodels : (op.act.on (t.viewer, t.host)).2.2.models = t.host.models ++ [] := by
    rw [Host.rest_models hrest, List.append_nil]
  simp only [step, ho, hl, List.append_nil]
  exact ⟨tidy.of_more hhold hmodels, stores.of_same hhold (Host.rest_files hrest)⟩

theorem step_close (unbinds : t.viewer.Unbinds t.host) (tidy : t.Tidy) (stores : t.Stores h₀) :
    (t.step .close).Tidy ∧ (t.step .close).Stores h₀ := by
  have hmodels : t.host.models = t.host.models ++ [] := (List.append_nil _).symm
  have inUse : InUse t.host.files (Bytes.ofList []) none t.host.files := .plain
  obtain ⟨v', h', hon, leaving⟩ := tidy.leaving stores rfl unbinds hmodels inUse
  have hstep : t.step .close = ⟨v', h', t.opened, t.left ++ t.viewer.leaves t.host⟩ := by
    simp [step, Operation.act, Operation.opened, Operation.left, hon]
  rw [hstep]
  exact ⟨leaving.tidy, .nothing leaving.session leaving.inUse.eq_of_none⟩

theorem step_openFile_failed {path : Path} {f : Failure} {v : Viewer} {h : Host}
    (hopen : (openSession path).on (t.viewer, t.host) = (.error f, v, h))
    (undoes : (Operation.openFile path).Undoes t.viewer t.host) (tidy : t.Tidy)
    (stores : t.Stores h₀) :
    (t.step (.openFile path)).Tidy ∧ (t.step (.openFile path)).Stores h₀ := by
  obtain ⟨hsession, hfiles, more, hmodels⟩ := openSession_failed hopen (undoes f v h hopen)
  obtain ⟨v', h', hon, hsession', hrest⟩ := open_on_failed hopen
  have hstep : t.step (.openFile path) = ⟨v', h', t.opened, t.left⟩ := by
    simp [step, Operation.act, Operation.opened, Operation.left, hopen, hon]
  have hhold : v'.hold = t.viewer.hold := by rw [hold, hold, hsession', hsession]
  rw [hstep]
  exact ⟨tidy.of_more hhold ((Host.rest_models hrest).trans hmodels),
    stores.of_same hhold ((Host.rest_files hrest).trans hfiles)⟩

theorem step_openFile_opened {path : Path} {s : Session} {v : Viewer} {h : Host}
    (hopen : (openSession path).on (t.viewer, t.host) = (.ok s, v, h)) (unbinds : v.Unbinds h)
    (tidy : t.Tidy) (stores : t.Stores h₀) :
    (t.step (.openFile path)).Tidy ∧ (t.step (.openFile path)).Stores h₀ := by
  obtain ⟨hsession, content, m, opened⟩ := openSession_opened hopen
  obtain ⟨v₂, h₂, hclose, leaving⟩ := tidy.leaving stores hsession unbinds opened.models
    opened.inUse
  obtain ⟨outcome, v', h', hon, hhold, hrest⟩ := open_on_opened hopen hclose
  have hstep : t.step (.openFile path) =
      ⟨v', h', t.opened ++ [⟨s, t.host, h⟩], t.left ++ v.leaves h⟩ := by
    simp [step, Operation.act, Operation.opened, Operation.left, hopen, hon]
  obtain ⟨before, hlength, hmodels⟩ := leaving.models
  have hnow : h'.models[s.model]? = some m := by
    rw [Host.rest_models hrest, hmodels, opened.model, ← hlength]
    simp
  have hm : h.models[s.model]? = some m := by
    rw [opened.models, opened.model]
    simp
  -- Models are numbered in the order of loading, so the new one is none of the old ones.
  have hfresh : ∀ e ∈ t.opened, e.session.model ≠ s.model := by
    intro e he hsame
    have hlt := tidy.model_lt he
    rw [hsame, opened.model] at hlt
    exact Nat.lt_irrefl _ hlt
  rw [hstep]
  refine ⟨leaving.tidy.holding leaving.session hhold opened.isOpen hm hfresh
    (Host.rest_models hrest) hnow, ?_⟩
  obtain ⟨s', hs', hsame⟩ := Option.map_eq_some_iff.mp hhold
  have hfile : s'.file = s.file := congrArg Prod.fst hsame
  have htemp : s'.temp = s.temp := congrArg (·.2.2) hfile
  have hsource : s'.source = path := (congrArg (·.1) hfile).trans opened.source
  have holds := opened.holds
  have inUse := leaving.inUse
  rw [← htemp] at holds inUse
  rw [← hsource] at holds
  rw [← Host.rest_files hrest] at inUse
  exact .copy hs' (List.mem_append_right _ (List.mem_singleton_self _)) hfile.symm holds inUse

theorem tidy_step (undoes : op.Undoes t.viewer t.host) (unbinds : op.Unbinds t.viewer t.host)
    (tidy : t.Tidy) (stores : t.Stores h₀) : (t.step op).Tidy ∧ (t.step op).Stores h₀ := by
  cases op with
  | openFile path =>
      rcases hopen : (openSession path).on (t.viewer, t.host) with ⟨f | s, v, h⟩
      · exact step_openFile_failed hopen undoes tidy stores
      · exact step_openFile_opened hopen (unbinds s v h hopen) tidy stores
  | selectLanguage name => exact step_of_keeps rfl rfl (selectLanguage_keeps name) tidy stores
  | selectNode node => exact step_of_keeps rfl rfl (selectNode_keeps node) tidy stores
  | setFilter text => exact step_of_keeps rfl rfl (setFilter_keeps text) tidy stores
  | close => exact step_close unbinds tidy stores

/-! ## Runs -/

/-- The trace of some operations, from a viewer and a host.  Models that are given up while a
file is opened can be disposed, and renderers of sessions that are closed can be unbound. -/
inductive Run (v₀ : Viewer) (h₀ : Host) : List Operation → Trace → Prop
  | start : Run v₀ h₀ [] ⟨v₀, h₀, [], []⟩
  | step {ops : List Operation} {t : Trace} (run : Run v₀ h₀ ops t) (op : Operation)
      (undoes : op.Undoes t.viewer t.host) (unbinds : op.Unbinds t.viewer t.host) :
      Run v₀ h₀ (ops ++ [op]) (t.step op)

theorem Stores.filesIn_eq (stores : t.Stores h₀) :
    t.host.files.filesIn BytecodeSource.tempDirectory =
      h₀.files.filesIn BytecodeSource.tempDirectory ++
        ((t.viewer.session.bind (·.temp)).map Files.placeOf).toList := by
  cases stores with
  | nothing session files => simp [session, files]
  | copy session opened file holds inUse =>
      rw [inUse.filesIn_eq, session]
      rfl

theorem tidy_start {v₀ : Viewer} (hnone : v₀.session = none) (h₀ : Host) :
    Tidy ⟨v₀, h₀, [], []⟩ where
  sessions := by simp [hnone]
  closed _ hs := absurd hs List.not_mem_nil
  held _ hs := by cases hnone.symm.trans hs
  distinct := List.nodup_nil
  models _ he := absurd he List.not_mem_nil

/-- Whatever is done with a viewer, every session that has been opened is closed or held, the
models of those that are closed have been disposed once, and of all temporary copies there is
the one of the session that is held. -/
theorem tidy_of_run {v₀ : Viewer} {h₀ : Host} {ops : List Operation} {t : Trace}
    (hnone : v₀.session = none) (run : Run v₀ h₀ ops t) :
    t.Tidy ∧ t.Stores h₀ ∧
      t.host.files.filesIn BytecodeSource.tempDirectory =
        h₀.files.filesIn BytecodeSource.tempDirectory ++
          ((t.viewer.session.bind (·.temp)).map Files.placeOf).toList := by
  have hall : t.Tidy ∧ t.Stores h₀ := by
    induction run with
    | start => exact ⟨tidy_start hnone h₀, .nothing hnone rfl⟩
    | step run op undoes unbinds ih => exact tidy_step undoes unbinds ih.1 ih.2
  obtain ⟨tidy, stores⟩ := hall
  exact ⟨tidy, stores, stores.filesIn_eq⟩

def smallViewer : Viewer where
  parser := some (Session.parserOf Session.smallModel)

/-- A file is opened, one that is missing, and the first one again. -/
def smallOperations : List Operation :=
  [.openFile Session.smallSource, .openFile ⟨"", ["none.apk"]⟩, .openFile Session.smallSource]

theorem tidy_of_run_reopened :
    smallViewer.session = none ∧
      ∃ t, Run smallViewer Session.smallHost smallOperations t ∧
        (t.opened.map (·.session.model) = [0, 1] ∧ t.model? = some 1) ∧
        t.Tidy ∧ t.Stores Session.smallHost ∧
        t.host.files.filesIn BytecodeSource.tempDirectory =
          Session.smallHost.files.filesIn BytecodeSource.tempDirectory ++
            ((t.viewer.session.bind (·.temp)).map Files.placeOf).toList := by
  have begun : Run smallViewer Session.smallHost [] _ := .start
  have opened := begun.step (.openFile Session.smallSource)
    (Operation.undoes_of_models (by decide +kernel))
    (Operation.unbinds_of_isOk (by decide +kernel))
  have missed := opened.step (.openFile ⟨"", ["none.apk"]⟩)
    (Operation.undoes_of_models (by decide +kernel))
    (Operation.unbinds_of_isOk (by decide +kernel))
  have run := missed.step (.openFile Session.smallSource)
    (Operation.undoes_of_models (by decide +kernel))
    (Operation.unbinds_of_isOk (by decide +kernel))
  exact ⟨rfl, _, run, by decide +kernel, tidy_of_run rfl run⟩

end Trace

end BytecodeViewer.Viewer
