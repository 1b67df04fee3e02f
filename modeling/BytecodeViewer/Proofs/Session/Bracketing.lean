import BytecodeViewer.Proofs.Session.Keeping
import BytecodeViewer.Proofs.Session.Logging

/-!
# Blocks of the log's context

Blocks are nested as one likes, with files opened and sessions called and closed in them, and they
may be left by a failure at any depth: afterwards the context is what it was.  In between, what is
logged in a render cycle carries its language and its selection, and what is logged while a file is
opened or a session is closed carries the name of the file.
-/

namespace BytecodeViewer

open Act (Bracketed)

/-! ## What has blocks inside -/

/-- Things to do with sessions, in blocks and out of them. -/
inductive Work where
  | record (channel : String) (level : LogLevel) (message : String)
  | fail (f : Failure)
  | both (first second : Work)
  /-- If the work fails, the handler is run instead of failing. -/
  | caught (work handler : Work)
  /-- The second work is run whether the first one fails or not. -/
  | ensured (work after : Work)
  | block (values : List (String × Option String)) (body : Work)
  | opening (source : Path) (parser : Parser) (o : OpenOptions)
  | closing (place : Nat)
  | calling (place : Nat) (call : Pipeline.Call)

namespace Work

/-- Does something with the session at a place, if there is one. -/
def atPlace {α : Type} (place : Nat) (a : HostedAct Session α) : HostedAct (List Session) Unit := do
  match (← Act.own)[place]? with
  | none => return
  | some s =>
    let _ ← a.onPart (fun sessions => sessions.getD place s) fun s sessions => sessions.set place s

def run : Work → HostedAct (List Session) Unit
  | record channel level message => Act.onHost (Host.record channel level message)
  | fail f => throw f
  | both first second => do
    first.run
    second.run
  | caught work handler => do
    if let .error _ ← work.run.attempt then
      handler.run
  | ensured work after => work.run.ensuring after.run
  | block values body => Host.block values body.run
  | opening source parser o => do
    let s ← Act.onHost (Session.open source parser o)
    Act.setOwn (· ++ [s])
  | closing place => atPlace place Session.close
  | calling place call => atPlace place (Session.onPipeline call.act)

end Work

/-! ## Files -/

namespace Session

theorem has_file (source : Path) (l : Log) : LogContext.Has [("file", source.name)]
    (l.bind (Log.present [("file", some source.name)])).bound :=
  Log.has_bind_of_given (by simp [Log.present])

theorem open_on_logsWith (source : Path) (parser : Parser) (o : OpenOptions) (h : Host) :
    Host.LogsWith [("file", source.name)] h ((Session.«open» source parser o).on h).2 := by
  have beside : Pipeline.Beside [("file", source.name)] := by simp [Pipeline.Beside]
  have inside : Bracketed id [("file", source.name)] (do
      let bytecode ← BytecodeSource.locate source
      openSource source bytecode parser o) :=
    .bind (BytecodeSource.locate_bracketed source) fun bytecode =>
      openSource_bracketed beside source bytecode parser o
  exact .rebound (inside (h.within [("file", some source.name)]) (has_file source h.log))

theorem close_on_logsWith (s : Session) (h : Host) :
    Host.LogsWith [("file", s.source.name)] h (close.on (s, h)).2.2 := by
  cases hclosed : s.closed with
  | true =>
      have hon : close.on (s, h) = (.ok (), s, h) := by simp [close, hclosed]
      rw [hon]
      exact .of_log_eq rfl
  | false =>
      have inside : Bracketed Prod.snd [("file", s.source.name)] (release.ensuring do
          let _ ← Act.onHost (BytecodeSource.removeTemp s.temp)
          Act.onHost (Host.record channel .debug ("Closed session for " ++ s.source.text))) :=
        .ensuring release_bracketed (.bind (.onHost (BytecodeSource.removeTemp_bracketed s.temp))
          fun _ => .onHost .record)
      have hclose := inside.inContext_on { s with closed := true } (has_file s.source h.log)
      simpa [close, hclosed] using hclose

theorem open_bracketed (source : Path) (parser : Parser) (o : OpenOptions) :
    Bracketed id [] (Session.«open» source parser o) :=
  fun h _ => (open_on_logsWith source parser o h).mono fun c _ => LogContext.has_nil c

theorem close_bracketed : Bracketed Prod.snd [] close :=
  fun s _ => (close_on_logsWith s.1 s.2).mono fun c _ => LogContext.has_nil c

end Session

namespace Work

theorem atPlace_bracketed {α : Type} {place : Nat} {a : HostedAct Session α}
    (h : Bracketed Prod.snd [] a) : Bracketed Prod.snd [] (atPlace place a) := by
  refine .bind (.look _) fun sessions => ?_
  split
  · exact .pure ()
  · exact .bind (.onPart h) fun _ => .pure _

/-- Whatever is done is bracketed. -/
theorem run_bracketed (w : Work) : Bracketed Prod.snd [] w.run := by
  have nothing {P : String × String → Prop} : ∀ item ∈ ([] : LogContext), P item := by simp
  induction w with
  | record channel level message => exact .onHost .record
  | fail f => exact .throw f
  | both first second ih ih' => exact .bind ih fun _ => ih'
  | caught work handler ih ih' =>
      refine .bind (.attempt ih) fun outcome => ?_
      split
      · exact ih'
      · exact .pure ()
  | ensured work after ih ih' => exact .ensuring ih ih'
  | block values body ih => exact .block ih nothing
  | opening source parser o =>
      exact .bind (.onHost (Session.open_bracketed source parser o)) fun _ => .setOwn _
  | closing place => exact atPlace_bracketed Session.close_bracketed
  | calling place call =>
      exact atPlace_bracketed (.onPart (Pipeline.Call.act_bracketed nothing call))

end Work

/-! ## Render cycles -/

namespace Pipeline

/-- Pipelines that have come about by calls of new ones.  Each call may have had another host, and
what is registered may have changed in between. -/
inductive Used : Pipeline → Prop
  | new (registry : Registry) (sections : Sections) (highlighter : Highlighter) :
      Used { registry, sections, highlighter }
  | call {p : Pipeline} (used : Used p) (call : Call) (h : Host) : Used (call.act.on (p, h)).2.1
  | registry {p : Pipeline} (used : Used p) (registry : Registry) : Used { p with registry }

/-- If there is a renderer, its language has a name. -/
def Named (p : Pipeline) : Prop :=
  p.renderer.isSome → p.language.isSome

variable {p : Pipeline} {h : Host}

theorem render_names (p : Pipeline) (h : Host) : (render.on (p, h)).2.1.language = p.language ∧
    (render.on (p, h)).2.1.renderer = p.renderer := by
  have kept := render_keeps_undrawn (fun p => (p.language, p.renderer)) (fun _ _ => rfl) (p, h)
  have hnames := congrArg Prod.fst kept
  exact ⟨congrArg Prod.fst hnames, congrArg Prod.snd hnames⟩

theorem Named.render (named : Named p) (h : Host) : Named (render.on (p, h)).2.1 := by
  obtain ⟨hlanguage, hrenderer⟩ := render_names p h
  rw [Named, hlanguage, hrenderer]
  exact named

theorem Named.setLanguage (named : Named p) (name : String) (h : Host) :
    Named ((Pipeline.setLanguage name).on (p, h)).2.1 := by
  rcases hresolve : (Registry.resolve name).on (p.registry, h) with ⟨f | n, r', h'⟩
  · rw [setLanguage_on_error hresolve]
    exact named
  · obtain ⟨k, hbind, -⟩ := Host.bindRenderer_on n p.model h'
    obtain ⟨given, hrules⟩ := Host.rulesOf_on n k
    cases hbinding : h'.binding (some n) p.model with
    | error f =>
        have hon : (Pipeline.setLanguage name).on (p, h) =
            (.error f, { p with registry := r' }, k) := by
          simp [Pipeline.setLanguage, onRegistry, hresolve, hbind, hbinding]
        rw [hon]
        exact named
    | ok _ =>
        cases given with
        | error f =>
            have hon : (Pipeline.setLanguage name).on (p, h) = (.error f,
                { p with registry := r', language := some name, renderer := some n }, k) := by
              simp [Pipeline.setLanguage, onRegistry, hresolve, hbind, hbinding, hrules]
            rw [hon]
            exact fun _ => rfl
        | ok rules =>
            have hon : (Pipeline.setLanguage name).on (p, h) = Pipeline.render.on
                (p.inLanguage r' name n rules,
                  k.logged channel .debug ("Output language set to " ++ name)) := by
              simp [Pipeline.setLanguage, onRegistry, hresolve, hbind, hbinding, hrules, inLanguage]
            have named' : Named (p.inLanguage r' name n rules) := fun _ => rfl
            rw [hon]
            exact named'.render _

theorem Named.call (named : Named p) (call : Call) (h : Host) :
    Named (call.act.on (p, h)).2.1 := by
  cases call with
  | language name => exact named.setLanguage name h
  | selection s =>
      have named' : Named { p with selection := s } := named
      exact named'.render h
  | model m =>
      obtain ⟨h', hon, -⟩ := setModel_on p m h
      cases hbinding : h.binding p.renderer m with
      | ok _ =>
          simp only [Call.act, Act.on_map, hon, hbinding]
          exact named
      | error f =>
          simp only [Call.act, Act.on_map, hon, hbinding]
          exact named
  | sections o =>
      have named' : Named { p with sections := o } := named
      exact named'.render h
  | render => exact named.render h

theorem Used.named (used : Used p) : Named p := by
  induction used with
  | new registry sections highlighter =>
      intro hrenderer
      cases hrenderer
  | call used call h ih => exact ih.call call h
  | registry used registry ih => exact ih

theorem render_on_logsWith {s : Selection} {name : String} (hs : p.selection = some s)
    (hname : p.language = some name) (h : Host) :
    Host.LogsWith [("language", name), ("selection", Selection.describe (some s))] h
      (render.on (p, h)).2.2 := by
  cases hn : p.renderer with
  | none =>
      rw [render_idle_on (.inr hn)]
      exact .of_log_eq rfl
  | some n =>
      rw [render_on_cycle hs hn]
      refine (p.cycle_bracketed s n).inContext_on p (Log.has_bind_of_given ?_)
      simp [Log.present, cycleContext, hname, List.lookup_cons]

/-- A render cycle of a pipeline that is in use has a language, or nothing is logged. -/
theorem Used.render_logsWith {s : Selection} (used : Used p) (hs : p.selection = some s)
    (h : Host) : (p.renderer = none ∧ (render.on (p, h)).2.2 = h) ∨
      ∃ name, p.language = some name ∧
        Host.LogsWith [("language", name), ("selection", Selection.describe (some s))] h
          (render.on (p, h)).2.2 := by
  cases hn : p.renderer with
  | none => exact .inl ⟨rfl, by rw [render_idle_on (.inr hn)]⟩
  | some n =>
      obtain ⟨name, hname⟩ := Option.isSome_iff_exists.mp (used.named (by simp [hn]))
      exact .inr ⟨name, hname, render_on_logsWith hs hname h⟩

/-- While a file is being opened, the languages that need no plug-in are at hand. -/
def openingHost : Host where
  renderers := Language.builtin.map fun l => { language := l }
  log := { bound := [("file", "a.dex")] }

/-- A class is selected in a pipeline that has been set to Java, before there is a model. -/
def selecting : Pipeline :=
  let new : Pipeline := { registry := { renderers := [("Java", 0), ("Dex", 1)] } }
  [Call.language "Java", .selection (some (.wholeClass "A"))].foldl
    (fun p call => (call.act.on (p, openingHost)).2.1) new

theorem selecting_used : selecting.Used :=
  ((Used.new _ _ _).call (.language "Java") openingHost).call
    (.selection (some (.wholeClass "A"))) openingHost

/-- A renderer that has no model fails. -/
example : (render.on (selecting, openingHost)).2.2.log.records =
    [⟨"dv_core.pipeline", .warning, "Render failed for A with Java",
      [("file", "a.dex"), ("language", "Java"), ("selection", "A")], true⟩] := by
  decide +kernel

end Pipeline

/-- The context of the log is bracketed.  Whatever is done with sessions, nested and left by
failures, it is the same afterwards; and it makes no difference to an act that is bracketed whether
its block is left key by key or the context of before is bound again as a whole.  What is logged in
a render cycle, while a file is opened and while a session is closed tells what it is about. -/
theorem context_bracketed :
    (∀ (w : Work) (sessions : List Session) (h : Host),
      LogContext.Same (w.run.on (sessions, h)).2.2.log.bound h.log.bound) ∧
    (∀ {τ α : Type} (a : HostedAct τ α), Bracketed Prod.snd [] a → ∀ values t h,
      ∃ outer, LogContext.Same outer h.log.bound ∧ (Host.block values a).on (t, h) =
        (((Host.inContext values a).on (t, h)).1, ((Host.inContext values a).on (t, h)).2.1,
          ((Host.inContext values a).on (t, h)).2.2.rebound outer)) ∧
    (∀ {p : Pipeline} {s : Selection}, p.Used → p.selection = some s → ∀ h,
      (p.renderer = none ∧ (Pipeline.render.on (p, h)).2.2 = h) ∨
      ∃ name, p.language = some name ∧
        Host.LogsWith [("language", name), ("selection", Selection.describe (some s))] h
          (Pipeline.render.on (p, h)).2.2) ∧
    (∀ source parser o h,
      Host.LogsWith [("file", source.name)] h ((Session.«open» source parser o).on h).2) ∧
    ∀ s h, Host.LogsWith [("file", s.source.name)] h (Session.close.on (s, h)).2.2 := by
  refine ⟨?_, ?_, ?_, Session.open_on_logsWith, Session.close_on_logsWith⟩
  · intro w sessions h
    exact (w.run_bracketed (sessions, h) (LogContext.has_nil _)).bound
  · intro τ α a bracketed values t h
    exact Act.block_on bracketed values t h
  · intro p s used hs h
    exact used.render_logsWith hs h

/-- A render cycle with a selection, by itself and in a block. -/
theorem context_bracketed_selecting :
    Pipeline.selecting.Used ∧ Pipeline.selecting.selection = some (.wholeClass "A") ∧
      Pipeline.selecting.renderer = some 0 ∧ Bracketed Prod.snd [] Pipeline.render ∧
      Host.LogsWith [("language", "Java"), ("selection", "A")] Pipeline.openingHost
        (Pipeline.render.on (Pipeline.selecting, Pipeline.openingHost)).2.2 ∧
      ∃ outer, LogContext.Same outer [("file", "a.dex")] ∧
        (Host.block [("user", some "me")] Pipeline.render).on
            (Pipeline.selecting, Pipeline.openingHost) =
          let bound := (Host.inContext [("user", some "me")] Pipeline.render).on
            (Pipeline.selecting, Pipeline.openingHost)
          (bound.1, bound.2.1, bound.2.2.rebound outer) := by
  obtain ⟨-, blocks, cycles, -, -⟩ := context_bracketed
  have selected : Pipeline.selecting.selection = some (.wholeClass "A") := by decide +kernel
  have inUse : Pipeline.selecting.renderer = some 0 := by decide +kernel
  have inJava : Pipeline.selecting.language = some "Java" := by decide +kernel
  have bracketed : Bracketed Prod.snd [] Pipeline.render :=
    Pipeline.render_bracketed (by simp [Pipeline.Beside])
  refine ⟨Pipeline.selecting_used, selected, inUse, bracketed, ?_,
    blocks Pipeline.render bracketed [("user", some "me")] Pipeline.selecting Pipeline.openingHost⟩
  rcases cycles Pipeline.selecting_used selected Pipeline.openingHost with
    ⟨idle, -⟩ | ⟨name, hname, logs⟩
  · cases inUse.symm.trans idle
  · cases inJava.symm.trans hname
    exact logs

/-- A block that shadows a key is left by a failure. -/
example : ((Work.block [("file", some "b.dex"), ("user", none)]
      (.both (.record "a" .info "m") (.fail .modelDisposed))).run.on
        ([], { log := { bound := [("file", "a.dex"), ("kind", "x")] } })).2.2.log =
    { bound := [("kind", "x"), ("file", "a.dex")],
      records := [⟨"a", .info, "m", [("kind", "x"), ("file", "b.dex")], false⟩] } := by
  decide +kernel

end BytecodeViewer
