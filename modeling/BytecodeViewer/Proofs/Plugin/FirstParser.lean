import BytecodeViewer.Proofs.Plugin.Calls
import BytecodeViewer.Proofs.Plugin.Loading
import BytecodeViewer.Proofs.Session.Nodes

/-!
# Which parser is found

Of the entry points that are published under one name only the first one counts.  They are
tried in the order of their names until one gives a parser, and each one that is tried is
loaded once.
-/

namespace BytecodeViewer

/-- The parser that an entry point gives, if it can be loaded and what it gives is a parser. -/
def EntryPoint.parser? (e : EntryPoint) : Option Parser :=
  match e.load with
  | .ok (.parser p) => some p
  | _ => none

/-! ## What is published -/

namespace Discovery

/-- The entry points of a group as they are published.  There are none if they cannot be listed. -/
def published (group : PluginGroup) : Except Failure (List EntryPoint) → List EntryPoint
  | .ok entryPoints => entryPoints.filter (·.group == group)
  | .error _ => []

/-- An entry point is among those that are published, and none before it has its name. -/
def IsFirst (es : List EntryPoint) (e : EntryPoint) : Prop :=
  ∃ before after, es = before ++ e :: after ∧ ∀ e' ∈ before, e'.name ≠ e.name

variable {e : EntryPoint} {es : List EntryPoint} {n : String}

theorem listed_eq (group : PluginGroup) (plugins : Except Failure (List EntryPoint)) :
    listed group plugins = firstOfEachName (published group plugins) := by
  cases plugins <;> rfl

theorem isFirst_iff_find? : IsFirst es e ↔ es.find? (·.name == e.name) = some e := by
  rw [List.find?_eq_some_iff_append]
  simp [IsFirst]

theorem mem_firstOfEachName_of_find? (he : es.find? (·.name == n) = some e) :
    e ∈ firstOfEachName es := by
  induction es with
  | nil => cases he
  | cons first rest ih =>
      rw [List.find?_cons] at he
      split at he
      · cases he
        exact List.mem_cons_self
      · next hfirst =>
        have hname : e.name = n := by simpa using List.find?_some he
        refine List.mem_cons_of_mem _ (List.mem_filter.mpr ⟨ih he, ?_⟩)
        rw [bne_iff_ne, hname]
        exact fun hsame => by simp [hsame] at hfirst

theorem mem_firstOfEachName : e ∈ firstOfEachName es ↔ IsFirst es e := by
  rw [isFirst_iff_find?]
  exact ⟨find?_of_mem_firstOfEachName, mem_firstOfEachName_of_find?⟩

/-- No name that is published is left out. -/
theorem name_mem_firstOfEachName :
    n ∈ (firstOfEachName es).map (·.name) ↔ n ∈ es.map (·.name) := by
  simp only [List.mem_map]
  constructor
  · rintro ⟨e, he, rfl⟩
    exact ⟨e, List.mem_of_find?_eq_some (find?_of_mem_firstOfEachName he), rfl⟩
  · rintro ⟨e, he, rfl⟩
    have hsome : (es.find? (·.name == e.name)).isSome :=
      List.find?_isSome.mpr ⟨e, he, beq_self_eq_true _⟩
    obtain ⟨first, hfirst⟩ := Option.isSome_iff_exists.mp hsome
    exact ⟨first, mem_firstOfEachName_of_find? hfirst, by simpa using List.find?_some hfirst⟩

end Discovery

namespace ParserLookup

open Discovery (IsFirst published firstOfEachName)

variable {es : List EntryPoint}

/-! ## The order in which they are tried -/

theorem map_name_byName (es : List EntryPoint) :
    (byName es).map (·.name) = TreeNode.sortNames (es.map (·.name)) := by
  have trans (a b c : EntryPoint) (hab : decide (a.name ≤ b.name) = true)
      (hbc : decide (b.name ≤ c.name) = true) : decide (a.name ≤ c.name) = true :=
    decide_eq_true (String.le_trans (of_decide_eq_true hab) (of_decide_eq_true hbc))
  have total (a b : EntryPoint) :
      (decide (a.name ≤ b.name) || decide (b.name ≤ a.name)) = true := by
    simpa using String.le_total a.name b.name
  refine (TreeNode.sortNames_eq ((List.mergeSort_perm es _).map _).symm ?_).symm
  exact List.pairwise_map.mpr ((List.pairwise_mergeSort trans total es).imp of_decide_eq_true)

theorem ascending_byName (nodup : (es.map (·.name)).Nodup) :
    (byName es).Pairwise (·.name < ·.name) := by
  refine List.pairwise_map.mp ?_
  rw [map_name_byName]
  exact TreeNode.ascending_sortNames nodup

theorem mem_byName {e : EntryPoint} : e ∈ byName es ↔ e ∈ es :=
  List.mem_mergeSort

/-- The entry points that a lookup considers: the first ones of their names, in the order of
the names, and of these only the one whose name is asked for. -/
structure Considers (es : List EntryPoint) (name : Option String)
    (considered : List EntryPoint) : Prop where
  mem_iff : ∀ e, e ∈ considered ↔ IsFirst es e ∧ ∀ n ∈ name, e.name = n
  ascending : considered.Pairwise (·.name < ·.name)

/-- All names that are published, in their order. -/
structure Lists (es : List EntryPoint) (names : List String) : Prop where
  mem_iff : ∀ n, n ∈ names ↔ ∃ e ∈ es, e.name = n
  ascending : names.Pairwise (· < ·)

theorem ascending_listed (es : List EntryPoint) :
    (byName (firstOfEachName es)).Pairwise (·.name < ·.name) :=
  ascending_byName (Discovery.nodup_firstOfEachName es)

/-- What a lookup tries, as long as nothing is found. -/
def candidates (es : List EntryPoint) (name : Option String) : List EntryPoint :=
  name.elim (byName (firstOfEachName es)) fun n =>
    (byName (firstOfEachName es)).filter (·.name == n)

theorem considers_candidates (es : List EntryPoint) (name : Option String) :
    Considers es name (candidates es name) := by
  cases name with
  | none =>
      refine ⟨fun e => ?_, ascending_listed es⟩
      simp [candidates, mem_byName, Discovery.mem_firstOfEachName]
  | some n =>
      refine ⟨fun e => ?_, (ascending_listed es).filter _⟩
      simp [candidates, mem_byName, Discovery.mem_firstOfEachName]

theorem lists_names (es : List EntryPoint) :
    Lists es ((byName (firstOfEachName es)).map (·.name)) where
  mem_iff n := by
    rw [← List.mem_map, map_name_byName, TreeNode.mem_sortNames]
    exact Discovery.name_mem_firstOfEachName
  ascending := List.pairwise_map.mpr (ascending_listed es)

/-! ## Trying them -/

/-- What comes of trying candidates one after the other: those that are tried, the last of
which gives the parser that is found. -/
inductive Tries : List EntryPoint → List EntryPoint → Option Parser → Prop
  | found {before after : List EntryPoint} {e : EntryPoint} {p : Parser}
      (useless : ∀ e' ∈ before, e'.parser? = none) (gives : e.parser? = some p) :
      Tries (before ++ e :: after) (before ++ [e]) (some p)
  | exhausted {es : List EntryPoint} (useless : ∀ e ∈ es, e.parser? = none) : Tries es es none

namespace Tries

variable {tried : List EntryPoint} {found : Option Parser}

theorem cons {e : EntryPoint} (useless : e.parser? = none) (tries : Tries es tried found) :
    Tries (e :: es) (e :: tried) found := by
  cases tries with
  | found others gives => exact .found (List.forall_mem_cons.mpr ⟨useless, others⟩) gives
  | exhausted others => exact .exhausted (List.forall_mem_cons.mpr ⟨useless, others⟩)

theorem sublist (tries : Tries es tried found) : tried.Sublist es := by
  cases tries with
  | found _ _ => exact (List.sublist_append_left [_] _).append_left _
  | exhausted _ => exact List.Sublist.refl _

/-- Nothing is found exactly if no candidate gives a parser. -/
theorem eq_none_iff (tries : Tries es tried found) :
    found = none ↔ ∀ e ∈ es, e.parser? = none := by
  cases tries with
  | @found before after e p useless gives =>
      refine ⟨nofun, fun all => ?_⟩
      have hnone := all e (List.mem_append_right _ List.mem_cons_self)
      cases gives.symm.trans hnone
  | exhausted useless => exact ⟨fun _ => useless, fun _ => rfl⟩

end Tries

/-- An entry point is loaded once, and what it gives is kept if it is a parser. -/
theorem load_accept (e : EntryPoint) (kept : Option Parser) (h : Host) :
    ∃ h', (Discovery.load e "parser entry point" (accept e.name)).on (kept, h) =
        (.ok e.parser?.isSome, e.parser? <|> kept, h') ∧
      h'.loaded = h.loaded ++ [e.place] := by
  cases hload : e.load with
  | error f =>
      cases hm : f.isMissingDependency <;>
        simp only [Discovery.load, hload, hm, EntryPoint.parser?, Act.on_bind, Act.on_onHost,
          Act.on_change, Host.on_record, Act.on_pure, if_true, Bool.false_eq_true, if_false]
      all_goals exact ⟨_, rfl, rfl⟩
  | ok given =>
      cases given <;>
        simp only [Discovery.load, hload, EntryPoint.parser?, accept, Act.on_bind, Act.on_onHost,
          Act.on_change, Act.on_attempt, Act.on_setOwn, Act.on_throw, Host.on_record, Act.on_pure]
      all_goals exact ⟨_, rfl, rfl⟩

theorem tryEach_tries (es : List EntryPoint) (h : Host) :
    ∃ tried found h', (tryEach es).on (none, h) = (.ok (), found, h') ∧
      Tries es tried found ∧ h'.loaded = h.loaded ++ tried.map (·.place) := by
  induction es generalizing h with
  | nil => exact ⟨[], none, h, rfl, .exhausted nofun, by simp⟩
  | cons e es ih =>
      obtain ⟨h₁, hload, hloaded⟩ := load_accept e none h
      cases hparser : e.parser? with
      | some p =>
          have nothing : ∀ e' ∈ ([] : List EntryPoint), e'.parser? = none := nofun
          refine ⟨[e], some p, h₁.logged channel .debug ("Using bytecode parser " ++ e.name), ?_,
            .found nothing hparser, hloaded⟩
          simp [tryEach, hload, hparser]
      | none =>
          obtain ⟨tried, found, h', htry, tries, hloaded'⟩ := ih h₁
          refine ⟨e :: tried, found, h', ?_, tries.cons hparser, ?_⟩
          · simp [tryEach, hload, hparser, htry]
          · rw [hloaded', hloaded, List.append_assoc]
            rfl

theorem first_tries (es : List EntryPoint) (f : Failure) (h : Host) :
    ∃ tried found h', (do
        let ((), parser) ← Act.carrying none (tryEach es)
        match parser with
        | some p => return p
        | none => throw f : Act Host Parser).on h = (found.elim (.error f) .ok, h') ∧
      Tries es tried found ∧ h'.loaded = h.loaded ++ tried.map (·.place) := by
  obtain ⟨tried, found, h', htry, tries, hloaded⟩ := tryEach_tries es h
  refine ⟨tried, found, h', ?_, tries, hloaded⟩
  cases found <;> simp [htry, Except.map]

theorem find_tries (name : Option String) (h : Host) :
    ∃ tried found h', (find name).on h = (found.elim (.error (.noParser name
          ((byName (firstOfEachName (published .parsers h.plugins))).map (·.name)))) .ok, h') ∧
      Tries (candidates (published .parsers h.plugins) name) tried found ∧
      h'.loaded = h.loaded ++ tried.map (·.place) := by
  obtain ⟨h₁, hpending, -⟩ := Discovery.pending_on .parsers h
  have hkept := Discovery.pending_loaded .parsers h
  rw [hpending] at hkept
  rw [Discovery.listed_eq] at hpending
  obtain ⟨tried, found, h', hon, tries, hloaded⟩ :=
    first_tries (candidates (published .parsers h.plugins) name) (.noParser name
      ((byName (firstOfEachName (published .parsers h.plugins))).map (·.name))) h₁
  refine ⟨tried, found, h', ?_, tries, hkept ▸ hloaded⟩
  rw [find, Act.on_bind, hpending]
  cases name with
  | none => exact hon
  | some n => exact hon

/-- A lookup tries what it considers in the order of the names, and gives what the first entry
point gives that gives a parser.  Those up to this one are loaded once each and no other is.
If there is none, the names of all that is published are told. -/
theorem find_gives_first (name : Option String) (h : Host) :
    ∃ considered tried found names h',
      Considers (published .parsers h.plugins) name considered ∧
      Lists (published .parsers h.plugins) names ∧
      Tries considered tried found ∧
      (find name).on h = (found.elim (.error (.noParser name names)) .ok, h') ∧
      (found = none ↔ ∀ e ∈ considered, e.parser? = none) ∧
      h'.loaded = h.loaded ++ tried.map (·.place) ∧ (tried.map (·.name)).Nodup ∧
      (Failure.noParser name names).family? = some .configuration ∧
      (Failure.noParser name names).context =
        [("entry_point_group", .text "dex_viewer.parsers"), ("available", .texts names)] := by
  obtain ⟨tried, found, h', hon, tries, hloaded⟩ := find_tries name h
  have considers := considers_candidates (published .parsers h.plugins) name
  have distinct := TreeNode.nodup_keys_of_ascending (considers.ascending.sublist tries.sublist)
  exact ⟨_, tried, found, _, h', considers, lists_names _, tries, hon, tries.eq_none_iff, hloaded,
    distinct, rfl, rfl⟩

end ParserLookup

end BytecodeViewer
