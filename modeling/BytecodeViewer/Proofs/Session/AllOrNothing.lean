import BytecodeViewer.Proofs.Session.Opening

/-!
# Opening is all or nothing

Opening a file gives a session that is ready, or it fails and leaves the files as they
were and no model in use.  This takes models that can be disposed: where disposing fails,
its failure hides the first one and the temporary copy stays.
-/

namespace BytecodeViewer.Session

/-- A session that has just been opened, and the host with it. -/
structure Opened (source : Path) (parser : Parser) (o : OpenOptions) (h : Host) (s : Session)
    (h' : Host) : Prop where
  isOpen : s.closed = false
  language : s.pipeline.language = o.languageOn h
  selection : s.pipeline.selection = none
  document : s.pipeline.document = .empty
  model : s.pipeline.model = some s.model
  /-- The parser has been given the bytecode that the file holds. -/
  parsed : ∃ content m, BytecodeSource.Holds h.files source content s.temp.isSome ∧
    h'.parsed = h.parsed ++ [(parser.label, content)] ∧ parser.parse content = .ok m ∧
    h'.models = h.models ++ [m] ∧ h'.models[s.model]? = some m ∧
    BytecodeSource.InUse h.files content s.temp h'.files

/-- A file has not been opened, and the host is as good as before. -/
structure Undone (source : Path) (parser : Parser) (h : Host) (f : Failure) (h' : Host) :
    Prop where
  files : h'.files = h.files
  /-- Either the parser has not been used, or it has been given the bytecode of the file.
  A model that it has made is disposed once. -/
  parsed : (h'.parsed = h.parsed ∧ h'.models = h.models) ∨
    ∃ content isArchive, BytecodeSource.Holds h.files source content isArchive ∧
      h'.parsed = h.parsed ++ [(parser.label, content)] ∧
      match parser.parse content with
      | .ok m => ∃ d, h'.models = h.models ++ [d] ∧ d.disposals = m.disposals + 1
      | .error g =>
        h'.models = h.models ∧ f = if g.isTyped || g.isSystem then g else .unparsable source g

theorem open_all_or_nothing (source : Path) (parser : Parser) (o : OpenOptions) (h : Host)
    (disposes : ∀ content m, parser.parse content = .ok m → m.disposeFailure = none) :
    (∃ s h', (Session.«open» source parser o).on h = (.ok s, h') ∧
        Opened source parser o h s h') ∨
      ∃ f h', (Session.«open» source parser o).on h = (.error f, h') ∧
        Undone source parser h f h' := by
  have opening := open_on source parser o h
  rcases hon : (Session.«open» source parser o).on h with ⟨outcome, h'⟩
  rw [hon] at opening
  cases opening with
  | unlocated files models parsed _ => exact .inr ⟨_, _, rfl, files, .inl ⟨parsed, models⟩⟩
  | @unparsed content isArchive g _ holds parses files models parsed =>
      refine .inr ⟨_, _, rfl, files, .inr ⟨content, isArchive, holds, parsed, ?_⟩⟩
      rw [parses]
      exact ⟨models, rfl⟩
  | @undone content isArchive m f _ holds parses fault disposed files models parsed =>
      refine .inr ⟨_, _, rfl, files, .inr ⟨content, isArchive, holds, parsed, ?_⟩⟩
      rw [parses]
      exact ⟨m.dispose, models, rfl⟩
  | stranded holds parses fault fails inUse models parsed =>
      rw [disposes _ _ parses] at fails
      cases fails
  | @opened content m temp p roots _ holds parses fault language model selection document tree
      inUse models parsed _ _ =>
      refine .inl ⟨_, _, rfl, rfl, language, selection, document, model, ?_⟩
      exact ⟨content, m, holds, parsed, parses, models, by simp [models], inUse⟩

/-! ## A small archive -/

/-- An archive that holds three bytes of bytecode as they are. -/
def smallArchive : Bytes :=
  Bytes.ofList [80, 75, 3, 4, 20, 0, 0, 0, 0, 0, 0, 0, 33, 0, 2, 220, 203, 246, 3, 0, 0, 0, 3, 0,
    0, 0, 11, 0, 0, 0, 99, 108, 97, 115, 115, 101, 115, 46, 100, 101, 120, 100, 101, 120, 80, 75,
    1, 2, 20, 3, 20, 0, 0, 0, 0, 0, 0, 0, 33, 0, 2, 220, 203, 246, 3, 0, 0, 0, 3, 0, 0, 0, 11, 0,
    0, 0, 0, 0, 0, 0, 0, 0, 0, 0, 128, 1, 0, 0, 0, 0, 99, 108, 97, 115, 115, 101, 115, 46, 100,
    101, 120, 80, 75, 5, 6, 0, 0, 0, 0, 1, 0, 1, 0, 57, 0, 0, 0, 44, 0, 0, 0, 0, 0]

def smallEntry : Archive.Entry where
  fullName := "classes.dex"
  name := "classes.dex"
  flags := 0
  method := 0
  checksum := 4140555266
  compressedSize := 3
  size := 3
  attributes := 25165824
  headerPlace := 0
  limit := 44

def smallSource : Path := ⟨"", ["app.apk"]⟩

def smallHost : Host where
  files := ⟨[(["tmp"], none), (["app.apk"], some smallArchive)]⟩

theorem smallHost_holds :
    BytecodeSource.Holds smallHost.files smallSource (Bytes.ofList [100, 101, 120]) true := by
  have file : smallHost.files.status smallSource = .file ["app.apk"] smallArchive := rfl
  have archive : Archive.findEnd smallArchive = .found ⟨101, 57, 44, false⟩ := by decide +kernel
  have entries : (Archive.entries smallArchive ⟨101, 57, 44, false⟩).toOption =
      some [smallEntry] := by decide +kernel
  have found : Archive.find? [smallEntry] Failure.bytecodeEntry = some smallEntry := by
    decide +kernel
  have bytes : (Archive.extract smallArchive smallEntry).toOption =
      some (Bytes.ofList [100, 101, 120]) := by decide +kernel
  exact .entry file archive (eq_ok_of_toOption entries) found (eq_ok_of_toOption bytes)

def smallModel : LoadedModel where
  model := Model.ofClasses [{ name := "A" }]

theorem open_all_or_nothing_archive :
    (∀ content m, (parserOf smallModel).parse content = .ok m → m.disposeFailure = none) ∧
      ((∃ s h', (Session.«open» smallSource (parserOf smallModel) {}).on smallHost = (.ok s, h') ∧
          Opened smallSource (parserOf smallModel) {} smallHost s h') ∨
        ∃ f h', (Session.«open» smallSource (parserOf smallModel) {}).on smallHost =
            (.error f, h') ∧
          Undone smallSource (parserOf smallModel) smallHost f h') := by
  have disposes (content : Bytes) (m : LoadedModel)
      (parses : (parserOf smallModel).parse content = .ok m) : m.disposeFailure = none := by
    cases parses
    rfl
  exact ⟨disposes, open_all_or_nothing _ _ _ _ disposes⟩

/-! ## When disposing fails -/

/-- If no session can be made for the model of an archive, the reason is told and the
temporary copy deleted exactly if disposing the model does not fail.  Otherwise the failure
of disposing is told, and the copy stays. -/
theorem undone_iff_disposes {source : Path} {parser : Parser} {o : OpenOptions} {h h' : Host}
    {content : Bytes} {m : LoadedModel} {f : Failure} {outcome : Except Failure Session}
    (archive : BytecodeSource.Holds h.files source content true)
    (parses : parser.parse content = .ok m) (fault : o.fault? h m = some f)
    (hon : (Session.«open» source parser o).on h = (outcome, h'))
    (parsed : h'.parsed = h.parsed ++ [(parser.label, content)]) :
    ((outcome = .error f ∧ h'.files = h.files) ↔ m.disposeFailure = none) ∧
      ∀ g, m.disposeFailure = some g → outcome = .error g ∧
        ∃ temp, BytecodeSource.CopyAdded h.files content temp h'.files := by
  have opening := open_on source parser o h
  rw [hon] at opening
  have hcontent {content' : Bytes}
      (parsed' : h'.parsed = h.parsed ++ [(parser.label, content')]) : content' = content := by
    simpa using parsed'.symm.trans parsed
  cases opening with
  | unlocated _ _ parsed' _ => simp [parsed'] at parsed
  | unparsed _ parses' _ _ parsed' =>
      rw [hcontent parsed', parses] at parses'
      cases parses'
  | undone _ parses' fault' disposes files _ parsed' =>
      rw [hcontent parsed', parses] at parses'
      cases parses'
      cases fault.symm.trans fault'
      simp [disposes, files]
  | @stranded _ _ _ g temp _ holds parses' _ disposes inUse _ parsed' =>
      rw [hcontent parsed', parses] at parses'
      cases parses'
      obtain ⟨path, -, copy⟩ := inUse.exists_copy (archive.unique holds).2.symm
      rw [hcontent parsed'] at copy
      refine ⟨?_, ?_⟩
      · simp [disposes, copy.ne]
      · intro g' hg'
        cases disposes.symm.trans hg'
        exact ⟨rfl, path, copy⟩
  | opened _ parses' fault' _ _ _ _ _ _ _ parsed' _ _ =>
      rw [hcontent parsed', parses] at parses'
      cases parses'
      cases fault.symm.trans fault'

def stubbornModel : LoadedModel :=
  { smallModel with disposeFailure := some (.raised "RuntimeError" "busy") }

def smaliOptions : OpenOptions where
  language := some "Smali"

theorem smali_fault (m : LoadedModel) :
    smaliOptions.fault? smallHost m = some (.noRenderer "Smali" ["Java", "Dex"]) := by
  rfl

theorem undone_iff_disposes_stubborn :
    let result := (Session.«open» smallSource (parserOf stubbornModel) smaliOptions).on smallHost
    BytecodeSource.Holds smallHost.files smallSource (Bytes.ofList [100, 101, 120]) true ∧
      result.2.parsed = [("stub", Bytes.ofList [100, 101, 120])] ∧
      ((result.1 = .error (.noRenderer "Smali" ["Java", "Dex"]) ∧
          result.2.files = smallHost.files) ↔ stubbornModel.disposeFailure = none) := by
  have parsed : ((Session.«open» smallSource (parserOf stubbornModel) smaliOptions).on
      smallHost).2.parsed = [("stub", Bytes.ofList [100, 101, 120])] := by decide +kernel
  rcases hon : (Session.«open» smallSource (parserOf stubbornModel) smaliOptions).on smallHost with
    ⟨outcome, h'⟩
  rw [hon] at parsed
  exact ⟨smallHost_holds, parsed,
    (undone_iff_disposes smallHost_holds rfl (smali_fault stubbornModel) hon parsed).1⟩

/-- The language is not available, but the failure of disposing is told, and the temporary
copy stays. -/
theorem dispose_failure_hides_reason :
    let result := (Session.«open» smallSource (parserOf stubbornModel) smaliOptions).on smallHost
    smaliOptions.fault? smallHost stubbornModel = some (.noRenderer "Smali" ["Java", "Dex"]) ∧
      result.1 ≠ .error (.noRenderer "Smali" ["Java", "Dex"]) ∧
      result.2.files.entries.map (·.1) = [["tmp"], ["app.apk"], ["tmp", "tmp00000001.dex"]] := by
  have told : (match ((Session.«open» smallSource (parserOf stubbornModel) smaliOptions).on
      smallHost).1 with
    | .ok _ => ""
    | .error f => f.message) = "busy" := by decide +kernel
  refine ⟨smali_fault stubbornModel, ?_, by decide +kernel⟩
  intro hreason
  rw [hreason] at told
  exact absurd told (by decide +kernel)

end BytecodeViewer.Session
