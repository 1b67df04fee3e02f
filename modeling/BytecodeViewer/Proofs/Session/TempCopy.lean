import BytecodeViewer.Proofs.Host.Rest
import BytecodeViewer.Session.Source

/-!
# The temporary copy

The bytecode entry of an archive is copied to a file whose name was free, so deleting the
copy gives the files that there were.
-/

namespace BytecodeViewer

/-- Outcomes cannot be compared, but what they give can. -/
theorem eq_ok_of_toOption {ε α : Type} {x : Except ε α} {a : α} (h : x.toOption = some a) :
    x = .ok a := by
  cases x <;> cases h
  rfl

namespace Files

theorem lookup_filter_ne {place other : Location} (hne : other ≠ place)
    (entries : List (Location × Option Bytes)) :
    (entries.filter fun e => e.1 != place).lookup other = entries.lookup other := by
  induction entries with
  | nil => rfl
  | cons e es ih =>
      obtain ⟨p, content⟩ := e
      by_cases hp : p = place
      · have hbeq : (other == p) = false := by simpa [hp] using hne
        simp only [List.lookup_cons, hbeq, ← ih]
        simp [hp]
      · simp [hp, List.lookup_cons, ih]

theorem lookup_filter_self (place : Location) (entries : List (Location × Option Bytes)) :
    (entries.filter fun e => e.1 != place).lookup place = none := by
  rw [List.lookup_eq_none_iff]
  intro e he
  have hne := (List.mem_filter.mp he).2
  exact bne_iff_ne.mpr (Ne.symm (bne_iff_ne.mp hne))

theorem at?_put_self {fs : Files} {place : Location} (hroot : ¬(place = [] ∨ place = rootPlace))
    (content : Option Bytes) : (fs.put place content).at? place = some content := by
  simp [at?, hroot, put, List.lookup_append, lookup_filter_self]

theorem at?_put_ne {fs : Files} {place other : Location} (hne : other ≠ place)
    (content : Option Bytes) : (fs.put place content).at? other = fs.at? other := by
  have hbeq : (other == place) = false := by simpa using hne
  simp [at?, put, List.lookup_append, lookup_filter_ne hne, List.lookup_cons, hbeq]

theorem erase_of_free {fs : Files} {place : Location} (hfree : fs.at? place = none) :
    fs.erase place = fs := by
  have hnone : fs.entries.lookup place = none := by
    unfold at? at hfree
    split at hfree
    · cases hfree
    · exact hfree
  have hall : ∀ e ∈ fs.entries, (e.1 != place) = true := by
    intro e he
    have hne := List.lookup_eq_none_iff.mp hnone e he
    exact bne_iff_ne.mpr (Ne.symm (bne_iff_ne.mp hne))
  simp only [erase, List.filter_eq_self.mpr hall]

theorem erase_put (fs : Files) (place : Location) (content : Option Bytes) :
    (fs.put place content).erase place = fs.erase place := by
  simp [erase, put, List.filter_filter]

theorem put_put (fs : Files) (place : Location) (content content' : Option Bytes) :
    (fs.put place content).put place content' = fs.put place content' := by
  simp [put, List.filter_filter]

@[simp] theorem at?_nil (fs : Files) : fs.at? [] = some none := by
  simp [at?]

theorem follow_into {fs : Files} {place : Location} {part : String}
    (hdir : fs.at? place = some none) (hpart : part ≠ "..") (parts : List String) :
    fs.follow place (part :: parts) = fs.follow (place ++ [part]) parts := by
  simp [follow, hdir, hpart]

def Extends (fs fs' : Files) : Prop :=
  ∀ place x, fs.at? place = some x → fs'.at? place = some x

theorem extends_put {fs : Files} {place : Location} (hfree : fs.at? place = none)
    (content : Option Bytes) : fs.Extends (fs.put place content) := by
  intro other x hx
  have hne : other ≠ place := by
    rintro rfl
    cases hfree.symm.trans hx
  rw [at?_put_ne hne, hx]

theorem Extends.follow {fs fs' : Files} (ext : fs.Extends fs') {place found : Location}
    {parts : List String} {content : Bytes} (h : fs.follow place parts = .file found content) :
    fs'.follow place parts = .file found content := by
  fun_induction Files.follow fs place parts with
  | case1 place c hat =>
      cases h
      simp [Files.follow, ext _ _ hat]
  | case2 | case3 | case5 | case6 | case9 | case10 => cases h
  | case4 parts hat ih => simp [Files.follow, ext _ _ hat, ih h]
  | case7 place parts hat hroot hplace _ ih =>
      cases place with
      | nil => exact absurd rfl hplace
      | cons name names =>
          have hat' := ext _ _ hat
          simp [Files.follow, hat', hroot, ih h]
  | case8 place part parts hat hpart ih => simp [Files.follow, ext _ _ hat, hpart, ih h]

end Files

/-- A host without its files and its log. -/
def Host.fileless (h : Host) : Host :=
  { h with files := {}, tempCount := 0, log := {} }

namespace BytecodeSource

@[simp] theorem tempPlace_ne_root (n : Nat) :
    ¬(tempPlace n = [] ∨ tempPlace n = Files.rootPlace) := by
  simp [tempPlace, tempDirectory, Files.rootPlace]

theorem tempName_ne_dots (n : Nat) : tempName n ≠ ".." := by
  intro h
  have hlist := congrArg String.toList h
  simp [tempName, String.toList_append] at hlist

theorem tempDirectory_ne_place (n : Nat) : tempDirectory ≠ tempPlace n := by
  simp [tempPlace, tempDirectory]

def HasTempDirectory (fs : Files) : Prop :=
  fs.at? tempDirectory = some none

theorem hasTempDirectory_of_status {fs : Files}
    (h : fs.status ⟨"", tempDirectory⟩ = .directory) : HasTempDirectory fs := by
  change fs.follow [] ["tmp"] = .directory at h
  rw [Files.follow_into (Files.at?_nil fs) (by decide), Files.follow] at h
  change fs.at? ["tmp"] = some none
  simp only [List.nil_append] at h
  split at h
  · cases h
  · assumption
  · cases h

theorem status_temp {fs : Files} (hdir : HasTempDirectory fs) {n : Nat} {content : Bytes}
    (hcopy : fs.at? (tempPlace n) = some (some content)) :
    fs.status ⟨"", tempPlace n⟩ = .file (tempPlace n) content := by
  change fs.follow [] ["tmp", tempName n] = _
  change fs.at? ["tmp"] = some none at hdir
  rw [Files.follow_into (Files.at?_nil fs) (by decide), List.nil_append,
    Files.follow_into hdir (tempName_ne_dots n)]
  change fs.follow (tempPlace n) [] = _
  simp [Files.follow, hcopy]

/-- A temporary copy has been added to some files, in a place that was free. -/
inductive CopyAdded (fs : Files) (content : Bytes) : Path → Files → Prop
  | mk {n : Nat} (dir : HasTempDirectory fs) (free : fs.at? (tempPlace n) = none) :
      CopyAdded fs content ⟨"", tempPlace n⟩ (fs.put (tempPlace n) (some content))

theorem CopyAdded.status {fs fs' : Files} {content : Bytes} {temp : Path}
    (copy : CopyAdded fs content temp fs') :
    ∃ place, fs'.status temp = .file place content ∧ fs'.erase place = fs := by
  cases copy with
  | @mk n dir free =>
      have dir' : HasTempDirectory (fs.put (tempPlace n) (some content)) := by
        rw [HasTempDirectory, Files.at?_put_ne (tempDirectory_ne_place n)]
        exact dir
      refine ⟨tempPlace n, status_temp dir' (Files.at?_put_self (tempPlace_ne_root n) _), ?_⟩
      rw [Files.erase_put, Files.erase_of_free free]

theorem discard_on {fs : Files} {content : Bytes} {temp : Path} {h : Host}
    (copy : CopyAdded fs content temp h.files) :
    (discard temp).on h = (.ok (), { h with files := fs }) := by
  obtain ⟨place, hstatus, herase⟩ := copy.status
  simp [discard, hstatus, herase]

theorem CopyAdded.removeTemp_on {fs : Files} {content : Bytes} {temp : Path} {h : Host}
    (copy : CopyAdded fs content temp h.files) :
    (removeTemp (some temp)).on h = (.ok true, { h with files := fs }) := by
  obtain ⟨place, hstatus, -⟩ := copy.status
  simp [removeTemp, deletionFault?, hstatus, discard_on copy, Except.map]

/-- Deleting a temporary file does not fail, and changes files and log only. -/
theorem removeTemp_total (temp : Option Path) (h : Host) :
    ∃ b h', (removeTemp temp).on h = (.ok b, h') ∧ h'.fileless = h.fileless := by
  cases temp with
  | none => exact ⟨true, h, by simp [removeTemp], rfl⟩
  | some p =>
      cases hfault : deletionFault? h.files p with
      | none =>
          have hdiscard : ∃ h', (discard p).on h = (.ok (), h') ∧ h'.fileless = h.fileless := by
            cases hstatus : h.files.status p with
            | file place content =>
                exact ⟨{ h with files := h.files.erase place }, by simp [discard, hstatus], rfl⟩
            | directory => exact ⟨h, by simp [discard, hstatus], rfl⟩
            | missing => exact ⟨h, by simp [discard, hstatus], rfl⟩
            | belowFile => exact ⟨h, by simp [discard, hstatus], rfl⟩
          obtain ⟨h', hon, hfileless⟩ := hdiscard
          exact ⟨true, h', by simp [removeTemp, hfault, hon, Except.map], hfileless⟩
      | some why =>
          refine ⟨false, h.logged channel .debug
            ("Could not delete temp file " ++ p.text ++ ": " ++ why.message), ?_, rfl⟩
          simp [removeTemp, hfault, Except.map]

theorem free_of_freeNumber? {fs : Files} {tries k n : Nat}
    (h : freeNumber? fs tries k = some n) : fs.at? (tempPlace n) = none := by
  induction tries generalizing k with
  | zero => simp [freeNumber?] at h
  | succ tries ih =>
      unfold freeNumber? at h
      split at h
      · next hfree =>
        cases h
        simpa using hfree
      · exact ih h

/-- Making a temporary file leaves the host as it was, or adds an empty file to it. -/
theorem makeTemp_on (h : Host) :
    (∃ f, makeTemp.on h = (.error f, h)) ∨
      ∃ temp fs n, makeTemp.on h = (.ok temp, { h with files := fs, tempCount := n }) ∧
        CopyAdded h.files (Bytes.ofList []) temp fs := by
  cases hstatus : h.files.status ⟨"", tempDirectory⟩ with
  | directory =>
      cases hn : freeNumber? h.files tempTries (h.tempCount + 1) with
      | none => exact .inl ⟨.system .noFreeName, by simp [makeTemp, hstatus, hn]⟩
      | some n =>
          exact .inr ⟨_, _, n, by simp [makeTemp, hstatus, hn],
            .mk (hasTempDirectory_of_status hstatus) (free_of_freeNumber? hn)⟩
  | missing =>
      exact .inl ⟨.system (.missing ⟨"", tempPlace (h.tempCount + 1)⟩),
        by simp [makeTemp, hstatus]⟩
  | file place content =>
      exact .inl ⟨.system (.belowFile ⟨"", tempPlace (h.tempCount + 1)⟩),
        by simp [makeTemp, hstatus]⟩
  | belowFile =>
      exact .inl ⟨.system (.belowFile ⟨"", tempPlace (h.tempCount + 1)⟩),
        by simp [makeTemp, hstatus]⟩

theorem CopyAdded.fill_on {fs : Files} {content : Bytes} {temp : Path} {h : Host}
    (copy : CopyAdded fs content temp h.files) (bytes : Bytes) :
    ∃ fs', (fill temp bytes).on h = (.ok (), { h with files := fs' }) ∧
      CopyAdded fs bytes temp fs' := by
  obtain ⟨files, environment, tempCount, models, renderers, plugins, loaded, parsed, log, users⟩ :=
    h
  cases copy with
  | @mk n dir free =>
      refine ⟨_, ?_, .mk dir free⟩
      rw [← Files.put_put fs (tempPlace n) (some content)]
      rfl

theorem CopyAdded.ne {fs fs' : Files} {content : Bytes} {temp : Path}
    (copy : CopyAdded fs content temp fs') : fs' ≠ fs := by
  cases copy with
  | @mk n dir free =>
      intro hsame
      have hput : (fs.put (tempPlace n) (some content)).at? (tempPlace n) = some (some content) :=
        Files.at?_put_self (tempPlace_ne_root n) _
      rw [hsame, free] at hput
      cases hput

/-- The bytecode that a file holds: itself, or the bytecode entry of the archive it is. -/
inductive Holds (fs : Files) (source : Path) : Bytes → (isArchive : Bool) → Prop
  | plain {place : Location} {content : Bytes} (file : fs.status source = .file place content)
      (noArchive : Archive.findEnd content = .notFound) : Holds fs source content false
  | entry {place : Location} {content bytes : Bytes} {r : Archive.EndRecord}
      {entries : List Archive.Entry} {e : Archive.Entry}
      (file : fs.status source = .file place content) (archive : Archive.findEnd content = .found r)
      (listed : Archive.entries content r = .ok entries)
      (found : Archive.find? entries Failure.bytecodeEntry = some e)
      (extracted : Archive.extract content e = .ok bytes) : Holds fs source bytes true

theorem Holds.unique {fs : Files} {source : Path} {content content' : Bytes}
    {isArchive isArchive' : Bool} (holds : Holds fs source content isArchive)
    (holds' : Holds fs source content' isArchive') :
    content = content' ∧ isArchive = isArchive' := by
  cases holds with
  | plain file noArchive =>
      cases holds' with
      | plain file' _ =>
          cases file.symm.trans file'
          exact ⟨rfl, rfl⟩
      | entry file' archive' _ _ _ =>
          cases file.symm.trans file'
          cases noArchive.symm.trans archive'
  | entry file archive listed found extracted =>
      cases holds' with
      | plain file' noArchive' =>
          cases file.symm.trans file'
          cases archive.symm.trans noArchive'
      | entry file' archive' listed' found' extracted' =>
          cases file.symm.trans file'
          cases archive.symm.trans archive'
          cases listed.symm.trans listed'
          cases found.symm.trans found'
          cases extracted.symm.trans extracted'
          exact ⟨rfl, rfl⟩

theorem Holds.extends {fs fs' : Files} {source : Path} {content : Bytes} {isArchive : Bool}
    (holds : Holds fs source content isArchive) (ext : fs.Extends fs') :
    Holds fs' source content isArchive := by
  cases holds with
  | plain file noArchive => exact .plain (ext.follow file) noArchive
  | entry file archive listed found extracted =>
      exact .entry (ext.follow file) archive listed found extracted

/-- A file that is not there or ends like an archive is no plain file. -/
theorem not_holds_plain {fs : Files} {source : Path}
    (h : ∀ place content, fs.status source = .file place content →
      Archive.findEnd content ≠ .notFound) (content : Bytes) : ¬Holds fs source content false := by
  intro holds
  cases holds with
  | plain file noArchive => exact h _ _ file noArchive

theorem findEntry_ok {path : Path} {content : Bytes} {r : Archive.EndRecord} {e : Archive.Entry}
    (h : findEntry path content r = .ok e) :
    ∃ entries, Archive.entries content r = .ok entries ∧
      Archive.find? entries Failure.bytecodeEntry = some e := by
  unfold findEntry at h
  split at h
  · cases h
  · next entries hentries =>
    split at h
    · cases h
    · next hfound =>
      cases h
      exact ⟨entries, hentries, hfound⟩

section Copying

variable {path temp : Path} {content old bytes : Bytes} {r : Archive.EndRecord}
  {e : Archive.Entry} {why : ArchiveFault} {h : Host} {fs : Files} {n : Nat}

theorem copyEntry_on_error (he : findEntry path content r = .ok e)
    (fails : Archive.extract content e = .error why)
    (hmake : makeTemp.on h = (.ok temp, { h with files := fs, tempCount := n }))
    (copy : CopyAdded h.files old temp fs) : (copyEntry path content r).on h =
      (.error (archiveFailure path why), { h with tempCount := n }) := by
  have hdiscard := discard_on (h := { h with files := fs, tempCount := n }) copy
  simp [copyEntry, he, hmake, fails, hdiscard]

theorem copyEntry_on_ok (he : findEntry path content r = .ok e)
    (extracted : Archive.extract content e = .ok bytes)
    (hmake : makeTemp.on h = (.ok temp, { h with files := fs, tempCount := n }))
    (copy : CopyAdded h.files old temp fs) : ∃ fs', (copyEntry path content r).on h =
      (.ok temp, { h with files := fs', tempCount := n }) ∧ CopyAdded h.files bytes temp fs' := by
  obtain ⟨fs', hfill, copy'⟩ :=
    CopyAdded.fill_on (h := { h with files := fs, tempCount := n }) copy bytes
  exact ⟨fs', by simp [copyEntry, he, hmake, extracted, hfill, Except.map], copy'⟩

end Copying

/-- Copying leaves the files as they were, or adds the bytes of the entry to them. -/
theorem copyEntry_on (path : Path) (content : Bytes) (r : Archive.EndRecord) (h : Host) :
    (∃ f h', (copyEntry path content r).on h = (.error f, h') ∧ h'.files = h.files ∧
      h'.fileless = h.fileless) ∨
    ∃ temp e bytes h', (copyEntry path content r).on h = (.ok temp, h') ∧
      findEntry path content r = .ok e ∧ Archive.extract content e = .ok bytes ∧
      CopyAdded h.files bytes temp h'.files ∧ h'.fileless = h.fileless := by
  cases he : findEntry path content r with
  | error f => exact .inl ⟨f, h, by simp [copyEntry, he], rfl, rfl⟩
  | ok e =>
      rcases makeTemp_on h with ⟨f, hmake⟩ | ⟨temp, fs, n, hmake, copy⟩
      · exact .inl ⟨f, h, by simp [copyEntry, he, hmake], rfl, rfl⟩
      · cases hbytes : Archive.extract content e with
        | error why => exact .inl ⟨_, _, copyEntry_on_error he hbytes hmake copy, rfl, rfl⟩
        | ok bytes =>
            obtain ⟨fs', hcopy, copy'⟩ := copyEntry_on_ok he hbytes hmake copy
            exact .inr ⟨temp, e, bytes, _, hcopy, rfl, hbytes, copy', rfl⟩

/-- The files while a session uses some bytecode: those there were, and the temporary copy
if there is one. -/
inductive InUse (fs : Files) (content : Bytes) : Option Path → Files → Prop
  | plain : InUse fs content none fs
  | copied {temp : Path} {fs' : Files} (copy : CopyAdded fs content temp fs') :
      InUse fs content (some temp) fs'

theorem InUse.extends {fs fs' : Files} {content : Bytes} {temp : Option Path}
    (inUse : InUse fs content temp fs') : fs.Extends fs' := by
  cases inUse with
  | plain => exact fun _ _ hx => hx
  | copied copy =>
      cases copy with
      | mk dir free => exact Files.extends_put free _

theorem InUse.removeTemp_on {fs : Files} {content : Bytes} {temp : Option Path} {h : Host}
    (inUse : InUse fs content temp h.files) :
    (removeTemp temp).on h = (.ok true, { h with files := fs }) := by
  obtain ⟨files, environment, tempCount, models, renderers, plugins, loaded, parsed, log, users⟩ :=
    h
  cases inUse with
  | plain => simp [removeTemp]
  | copied copy => exact CopyAdded.removeTemp_on copy

theorem InUse.exists_copy {fs fs' : Files} {content : Bytes} {temp : Option Path}
    (inUse : InUse fs content temp fs') (hsome : temp.isSome = true) :
    ∃ path, temp = some path ∧ CopyAdded fs content path fs' := by
  cases inUse with
  | plain => cases hsome
  | @copied path _ copy => exact ⟨path, rfl, copy⟩

/-- All that can come of looking for the bytecode of a file. -/
inductive Located (source : Path) (h : Host) : Except Failure BytecodeSource × Host → Prop
  | failed {f : Failure} {h' : Host} (files : h'.files = h.files)
      (fileless : h'.fileless = h.fileless)
      (notPlain : ∀ content, ¬Holds h.files source content false) : Located source h (.error f, h')
  | found {place : Location} {path : Path} {content : Bytes} {temp : Option Path} {h' : Host}
      (holds : Holds h.files source content temp.isSome)
      (reads : h'.files.status path = .file place content)
      (inUse : InUse h.files content temp h'.files) (fileless : h'.fileless = h.fileless) :
      Located source h (.ok ⟨path, temp⟩, h')

section Locating

variable {source temp : Path} {content : Bytes} {r : Archive.EndRecord} {place : Location}
  {f : Failure} {h h' : Host}

theorem locate_on_error (file : h.files.status source = .file place content)
    (archive : Archive.findEnd content = .found r)
    (hcopy : (copyEntry source content r).on h = (.error f, h')) :
    (locate source).on h = (.error f, h') := by
  simp [locate, file, archive, hcopy]

theorem locate_on_ok (file : h.files.status source = .file place content)
    (archive : Archive.findEnd content = .found r)
    (hcopy : (copyEntry source content r).on h = (.ok temp, h')) :
    ∃ h'', (locate source).on h = (.ok ⟨temp, some temp⟩, h'') ∧ h''.files = h'.files ∧
      h''.fileless = h'.fileless := by
  refine ⟨h'.logged channel .debug ("Extracted " ++ Failure.bytecodeEntry ++ " from " ++
    source.text ++ " to " ++ temp.text), ?_, rfl, rfl⟩
  simp [locate, file, archive, hcopy, Except.map]

end Locating

theorem located_noFile (hnone : ∀ place content, h.files.status source ≠ .file place content) :
    Located source h ((locate source).on h) := by
  have hon : (locate source).on h = (.error (.noFile source), h) := by
    cases hstatus : h.files.status source with
    | file place content => exact absurd hstatus (hnone place content)
    | directory => simp [locate, hstatus]
    | missing => simp [locate, hstatus]
    | belowFile => simp [locate, hstatus]
  rw [hon]
  refine .failed rfl rfl (not_holds_plain fun place content hfile => ?_)
  exact absurd hfile (hnone place content)

theorem locate_on (source : Path) (h : Host) : Located source h ((locate source).on h) := by
  cases hstatus : h.files.status source with
  | file place content =>
      cases hend : Archive.findEnd content with
      | notFound =>
          have hon : (locate source).on h = (.ok ⟨source, none⟩, h) := by
            simp [locate, hstatus, hend]
          rw [hon]
          exact .found (.plain hstatus hend) hstatus .plain rfl
      | severalDisks =>
          have hon : (locate source).on h = (.error (.badArchive .severalDisks), h) := by
            simp [locate, hstatus, hend]
          rw [hon]
          refine .failed rfl rfl (not_holds_plain ?_)
          simp [hstatus, hend]
      | found r =>
          rcases copyEntry_on source content r h with
            ⟨f, h', hcopy, hfiles, hfileless⟩ |
            ⟨temp, e, bytes, h', hcopy, he, hbytes, copy, hfileless⟩
          · rw [locate_on_error hstatus hend hcopy]
            refine .failed hfiles hfileless (not_holds_plain ?_)
            simp [hstatus, hend]
          · obtain ⟨entries, hentries, hfound⟩ := findEntry_ok he
            obtain ⟨h'', hon, hfiles, hrest⟩ := locate_on_ok hstatus hend hcopy
            rw [hon]
            rw [← hfiles] at copy
            obtain ⟨place', hread, -⟩ := copy.status
            exact .found (.entry hstatus hend hentries hfound hbytes) hread (.copied copy)
              (hrest.trans hfileless)
  | directory => exact located_noFile (by simp [hstatus])
  | missing => exact located_noFile (by simp [hstatus])
  | belowFile => exact located_noFile (by simp [hstatus])

end BytecodeSource

end BytecodeViewer
