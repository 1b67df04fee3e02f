import BytecodeViewer.Proofs.Archive.Contents
import BytecodeViewer.Proofs.Archive.Refusals
import BytecodeViewer.Proofs.Session.TempCopy

/-!
# Extracting the bytecode

The bytecode entry of an archive is copied as it is, or a failure of its own says that there
is no such entry or that the archive is damaged, but for archives that are refused.
-/

namespace BytecodeViewer.BytecodeSource

variable {source temp : Path} {content bytes : Bytes} {r : Archive.EndRecord}
  {e : Archive.Entry} {f : Failure} {why : ArchiveFault} {h h' : Host}

/-- Failures that the operating system tells. -/
inductive OfSystem : Failure → Prop
  | told (why : SystemFault) : OfSystem (.system why)
  /-- A place before the beginning of a file is refused by the system. -/
  | seek : OfSystem (.badArchive .seek)

/-- What is promised of looking for the bytecode that an archive holds. -/
inductive Promised (source : Path) (content : Bytes) (r : Archive.EndRecord) (h : Host) :
    Except Failure BytecodeSource × Host → Prop
  | copied {e : Archive.Entry} {bytes : Bytes} {temp : Path} {h' : Host}
      (given : Archive.Gives content r Failure.bytecodeEntry e)
      (extracted : Archive.extract content e = .ok bytes)
      (full : Archive.Full content e bytes)
      (copy : CopyAdded h.files bytes temp h'.files) :
      Promised source content r h (.ok ⟨temp, some temp⟩, h')
  | noEntry {listed : List Archive.Entry} {h' : Host}
      (directory : Archive.entries content r = .ok listed)
      (absent : ∀ e ∈ listed, e.name ≠ Failure.bytecodeEntry) (files : h'.files = h.files) :
      Promised source content r h (.error (.noEntry source), h')
  | unreadable {why : ArchiveFault} {h' : Host}
      (unreadable : Archive.Unreadable content r Failure.bytecodeEntry why)
      (files : h'.files = h.files) :
      Promised source content r h (.error (.damagedArchive source why), h')
  | system {f : Failure} {h' : Host} (told : OfSystem f) (files : h'.files = h.files) :
      Promised source content r h (.error f, h')

/-- Looking for the bytecode of a file with some content, which ends like an archive, keeps
what is promised, wherever the file is and whatever the host. -/
def ExtractsTyped (content : Bytes) : Prop :=
  ∀ r, Archive.findEnd content = .found r → ∀ source place h,
    h.files.status source = .file place content →
    Promised source content r h ((locate source).on h)

/-! ## What comes of copying -/

theorem makeTemp_fails (hmake : makeTemp.on h = (.error f, h')) : ∃ why, f = .system why := by
  simp only [makeTemp, Act.on_ofFunction] at hmake
  split at hmake
  · split at hmake <;> cases hmake
    exact ⟨_, rfl⟩
  · cases hmake
    exact ⟨_, rfl⟩
  · cases hmake
    exact ⟨_, rfl⟩

theorem findEntry_of_gives (given : Archive.Gives content r Failure.bytecodeEntry e) :
    findEntry source content r = .ok e := by
  obtain ⟨listed, directory, found⟩ := given
  simp [findEntry, directory, found]

/-! ## When the promise is kept -/

/-- A fault is told as it is promised unless the archive is refused. -/
theorem Promised.of_unreadable
    (accepted : ∀ why, ¬Archive.Refused content r Failure.bytecodeEntry why)
    (unreadable : Archive.Unreadable content r Failure.bytecodeEntry why)
    (files : h'.files = h.files) :
    Promised source content r h (.error (archiveFailure source why), h') := by
  rcases unreadable.cases with damage | rfl | refused
  · rw [archiveFailure, if_pos damage]
    exact .unreadable unreadable files
  · exact .system .seek files
  · exact absurd refused (accepted why)

theorem Promised.of_accepted {place : Location}
    (accepted : ∀ why, ¬Archive.Refused content r Failure.bytecodeEntry why)
    (archive : Archive.findEnd content = .found r)
    (file : h.files.status source = .file place content) :
    Promised source content r h ((locate source).on h) := by
  cases directory : Archive.entries content r with
  | error why =>
      have hcopy : (copyEntry source content r).on h = (.error (archiveFailure source why), h) := by
        simp [copyEntry, findEntry, directory]
      rw [locate_on_error file archive hcopy]
      exact .of_unreadable accepted (.directory directory) rfl
  | ok listed =>
      cases found : Archive.find? listed Failure.bytecodeEntry with
      | none =>
          have hcopy : (copyEntry source content r).on h = (.error (.noEntry source), h) := by
            simp [copyEntry, findEntry, directory, found]
          rw [locate_on_error file archive hcopy]
          refine .noEntry directory ?_ rfl
          simpa [Archive.find?] using found
      | some e =>
          have given : Archive.Gives content r Failure.bytecodeEntry e :=
            ⟨listed, directory, found⟩
          have he : findEntry source content r = .ok e := findEntry_of_gives given
          rcases makeTemp_on h with ⟨f, hmake⟩ | ⟨temp, fs, n, hmake, copy⟩
          · have hcopy : (copyEntry source content r).on h = (.error f, h) := by
              simp [copyEntry, he, hmake]
            rw [locate_on_error file archive hcopy]
            obtain ⟨why, rfl⟩ := makeTemp_fails hmake
            exact .system (.told why) rfl
          · cases extracted : Archive.extract content e with
            | error why =>
                have hcopy := copyEntry_on_error he extracted hmake copy
                rw [locate_on_error file archive hcopy]
                exact .of_unreadable accepted (.data given extracted) rfl
            | ok bytes =>
                obtain ⟨fs', hcopy, copy'⟩ := copyEntry_on_ok he extracted hmake copy
                obtain ⟨h', hlocate, hfiles, -⟩ := locate_on_ok file archive hcopy
                rw [hlocate]
                refine .copied given extracted (Archive.full_of_extract extracted) ?_
                rw [hfiles]
                exact copy'

/-! ## When it is not -/

/-- A host that keeps one file beside the directory of temporary files. -/
def storing (content : Bytes) : Host where
  files := ⟨[(["tmp"], none), (["a"], some content)]⟩

theorem makeTemp_on_storing (content : Bytes) : ∃ temp fs n, makeTemp.on (storing content) =
      (.ok temp, { storing content with files := fs, tempCount := n }) ∧
    CopyAdded (storing content).files (Bytes.ofList []) temp fs := by
  rcases makeTemp_on (storing content) with ⟨f, hmake⟩ | made
  · cases hmake
  · exact made

theorem not_promised_of_refused {why : ArchiveFault} {h' : Host}
    (refused : Archive.Refused content r Failure.bytecodeEntry why) :
    ¬Promised source content r h (.error (archiveFailure source why), h') := by
  obtain ⟨harmless, hseek⟩ := refused.stray
  have hfailure : archiveFailure source why = .badArchive why := by
    simp [archiveFailure, harmless]
  rw [hfailure]
  intro promised
  cases promised with
  | system told _ =>
      cases told
      exact hseek rfl

theorem not_extractsTyped_of_refused (archive : Archive.findEnd content = .found r)
    (refused : Archive.Refused content r Failure.bytecodeEntry why) : ¬ExtractsTyped content := by
  intro typed
  have file : (storing content).files.status ⟨"", ["a"]⟩ = .file ["a"] content := rfl
  have promised := typed r archive _ _ _ file
  have hcopy : ∃ h', (copyEntry ⟨"", ["a"]⟩ content r).on (storing content) =
      (.error (archiveFailure ⟨"", ["a"]⟩ why), h') := by
    cases refused.unreadable with
    | directory fails => exact ⟨_, by simp [copyEntry, findEntry, fails]; rfl⟩
    | data given fails =>
        obtain ⟨temp, fs, n, hmake, copy⟩ := makeTemp_on_storing content
        exact ⟨_, copyEntry_on_error (findEntry_of_gives given) fails hmake copy⟩
  obtain ⟨h', hcopy⟩ := hcopy
  rw [locate_on_error file archive hcopy] at promised
  exact not_promised_of_refused refused promised

/-- Every archive with some content is extracted as promised exactly if there is nothing that
such an archive is refused for. -/
theorem extractsTyped_iff (content : Bytes) : ExtractsTyped content ↔
    ∀ r why, Archive.findEnd content = .found r →
      ¬Archive.Refused content r Failure.bytecodeEntry why := by
  constructor
  · intro typed r why archive refused
    exact not_extractsTyped_of_refused archive refused typed
  · intro accepted r archive source place h file
    exact .of_accepted (fun why => accepted r why archive) archive file

/-- An archive whose entry of bytecode is marked as encrypted. -/
def encryptedArchive : Bytes :=
  Bytes.ofList [80, 75, 3, 4, 20, 0, 1, 0, 0, 0, 0, 0, 33, 0, 2, 220, 203, 246, 3, 0, 0, 0, 3,
    0, 0, 0, 11, 0, 0, 0, 99, 108, 97, 115, 115, 101, 115, 46, 100, 101, 120, 100, 101, 120, 80,
    75, 1, 2, 20, 3, 20, 0, 1, 0, 0, 0, 0, 0, 33, 0, 2, 220, 203, 246, 3, 0, 0, 0, 3, 0, 0, 0,
    11, 0, 0, 0, 0, 0, 0, 0, 0, 0, 0, 0, 128, 1, 0, 0, 0, 0, 99, 108, 97, 115, 115, 101, 115,
    46, 100, 101, 120, 80, 75, 5, 6, 0, 0, 0, 0, 1, 0, 1, 0, 57, 0, 0, 0, 44, 0, 0, 0, 0, 0]

def encryptedEntry : Archive.Entry where
  fullName := "classes.dex"
  name := "classes.dex"
  flags := 1
  method := 0
  checksum := 4140555266
  compressedSize := 3
  size := 3
  attributes := 25165824
  headerPlace := 0
  limit := 44

theorem encrypted_not_extractsTyped : ¬ExtractsTyped encryptedArchive := by
  have archive : Archive.findEnd encryptedArchive = .found ⟨101, 57, 44, false⟩ := by
    decide +kernel
  have entries : (Archive.entries encryptedArchive ⟨101, 57, 44, false⟩).toOption =
      some [encryptedEntry] := by decide +kernel
  have found : Archive.find? [encryptedEntry] Failure.bytecodeEntry = some encryptedEntry := by
    decide +kernel
  have header : Archive.HeaderAt encryptedArchive encryptedEntry 0 :=
    ⟨rfl, by decide, by decide +kernel, by decide +kernel⟩
  have named : (Archive.ownName encryptedArchive 0).toOption = some encryptedEntry.fullName := by
    decide +kernel
  have room : ((Archive.dataStart encryptedArchive 0 + encryptedEntry.compressedSize : Nat) : Int) ≤
      encryptedEntry.limit := by decide +kernel
  exact not_extractsTyped_of_refused archive (.data ⟨_, eq_ok_of_toOption entries, found⟩
    (.encrypted header rfl rfl (eq_ok_of_toOption named) room rfl))

end BytecodeViewer.BytecodeSource
