import BytecodeViewer.Proofs.Settings.Loading
import BytecodeViewer.Proofs.Text.Portions

/-!
# Why settings are not loaded

Loading settings fails with a failure of their family, but for a home directory that is not
known, a directory in the place of the file, bytes that are no text, a value that is written
well and denotes nothing, and names that are no texts.
-/

namespace BytecodeViewer.Settings

variable {path : Option Path} {h h' : Host} {f : Failure}

/-- All the failures without a type that loading settings can end with. -/
inductive Untyped (path : Option Path) (h : Host) : Failure → Prop
  | home (wanted : fileToRead h path = .error .noHome) : Untyped path h .noHome
  | directory {p : Path} (wanted : fileToRead h path = .ok (some p))
      (found : h.files.status p = .directory) : Untyped path h (.system (.isDirectory p))
  | bytes {p : Path} {place : Location} {bytes : Bytes} {why : Text.Utf8Fault}
      (wanted : fileToRead h path = .ok (some p)) (found : h.files.status p = .file place bytes)
      (noText : Text.readPortions bytes.toByteList = .error why) :
      Untyped path h (.settingsBytes why)
  | value {p : Path} {place : Location} {bytes : Bytes} {cs : List Char} {why : Yaml.ValueFault}
      (wanted : fileToRead h path = .ok (some p)) (found : h.files.status p = .file place bytes)
      (text : Text.readUtf8 bytes.toByteList = .ok cs)
      (noValue : Yaml.Document.read (Text.unifyBreaks cs) = .error (.value why)) :
      Untyped path h (.settingsValue why)
  | names {p : Path} {place : Location} {bytes : Bytes} {cs : List Char} {d : Yaml.Document}
      {given : GivenSettings} (wanted : fileToRead h path = .ok (some p))
      (found : h.files.status p = .file place bytes)
      (text : Text.readUtf8 bytes.toByteList = .ok cs)
      (document : Yaml.Document.read (Text.unifyBreaks cs) = .ok d)
      (noNames : ofDocument p d = .ok (given, false)) : Untyped path h .settingsKeys

theorem Untyped.family (untyped : Untyped path h f) : f.family? = none := by
  cases untyped <;> rfl

/-- What comes of a file whose bytes are a text. -/
theorem readFrom_of_text {p : Path} {place : Location} {bytes : Bytes} {cs : List Char}
    (text : Text.readUtf8 bytes.toByteList = .ok cs) : readFrom p (.file place bytes) =
      match Yaml.Document.read (Text.unifyBreaks cs) with
      | .ok d => ofDocument p d
      | .error .malformed => .error (.badSettingsText p)
      | .error (.value why) => .error (.settingsValue why) := by
  have hportions := Text.readPortions_eq_ok_iff.mpr text
  simp only [readFrom, readDocument, readText, hportions, bind, Except.bind]
  rcases Yaml.Document.read (Text.unifyBreaks cs) with (_ | _) | _ <;> rfl

/-! ## Untyped failures are raised -/

theorem Untyped.load_on (untyped : Untyped path h f) : ((load path).on h).1 = .error f := by
  have of_read {p : Path} (wanted : fileToRead h path = .ok (some p))
      (hsettle : settle (some p) (ofEnvironment h) (readFrom p (h.files.status p)) = .error f) :
      ((load path).on h).1 = .error f := by
    obtain ⟨h', hon, -⟩ := load_on_some wanted
    rw [hon, hsettle]
  cases untyped with
  | home wanted => rw [load_on_homeless wanted]
  | directory wanted found =>
      apply of_read wanted
      rw [found]
      rfl
  | bytes wanted found noText =>
      apply of_read wanted
      rw [found]
      simp only [readFrom, readDocument, readText, noText, bind, Except.bind, settle]
  | value wanted found text noValue =>
      apply of_read wanted
      rw [found, readFrom_of_text text, noValue]
      rfl
  | names wanted found text document noNames =>
      apply of_read wanted
      rw [found, readFrom_of_text text, document]
      simp only [noNames, settle]

/-! ## Other failures are typed -/

theorem expandHome_fails {p : Path} (hexpand : expandHome h p = .error f) : f = .noHome := by
  unfold expandHome at hexpand
  split at hexpand
  · split at hexpand
    · split at hexpand
      · cases hexpand
      · cases hexpand
        rfl
    · cases hexpand
  · cases hexpand

theorem fileToRead_fails (hpath : fileToRead h path = .error f) : f = .noHome := by
  unfold fileToRead at hpath
  split at hpath
  · cases hpath
  · next s _ =>
    cases hexpand : expandHome h (Path.ofText s) with
    | error g =>
        rw [hexpand] at hpath
        cases hpath
        exact expandHome_fails hexpand
    | ok p =>
        rw [hexpand] at hpath
        cases hpath
  · cases hpath

theorem ofDocument_fails {path : Path} {d : Yaml.Document}
    (hdocument : ofDocument path d = .error f) :
    f = .badSettingsText path ∨ f = .settingsNotMap path := by
  unfold ofDocument at hdocument
  split at hdocument
  · cases hdocument
  · cases hdocument
    exact .inl rfl
  · split at hdocument
    · cases hdocument
    · split at hdocument
      · cases hdocument
      · cases hdocument
        exact .inr rfl

/-- What reading the file comes to is typed, or one of the untyped failures follows. -/
def ReadsTyped (path : Option Path) (h : Host) : Except Failure (GivenSettings × Bool) → Prop
  | .error f => f.family? = some .configuration ∨ Untyped path h f
  | .ok (_, areNamed) => areNamed = true ∨ Untyped path h .settingsKeys

theorem readsTyped_of_file {p : Path} {place : Location} {bytes : Bytes}
    (wanted : fileToRead h path = .ok (some p)) (found : h.files.status p = .file place bytes) :
    ReadsTyped path h (readFrom p (.file place bytes)) := by
  cases hportions : Text.readPortions bytes.toByteList with
  | error why =>
      simp only [readFrom, readDocument, readText, hportions, bind, Except.bind]
      exact .inr (.bytes wanted found hportions)
  | ok cs =>
      have text := Text.readPortions_eq_ok_iff.mp hportions
      rw [readFrom_of_text text]
      rcases hdocument : Yaml.Document.read (Text.unifyBreaks cs) with (_ | why) | d
      · exact .inl rfl
      · exact .inr (.value wanted found text hdocument)
      · change ReadsTyped path h (ofDocument p d)
        rcases hgiven : ofDocument p d with f | ⟨given, _ | _⟩
        · rcases ofDocument_fails hgiven with rfl | rfl
          · exact .inl rfl
          · exact .inl rfl
        · exact .inr (.names wanted found text hdocument hgiven)
        · exact .inl rfl

theorem readsTyped {p : Path} (wanted : fileToRead h path = .ok (some p)) :
    ReadsTyped path h (readFrom p (h.files.status p)) := by
  cases found : h.files.status p with
  | file place bytes => exact readsTyped_of_file wanted found
  | directory => exact .inr (.directory wanted found)
  | missing => exact .inl rfl
  | belowFile => exact .inl rfl

theorem settle_fails {place : Option Path} {environment : GivenSettings}
    {read : Except Failure (GivenSettings × Bool)} (typed : ReadsTyped path h read)
    (hsettle : settle place environment read = .error f) :
    f.family? = some .configuration ∨ Untyped path h f := by
  rcases read with g | ⟨given, _ | _⟩
  · cases hsettle
    exact typed
  · cases hsettle
    exact .inr (typed.resolve_left nofun)
  · rw [settle] at hsettle
    split at hsettle
    · cases hsettle
    · cases hsettle
      exact .inl rfl

theorem load_fails_or (hload : ((load path).on h).1 = .error f) :
    f.family? = some .configuration ∨ Untyped path h f := by
  rcases wanted : fileToRead h path with g | _ | p
  · rw [load_on_homeless wanted] at hload
    cases hload
    cases fileToRead_fails wanted
    exact .inr (.home wanted)
  · rw [load_on_none wanted] at hload
    have typed : ReadsTyped path h (.ok ([], true)) := .inl rfl
    exact settle_fails typed hload
  · obtain ⟨h', hon, -⟩ := load_on_some wanted
    rw [hon] at hload
    exact settle_fails (readsTyped wanted) hload

/-- A failure is of the family of settings if it is typed. -/
def Fails (f : Failure) : Prop :=
  f.isTyped = true → f.family? = some .configuration

theorem load_fails (hload : (load path).on h = (.error f, h')) : Fails f := by
  rcases load_fails_or (congrArg Prod.fst hload) with typed | untyped
  · exact fun _ => typed
  · intro hf
    rw [Failure.isTyped, untyped.family] at hf
    cases hf

/-! ## When loading fails as it should -/

end BytecodeViewer.Settings
