import BytecodeViewer.Proofs.Session.TempCopy
import BytecodeViewer.Proofs.Settings.LoadingFailure
import BytecodeViewer.Proofs.Text.Trimming

/-!
# What wins over what

The settings of a file stand at its top or in a section of their own, and what the environment
sets takes their place.  So what a file says of such a setting does not matter, be it acceptable
or not.
-/

namespace BytecodeViewer.Settings

variable {path : Option Path} {h k : Host} {p : Path}

/-! ## What is given for the settings -/

def settingNames : List String :=
  ["default_language", "class_options", "font_family", "font_size", "theme", "parser"]

/-- What is given for settings, by their names. -/
abbrev Fields := String → Option SettingValue

/-- Checks what is given for each of the settings. -/
def validated (fields : Fields) : Checked Settings :=
  ofGiven (settingNames.filterMap fun name => (fields name).map fun v => (name, v))

variable {fields fields' : Fields} {given given' : GivenSettings}

theorem lookup_filterMap (fields : Fields) (names : List String) (name : String) :
    (names.filterMap fun n => (fields n).map fun v => (n, v)).lookup name =
      if name ∈ names then fields name else none := by
  induction names with
  | nil => rfl
  | cons first names ih =>
      by_cases hname : name = first
      · subst hname
        cases hfield : fields name with
        | none => simp [hfield, ih]
        | some v => simp [hfield]
      · cases hfield : fields first with
        | none => simp [hfield, ih, hname]
        | some v => simp [hfield, ih, hname, List.lookup_cons, beq_false_of_ne hname]

theorem check_congr {α : Type} {field : String} {usual : α}
    {accept : SettingValue → Except IssueCause α}
    (same : given.lookup field = given'.lookup field) :
    check given field usual accept = check given' field usual accept := by
  rw [check, check, same]

theorem checkSections_congr
    (same : given.lookup sectionsField = given'.lookup sectionsField) :
    checkSections given = checkSections given' := by
  rw [checkSections, checkSections, same]

/-- Only what is given for the settings matters, whatever else is given.  A text for the font
size may be replaced by one that is accepted as the same number. -/
theorem ofGiven_congr
    (same : ∀ name ∈ settingNames, name ≠ "font_size" → given.lookup name = given'.lookup name)
    (size : check given "font_size" 12 (·.acceptIntWithin 6 72) =
      check given' "font_size" 12 (·.acceptIntWithin 6 72)) : ofGiven given = ofGiven given' := by
  have hlanguage := same "default_language" (by decide) (by decide)
  have hsections := same sectionsField (by decide) (by decide)
  have hfamily := same "font_family" (by decide) (by decide)
  have htheme := same "theme" (by decide) (by decide)
  have hparser := same "parser" (by decide) (by decide)
  simp only [ofGiven, check_congr hlanguage, checkSections_congr hsections, check_congr hfamily,
    size, check_congr htheme, check_congr hparser]

theorem ofGiven_eq_validated (same : ∀ name ∈ settingNames, given.lookup name = fields name) :
    ofGiven given = validated fields := by
  have hlookup : ∀ name ∈ settingNames, given.lookup name =
      (settingNames.filterMap fun n => (fields n).map fun v => (n, v)).lookup name := by
    intro name hname
    rw [lookup_filterMap, if_pos hname, same name hname]
  exact ofGiven_congr (fun name hname _ => hlookup name hname)
    (check_congr (hlookup "font_size" (by decide)))

theorem validated_congr (same : ∀ name ∈ settingNames, fields name = fields' name) :
    validated fields = validated fields' := by
  refine ofGiven_eq_validated fun name hname => ?_
  rw [lookup_filterMap, if_pos hname, same name hname]

/-! ## The environment -/

/-- The text that the environment has for the font size, if it is not blank. -/
def fontSizeText? (h : Host) : Option String :=
  (h.environment.lookup "DV_FONT_SIZE").filter (!Text.isAllBlank ·)

/-- What the environment sets a setting to, if it is `size` for the font size. -/
def override? (h : Host) (size : Option String) (name : String) : Option String :=
  if name = "default_language" then h.environmentText? "DV_DEFAULT_LANGUAGE"
  else if name = "font_size" then size
  else if name = "theme" then h.environmentText? "DV_THEME"
  else if name = "parser" then h.environmentText? "DV_PARSER"
  else none

/-- What the environment sets takes the place of what else is given. -/
def overridden (h : Host) (size : Option String) (fields : Fields) : Fields := fun name =>
  ((override? h size name).map .text).or (fields name)

theorem override?_congr (e : k.environment = h.environment) (size : Option String) :
    override? k size = override? h size := by
  funext name
  simp only [override?, Host.environmentText?, e]

theorem fontSizeText?_congr (e : k.environment = h.environment) :
    fontSizeText? k = fontSizeText? h := by
  rw [fontSizeText?, fontSizeText?, e]

/-- The blanks around the font size do not count. -/
theorem filter_trim_environmentText? (h : Host) :
    ((h.environmentText? "DV_FONT_SIZE").map Text.trim).filter (· != "") =
      (fontSizeText? h).map Text.trim := by
  rw [fontSizeText?, Host.environmentText?]
  cases hset : h.environment.lookup "DV_FONT_SIZE" with
  | none => rfl
  | some s =>
      by_cases hempty : s = ""
      · subst hempty
        rfl
      · cases hblank : Text.isAllBlank s with
        | true => simp [Option.filter_some, hempty, hblank, Text.trim_eq_empty_iff.mpr hblank]
        | false =>
            have htrim : Text.trim s ≠ "" := by
              rw [ne_eq, Text.trim_eq_empty_iff, hblank]
              exact Bool.false_ne_true
            simp [Option.filter_some, hempty, hblank, htrim]

theorem ofEnvironment_eq_overrides (h : Host) : ofEnvironment h =
    ["default_language", "font_size", "theme", "parser"].filterMap fun name =>
      ((override? h ((fontSizeText? h).map Text.trim) name).map .text).map fun v => (name, v) := by
  rw [ofEnvironment, filter_trim_environmentText?]
  simp [override?, List.filterMap_cons, Function.comp_def]

/-- The environment comes first. -/
theorem lookup_ofEnvironment_append (h : Host) (given : GivenSettings) (name : String) :
    (ofEnvironment h ++ given).lookup name =
      overridden h ((fontSizeText? h).map Text.trim) (fun n => given.lookup n) name := by
  rw [List.lookup_append, ofEnvironment_eq_overrides, lookup_filterMap fun name =>
    (override? h ((fontSizeText? h).map Text.trim) name).map .text, overridden]
  split
  · rfl
  · next hname =>
    simp only [List.mem_cons, List.not_mem_nil, or_false, not_or] at hname
    simp [override?, hname]

theorem override?_map_eq_none {size : Option String} {change : String → String} {name : String} :
    override? h (size.map change) name = none ↔ override? h size name = none := by
  unfold override?
  split
  · rfl
  · split
    · exact Option.map_eq_none_iff
    · rfl

/-- What is given for a setting that the environment sets does not matter. -/
theorem overridden_congr {size : Option String}
    (unset : ∀ name ∈ settingNames, override? h size name = none → fields name = fields' name) :
    ∀ name ∈ settingNames, overridden h size fields name = overridden h size fields' name := by
  intro name hname
  rw [overridden, overridden]
  cases hset : override? h size name with
  | some s => rfl
  | none => rw [unset name hname hset]

/-! ## The font size -/

/-- Some character is one of the four separators, which are no white space in numbers. -/
def hasSeparator (s : String) : Bool :=
  s.toList.any fun c => 0x1C ≤ c.toNat && c.toNat ≤ 0x1F

theorem wholeOfText_trim {s : String} (plain : hasSeparator s = false) :
    SettingValue.wholeOfText (Text.trim s) = SettingValue.wholeOfText s := by
  have same : ∀ c ∈ s.toList, SettingValue.isOuterBlank c = Text.isBlank c := by
    intro c hc
    have hbounds : (decide (0x1C ≤ c.toNat) && decide (c.toNat ≤ 0x1F)) = false :=
      Bool.eq_false_iff.mpr (List.any_eq_false.mp plain c hc)
    rw [SettingValue.isOuterBlank, hbounds, Bool.not_false, Bool.and_true]
  -- Both checks drop the same characters of `s`, and dropping them twice is dropping them once.
  have htrim : Text.trimBy SettingValue.isOuterBlank (Text.trim s).toList =
      Text.trimBy SettingValue.isOuterBlank s.toList := by
    have hinner : ∀ c ∈ Text.trimBy Text.isBlank s.toList,
        SettingValue.isOuterBlank c = Text.isBlank c := fun c hc =>
      same c (Text.trimBy_subset hc)
    rw [Text.toList_trim, Text.trimBy_congr hinner, Text.trimBy_trimBy, Text.trimBy_congr same]
  rw [SettingValue.wholeOfText, SettingValue.wholeOfText, htrim]

theorem acceptIntWithin_trim {s : String} (plain : hasSeparator s = false) (least greatest : Int) :
    (SettingValue.text (Text.trim s)).acceptIntWithin least greatest =
      (SettingValue.text s).acceptIntWithin least greatest := by
  rw [SettingValue.acceptIntWithin, SettingValue.acceptIntWithin, SettingValue.acceptInt,
    SettingValue.acceptInt, wholeOfText_trim plain]

theorem overridden_fontSize (h : Host) (size : Option String) (fields : Fields) :
    overridden h size fields "font_size" = (size.map .text).or (fields "font_size") := rfl

/-- Without such a character, it does not matter whether the font size of the environment is
checked with the white space around it. -/
theorem validated_overridden_trim (h : Host) (fields : Fields)
    (plain : ∀ s, fontSizeText? h = some s → hasSeparator s = false) :
    validated (overridden h ((fontSizeText? h).map Text.trim) fields) =
      validated (overridden h (fontSizeText? h) fields) := by
  refine ofGiven_congr ?_ ?_
  · intro name hname hsize
    rw [lookup_filterMap, lookup_filterMap, if_pos hname, if_pos hname, overridden, overridden,
      override?, override?, if_neg hsize, if_neg hsize]
  · have hname : "font_size" ∈ settingNames := by decide
    rw [check, check, lookup_filterMap, lookup_filterMap, if_pos hname, if_pos hname,
      overridden_fontSize, overridden_fontSize]
    cases hset : fontSizeText? h with
    | none => rfl
    | some s =>
        rw [Option.map_some, Option.map_some, Option.some_or, Option.map_some, Option.some_or]
        simp only [acceptIntWithin_trim (plain s hset)]

/-! ## Files -/

/-- Entries all of which have names. -/
def allNamed (entries : List (String × Yaml.NodeId)) : NamedEntries :=
  entries.map fun (name, v) => (some name, v)

/-- A node is a mapping whose keys are names. -/
def Named (g : Yaml.Graph) (id : Yaml.NodeId) (entries : List (String × Yaml.NodeId)) : Prop :=
  ∃ es, g.value id = .ok (.map es) ∧ namedEntries g es = allNamed entries

/-- What the entries of a mapping give; of entries with the same name the last one counts. -/
def valueIn (g : Yaml.Graph) (entries : List (String × Yaml.NodeId)) : Fields := fun name =>
  (entries.reverse.lookup name).map (valueOf g)

/-- Where the settings stand in a document: at its top, in the section of their own, or nowhere,
when something else is in the place of the section. -/
inductive Standing
  | top
  | nested
  | absent

/-- The document is a mapping of names, and gives these settings, which stand there. -/
inductive Gives (d : Yaml.Document) : Standing → Fields → Prop
  | top {id : Yaml.NodeId} {entries : List (String × Yaml.NodeId)} (root : d.root = some id)
      (named : Named d.graph id entries) (whole : entries.reverse.lookup "viewer" = none) :
      Gives d .top (valueIn d.graph entries)
  | nested {id v : Yaml.NodeId} {entries inner : List (String × Yaml.NodeId)}
      (root : d.root = some id) (named : Named d.graph id entries)
      (own : entries.reverse.lookup "viewer" = some v) (within : Named d.graph v inner) :
      Gives d .nested (valueIn d.graph inner)
  | absent {id v : Yaml.NodeId} {entries : List (String × Yaml.NodeId)} (root : d.root = some id)
      (named : Named d.graph id entries) (own : entries.reverse.lookup "viewer" = some v)
      (other : ∀ es, d.graph.value v ≠ .ok (.map es)) : Gives d .absent (fun _ => none)

variable {d d' : Yaml.Document} {standing standing' : Standing}

/-- No mapping of names is left out, if its section, should it have one, is one too. -/
theorem exists_gives {id : Yaml.NodeId} {entries : List (String × Yaml.NodeId)}
    (root : d.root = some id) (named : Named d.graph id entries)
    (within : ∀ v es, entries.reverse.lookup "viewer" = some v → d.graph.value v = .ok (.map es) →
      ∃ inner, Named d.graph v inner) : ∃ standing fields, Gives d standing fields := by
  cases hown : entries.reverse.lookup "viewer" with
  | none => exact ⟨_, _, .top root named hown⟩
  | some v =>
      by_cases hmap : ∃ es, d.graph.value v = .ok (.map es)
      · obtain ⟨es, hes⟩ := hmap
        obtain ⟨inner, hinner⟩ := within v es hown hes
        exact ⟨_, _, .nested root named hown hinner⟩
      · exact ⟨_, _, .absent root named hown fun es hes => hmap ⟨es, hes⟩⟩

theorem lookup_map_entries {κ β : Type} [BEq κ] [LawfulBEq κ] {key : String → κ}
    (injective : Function.Injective key) (value : Yaml.NodeId → β)
    (entries : List (String × Yaml.NodeId)) (name : String) :
    (entries.map fun (n, v) => (key n, value v)).lookup (key name) =
      (entries.lookup name).map value := by
  induction entries with
  | nil => rfl
  | cons entry entries ih =>
      obtain ⟨n, v⟩ := entry
      by_cases hname : name = n
      · subst hname
        simp
      · rw [List.map_cons, List.lookup_cons, List.lookup_cons, ih,
          beq_false_of_ne (injective.ne hname), beq_false_of_ne hname]

theorem last?_allNamed (entries : List (String × Yaml.NodeId)) (name : String) :
    (allNamed entries).last? name = entries.reverse.lookup name := by
  rw [NamedEntries.last?, allNamed, ← List.map_reverse]
  exact (lookup_map_entries (fun _ _ => Option.some.inj) id _ name).trans Option.map_id_apply

theorem sectionOf_top {g : Yaml.Graph} {entries : List (String × Yaml.NodeId)}
    (whole : entries.reverse.lookup "viewer" = none) :
    sectionOf g (allNamed entries) = allNamed entries := by
  rw [sectionOf, last?_allNamed, whole]

theorem sectionOf_nested {g : Yaml.Graph} {v : Yaml.NodeId}
    {entries inner : List (String × Yaml.NodeId)}
    (own : entries.reverse.lookup "viewer" = some v) (within : Named g v inner) :
    sectionOf g (allNamed entries) = allNamed inner := by
  obtain ⟨es, hmap, hnames⟩ := within
  simp only [sectionOf, last?_allNamed, own, hmap, hnames]

theorem sectionOf_absent {g : Yaml.Graph} {v : Yaml.NodeId}
    {entries : List (String × Yaml.NodeId)} (own : entries.reverse.lookup "viewer" = some v)
    (other : ∀ es, g.value v ≠ .ok (.map es)) :
    sectionOf g (allNamed entries) = [] := by
  rw [sectionOf, last?_allNamed, own]
  cases hv : g.value v with
  | error e => simp only [hv]
  | ok value =>
      cases value <;> simp only [hv]
      exact absurd hv (other _)

/-- What a section whose keys are names gives. -/
def givenIn (g : Yaml.Graph) (entries : List (String × Yaml.NodeId)) : GivenSettings :=
  entries.reverse.map fun (name, v) => (name, valueOf g v)

theorem lookup_givenIn (g : Yaml.Graph) (entries : List (String × Yaml.NodeId)) (name : String) :
    (givenIn g entries).lookup name = valueIn g entries name :=
  lookup_map_entries Function.injective_id (valueOf g) _ name

theorem ofDocument_of_section {id : Yaml.NodeId} {entries found : List (String × Yaml.NodeId)}
    (root : d.root = some id) (named : Named d.graph id entries)
    (hsection : sectionOf d.graph (allNamed entries) = allNamed found) :
    ofDocument p d = .ok (givenIn d.graph found, true) := by
  obtain ⟨es, hmap, hnames⟩ := named
  rw [← hnames] at hsection
  -- An empty mapping counts as nothing, so that no section is looked for in it.
  cases es with
  | nil =>
      have hfound : found = [] := List.map_eq_nil_iff.mp hsection.symm
      simp [ofDocument, root, hmap, isNothing, hfound, givenIn]
  | cons e es =>
      simp [ofDocument, root, hmap, isNothing, hsection, allNamed, givenIn, ← List.map_reverse,
        List.filterMap_map, Function.comp_def]

theorem ofDocument_of_gives (gives : Gives d standing fields) :
    ∃ given, ofDocument p d = .ok (given, true) ∧ ∀ name, given.lookup name = fields name := by
  cases gives with
  | top root named whole =>
      exact ⟨_, ofDocument_of_section root named (sectionOf_top whole), lookup_givenIn _ _⟩
  | nested root named own within =>
      exact ⟨_, ofDocument_of_section root named (sectionOf_nested own within), lookup_givenIn _ _⟩
  | absent root named own other =>
      exact ⟨givenIn d.graph [], ofDocument_of_section root named (sectionOf_absent own other),
        fun _ => rfl⟩

/-- The settings are to be read from a file, and this is the document in it. -/
structure Holds (path : Option Path) (h : Host) (p : Path) (d : Yaml.Document) : Prop where
  wanted : fileToRead h path = .ok (some p)
  readable : ∃ place bytes cs, h.files.status p = .file place bytes ∧
    Text.readUtf8 bytes.toByteList = .ok cs ∧ Yaml.Document.read (Text.unifyBreaks cs) = .ok d

/-- Loading the settings comes to checking what is given, of which the environment replaces its
own, with `size` for the font size. -/
def LoadsAs (path : Option Path) (h : Host) (p : Path) (size : Option String) (fields : Fields) :
    Prop :=
  ((load path).on h).1 = (validated (overridden h size fields)).mapError (.badSettings (some p))

theorem Holds.loadsAs (holds : Holds path h p d) (gives : Gives d standing fields) :
    LoadsAs path h p ((fontSizeText? h).map Text.trim) fields := by
  obtain ⟨place, bytes, cs, found, text, document⟩ := holds.readable
  obtain ⟨given, hgiven, hfields⟩ := ofDocument_of_gives gives
  have hread : readFrom p (h.files.status p) = .ok (given, true) := by
    rw [found, readFrom_of_text text, document]
    exact hgiven
  have hvalid : ofGiven (ofEnvironment h ++ given) =
      validated (overridden h ((fontSizeText? h).map Text.trim) fields) := by
    refine ofGiven_eq_validated fun name _ => ?_
    rw [lookup_ofEnvironment_append, overridden, overridden, hfields]
  obtain ⟨h', hon, -⟩ := load_on_some holds.wanted
  rw [LoadsAs, hon, hread, settle, hvalid]
  cases validated (overridden h ((fontSizeText? h).map Text.trim) fields) <;> rfl

/-- Whatever else the files give, the same settings that are not set by the environment come to
the same. -/
theorem Holds.load_congr (holds : Holds path h p d) (gives : Gives d standing fields)
    (holds' : Holds path k p d') (gives' : Gives d' standing' fields')
    (e : k.environment = h.environment)
    (unset : ∀ name ∈ settingNames, override? h (fontSizeText? h) name = none →
      fields' name = fields name) : ((load path).on k).1 = ((load path).on h).1 := by
  have hsame : overridden k ((fontSizeText? k).map Text.trim) fields' =
      overridden h ((fontSizeText? h).map Text.trim) fields' := by
    funext name
    rw [overridden, overridden, override?_congr e, fontSizeText?_congr e]
  have hvalid : validated (overridden h ((fontSizeText? h).map Text.trim) fields') =
      validated (overridden h ((fontSizeText? h).map Text.trim) fields) :=
    validated_congr (overridden_congr fun name hname hset =>
      unset name hname (override?_map_eq_none.mp hset))
  rw [holds'.loadsAs gives', hsame, hvalid, holds.loadsAs gives]

/-- Settings of a file are checked after those that the environment sets have taken their place.
The text for the font size is trimmed, which does not matter unless it has a separator in it.  So
nothing matters but what is given for the other settings: not what they replace, and no other
entries.  Nor does it matter whether the settings are in a section of their own. -/
theorem load_precedence (holds : Holds path h p d) (gives : Gives d standing fields) :
    LoadsAs path h p ((fontSizeText? h).map Text.trim) fields ∧
    ((∀ s, fontSizeText? h = some s → hasSeparator s = false) →
      LoadsAs path h p (fontSizeText? h) fields) ∧
    (∀ (k : Host) (d' : Yaml.Document) (standing' : Standing) (fields' : Fields),
      Holds path k p d' → Gives d' standing' fields' → k.environment = h.environment →
      (∀ name ∈ settingNames, override? h (fontSizeText? h) name = none →
        fields' name = fields name) →
      ((load path).on k).1 = ((load path).on h).1) ∧
    (standing = .top → ∀ (k : Host) (d' : Yaml.Document), Holds path k p d' →
      Gives d' .nested fields → k.environment = h.environment →
      ((load path).on k).1 = ((load path).on h).1) := by
  refine ⟨holds.loadsAs gives, ?_, ?_, ?_⟩
  · intro plain
    rw [LoadsAs, ← validated_overridden_trim h fields plain]
    exact holds.loadsAs gives
  · intro k d' standing' fields' holds' gives' e unset
    exact holds.load_congr gives holds' gives' e unset
  · intro _ k d' holds' gives' e
    exact holds.load_congr gives holds' gives' e fun _ _ _ => rfl

/-! ## A theme that is a number -/

/-- The file `v` has this text, and the environment sets a theme and this font size. -/
def themedHost (text size : String) : Host where
  files := .ofList [(⟨"", ["v"]⟩, some (.ofText text))]
  environment := [("DV_THEME", "dark"), ("DV_FONT_SIZE", size)]

theorem read_eq_ok {text : List Char} {g : Yaml.Graph} {root : Option Yaml.NodeId}
    (hread : (Yaml.Document.read text).toOption.map (fun d => (d.graph, d.root)) =
      some (g, root)) : Yaml.Document.read text = .ok ⟨g, root⟩ := by
  obtain ⟨d, hd, heq⟩ := Option.map_eq_some_iff.mp hread
  cases heq
  exact eq_ok_of_toOption hd

theorem holds_themedHost {text size : String} {g : Yaml.Graph} {root : Option Yaml.NodeId}
    (legible : (Text.readUtf8 (Bytes.ofText text).toByteList).toOption = some text.toList)
    (readable : (Yaml.Document.read (Text.unifyBreaks text.toList)).toOption.map
      (fun d => (d.graph, d.root)) = some (g, root)) :
    Holds (some ⟨"", ["v"]⟩) (themedHost text size) ⟨"", ["v"]⟩ ⟨g, root⟩ where
  wanted := rfl
  readable := ⟨_, _, _, rfl, eq_ok_of_toOption legible, read_eq_ok readable⟩

/-- The document of `theme: 5`. -/
def topTheme : Yaml.Document where
  graph := #[⟨.mapping, .mapping [(1, 2)]⟩, ⟨.text, .scalar "theme"⟩, ⟨.int, .scalar "5"⟩]
  root := some 0

/-- The document of `viewer: 5`. -/
def strayViewer : Yaml.Document where
  graph := #[⟨.mapping, .mapping [(1, 2)]⟩, ⟨.text, .scalar "viewer"⟩, ⟨.int, .scalar "5"⟩]
  root := some 0

/-- The document that has `theme: 5` below `viewer`. -/
def nestedTheme : Yaml.Document where
  graph := #[⟨.mapping, .mapping [(1, 2)]⟩, ⟨.text, .scalar "viewer"⟩,
    ⟨.mapping, .mapping [(3, 4)]⟩, ⟨.text, .scalar "theme"⟩, ⟨.int, .scalar "5"⟩]
  root := some 0

theorem holds_topTheme (size : String) :
    Holds (some ⟨"", ["v"]⟩) (themedHost "theme: 5\n" size) ⟨"", ["v"]⟩ topTheme :=
  holds_themedHost (by decide +kernel) (by decide +kernel)

theorem gives_topTheme : Gives topTheme .top (valueIn topTheme.graph [("theme", 2)]) :=
  .top rfl ⟨[(1, 2)], rfl, rfl⟩ rfl

theorem holds_strayViewer (size : String) :
    Holds (some ⟨"", ["v"]⟩) (themedHost "viewer: 5\n" size) ⟨"", ["v"]⟩ strayViewer :=
  holds_themedHost (by decide +kernel) (by decide +kernel)

theorem gives_strayViewer : Gives strayViewer .absent (fun _ => none) := by
  have named : Named strayViewer.graph 0 [("viewer", 2)] := ⟨[(1, 2)], rfl, rfl⟩
  have hvalue : strayViewer.graph.value 2 = .ok (.scalar (.int 5)) := rfl
  refine .absent rfl named rfl ?_
  intro es hes
  cases hvalue.symm.trans hes

theorem holds_nestedTheme (size : String) :
    Holds (some ⟨"", ["v"]⟩) (themedHost "viewer:\n  theme: 5\n" size) ⟨"", ["v"]⟩ nestedTheme :=
  holds_themedHost (by decide +kernel) (by decide +kernel)

theorem gives_nestedTheme : Gives nestedTheme .nested (valueIn topTheme.graph [("theme", 2)]) := by
  have hfields : valueIn nestedTheme.graph [("theme", 4)] =
      valueIn topTheme.graph [("theme", 2)] := by
    funext name
    rw [← lookup_givenIn, ← lookup_givenIn]
    rfl
  have named : Named nestedTheme.graph 0 [("viewer", 2)] := ⟨[(1, 2)], rfl, rfl⟩
  rw [← hfields]
  exact .nested rfl named rfl ⟨[(3, 4)], rfl, rfl⟩

/-- The theme of the file is replaced, so that it does not matter that it is no text. -/
theorem load_precedence_themed :
    ((load (some ⟨"", ["v"]⟩)).on (themedHost "theme: 5\n" " 14 ")).1 =
      .ok { fontSize := 14, theme := some "dark" } ∧
    LoadsAs (some ⟨"", ["v"]⟩) (themedHost "theme: 5\n" " 14 ") ⟨"", ["v"]⟩ (some " 14 ")
      (valueIn topTheme.graph [("theme", 2)]) ∧
    ((load (some ⟨"", ["v"]⟩)).on (themedHost "viewer: 5\n" " 14 ")).1 =
      .ok { fontSize := 14, theme := some "dark" } ∧
    ((load (some ⟨"", ["v"]⟩)).on (themedHost "viewer:\n  theme: 5\n" " 14 ")).1 =
      .ok { fontSize := 14, theme := some "dark" } := by
  obtain ⟨trimmed, raw, unset, nested⟩ :=
    load_precedence (holds_topTheme " 14 ") gives_topTheme
  have hvalid : (validated (overridden (themedHost "theme: 5\n" " 14 ") (some "14")
      (valueIn topTheme.graph [("theme", 2)]))).toOption =
      some { fontSize := 14, theme := some "dark" } := by
    decide +kernel
  have loads : ((load (some ⟨"", ["v"]⟩)).on (themedHost "theme: 5\n" " 14 ")).1 =
      .ok { fontSize := 14, theme := some "dark" } := by
    have hsize : (fontSizeText? (themedHost "theme: 5\n" " 14 ")).map Text.trim = some "14" := by
      decide +kernel
    rw [trimmed, hsize, eq_ok_of_toOption hvalid]
    rfl
  have hset : fontSizeText? (themedHost "theme: 5\n" " 14 ") = some " 14 " := by decide +kernel
  refine ⟨loads, ?_, ?_, ?_⟩
  · rw [← hset]
    refine raw fun s hs => ?_
    cases hset.symm.trans hs
    decide +kernel
  · refine (unset _ _ _ _ (holds_strayViewer " 14 ") gives_strayViewer rfl ?_).trans loads
    intro name _ hunset
    by_cases htheme : name = "theme"
    · subst htheme
      cases hunset
    · simp [valueIn, List.lookup_cons, beq_false_of_ne htheme]
  · exact (nested rfl _ _ (holds_nestedTheme " 14 ") gives_nestedTheme rfl).trans loads

/-- A separator before the font size is dropped, with which it is not accepted. -/
theorem separated_not_loadsAs :
    Holds (some ⟨"", ["v"]⟩) (themedHost "theme: 5\n" "\x1c12") ⟨"", ["v"]⟩ topTheme ∧
    Gives topTheme .top (valueIn topTheme.graph [("theme", 2)]) ∧
    ¬LoadsAs (some ⟨"", ["v"]⟩) (themedHost "theme: 5\n" "\x1c12") ⟨"", ["v"]⟩
      (fontSizeText? (themedHost "theme: 5\n" "\x1c12"))
      (valueIn topTheme.graph [("theme", 2)]) := by
  refine ⟨holds_topTheme _, gives_topTheme, ?_⟩
  intro raw
  have trimmed := (holds_topTheme "\x1c12").loadsAs gives_topTheme
  have hsame := congrArg Except.isOk (trimmed.symm.trans raw)
  revert hsame
  decide +kernel

end BytecodeViewer.Settings
