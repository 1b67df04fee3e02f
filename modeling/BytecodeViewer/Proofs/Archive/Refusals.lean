import BytecodeViewer.Proofs.Archive.Contents

/-!
# Archives that are refused

Reading an entry of an archive fails because the archive is damaged, or because it is
refused for something else: it asks for what is not supported, names and packed data are
corrupt, or the data ends too early.
-/

namespace BytecodeViewer.Archive

variable {b directory data : Bytes} {r : EndRecord} {e : Entry} {f : ArchiveFault}
  {place next last size fuel : Nat}

/-! ## The directory -/

theorem readName_fails {flags : Nat} {bytes : Bytes} (h : readName flags bytes = .error f) :
    ∃ why, f = .nameEncoding why := by
  unfold readName at h
  split at h
  · split at h
    · cases h
    · cases h
      exact ⟨_, rfl⟩
  · cases h

theorem takeWide_fails {name : String} (h : takeWide name data = .error f) :
    f.isDamage = true := by
  unfold takeWide at h
  split at h <;> cases h
  rfl

theorem widen_fails (h : widen e data = .error f) : f.isDamage = true := by
  simp only [widen, bind_eq_match, pure_eq_ok] at h
  -- only taking one of the three wide fields fails
  repeat' split at h
  all_goals cases h
  all_goals exact takeWide_fails ‹_›

theorem readExtraFields_fails (h : readExtraFields fuel e data = .error f) :
    f.isDamage = true := by
  induction fuel generalizing e data with
  | zero => cases h
  | succ fuel ih =>
      simp only [readExtraFields, bind_eq_match, pure_eq_ok, throw_eq_error] at h
      split at h
      · cases h
      · split at h
        · cases h
          rfl
        · split at h
          · split at h
            · next hwiden =>
              cases h
              exact widen_fails hwiden
            · exact ih h
          · exact ih h

/-- An entry of a directory stands in a place as a whole. -/
structure EntryAt (directory : Bytes) (place : Nat) : Prop where
  whole : place + entrySize ≤ directory.size
  mark : directory.hasAt place entryMark = true

def listedName (directory : Bytes) (place : Nat) : Except ArchiveFault String :=
  readName (directory.number (place + 8) 2)
    (directory.slice (place + entrySize) (directory.number (place + 28) 2))

def neededVersion (directory : Bytes) (place : Nat) : Nat :=
  directory.number (place + 6) 1

/-- What an entry is refused for where the directory lists it. -/
inductive ListingRefused (directory : Bytes) (place : Nat) : ArchiveFault → Prop
  | name {why : Text.Utf8Fault} (entry : EntryAt directory place)
      (corrupt : listedName directory place = .error (.nameEncoding why)) :
      ListingRefused directory place (.nameEncoding why)
  | version {name : String} (entry : EntryAt directory place)
      (legible : listedName directory place = .ok name)
      (newer : highestVersion < neededVersion directory place) :
      ListingRefused directory place (.version (neededVersion directory place))

theorem ListingRefused.readEntry (refused : ListingRefused directory place f) :
    readEntry directory place = .error f := by
  cases refused with
  | name entry corrupt =>
      have hwhole := Nat.not_lt.mpr entry.whole
      unfold listedName at corrupt
      simp [Archive.readEntry, hwhole, entry.mark, corrupt, bind_eq_match]
  | version entry legible newer =>
      have hwhole := Nat.not_lt.mpr entry.whole
      unfold listedName at legible
      unfold neededVersion at newer ⊢
      simp [Archive.readEntry, hwhole, entry.mark, legible, newer, bind_eq_match, throw_eq_error]

theorem readEntry_fails (h : readEntry directory place = .error f) :
    f.isDamage = true ∨ ListingRefused directory place f := by
  simp only [readEntry, bind_eq_match, pure_eq_ok, throw_eq_error] at h
  split at h
  · cases h
    exact .inl rfl
  · next hwhole =>
    split at h
    · next hmark =>
      have entry : EntryAt directory place := ⟨Nat.not_lt.mp hwhole, hmark⟩
      split at h
      · next hname =>
        cases h
        obtain ⟨why, rfl⟩ := readName_fails hname
        exact .inr (.name entry hname)
      · next hname =>
        split at h
        · next hnewer =>
          cases h
          exact .inr (.version entry hname hnewer)
        · split at h
          · next hextra =>
            cases h
            exact .inl (readExtraFields_fails hextra)
          · cases h
    · cases h
      exact .inl rfl

theorem lt_of_readEntry (h : readEntry directory place = .ok (e, next)) : place < next := by
  simp only [readEntry, bind_eq_match, pure_eq_ok, throw_eq_error] at h
  split at h
  · cases h
  · split at h
    · split at h
      · cases h
      · split at h
        · cases h
        · split at h
          · cases h
          · cases h
            simp only [entrySize]
            omega
    · cases h

/-- Reading the entries of a directory one after the other leads to a place. -/
inductive LeadsTo (directory : Bytes) (last : Nat) : Nat → Prop
  | here : LeadsTo directory last last
  | entry {place next : Nat} {e : Entry} (read : readEntry directory place = .ok (e, next))
      (rest : LeadsTo directory last next) : LeadsTo directory last place

theorem LeadsTo.le (leads : LeadsTo directory last place) : place ≤ last := by
  induction leads with
  | here => exact Nat.le_refl _
  | entry read _ ih => exact Nat.le_trans (Nat.le_of_lt (lt_of_readEntry read)) ih

theorem readEntries_fails (h : readEntries directory size fuel place = .error f) :
    ∃ last, LeadsTo directory last place ∧ last < size ∧
      readEntry directory last = .error f := by
  induction fuel generalizing place with
  | zero => cases h
  | succ fuel ih =>
      simp only [readEntries, bind_eq_match, pure_eq_ok] at h
      split at h
      · cases h
      · next hinside =>
        split at h
        · next hread =>
          cases h
          exact ⟨place, .here, Nat.lt_of_not_le hinside, hread⟩
        · next x hread =>
          split at h
          · next hrest =>
            cases h
            obtain ⟨last, leads, hlast, hfails⟩ := ih hrest
            exact ⟨last, .entry hread leads, hlast, hfails⟩
          · cases h

/-- Every entry takes some bytes, so `fuel` does not end before the directory does. -/
theorem LeadsTo.readEntries (leads : LeadsTo directory last place) (inside : last < size)
    (fails : readEntry directory last = .error f) (hfuel : size - place < fuel) :
    readEntries directory size fuel place = .error f := by
  induction leads generalizing fuel with
  | here =>
      obtain _ | fuel := fuel
      · omega
      · simp [Archive.readEntries, Nat.not_le.mpr inside, fails, bind_eq_match]
  | @entry place next e read rest ih =>
      have hnext := lt_of_readEntry read
      have hlast := rest.le
      obtain _ | fuel := fuel
      · omega
      · have hrest := @ih fuel (by omega)
        have hplace : ¬size ≤ place := by omega
        simp [Archive.readEntries, hplace, read, hrest, bind_eq_match]

def tailSize (r : EndRecord) : Nat :=
  if r.isLarge then largeEndSize + locatorSize else 0

/-- The bytes of the directory, which may be fewer than the record at the end tells. -/
def directoryOf (b : Bytes) (r : EndRecord) : Bytes :=
  b.slice (r.place - r.directorySize - tailSize r) r.directorySize

theorem entries_eq (b : Bytes) (r : EndRecord) : entries b r =
    if r.place < r.directorySize + tailSize r then .error .directoryOffset
    else
      let start := r.place - r.directorySize - tailSize r
      let shift : Int := start - r.directoryOffset
      (readEntries (directoryOf b r) r.directorySize (r.directorySize + 1) 0).map fun listed =>
        withLimits start (listed.map fun e => { e with headerPlace := e.headerPlace + shift }) := by
  simp only [entries, bind_eq_match, pure_eq_ok, throw_eq_error]
  rfl

theorem entries_fails (h : entries b r = .error f) : f.isDamage = true ∨
    r.directorySize + tailSize r ≤ r.place ∧
      readEntries (directoryOf b r) r.directorySize (r.directorySize + 1) 0 = .error f := by
  rw [entries_eq] at h
  split at h
  · cases h
    exact .inl rfl
  · next hroom =>
    cases hread : readEntries (directoryOf b r) r.directorySize (r.directorySize + 1) 0 with
    | error g =>
        rw [hread] at h
        cases h
        exact .inr ⟨Nat.not_lt.mp hroom, rfl⟩
    | ok listed =>
        rw [hread] at h
        cases h

/-! ## The data -/

/-- The header of an entry stands as a whole where the directory says. -/
structure HeaderAt (b : Bytes) (e : Entry) (place : Nat) : Prop where
  listed : e.headerPlace = place
  told : (place : Int) < placeBound
  whole : place + headerSize ≤ b.size
  mark : b.hasAt place headerMark = true

def ownName (b : Bytes) (place : Nat) : Except ArchiveFault String :=
  readName (b.number (place + 6) 2) (b.slice (place + headerSize) (b.number (place + 26) 2))

def dataStart (b : Bytes) (place : Nat) : Nat :=
  min b.size (place + headerSize + b.number (place + 26) 2 + b.number (place + 28) 2)

/-- What an entry is refused for when its data is wanted. -/
inductive DataRefused (b : Bytes) (e : Entry) : ArchiveFault → Prop
  | place (far : e.headerPlace < -placeBound ∨ placeBound ≤ e.headerPlace) :
      DataRefused b e .placeTooLarge
  | patched {place : Nat} (header : HeaderAt b e place) (patched : e.isPatched = true) :
      DataRefused b e .patchedData
  | strong {place : Nat} (header : HeaderAt b e place) (unpatched : e.isPatched = false)
      (strong : e.isStronglyEncrypted = true) : DataRefused b e .strongEncryption
  | name {place : Nat} {why : Text.Utf8Fault} (header : HeaderAt b e place)
      (unpatched : e.isPatched = false) (weak : e.isStronglyEncrypted = false)
      (corrupt : ownName b place = .error (.nameEncoding why)) :
      DataRefused b e (.nameEncoding why)
  | encrypted {place : Nat} (header : HeaderAt b e place) (unpatched : e.isPatched = false)
      (weak : e.isStronglyEncrypted = false) (named : ownName b place = .ok e.fullName)
      (room : ((dataStart b place + e.compressedSize : Nat) : Int) ≤ e.limit)
      (encrypted : e.isEncrypted = true) : DataRefused b e (.encrypted e.describe)
  | method {start : Nat} (found : dataPlace b e = .ok start)
      (unknown : e.method ∉ [0, 8, 12, 14]) : DataRefused b e .method
  | blocks {start : Nat} (found : dataPlace b e = .ok start) (sorted : e.method = 12)
      (corrupt : content e (b.slice start e.compressedSize) = .error .blocks) :
      DataRefused b e .blocks
  | ranges {start : Nat} {why : LzmaFault} (found : dataPlace b e = .ok start)
      (ranged : e.method = 14)
      (corrupt : content e (b.slice start e.compressedSize) = .error (.ranges why)) :
      DataRefused b e (.ranges why)
  | ends {start : Nat} (found : dataPlace b e = .ok start)
      (short : b.size < start + e.compressedSize)
      (wanted : content e (b.slice start e.compressedSize) = .error .dataEnds) :
      DataRefused b e .dataEnds

/-- What comes of looking for the data behind a header. -/
theorem HeaderAt.dataPlace_eq (header : HeaderAt b e place) : dataPlace b e =
    if e.isPatched then .error .patchedData
    else if e.isStronglyEncrypted then .error .strongEncryption
    else match ownName b place with
      | .error f => .error f
      | .ok name =>
        if name ≠ e.fullName then
          .error (.nameDiffers e.fullName
            (b.slice (place + headerSize) (b.number (place + 26) 2)).toByteList)
        else if e.limit < dataStart b place + e.compressedSize then .error (.overlap e.fullName)
        else if e.isEncrypted then .error (.encrypted e.describe)
        else .ok (dataStart b place) := by
  obtain ⟨listed, told, whole, mark⟩ := header
  have hnear : ¬(e.headerPlace < -placeBound ∨ placeBound ≤ e.headerPlace) := by
    unfold placeBound at *
    omega
  have hplace : ¬(place : Int) < 0 := by omega
  rw [listed] at hnear
  simp only [dataPlace, bind_eq_match, pure_eq_ok, throw_eq_error, listed, hnear, hplace,
    Int.toNat_natCast, Nat.not_lt.mpr whole, mark, if_true, if_false, ownName, dataStart]
  cases readName (b.number (place + 6) 2)
    (b.slice (place + headerSize) (b.number (place + 26) 2)) <;> rfl

/-- The header of an entry is in its place, or there is nothing more to look for. -/
theorem header_or (b : Bytes) (e : Entry) : (∃ place, HeaderAt b e place) ∨
    ∃ f, dataPlace b e = .error f ∧ (f.isDamage = true ∨ f = .seek ∨ DataRefused b e f) := by
  by_cases hfar : e.headerPlace < -placeBound ∨ placeBound ≤ e.headerPlace
  · refine .inr ⟨.placeTooLarge, ?_, .inr (.inr (.place hfar))⟩
    simp [dataPlace, hfar, bind_eq_match, throw_eq_error]
  by_cases hplace : e.headerPlace < 0
  · refine .inr ⟨.seek, ?_, .inr (.inl rfl)⟩
    simp [dataPlace, hfar, hplace, bind_eq_match, throw_eq_error]
  by_cases hwhole : b.size < e.headerPlace.toNat + headerSize
  · refine .inr ⟨.headerTruncated, ?_, .inl rfl⟩
    simp [dataPlace, hfar, hplace, hwhole, bind_eq_match, throw_eq_error]
  by_cases hmark : b.hasAt e.headerPlace.toNat headerMark = true
  · exact .inl ⟨e.headerPlace.toNat, by omega, by omega, Nat.not_lt.mp hwhole, hmark⟩
  · refine .inr ⟨.headerMagic, ?_, .inl rfl⟩
    simp [dataPlace, hfar, hplace, hwhole, hmark, bind_eq_match, throw_eq_error]

theorem dataPlace_fails (h : dataPlace b e = .error f) :
    f.isDamage = true ∨ f = .seek ∨ DataRefused b e f := by
  rcases header_or b e with ⟨place, header⟩ | ⟨g, hg, told⟩
  · rw [header.dataPlace_eq] at h
    split at h
    · next patched =>
      cases h
      exact .inr (.inr (.patched header patched))
    next unpatched =>
    rw [Bool.not_eq_true] at unpatched
    split at h
    · next strong =>
      cases h
      exact .inr (.inr (.strong header unpatched strong))
    next weak =>
    rw [Bool.not_eq_true] at weak
    split at h
    · next corrupt =>
      cases h
      obtain ⟨why, rfl⟩ := readName_fails corrupt
      exact .inr (.inr (.name header unpatched weak corrupt))
    next named =>
    split at h
    · cases h
      exact .inl rfl
    next hsame =>
    rw [Decidable.not_not.mp hsame] at named
    split at h
    · cases h
      exact .inl rfl
    next hroom =>
    split at h
    · next encrypted =>
      cases h
      exact .inr (.inr (.encrypted header unpatched weak named (Int.not_lt.mp hroom) encrypted))
    · cases h
  · cases hg.symm.trans h
    exact told

theorem unpackAll_fails {unpack : Unpack} (h : unpackAll unpack e data = .error f) :
    (f = .dataEnds ∧ data.size < e.compressedSize) ∨
      ∃ taken count, unpack taken (data.slice 0 count) = .error f := by
  have reads := unpackAll_reads unpack e data
  rw [h] at reads
  cases reads with
  | fails fails => exact .inr ⟨_, _, fails⟩
  | ends short => exact .inl ⟨rfl, short⟩

theorem inflateAll_fails (h : inflateAll e data = .error f) :
    (f = .dataEnds ∧ data.size < e.compressedSize) ∨ ∃ why, f = .inflate why := by
  unfold inflateAll at h
  split at h
  · cases h
    exact .inr ⟨_, rfl⟩
  · split at h
    · next hends =>
      cases h
      exact .inl ⟨rfl, hends.1⟩
    · cases h

/-- All that can go wrong with the packed data of an entry. -/
inductive ContentFails (e : Entry) (data : Bytes) : ArchiveFault → Prop
  | inflate (why : InflateFault) : ContentFails e data (.inflate why)
  | method (unknown : e.method ∉ [0, 8, 12, 14]) : ContentFails e data .method
  | blocks (sorted : e.method = 12) : ContentFails e data .blocks
  | ranges (why : LzmaFault) (ranged : e.method = 14) : ContentFails e data (.ranges why)
  | ends (short : data.size < e.compressedSize) : ContentFails e data .dataEnds

theorem contentFails (h : content e data = .error f) : ContentFails e data f := by
  unfold content at h
  split at h
  · rcases unpackAll_fails h with ⟨rfl, short⟩ | ⟨_, _, hfails⟩
    · exact .ends short
    · cases hfails
  · rcases inflateAll_fails h with ⟨rfl, short⟩ | ⟨why, rfl⟩
    · exact .ends short
    · exact .inflate why
  · next sorted =>
    rcases unpackAll_fails h with ⟨rfl, short⟩ | ⟨_, _, hfails⟩
    · exact .ends short
    · split at hfails
      · cases hfails
      · cases hfails
        exact .blocks sorted
  · next ranged =>
    rcases unpackAll_fails h with ⟨rfl, short⟩ | ⟨_, count, hfails⟩
    · exact .ends short
    · cases hlzma : unlzma (data.slice 0 count) with
      | ok found =>
          rw [hlzma] at hfails
          cases hfails
      | error why =>
          rw [hlzma] at hfails
          cases hfails
          exact .ranges why ranged
  · next h0 h8 h12 h14 =>
    cases h
    exact .method (by simpa using ⟨h0, h8, h12, h14⟩)

theorem extract_fails (h : extract b e = .error f) :
    f.isDamage = true ∨ f = .seek ∨ DataRefused b e f := by
  simp only [extract, bind_eq_match, pure_eq_ok, throw_eq_error] at h
  split at h
  · next hplace =>
    cases h
    exact dataPlace_fails hplace
  next start found =>
  split at h
  · next hcontent =>
    cases h
    have short : (b.slice start e.compressedSize).size < e.compressedSize →
        b.size < start + e.compressedSize := by
      simp only [Bytes.slice, ByteArray.size_extract]
      omega
    cases contentFails hcontent with
    | inflate why => exact .inl rfl
    | method unknown => exact .inr (.inr (.method found unknown))
    | blocks sorted => exact .inr (.inr (.blocks found sorted hcontent))
    | ranges why ranged => exact .inr (.inr (.ranges found ranged hcontent))
    | ends hshort => exact .inr (.inr (.ends found (short hshort) hcontent))
  · split at h
    · cases h
      exact .inl rfl
    · cases h

theorem content_of_unknown (unknown : e.method ∉ [0, 8, 12, 14]) :
    content e data = .error .method := by
  simp only [List.mem_cons, List.not_mem_nil, or_false, not_or] at unknown
  obtain ⟨h0, h8, h12, h14⟩ := unknown
  unfold content
  split
  · next hstored => exact absurd hstored h0
  · next hdeflated => exact absurd hdeflated h8
  · next hsorted => exact absurd hsorted h12
  · next hranged => exact absurd hranged h14
  · rfl

theorem DataRefused.extract (refused : DataRefused b e f) : extract b e = .error f := by
  have of_place {f : ArchiveFault} (h : dataPlace b e = .error f) :
      Archive.extract b e = .error f := by
    simp only [Archive.extract, h, bind_eq_match]
  have of_content {start : Nat} {f : ArchiveFault} (found : dataPlace b e = .ok start)
      (h : content e (b.slice start e.compressedSize) = .error f) :
      Archive.extract b e = .error f := by
    simp only [Archive.extract, found, h, bind_eq_match]
  cases refused with
  | place far =>
      apply of_place
      simp [dataPlace, far, bind_eq_match, throw_eq_error]
  | patched header patched => exact of_place (by simp [header.dataPlace_eq, patched])
  | strong header unpatched strong =>
      exact of_place (by simp [header.dataPlace_eq, unpatched, strong])
  | name header unpatched weak corrupt =>
      exact of_place (by simp [header.dataPlace_eq, unpatched, weak, corrupt])
  | encrypted header unpatched weak named room encrypted =>
      have hroom := Int.not_lt.mpr room
      rw [Int.natCast_add] at hroom
      exact of_place (by simp [header.dataPlace_eq, unpatched, weak, named, hroom, encrypted])
  | method found unknown => exact of_content found (content_of_unknown unknown)
  | blocks found _ corrupt => exact of_content found corrupt
  | ranges found _ corrupt => exact of_content found corrupt
  | ends found _ wanted => exact of_content found wanted

/-! ## The whole archive -/

/-- The directory of an archive gives an entry of some name. -/
def Gives (b : Bytes) (r : EndRecord) (name : String) (e : Entry) : Prop :=
  ∃ listed, entries b r = .ok listed ∧ find? listed name = some e

/-- An entry of an archive cannot be read, or not even the directory. -/
inductive Unreadable (b : Bytes) (r : EndRecord) (name : String) : ArchiveFault → Prop
  | directory {f : ArchiveFault} (fails : entries b r = .error f) : Unreadable b r name f
  | data {e : Entry} {f : ArchiveFault} (given : Gives b r name e)
      (fails : extract b e = .error f) : Unreadable b r name f

/-- What an archive is refused for when an entry of it is read. -/
inductive Refused (b : Bytes) (r : EndRecord) (name : String) : ArchiveFault → Prop
  | listing {place : Nat} {f : ArchiveFault} (room : r.directorySize + tailSize r ≤ r.place)
      (reached : LeadsTo (directoryOf b r) place 0) (inside : place < r.directorySize)
      (refused : ListingRefused (directoryOf b r) place f) : Refused b r name f
  | data {e : Entry} {f : ArchiveFault} (given : Gives b r name e)
      (refused : DataRefused b e f) : Refused b r name f

variable {name : String}

theorem Refused.unreadable (refused : Refused b r name f) : Unreadable b r name f := by
  cases refused with
  | listing room reached inside refused =>
      apply Unreadable.directory
      rw [entries_eq, if_neg (Nat.not_lt.mpr room),
        reached.readEntries inside refused.readEntry (by omega)]
      rfl
  | data given refused => exact .data given refused.extract

/-- Whatever makes an archive unreadable is damage, told by the system or refused. -/
theorem Unreadable.cases (unreadable : Unreadable b r name f) :
    f.isDamage = true ∨ f = .seek ∨ Refused b r name f := by
  cases unreadable with
  | directory fails =>
      rcases entries_fails fails with damage | ⟨room, hread⟩
      · exact .inl damage
      · obtain ⟨last, reached, inside, hlast⟩ := readEntries_fails hread
        exact (readEntry_fails hlast).imp_right fun refused =>
          .inr (.listing room reached inside refused)
  | data given fails =>
      exact (extract_fails fails).imp_right (·.imp_right (.data given))

/-- What archives are refused for is no damage, and the system does not tell it. -/
theorem Refused.stray (refused : Refused b r name f) : f.isDamage = false ∧ f ≠ .seek := by
  cases refused with
  | listing _ _ _ refused => cases refused <;> exact ⟨rfl, nofun⟩
  | data _ refused => cases refused <;> exact ⟨rfl, nofun⟩

end BytecodeViewer.Archive
