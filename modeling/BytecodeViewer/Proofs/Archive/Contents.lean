import BytecodeViewer.Archive.Extract

/-!
# What is extracted

The bytes that an entry is extracted to have the checksum that is listed, and there are no
more of them than are listed.  Bytes that are stored as they are come unchanged.
-/

namespace BytecodeViewer

section Outcomes

variable {ε α β : Type}

theorem bind_eq_match (x : Except ε α) (next : α → Except ε β) : x >>= next =
    match x with
    | .error f => .error f
    | .ok a => next a := by
  cases x <;> rfl

theorem pure_eq_ok (a : α) : (pure a : Except ε α) = .ok a := rfl

theorem throw_eq_error (f : ε) : (throw f : Except ε α) = .error f := rfl

end Outcomes

namespace Bytes

theorem size_slice_le (b : Bytes) (start length : Nat) : (b.slice start length).size ≤ length := by
  simp only [slice, ByteArray.size_extract]
  omega

/-- Beyond its end a sequence has nothing to slice. -/
theorem extract_min_size (b : Bytes) (start stop : Nat) :
    b.extract start (min stop b.size) = b.extract start stop := by
  apply ByteArray.ext_getElem
  · simp only [ByteArray.size_extract]
    omega
  · intro i hi hi'
    simp only [ByteArray.getElem_extract]

theorem slice_slice (b : Bytes) (start length count : Nat) :
    (b.slice start length).slice 0 count = b.slice start (min length count) := by
  simp only [slice, ByteArray.extract_extract, Nat.add_zero, Nat.zero_add]
  congr 1
  omega

/-- Cutting a sequence first makes no difference to what is cut no later, or if nothing has
been cut off. -/
theorem slice_slice_of_le (b : Bytes) {length count : Nat}
    (h : count ≤ length ∨ b.size ≤ length) :
    (b.slice 0 length).slice 0 count = b.slice 0 count := by
  rw [slice_slice]
  rcases h with h | h
  · rw [Nat.min_eq_right h]
  · simp only [slice, Nat.zero_add]
    rw [← extract_min_size b 0 count, ← extract_min_size b 0 (min length count)]
    congr 1
    omega

end Bytes

namespace Archive

variable {b bytes data : Bytes} {e : Entry}

/-- All that reading on in the data of an entry can come to. -/
inductive ReadsOn (unpack : Unpack) (e : Entry) (data : Bytes) : Except ArchiveFault Bytes → Prop
  | enough {taken count : Nat} {found : Unpacked}
      (unpacks : unpack taken (data.slice 0 count) = .ok found)
      (enough : found.ended = true ∨ e.compressedSize ≤ count ∨ e.size ≤ found.output.size) :
      ReadsOn unpack e data (.ok (found.output.slice 0 e.size))
  | fails {taken count : Nat} {f : ArchiveFault}
      (fails : unpack taken (data.slice 0 count) = .error f) : ReadsOn unpack e data (.error f)
  | ends (short : data.size < e.compressedSize) : ReadsOn unpack e data (.error .dataEnds)

/-- Every read but the last takes some bytes, so `fuel` does not end before the data does. -/
theorem readOn_reads {unpack : Unpack} {fuel read taken : Nat} (hread : read ≤ data.size)
    (hfuel : data.size - read < fuel) :
    ReadsOn unpack e data (readOn unpack e data fuel read taken) := by
  induction fuel generalizing read taken with
  | zero => omega
  | succ fuel ih =>
      have hleast : 0 < leastRead := by decide
      simp only [readOn, bind_eq_match, pure_eq_ok, throw_eq_error]
      split
      · exact .ends (by omega)
      · split
        · next hfails => exact .fails hfails
        · next hunpack =>
          split
          · next henough => exact .enough hunpack henough
          · exact ih (by omega) (by omega)

theorem unpackAll_reads (unpack : Unpack) (e : Entry) (data : Bytes) :
    ReadsOn unpack e data (unpackAll unpack e data) :=
  readOn_reads (Nat.zero_le _) (by omega)

theorem unpackAll_length {unpack : Unpack} (h : unpackAll unpack e data = .ok bytes) :
    bytes.size ≤ e.size := by
  have reads := unpackAll_reads unpack e data
  rw [h] at reads
  cases reads with
  | enough => exact Bytes.size_slice_le _ _ _

theorem content_length (h : content e data = .ok bytes) : bytes.size ≤ e.size := by
  unfold content at h
  split at h
  · exact unpackAll_length h
  · unfold inflateAll at h
    split at h
    · cases h
    · split at h
      · cases h
      · cases h
        exact Bytes.size_slice_le _ _ _
  · exact unpackAll_length h
  · exact unpackAll_length h
  · cases h

theorem content_stored (stored : e.method = 0) (whole : data.size ≤ e.compressedSize)
    (h : content e data = .ok bytes) : bytes = data.slice 0 e.size := by
  simp only [content, stored] at h
  have reads := unpackAll_reads (fun _ data => .ok ⟨data, false⟩) e data
  rw [h] at reads
  cases reads with
  | enough unpacks enough =>
      cases unpacks
      apply Bytes.slice_slice_of_le
      rcases enough with hended | hall | hsize
      · cases hended
      · exact .inr (Nat.le_trans whole hall)
      · exact .inl (Nat.le_trans hsize (Bytes.size_slice_le _ _ _))

/-- The bytes that an entry is extracted to are all of its content. -/
structure Full (b : Bytes) (e : Entry) (bytes : Bytes) : Prop where
  checked : (checksum bytes).toNat = e.checksum
  length : bytes.size ≤ e.size
  stored : e.method = 0 → ∃ start, dataPlace b e = .ok start ∧
    bytes = b.slice start (min e.compressedSize e.size)

theorem full_of_extract (h : extract b e = .ok bytes) : Full b e bytes := by
  simp only [extract, bind_eq_match, pure_eq_ok, throw_eq_error] at h
  split at h
  · cases h
  next start hplace =>
  split at h
  · cases h
  next hcontent =>
  split at h
  · cases h
  next hsum =>
  cases h
  refine ⟨Decidable.not_not.mp hsum, content_length hcontent, fun stored => ?_⟩
  rw [content_stored stored (Bytes.size_slice_le _ _ _) hcontent, Bytes.slice_slice]
  exact ⟨start, hplace, rfl⟩

end Archive

end BytecodeViewer
