import LogStore.Proofs.Bytes
import LogStore.Entry.Decode

/-!
# Reading back one record

A record is a header `[checksum][key length][value length][flag]` followed by the key and, for a
live entry, the value. This module shows that `ByteSource.decodeAt` reads back exactly what
`Entry.encode` wrote, and says what it can answer at all when the bytes end cleanly.

* `Entry.stored` is the entry a record holds: a tombstone's value is not written, so it reads
  back empty. `Entry.Valid` is the format's size limit, the condition of `Entry.validate`.
* `decodeAt_shift`: reading depends only on the bytes from the read position on.
* `decodeAt_encode`: a valid entry's record, followed by anything, reads back as the stored
  entry and takes exactly `encodedSize` bytes.
* `decodeAt_eq_entry_iff`: a read gives an entry exactly when every check it makes passes
  (`ReadsEntry`); the facts about entries read below follow from it.
* `decodeAt_entry_bounds`, `decodeAt_failed_clean`: a record read takes at least a header and
  lies inside the bytes; on bytes that end cleanly a failure is one of the five record failures
  (cut header, oversized key or value length, cut payload, checksum mismatch), located inside
  the bytes, and the cut ones run to the very end.
-/

namespace LogStore

open Bytes

/-- The first 13 bytes of a record: checksum, key length, value length, flag. -/
def headerBytes (crc keyLen valLen : Nat) (flag : UInt8) : ByteArray :=
  leBytes crc 4 ++ leBytes keyLen 4 ++ leBytes valLen 4 ++ ByteArray.empty.push flag

section HeaderBytes

variable (crc k v : Nat) (flag : UInt8)

@[simp] theorem size_headerBytes : (headerBytes crc k v flag).size = headerSize := by
  simp [headerBytes, ByteArray.size_append, headerSize]

theorem readLE_headerBytes_stored : readLE (headerBytes crc k v flag) 0 4 = crc % 2 ^ 32 := by
  have h := readLE_middle ByteArray.empty
    (leBytes k 4 ++ leBytes v 4 ++ ByteArray.empty.push flag) crc 4 0 rfl
  simpa [headerBytes, ByteArray.append_assoc] using h

theorem readLE_headerBytes_key : readLE (headerBytes crc k v flag) 4 4 = k % 2 ^ 32 := by
  have h := readLE_middle (leBytes crc 4) (leBytes v 4 ++ ByteArray.empty.push flag) k 4 4
    (size_leBytes crc 4)
  simpa [headerBytes, ByteArray.append_assoc] using h

theorem readLE_headerBytes_value : readLE (headerBytes crc k v flag) 8 4 = v % 2 ^ 32 := by
  have h := readLE_middle (leBytes crc 4 ++ leBytes k 4) (ByteArray.empty.push flag) v 4 8
    (by simp [ByteArray.size_append])
  simpa [headerBytes, ByteArray.append_assoc] using h

theorem byteAt_headerBytes_flag : byteAt (headerBytes crc k v flag) 12 = flag.toNat := by
  have h := byteAt_push_self (leBytes crc 4 ++ leBytes k 4 ++ leBytes v 4) flag
  rw [push_eq_append] at h
  simpa [headerBytes, ByteArray.size_append] using h

theorem extract_headerBytes_lengths :
    (headerBytes crc k v flag).extract 4 headerSize =
      leBytes k 4 ++ leBytes v 4 ++ ByteArray.empty.push flag := by
  have h := ByteArray.extract_append_eq_right (a := leBytes crc 4)
    (b := leBytes k 4 ++ leBytes v 4 ++ ByteArray.empty.push flag) (i := 4) (j := headerSize)
    (by simp) (by simp [ByteArray.size_append, headerSize])
  simpa [headerBytes, ByteArray.append_assoc] using h

end HeaderBytes

namespace Entry

/-- The entry a record holds: a tombstone's value is not written and reads back empty. -/
def stored (e : Entry) : Entry :=
  ⟨e.key, e.payloadValue, e.deleted⟩

/-- Within the size limits of the format: the condition `validate` checks. -/
def Valid (e : Entry) : Prop :=
  e.key.size ≤ maxKeySize ∧ e.payloadValue.size ≤ maxValueSize

theorem validate_eq_ok_iff (e : Entry) : e.validate = .ok () ↔ e.Valid := by
  unfold validate Valid payloadValue
  by_cases hk : e.key.size > maxKeySize
  · simp only [hk, if_true, reduceCtorEq, false_iff, not_and]
    omega
  · by_cases hd : e.deleted <;> by_cases hv : e.value.size > maxValueSize <;>
      simp [hk, hd, hv] <;> omega

@[simp] theorem stored_key (e : Entry) : e.stored.key = e.key := rfl
@[simp] theorem stored_value (e : Entry) : e.stored.value = e.payloadValue := rfl
@[simp] theorem stored_deleted (e : Entry) : e.stored.deleted = e.deleted := rfl

theorem payloadValue_tombstone (k : ByteArray) : (tombstone k).payloadValue = ByteArray.empty :=
  rfl

theorem stored_live (k v : ByteArray) : (live k v).stored = live k v := rfl

theorem stored_tombstone (k : ByteArray) : (tombstone k).stored = tombstone k := rfl

theorem body_eq (e : Entry) :
    e.body = leBytes e.key.size 4 ++ leBytes e.payloadValue.size 4 ++
      ByteArray.empty.push e.flag ++ e.key ++ e.payloadValue := by
  rw [body, pushLE_eq_append, push_eq_append]

theorem encode_eq (e : Entry) :
    e.encode = headerBytes (Checksum.checksum e.body).toNat e.key.size e.payloadValue.size e.flag
      ++ e.key ++ e.payloadValue := by
  simp only [encode, body_eq, headerBytes, ByteArray.append_assoc]

@[simp] theorem size_encode (e : Entry) : e.encode.size = e.encodedSize := by
  simp [encode_eq, encodedSize, ByteArray.size_append]

theorem headerSize_le_encodedSize (e : Entry) : headerSize ≤ e.encodedSize := by
  unfold encodedSize
  omega

theorem flag_ne_zero (e : Entry) : (e.flag.toNat != 0) = e.deleted := by
  unfold flag
  cases e.deleted <;> rfl

end Entry

namespace ByteSource

/-- Reading at `pre.size + pos` after a prefix `pre` is reading at `pos` without it. -/
theorem decodeAt_shift (pre b : ByteArray) (ending : SourceEnd) (pos : Nat) :
    decodeAt ⟨pre ++ b, ending⟩ (pre.size + pos) = decodeAt ⟨b, ending⟩ pos := by
  have hExtract : ∀ i j, (pre ++ b).extract (pre.size + i) (pre.size + j) = b.extract i j :=
    fun i j => ByteArray.extract_append_size_add
  have hAvail : (pre ++ b).size - (pre.size + pos) = b.size - pos := by
    simp [ByteArray.size_append]
    omega
  simp only [decodeAt, shortage, hAvail, Nat.add_assoc, hExtract]

/-- A valid entry's record reads back as the entry it stores, taking exactly its bytes. -/
theorem decodeAt_encode {e : Entry} (he : e.Valid) (post : ByteArray) :
    decodeAt ⟨e.encode ++ post, .clean⟩ 0 = .entry e.stored e.encodedSize := by
  obtain ⟨hk, hv⟩ := he
  obtain ⟨crc, hCrc⟩ : ∃ crc, crc = Checksum.checksum e.body := ⟨_, rfl⟩
  obtain ⟨H, hH⟩ : ∃ H, H = headerBytes crc.toNat e.key.size e.payloadValue.size e.flag :=
    ⟨_, rfl⟩
  have hBytes : e.encode ++ post = H ++ (e.key ++ e.payloadValue ++ post) := by
    rw [Entry.encode_eq, hH, hCrc, ByteArray.append_assoc, ByteArray.append_assoc,
      ByteArray.append_assoc]
  have hHeader : (H ++ (e.key ++ e.payloadValue ++ post)).extract 0 (0 + headerSize) = H :=
    ByteArray.extract_append_eq_left (by simp [hH])
  have hPayload : (H ++ (e.key ++ e.payloadValue ++ post)).extract (0 + headerSize)
      (0 + headerSize + (e.key.size + e.payloadValue.size)) = e.key ++ e.payloadValue := by
    have hH13 : H.size = headerSize := by simp [hH]
    rw [Nat.zero_add, ByteArray.extract_append, hH13, Nat.sub_self, Nat.add_sub_cancel_left,
      ByteArray.extract_eq_empty_iff.mpr (by omega), ByteArray.empty_append,
      ByteArray.extract_append_eq_left (by simp [ByteArray.size_append])]
  have hSize : (H ++ (e.key ++ e.payloadValue ++ post)).size =
      headerSize + (e.key.size + e.payloadValue.size + post.size) := by
    simp [hH, ByteArray.size_append]
  have hStored : readLE H 0 4 = crc.toNat := by
    rw [hH, readLE_headerBytes_stored, Nat.mod_eq_of_lt (UInt32.toNat_lt crc)]
  have hKey : readLE H 4 4 = e.key.size := by
    rw [hH, readLE_headerBytes_key, Nat.mod_eq_of_lt]
    simp only [maxKeySize] at hk
    omega
  have hVal : readLE H 8 4 = e.payloadValue.size := by
    rw [hH, readLE_headerBytes_value, Nat.mod_eq_of_lt]
    simp only [maxValueSize] at hv
    omega
  have hFlag : (byteAt H 12 != 0) = e.deleted := by
    rw [hH, byteAt_headerBytes_flag, Entry.flag_ne_zero]
  have hCheck : Checksum.update (Checksum.update 0 (H.extract 4 headerSize))
      (e.key ++ e.payloadValue) = crc := by
    rw [hH, extract_headerBytes_lengths, Checksum.update_append, hCrc, Entry.body_eq,
      ← ByteArray.append_assoc]
    rfl
  have hPayloadLen : e.key.size + (if e.deleted then 0 else e.payloadValue.size) =
      e.key.size + e.payloadValue.size := by
    cases hd : e.deleted <;> simp [Entry.payloadValue, hd]
  have hKeyPart : (e.key ++ e.payloadValue).extract 0 e.key.size = e.key :=
    ByteArray.extract_append_eq_left rfl
  have hValPart : (if e.deleted then ByteArray.empty else
      (e.key ++ e.payloadValue).extract e.key.size (e.key.size + e.payloadValue.size)) =
        e.payloadValue := by
    cases hd : e.deleted
    · exact ByteArray.extract_append_eq_right rfl rfl
    · simp [Entry.payloadValue, hd]
  simp only [decodeAt, hBytes, Nat.sub_zero, hSize, hHeader, hStored, hKey, hVal, hFlag,
    hPayloadLen, hPayload, hCheck]
  simp only [maxKeySize, maxValueSize] at hk hv
  have hKeyFits : ¬ 1024 < e.key.size := Nat.not_lt.mpr hk
  have hValueFits : ¬ 1048576 < e.payloadValue.size := Nat.not_lt.mpr hv
  have hHeaderRead : ¬ 13 + (e.key.size + (e.payloadValue.size + post.size)) < 13 := by omega
  have hPayloadRead : ¬ e.payloadValue.size + post.size < e.payloadValue.size := by omega
  simp [maxKeySize, maxValueSize, hKeyPart, hValPart, Entry.stored, Entry.encodedSize, headerSize,
    Nat.add_assoc, hKeyFits, hValueFits, hHeaderRead, hPayloadRead]

/-- The checks a record read at `pos` passes to give the entry `e` after `used` bytes: a header
inside the bytes, lengths within the limits, the payload it announces inside the bytes, a
matching checksum, and `e` made of the key, the value unless the flag marks a tombstone, and the
flag. -/
def ReadsEntry (src : ByteSource) (pos : Nat) (e : Entry) (used : Nat) : Prop :=
  let H := src.bytes.extract pos (pos + headerSize)
  let keyLen := readLE H 4 4
  let deleted := byteAt H 12 != 0
  let payloadLen := keyLen + (if deleted then 0 else readLE H 8 4)
  let payload := src.bytes.extract (pos + headerSize) (pos + headerSize + payloadLen)
  headerSize ≤ src.bytes.size - pos ∧ keyLen ≤ maxKeySize ∧ readLE H 8 4 ≤ maxValueSize ∧
    headerSize + payloadLen ≤ src.bytes.size - pos ∧ used = headerSize + payloadLen ∧
    (Checksum.update (Checksum.update 0 (H.extract 4 headerSize)) payload).toNat = readLE H 0 4 ∧
    e = ⟨payload.extract 0 keyLen,
      if deleted then ByteArray.empty else payload.extract keyLen payloadLen, deleted⟩

/-- **A record read gives an entry exactly when every check passes.** -/
theorem decodeAt_eq_entry_iff {src : ByteSource} {pos used : Nat} {e : Entry} :
    src.decodeAt pos = .entry e used ↔ src.ReadsEntry pos e used := by
  have hHeaderSize : headerSize = 13 := rfl
  dsimp only [decodeAt, ReadsEntry]
  set H := src.bytes.extract pos (pos + headerSize)
  set payloadLen := readLE H 4 4 + (if (byteAt H 12 != 0) = true then 0 else readLE H 8 4)
  constructor
  · intro h
    -- each refusal answers a failure, so only the branch past every check is left
    split at h
    · split at h <;> simp at h
    split at h
    · simp at h
    split at h
    · simp at h
    split at h
    · simp at h
    split at h
    · simp at h
    split at h
    · simp at h
    rename_i hAvail hHeader hKey hVal hPayload hCrc
    simp only [Decoded.entry.injEq] at h
    obtain ⟨rfl, rfl⟩ := h
    simp only [Bool.and_eq_true, decide_eq_true_eq, bne_iff_ne, ne_eq, Decidable.not_not]
      at hPayload hCrc
    exact ⟨by omega, by omega, by omega, by omega, rfl, hCrc, rfl⟩
  · rintro ⟨hHeader, hKey, hVal, hPayload, rfl, hCrc, rfl⟩
    have hWhole : ¬ (decide (payloadLen > 0) &&
        decide (src.bytes.size - pos - headerSize < payloadLen)) = true := by
      simp only [Bool.and_eq_true, decide_eq_true_eq]
      omega
    rw [if_neg (by omega), if_neg (by omega), if_neg (by omega), if_neg (by omega),
      if_neg hWhole, if_neg (by simp [hCrc])]

/-- A record read takes at least its header and lies inside the bytes. -/
theorem decodeAt_entry_bounds {src : ByteSource} {pos used : Nat} {e : Entry}
    (h : src.decodeAt pos = .entry e used) : headerSize ≤ used ∧ pos + used ≤ src.bytes.size := by
  obtain ⟨hHeader, -, -, hPayload, rfl, -⟩ := decodeAt_eq_entry_iff.mp h
  have hHeaderSize : headerSize = 13 := rfl
  omega

/-- On bytes that end cleanly, reading finishes exactly at or past the end. -/
theorem decodeAt_finished_iff {b : ByteArray} {pos : Nat} :
    decodeAt ⟨b, .clean⟩ pos = .finished ↔ b.size ≤ pos := by
  dsimp only [decodeAt]
  constructor
  · intro h
    split at h
    · omega
    · -- with bytes left, every answer is a failure or an entry
      repeat' split at h
      all_goals simp at h
  · intro h
    rw [if_pos (by omega)]

/-- On bytes that end cleanly a failed read is one of the five record failures, at a position
inside the bytes; it ends inside the bytes, and a cut header or payload runs to their end. -/
theorem decodeAt_failed_clean {b : ByteArray} {pos used : Nat} {f : Failure}
    (h : decodeAt ⟨b, .clean⟩ pos = .failed f used) :
    pos < b.size ∧ pos + used ≤ b.size ∧
      (f = .truncatedHeader ∧ pos + used = b.size ∨ f = .truncatedPayload ∧ pos + used = b.size ∨
        (∃ d, f = .keyTooLarge d) ∨ (∃ d, f = .valueTooLarge d) ∨
        ∃ s c, f = .badChecksum s c) := by
  have hHeaderSize : headerSize = 13 := rfl
  dsimp only [decodeAt, shortage] at h
  set H := b.extract pos (pos + headerSize)
  set payloadLen := readLE H 4 4 + (if (byteAt H 12 != 0) = true then 0 else readLE H 8 4)
  -- one case per check, in the order the read makes them
  split at h
  · simp at h
  split at h
  · -- a cut header
    simp only [Decoded.failed.injEq] at h
    obtain ⟨rfl, rfl⟩ := h
    exact ⟨by omega, by omega, .inl ⟨rfl, by omega⟩⟩
  split at h
  · simp only [Decoded.failed.injEq] at h
    obtain ⟨rfl, rfl⟩ := h
    exact ⟨by omega, by omega, .inr (.inr (.inl ⟨_, rfl⟩))⟩
  split at h
  · simp only [Decoded.failed.injEq] at h
    obtain ⟨rfl, rfl⟩ := h
    exact ⟨by omega, by omega, .inr (.inr (.inr (.inl ⟨_, rfl⟩)))⟩
  split at h
  · -- a cut payload
    simp only [Decoded.failed.injEq] at h
    obtain ⟨rfl, rfl⟩ := h
    exact ⟨by omega, by omega, .inr (.inl ⟨rfl, by omega⟩)⟩
  split at h
  · -- a checksum mismatch, after a payload that lies inside the bytes
    rename_i hPayload _
    simp only [Decoded.failed.injEq] at h
    obtain ⟨rfl, rfl⟩ := h
    simp only [Bool.and_eq_true, decide_eq_true_eq] at hPayload
    exact ⟨by omega, by omega, .inr (.inr (.inr (.inr ⟨_, _, rfl⟩)))⟩
  · simp at h

/-- A record read depends only on its own bytes: any bytes that agree on them and are long
enough read the same record, whatever follows and however they end. -/
theorem decodeAt_entry_congr {x y : ByteArray} {ex ey : SourceEnd} {pos used : Nat} {e : Entry}
    (h : decodeAt ⟨x, ex⟩ pos = .entry e used) (hy : pos + used ≤ y.size)
    (hxy : x.extract pos (pos + used) = y.extract pos (pos + used)) :
    decodeAt ⟨y, ey⟩ pos = .entry e used := by
  obtain ⟨hHeader, hKey, hVal, hPayload, hUsed, hCrc, he⟩ := decodeAt_eq_entry_iff.mp h
  have hHeaderSize : headerSize = 13 := rfl
  have hWindow : ∀ i j, pos ≤ i → i ≤ j → j ≤ pos + used → y.extract i j = x.extract i j := by
    intro i j hi hij hj
    have hx' := congrArg (fun b => ByteArray.extract b (i - pos) (j - pos)) hxy
    simp only [ByteArray.extract_extract, Nat.add_sub_cancel' hi,
      Nat.add_sub_cancel' (Nat.le_trans hi hij), Nat.min_eq_left hj] at hx'
    exact hx'.symm
  -- the header and the payload lie inside the bytes the two agree on
  have hH : y.extract pos (pos + headerSize) = x.extract pos (pos + headerSize) :=
    hWindow pos (pos + headerSize) (Nat.le_refl _) (by omega) (by omega)
  refine decodeAt_eq_entry_iff.mpr ?_
  dsimp only [ReadsEntry] at hHeader hPayload hUsed hCrc he ⊢
  rw [hH, hWindow (pos + headerSize) _ (by omega) (by omega) (by omega)]
  exact ⟨by omega, hKey, hVal, by omega, hUsed, hCrc, he⟩

/-- A record read whole from `b` reads the same from `b` followed by anything. -/
theorem decodeAt_append_of_entry {b : ByteArray} {pos used : Nat} {e : Entry}
    (h : decodeAt ⟨b, .clean⟩ pos = .entry e used) (c : ByteArray) :
    decodeAt ⟨b ++ c, .clean⟩ pos = .entry e used := by
  obtain ⟨-, hb⟩ := decodeAt_entry_bounds h
  dsimp only at hb
  refine decodeAt_entry_congr h (by simp [ByteArray.size_append]; omega) ?_
  rw [ByteArray.extract_append, (ByteArray.extract_eq_empty_iff (b := c)).mpr (by omega),
    ByteArray.append_empty]

/-- A record read stays within the size limits: its key has at most 1 KiB, its value 1 MiB. -/
theorem decodeAt_entry_valid {src : ByteSource} {pos used : Nat} {e : Entry}
    (h : src.decodeAt pos = .entry e used) :
    e.key.size ≤ maxKeySize ∧ e.value.size ≤ maxValueSize := by
  obtain ⟨-, hKey, hVal, -, -, -, rfl⟩ := decodeAt_eq_entry_iff.mp h
  refine ⟨?_, ?_⟩
  · simp only [ByteArray.size_extract]
    omega
  · -- a tombstone's value is empty; a live entry's value is the rest of the payload
    by_cases hd : (byteAt (src.bytes.extract pos (pos + headerSize)) 12 != 0) = true
    · simp [hd]
    · simp only [hd, Bool.false_eq_true, ↓reduceIte, ByteArray.size_extract]
      omega

end ByteSource

end LogStore
