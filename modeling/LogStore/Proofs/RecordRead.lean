import LogStore.Proofs.Reader

/-!
# One record per read

A read at the cursor takes exactly one record and says where it went wrong when it cannot. The
record at offset `o` of a file `F` announces its own length in its header: 13 bytes, the key,
and the value when the flag byte is zero (`recordLength`). A read through the log's buffer, in
whatever state the buffer is, answers:

* the end of the file exactly when the cursor is at the end;
* an entry exactly when the record decodes, and then the cursor moves by the record's length;
* otherwise a failure located from the cursor, which stays where it was, to the end that
  `FailsAt` gives for the failure: the end of the file for a cut header or payload, the end of
  the header for an oversized length (the key length first, the value length for tombstones
  too), and the record's own end, inside the file, for a checksum mismatch.

A read that leaves the cursor where it was answers the same when repeated.

* `decodeAt_entry_length`, `decodeAt_failed_at`: what one decode takes, by the header's fields.
* `Log.read_takes_one_record` gathers this for the log.
-/

namespace LogStore

open Bytes

/-! ## Fields of a header inside a file -/

section Offset

variable {b : ByteArray} {o i j : Nat}

theorem byteAt_extract_offset (h : o + i < j) : byteAt (b.extract o j) i = byteAt b (o + i) := by
  unfold byteAt
  by_cases hb : o + i < b.size
  · have hi : i < (b.extract o j).size := by simp; omega
    rw [dif_pos hi, dif_pos hb, ByteArray.getElem_extract]
  · have hi : ¬ i < (b.extract o j).size := by simp; omega
    rw [dif_neg hi, dif_neg hb]

theorem readLE_extract_offset {w : Nat} (h : o + i + w ≤ j) :
    readLE (b.extract o j) i w = readLE b (o + i) w := by
  induction w generalizing i with
  | zero => rfl
  | succ w ih =>
    rw [readLE, readLE, byteAt_extract_offset (by omega), ih (by omega), Nat.add_assoc]

end Offset

/-- The key length in the header of the record at `o`. -/
def keyLenAt (F : ByteArray) (o : Nat) : Nat := readLE F (o + 4) 4

/-- The value length in the header of the record at `o`. -/
def valLenAt (F : ByteArray) (o : Nat) : Nat := readLE F (o + 8) 4

/-- Whether the header of the record at `o` marks a live entry: its flag byte is zero. -/
def liveAt (F : ByteArray) (o : Nat) : Bool := byteAt F (o + 12) = 0

/-- The length of the record at `o` by its header: the header, the key, and the value of a live
entry. -/
def recordLength (F : ByteArray) (o : Nat) : Nat :=
  headerSize + keyLenAt F o + (if liveAt F o then valLenAt F o else 0)

/-- How the record at `o` of `F` fails to read, with the offset where the failure ends. -/
inductive FailsAt (F : ByteArray) (o : Nat) : Failure → Nat → Prop
  /-- One to twelve bytes are left: the header is cut, up to the end of the file. -/
  | cutHeader : o < F.size → F.size < o + headerSize → FailsAt F o .truncatedHeader F.size
  /-- The key length is over the limit: refused once the header is read. -/
  | keyTooLarge (d : String) : o + headerSize ≤ F.size → maxKeySize < keyLenAt F o →
      FailsAt F o (.keyTooLarge d) (o + headerSize)
  /-- The value length is over the limit, for a tombstone too: refused once the header is read. -/
  | valueTooLarge (d : String) : o + headerSize ≤ F.size → keyLenAt F o ≤ maxKeySize →
      maxValueSize < valLenAt F o → FailsAt F o (.valueTooLarge d) (o + headerSize)
  /-- The record runs past the end of the file: the payload is cut, up to the end of the file. -/
  | cutPayload : o + headerSize ≤ F.size → keyLenAt F o ≤ maxKeySize →
      valLenAt F o ≤ maxValueSize → F.size < o + recordLength F o →
      FailsAt F o .truncatedPayload F.size
  /-- The record lies inside the file, but the checksum stored first in it is not the one
  computed: the failure ends with the record. -/
  | badChecksum (stored computed : UInt32) : keyLenAt F o ≤ maxKeySize →
      valLenAt F o ≤ maxValueSize → o + recordLength F o ≤ F.size →
      stored.toNat = readLE F o 4 → computed ≠ stored →
      FailsAt F o (.badChecksum stored computed) (o + recordLength F o)

/-! ## One decode, by the header's fields -/

namespace ByteSource

/-- The fields a decode reads from the header it takes at `o` are the fields of the file at `o`. -/
theorem header_fields (F : ByteArray) (o : Nat) :
    let H := F.extract o (o + headerSize)
    readLE H 0 4 = readLE F o 4 ∧ readLE H 4 4 = keyLenAt F o ∧ readLE H 8 4 = valLenAt F o ∧
      (byteAt H 12 != 0) = !liveAt F o := by
  intro H
  have hHeaderSize : headerSize = 13 := rfl
  refine ⟨?_, readLE_extract_offset (by omega), readLE_extract_offset (by omega), ?_⟩
  · rw [readLE_extract_offset (by omega), Nat.add_zero]
  · rw [byteAt_extract_offset (by omega), liveAt]
    by_cases hz : byteAt F (o + 12) = 0 <;> simp [hz]

/-- A record read at `o` takes exactly the length its header announces. -/
theorem decodeAt_entry_length {F : ByteArray} {ending : SourceEnd} {o n : Nat} {e : Entry}
    (h : decodeAt ⟨F, ending⟩ o = .entry e n) : n = recordLength F o := by
  obtain ⟨-, -, -, -, rfl, -⟩ := decodeAt_eq_entry_iff.mp h
  obtain ⟨-, hKey, hVal, hLive⟩ := header_fields F o
  simp only [hKey, hVal, hLive, recordLength, Bool.not_eq_true', Nat.add_assoc]
  cases liveAt F o <;> simp

/-- **Where a failed read ends.** On a file that ends cleanly, a read at `o` that fails does so
for the reason `FailsAt` gives, and the bytes it took end where `FailsAt` says. -/
theorem decodeAt_failed_at {F : ByteArray} {o n : Nat} {f : Failure}
    (h : decodeAt ⟨F, .clean⟩ o = .failed f n) : FailsAt F o f (o + n) := by
  have hHeaderSize : headerSize = 13 := rfl
  dsimp only [decodeAt, shortage] at h
  -- one case per check, in the order the read makes them
  split at h
  · simp at h
  rename_i hAvail
  split at h
  · -- a cut header, up to the end of the file
    simp only [Decoded.failed.injEq] at h
    obtain ⟨rfl, rfl⟩ := h
    rw [show o + (F.size - o) = F.size by omega]
    exact .cutHeader (by omega) (by omega)
  rename_i hShort
  obtain ⟨hStored, hKey, hVal, hLive⟩ := header_fields F o
  simp only [hKey, hVal, hLive] at h
  split at h
  · simp only [Decoded.failed.injEq] at h
    obtain ⟨rfl, rfl⟩ := h
    exact .keyTooLarge _ (by omega) (by omega)
  rename_i hKeyFits
  split at h
  · simp only [Decoded.failed.injEq] at h
    obtain ⟨rfl, rfl⟩ := h
    exact .valueTooLarge _ (by omega) (by omega) (by omega)
  rename_i hValFits
  -- the payload's length is the record's length less the header
  set payloadLen := keyLenAt F o + if (!liveAt F o) = true then 0 else valLenAt F o
  have hLength : recordLength F o = headerSize + payloadLen := by
    simp only [recordLength, payloadLen, Nat.add_assoc]
    cases liveAt F o <;> simp
  split at h
  · -- a cut payload, up to the end of the file
    rename_i hCut
    simp only [Decoded.failed.injEq] at h
    obtain ⟨rfl, rfl⟩ := h
    simp only [Bool.and_eq_true, decide_eq_true_eq] at hCut
    rw [show o + (F.size - o) = F.size by omega]
    exact .cutPayload (by omega) (by omega) (by omega) (by omega)
  rename_i hWhole
  split at h
  · -- a checksum mismatch, with the whole record inside the file
    rename_i hCrc
    simp only [Decoded.failed.injEq] at h
    obtain ⟨rfl, rfl⟩ := h
    simp only [Bool.and_eq_true, decide_eq_true_eq, not_and, Nat.not_lt] at hWhole
    have hFits : o + recordLength F o ≤ F.size := by
      rw [hLength]
      by_cases hPos : 0 < payloadLen
      · have := hWhole hPos
        omega
      · omega
    -- the stored checksum is a 4-byte word, so it survives the round trip through `UInt32`
    have hRound : (readLE F o 4).toUInt32.toNat = readLE F o 4 := by
      rw [Nat.toUInt32, UInt32.toNat_ofNat_of_lt' (readLE_lt F o 4)]
    rw [hStored] at hCrc ⊢
    rw [← hLength]
    refine .badChecksum _ _ (by omega) (by omega) hFits hRound ?_
    intro hEq
    simp only [bne_iff_ne, ne_eq] at hCrc
    exact hCrc (by rw [hEq, hRound])
  · simp at h

end ByteSource

/-! ## A read at the cursor -/

section ReadAt

variable {F : ByteArray} {o : Nat}

/-- **A read at `o` takes one record.** Within the file, it answers the end exactly at the end
of the file; an entry exactly when the record at `o` decodes, moving past it by the length its
header announces; and otherwise a failure located by `FailsAt`, staying at `o`. -/
theorem readAt_takes_one_record (hEnd : o ≤ F.size) :
    ((readAt F o).1 = .ok none ↔ o = F.size) ∧
    (∀ e, (readAt F o).1 = .ok (some e) ↔ ∃ n, ByteSource.decodeAt ⟨F, .clean⟩ o = .entry e n) ∧
    (∀ e, (readAt F o).1 = .ok (some e) → (readAt F o).2 = o + recordLength F o) ∧
    ((readAt F o).1 = .ok none → (readAt F o).2 = o) ∧
    (∀ f, (readAt F o).1 = .error f →
      (readAt F o).2 = o ∧ ∃ g stop, f = .record o stop g ∧ FailsAt F o g stop) := by
  have hHeaderSize : headerSize = 13 := rfl
  -- one case per answer of the decode at `o`
  cases hd : ByteSource.decodeAt ⟨F, .clean⟩ o with
  | finished =>
    have hAt : o = F.size := by
      have := ByteSource.decodeAt_finished_iff.mp hd
      omega
    simp only [readAt, hd]
    refine ⟨iff_of_true trivial hAt, fun e => by simp, fun e he => ?_, fun _ => trivial,
      fun f hf => ?_⟩
    · cases he
    · cases hf
  | failed f n =>
    have hInside : o < F.size := (ByteSource.decodeAt_failed_clean hd).1
    simp only [readAt, hd]
    refine ⟨iff_of_false (by simp) (by omega), fun e => by simp, fun e he => ?_, fun _ => trivial,
      fun g hg => ⟨trivial, f, o + n, ?_, ByteSource.decodeAt_failed_at hd⟩⟩
    · cases he
    · cases hg
      rfl
  | entry e n =>
    have hInside : headerSize ≤ n ∧ o + n ≤ F.size := ByteSource.decodeAt_entry_bounds hd
    simp only [readAt, hd]
    refine ⟨iff_of_false (by simp) (by omega), fun e' => by simp, fun e' _ => ?_, fun h => ?_,
      fun g hg => ?_⟩
    · rw [ByteSource.decodeAt_entry_length hd]
    · cases h
    · cases hg

end ReadAt

namespace Log

variable {l : Log} {w : World} {h ino : Nat} {x : Handle}

/-- **A read takes exactly one record and locates its failures.** A log reading a file, in
whatever state its read-ahead buffer is, with its cursor `o` inside the file `F`: the read answers
the end of the file exactly when `o` is the end; an entry exactly when the record at `o`
decodes, and then the cursor moves to `o` plus the length the record's header announces;
otherwise the cursor stays at `o`, and a failure is the record failure located from `o` to the
end `FailsAt` gives. Reading again at a cursor that stayed answers the same. -/
theorem read_takes_one_record (hR : l.ReadsAt w.disk h ino x)
    (hEnd : l.readOffset ≤ (w.disk.tree.contents ino).size) :
    let F := w.disk.tree.contents ino
    let o := l.readOffset
    let r := Log.read l w
    (r.1.1 = .ok none ↔ o = F.size) ∧
    (∀ e, r.1.1 = .ok (some e) ↔ ∃ n, ByteSource.decodeAt ⟨F, .clean⟩ o = .entry e n) ∧
    (∀ e, r.1.1 = .ok (some e) → r.1.2.readOffset = o + recordLength F o) ∧
    (r.1.1 = .ok none → r.1.2.readOffset = o) ∧
    (∀ f, r.1.1 = .error f →
      r.1.2.readOffset = o ∧ ∃ g stop, f = .record o stop g ∧ FailsAt F o g stop) ∧
    (r.1.2.readOffset = o → (Log.read r.1.2 r.2).1.1 = r.1.1) := by
  intro F o r
  obtain ⟨q, buf, hRun, hAfter, -⟩ := read_spec hR
  have hRes : r.1.1 = (readAt F o).1 := by simp only [r, hRun, F, o]
  have hOff : r.1.2.readOffset = (readAt F o).2 := by simp only [r, hRun, F, o]
  -- reading again: only the handle moved, so the bytes from the cursor on are the same
  have hAgain : r.1.2.readOffset = o → (Log.read r.1.2 r.2).1.1 = r.1.1 := by
    intro hSame
    obtain ⟨q', buf', hRun', -, -⟩ := read_spec
      (w := { w with disk := w.disk.setHandle h { x with pos := q } }) hAfter
    simp only [r, hRun] at hSame ⊢
    rw [hRun']
    simp only [Disk.tree_setHandle, hSame, o]
  obtain ⟨hNone, hSome, hMoves, hStays, hFails⟩ := readAt_takes_one_record hEnd
  rw [hRes, hOff]
  exact ⟨hNone, hSome, hMoves, hStays, hFails, by rw [← hOff, ← hRes]; exact hAgain⟩

/-- A log whose cursor is just past the header of a file that has three more bytes, all three
already read ahead into its buffer, with the handle at the end of the file: a cut header. -/
theorem read_takes_one_record_read_ahead :
    let x : Handle := { node := .file 0, name := "/db", pos := 9, readable := true,
                        writable := true }
    let w : World := { disk := { cwd := "/", handles := #[x], tree :=
      { nodes := [(["db"], .file 0)], inodes := [(0, Header.encode ++ ⟨#[1, 2, 3]⟩)],
        nextIno := 1 } } }
    let l : Log := { path := "/db", file := some 0, buffer := some ⟨#[1, 2, 3]⟩,
                     readOffset := Header.size }
    (l.ReadsAt w.disk 0 0 x ∧ l.readOffset ≤ (w.disk.tree.contents 0).size) ∧
    let F := w.disk.tree.contents 0
    let o := l.readOffset
    let r := Log.read l w
    (r.1.1 = .ok none ↔ o = F.size) ∧
    (∀ e, r.1.1 = .ok (some e) ↔ ∃ n, ByteSource.decodeAt ⟨F, .clean⟩ o = .entry e n) ∧
    (∀ e, r.1.1 = .ok (some e) → r.1.2.readOffset = o + recordLength F o) ∧
    (r.1.1 = .ok none → r.1.2.readOffset = o) ∧
    (∀ f, r.1.1 = .error f →
      r.1.2.readOffset = o ∧ ∃ g stop, f = .record o stop g ∧ FailsAt F o g stop) ∧
    (r.1.2.readOffset = o → (Log.read r.1.2 r.2).1.1 = r.1.1) := by
  intro x w l
  have hR : l.ReadsAt w.disk 0 0 x :=
    ⟨rfl, rfl, ⟨rfl, rfl, rfl, rfl, rfl⟩, by rintro b ⟨⟩; decide⟩
  have hEnd : l.readOffset ≤ (w.disk.tree.contents 0).size := by decide
  exact ⟨⟨hR, hEnd⟩, read_takes_one_record hR hEnd⟩

end Log

end LogStore
