import LogStore.Proofs.Disk
import LogStore.Proofs.Scan
import LogStore.Store.Verify

/-!
# Reading records through the read-ahead buffer

The log reads its records through a 64 KiB buffer and a file handle, in pieces whose sizes
depend on the buffer's state; what it reads does not. The buffer is coherent with the cursor
when the buffered bytes followed by the file from the handle's position are the file from the
cursor on. Then the reader sees exactly the file from the cursor, and reading a record leaves the
buffer coherent again just past it.

* `ReadAhead.consume_spec`: reading `n` bytes through the buffer, when there are that many,
  drops exactly `n` bytes from what the reader sees, and only moves the handle.
* `Log.ReadsAt`: the log is open on a file with its header accepted, and its buffer is coherent.
* `Log.read_spec`: reading at the cursor gives what `readAt` gives on the bytes of the file, and
  keeps the log reading the file.
-/

namespace LogStore

/-! ## Suffixes of the file -/

section Suffix

variable (B : ByteArray)

theorem extract_min_end (i j : Nat) : B.extract i (min j B.size) = B.extract i j := by
  ext1
  simp only [ByteArray.data_extract]
  exact Array.extract_eq_extract_right.mpr (by simp; omega)

theorem extract_suffix_suffix (i j : Nat) :
    (B.extract i B.size).extract j (B.extract i B.size).size = B.extract (i + j) B.size := by
  have hEnd : min (i + (B.extract i B.size).size) B.size = B.size := by simp; omega
  rw [ByteArray.extract_extract, hEnd]

/-- The bytes a read at `p` takes, followed by the file from where the read left off, are the
file from `p`. -/
theorem extract_taken_append (p n : Nat) :
    B.extract p (p + n) ++ B.extract (p + (B.extract p (p + n)).size) B.size =
      B.extract p B.size := by
  by_cases hp : p ≤ B.size
  · have hMid : p + (B.extract p (p + n)).size = min (p + n) B.size := by simp; omega
    rw [hMid, ← extract_min_end B p (p + n), ByteArray.extract_append_extract]
    congr 1 <;> omega
  · have hEmpty : ∀ j, B.extract p j = ByteArray.empty := fun j => by simp; omega
    simp only [hEmpty, ByteArray.size_empty, Nat.add_zero, ByteArray.empty_append]

theorem extract_drop_append (c : ByteArray) {k : Nat} (hk : k ≤ B.size) (j : Nat) :
    (B.extract k B.size ++ c).extract j (B.extract k B.size ++ c).size =
      (B ++ c).extract (k + j) (B ++ c).size := by
  have hSplit : B ++ c = B.extract 0 k ++ (B.extract k B.size ++ c) := by
    rw [← ByteArray.append_assoc, ByteArray.extract_append_extract, Nat.min_eq_left (Nat.zero_le _),
      Nat.max_eq_right hk, ByteArray.extract_zero_size]
  have hPre : (B.extract 0 k).size = k := by simp; omega
  have hSize : (B.extract 0 k ++ (B.extract k B.size ++ c)).size =
      k + (B.extract k B.size ++ c).size := by
    rw [ByteArray.size_append (a := B.extract 0 k), hPre]
  rw [hSplit, hSize, ByteArray.extract_append_size_add' hPre.symm]

end Suffix

/-- Reading at an offset of some bytes is reading at the start of the bytes from there on. -/
theorem ByteSource.decodeAt_suffix (B : ByteArray) (ending : SourceEnd) (ro : Nat) :
    ByteSource.decodeAt ⟨B.extract ro B.size, ending⟩ 0 = ByteSource.decodeAt ⟨B, ending⟩ ro := by
  by_cases hro : ro ≤ B.size
  · have hShift := ByteSource.decodeAt_shift (B.extract 0 ro) (B.extract ro B.size) ending 0
    have hPre : (B.extract 0 ro).size = ro := by simp; omega
    rw [ByteArray.extract_append_extract, Nat.min_eq_left (Nat.zero_le _),
      Nat.max_eq_right hro, ByteArray.extract_zero_size, hPre, Nat.add_zero] at hShift
    exact hShift.symm
  · have hLeft : (B.extract ro B.size).size - 0 = 0 := by simp; omega
    have hRight : B.size - ro = 0 := by omega
    simp only [ByteSource.decodeAt, hLeft, hRight, ↓reduceIte]

/-! ## The read-ahead buffer -/

namespace ReadAhead

variable {d : Disk} {h ino : Nat} {x : Handle} {B : ByteArray}

/-- Through a reading handle, the reader sees the buffered bytes and then the file from the
handle's position, ending cleanly. -/
theorem view_of_reads (hR : d.ReadsFile h ino x) (pending : ByteArray) :
    view d h pending =
      ⟨pending ++ (d.tree.contents ino).extract x.pos (d.tree.contents ino).size, .clean⟩ := by
  simp [view, hR.not_faulted, hR.handle, hR.node]

theorem consumeWith_zero (d : Disk) (h : Nat) (pending : ByteArray) (fuel : Nat) :
    consumeWith d h pending 0 fuel = (pending, d) := by
  cases fuel <;> rfl

theorem consumeWith_spec {h ino : Nat} {B : ByteArray} :
    ∀ (fuel : Nat) (d : Disk) (x : Handle) (pending : ByteArray) (req : Nat),
      d.ReadsFile h ino x → d.tree.contents ino = B →
      req ≤ pending.size + (B.size - x.pos) →
      (req = 0 ∨ 2 * req + (if pending.size = 0 then 1 else 0) ≤ fuel) →
      ∃ q, (consumeWith d h pending req fuel).2 = d.setHandle h { x with pos := q } ∧
        (consumeWith d h pending req fuel).1 ++ B.extract q B.size =
          (pending ++ B.extract x.pos B.size).extract req (pending ++ B.extract x.pos B.size).size := by
  intro fuel
  induction fuel with
  | zero =>
    intro d x pending req hR _ _ hFuel
    have hReq : req = 0 := by rcases hFuel with hFuel | hFuel <;> omega
    subst hReq
    refine ⟨x.pos, ?_, ?_⟩
    · rw [consumeWith_zero]
      exact (Disk.setHandle_self hR.handle).symm
    · rw [consumeWith_zero, ByteArray.extract_zero_size]
  | succ fuel ih =>
    intro d x pending req hR hB hReq hFuel
    cases req with
    | zero =>
      refine ⟨x.pos, ?_, ?_⟩
      · rw [consumeWith_zero]
        exact (Disk.setHandle_self hR.handle).symm
      · rw [consumeWith_zero, ByteArray.extract_zero_size]
    | succ r =>
      have hFuel' : 2 * (r + 1) + (if pending.size = 0 then 1 else 0) ≤ fuel + 1 := by omega
      by_cases hp : pending.size > 0
      · -- served from the buffered bytes
        have hk : min (r + 1) pending.size ≤ pending.size := Nat.min_le_right _ _
        obtain ⟨q, hDisk, hBytes⟩ := ih d x (pending.extract (min (r + 1) pending.size) pending.size)
          (r + 1 - min (r + 1) pending.size) hR hB (by simp; omega) (by
            right
            have hNe : ¬ pending.size = 0 := by omega
            simp only [hNe, ↓reduceIte] at hFuel'
            split <;> omega)
        refine ⟨q, ?_, ?_⟩
        · simp only [consumeWith, hp, ↓reduceIte]
          exact hDisk
        · simp only [consumeWith, hp, ↓reduceIte]
          rw [hBytes, extract_drop_append pending _ hk]
          congr 1
          omega
      · have hEmpty : pending = ByteArray.empty := ByteArray.size_eq_zero_iff.mp (by omega)
        subst hEmpty
        have hPos : x.pos < B.size := by simp at hReq; omega
        have hNotBuffered : ¬ ByteArray.empty.size > 0 := by simp
        simp only [ByteArray.size_empty, ↓reduceIte] at hFuel'
        by_cases hCap : r + 1 ≥ capacity
        · -- a request of at least the buffer's size goes straight to the file
          have hRead := Disk.read_of_lt hR (n := r + 1) (by omega) (by rw [hB]; exact hPos)
          rw [hB] at hRead
          have hGot : 0 < (B.extract x.pos (x.pos + (r + 1))).size := by simp; omega
          have hGotLe : (B.extract x.pos (x.pos + (r + 1))).size ≤ r + 1 := by simp; omega
          obtain ⟨q, hDisk, hBytes⟩ := ih _ _ ByteArray.empty
            (r + 1 - (B.extract x.pos (x.pos + (r + 1))).size)
            (hR.setPos (x.pos + (B.extract x.pos (x.pos + (r + 1))).size)) (by simpa using hB)
            (by dsimp only; simp; omega)
            (by right; simp only [ByteArray.size_empty, ↓reduceIte]; omega)
          refine ⟨q, ?_, ?_⟩
          · simp only [consumeWith, hNotBuffered, hCap, hRead, ↓reduceIte,
              Nat.pos_iff_ne_zero.mp hGot]
            rw [hDisk, Disk.setHandle_setHandle]
          · simp only [consumeWith, hNotBuffered, hCap, hRead, ↓reduceIte,
              Nat.pos_iff_ne_zero.mp hGot]
            rw [hBytes, ByteArray.empty_append, ByteArray.empty_append, extract_suffix_suffix,
              extract_suffix_suffix]
            congr 1
            dsimp only
            omega
        · -- a smaller request first refills the buffer
          have hRead := Disk.read_of_lt hR (n := capacity) (by decide) (by rw [hB]; exact hPos)
          rw [hB] at hRead
          have hGot : 0 < (B.extract x.pos (x.pos + capacity)).size := by simp [capacity]; omega
          have hTaken := extract_taken_append B x.pos capacity
          have hGotLe : (B.extract x.pos (x.pos + capacity)).size ≤ B.size - x.pos := by
            simp; omega
          obtain ⟨q, hDisk, hBytes⟩ := ih _ _ (B.extract x.pos (x.pos + capacity)) (r + 1)
            (hR.setPos (x.pos + (B.extract x.pos (x.pos + capacity)).size)) (by simpa using hB)
            (by simp only at hReq ⊢; simp at hGot ⊢; omega)
            (by right; simp only [Nat.pos_iff_ne_zero.mp hGot, ↓reduceIte]; omega)
          refine ⟨q, ?_, ?_⟩
          · simp only [consumeWith, hNotBuffered, hCap, hRead, ↓reduceIte,
              Nat.pos_iff_ne_zero.mp hGot]
            rw [hDisk, Disk.setHandle_setHandle]
          · simp only [consumeWith, hNotBuffered, hCap, hRead, ↓reduceIte,
              Nat.pos_iff_ne_zero.mp hGot]
            rw [hBytes, ByteArray.empty_append, hTaken]

/-- Reading `n` bytes through a coherent buffer, when the file has them, leaves the buffer
coherent `n` bytes further on, and moves only the handle. -/
theorem consume_coherent (hR : d.ReadsFile h ino x) (hB : d.tree.contents ino = B)
    {pending : ByteArray} {ro n : Nat}
    (hCoh : pending ++ B.extract x.pos B.size = B.extract ro B.size) (hn : ro + n ≤ B.size) :
    ∃ q, (consume d h pending n).2 = d.setHandle h { x with pos := q } ∧
      (consume d h pending n).1 ++ B.extract q B.size = B.extract (ro + n) B.size := by
  have hSize := congrArg ByteArray.size hCoh
  simp only [ByteArray.size_append, ByteArray.size_extract, Nat.min_self] at hSize
  obtain ⟨q, hDisk, hBytes⟩ := consumeWith_spec (2 * n + 2) d x pending n hR hB (by omega)
    (by right; split <;> omega)
  refine ⟨q, hDisk, ?_⟩
  rw [consume, hBytes, hCoh, extract_suffix_suffix]

/-- Reading a record's header and then the rest of it through a coherent buffer leaves the
buffer coherent just past the record. -/
theorem consume_record (hR : d.ReadsFile h ino x) (hB : d.tree.contents ino = B)
    {pending : ByteArray} {ro used : Nat}
    (hCoh : pending ++ B.extract x.pos B.size = B.extract ro B.size)
    (hUsed : headerSize ≤ used) (hEnd : ro + used ≤ B.size) :
    ∃ q, (consume (consume d h pending headerSize).2 h (consume d h pending headerSize).1
          (used - headerSize)).2 = d.setHandle h { x with pos := q } ∧
      (consume (consume d h pending headerSize).2 h (consume d h pending headerSize).1
          (used - headerSize)).1 ++ B.extract q B.size = B.extract (ro + used) B.size := by
  obtain ⟨q₁, hDisk₁, hBytes₁⟩ := consume_coherent hR hB hCoh (n := headerSize) (by omega)
  rw [hDisk₁]
  obtain ⟨q₂, hDisk₂, hBytes₂⟩ := consume_coherent (hR.setPos q₁) (by simpa using hB) hBytes₁
    (n := used - headerSize) (by omega)
  refine ⟨q₂, ?_, ?_⟩
  · rw [hDisk₂, Disk.setHandle_setHandle]
  · rw [hBytes₂]
    congr 1
    omega

end ReadAhead

/-! ## Reading a record at the cursor -/

/-- What reading the record at offset `ro` of the bytes `B` gives, and the offset after it: a
record failure is located from `ro` to the last byte the read took. -/
def readAt (B : ByteArray) (ro : Nat) : Except Failure (Option Entry) × Nat :=
  match ByteSource.decodeAt ⟨B, .clean⟩ ro with
  | .finished => (.ok none, ro)
  | .failed f used => (.error (.record ro (ro + used) f), ro)
  | .entry e used => (.ok (some e), ro + used)

namespace Log

variable {l : Log} {w : World} {h ino : Nat} {x : Handle}

/-- The log reads the file `ino` through the handle `h`, which stands as `x`: the file is open
with its header accepted, and the buffered bytes followed by the file from the handle's position
are the file from the cursor on. -/
structure ReadsAt (l : Log) (d : Disk) (h ino : Nat) (x : Handle) : Prop where
  file : l.file = some h
  header : l.headerError = none
  reads : d.ReadsFile h ino x
  buffered : ∀ b, l.buffer = some b →
    b ++ (d.tree.contents ino).extract x.pos (d.tree.contents ino).size =
      (d.tree.contents ino).extract l.readOffset (d.tree.contents ino).size

theorem usable_of_open (hFile : l.file = some h) (hHeader : l.headerError = none) :
    usable l w = ((.ok h, l), w) := by
  simp [usable, bind, StateT.bind, get, getThe, MonadStateOf.get, StateT.get, pure,
    StateT.pure, hFile, hHeader]

/-- Every failure of a read over bytes that end cleanly is located at its record. -/
theorem located_of_clean {B : ByteArray} {pos used : Nat} {f : Failure}
    (hd : ByteSource.decodeAt ⟨B, .clean⟩ pos = .failed f used) : located f = true := by
  obtain ⟨-, -, hf⟩ := ByteSource.decodeAt_failed_clean hd
  rcases hf with ⟨rfl, -⟩ | ⟨rfl, -⟩ | ⟨d, rfl⟩ | ⟨d, rfl⟩ | ⟨s, c, rfl⟩ <;> rfl

/-- Moving the handle and the cursor together, with a buffer coherent between them, keeps the
log reading the file. -/
theorem ReadsAt.moved {d : Disk} (hR : l.ReadsAt d h ino x) (q ro : Nat) (buf : Option ByteArray)
    (hCoh : ∀ b, buf = some b →
      b ++ (d.tree.contents ino).extract q (d.tree.contents ino).size =
        (d.tree.contents ino).extract ro (d.tree.contents ino).size) :
    ({ l with buffer := buf, readOffset := ro } : Log).ReadsAt
      (d.setHandle h { x with pos := q }) h ino { x with pos := q } where
  file := hR.file
  header := hR.header
  reads := hR.reads.setPos q
  buffered := hCoh

/-- **Reading at the cursor.** A log reading a file reads the record at its cursor as `readAt`
does on the file's bytes, moves its cursor past it, and stays reading the file; the world
changes only by the position of its handle. -/
theorem read_spec (hR : l.ReadsAt w.disk h ino x) :
    ∃ q buf, Log.read l w =
        (((readAt (w.disk.tree.contents ino) l.readOffset).1,
          { l with buffer := buf,
                   readOffset := (readAt (w.disk.tree.contents ino) l.readOffset).2 }),
          { w with disk := w.disk.setHandle h { x with pos := q } }) ∧
      ({ l with buffer := buf,
                readOffset := (readAt (w.disk.tree.contents ino) l.readOffset).2 } : Log).ReadsAt
        (w.disk.setHandle h { x with pos := q }) h ino { x with pos := q } ∧
      (buf.isSome → ∃ e, (readAt (w.disk.tree.contents ino) l.readOffset).1 = .ok (some e)) := by
  have hMoved := hR.moved
  obtain ⟨hFile, hHeader, hReads, hBuffered⟩ := hR
  obtain ⟨B, hB⟩ : ∃ B, w.disk.tree.contents ino = B := ⟨_, rfl⟩
  rw [hB] at hMoved hBuffered
  cases hBuf : l.buffer with
  | some b =>
    have hView : ReadAhead.view w.disk h b = ⟨B.extract l.readOffset B.size, .clean⟩ := by
      rw [ReadAhead.view_of_reads hReads, hB, hBuffered b hBuf]
    simp only [Log.read, bind, StateT.bind, usable_of_open hFile hHeader, get, getThe,
      MonadStateOf.get, StateT.get, pure, StateT.pure, hBuf, Log.lift, StateT.lift, Sys.disk,
      modify, modifyGet, MonadStateOf.modifyGet, Sys.onDisk, hView,
      ByteSource.decodeAt_suffix, hB]
    cases hd : ByteSource.decodeAt ⟨B, .clean⟩ l.readOffset with
    | finished =>
      rw [show readAt B l.readOffset = (.ok none, l.readOffset) by simp [readAt, hd]]
      refine ⟨x.pos, none, ?_, hMoved x.pos l.readOffset none (by simp), by simp⟩
      simp [bind, pure, StateT.bind, StateT.pure, StateT.modifyGet, Disk.setHandle_pos_self hReads.handle]
    | failed f used =>
      rw [show readAt B l.readOffset = (.error (.record l.readOffset (l.readOffset + used) f),
        l.readOffset) by simp [readAt, hd]]
      refine ⟨x.pos, none, ?_, hMoved x.pos l.readOffset none (by simp), by simp⟩
      simp [bind, pure, StateT.bind, StateT.pure, StateT.modifyGet, Disk.setHandle_pos_self hReads.handle, located_of_clean hd]
    | entry e used =>
      rw [show readAt B l.readOffset = (.ok (some e), l.readOffset + used) by simp [readAt, hd]]
      obtain ⟨hUsed, hEnd⟩ := ByteSource.decodeAt_entry_bounds hd
      obtain ⟨q, hDisk, hBytes⟩ :=
        ReadAhead.consume_record hReads hB (hBuffered b hBuf) hUsed hEnd
      refine ⟨q, _, ?_, hMoved q (l.readOffset + used) (some _) (by rintro _ ⟨⟩; exact hBytes),
        fun _ => ⟨e, rfl⟩⟩
      simp [bind, pure, StateT.bind, StateT.pure, StateT.lift, StateT.modifyGet, hDisk]
  | none =>
    have hReads' := hReads.setPos l.readOffset
    have hB' : (w.disk.setHandle h { x with pos := l.readOffset }).tree.contents ino = B := by
      simpa using hB
    have hView : ReadAhead.view (w.disk.setHandle h { x with pos := l.readOffset }) h
        ByteArray.empty = ⟨B.extract l.readOffset B.size, .clean⟩ := by
      rw [ReadAhead.view_of_reads hReads', hB', ByteArray.empty_append]
    simp only [Log.read, bind, StateT.bind, usable_of_open hFile hHeader, get, getThe,
      MonadStateOf.get, StateT.get, pure, StateT.pure, hBuf, Log.lift, StateT.lift, Sys.disk,
      modify, modifyGet, MonadStateOf.modifyGet, Sys.onDisk,
      StateT.modifyGet, Disk.seek_start hReads.handle hReads.live, hView,
      ByteSource.decodeAt_suffix, hB]
    cases hd : ByteSource.decodeAt ⟨B, .clean⟩ l.readOffset with
    | finished =>
      rw [show readAt B l.readOffset = (.ok none, l.readOffset) by simp [readAt, hd]]
      refine ⟨l.readOffset, none, ?_, hMoved l.readOffset l.readOffset none (by simp), by simp⟩
      simp [bind, pure, StateT.bind, StateT.pure, StateT.modifyGet]
    | failed f used =>
      rw [show readAt B l.readOffset = (.error (.record l.readOffset (l.readOffset + used) f),
        l.readOffset) by simp [readAt, hd]]
      refine ⟨l.readOffset, none, ?_, hMoved l.readOffset l.readOffset none (by simp), by simp⟩
      simp [bind, pure, StateT.bind, StateT.pure, StateT.modifyGet,
        located_of_clean hd]
    | entry e used =>
      rw [show readAt B l.readOffset = (.ok (some e), l.readOffset + used) by simp [readAt, hd]]
      obtain ⟨hUsed, hEnd⟩ := ByteSource.decodeAt_entry_bounds hd
      obtain ⟨q, hDisk, hBytes⟩ :=
        ReadAhead.consume_record hReads' hB' ByteArray.empty_append hUsed hEnd
      refine ⟨q, _, ?_, hMoved q (l.readOffset + used) (some _) (by rintro _ ⟨⟩; exact hBytes),
        fun _ => ⟨e, rfl⟩⟩
      simp [bind, pure, StateT.bind, StateT.pure, StateT.lift, StateT.modifyGet, hDisk]

end Log

end LogStore
