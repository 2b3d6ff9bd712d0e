import LogStore.Proofs.Record

/-!
# Reading records one after another

A log's records are read one after another from the end of its header: each read starts where
the last one ended, and reading stops at the end of the bytes or at the first read that fails.
`scanRecords b pos` is that reading over bytes that end cleanly, as a plain function of the
bytes; the store's replay, its recovery and verification are all shown to follow it.

* `Scan` holds what reading found: the records, the offset `stop` where it stopped (just past
  the last good record), and the failed read at `stop` with the bytes it took, if any.
* `Entry.encodeAll` writes a list of entries as records, one after another.
* `scanRecords_encodeAll`: records written one after another read back, in order, as the
  entries they store, and reading goes on after them as it would have without them.
* `scanRecords_append`: appending bytes after a log that reads to its end without a failure
  changes nothing of what was read, and reading goes on into the appended bytes.
* `scanRecords_stop_le`, `scanRecords_stop_of_none`, `scanRecords_failed`: reading stops inside
  the bytes; at their very end when nothing failed, and otherwise where the failed read starts.
-/

namespace LogStore

/-- What reading records one after another found: the records, the offset where reading
stopped, and the failed read there with the bytes it took, if reading did not reach the end. -/
structure Scan where
  records : List Entry
  stop : Nat
  failure : Option (Failure × Nat)

/-- The records of a list of entries, one after another. -/
def Entry.encodeAll : List Entry → ByteArray
  | [] => ByteArray.empty
  | e :: es => e.encode ++ Entry.encodeAll es

/-- Reads records from `pos` on, over bytes that end cleanly, until the end of the bytes or the
first read that fails. -/
def scanRecords (b : ByteArray) (pos : Nat) : Scan :=
  match h : ByteSource.decodeAt ⟨b, .clean⟩ pos with
  | .finished => ⟨[], pos, none⟩
  | .failed f used => ⟨[], pos, some (f, used)⟩
  | .entry e used =>
    let rest := scanRecords b (pos + used)
    ⟨e :: rest.records, rest.stop, rest.failure⟩
termination_by b.size - pos
decreasing_by
  have := ByteSource.decodeAt_entry_bounds h
  simp only [headerSize] at this
  omega

namespace Entry

@[simp] theorem encodeAll_nil : encodeAll [] = ByteArray.empty := rfl

@[simp] theorem encodeAll_cons (e : Entry) (es : List Entry) :
    encodeAll (e :: es) = e.encode ++ encodeAll es := rfl

theorem encodeAll_append (es fs : List Entry) :
    encodeAll (es ++ fs) = encodeAll es ++ encodeAll fs := by
  induction es with
  | nil => simp
  | cons e es ih => simp [ih, ByteArray.append_assoc]

theorem encodeAll_concat (es : List Entry) (e : Entry) :
    encodeAll (es ++ [e]) = encodeAll es ++ e.encode := by
  simp [encodeAll_append]

end Entry

section Equations

variable {b : ByteArray} {pos : Nat}

theorem scanRecords_of_finished (h : ByteSource.decodeAt ⟨b, .clean⟩ pos = .finished) :
    scanRecords b pos = ⟨[], pos, none⟩ := by
  rw [scanRecords]
  split <;> simp_all

theorem scanRecords_of_failed {f : Failure} {used : Nat}
    (h : ByteSource.decodeAt ⟨b, .clean⟩ pos = .failed f used) :
    scanRecords b pos = ⟨[], pos, some (f, used)⟩ := by
  rw [scanRecords]
  split <;> simp_all

theorem scanRecords_of_entry {e : Entry} {used : Nat}
    (h : ByteSource.decodeAt ⟨b, .clean⟩ pos = .entry e used) :
    scanRecords b pos =
      ⟨e :: (scanRecords b (pos + used)).records, (scanRecords b (pos + used)).stop,
        (scanRecords b (pos + used)).failure⟩ := by
  rw [scanRecords]
  split <;> simp_all

theorem scanRecords_of_le (h : b.size ≤ pos) : scanRecords b pos = ⟨[], pos, none⟩ :=
  scanRecords_of_finished (ByteSource.decodeAt_finished_iff.mpr h)

end Equations

/-- Reading stops inside the bytes, and never before where it started. -/
theorem scanRecords_stop_le (b : ByteArray) (pos : Nat) (h : pos ≤ b.size) :
    pos ≤ (scanRecords b pos).stop ∧ (scanRecords b pos).stop ≤ b.size := by
  fun_induction scanRecords b pos with
  | case1 pos hd => exact ⟨Nat.le_refl _, h⟩
  | case2 pos f used hd => exact ⟨Nat.le_refl _, h⟩
  | case3 pos e used hd rest ih =>
    dsimp only [rest] at *
    have hUsed := ByteSource.decodeAt_entry_bounds hd
    have := ih (by simpa using hUsed.2)
    exact ⟨by omega, this.2⟩

/-- Reading that meets no failure stops at the very end of the bytes. -/
theorem scanRecords_stop_of_none (b : ByteArray) (pos : Nat) (h : pos ≤ b.size)
    (hNone : (scanRecords b pos).failure = none) : (scanRecords b pos).stop = b.size := by
  fun_induction scanRecords b pos with
  | case1 pos hd =>
    have := ByteSource.decodeAt_finished_iff.mp hd
    dsimp only
    omega
  | case2 pos f used hd => simp at hNone
  | case3 pos e used hd rest ih =>
    dsimp only [rest] at *
    have hUsed := ByteSource.decodeAt_entry_bounds hd
    exact ih (by simpa using hUsed.2) hNone

/-- A failure that stops reading is the failed read at the offset where reading stopped. -/
theorem scanRecords_failed (b : ByteArray) (pos : Nat) {f : Failure} {used : Nat}
    (hSome : (scanRecords b pos).failure = some (f, used)) :
    ByteSource.decodeAt ⟨b, .clean⟩ (scanRecords b pos).stop = .failed f used := by
  fun_induction scanRecords b pos with
  | case1 pos hd => simp at hSome
  | case2 pos f' used' hd =>
    simp only [Option.some.injEq, Prod.mk.injEq] at hSome
    obtain ⟨rfl, rfl⟩ := hSome
    exact hd
  | case3 pos e used' hd rest ih =>
    dsimp only [rest] at *
    exact ih hSome

/-- Every record read takes at least one byte, so reading from `pos` reads no more records than
there are bytes from `pos` to where it stopped. -/
theorem scanRecords_length_le (b : ByteArray) (pos : Nat) :
    (scanRecords b pos).records.length ≤ (scanRecords b pos).stop - pos := by
  fun_induction scanRecords b pos with
  | case1 pos hd => simp
  | case2 pos f used hd => simp
  | case3 pos e used hd rest ih =>
    dsimp only [rest] at *
    have hUsed := ByteSource.decodeAt_entry_bounds hd
    have hStop := scanRecords_stop_le b (pos + used) (by simpa using hUsed.2)
    simp only [headerSize, List.length_cons] at hUsed ⊢
    omega

theorem scanRecords_length_le_size (b : ByteArray) (pos : Nat) :
    (scanRecords b pos).records.length ≤ b.size := by
  rcases Nat.lt_or_ge b.size pos with hLt | hLe
  · simp [scanRecords_of_le (Nat.le_of_lt hLt)]
  · have hLength := scanRecords_length_le b pos
    have hStop := scanRecords_stop_le b pos hLe
    omega

/-- A failed read that stops reading starts inside the bytes, no earlier than reading did, and
takes no bytes past their end. -/
theorem scanRecords_failure_bounds (b : ByteArray) (pos : Nat) {f : Failure} {used : Nat}
    (hSome : (scanRecords b pos).failure = some (f, used)) :
    pos ≤ (scanRecords b pos).stop ∧ (scanRecords b pos).stop < b.size ∧
      (scanRecords b pos).stop + used ≤ b.size := by
  have hBounds := ByteSource.decodeAt_failed_clean (scanRecords_failed b pos hSome)
  have hPos : pos ≤ b.size := by
    rcases Nat.lt_or_ge b.size pos with hLt | hLe
    · rw [scanRecords_of_le (Nat.le_of_lt hLt)] at hSome
      simp at hSome
    · exact hLe
  exact ⟨(scanRecords_stop_le b pos hPos).1, hBounds.1, hBounds.2.1⟩

/-- Reading meets no failure exactly when it reaches the end of the bytes. -/
theorem scanRecords_failure_eq_none_iff (b : ByteArray) (pos : Nat) (h : pos ≤ b.size) :
    (scanRecords b pos).failure = none ↔ (scanRecords b pos).stop = b.size := by
  constructor
  · exact scanRecords_stop_of_none b pos h
  · intro hStop
    rcases hSome : (scanRecords b pos).failure with _ | ⟨f, used⟩
    · rfl
    · have := (scanRecords_failure_bounds b pos hSome).2.1
      omega

/-- Every record read stays within the size limits of the format. -/
theorem scanRecords_valid (b : ByteArray) (pos : Nat) :
    ∀ e ∈ (scanRecords b pos).records,
      e.key.size ≤ maxKeySize ∧ e.value.size ≤ maxValueSize := by
  fun_induction scanRecords b pos with
  | case1 pos hd => simp
  | case2 pos f used hd => simp
  | case3 pos e used hd rest ih =>
    dsimp only [rest] at *
    intro e' he'
    rcases List.mem_cons.mp he' with rfl | he'
    · exact ByteSource.decodeAt_entry_valid hd
    · exact ih e' he'

/-- Appending bytes after a log that reads to its end keeps every record read, and reading goes
on into the appended bytes. -/
theorem scanRecords_append (b c : ByteArray) (pos : Nat) (h : pos ≤ b.size)
    (hNone : (scanRecords b pos).failure = none) :
    scanRecords (b ++ c) pos =
      ⟨(scanRecords b pos).records ++ (scanRecords (b ++ c) b.size).records,
        (scanRecords (b ++ c) b.size).stop, (scanRecords (b ++ c) b.size).failure⟩ := by
  fun_induction scanRecords b pos with
  | case1 pos hd =>
    have hEnd : pos = b.size := by
      have := ByteSource.decodeAt_finished_iff.mp hd
      omega
    subst hEnd
    rfl
  | case2 pos f used hd => simp at hNone
  | case3 pos e used hd rest ih =>
    dsimp only [rest] at *
    have hUsed := ByteSource.decodeAt_entry_bounds hd
    rw [scanRecords_of_entry (ByteSource.decodeAt_append_of_entry hd c),
      ih (by simpa using hUsed.2) hNone]
    simp

/-- Records written one after another read back as the entries they store, and reading then goes
on after them. -/
theorem scanRecords_encodeAll (pre post : ByteArray) (es : List Entry) (hValid : ∀ e ∈ es, e.Valid) :
    scanRecords (pre ++ Entry.encodeAll es ++ post) pre.size =
      ⟨es.map Entry.stored ++
          (scanRecords (pre ++ Entry.encodeAll es ++ post)
            (pre.size + (Entry.encodeAll es).size)).records,
        (scanRecords (pre ++ Entry.encodeAll es ++ post)
          (pre.size + (Entry.encodeAll es).size)).stop,
        (scanRecords (pre ++ Entry.encodeAll es ++ post)
          (pre.size + (Entry.encodeAll es).size)).failure⟩ := by
  induction es generalizing pre with
  | nil => simp
  | cons e es ih =>
    have he := hValid e List.mem_cons_self
    have hRead : ByteSource.decodeAt ⟨pre ++ Entry.encodeAll (e :: es) ++ post, .clean⟩
        pre.size = .entry e.stored e.encodedSize := by
      have hShift := ByteSource.decodeAt_shift pre (e.encode ++ (Entry.encodeAll es ++ post))
        .clean 0
      rw [Nat.add_zero, ByteSource.decodeAt_encode he] at hShift
      simpa [ByteArray.append_assoc] using hShift
    have hRest := ih (pre ++ e.encode) (fun e' he' => hValid e' (List.mem_cons_of_mem _ he'))
    have hBytes : pre ++ e.encode ++ Entry.encodeAll es ++ post =
        pre ++ Entry.encodeAll (e :: es) ++ post := by
      simp [ByteArray.append_assoc]
    rw [hBytes] at hRest
    rw [scanRecords_of_entry hRead]
    simp only [ByteArray.size_append, Entry.size_encode] at hRest
    rw [hRest]
    simp [ByteArray.size_append, Nat.add_assoc]

end LogStore
