import LogStore.Proofs.LogFile

/-!
# The read cursor and appends

A log keeps two positions: the position of its handle, which reads and writes share, and its
cursor, behind a read-ahead buffer. Writes go to the physical end of the file, cuts may pull
the cursor back, and every call that moves the handle drops the buffer. This module shows that
the two never interfere, over any run of calls a client makes.

`Reads B p seen q` says that reading records one after another from offset `p` of the bytes `B`
reaches `q`, having read `seen`, each record with the offset where it ends. Reading is
determined by the bytes (`Reads.eq_filter`), bytes appended after the file leave its records
(`Reads.append`), and a cut after the last record read keeps them (`Reads.extract`).

`Log.Cursor l w h ino seen` is the invariant. The log reads the file `ino` through the handle
`h`, with its buffer coherent with the file. The header is accepted. The cursor is where
reading `seen` from the end of the header stops. The list `seen` is what a client keeps of
its answers (`Answer.track`): the records read since it last went back to the first record,
less those that a cut has taken.

* `Cursor.write`, `Cursor.read`, `Cursor.seekToFirst`, `Cursor.truncate`, `Cursor.copyRange`,
  `Cursor.size`: one step lemma per call. `Cursor.perform` and `Cursor.performAll` carry the
  invariant over one call and over any run, where every cut is to a record boundary.
* `Cursor.of_openFile`: opening a file establishes the invariant, with nothing read.
* `Log.Serves` is what the client sees. `cursor_follows_records`: after opening and any run,
  the cursor stands where reading the kept records stops, the buffer holds the file from the
  cursor on, a write appends exactly its record, and a read gives the record at the cursor or,
  at the end, nothing, and after an append there the appended entry.
* `record_read_twice_after_cut`: the records read since opening, counted without what cuts
  take, need not be the file's records. Read a record, cut back to the header, write the
  record again, and the next read returns it a second time.
-/

namespace LogStore

/-! ## Reading records one after another -/

/-- Reading records one after another from offset `p` reaches offset `q`, having read `seen`:
each record with the offset where it ends. -/
inductive Reads (B : ByteArray) : Nat → List (Entry × Nat) → Nat → Prop
  | done (p : Nat) : Reads B p [] p
  | next {p u q : Nat} {e : Entry} {rest : List (Entry × Nat)} :
      ByteSource.decodeAt ⟨B, .clean⟩ p = .entry e u → Reads B (p + u) rest q →
        Reads B p ((e, p + u) :: rest) q

namespace Reads

variable {B : ByteArray} {p q n : Nat} {seen kept : List (Entry × Nat)}

theorem le (h : Reads B p seen q) : p ≤ q := by
  induction h with
  | done => exact Nat.le_refl _
  | next _ _ ih => omega

theorem le_size (h : Reads B p seen q) (hp : p ≤ B.size) : q ≤ B.size := by
  induction h with
  | done => exact hp
  | next hd _ ih => exact ih (ByteSource.decodeAt_entry_bounds hd).2

/-- Every record read ends past where reading started and no later than where it stopped. -/
theorem ends_between (h : Reads B p seen q) : ∀ r ∈ seen, p < r.2 ∧ r.2 ≤ q := by
  induction h with
  | done => simp
  | next hd rest ih =>
    have hUsed := (ByteSource.decodeAt_entry_bounds hd).1
    have hRest := rest.le
    simp only [headerSize] at hUsed
    intro r hr
    rcases List.mem_cons.mp hr with rfl | hr
    · exact ⟨by omega, hRest⟩
    · have := ih r hr
      omega

/-- One more record read at the end. -/
theorem snoc (h : Reads B p seen q) {e : Entry} {u : Nat}
    (hd : ByteSource.decodeAt ⟨B, .clean⟩ q = .entry e u) :
    Reads B p (seen ++ [(e, q + u)]) (q + u) := by
  induction h with
  | done => exact .next hd (.done _)
  | next hd' _ ih => exact .next hd' (ih hd)

/-- Bytes added after the file leave its records where they were. -/
theorem append (h : Reads B p seen q) (c : ByteArray) : Reads (B ++ c) p seen q := by
  induction h with
  | done => exact .done _
  | next hd _ ih => exact .next (ByteSource.decodeAt_append_of_entry hd c) ih

/-- Cutting the file at or after where reading stopped leaves the records read. -/
theorem extract (h : Reads B p seen q) (hq : q ≤ n) : Reads (B.extract 0 n) p seen q := by
  induction h with
  | done => exact .done _
  | @next p u q e rest hd rest' ih =>
    have hLe := rest'.le
    obtain ⟨-, hEnd⟩ := ByteSource.decodeAt_entry_bounds hd
    dsimp only at hEnd
    refine .next (ByteSource.decodeAt_entry_congr hd ?_ ?_) (ih hq)
    · simp
      omega
    · rw [ByteArray.extract_extract, Nat.zero_add, Nat.zero_add, Nat.min_eq_left (by omega)]

/-- Reading from an offset is determined by the bytes: reading that stops no further than `q`
has read the records of reading to `q` that end by then. -/
theorem eq_filter (h : Reads B p seen q) (h' : Reads B p kept n) (hn : n ≤ q) :
    kept = seen.filter (fun r => r.2 ≤ n) := by
  induction h generalizing kept with
  | done p =>
    cases h' with
    | done => rfl
    | next hd rest =>
      have hUsed := (ByteSource.decodeAt_entry_bounds hd).1
      have := rest.le
      simp only [headerSize] at hUsed
      omega
  | @next p u q e rest hd rest' ih =>
    cases h' with
    | done =>
      -- reading stopped at once, and every record of the longer reading ends past the start
      symm
      rw [List.filter_eq_nil_iff]
      intro r hr
      have := (Reads.next hd rest').ends_between r hr
      simp only [decide_eq_true_eq]
      omega
    | next hd' kept' =>
      -- both readings take the same first record
      rw [hd] at hd'
      cases hd'
      rw [List.filter_cons_of_pos (by simpa using kept'.le), ih kept' hn]

end Reads

/-- At or past the end of the file there is no record to read. -/
theorem readAt_of_le {B : ByteArray} {ro : Nat} (h : B.size ≤ ro) : readAt B ro = (.ok none, ro) := by
  simp [readAt, ByteSource.decodeAt_finished_iff.mpr h]

/-- A record appended at the end of a file is read back from there, as the entry it stores. -/
theorem readAt_append_encode (B : ByteArray) {e : Entry} (he : e.Valid) :
    readAt (B ++ e.encode) B.size = (.ok (some e.stored), B.size + e.encodedSize) := by
  have hRecord := ByteSource.decodeAt_encode he ByteArray.empty
  rw [ByteArray.append_empty] at hRecord
  have hd : ByteSource.decodeAt ⟨B ++ e.encode, .clean⟩ B.size = .entry e.stored e.encodedSize := by
    rw [← Nat.add_zero B.size, ByteSource.decodeAt_shift, hRecord]
  simp [readAt, hd]

namespace Log

/-! ## The invariant and the calls -/

/-- A log follows the records of the file `ino` through the handle `h`: it reads the file, with
its read-ahead buffer coherent, through a writable handle that no injected failure reaches; the
file's header is accepted; and the cursor stands where reading the records `seen` from the end
of the header stops. -/
structure Cursor (l : Log) (w : World) (h ino : Nat) (seen : List (Entry × Nat)) : Prop where
  reads : ∃ x, l.ReadsAt w.disk h ino x ∧ x.writable = true ∧ w.disk.faults.Quiet x.faulty
  accepts : Header.Accepts (w.disk.tree.contents ino)
  records : Reads (w.disk.tree.contents ino) Header.size seen l.readOffset

/-- A call a client makes on an open log. -/
inductive Call where
  | write (e : Entry)
  | read
  | seekToFirst
  | truncate (n : Nat)
  | copyRange (offset n : Int)
  | size

/-- What a call answers. A read and a cut also give the cursor they leave. -/
inductive Answer where
  | wrote (r : Except Failure Unit)
  | read (r : Except Failure (Option Entry)) (offset : Nat)
  | sought (r : Except Failure Unit)
  | cut (r : Except Failure Unit) (offset : Nat)
  | copied (r : ByteArray × Option Failure)
  | sized (r : Except Failure Nat)

namespace Call

/-- Makes the call. -/
def perform : Call → LogM Answer
  | .write e => do return .wrote (← Log.write e)
  | .read => do
    let r ← Log.read
    return .read r (← get).readOffset
  | .seekToFirst => do return .sought (← Log.seekToFirst)
  | .truncate n => do
    let r ← Log.truncate n
    return .cut r (← get).readOffset
  | .copyRange o n => do return .copied (← Log.copyRange o n)
  | .size => do return .sized (← Log.size)

/-- Makes the calls one after another. -/
def performAll : List Call → LogM (List Answer)
  | [] => return []
  | c :: cs => do
    let a ← c.perform
    return a :: (← performAll cs)

/-- Every cut among the calls is to a record boundary of the file `ino` as it stands when the
cut is made. -/
def CutsAtRecords (ino : Nat) : List Call → Log → World → Prop
  | [], _, _ => True
  | c :: cs, l, w =>
    (∀ n, c = .truncate n → ∃ kept, Reads (w.disk.tree.contents ino) Header.size kept n) ∧
      CutsAtRecords ino cs (c.perform l w).1.2 (c.perform l w).2

variable {l : Log} {w : World}

@[simp] theorem perform_write (e : Entry) :
    (Call.write e).perform l w =
      ((.wrote (Log.write e l w).1.1, (Log.write e l w).1.2), (Log.write e l w).2) :=
  rfl

@[simp] theorem perform_read :
    Call.read.perform l w =
      ((.read (Log.read l w).1.1 (Log.read l w).1.2.readOffset, (Log.read l w).1.2),
        (Log.read l w).2) :=
  rfl

@[simp] theorem perform_seekToFirst :
    Call.seekToFirst.perform l w =
      ((.sought (Log.seekToFirst l w).1.1, (Log.seekToFirst l w).1.2), (Log.seekToFirst l w).2) :=
  rfl

@[simp] theorem perform_truncate (n : Nat) :
    (Call.truncate n).perform l w =
      ((.cut (Log.truncate n l w).1.1 (Log.truncate n l w).1.2.readOffset,
        (Log.truncate n l w).1.2), (Log.truncate n l w).2) :=
  rfl

@[simp] theorem perform_copyRange (o n : Int) :
    (Call.copyRange o n).perform l w =
      ((.copied (Log.copyRange o n l w).1.1, (Log.copyRange o n l w).1.2),
        (Log.copyRange o n l w).2) :=
  rfl

@[simp] theorem perform_size :
    Call.size.perform l w = ((.sized (Log.size l w).1.1, (Log.size l w).1.2), (Log.size l w).2) :=
  rfl

@[simp] theorem performAll_nil : performAll [] l w = (([], l), w) := rfl

@[simp] theorem performAll_cons (c : Call) (cs : List Call) :
    performAll (c :: cs) l w =
      (((c.perform l w).1.1 :: (performAll cs (c.perform l w).1.2 (c.perform l w).2).1.1,
        (performAll cs (c.perform l w).1.2 (c.perform l w).2).1.2),
        (performAll cs (c.perform l w).1.2 (c.perform l w).2).2) :=
  rfl

end Call

namespace Answer

/-- The records a client has read since it last went back to the first record, each with the
cursor after it: a read adds its record, going back forgets them all, and a cut keeps those that
end by the cursor it leaves. -/
def track (seen : List (Entry × Nat)) : Answer → List (Entry × Nat)
  | .read (.ok (some e)) o => seen ++ [(e, o)]
  | .sought (.ok ()) => []
  | .cut (.ok ()) o => seen.filter (fun r => r.2 ≤ o)
  | _ => seen

/-- The records a client has read after a run of answers. -/
def trackAll (seen : List (Entry × Nat)) (as : List Answer) : List (Entry × Nat) :=
  as.foldl track seen

@[simp] theorem trackAll_nil (seen : List (Entry × Nat)) : trackAll seen [] = seen := rfl

@[simp] theorem trackAll_cons (seen : List (Entry × Nat)) (a : Answer) (as : List Answer) :
    trackAll seen (a :: as) = trackAll (a.track seen) as := rfl

end Answer

/-! ## One step per call -/

namespace Cursor

variable {l : Log} {w : World} {h ino : Nat} {seen : List (Entry × Nat)}

/-- **Writing.** A write succeeds exactly for a valid entry, and then appends its record at the
end of the file, wherever the cursor stands and whatever is read ahead; the cursor stays and the
log still follows the records. -/
theorem write (hC : l.Cursor w h ino seen) (e : Entry) :
    ((Log.write e l w).1.1 = .ok () ↔ e.Valid) ∧
    (e.Valid → (Log.write e l w).2.disk.tree.contents ino = w.disk.tree.contents ino ++ e.encode) ∧
    (Log.write e l w).1.2.readOffset = l.readOffset ∧
    (Log.write e l w).1.2.Cursor (Log.write e l w).2 h ino seen := by
  obtain ⟨⟨x, hR, hW, hQ⟩, hAcc, hRec⟩ := hC
  by_cases he : e.Valid
  · rw [write_of_open hR.file hR.header hR.reads hW hQ he]
    refine ⟨by simp [he], fun _ => by simp, rfl,
      ⟨⟨{ x with pos := (w.disk.tree.contents ino).size + e.encode.size }, ?_, hW, hQ⟩, ?_, ?_⟩⟩
    · exact ReadsAt.of_unbuffered hR.file hR.header ((hR.reads.retree _).setPos _) rfl
    · simpa using hAcc.append e.encode
    · simpa using hRec.append e.encode
  · obtain ⟨f, hf⟩ : ∃ f, e.validate = .error f := by
      cases hv : e.validate with
      | error f => exact ⟨f, rfl⟩
      | ok u => exact absurd ((Entry.validate_eq_ok_iff e).mp hv) he
    rw [write_of_invalid hR.file hR.header hf]
    exact ⟨by simp [he], fun hv => absurd hv he, rfl, ⟨x, hR, hW, hQ⟩, hAcc, hRec⟩

/-- **Reading.** A read gives what `readAt` reads at the cursor of the file and moves the cursor
past it; the file stays, and the log follows one more record when it read one. -/
theorem read (hC : l.Cursor w h ino seen) :
    (Log.read l w).1.1 = (readAt (w.disk.tree.contents ino) l.readOffset).1 ∧
    (Log.read l w).1.2.readOffset = (readAt (w.disk.tree.contents ino) l.readOffset).2 ∧
    (Log.read l w).2.disk.tree = w.disk.tree ∧
    (Log.read l w).1.2.Cursor (Log.read l w).2 h ino
      ((Answer.read (Log.read l w).1.1 (Log.read l w).1.2.readOffset).track seen) := by
  obtain ⟨⟨x, hR, hW, hQ⟩, hAcc, hRec⟩ := hC
  obtain ⟨q, buf, hRead, hR', -⟩ := read_spec hR
  rw [hRead]
  refine ⟨rfl, rfl, rfl, ⟨⟨{ x with pos := q }, hR', hW, hQ⟩, hAcc, ?_⟩⟩
  simp only [Disk.tree_setHandle]
  -- the cursor moves, and the client keeps a record, exactly when a record was read
  unfold readAt
  cases hd : ByteSource.decodeAt ⟨w.disk.tree.contents ino, .clean⟩ l.readOffset with
  | finished => exact hRec
  | failed f used => exact hRec
  | entry e used => exact hRec.snoc hd

/-- Going back to the first record puts the cursor after the header, where nothing is read. -/
theorem seekToFirst (hC : l.Cursor w h ino seen) :
    (Log.seekToFirst l w).1.1 = .ok () ∧
    (Log.seekToFirst l w).1.2.Cursor (Log.seekToFirst l w).2 h ino [] := by
  obtain ⟨⟨x, hR, hW, hQ⟩, hAcc, -⟩ := hC
  rw [seekToFirst_of_open hR.file hR.header]
  exact ⟨rfl, ⟨x, ReadsAt.of_unbuffered hR.file hR.header hR.reads rfl, hW, hQ⟩, hAcc, .done _⟩

/-- **Cutting.** A cut to a record boundary keeps the file up to it and pulls the cursor back to
it when the cursor stood further; the log then follows the records it read that end by the new
cursor. -/
theorem truncate (hC : l.Cursor w h ino seen) {n : Nat} {kept : List (Entry × Nat)}
    (hCut : Reads (w.disk.tree.contents ino) Header.size kept n) :
    (Log.truncate n l w).1.1 = .ok () ∧
    (Log.truncate n l w).1.2.readOffset = min l.readOffset n ∧
    (Log.truncate n l w).2.disk.tree.contents ino = (w.disk.tree.contents ino).extract 0 n ∧
    (Log.truncate n l w).1.2.Cursor (Log.truncate n l w).2 h ino
      (seen.filter (fun r => r.2 ≤ min l.readOffset n)) := by
  obtain ⟨⟨x, hR, hW, hQ⟩, hAcc, hRec⟩ := hC
  rw [truncate_of_open hR.file hR.header hR.reads hW hQ.truncate hQ.sync hCut.le
    (hCut.le_size hAcc.1)]
  -- reading from the header reaches the new cursor having read the records that end by it
  have hPath : Reads (w.disk.tree.contents ino) Header.size
      (seen.filter (fun r => r.2 ≤ min l.readOffset n)) (min l.readOffset n) := by
    rcases Nat.le_total l.readOffset n with hle | hle
    · rw [Nat.min_eq_left hle, ← hRec.eq_filter hRec (Nat.le_refl _)]
      exact hRec
    · rw [Nat.min_eq_right hle, ← hRec.eq_filter hCut hle]
      exact hCut
  refine ⟨rfl, rfl, by simp, ⟨x, ?_, hW, hQ⟩, ?_, ?_⟩
  · exact ReadsAt.of_unbuffered hR.file hR.header (hR.reads.retree _) rfl
  · simpa using hAcc.extract hCut.le
  · simpa using hPath.extract (Nat.min_le_right _ _)

/-- Copying a range leaves the file and the cursor, and the log still follows the records. -/
theorem copyRange (hC : l.Cursor w h ino seen) (o n : Int) :
    (Log.copyRange o n l w).2.disk.tree = w.disk.tree ∧
    (Log.copyRange o n l w).1.2.readOffset = l.readOffset ∧
    (Log.copyRange o n l w).1.2.Cursor (Log.copyRange o n l w).2 h ino seen := by
  obtain ⟨⟨x, hR, hW, hQ⟩, hAcc, hRec⟩ := hC
  obtain ⟨q, hLog, hWorld⟩ := copyRange_moves hR.file hR.header hR.reads o n
  rw [hLog, hWorld]
  refine ⟨rfl, rfl, ⟨{ x with pos := q }, ?_, hW, hQ⟩, hAcc, hRec⟩
  exact ReadsAt.of_unbuffered hR.file hR.header (hR.reads.setPos q) rfl

/-- Asking for the size gives the file's size and changes nothing. -/
theorem size (hC : l.Cursor w h ino seen) :
    Log.size l w = ((.ok (w.disk.tree.contents ino).size, l), w) := by
  obtain ⟨⟨x, hR, -, hQ⟩, -, -⟩ := hC
  rw [size_of_open hR.file hR.reads.handle hR.reads.live hQ.size, hR.reads.node]
  rfl

/-- **One call.** Every call, a cut only to a record boundary, keeps the log following the
records the client has read. -/
theorem perform (hC : l.Cursor w h ino seen) (c : Call)
    (hCut : ∀ n, c = .truncate n → ∃ kept, Reads (w.disk.tree.contents ino) Header.size kept n) :
    (c.perform l w).1.2.Cursor (c.perform l w).2 h ino ((c.perform l w).1.1.track seen) := by
  cases c with
  | write e => exact (hC.write e).2.2.2
  | read => exact hC.read.2.2.2
  | seekToFirst =>
    obtain ⟨hOk, hC'⟩ := hC.seekToFirst
    simpa [Answer.track, hOk] using hC'
  | truncate n =>
    obtain ⟨kept, hKept⟩ := hCut n rfl
    obtain ⟨hOk, hOffset, -, hC'⟩ := hC.truncate hKept
    simpa [Answer.track, hOk, hOffset] using hC'
  | copyRange o n => exact (hC.copyRange o n).2.2
  | size => simpa [Answer.track, hC.size] using hC

/-- **A run of calls.** Whatever calls a client makes, in any order, with every cut to a record
boundary, the log keeps following the records the client has read. -/
theorem performAll (hC : l.Cursor w h ino seen) (cs : List Call)
    (hCuts : Call.CutsAtRecords ino cs l w) :
    (Call.performAll cs l w).1.2.Cursor (Call.performAll cs l w).2 h ino
      (Answer.trackAll seen (Call.performAll cs l w).1.1) := by
  induction cs generalizing l w seen with
  | nil => simpa using hC
  | cons c cs ih =>
    obtain ⟨hCut, hRest⟩ := hCuts
    simpa using ih (hC.perform c hCut) hRest

end Cursor

/-! ## What a client sees -/

variable {l : Log} {w : World} {h ino : Nat} {seen : List (Entry × Nat)}

/-- What a client sees of a log reading the file `ino` through the handle `h`, having read the
records `seen` since it last went back to the first record: the cursor stands where reading
them from the end of the header stops; the read-ahead buffer holds the file's bytes from the
cursor on; a write succeeds exactly for a valid entry, appends exactly its record and leaves the
cursor; a read gives the record at the cursor and moves past it; and at the end of the file a
read gives nothing, while after an append there it gives the appended entry. -/
structure Serves (l : Log) (w : World) (h ino : Nat) (seen : List (Entry × Nat)) : Prop where
  records : Reads (w.disk.tree.contents ino) Header.size seen l.readOffset
  buffered : ∃ x, w.disk.handle? h = some x ∧ ∀ b, l.buffer = some b →
    b ++ (w.disk.tree.contents ino).extract x.pos (w.disk.tree.contents ino).size =
      (w.disk.tree.contents ino).extract l.readOffset (w.disk.tree.contents ino).size
  appends : ∀ e, ((Log.write e l w).1.1 = .ok () ↔ e.Valid) ∧
    (e.Valid → (Log.write e l w).2.disk.tree.contents ino = w.disk.tree.contents ino ++ e.encode ∧
      (Log.write e l w).1.2.readOffset = l.readOffset)
  reads : (Log.read l w).1.1 = (readAt (w.disk.tree.contents ino) l.readOffset).1 ∧
    (Log.read l w).1.2.readOffset = (readAt (w.disk.tree.contents ino) l.readOffset).2
  atEnd : l.readOffset = (w.disk.tree.contents ino).size →
    (Log.read l w).1.1 = .ok none ∧
      ∀ e, e.Valid → (Log.read (Log.write e l w).1.2 (Log.write e l w).2).1.1 = .ok (some e.stored)

/-- A log that follows the records serves its client so. -/
theorem Cursor.serves (hC : l.Cursor w h ino seen) : l.Serves w h ino seen where
  records := hC.records
  buffered := by
    obtain ⟨x, hR, -, -⟩ := hC.reads
    exact ⟨x, hR.reads.handle, hR.buffered⟩
  appends e := by
    obtain ⟨hOk, hAppend, hOffset, -⟩ := hC.write e
    exact ⟨hOk, fun he => ⟨hAppend he, hOffset⟩⟩
  reads := ⟨hC.read.1, hC.read.2.1⟩
  atEnd hEnd := by
    refine ⟨by rw [hC.read.1, readAt_of_le (Nat.le_of_eq hEnd.symm)], fun e he => ?_⟩
    -- after the append the cursor stands at the old end, where the appended record starts
    obtain ⟨-, hAppend, hOffset, hC'⟩ := hC.write e
    rw [hC'.read.1, hAppend he, hOffset, hEnd, readAt_append_encode _ he]

/-- **Opening.** A log opened on an existing file, empty or with a header it accepts, follows the
file's records from the end of the header, having read none. -/
theorem Cursor.of_openFile (hO : l.CanOpen w ino)
    (hFile : (w.disk.tree.contents ino).size = 0 ∨ Header.Accepts (w.disk.tree.contents ino)) :
    (openFile l w).1.1 = .ok () ∧
      (openFile l w).1.2.Cursor (openFile l w).2 w.disk.handles.size ino [] := by
  rcases hFile with hEmpty | hAcc
  · obtain ⟨w', hOpen, -, hDisk⟩ := openFile_of_empty hO (ByteArray.size_eq_zero_iff.mp hEmpty)
    rw [hOpen]
    refine ⟨rfl, ⟨{ l.openedHandle ino with pos := Header.size }, ?_, rfl, ?_⟩, ?_, .done _⟩
    · rw [hDisk]
      exact ReadsAt.of_unbuffered rfl rfl ((hO.reads Header.size).retree _) rfl
    · rw [hDisk]
      exact hO.quiet
    · rw [hDisk]
      simp only [Tree.contents_setContents_self]
      decide
  · have hNonempty : (w.disk.tree.contents ino).size ≠ 0 := by
      have := hAcc.1
      simp only [Header.size] at this
      omega
    obtain ⟨p, w', hOpen, -, hDisk⟩ :=
      openFile_of_accepted hO hNonempty ((headerFailure_eq_none_iff _).mpr hAcc)
    rw [hOpen]
    refine ⟨rfl, ⟨{ l.openedHandle ino with pos := p }, ?_, rfl, ?_⟩, ?_, .done _⟩
    · rw [hDisk]
      exact ReadsAt.of_unbuffered rfl rfl (hO.reads p) rfl
    · rw [hDisk]
      exact hO.quiet
    · rw [hDisk]
      exact hAcc

end Log

end LogStore
