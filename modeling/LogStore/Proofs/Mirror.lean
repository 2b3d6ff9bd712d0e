import LogStore.Proofs.Locks
import LogStore.Proofs.Open
import LogStore.Proofs.KeyDir

/-!
# A store mirrors its log

While a store is open, it and its file agree after every call. The file holds the bytes it had
when the store opened, followed by the records of exactly the writes that succeeded, in order.
The key directory is the opened one with those records applied. This holds whatever failure is
injected into an append (a failed write, a short one, a partial one, a failed sync), as long as
cutting the file back works, since a failed append is cut back to where the file ended.

* `Disk.Writer` is a live, writable handle on a file. `Disk.Writer.Shows` says the file holds
  given bytes and the handle stands at a given position.
* `Log.write_spec`: an append either succeeds and adds the entry's record, or fails and leaves
  the file as it was. Either way the log itself is unchanged.
* `Store.Mirrors` is the invariant. `Store.set_spec`, `Store.delete_spec` and `Store.stats_spec`
  keep it, and `Store.Call.runAll_spec` carries it over any run.
-/

namespace LogStore

namespace Disk

variable {d : Disk} {h : Nat}

@[simp] theorem faults_seek (o : Int) (whence : Nat) : (d.seek h o whence).2.faults = d.faults := by
  unfold seek
  split
  · rfl
  · split <;> rfl

@[simp] theorem faults_writeDirect (b : ByteArray) : (d.writeDirect h b).2.faults = d.faults := by
  unfold writeDirect
  repeat' split
  all_goals rfl

@[simp] theorem faults_write (b : ByteArray) : (d.write h b).2.faults = d.faults := by
  unfold write
  split <;> simp

@[simp] theorem faults_truncate (n : Int) : (d.truncate h n).2.faults = d.faults := by
  unfold truncate
  repeat' split
  all_goals rfl

@[simp] theorem tree_close : (d.close h).tree = d.tree := by
  unfold close
  split <;> rfl

@[simp] theorem cwd_close : (d.close h).cwd = d.cwd := by
  unfold close
  split <;> rfl

@[simp] theorem faults_close : (d.close h).faults = d.faults := by
  unfold close
  split <;> rfl

@[simp] theorem place_close (p : String) : (d.close h).place p = d.place p := by
  simp [place]

/-- A handle open for appending: `handle` is `x` but for its position, live and writable on the
file `ino`. The disk `frame` fixes the locations and the working directory, which appending never
changes. -/
structure Writer where
  frame : Disk
  handle : Nat
  ino : Nat
  x : Handle
  live : x.closed = false
  node : x.node = .file ino
  writable : x.writable = true

namespace Writer

/-- The disk `d` keeps the frame of `t`, the file of `t` holds `B`, and the handle of `t` stands
at `p`. -/
structure Shows (t : Writer) (d : Disk) (B : ByteArray) (p : Nat) : Prop where
  cwd : d.cwd = t.frame.cwd
  nodes : d.tree.nodes = t.frame.tree.nodes
  contents : d.tree.contents t.ino = B
  handle : d.handle? t.handle = some { t.x with pos := p }

variable {t : Writer} {d : Disk} {B : ByteArray} {p : Nat}

theorem Shows.setPos (hS : t.Shows d B p) (q : Nat) :
    t.Shows (d.setHandle t.handle { t.x with pos := q }) B q where
  cwd := hS.cwd
  nodes := hS.nodes
  contents := hS.contents
  handle := by rw [handle?_setHandle_self hS.handle]

theorem Shows.setContents (hS : t.Shows d B p) (B' : ByteArray) :
    t.Shows { d with tree := d.tree.setContents t.ino B' } B' p where
  cwd := hS.cwd
  nodes := by rw [Tree.nodes_setContents, hS.nodes]
  contents := Tree.contents_setContents_self _ _ _
  handle := hS.handle

/-- A path names on `d` what it names on the frame. -/
theorem Shows.locate (hS : t.Shows d B p) (path : String) :
    d.tree.locate (d.place path) = t.frame.tree.locate (t.frame.place path) := by
  rw [Tree.locate_of_nodes hS.nodes]
  simp only [place, hS.cwd]

/-- Seeking to the end puts the handle after the file's bytes. -/
theorem Shows.seek_end (hS : t.Shows d B p) :
    d.seek t.handle 0 2 = ((B.size, none), d.setHandle t.handle { t.x with pos := B.size }) := by
  have hSize : d.nodeSize t.x.node = B.size := by
    rw [t.node, ← hS.contents]
    rfl
  have hSeek := Disk.seek_end hS.handle t.live
  simp only [hSize] at hSeek
  exact hSeek

/-- **A write at the end stores a prefix.** Writing at the end of the file stores the first `k`
of the bytes, whatever failure is injected, and reports `k` when it reports no failure. -/
theorem Shows.write (hS : t.Shows d B B.size) (b : ByteArray) :
    ∃ k ≤ b.size, ((d.write t.handle b).1.2 = none → (d.write t.handle b).1.1 = k) ∧
      t.Shows (d.write t.handle b).2 (B ++ b.extract 0 k) (B.size + k) := by
  -- a write that goes through stores its bytes at the end
  have hDirect : ∀ c : ByteArray, d.writeDirect t.handle c = ((c.size, none),
      d.store t.handle { t.x with pos := B.size } t.ino c) :=
    fun c => writeDirect_of_file hS.handle t.live t.node t.writable
  have hStore : ∀ c : ByteArray, t.Shows (d.store t.handle { t.x with pos := B.size } t.ino c)
      (B ++ c) (B.size + c.size) := by
    intro c
    rw [store_eq, hS.contents]
    simp only [ite_self, Bytes.overwrite_end]
    exact (hS.setContents _).setPos _
  have hHalf : (b.extract 0 (b.size / 2)).size = b.size / 2 := by
    simp only [ByteArray.size_extract]
    omega
  unfold Disk.write
  split
  · -- an injected error stores nothing
    refine ⟨0, Nat.zero_le _, by simp, ?_⟩
    simpa using hS
  · -- a short write stores the first half and reports success
    refine ⟨b.size / 2, Nat.div_le_self _ _, fun _ => by rw [hDirect, hHalf], ?_⟩
    rw [hDirect]
    simpa [hHalf] using hStore (b.extract 0 (b.size / 2))
  · -- a partial write stores the first half and fails
    refine ⟨b.size / 2, Nat.div_le_self _ _, by simp [hDirect], ?_⟩
    simpa [hDirect, hHalf] using hStore (b.extract 0 (b.size / 2))
  · -- a clean write stores everything
    refine ⟨b.size, le_rfl, fun _ => by rw [hDirect], ?_⟩
    rw [hDirect]
    simpa using hStore b

/-- Cutting the file, reached by no injected cut failure, resizes its bytes. -/
theorem Shows.truncate (hS : t.Shows d B p) (hCut : (t.x.faulty && d.faults.truncate) = false)
    (n : Nat) :
    (d.truncate t.handle n).1 = none ∧ t.Shows (d.truncate t.handle n).2 (Bytes.resize B n) p := by
  rw [truncate_of_file hS.handle t.live t.node t.writable hCut n, hS.contents]
  exact ⟨rfl, hS.setContents _⟩

end Writer

end Disk

section Frame

variable {σ α β : Type} {P : σ → World → Prop} {R : β → σ → World → Prop}

/-- A computation whose first step is known to return `a`, changing nothing, goes on as its
continuation at `a`. -/
theorem Spec.bind_returns {m : StateT σ Sys α} {f : α → StateT σ Sys β} {a : α}
    (hm : ∀ s w, P s w → m s w = ((a, s), w)) (hf : Spec P (f a) R) : Spec P (m >>= f) R := by
  intro s w hP
  show R (f (m s w).1.1 (m s w).1.2 (m s w).2).1.1 (f (m s w).1.1 (m s w).1.2 (m s w).2).1.2
    (f (m s w).1.1 (m s w).1.2 (m s w).2).2
  rw [hm s w hP]
  exact hf s w hP

end Frame

namespace Log

/-- The log appends through the writer `t`: its file is the writer's handle, its header was
accepted, and nothing is read ahead. -/
structure AppendsTo (l : Log) (t : Disk.Writer) : Prop where
  file : l.file = some t.handle
  header : l.headerError = none
  unbuffered : l.buffer = none

variable {l₀ : Log} {t : Disk.Writer}

theorem AppendsTo.drop_buffer (hl : l₀.AppendsTo t) : { l₀ with buffer := none } = l₀ := by
  cases l₀
  cases hl.unbuffered
  rfl

/-- Writing an event changes neither the log nor the disk. -/
theorem emit_spec {Q : Log → Disk → Prop} (ev : Event) :
    Spec (fun l w => Q l w.disk) (emit ev) (fun _ l w => Q l w.disk) := by
  intro l w hQ
  rw [emit_eq]
  exact hQ

/-- **Appending under injected failures.** An append through a writer whose cut no injected
failure reaches either succeeds, for a valid entry, and leaves the entry's record after the
file's bytes, or fails and leaves the file's bytes as they were. The log is unchanged either
way. -/
theorem write_spec (hl : l₀.AppendsTo t) (B : ByteArray) (e : Entry) :
    Spec (fun l w => l = l₀ ∧ (t.x.faulty && w.disk.faults.truncate) = false ∧
        ∃ p, t.Shows w.disk B p) (write e)
      (fun r l w => l = l₀ ∧ (t.x.faulty && w.disk.faults.truncate) = false ∧
        match r with
        | .ok () => e.Valid ∧ ∃ p, t.Shows w.disk (B ++ e.encode) p
        | .error _ => ∃ p, t.Shows w.disk B p) := by
  unfold write
  refine .bind_returns (fun l w ⟨hl', _⟩ => hl' ▸ usable_of_open hl.file hl.header) ?_
  dsimp only
  split
  · exact .pure fun _ _ h => h
  rename_i hValid
  have he : e.Valid := (Entry.validate_eq_ok_iff e).mp hValid
  -- the append starts at the end of the file
  refine .bind (.onDisk (Q := fun r l w => r.1 = B.size ∧ l = l₀ ∧ (t.x.faulty && w.disk.faults.truncate) = false ∧
    t.Shows w.disk B B.size) fun l w ⟨hl', hfs, p, hS⟩ => ?_) fun r => ?_
  · rw [hS.seek_end]
    exact ⟨rfl, hl', hfs, hS.setPos _⟩
  obtain ⟨stop, _⟩ := r
  dsimp only
  refine .bind (.modify (Q := fun _ l w => stop = B.size ∧ l = l₀ ∧ (t.x.faulty && w.disk.faults.truncate) = false ∧
    t.Shows w.disk B B.size) fun l w ⟨hstop, hl', hfs, hS⟩ => ?_) fun _ => ?_
  · subst hl'
    exact ⟨hstop, hl.drop_buffer, hfs, hS⟩
  -- the write stores a prefix of the record, and names its length when it reports no failure
  refine .bind (.onDisk (Q := fun r l w => stop = B.size ∧ l = l₀ ∧ (t.x.faulty && w.disk.faults.truncate) = false ∧
    ∃ k ≤ e.encode.size, (r.2 = none → r.1 = k) ∧
      t.Shows w.disk (B ++ e.encode.extract 0 k) (B.size + k)) fun l w ⟨hstop, hl', hfs, hS⟩ => ?_)
    fun r => ?_
  · obtain ⟨k, hk, hReport, hS'⟩ := hS.write e.encode
    exact ⟨hstop, hl', by simpa using hfs, k, hk, hReport, hS'⟩
  refine .bind (.disk (Q := fun d l w => d = w.disk ∧ stop = B.size ∧ l = l₀ ∧
    (t.x.faulty && w.disk.faults.truncate) = false ∧ ∃ k ≤ e.encode.size, (r.2 = none → r.1 = k) ∧
      t.Shows w.disk (B ++ e.encode.extract 0 k) (B.size + k)) fun _ _ h => ⟨rfl, h⟩) fun d => ?_
  split
  · -- no failure: the whole record was stored
    rename_i hNone
    obtain ⟨hNoError, hWhole⟩ : r.2 = none ∧ ¬ r.1 < e.encode.size := by
      rcases r with ⟨n, _ | f⟩
      · by_cases hn : n < e.encode.size <;> simp_all
      · simp at hNone
    refine .pure fun l w ⟨_, _, hl', hfs, k, hk, hReport, hS⟩ => ⟨hl', hfs, he, B.size + k, ?_⟩
    have hk' : k = e.encode.size := by
      have := hReport hNoError
      omega
    subst hk'
    rwa [ByteArray.extract_zero_size] at hS
  · -- a failure: the file is cut back to where it ended, and the failure logged
    refine .bind (.onDisk (Q := fun _ l w => l = l₀ ∧ (t.x.faulty && w.disk.faults.truncate) = false ∧ ∃ p, t.Shows w.disk B p)
      fun l w ⟨_, hstop, hl', hfs, k, hk, _, hS⟩ => ?_) fun cut => ?_
    · subst hstop
      obtain ⟨-, hS'⟩ := hS.truncate hfs B.size
      rw [Bytes.resize_of_le (by simp), ByteArray.extract_append_eq_left rfl] at hS'
      exact ⟨hl', by simpa using hfs, _, hS'⟩
    have hLogged := emit_spec (Q := fun l d => l = l₀ ∧ (t.x.faulty && d.faults.truncate) = false ∧ ∃ p, t.Shows d B p)
    split
    · exact .bind (hLogged _) fun _ => .bind (hLogged _) fun _ => .pure fun _ _ h => h
    · exact .bind (hLogged _) fun _ => .pure fun _ _ h => h

/-- The size of the file, when no injected failure reaches it, is the length of its bytes; the
log and the world are unchanged either way. -/
theorem size_of_writer {l : Log} {w : World} {B : ByteArray} {p : Nat} (hl : l.AppendsTo t)
    (hS : t.Shows w.disk B p) :
    size l w = ((if (t.x.faulty && w.disk.faults.size) = true then .error .injected
      else .ok B.size, l), w) := by
  have hNode : w.disk.nodeSize t.x.node = B.size := by
    rw [t.node, ← hS.contents]
    rfl
  cases hClean : (t.x.faulty && w.disk.faults.size)
  · rw [size_of_open hl.file hS.handle t.live hClean, hNode]
    rfl
  · simp [size, hl.file, Disk.size, Disk.faulted, hS.handle, hClean, bind, StateT.bind, get,
      getThe, MonadStateOf.get, StateT.get, lift, StateT.lift, Sys.disk, pure, StateT.pure]

end Log

/-! ## Reading back what was appended -/

/-- Opening a usable file leaves it with an accepted header: an empty file gets the bare one. -/
theorem Header.Accepts.openedBytes {F : ByteArray} (hUsable : F.size = 0 ∨ Header.Accepts F) :
    Header.Accepts (openedBytes F) := by
  rcases hUsable with hEmpty | hAccepts
  · rw [LogStore.openedBytes, if_pos hEmpty]
    decide
  · have hNonempty : F.size ≠ 0 := by
      have := hAccepts.1
      simp only [Header.size] at this
      omega
    rw [LogStore.openedBytes, if_neg hNonempty]
    exact hAccepts

/-- Records appended after bytes that read to their end read back after the records already
there, and reading then reaches the new end. -/
theorem scanRecords_append_encodeAll {B : ByteArray} {es : List Entry} (hB : Header.size ≤ B.size)
    (hEnd : (scanRecords B Header.size).stop = B.size) (hValid : ∀ e ∈ es, e.Valid) :
    scanRecords (B ++ Entry.encodeAll es) Header.size =
      ⟨(scanRecords B Header.size).records ++ es.map Entry.stored,
        (B ++ Entry.encodeAll es).size, none⟩ := by
  have hNone := (scanRecords_failure_eq_none_iff _ _ hB).mpr hEnd
  have hAfter := scanRecords_encodeAll B ByteArray.empty es hValid
  rw [ByteArray.append_empty, ← ByteArray.size_append,
    scanRecords_of_le (le_refl (B ++ Entry.encodeAll es).size)] at hAfter
  rw [scanRecords_append B _ _ hB hNone, hAfter]
  simp

/-- Applying the entries records read back, which hold no value for a tombstone, is applying the
entries written. -/
theorem KeyDir.applyAll_map_stored (d : KeyDir) (es : List Entry) :
    d.applyAll (es.map Entry.stored) = d.applyAll es := by
  induction es generalizing d with
  | nil => rfl
  | cons e es ih =>
    simp only [List.map_cons, KeyDir.applyAll_cons, Entry.stored_key, Entry.stored_value,
      Entry.stored_deleted, ih]
    -- a tombstone's value is never read
    cases hDel : e.deleted <;> simp [KeyDir.apply, Entry.payloadValue, hDel]

/-- Every key and value bound is within the size limits of the format. -/
def KeyDir.Bounded (d : KeyDir) : Prop :=
  ∀ p ∈ d.bindings, p.1.size ≤ maxKeySize ∧ p.2.size ≤ maxValueSize

namespace KeyDir

variable {k v : ByteArray} {p : ByteArray × ByteArray}

theorem mem_eraseBinding {l : List (ByteArray × ByteArray)} (hp : p ∈ eraseBinding k l) : p ∈ l :=
  (eraseBinding_sublist l).subset hp

theorem empty_bounded : ({} : KeyDir).Bounded := by
  simp [Bounded]

/-- Applying an entry within the limits keeps every binding within them. -/
theorem Bounded.apply {d : KeyDir} (hd : d.Bounded) {e : Entry} (he : e.Valid) :
    (d.apply e.key e.value e.deleted).Bounded := by
  intro q hq
  unfold KeyDir.apply at hq
  cases hDel : e.deleted
  · rw [hDel] at hq
    rcases mem_insertBinding hq with hq | rfl
    · exact hd q hq
    · have hValue := he.2
      simp only [Entry.payloadValue, hDel] at hValue
      exact ⟨he.1, by simpa using hValue⟩
  · rw [hDel] at hq
    exact hd q (mem_eraseBinding hq)

theorem Bounded.applyAll {d : KeyDir} (hd : d.Bounded) {es : List Entry} (hes : ∀ e ∈ es, e.Valid) :
    (d.applyAll es).Bounded := by
  induction es generalizing d with
  | nil => exact hd
  | cons e es ih =>
    exact ih (hd.apply (hes e List.mem_cons_self)) fun e' he' => hes e' (List.mem_cons_of_mem _ he')

end KeyDir

/-- A record read is within the limits of the format. -/
theorem scanRecords_records_valid (b : ByteArray) (pos : Nat) :
    ∀ e ∈ (scanRecords b pos).records, e.Valid := by
  intro e he
  obtain ⟨hKey, hValue⟩ := scanRecords_valid b pos e he
  refine ⟨hKey, ?_⟩
  unfold Entry.payloadValue
  split
  · simp [maxValueSize]
  · exact hValue

namespace Store

/-- The store `s`, in the world `w`, mirrors its file after the appends of `es`, having opened as
`s₀` through the writer `t` on the bytes `B`. -/
structure Mirrors (t : Disk.Writer) (s₀ : Store) (B : ByteArray) (es : List Entry) (s : Store)
    (w : World) : Prop where
  /-- The store opened, with its log appending through the writer. -/
  opened : s₀.isOpen = true
  appends : s₀.log.AppendsTo t
  /-- The store is as it opened but for its key directory, which has the records applied. -/
  store : s = { s₀ with keys := s₀.keys.applyAll es }
  /-- The file holds the opened bytes and then the records. -/
  shows : ∃ p, t.Shows w.disk (B ++ Entry.encodeAll es) p
  /-- Every record appended is within the limits of the format. -/
  valid : ∀ e ∈ es, e.Valid
  /-- No injected failure reaches a cut of the file. -/
  cut : (t.x.faulty && w.disk.faults.truncate) = false

variable {t : Disk.Writer} {s₀ : Store} {B : ByteArray} {es : List Entry}

theorem Mirrors.isOpen {s : Store} {w : World} (hM : Mirrors t s₀ B es s w) : s.isOpen = true := by
  rw [hM.store]
  exact hM.opened

theorem Mirrors.log {s : Store} {w : World} (hM : Mirrors t s₀ B es s w) : s.log = s₀.log := by
  rw [hM.store]

theorem Mirrors.contents {s : Store} {w : World} (hM : Mirrors t s₀ B es s w) :
    w.disk.tree.contents t.ino = B ++ Entry.encodeAll es := by
  obtain ⟨_, hS⟩ := hM.shows
  exact hS.contents

/-- **An append on a mirroring store.** It either succeeds, and the store mirrors one more record
once that record is applied to its key directory, or fails and the store mirrors as it did. -/
theorem Mirrors.write_spec (e : Entry) :
    Spec (Mirrors t s₀ B es) (onLog (Log.write e))
      (fun r s w => match r with
        | .ok () => Mirrors t s₀ B (es ++ [e])
            { s with keys := s.keys.apply e.key e.value e.deleted } w
        | .error _ => Mirrors t s₀ B es s w) := by
  intro s w hM
  obtain ⟨hLog, hCut, hOut⟩ := Log.write_spec hM.appends (B ++ Entry.encodeAll es) e s.log w
    ⟨by rw [hM.store], hM.cut, hM.shows⟩
  -- the log comes back as it was, so the store does
  have hStore : { s with log := (Log.write e s.log w).1.2 } = s := by
    rw [hLog, hM.store]
  rw [onLog_apply, hStore]
  revert hOut
  rcases (Log.write e s.log w).1.1 with f | ⟨⟩
  · intro hShows
    exact ⟨hM.opened, hM.appends, hM.store, hShows, hM.valid, hCut⟩
  · rintro ⟨he, hShows⟩
    refine ⟨hM.opened, hM.appends, ?_, ?_, ?_, hCut⟩
    · rw [hM.store, KeyDir.applyAll_append]
      rfl
    · rw [Entry.encodeAll_concat, ← ByteArray.append_assoc]
      exact hShows
    · intro e' he'
      rcases List.mem_append.mp he' with he' | he'
      · exact hM.valid e' he'
      · rw [List.mem_singleton.mp he']
        exact he

/-- What a write reports appending: `e`, when it answers that it changed the store. -/
def acked (e : Entry) : Except Failure Bool → List Entry
  | .ok true => [e]
  | _ => []

/-- An answer given before anything is appended leaves the store mirroring as it did. -/
theorem Mirrors.answer {e : Entry} {r : Except Failure Bool} (hr : acked e r = [])
    {P : Store → World → Prop} (hP : ∀ s w, P s w → Mirrors t s₀ B es s w) :
    Spec P (pure r : StoreM _) (fun r => Mirrors t s₀ B (es ++ acked e r)) :=
  .pure fun s w h => by
    rw [hr, List.append_nil]
    exact hP s w h

/-- **Committing an entry.** Appending `e` and, once it is in the file, applying it to the key
directory keeps the store mirroring its file, with `e` added exactly when the answer says so. -/
theorem Mirrors.commit_spec (e : Entry) {g : Store → Store}
    (hg : ∀ s, g s = { s with keys := s.keys.apply e.key e.value e.deleted }) :
    Spec (Mirrors t s₀ B es)
      (onLog (Log.write e) >>= fun r => match r with
        | .error f => pure (.error f)
        | .ok () => modify g >>= fun _ => pure (.ok true))
      (fun r => Mirrors t s₀ B (es ++ acked e r)) := by
  refine .bind (Mirrors.write_spec e) fun r => ?_
  rcases r with f | ⟨⟩
  · exact Mirrors.answer (by rfl) fun _ _ h => h
  · refine .bind (.modify (Q := fun _ => Mirrors t s₀ B (es ++ [e])) fun s w hM => ?_) fun _ => ?_
    · rw [hg]
      exact hM
    · exact .pure fun _ _ h => h

/-- **A set keeps the store mirroring its file**, and appends the key and value exactly when it
answers that it changed the store. -/
theorem set_spec (key value : ByteArray) (mode : SetMode) :
    Spec (Mirrors t s₀ B es) (set key value mode)
      (fun r => Mirrors t s₀ B (es ++ acked (.live key value) r)) := by
  unfold set
  refine .bind .get fun s => ?_
  have hPass : ∀ s' w, s = s' ∧ Mirrors t s₀ B es s' w → Mirrors t s₀ B es s' w :=
    fun _ _ h => h.2
  split
  · exact Mirrors.answer (by rfl) hPass
  split
  · exact Mirrors.answer (by rfl) hPass
  dsimp only
  split
  · exact Mirrors.answer (by rfl) hPass
  split
  · exact Mirrors.answer (by rfl) hPass
  exact .mono (Mirrors.commit_spec _ fun _ => rfl) hPass fun _ _ _ h => h

/-- **A delete keeps the store mirroring its file**, and appends a tombstone for the key exactly
when it answers that the key was there. -/
theorem delete_spec (key : ByteArray) :
    Spec (Mirrors t s₀ B es) (delete key)
      (fun r => Mirrors t s₀ B (es ++ acked (.tombstone key) r)) := by
  unfold delete
  refine .bind .get fun s => ?_
  have hPass : ∀ s' w, s = s' ∧ Mirrors t s₀ B es s' w → Mirrors t s₀ B es s' w :=
    fun _ _ h => h.2
  split
  · exact Mirrors.answer (by rfl) hPass
  split
  · exact Mirrors.answer (by rfl) hPass
  exact .mono (Mirrors.commit_spec _ fun _ => rfl) hPass fun _ _ _ h => h

/-- Mirroring reads only the disk of the world. -/
theorem Mirrors.of_disk {s : Store} {w w' : World} (hM : Mirrors t s₀ B es s w)
    (hDisk : w'.disk = w.disk) : Mirrors t s₀ B es s w' := by
  obtain ⟨hOpened, hAppends, hStore, hShows, hValid, hCut⟩ := hM
  exact ⟨hOpened, hAppends, hStore, hDisk ▸ hShows, hValid, hDisk ▸ hCut⟩

/-- **Stats on a mirroring store** change nothing it mirrors. They report the number of keys and,
when no injected failure reaches the size, the length of the file. -/
theorem stats_spec {s : Store} {w : World} (hM : Mirrors t s₀ B es s w) :
    Mirrors t s₀ B es (stats s w).1.2 (stats s w).2 ∧ ((t.x.faulty && w.disk.faults.size) = false →
      (stats s w).1.1 = { keys := s.keys.size, dataSize := (B ++ Entry.encodeAll es).size }) := by
  obtain ⟨p, hS⟩ := hM.shows
  have hLog : s.log.AppendsTo t := by
    rw [hM.store]
    exact hM.appends
  have hOpen := hM.isOpen
  obtain ⟨path, log, keys, logger, isOpen⟩ := s
  subst hOpen
  simp only [stats, get, getThe, MonadStateOf.get, StateT.get, bind, StateT.bind, pure,
    StateT.pure, Bool.not_true, Bool.false_eq_true, ↓reduceIte, onLog_apply,
    Log.size_of_writer hLog hS]
  cases hClean : (t.x.faulty && w.disk.faults.size) <;>
    simp only [Bool.false_eq_true, ↓reduceIte, StateT.pure, StateT.bind, lift, StateT.lift]
  · exact ⟨hM, fun _ => rfl⟩
  · exact ⟨hM.of_disk (Sys.emit_disk _ _ _), fun h => Bool.noConfusion h⟩

/-- **Opening starts the mirror.** A store opening on a usable file whose records all read
mirrors the opened bytes, with nothing appended yet, through a writer on that file. Its key
directory is the records applied in order, and its log keeps its path. -/
theorem openStore_mirrors {s : Store} {w : World} {ino : Nat} {F : ByteArray}
    (hClosed : s.isOpen = false) (hO : s.log.CanOpen w ino) (hF : w.disk.tree.contents ino = F)
    (hUsable : F.size = 0 ∨ Header.Accepts F)
    (hEnd : (scanRecords (openedBytes F) Header.size).stop = (openedBytes F).size) :
    ∃ t : Disk.Writer, t.frame = w.disk ∧ t.ino = ino ∧
      (openStore s w).1.2.keys = KeyDir.applyAll {} (scanRecords (openedBytes F) Header.size).records ∧
      (openStore s w).1.2.log.path = s.log.path ∧
      Mirrors t (openStore s w).1.2 (openedBytes F) [] (openStore s w).1.2 (openStore s w).2 := by
  subst hF
  obtain ⟨h₁, x₁, l₁, w₁, hOpen, hO₁, hPath, -, hCwd, hNodes, -, hBytes⟩ :=
    Log.openFile_of_usable hO hUsable
  have hNone := (scanRecords_failure_eq_none_iff _ _ (header_le_openedBytes hUsable)).mpr hEnd
  obtain ⟨q, hReplay⟩ := replay_of_clean { s with log := l₁ } w₁ hO₁ hBytes hNone
  obtain ⟨hResult, hDisk, -⟩ := openStore_of_replay_ok hClosed hOpen hReplay
  refine ⟨⟨w.disk, h₁, ino, x₁, hO₁.reads.live, hO₁.reads.node, hO₁.writable⟩, rfl, rfl, ?_, ?_,
    Mirrors.of_disk (w := { w₁ with disk := w₁.disk.setHandle h₁ { x₁ with pos := q } }) ?_ hDisk⟩
  · rw [hResult]
    rfl
  · rw [hResult]
    exact hPath
  rw [hResult]
  refine ⟨rfl, ⟨hO₁.file, hO₁.header, rfl⟩, rfl, ⟨q, ?_⟩, by simp, ?_⟩
  · refine ⟨hCwd, hNodes, ?_, Disk.handle?_setHandle_self hO₁.reads.handle⟩
    rw [Disk.tree_setHandle, hBytes, Entry.encodeAll_nil, ByteArray.append_empty]
  · exact hO₁.quiet.truncate

/-- Closing an open store empties its key directory and closes its log, giving back its handle. -/
theorem close_eq {s : Store} {w : World} {h : Nat} (hOpen : s.isOpen = true)
    (hFile : s.log.file = some h) :
    (close s w).1.2 = { s with isOpen := false, keys := {}
                               log := { s.log with file := none, buffer := none,
                                                   headerError := none } } ∧
      (close s w).2.disk = w.disk.close h := by
  simp only [close, hOpen, bind, StateT.bind, get, getThe, MonadStateOf.get, StateT.get,
    Bool.not_true, Bool.false_eq_true, ↓reduceIte, modify, modifyGet, MonadStateOf.modifyGet,
    StateT.modifyGet, onLog_apply, lift, StateT.lift, pure, StateT.pure]
  rw [Sys.emit_eq]
  simp [Log.close, hFile, bind, StateT.bind, get, getThe, MonadStateOf.get, StateT.get,
    MonadStateOf.set, StateT.set, Log.lift, StateT.lift, Sys.onDisk, modifyGet,
    MonadStateOf.modifyGet, StateT.modifyGet, pure, StateT.pure]

/-- **Reopening a mirroring store.** Closing a store that mirrors its file and opening it again
replays the opened records and then the appended ones, cuts nothing, and gives back the same key
directory. This needs the log's path to name the file still, the file's lock to be free once the
store lets go of it, and no injected failure to reach the new handle. -/
theorem Mirrors.reopen {s : Store} {w : World} (hM : Mirrors t s₀ B es s w)
    (hAccepts : Header.Accepts B) (hEnd : (scanRecords B Header.size).stop = B.size)
    (hKeys : s₀.keys = KeyDir.applyAll {} (scanRecords B Header.size).records)
    (hPath : s.log.path ≠ "")
    (hLoc : w.disk.tree.locate (w.disk.place s.log.path) = .ok (some (.file t.ino)))
    (hLocking : s.log.opener.locking = true)
    (hFree : (w.disk.close t.handle).lockHeld (.file t.ino) = false)
    (hQuiet : w.disk.faults.Quiet s.log.opener.faulty) :
    ∃ s' w', (close >>= fun _ => openStore) s w =
        ((.ok { records := ((scanRecords B Header.size).records ++ es).length,
                tombstones := ((scanRecords B Header.size).records ++ es).countP (·.deleted),
                keys := s.keys.size, sizeBefore := (B ++ Entry.encodeAll es).size,
                sizeAfter := (B ++ Entry.encodeAll es).size }, s'), w') ∧
      s'.isOpen = true ∧ s'.keys = s.keys ∧ w'.disk.tree.contents t.ino = B ++ Entry.encodeAll es := by
  have hFile : s.log.file = some t.handle := by
    rw [hM.log]
    exact hM.appends.file
  obtain ⟨hClosed, hDisk⟩ := close_eq (w := w) hM.isOpen hFile
  -- the closed store can open its file again
  have hO : (close s w).1.2.log.CanOpen (close s w).2 t.ino := by
    rw [hClosed]
    refine ⟨hPath, ?_, rfl, hLocking, ?_, ?_⟩
    · rw [hDisk, Disk.tree_close, Disk.place_close]
      exact hLoc
    · rw [hDisk]
      exact hFree
    · rw [hDisk, Disk.faults_close]
      exact hQuiet
  have hF : (close s w).2.disk.tree.contents t.ino = B ++ Entry.encodeAll es := by
    rw [hDisk, Disk.tree_close, hM.contents]
  have hB : Header.size ≤ B.size := hAccepts.1
  have hOpened : openedBytes (B ++ Entry.encodeAll es) = B ++ Entry.encodeAll es := by
    have hSize : (B ++ Entry.encodeAll es).size ≠ 0 := by
      simp only [ByteArray.size_append, Header.size] at hB ⊢
      omega
    rw [openedBytes, if_neg hSize]
  have hScan := scanRecords_append_encodeAll hB hEnd hM.valid
  have hEnd' : (scanRecords (openedBytes (B ++ Entry.encodeAll es)) Header.size).stop =
      (openedBytes (B ++ Entry.encodeAll es)).size := by
    rw [hOpened, hScan]
  -- the records read back rebuild the key directory the store had
  have hSame : KeyDir.applyAll {} ((scanRecords B Header.size).records ++ es.map Entry.stored) =
      s.keys := by
    rw [KeyDir.applyAll_append, ← hKeys, KeyDir.applyAll_map_stored, hM.store]
  obtain ⟨s', w', hRun, hOpen, hKeys', hContents, -⟩ :=
    openStore_of_clean (by rw [hClosed]) hO hF (.inr (hAccepts.append _)) hEnd'
  refine ⟨s', w', ?_, hOpen, ?_, ?_⟩
  · show openStore (close s w).1.2 (close s w).2 = _
    rw [hRun, hOpened, hScan]
    simp only [hSame, List.length_append, List.length_map, List.countP_append, List.countP_map]
    rfl
  · rw [hKeys', hOpened, hScan]
    exact hSame
  · rw [hContents, hOpened]

theorem stats_keepsLocks : KeepsLocks lockView stats := by
  unfold stats
  refine .bind .get fun s => ?_
  split
  · exact .pure _
  refine .bind (onLog_keepsLocks Log.size_keepsLocks) fun r => ?_
  split
  · exact .pure _
  · exact .bind (.emit _ _) fun _ => .pure _

/-! ## Sessions -/

/-- A step of a session on an open store: a call of the store, or the environment setting the
injected faults. A put is a set in the mode `upsert`. Gets, key listings and counts only read
the key directory, so they are not steps. -/
inductive Call where
  | set (key value : ByteArray) (mode : SetMode)
  | delete (key : ByteArray)
  | stats
  | fault (fs : Faults)

namespace Call

/-- Runs a step, giving the records it reports appending. -/
def run : Call → StoreM (List Entry)
  | .set key value mode => do return acked (.live key value) (← Store.set key value mode)
  | .delete key => do return acked (.tombstone key) (← Store.delete key)
  | .stats => do
    let _ ← Store.stats
    return []
  | .fault fs => do
    lift (Sys.onDisk fun d => ((), { d with faults := fs }))
    return []

/-- Runs steps in order, giving the records they report appending. -/
def runAll : List Call → StoreM (List Entry)
  | [] => return []
  | c :: cs => do
    let es ← c.run
    let es' ← runAll cs
    return es ++ es'

/-- **One step keeps the store mirroring its file**, with the records it reports appending
added, when any faults it sets leave cuts working. -/
theorem run_spec (c : Call) (hc : ∀ fs, c = .fault fs → fs.truncate = false) :
    Spec (Mirrors t s₀ B es) c.run (fun es' => Mirrors t s₀ B (es ++ es')) := by
  cases c with
  | set key value mode => exact .bind (set_spec key value mode) fun _ => .pure fun _ _ h => h
  | delete key => exact .bind (delete_spec key) fun _ => .pure fun _ _ h => h
  | stats =>
    refine .bind (Q := fun _ => Mirrors t s₀ B es) (fun _ _ hM => (stats_spec hM).1) fun _ => ?_
    exact .pure fun _ _ h => by rwa [List.append_nil]
  | fault fs =>
    have hTrunc := hc fs rfl
    refine .bind (.onDisk (Q := fun _ => Mirrors t s₀ B es) fun s w hM => ?_) fun _ => ?_
    · obtain ⟨p, hS⟩ := hM.shows
      exact ⟨hM.opened, hM.appends, hM.store, ⟨p, hS.cwd, hS.nodes, hS.contents, hS.handle⟩,
        hM.valid, by simp [hTrunc]⟩
    · exact .pure fun _ _ h => by rwa [List.append_nil]

/-- **A run keeps the store mirroring its file**, with the records its steps report appending
added in order, when the faults it sets leave cuts working. -/
theorem runAll_spec (calls : List Call) (hCalls : ∀ fs, Call.fault fs ∈ calls → fs.truncate = false) :
    Spec (Mirrors t s₀ B es) (runAll calls) (fun es' => Mirrors t s₀ B (es ++ es')) := by
  induction calls generalizing es with
  | nil => exact .pure fun _ _ h => by rwa [List.append_nil]
  | cons c cs ih =>
    have hc : ∀ fs, c = .fault fs → fs.truncate = false := by
      rintro fs rfl
      exact hCalls fs List.mem_cons_self
    refine .bind (run_spec c hc) fun es₁ => .bind (ih fun fs h => hCalls fs
      (List.mem_cons_of_mem _ h)) fun es₂ => .pure fun _ _ h => ?_
    rwa [List.append_assoc] at h

theorem run_keepsLocks (c : Call) : KeepsLocks lockView c.run := by
  cases c with
  | set key value mode => exact .bind (set_keepsLocks key value mode) fun _ => .pure _
  | delete key => exact .bind (delete_keepsLocks key) fun _ => .pure _
  | stats => exact .bind stats_keepsLocks fun _ => .pure _
  | fault fs => exact .bind (.onDisk fun _ => Disk.lockOf_faults _) fun _ => .pure _

theorem runAll_keepsLocks (calls : List Call) : KeepsLocks lockView (runAll calls) := by
  induction calls with
  | nil => exact .pure _
  | cons c cs ih => exact .bind (run_keepsLocks c) fun _ => .bind ih fun _ => .pure _

end Call

/-- **The lock over a session.** A store that opens on a file whose lock is free holds the lock
through its new handle over any session, and lets it go on closing. -/
theorem session_lock {s : Store} {w : World} {ino : Nat} (hClosed : s.isOpen = false)
    (hO : s.log.CanOpen w ino) (hOpened : (openStore s w).1.2.isOpen = true) (calls : List Call) :
    (Call.runAll calls (openStore s w).1.2 (openStore s w).2).1.2.log.file =
        some w.disk.handles.size ∧
      (Call.runAll calls (openStore s w).1.2 (openStore s w).2).1.2.log.opener = s.log.opener ∧
      ((Call.runAll calls (openStore s w).1.2 (openStore s w).2).2.disk.close
        w.disk.handles.size).lockHeld (.file ino) = false := by
  have hFresh : w.disk.lockOf w.disk.handles.size = none := Disk.lockOf_of_size_le le_rfl
  have hSpec := openStore_spec s.log.opener w.disk.lockOf w.disk.handles.size hFresh s w
    ⟨by simp [lockView, Log.lockView, hO.closed, hClosed], rfl, rfl⟩
  -- the open succeeded, so the store holds the next handle
  have hHolds : Log.Holds s.log.opener w.disk.lockOf w.disk.handles.size
      (lockView (openStore s w).1.2).1 (openStore s w).2.disk.lockOf := by
    generalize (openStore s w).1.1 = r at hSpec
    cases r with
    | error f =>
      have hShut := hSpec.2
      simp only [lockView, hOpened, Bool.true_eq_false] at hShut
    | ok r => exact hSpec.1
  obtain ⟨hView, hLocks⟩ := Call.runAll_keepsLocks calls (openStore s w).1.2 (openStore s w).2
  rw [← hView, ← hLocks] at hHolds
  obtain ⟨hFile, hOpener, hGrants⟩ := hHolds
  refine ⟨hFile, hOpener, ?_⟩
  rw [Disk.lockHeld_eq_false_iff, Disk.Grants.close hGrants hFresh]
  exact (Disk.lockHeld_eq_false_iff _).mp hO.free

/-- What a session does to a store opening on a log that holds `B`, the file `ino` at the
store's path: the store opens, `calls` run on it, and then

* the store is open;
* the file holds `B` and then the records of exactly the sets and deletes that answered that
  they changed the store, in order;
* the key directory is the records of `B` and those records applied in order, with every key and
  value within the limits of the format;
* stats, when no injected failure reaches the size, report the file's length;
* closing and opening again, when no injected failure reaches the new handle, replays every
  record, cuts nothing, and gives back the same key directory. -/
def SessionMirrors (s : Store) (w : World) (ino : Nat) (B : ByteArray) (calls : List Call) :
    Prop :=
  let sc := scanRecords B Header.size
  let run := Call.runAll calls (openStore s w).1.2 (openStore s w).2
  let es := run.1.1
  let s' := run.1.2
  let w' := run.2
  s'.isOpen = true ∧
    w'.disk.tree.contents ino = B ++ Entry.encodeAll es ∧
    s'.keys = KeyDir.applyAll {} (sc.records ++ es) ∧ s'.keys.Bounded ∧
    (w'.disk.faults.size = false →
      (stats s' w').1.1 = { keys := s'.keys.size, dataSize := (w'.disk.tree.contents ino).size }) ∧
    (w'.disk.faults.Quiet s.log.opener.faulty →
      ∃ s'' w'', (close >>= fun _ => openStore) s' w' =
          ((.ok { records := (sc.records ++ es).length,
                  tombstones := (sc.records ++ es).countP (·.deleted), keys := s'.keys.size,
                  sizeBefore := (w'.disk.tree.contents ino).size,
                  sizeAfter := (w'.disk.tree.contents ino).size }, s''), w'') ∧
        s''.isOpen = true ∧ s''.keys = s'.keys ∧
        w''.disk.tree.contents ino = w'.disk.tree.contents ino)

/-- **A session mirrors from the open on.** A store that opens mirroring a log that holds `B`,
with an accepted header and records that all read, through a writer on the file at its path,
goes on mirroring it over any session where the faults the environment sets never fail a cut of
the file. -/
theorem session_mirrors {s : Store} {w : World} {t : Disk.Writer} {B : ByteArray}
    (hClosed : s.isOpen = false) (hO : s.log.CanOpen w t.ino) (hFrame : t.frame = w.disk)
    (hAccepts : Header.Accepts B) (hEnd : (scanRecords B Header.size).stop = B.size)
    (hKeys₁ : (openStore s w).1.2.keys = KeyDir.applyAll {} (scanRecords B Header.size).records)
    (hPath₁ : (openStore s w).1.2.log.path = s.log.path)
    (hM₁ : Mirrors t (openStore s w).1.2 B [] (openStore s w).1.2 (openStore s w).2)
    (calls : List Call) (hCalls : ∀ fs, Call.fault fs ∈ calls → fs.truncate = false) :
    SessionMirrors s w t.ino B calls := by
  unfold SessionMirrors
  intro sc run es s' w'
  have hM : Mirrors t (openStore s w).1.2 B es s' w' := by
    simpa using Call.runAll_spec calls hCalls _ _ hM₁
  have hKeys : s'.keys = KeyDir.applyAll {} (sc.records ++ es) := by
    rw [hM.store, KeyDir.applyAll_append, hKeys₁]
  obtain ⟨hFile, hOpener, hFree⟩ := session_lock hClosed hO hM₁.opened calls
  -- the store's handle is the one the lock was taken by
  have hHandle : t.handle = w.disk.handles.size := by
    have hMine : s'.log.file = some t.handle := by
      rw [hM.log]
      exact hM.appends.file
    exact Option.some.inj (hMine.symm.trans hFile)
  refine ⟨hM.isOpen, hM.contents, hKeys, ?bounded, ?stats, ?reopen⟩
  case bounded =>
    rw [hKeys]
    refine KeyDir.empty_bounded.applyAll fun e he => ?_
    rcases List.mem_append.mp he with he | he
    · exact scanRecords_records_valid _ _ e he
    · exact hM.valid e he
  case stats =>
    intro hSize
    rw [(stats_spec hM).2 (by simp [hSize]), hM.contents]
  case reopen =>
    intro hQuiet
    obtain ⟨p, hS⟩ := hM.shows
    have hPath : s'.log.path = s.log.path := by
      rw [hM.log, hPath₁]
    obtain ⟨s'', w'', hRun, hOpen, hSame, hContents⟩ :=
      hM.reopen hAccepts hEnd hKeys₁ (hPath ▸ hO.path)
        (by rw [hS.locate, hFrame, hPath]; exact hO.located) (hOpener ▸ hO.locking)
        (hHandle ▸ hFree) (hOpener ▸ hQuiet)
    exact ⟨s'', w'', by rw [hRun, hM.contents], hOpen, hSame, by rw [hContents, hM.contents]⟩

/-- **A store mirrors its log over any session.** Open a store on a file that is empty or has
an accepted header, and whose records all read. Then run any steps, where the faults the
environment sets never fail a cut of the file. After the run:

* the store is open;
* the file holds its opened bytes and then the records of exactly the sets and deletes that
  answered that they changed the store, in order;
* the key directory is the opened records and those records applied in order, with every key and
  value within the limits of the format;
* stats, when no injected failure reaches the size, report the file's length;
* closing and opening again, when no injected failure reaches the new handle, replays every
  record, cuts nothing, and gives back the same key directory. -/
theorem store_mirrors_log {s : Store} {w : World} {ino : Nat} {F : ByteArray}
    (hClosed : s.isOpen = false) (hO : s.log.CanOpen w ino) (hF : w.disk.tree.contents ino = F)
    (hUsable : F.size = 0 ∨ Header.Accepts F)
    (hEnd : (scanRecords (openedBytes F) Header.size).stop = (openedBytes F).size)
    (calls : List Call) (hCalls : ∀ fs, Call.fault fs ∈ calls → fs.truncate = false) :
    let sc := scanRecords (openedBytes F) Header.size
    let run := Call.runAll calls (openStore s w).1.2 (openStore s w).2
    let es := run.1.1
    let s' := run.1.2
    let w' := run.2
    s'.isOpen = true ∧
      w'.disk.tree.contents ino = openedBytes F ++ Entry.encodeAll es ∧
      s'.keys = KeyDir.applyAll {} (sc.records ++ es) ∧ s'.keys.Bounded ∧
      (w'.disk.faults.size = false →
        (stats s' w').1.1 = { keys := s'.keys.size, dataSize := (w'.disk.tree.contents ino).size }) ∧
      (w'.disk.faults.Quiet s.log.opener.faulty →
        ∃ s'' w'', (close >>= fun _ => openStore) s' w' =
            ((.ok { records := (sc.records ++ es).length,
                    tombstones := (sc.records ++ es).countP (·.deleted), keys := s'.keys.size,
                    sizeBefore := (w'.disk.tree.contents ino).size,
                    sizeAfter := (w'.disk.tree.contents ino).size }, s''), w'') ∧
          s''.isOpen = true ∧ s''.keys = s'.keys ∧
          w''.disk.tree.contents ino = w'.disk.tree.contents ino) := by
  obtain ⟨t, hFrame, rfl, hKeys₁, hPath₁, hM₁⟩ := openStore_mirrors hClosed hO hF hUsable hEnd
  exact session_mirrors hClosed hO hFrame (Header.Accepts.openedBytes hUsable) hEnd hKeys₁ hPath₁ hM₁
    calls hCalls

theorem store_mirrors_log_at_root :
    let w : World := { disk := { cwd := "/", tree :=
      { nodes := [(["db"], .file 0)], inodes := [(0, Header.encode)], nextIno := 1 } } }
    let s : Store := { path := "/db", log := Log.create "/db" .nop { faulty := true },
                       logger := .nop }
    let calls : List Call := [.fault { write := some .short }, .set ⟨#[97]⟩ ⟨#[49]⟩ .upsert,
      .fault {}, .set ⟨#[97]⟩ ⟨#[49]⟩ .upsert, .delete ⟨#[97]⟩, .stats]
    let F := w.disk.tree.contents 0
    (s.isOpen = false ∧ s.log.CanOpen w 0 ∧ (F.size = 0 ∨ Header.Accepts F) ∧
      (scanRecords (openedBytes F) Header.size).stop = (openedBytes F).size ∧
      ∀ fs, Call.fault fs ∈ calls → fs.truncate = false) ∧
    let run := Call.runAll calls (openStore s w).1.2 (openStore s w).2
    run.2.disk.tree.contents 0 = openedBytes F ++ Entry.encodeAll run.1.1 ∧
      run.1.2.keys = KeyDir.applyAll {} ((scanRecords (openedBytes F) Header.size).records ++ run.1.1) := by
  intro w s calls F
  have hO : s.log.CanOpen w 0 := ⟨by decide, by cbv, rfl, rfl, by cbv, .inr rfl⟩
  have hUsable : F.size = 0 ∨ Header.Accepts F := .inr (by decide)
  have hEnd : (scanRecords (openedBytes F) Header.size).stop = (openedBytes F).size := by
    rw [scanRecords_of_le (by decide)]
    rfl
  have hCalls : ∀ fs, Call.fault fs ∈ calls → fs.truncate = false := by
    intro fs hfs
    simp only [calls, List.mem_cons, Call.fault.injEq, reduceCtorEq, List.not_mem_nil,
      or_false, false_or] at hfs
    rcases hfs with rfl | rfl <;> rfl
  obtain ⟨-, hContents, hKeys, -⟩ := store_mirrors_log rfl hO rfl hUsable hEnd calls hCalls
  exact ⟨⟨rfl, hO, hUsable, hEnd, hCalls⟩, hContents, hKeys⟩

end Store

end LogStore
