import LogStore.Proofs.Replay
import LogStore.Proofs.LogFile

/-!
# Opening a store on any file

Opening a store opens its log, checks the header, replays the records, and recovers from the
first record that fails to read: it cuts the file back to the last good record, first copying
the cut bytes into a new sidecar file when the damaged record ends before the file does. This
module follows each of these steps on a file of arbitrary bytes.

* `Store.preserve_spec`: the sidecar is a new file holding exactly the copied bytes.
* `Store.recover_of_tail`, `Store.recover_of_mid`: recovery cuts the file to the good records
  and reports the cut, with a sidecar only when the damaged record ends inside the file.
* `Store.replay_of_clean`, `Store.replay_of_tail`, `Store.replay_of_mid`,
  `Store.replay_of_fatal`: replay follows the scan of the file from the end of its header.
* `Store.OpensOnFile`, `Store.openStore_on_any_file`: what opening gives on every file, by
  the header and by how the scan of the records ends.
-/

namespace LogStore

/-- The handle left by creating the file `name`, numbered `ino`, writing `n` bytes to it and
closing it. -/
def Handle.written (name : String) (ino n : Nat) : Handle :=
  { node := .file ino, name, pos := n, readable := false, writable := true, closed := true }

/-- What replay reports of a file of `size` bytes whose scan is `sc`, before any recovery: the
records read and the tombstones among them. -/
def Recovery.ofScan (size : Nat) (sc : Scan) : Recovery :=
  { sizeBefore := size, sizeAfter := size, records := sc.records.length,
    tombstones := sc.records.countP (·.deleted) }

/-- A log open on the file `ino` through the handle `h`, which is `x`: its header was accepted,
the handle reads and writes the file, and no failure is injected into it. -/
structure Log.OpenOn (l : Log) (d : Disk) (h ino : Nat) (x : Handle) : Prop where
  file : l.file = some h
  header : l.headerError = none
  reads : d.ReadsFile h ino x
  writable : x.writable = true
  quiet : d.faults.Quiet x.faulty

namespace Store

variable {s : Store} {w : World} {h ino : Nat} {x : Handle}

/-- The name of the sidecar that preserving bytes of the store at `path` creates at the draw
`n`. -/
def sidecarName (path : String) (n : Nat) : String :=
  path ++ "." ++ uniqueId n ++ ".discarded"

theorem sidecarName_ne_empty (path : String) (n : Nat) : sidecarName path n ≠ "" := by
  simp [sidecarName]

/-- **Preserving bytes.** Copying `n` bytes the file has from offset `o` creates the sidecar
named by the next draw, as a new file holding exactly those bytes, when nothing stands at that
name; the log's handle moves past the copied bytes, and the sidecar's handle is closed. -/
theorem preserve_spec (hFile : s.log.file = some h) (hHeader : s.log.headerError = none)
    (hR : w.disk.ReadsFile h ino x) {o n : Nat}
    (hLe : o + n ≤ (w.disk.tree.contents ino).size) (hIno : ino < w.disk.tree.nextIno)
    (hFree : w.disk.tree.locate (w.disk.place (sidecarName s.path w.draws)) = .ok none) :
    preserve o n s w =
      ((.ok (sidecarName s.path w.draws), { s with log := { s.log with buffer := none } }),
        { w with
          draws := w.draws + 1,
          disk := ({ w.disk with
            tree := (w.disk.tree.createFile (w.disk.place (sidecarName s.path w.draws))).2.setContents
              w.disk.tree.nextIno ((w.disk.tree.contents ino).extract o (o + n)),
            handles := w.disk.handles.push (Handle.written (sidecarName s.path w.draws)
              w.disk.tree.nextIno ((w.disk.tree.contents ino).extract o (o + n)).size) }).setHandle h
            { x with pos := o + n } }) := by
  have hLt := Disk.lt_size_of_handle hR.handle
  have hOpen := Disk.openPath_of_absent
    { read := false, write := true, create := true, exclusive := true }
    (sidecarName_ne_empty s.path w.draws) hFree rfl
  -- the disk once the sidecar is created
  obtain ⟨d₁, hd₁⟩ : ∃ d₁, d₁ = ({ w.disk with
      tree := (w.disk.tree.createFile (w.disk.place (sidecarName s.path w.draws))).2,
      handles := w.disk.handles.push
        { node := .file w.disk.tree.nextIno, name := sidecarName s.path w.draws,
          readable := false, writable := true } } : Disk) := ⟨_, rfl⟩
  have hR₁ : d₁.ReadsFile h ino x := hd₁ ▸ hR.push _ _
  have hContents₁ : d₁.tree.contents ino = w.disk.tree.contents ino := by
    rw [hd₁]
    exact Tree.contents_createFile_ne _ (Nat.ne_of_lt hIno)
  have hCopy := Log.copyRange_of_le (l := s.log) (w := { w with disk := d₁, draws := w.draws + 1 })
    hFile hHeader hR₁ (o := o) (n := n) (by rw [hContents₁]; exact hLe)
  rw [hContents₁] at hCopy
  simp only [sidecarName] at hOpen hd₁ ⊢
  simp only [preserve, get, getThe, MonadStateOf.get, StateT.get, bind, StateT.bind, lift,
    StateT.lift, Sys.fresh, modifyGet, MonadStateOf.modifyGet, StateT.modifyGet, Sys.disk, pure,
    StateT.pure, hOpen, ← hd₁, Sys.setDisk, modify, onLog_of hCopy, Sys.onDisk]
  congr 2
  have hy : (d₁.setHandle h { x with pos := o + n }).handle? w.disk.handles.size =
      some { node := .file w.disk.tree.nextIno, name := s.path ++ "." ++ uniqueId w.draws ++ ".discarded",
             readable := false, writable := true } := by
    rw [Disk.handle?_setHandle_ne (Nat.ne_of_gt hLt), hd₁]
    simp [Disk.handle?]
  rw [Disk.writeDirect_of_file hy rfl rfl rfl, Disk.store_eq,
    Disk.close_of_handle (Disk.handle?_setHandle_self (by rw [Disk.handle?] at hy ⊢; simpa using hy))]
  have hPush : ∀ y y' : Handle,
      (w.disk.handles.push y).setIfInBounds w.disk.handles.size y' = w.disk.handles.push y' := by
    intro y y'
    simp [Array.setIfInBounds, Array.set_push]
  subst hd₁
  simp only [Disk.setHandle, Array.set!_eq_setIfInBounds, Tree.contents_createFile_self]
  rw [Array.setIfInBounds_comm _ _ (Nat.ne_of_lt hLt), Array.setIfInBounds_comm _ _ (Nat.ne_of_lt hLt),
    Array.setIfInBounds_setIfInBounds, hPush]
  simp [Bytes.overwrite_empty, Handle.written]

/-- **A sidecar name already taken.** When something stands at the name the next draw gives, or
the way there is broken, preserving fails and changes nothing but the draw. -/
theorem preserve_of_taken
    (hTaken : w.disk.tree.locate (w.disk.place (sidecarName s.path w.draws)) ≠ .ok none)
    (o n : Nat) : ∃ f, preserve o n s w = ((.error f, s), { w with draws := w.draws + 1 }) := by
  obtain ⟨f, hOpen⟩ := Disk.openPath_of_taken
    { read := false, write := true, create := true, exclusive := true }
    (sidecarName_ne_empty s.path w.draws) hTaken rfl rfl
  simp only [sidecarName] at hOpen
  refine ⟨f, ?_⟩
  simp [preserve, get, getThe, MonadStateOf.get, StateT.get, bind, StateT.bind, lift,
    StateT.lift, Sys.fresh, modifyGet, MonadStateOf.modifyGet, StateT.modifyGet, Sys.disk, pure,
    StateT.pure, hOpen]

/-- **Recovery at the tail.** A failure whose damaged record runs to the end of the file or past
it cuts the file back to the cursor, with no sidecar, and reports the bytes cut. -/
theorem recover_of_tail (hFile : s.log.file = some h) (hHeader : s.log.headerError = none)
    (hR : w.disk.ReadsFile h ino x) (hWritable : x.writable = true)
    (hQuiet : w.disk.faults.Quiet x.faulty) (hGood : Header.size ≤ s.log.readOffset)
    (hLe : s.log.readOffset ≤ (w.disk.tree.contents ino).size) {r : Recovery} {o e : Nat}
    {f : Failure} (hTail : r.sizeBefore ≤ e) :
    recover (.record o e f) r s w =
      ((.ok { r with corruption := some (.record o e f),
                     truncatedBytes := r.sizeBefore - s.log.readOffset,
                     sizeAfter := s.log.readOffset },
        { s with log := { s.log with buffer := none } }),
        { w with disk := { w.disk with
          tree := w.disk.tree.setContents ino
            ((w.disk.tree.contents ino).extract 0 s.log.readOffset) } }) := by
  have hCut := Log.truncate_of_open hFile hHeader hR hWritable hQuiet.truncate hQuiet.sync hGood hLe
  simp only [Nat.min_self] at hCut
  simp [recover, get, getThe, MonadStateOf.get, StateT.get, bind, StateT.bind, Nat.not_lt.mpr hTail,
    onLog_of hCut, pure, StateT.pure]

/-- **Recovery before the tail.** A failure whose damaged record ends before the file does
first copies everything from the cursor to the end into a new sidecar, then cuts the file back
to the cursor, and reports the sidecar and the bytes cut. -/
theorem recover_of_mid (hFile : s.log.file = some h) (hHeader : s.log.headerError = none)
    (hR : w.disk.ReadsFile h ino x) (hWritable : x.writable = true)
    (hQuiet : w.disk.faults.Quiet x.faulty) (hGood : Header.size ≤ s.log.readOffset)
    (hLe : s.log.readOffset ≤ (w.disk.tree.contents ino).size) (hIno : ino < w.disk.tree.nextIno)
    (hFree : w.disk.tree.locate (w.disk.place (sidecarName s.path w.draws)) = .ok none)
    {r : Recovery} {o e : Nat} {f : Failure} (hSize : r.sizeBefore = (w.disk.tree.contents ino).size)
    (hMid : e < r.sizeBefore) :
    recover (.record o e f) r s w =
      ((.ok { r with corruption := some (.record o e f),
                     discarded := some (sidecarName s.path w.draws),
                     truncatedBytes := r.sizeBefore - s.log.readOffset,
                     sizeAfter := s.log.readOffset },
        { s with log := { s.log with buffer := none } }),
        { w with
          draws := w.draws + 1,
          disk := ({ w.disk with
            tree := ((w.disk.tree.createFile (w.disk.place (sidecarName s.path w.draws))).2.setContents
              w.disk.tree.nextIno ((w.disk.tree.contents ino).extract s.log.readOffset
                (w.disk.tree.contents ino).size)).setContents ino
              ((w.disk.tree.contents ino).extract 0 s.log.readOffset),
            handles := w.disk.handles.push (Handle.written (sidecarName s.path w.draws)
              w.disk.tree.nextIno ((w.disk.tree.contents ino).size - s.log.readOffset)) }).setHandle h
            { x with pos := (w.disk.tree.contents ino).size } }) := by
  have hPreserve := preserve_spec hFile hHeader hR (o := s.log.readOffset)
    (n := r.sizeBefore - s.log.readOffset) (by omega) hIno hFree
  have hEnd : s.log.readOffset + (r.sizeBefore - s.log.readOffset) =
      (w.disk.tree.contents ino).size := by
    omega
  rw [hEnd] at hPreserve
  -- the disk once the cut bytes are preserved
  obtain ⟨D, hD⟩ : ∃ D : Disk, D = ({ w.disk with
      tree := (w.disk.tree.createFile (w.disk.place (sidecarName s.path w.draws))).2.setContents
        w.disk.tree.nextIno ((w.disk.tree.contents ino).extract s.log.readOffset
          (w.disk.tree.contents ino).size),
      handles := w.disk.handles.push (Handle.written (sidecarName s.path w.draws)
        w.disk.tree.nextIno ((w.disk.tree.contents ino).extract s.log.readOffset
          (w.disk.tree.contents ino).size).size) } : Disk).setHandle h
      { x with pos := (w.disk.tree.contents ino).size } := ⟨_, rfl⟩
  rw [← hD] at hPreserve
  have hR₁ : D.ReadsFile h ino { x with pos := (w.disk.tree.contents ino).size } :=
    hD ▸ (hR.push _ _).setPos _
  have hContents : D.tree.contents ino = w.disk.tree.contents ino := by
    rw [hD, Disk.tree_setHandle, Tree.contents_setContents_ne _ _ (Nat.ne_of_lt hIno),
      Tree.contents_createFile_ne _ (Nat.ne_of_lt hIno)]
  have hFaults : D.faults = w.disk.faults := by
    rw [hD]
    rfl
  have hCut := Log.truncate_of_open (l := { s.log with buffer := none })
    (w := { w with draws := w.draws + 1, disk := D }) hFile hHeader hR₁ hWritable
    (hFaults ▸ hQuiet.truncate) (hFaults ▸ hQuiet.sync) hGood (hContents ▸ hLe)
  simp only [Nat.min_self, hContents] at hCut
  simp only [recover, get, getThe, MonadStateOf.get, StateT.get, bind, StateT.bind,
    Failure.record?_record, hMid, ↓reduceIte, hPreserve, pure, StateT.pure]
  rw [onLog_of (s := { s with log := { s.log with buffer := none } }) hCut]
  subst hD
  simp [Disk.setHandle, Handle.written, pure, StateT.pure]

/-- **Recovery before the tail with the sidecar name taken.** A failure whose damaged record
ends before the file does, when the sidecar cannot be created, fails recovery before anything is
cut. -/
theorem recover_of_mid_taken
    (hTaken : w.disk.tree.locate (w.disk.place (sidecarName s.path w.draws)) ≠ .ok none)
    {r : Recovery} {o e : Nat} {f : Failure} (hMid : e < r.sizeBefore) :
    ∃ f', recover (.record o e f) r s w =
      ((.error (.within "preserve discarded bytes" f'), s), { w with draws := w.draws + 1 }) := by
  obtain ⟨f', hPreserve⟩ := preserve_of_taken hTaken s.log.readOffset
    (r.sizeBefore - s.log.readOffset)
  refine ⟨f', ?_⟩
  simp only [recover, get, getThe, MonadStateOf.get, StateT.get, bind, StateT.bind,
    Failure.record?_record, hMid, ↓reduceIte, hPreserve, pure, StateT.pure]

/-! ## Replay -/

/-- Replay takes the size of the file, empties the key directory, moves the cursor to the first
record and runs the replay loop with fuel for as many records as the file has bytes; the loop's
recovery becomes the replay's, with the number of keys replayed. -/
theorem replay_of_run (hFile : s.log.file = some h) (hHeader : s.log.headerError = none)
    (hR : w.disk.ReadsFile h ino x) (hClean : (x.faulty && w.disk.faults.size) = false)
    {run : (Except Failure Recovery × Store) × World}
    (hRun : replayFrom { sizeBefore := (w.disk.tree.contents ino).size,
                         sizeAfter := (w.disk.tree.contents ino).size }
        ((w.disk.tree.contents ino).size + 1)
        { s with keys := {}, log := { s.log with readOffset := Header.size, buffer := none } } w =
      run) :
    replay s w =
      match run with
      | ((.error f, s'), w') => ((.error f, s'), w')
      | ((.ok r, s'), w') => ((.ok { r with keys := s'.keys.size }, s'), w') := by
  have hSize := Log.size_of_open hFile hR.handle hR.live hClean
  rw [hR.node] at hSize
  have hSeek := Log.seekToFirst_of_open (w := w) hFile hHeader
  simp only [replay, bind, StateT.bind, onLog_of hSize, modify, modifyGet, MonadStateOf.modifyGet,
    StateT.modifyGet, onLog_of (s := { s with keys := {} }) hSeek, pure, StateT.pure, Disk.nodeSize]
  rcases run with ⟨⟨_ | r, s'⟩, w'⟩ <;> simp only [hRun] <;> rfl

section Replay

/-- The store once replay has applied the records `es` to an empty key directory and stopped
with the cursor at `stop`. -/
def replayed (s : Store) (es : List Entry) (stop : Nat) : Store :=
  { s with keys := KeyDir.applyAll {} es, log := { s.log with buffer := none, readOffset := stop } }

@[simp] theorem path_replayed (s : Store) (es : List Entry) (stop : Nat) :
    (s.replayed es stop).path = s.path := rfl

@[simp] theorem keys_replayed (s : Store) (es : List Entry) (stop : Nat) :
    (s.replayed es stop).keys = KeyDir.applyAll {} es := rfl

@[simp] theorem isOpen_replayed (s : Store) (es : List Entry) (stop : Nat) :
    (s.replayed es stop).isOpen = s.isOpen := rfl

@[simp] theorem log_replayed (s : Store) (es : List Entry) (stop : Nat) :
    (s.replayed es stop).log = { s.log with buffer := none, readOffset := stop } := rfl

variable (s w) {B : ByteArray}

/-- The store as the replay loop starts: an empty key directory and the cursor on the first
record. -/
theorem readsAt_replayStart (hO : s.log.OpenOn w.disk h ino x) :
    ({ s.log with readOffset := Header.size, buffer := none } : Log).ReadsAt w.disk h ino x where
  file := hO.file
  header := hO.header
  reads := hO.reads
  buffered := by rintro _ ⟨⟩

/-- The replay loop from the first record, run with the fuel replay gives it, follows the scan of
the file from the end of its header. -/
theorem replayFrom_start (hO : s.log.OpenOn w.disk h ino x) (hB : w.disk.tree.contents ino = B) :
    ∃ q, replayFrom { sizeBefore := B.size, sizeAfter := B.size } (B.size + 1)
        { s with keys := {}, log := { s.log with readOffset := Header.size, buffer := none } } w =
      match (scanRecords B Header.size).failure with
      | none =>
        ((.ok (Recovery.ofScan B.size (scanRecords B Header.size)),
          s.replayed (scanRecords B Header.size).records (scanRecords B Header.size).stop),
          { w with disk := w.disk.setHandle h { x with pos := q } })
      | some (f, used) =>
        if f.isRecoverable then
          recover (.record (scanRecords B Header.size).stop
              ((scanRecords B Header.size).stop + used) f)
            (Recovery.ofScan B.size (scanRecords B Header.size))
            (s.replayed (scanRecords B Header.size).records (scanRecords B Header.size).stop)
            { w with disk := w.disk.setHandle h { x with pos := q } }
        else
          ((.error (.within ("replay " ++ s.path)
              (.record (scanRecords B Header.size).stop
                ((scanRecords B Header.size).stop + used) f)),
            s.replayed (scanRecords B Header.size).records (scanRecords B Header.size).stop),
            { w with disk := w.disk.setHandle h { x with pos := q } }) := by
  subst hB
  obtain ⟨q, hq⟩ := replayFrom_spec (B := w.disk.tree.contents ino) Header.size
    ((w.disk.tree.contents ino).size + 1)
    { sizeBefore := (w.disk.tree.contents ino).size, sizeAfter := (w.disk.tree.contents ino).size }
    { s with keys := {}, log := { s.log with readOffset := Header.size, buffer := none } } w x
    (readsAt_replayStart s w hO) rfl rfl
    (Nat.lt_succ_of_le (scanRecords_length_le_size _ _))
  refine ⟨q, ?_⟩
  rw [hq]
  rcases (scanRecords (w.disk.tree.contents ino) Header.size).failure with _ | ⟨f, used⟩ <;>
    simp [replayed, Recovery.ofScan]

/-- **Replay of a log that reads to its end.** The key directory is the records of the scan
applied in order, and nothing is cut. -/
theorem replay_of_clean (hO : s.log.OpenOn w.disk h ino x) (hB : w.disk.tree.contents ino = B)
    (hNone : (scanRecords B Header.size).failure = none) :
    ∃ q, replay s w =
      ((.ok { Recovery.ofScan B.size (scanRecords B Header.size) with
              keys := (KeyDir.applyAll {} (scanRecords B Header.size).records).size },
        s.replayed (scanRecords B Header.size).records (scanRecords B Header.size).stop),
        { w with disk := w.disk.setHandle h { x with pos := q } }) := by
  obtain ⟨q, hq⟩ := replayFrom_start s w hO hB
  rw [hNone] at hq
  subst hB
  exact ⟨q, replay_of_run hO.file hO.header hO.reads hO.quiet.size hq⟩

/-- **Replay stopped by a record it must not cut.** A failure that recovery does not take (a
size over the limits) fails the replay, naming the store and locating the record, and cuts
nothing. -/
theorem replay_of_fatal (hO : s.log.OpenOn w.disk h ino x) (hB : w.disk.tree.contents ino = B)
    {f : Failure} {used : Nat} (hSome : (scanRecords B Header.size).failure = some (f, used))
    (hFatal : f.isRecoverable = false) :
    ∃ q, replay s w =
      ((.error (.within ("replay " ++ s.path) (.record (scanRecords B Header.size).stop
          ((scanRecords B Header.size).stop + used) f)),
        s.replayed (scanRecords B Header.size).records (scanRecords B Header.size).stop),
        { w with disk := w.disk.setHandle h { x with pos := q } }) := by
  obtain ⟨q, hq⟩ := replayFrom_start s w hO hB
  simp only [hSome, hFatal, Bool.false_eq_true, ↓reduceIte] at hq
  subst hB
  exact ⟨q, replay_of_run hO.file hO.header hO.reads hO.quiet.size hq⟩

/-- **Replay stopped by damage at the tail.** A damaged record that recovery takes and that runs
to the end of the file is cut off with everything after the last good record, and no sidecar is
written. -/
theorem replay_of_tail (hO : s.log.OpenOn w.disk h ino x) (hB : w.disk.tree.contents ino = B)
    {f : Failure} {used : Nat} (hSome : (scanRecords B Header.size).failure = some (f, used))
    (hRec : f.isRecoverable = true) (hTail : B.size ≤ (scanRecords B Header.size).stop + used) :
    ∃ q, replay s w =
      ((.ok { Recovery.ofScan B.size (scanRecords B Header.size) with
              keys := (KeyDir.applyAll {} (scanRecords B Header.size).records).size,
              sizeAfter := (scanRecords B Header.size).stop,
              truncatedBytes := B.size - (scanRecords B Header.size).stop,
              corruption := some (.record (scanRecords B Header.size).stop
                ((scanRecords B Header.size).stop + used) f) },
        s.replayed (scanRecords B Header.size).records (scanRecords B Header.size).stop),
        { w with disk := ({ w.disk with
          tree := w.disk.tree.setContents ino (B.extract 0 (scanRecords B Header.size).stop) } :
            Disk).setHandle h { x with pos := q } }) := by
  obtain ⟨q, hq⟩ := replayFrom_start s w hO hB
  have hBounds := scanRecords_failure_bounds B Header.size hSome
  simp only [hSome, hRec, ↓reduceIte] at hq
  subst hB
  rw [recover_of_tail
    (s := s.replayed (scanRecords (w.disk.tree.contents ino) Header.size).records
      (scanRecords (w.disk.tree.contents ino) Header.size).stop)
    (w := { w with disk := w.disk.setHandle h { x with pos := q } })
    (r := Recovery.ofScan (w.disk.tree.contents ino).size
      (scanRecords (w.disk.tree.contents ino) Header.size)) hO.file hO.header (hO.reads.setPos q) hO.writable hO.quiet hBounds.1
    (Nat.le_of_lt hBounds.2.1) hTail] at hq
  refine ⟨q, ?_⟩
  rw [replay_of_run hO.file hO.header hO.reads hO.quiet.size hq]
  simp [Disk.setHandle, Recovery.ofScan, replayed]

/-- **Replay stopped by damage before the tail.** A damaged record that recovery takes and that
ends before the file does has everything from the last good record on copied to a new sidecar
before the file is cut back to that record. -/
theorem replay_of_mid (hO : s.log.OpenOn w.disk h ino x) (hB : w.disk.tree.contents ino = B)
    {f : Failure} {used : Nat} (hSome : (scanRecords B Header.size).failure = some (f, used))
    (hRec : f.isRecoverable = true) (hMid : (scanRecords B Header.size).stop + used < B.size)
    (hIno : ino < w.disk.tree.nextIno)
    (hFree : w.disk.tree.locate (w.disk.place (sidecarName s.path w.draws)) = .ok none) :
    replay s w =
      ((.ok { Recovery.ofScan B.size (scanRecords B Header.size) with
              keys := (KeyDir.applyAll {} (scanRecords B Header.size).records).size,
              sizeAfter := (scanRecords B Header.size).stop,
              truncatedBytes := B.size - (scanRecords B Header.size).stop,
              corruption := some (.record (scanRecords B Header.size).stop
                ((scanRecords B Header.size).stop + used) f),
              discarded := some (sidecarName s.path w.draws) },
        s.replayed (scanRecords B Header.size).records (scanRecords B Header.size).stop),
        { w with
          draws := w.draws + 1,
          disk := ({ w.disk with
            tree := ((w.disk.tree.createFile (w.disk.place (sidecarName s.path w.draws))).2.setContents
              w.disk.tree.nextIno (B.extract (scanRecords B Header.size).stop B.size)).setContents ino
              (B.extract 0 (scanRecords B Header.size).stop),
            handles := w.disk.handles.push (Handle.written (sidecarName s.path w.draws)
              w.disk.tree.nextIno (B.size - (scanRecords B Header.size).stop)) } : Disk).setHandle h
            { x with pos := B.size } }) := by
  obtain ⟨q, hq⟩ := replayFrom_start s w hO hB
  have hBounds := scanRecords_failure_bounds B Header.size hSome
  simp only [hSome, hRec, ↓reduceIte] at hq
  subst hB
  rw [recover_of_mid
    (s := s.replayed (scanRecords (w.disk.tree.contents ino) Header.size).records
      (scanRecords (w.disk.tree.contents ino) Header.size).stop)
    (w := { w with disk := w.disk.setHandle h { x with pos := q } })
    (r := Recovery.ofScan (w.disk.tree.contents ino).size
      (scanRecords (w.disk.tree.contents ino) Header.size)) hO.file hO.header (hO.reads.setPos q) hO.writable hO.quiet hBounds.1
    (Nat.le_of_lt hBounds.2.1) hIno hFree rfl hMid] at hq
  rw [replay_of_run hO.file hO.header hO.reads hO.quiet.size hq]
  simp only [Disk.handles_setHandle_push (Disk.lt_size_of_handle hO.reads.handle), Disk.place_setHandle,
    Disk.tree_setHandle]
  simp [Recovery.ofScan, replayed, Disk.setHandle]

/-- **Replay stopped by damage before the tail, with the sidecar name taken.** Recovery fails
before it cuts anything, and so does the replay; only the log's handle and the draw move. -/
theorem replay_of_mid_taken (hO : s.log.OpenOn w.disk h ino x) (hB : w.disk.tree.contents ino = B)
    {f : Failure} {used : Nat} (hSome : (scanRecords B Header.size).failure = some (f, used))
    (hRec : f.isRecoverable = true) (hMid : (scanRecords B Header.size).stop + used < B.size)
    (hTaken : w.disk.tree.locate (w.disk.place (sidecarName s.path w.draws)) ≠ .ok none) :
    ∃ f' q, replay s w =
      ((.error (.within "preserve discarded bytes" f'),
        s.replayed (scanRecords B Header.size).records (scanRecords B Header.size).stop),
        { w with draws := w.draws + 1, disk := w.disk.setHandle h { x with pos := q } }) := by
  obtain ⟨q, hq⟩ := replayFrom_start s w hO hB
  simp only [hSome, hRec, ↓reduceIte] at hq
  subst hB
  obtain ⟨f', hRecover⟩ := recover_of_mid_taken
    (s := s.replayed (scanRecords (w.disk.tree.contents ino) Header.size).records
      (scanRecords (w.disk.tree.contents ino) Header.size).stop)
    (w := { w with disk := w.disk.setHandle h { x with pos := q } })
    (r := Recovery.ofScan (w.disk.tree.contents ino).size
      (scanRecords (w.disk.tree.contents ino) Header.size))
    (o := (scanRecords (w.disk.tree.contents ino) Header.size).stop) (f := f)
    (by simpa [Disk.place_setHandle] using hTaken) (by simpa [Recovery.ofScan] using hMid)
  rw [hRecover] at hq
  exact ⟨f', q, replay_of_run hO.file hO.header hO.reads hO.quiet.size hq⟩

end Replay

/-! ## Opening -/

section Opening

variable {l₁ : Log} {w₁ : World} {f : Failure}

/-- A store whose log refuses to open closes the log again and fails with the log's failure. -/
theorem openStore_of_openFile_error (hClosed : s.isOpen = false)
    (hOpen : Log.openFile s.log w = ((.error f, l₁), w₁)) (hFile : l₁.file = some h)
    (hx : w₁.disk.handle? h = some x) :
    openStore s w =
      ((.error f, { s with log := { l₁ with file := none, buffer := none, headerError := none } }),
        { w₁ with disk := w₁.disk.setHandle h { x with closed := true, locked := false } }) := by
  obtain ⟨path, log, keys, logger, isOpen⟩ := s
  subst hClosed
  simp [openStore, get, getThe, MonadStateOf.get, StateT.get, bind, StateT.bind, onLog_of hOpen,
    onLog_of (s := ⟨path, l₁, keys, logger, false⟩) (Log.close_of_open hFile hx), pure, StateT.pure]

/-- A store whose log opens but whose replay fails empties its key directory, closes the log and
fails with the replay's failure. -/
theorem openStore_of_replay_error (hClosed : s.isOpen = false)
    (hOpen : Log.openFile s.log w = ((.ok (), l₁), w₁)) {s₂ : Store} {w₂ : World}
    (hReplay : replay { s with log := l₁ } w₁ = ((.error f, s₂), w₂)) (hFile : s₂.log.file = some h)
    (hx : w₂.disk.handle? h = some x) :
    openStore s w =
      ((.error f, { s₂ with keys := {},
                            log := { s₂.log with file := none, buffer := none, headerError := none } }),
        { w₂ with disk := w₂.disk.setHandle h { x with closed := true, locked := false } }) := by
  obtain ⟨path, log, keys, logger, isOpen⟩ := s
  subst hClosed
  simp [openStore, get, getThe, MonadStateOf.get, StateT.get, bind, StateT.bind, onLog_of hOpen,
    hReplay, modify, modifyGet, MonadStateOf.modifyGet, StateT.modifyGet,
    onLog_of (s := { s₂ with keys := {} }) (Log.close_of_open hFile hx), pure, StateT.pure]

/-- A store whose log opens and replays is open with what the replay left, and reports the
replay's recovery; the world changes further only by the line logged. -/
theorem openStore_of_replay_ok (hClosed : s.isOpen = false)
    (hOpen : Log.openFile s.log w = ((.ok (), l₁), w₁)) {r : Recovery} {s₂ : Store} {w₂ : World}
    (hReplay : replay { s with log := l₁ } w₁ = ((.ok r, s₂), w₂)) :
    (openStore s w).1 = (.ok r, { s₂ with isOpen := true }) ∧
      (openStore s w).2.disk = w₂.disk ∧ (openStore s w).2.draws = w₂.draws := by
  obtain ⟨path, log, keys, logger, isOpen⟩ := s
  subst hClosed
  simp only [openStore, get, getThe, MonadStateOf.get, StateT.get, bind, StateT.bind,
    onLog_of hOpen, hReplay, modify, modifyGet, MonadStateOf.modifyGet, StateT.modifyGet, lift,
    StateT.lift, Sys.emit, pure, StateT.pure, Bool.false_eq_true, ↓reduceIte]
  refine ⟨trivial, ?_, ?_⟩ <;> split <;> rfl

end Opening

end Store

/-! ## A store opened on any file -/

/-- The bytes of a log file once a log has opened it: an empty file holds the bare header. -/
def openedBytes (F : ByteArray) : ByteArray :=
  if F.size = 0 then Header.encode else F

theorem header_le_openedBytes {F : ByteArray} (hUsable : F.size = 0 ∨ Header.Accepts F) :
    Header.size ≤ (openedBytes F).size := by
  rcases hUsable with hEmpty | hAccepts
  · simp [openedBytes, hEmpty, Log.size_encode_header]
  · have hNonempty : F.size ≠ 0 := by
      have := hAccepts.1
      simp only [Header.size] at this
      omega
    simpa [openedBytes, hNonempty] using hAccepts.1

/-- A scan of the opened bytes that meets a failure scans the file's own bytes: an empty file
opens as the bare header, which reads to its end. -/
theorem openedBytes_of_failure {F : ByteArray} {f : Failure} {used : Nat}
    (hSome : (scanRecords (openedBytes F) Header.size).failure = some (f, used)) :
    openedBytes F = F := by
  by_cases hEmpty : F.size = 0
  · rw [openedBytes, if_pos hEmpty, scanRecords_of_le (Nat.le_of_eq Log.size_encode_header)] at hSome
    simp at hSome
  · rw [openedBytes, if_neg hEmpty]

theorem Failure.isRecoverable_of_damage {f : Failure}
    (h : f = .truncatedHeader ∨ f = .truncatedPayload ∨ ∃ a c, f = .badChecksum a c) :
    f.isRecoverable = true := by
  rcases h with rfl | rfl | ⟨a, c, rfl⟩ <;> rfl

theorem Failure.isRecoverable_of_oversize {f : Failure}
    (h : (∃ d, f = .keyTooLarge d) ∨ ∃ d, f = .valueTooLarge d) : f.isRecoverable = false := by
  rcases h with ⟨d, rfl⟩ | ⟨d, rfl⟩ <;> rfl

/-- Opening a file that is empty or whose header the log accepts leaves the log open on it,
reading the opened bytes, with no location and no draw changed. -/
theorem Log.openFile_of_usable {l : Log} {w : World} {ino : Nat} (hO : l.CanOpen w ino)
    (hUsable : (w.disk.tree.contents ino).size = 0 ∨ Header.Accepts (w.disk.tree.contents ino)) :
    ∃ h₁ x₁ l₁ w₁, openFile l w = ((.ok (), l₁), w₁) ∧ l₁.OpenOn w₁.disk h₁ ino x₁ ∧
      l₁.path = l.path ∧ w₁.draws = w.draws ∧ w₁.disk.cwd = w.disk.cwd ∧
      w₁.disk.tree.nodes = w.disk.tree.nodes ∧ w₁.disk.tree.nextIno = w.disk.tree.nextIno ∧
      w₁.disk.tree.contents ino = openedBytes (w.disk.tree.contents ino) := by
  rcases hUsable with hEmpty | hAccepts
  · obtain ⟨w₁, hOpen, hDraws, hDisk⟩ :=
      openFile_of_empty hO (ByteArray.size_eq_zero_iff.mp hEmpty)
    have hR := hO.reads Header.size
    refine ⟨w.disk.handles.size, { l.openedHandle ino with pos := Header.size }, _, w₁, hOpen,
      ⟨rfl, rfl, ?_, rfl, ?_⟩, rfl, hDraws, ?_, ?_, ?_, ?_⟩
    · rw [hDisk]
      exact ⟨hR.handle, hR.live, hR.node, hR.readable, hR.clean⟩
    · rw [hDisk]
      exact hO.quiet
    all_goals simp [hDisk, openedBytes, hEmpty]
  · have hNonempty : (w.disk.tree.contents ino).size ≠ 0 := by
      have := hAccepts.1
      simp only [Header.size] at this
      omega
    obtain ⟨p, w₁, hOpen, hDraws, hDisk⟩ :=
      openFile_of_accepted hO hNonempty ((headerFailure_eq_none_iff _).mpr hAccepts)
    refine ⟨w.disk.handles.size, { l.openedHandle ino with pos := p }, _, w₁, hOpen,
      ⟨rfl, rfl, ?_, rfl, ?_⟩, rfl, hDraws, ?_, ?_, ?_, ?_⟩
    · rw [hDisk]
      exact hO.reads p
    · rw [hDisk]
      exact hO.quiet
    all_goals simp [hDisk, openedBytes, hNonempty]

namespace Store

section OnAnyFile

variable {s : Store} {w : World} {ino : Nat} {F : ByteArray}

/-- **A refused header.** Opening a store on a file that is not empty and whose header the log
does not accept fails with the header's failure, leaves the store closed, and changes no file. -/
theorem openStore_of_refused_header (hClosed : s.isOpen = false) (hO : s.log.CanOpen w ino)
    (hF : w.disk.tree.contents ino = F) (hNonempty : 0 < F.size) (hRefused : ¬ Header.Accepts F) :
    ∃ f s' w', openStore s w = ((.error f, s'), w') ∧ headerFailure F = some f ∧
      s'.isOpen = false ∧ s'.log.file = none ∧ w'.disk.tree = w.disk.tree := by
  subst hF
  obtain ⟨f, hf⟩ : ∃ f, headerFailure (w.disk.tree.contents ino) = some f :=
    Option.ne_none_iff_exists'.mp (mt (headerFailure_eq_none_iff _).mp hRefused)
  obtain ⟨p, w₁, hOpen, -, hDisk⟩ :=
    Log.openFile_of_refused hO (Nat.pos_iff_ne_zero.mp hNonempty) hf
  have hx : w₁.disk.handle? w.disk.handles.size = some { s.log.openedHandle ino with pos := p } := by
    rw [hDisk]
    exact Disk.handle?_push_size _ _
  refine ⟨f, _, _, openStore_of_openFile_error hClosed hOpen rfl hx, hf, hClosed, rfl, ?_⟩
  rw [Disk.tree_setHandle, hDisk]

/-- **A log that reads to its end.** Opening a store on a usable file whose records all read
replays them, cuts nothing, and leaves the store open. -/
theorem openStore_of_clean (hClosed : s.isOpen = false) (hO : s.log.CanOpen w ino)
    (hF : w.disk.tree.contents ino = F) (hUsable : F.size = 0 ∨ Header.Accepts F)
    (hEnd : (scanRecords (openedBytes F) Header.size).stop = (openedBytes F).size) :
    ∃ s' w', openStore s w =
        ((.ok { records := (scanRecords (openedBytes F) Header.size).records.length,
                tombstones := (scanRecords (openedBytes F) Header.size).records.countP (·.deleted),
                keys := (KeyDir.applyAll {} (scanRecords (openedBytes F) Header.size).records).size,
                sizeBefore := (openedBytes F).size, sizeAfter := (openedBytes F).size }, s'), w') ∧
      s'.isOpen = true ∧ s'.keys = KeyDir.applyAll {} (scanRecords (openedBytes F) Header.size).records ∧
      w'.disk.tree.contents ino = openedBytes F ∧ w'.disk.tree.nodes = w.disk.tree.nodes := by
  subst hF
  obtain ⟨h₁, x₁, l₁, w₁, hOpen, hO₁, -, -, -, hNodes, -, hBytes⟩ := Log.openFile_of_usable hO hUsable
  have hNone := (scanRecords_failure_eq_none_iff _ _ (header_le_openedBytes hUsable)).mpr hEnd
  obtain ⟨q, hReplay⟩ := replay_of_clean { s with log := l₁ } w₁ hO₁ hBytes hNone
  obtain ⟨hResult, hDisk, -⟩ := openStore_of_replay_ok hClosed hOpen hReplay
  refine ⟨_, (openStore s w).2, Prod.ext hResult rfl, rfl, rfl, ?_, ?_⟩
  · rw [hDisk, Disk.tree_setHandle, hBytes]
  · rw [hDisk, Disk.tree_setHandle, hNodes]

/-- **Damage at the tail.** Opening a store on a usable file whose first unreadable record is one
recovery takes and runs to the end of the file replays the records before it, cuts the file back
to them, writes no sidecar, and leaves the store open. -/
theorem openStore_of_tail_damage (hClosed : s.isOpen = false) (hO : s.log.CanOpen w ino)
    (hF : w.disk.tree.contents ino = F) (hUsable : F.size = 0 ∨ Header.Accepts F) {f : Failure}
    {used : Nat} (hSome : (scanRecords (openedBytes F) Header.size).failure = some (f, used))
    (hRec : f.isRecoverable = true)
    (hTail : (openedBytes F).size ≤ (scanRecords (openedBytes F) Header.size).stop + used) :
    ∃ s' w', openStore s w =
        ((.ok { records := (scanRecords (openedBytes F) Header.size).records.length,
                tombstones := (scanRecords (openedBytes F) Header.size).records.countP (·.deleted),
                keys := (KeyDir.applyAll {} (scanRecords (openedBytes F) Header.size).records).size,
                truncatedBytes := (openedBytes F).size - (scanRecords (openedBytes F) Header.size).stop,
                sizeBefore := (openedBytes F).size,
                sizeAfter := (scanRecords (openedBytes F) Header.size).stop,
                corruption := some (.record (scanRecords (openedBytes F) Header.size).stop
                  ((scanRecords (openedBytes F) Header.size).stop + used) f) }, s'), w') ∧
      s'.isOpen = true ∧ s'.keys = KeyDir.applyAll {} (scanRecords (openedBytes F) Header.size).records ∧
      w'.disk.tree.contents ino =
        (openedBytes F).extract 0 (scanRecords (openedBytes F) Header.size).stop ∧
      w'.disk.tree.nodes = w.disk.tree.nodes := by
  subst hF
  obtain ⟨h₁, x₁, l₁, w₁, hOpen, hO₁, -, -, -, hNodes, -, hBytes⟩ := Log.openFile_of_usable hO hUsable
  obtain ⟨q, hReplay⟩ := replay_of_tail { s with log := l₁ } w₁ hO₁ hBytes hSome hRec hTail
  obtain ⟨hResult, hDisk, -⟩ := openStore_of_replay_ok hClosed hOpen hReplay
  refine ⟨_, (openStore s w).2, Prod.ext hResult rfl, rfl, rfl, ?_, ?_⟩
  · rw [hDisk, Disk.tree_setHandle, Tree.contents_setContents_self]
  · rw [hDisk, Disk.tree_setHandle, Tree.nodes_setContents, hNodes]

/-- **Damage before the tail.** Opening a store on a usable file whose first unreadable record
is one recovery takes and ends before the file does replays the records before it, copies
everything from there on into a new sidecar, cuts the file back to the records, and leaves the
store open on the same file. -/
theorem openStore_of_mid_damage (hClosed : s.isOpen = false) (hO : s.log.CanOpen w ino)
    (hF : w.disk.tree.contents ino = F) (hUsable : F.size = 0 ∨ Header.Accepts F) {f : Failure}
    {used : Nat} (hSome : (scanRecords (openedBytes F) Header.size).failure = some (f, used))
    (hRec : f.isRecoverable = true)
    (hMid : (scanRecords (openedBytes F) Header.size).stop + used < (openedBytes F).size)
    (hIno : ino < w.disk.tree.nextIno)
    (hFree : w.disk.tree.locate (w.disk.place (sidecarName s.path w.draws)) = .ok none) :
    ∃ s' w', openStore s w =
        ((.ok { records := (scanRecords (openedBytes F) Header.size).records.length,
                tombstones := (scanRecords (openedBytes F) Header.size).records.countP (·.deleted),
                keys := (KeyDir.applyAll {} (scanRecords (openedBytes F) Header.size).records).size,
                truncatedBytes := (openedBytes F).size - (scanRecords (openedBytes F) Header.size).stop,
                sizeBefore := (openedBytes F).size,
                sizeAfter := (scanRecords (openedBytes F) Header.size).stop,
                corruption := some (.record (scanRecords (openedBytes F) Header.size).stop
                  ((scanRecords (openedBytes F) Header.size).stop + used) f),
                discarded := some (sidecarName s.path w.draws) }, s'), w') ∧
      s'.isOpen = true ∧ s'.keys = KeyDir.applyAll {} (scanRecords (openedBytes F) Header.size).records ∧
      w'.disk.tree.contents ino =
        (openedBytes F).extract 0 (scanRecords (openedBytes F) Header.size).stop ∧
      w'.disk.tree.locate (w.disk.place s.log.path) = .ok (some (.file ino)) ∧
      ∃ n, w'.disk.tree.locate (w.disk.place (sidecarName s.path w.draws)) = .ok (some (.file n)) ∧
        w'.disk.tree.contents n = (openedBytes F).extract (scanRecords (openedBytes F) Header.size).stop
          (openedBytes F).size := by
  subst hF
  obtain ⟨h₁, x₁, l₁, w₁, hOpen, hO₁, -, hDraws, hCwd, hNodes, hNext, hBytes⟩ :=
    Log.openFile_of_usable hO hUsable
  have hPlace : w₁.disk.place = w.disk.place := by
    funext path
    simp [Disk.place, hCwd]
  have hIno₁ : ino < w₁.disk.tree.nextIno := hNext ▸ hIno
  have hFree₁ : w₁.disk.tree.locate (w₁.disk.place (sidecarName s.path w₁.draws)) = .ok none := by
    rw [hPlace, hDraws, Tree.locate_of_nodes hNodes]
    exact hFree
  have hReplay := replay_of_mid { s with log := l₁ } w₁ hO₁ hBytes hSome hRec hMid hIno₁ hFree₁
  rw [hDraws] at hReplay
  obtain ⟨hResult, hDisk, -⟩ := openStore_of_replay_ok hClosed hOpen hReplay
  have hSideIno : ino ≠ w₁.disk.tree.nextIno := Nat.ne_of_lt hIno₁
  have hSideFree : w₁.disk.tree.locate (w₁.disk.place (sidecarName s.path w.draws)) = .ok none :=
    hDraws ▸ hFree₁
  have hPath₁ : w₁.disk.tree.locate (w.disk.place s.log.path) = .ok (some (.file ino)) := by
    rw [Tree.locate_of_nodes hNodes]
    exact hO.located
  -- the locations after recovery are those of the opened file plus the sidecar
  have hLocations : ∀ cs, (openStore s w).2.disk.tree.locate cs =
      (w₁.disk.tree.addNode (w₁.disk.place (sidecarName s.path w.draws))
        (.file w₁.disk.tree.nextIno)).locate cs := by
    intro cs
    rw [hDisk, Disk.tree_setHandle]
    exact Tree.locate_of_nodes (by simp) cs
  refine ⟨_, (openStore s w).2, Prod.ext hResult rfl, rfl, rfl, ?_, ?_,
    w₁.disk.tree.nextIno, ?_, ?_⟩
  · rw [hDisk]
    simp
  · rw [hLocations]
    exact Tree.locate_addNode_of_absent _ hSideFree hPath₁
  · rw [hLocations, ← hPlace]
    exact Tree.locate_addNode_self _ hSideFree
  · rw [hDisk, Disk.tree_setHandle, Tree.contents_setContents_ne _ _ (Ne.symm hSideIno)]
    simp [hBytes]

/-- **Damage before the tail, with the sidecar name taken.** Opening a store on a usable file
whose first unreadable record is one recovery takes and ends before the file does, when the
sidecar cannot be created, fails with the failure to preserve the bytes, leaves the store closed,
and cuts nothing. -/
theorem openStore_of_mid_damage_taken (hClosed : s.isOpen = false) (hO : s.log.CanOpen w ino)
    (hF : w.disk.tree.contents ino = F) (hUsable : F.size = 0 ∨ Header.Accepts F) {f : Failure}
    {used : Nat} (hSome : (scanRecords (openedBytes F) Header.size).failure = some (f, used))
    (hRec : f.isRecoverable = true)
    (hMid : (scanRecords (openedBytes F) Header.size).stop + used < (openedBytes F).size)
    (hTaken : w.disk.tree.locate (w.disk.place (sidecarName s.path w.draws)) ≠ .ok none) :
    ∃ f' s' w', openStore s w = ((.error (.within "preserve discarded bytes" f'), s'), w') ∧
      s'.isOpen = false ∧ s'.log.file = none ∧ w'.disk.tree.contents ino = openedBytes F ∧
      w'.disk.tree.nodes = w.disk.tree.nodes := by
  subst hF
  obtain ⟨h₁, x₁, l₁, w₁, hOpen, hO₁, -, hDraws, hCwd, hNodes, -, hBytes⟩ :=
    Log.openFile_of_usable hO hUsable
  have hPlace : w₁.disk.place = w.disk.place := by
    funext path
    simp [Disk.place, hCwd]
  have hTaken₁ : w₁.disk.tree.locate (w₁.disk.place (sidecarName s.path w₁.draws)) ≠ .ok none := by
    rw [hPlace, hDraws, Tree.locate_of_nodes hNodes]
    exact hTaken
  obtain ⟨f', q, hReplay⟩ := replay_of_mid_taken { s with log := l₁ } w₁ hO₁ hBytes hSome hRec
    hMid hTaken₁
  have hx := Disk.handle?_setHandle_self (y := { x₁ with pos := q }) hO₁.reads.handle
  refine ⟨f', _, _, openStore_of_replay_error hClosed hOpen hReplay hO₁.file hx, hClosed, rfl, ?_, ?_⟩
  · simp [hBytes]
  · simp [hNodes]

/-- **A record that must not be cut.** Opening a store on a usable file whose first unreadable
record is one recovery does not take fails, naming the store and locating the record, leaves
the store closed, and cuts nothing. -/
theorem openStore_of_fatal_damage (hClosed : s.isOpen = false) (hO : s.log.CanOpen w ino)
    (hF : w.disk.tree.contents ino = F) (hUsable : F.size = 0 ∨ Header.Accepts F) {f : Failure}
    {used : Nat} (hSome : (scanRecords (openedBytes F) Header.size).failure = some (f, used))
    (hFatal : f.isRecoverable = false) :
    ∃ s' w', openStore s w =
        ((.error (.within ("replay " ++ s.path) (.record (scanRecords (openedBytes F) Header.size).stop
          ((scanRecords (openedBytes F) Header.size).stop + used) f)), s'), w') ∧
      s'.isOpen = false ∧ s'.log.file = none ∧ w'.disk.tree.contents ino = openedBytes F ∧
      w'.disk.tree.nodes = w.disk.tree.nodes := by
  subst hF
  obtain ⟨h₁, x₁, l₁, w₁, hOpen, hO₁, -, -, -, hNodes, -, hBytes⟩ := Log.openFile_of_usable hO hUsable
  obtain ⟨q, hReplay⟩ := replay_of_fatal { s with log := l₁ } w₁ hO₁ hBytes hSome hFatal
  have hx := Disk.handle?_setHandle_self (y := { x₁ with pos := q }) hO₁.reads.handle
  refine ⟨_, _, openStore_of_replay_error hClosed hOpen hReplay hO₁.file hx, hClosed, rfl, ?_, ?_⟩
  · simp [hBytes]
  · simp [hNodes]

end OnAnyFile

/-- What opening a fresh store at `path` on the file `ino` of `w` does, by the bytes `F` that
file holds. A file that is not empty and whose header the log does not accept is refused with a
wrong magic number or a newer version, leaving the store closed and every file as it was.
Otherwise (an empty file opens as the bare header) the records are read from the end of the
header until the end or the first that fails: a log read to its end opens whole; damage that
recovery takes (a cut header or payload, a wrong checksum) opens the store on the records before
it, cuts the file back to them, and preserves the cut bytes in a new sidecar (under a name that
is free) exactly when the damaged record ends before the file does; a record over the size limits
fails the open, naming the store and the record, and cuts nothing. -/
def OpensOnFile (path : String) (lg lg' : Logger) (w : World) (ino : Nat) : Prop :=
  let s : Store := { path, log := Log.create path lg {}, logger := lg' }
  let F := w.disk.tree.contents ino
  let sc := scanRecords (openedBytes F) Header.size
  (0 < F.size → ¬ Header.Accepts F →
    ∃ f s' w', openStore s w = ((.error f, s'), w') ∧
      ((∃ m, f = .badMagic m) ∨ ∃ v, Header.version < v ∧ f = .unsupportedVersion v) ∧
      s'.isOpen = false ∧ s'.log.file = none ∧ w'.disk.tree = w.disk.tree) ∧
  (F.size = 0 ∨ Header.Accepts F → sc.stop = (openedBytes F).size →
    ∃ s' w', openStore s w =
        ((.ok { records := sc.records.length, tombstones := sc.records.countP (·.deleted),
                keys := (KeyDir.applyAll {} sc.records).size,
                sizeBefore := (openedBytes F).size, sizeAfter := (openedBytes F).size }, s'), w') ∧
      s'.isOpen = true ∧ s'.keys = KeyDir.applyAll {} sc.records ∧
      w'.disk.tree.contents ino = openedBytes F ∧ w'.disk.tree.nodes = w.disk.tree.nodes) ∧
  (∀ f used, F.size = 0 ∨ Header.Accepts F → sc.failure = some (f, used) →
    (f = .truncatedHeader ∨ f = .truncatedPayload ∨ ∃ a c, f = .badChecksum a c) →
    (sc.stop + used < F.size →
      w.disk.tree.locate (w.disk.place (sidecarName path w.draws)) = .ok none) →
    ∃ s' w', openStore s w =
        ((.ok { records := sc.records.length, tombstones := sc.records.countP (·.deleted),
                keys := (KeyDir.applyAll {} sc.records).size, truncatedBytes := F.size - sc.stop,
                sizeBefore := F.size, sizeAfter := sc.stop,
                corruption := some (.record sc.stop (sc.stop + used) f),
                discarded := if sc.stop + used < F.size then some (sidecarName path w.draws)
                  else none }, s'), w') ∧
      s'.isOpen = true ∧ s'.keys = KeyDir.applyAll {} sc.records ∧
      w'.disk.tree.contents ino = F.extract 0 sc.stop ∧
      w'.disk.tree.locate (w.disk.place path) = .ok (some (.file ino)) ∧
      (sc.stop + used < F.size →
        ∃ n, w'.disk.tree.locate (w.disk.place (sidecarName path w.draws)) = .ok (some (.file n)) ∧
          w'.disk.tree.contents n = F.extract sc.stop F.size) ∧
      (F.size ≤ sc.stop + used → w'.disk.tree.nodes = w.disk.tree.nodes)) ∧
  (∀ f used, F.size = 0 ∨ Header.Accepts F → sc.failure = some (f, used) →
    ((∃ d, f = .keyTooLarge d) ∨ ∃ d, f = .valueTooLarge d) →
    ∃ s' w', openStore s w =
        ((.error (.within ("replay " ++ path) (.record sc.stop (sc.stop + used) f)), s'), w') ∧
      s'.isOpen = false ∧ s'.log.file = none ∧ w'.disk.tree.contents ino = F ∧
      w'.disk.tree.nodes = w.disk.tree.nodes)

/-- **Opening a store on any file.** A fresh store on a path naming an unlocked file opens as
`OpensOnFile` says, whatever bytes the file holds. -/
theorem openStore_on_any_file {path : String} {lg lg' : Logger} {w : World} {ino : Nat}
    (hPath : path ≠ "") (hLoc : w.disk.tree.locate (w.disk.place path) = .ok (some (.file ino)))
    (hFree : w.disk.lockHeld (.file ino) = false) (hIno : ino < w.disk.tree.nextIno) :
    OpensOnFile path lg lg' w ino := by
  unfold OpensOnFile
  intro s F sc
  have hO : s.log.CanOpen w ino := ⟨hPath, hLoc, rfl, rfl, hFree, .inl rfl⟩
  refine ⟨?refused, ?clean, ?recoverable, ?fatal⟩
  case refused =>
    intro hNonempty hRefused
    obtain ⟨f, s', w', hRun, hf, hClosed, hFile, hTree⟩ :=
      openStore_of_refused_header rfl hO rfl hNonempty hRefused
    exact ⟨f, s', w', hRun, headerFailure_cases hf, hClosed, hFile, hTree⟩
  case clean =>
    intro hUsable hEnd
    exact openStore_of_clean rfl hO rfl hUsable hEnd
  case recoverable =>
    intro f used hUsable hSome hDamage hSide
    have hRec := Failure.isRecoverable_of_damage hDamage
    have hBytes : openedBytes F = F := openedBytes_of_failure hSome
    have hSize : (openedBytes F).size = F.size := by rw [hBytes]
    have hExtract : ∀ i j, (openedBytes F).extract i j = F.extract i j := by
      intro i j
      rw [hBytes]
    by_cases hMid : sc.stop + used < F.size
    · obtain ⟨s', w', hRun, hOpen, hKeys, hCut, hPathLoc, n, hSideLoc, hSideBytes⟩ :=
        openStore_of_mid_damage rfl hO rfl hUsable hSome hRec (hSize ▸ hMid) hIno (hSide hMid)
      rw [hSize] at hRun
      rw [hExtract] at hCut hSideBytes
      rw [hSize] at hSideBytes
      refine ⟨s', w', by rw [if_pos hMid]; exact hRun, hOpen, hKeys, hCut, hPathLoc,
        fun _ => ⟨n, hSideLoc, hSideBytes⟩, fun hTail => absurd hMid (Nat.not_lt.mpr hTail)⟩
    · obtain ⟨s', w', hRun, hOpen, hKeys, hCut, hNodes⟩ :=
        openStore_of_tail_damage rfl hO rfl hUsable hSome hRec (hSize ▸ Nat.le_of_not_lt hMid)
      rw [hSize] at hRun
      rw [hExtract] at hCut
      refine ⟨s', w', by rw [if_neg hMid]; exact hRun, hOpen, hKeys, hCut, ?_,
        fun hMid' => absurd hMid' hMid, fun _ => hNodes⟩
      rw [Tree.locate_of_nodes hNodes]
      exact hLoc
  case fatal =>
    intro f used hUsable hSome hOversize
    have hBytes : openedBytes F = F := openedBytes_of_failure hSome
    obtain ⟨s', w', hRun, hClosed, hFile, hContents, hNodes⟩ :=
      openStore_of_fatal_damage rfl hO rfl hUsable hSome (Failure.isRecoverable_of_oversize hOversize)
    exact ⟨s', w', hRun, hClosed, hFile, hBytes ▸ hContents, hNodes⟩

theorem openStore_on_any_file_at_root :
    let w : World := { disk := { cwd := "/", tree :=
      { nodes := [(["db"], .file 0)], inodes := [(0, Header.encode)], nextIno := 1 } } }
    ("/db" ≠ "" ∧ w.disk.tree.locate (w.disk.place "/db") = .ok (some (.file 0)) ∧
      w.disk.lockHeld (.file 0) = false ∧ 0 < w.disk.tree.nextIno) ∧
    OpensOnFile "/db" .nop .nop w 0 := by
  intro w
  have hPath : ("/db" : String) ≠ "" := by decide
  have hLoc : w.disk.tree.locate (w.disk.place "/db") = .ok (some (.file 0)) := by cbv
  have hFree : w.disk.lockHeld (.file 0) = false := by cbv
  have hIno : 0 < w.disk.tree.nextIno := by decide
  exact ⟨⟨hPath, hLoc, hFree, hIno⟩, openStore_on_any_file hPath hLoc hFree hIno⟩

end Store

end LogStore
