import LogStore.Proofs.Reader

/-!
# Opening, sizing, cutting and closing the log file

The calls of a log on its file, each stated for a log whose handle is open on the file and
reached by no injected failure: what the call returns, what it leaves in the log, and how the
file and the handle change.

* `Faults.Quiet`: no injected failure reaches a handle opened with or without injection.
* `Log.readFully_of_le`: reading bytes the file has returns exactly them.
* `Log.openFile_of_empty`, `Log.openFile_of_refused`, `Log.openFile_of_accepted`: opening a
  file writes the header into an empty one, and otherwise keeps the log open on the file with
  its header refused (by `headerFailure`) or accepted; the cursor then stands after the header.
* `Log.write_of_open`, `Log.write_of_invalid`: a valid entry is appended at the end of the
  file, an invalid one refused before anything is touched.
* `Log.size_of_open`, `Log.close_of_open`, `Log.truncate_of_open`, `Log.copyRange_of_le`;
  `Log.copyRange_moves`: a copy of any range only moves the handle and drops the buffer.
* `Header.Accepts.append`, `Header.Accepts.extract`: appending, and cutting past the header,
  keep a header accepted.
-/

namespace LogStore

/-- No injected failure reaches a handle opened with injection `faulty`: it is not injected, or
nothing is injected. -/
def Faults.Quiet (fs : Faults) (faulty : Bool) : Prop :=
  faulty = false ∨ fs = {}

namespace Faults

variable {fs : Faults} {faulty : Bool}

theorem Quiet.read (hQ : fs.Quiet faulty) : (faulty && fs.read) = false := by
  rcases hQ with rfl | rfl <;> simp

theorem Quiet.size (hQ : fs.Quiet faulty) : (faulty && fs.size) = false := by
  rcases hQ with rfl | rfl <;> simp

theorem Quiet.sync (hQ : fs.Quiet faulty) : (faulty && fs.sync) = false := by
  rcases hQ with rfl | rfl <;> simp

theorem Quiet.truncate (hQ : fs.Quiet faulty) : (faulty && fs.truncate) = false := by
  rcases hQ with rfl | rfl <;> simp

theorem Quiet.write (hQ : fs.Quiet faulty) : (if faulty = true then fs.write else none) = none := by
  rcases hQ with rfl | rfl <;> simp

end Faults

/-- Why a log refuses the header of a file that is not empty: it is shorter than a header, or
`Header.check` refuses its first six bytes. -/
def headerFailure (F : ByteArray) : Option Failure :=
  if F.size < Header.size then some (.badMagic ("file is " ++ toString F.size ++ " bytes"))
  else Header.check (F.extract 0 Header.size)

/-- The files whose header a log accepts: at least a header long, starting with the magic
number, and of a version no newer than the format's. -/
def Header.Accepts (F : ByteArray) : Prop :=
  Header.size ≤ F.size ∧ Bytes.readLE F 0 4 = Header.magic ∧ Bytes.readLE F 4 2 ≤ Header.version

instance : DecidablePred Header.Accepts :=
  fun F => inferInstanceAs (Decidable (_ ∧ _ ∧ _))

theorem readLE_extract_header {F : ByteArray} (hF : Header.size ≤ F.size) {i n : Nat}
    (hin : i + n ≤ Header.size) :
    Bytes.readLE (F.extract 0 Header.size) i n = Bytes.readLE F i n := by
  have hSplit : F = F.extract 0 Header.size ++ F.extract Header.size F.size := by
    rw [← ByteArray.extract_eq_extract_append_extract Header.size (Nat.zero_le _) hF,
      ByteArray.extract_zero_size]
  conv => rhs; rw [hSplit]
  rw [Bytes.readLE_append_left (by simp; omega)]

/-- A log refuses exactly the headers it does not accept. -/
theorem headerFailure_eq_none_iff (F : ByteArray) : headerFailure F = none ↔ Header.Accepts F := by
  unfold headerFailure Header.Accepts
  by_cases hShort : F.size < Header.size
  · simp only [hShort, ↓reduceIte, reduceCtorEq, false_iff]
    omega
  · have hF : Header.size ≤ F.size := Nat.le_of_not_lt hShort
    have hSize : ¬ (F.extract 0 Header.size).size < Header.size := by simp; omega
    simp only [hShort, ↓reduceIte, Header.check, hSize, readLE_extract_header hF (by decide : 0 + 4 ≤ 6),
      readLE_extract_header hF (by decide : 4 + 2 ≤ 6)]
    by_cases hMagic : Bytes.readLE F 0 4 = Header.magic <;>
      by_cases hVersion : Bytes.readLE F 4 2 > Header.version <;> simp [hMagic, hVersion, hF] <;> omega

/-- A refused header is a wrong magic number, or a version newer than the format's. -/
theorem headerFailure_cases {F : ByteArray} {f : Failure} (h : headerFailure F = some f) :
    (∃ m, f = .badMagic m) ∨ (∃ v, Header.version < v ∧ f = .unsupportedVersion v) := by
  unfold headerFailure Header.check at h
  split at h
  · exact .inl ⟨_, (Option.some.inj h).symm⟩
  · split at h
    · exact .inl ⟨_, (Option.some.inj h).symm⟩
    · dsimp only at h
      split at h
      · exact .inl ⟨_, (Option.some.inj h).symm⟩
      · split at h
        · exact .inr ⟨_, by omega, (Option.some.inj h).symm⟩
        · simp at h

namespace Header.Accepts

variable {F : ByteArray}

/-- Bytes added after an accepted header keep it accepted. -/
theorem append (hF : Header.Accepts F) (c : ByteArray) : Header.Accepts (F ++ c) := by
  obtain ⟨hSize, hMagic, hVersion⟩ := hF
  simp only [Header.size] at hSize
  refine ⟨by simp [ByteArray.size_append, Header.size]; omega, ?_, ?_⟩
  · rw [Bytes.readLE_append_left (by omega)]
    exact hMagic
  · rw [Bytes.readLE_append_left (by omega)]
    exact hVersion

/-- Cutting a file past its header keeps the header accepted. -/
theorem extract (hF : Header.Accepts F) {n : Nat} (hn : Header.size ≤ n) :
    Header.Accepts (F.extract 0 n) := by
  obtain ⟨hSize, hMagic, hVersion⟩ := hF
  simp only [Header.size] at hSize hn
  refine ⟨by simp [Header.size]; omega, ?_, ?_⟩
  · rw [Bytes.readLE_extract (by omega)]
    exact hMagic
  · rw [Bytes.readLE_extract (by omega)]
    exact hVersion

end Header.Accepts

namespace Log

variable {l : Log} {w : World} {h ino : Nat} {x : Handle}

theorem get_eq : (get : LogM Log) l w = ((l, l), w) := rfl

/-- Reading bytes that the file has, from where the handle stands, returns exactly them and
moves the handle past them. -/
theorem readFully_of_le (hR : w.disk.ReadsFile h ino x) {n : Nat}
    (hn : x.pos + n ≤ (w.disk.tree.contents ino).size) :
    readFully h n l w =
      ((((w.disk.tree.contents ino).extract x.pos (x.pos + n), none), l),
        { w with disk := w.disk.setHandle h { x with pos := x.pos + n } }) := by
  simp only [readFully, lift, StateT.lift, Sys.onDisk, modifyGet, MonadStateOf.modifyGet,
    StateT.modifyGet, bind, StateT.bind, pure, StateT.pure]
  cases n with
  | zero =>
    simp [readFully.go, Disk.setHandle_pos_self hR.handle]
  | succ k =>
    have hGot : ((w.disk.tree.contents ino).extract x.pos (x.pos + (k + 1))).size = k + 1 := by
      simp
      omega
    have hRead := Disk.read_of_lt hR (n := k + 1) (by omega) (by omega)
    rw [hGot] at hRead
    simp [readFully.go, hRead, hGot]

/-- Reading straight from the file moves the handle and changes nothing else. -/
theorem readFully_go_moves {d : Disk} (hR : d.ReadsFile h ino x) (acc : ByteArray) (n fuel : Nat) :
    ∃ q r, readFully.go h d acc n fuel = (r, d.setHandle h { x with pos := q }) := by
  induction fuel generalizing d x acc with
  | zero => exact ⟨x.pos, _, by rw [readFully.go, Disk.setHandle_pos_self hR.handle]⟩
  | succ fuel ih =>
    rw [readFully.go]
    by_cases hDone : acc.size ≥ n
    · rw [if_pos hDone]
      exact ⟨x.pos, _, by rw [Disk.setHandle_pos_self hR.handle]⟩
    · rw [if_neg hDone]
      by_cases hPos : x.pos < (d.tree.contents ino).size
      · rw [Disk.read_of_lt hR (by omega) hPos]
        dsimp only
        split
        · exact ⟨_, _, rfl⟩
        · obtain ⟨q, r, hq⟩ := ih (hR.setPos _) (acc ++ _)
          rw [hq, Disk.setHandle_setHandle]
          exact ⟨q, r, rfl⟩
      · rw [Disk.read_of_le hR (by omega) (by omega)]
        exact ⟨x.pos, _, by rw [Disk.setHandle_pos_self hR.handle]⟩

theorem size_encode_header : Header.encode.size = Header.size := rfl

/-- Writing the header into an empty file through a handle reached by no injected write or sync
failure stores the header and leaves the handle after it. -/
theorem writeHeader_of_empty (hR : w.disk.ReadsFile h ino x) (hWritable : x.writable = true)
    (hSeq : x.appending = false) (hQuiet : w.disk.faults.Quiet x.faulty)
    (hEmpty : w.disk.tree.contents ino = ByteArray.empty) :
    writeHeader h l w =
      ((none, l),
        { w with
          disk := { w.disk with tree := w.disk.tree.setContents ino Header.encode }.setHandle h
            { x with pos := Header.size } }) := by
  have hR₀ := hR.setPos 0
  have hWrite : (w.disk.setHandle h { x with pos := 0 }).write h Header.encode =
      ((Header.size, none),
        { w.disk with tree := w.disk.tree.setContents ino Header.encode }.setHandle h
          { x with pos := Header.size }) := by
    rw [Disk.write, Disk.faulted_of_handle hR₀.handle]
    simp only [Bool.and_true, Disk.faults_setHandle, hQuiet.write]
    rw [Disk.writeDirect_of_file hR₀.handle hR.live hR.node hWritable, Disk.store_eq]
    simp [hSeq, hEmpty, Bytes.overwrite_empty, Disk.setHandle, size_encode_header]
  have hSync :
      ({ w.disk with tree := w.disk.tree.setContents ino Header.encode }.setHandle h
        { x with pos := Header.size }).sync h = none :=
    Disk.sync_of_live (Disk.handle?_setHandle_self hR.handle) hR.live hQuiet.sync
  have hSeek : w.disk.seek h 0 0 = ((0, none), w.disk.setHandle h { x with pos := 0 }) :=
    Disk.seek_start hR.handle hR.live 0
  simp [writeHeader, lift, StateT.lift, Sys.onDisk, Sys.disk, modifyGet,
    MonadStateOf.modifyGet, StateT.modifyGet, bind, StateT.bind, pure, StateT.pure, get, getThe,
    MonadStateOf.get, StateT.get, hSeek, hWrite, hSync]

/-- Reading the header of a file refuses one shorter than a header without reading it, and
otherwise checks its first six bytes, leaving the handle after them. -/
theorem readHeader_spec (hR : w.disk.ReadsFile h ino x) :
    ∃ p, readHeader h (w.disk.tree.contents ino).size l w =
      ((headerFailure (w.disk.tree.contents ino), l),
        { w with disk := w.disk.setHandle h { x with pos := p } }) := by
  by_cases hShort : (w.disk.tree.contents ino).size < Header.size
  · refine ⟨x.pos, ?_⟩
    simp [readHeader, hShort, headerFailure, Disk.setHandle_pos_self hR.handle, pure,
      StateT.pure]
  · refine ⟨Header.size, ?_⟩
    have hSeek : w.disk.seek h 0 0 = ((0, none), w.disk.setHandle h { x with pos := 0 }) :=
      Disk.seek_start hR.handle hR.live 0
    have hRead := readFully_of_le (l := l) (w := { w with disk := w.disk.setHandle h { x with pos := 0 } })
      (hR.setPos 0) (n := Header.size) (by simp; omega)
    simp only [Disk.tree_setHandle, Disk.setHandle_setHandle, Nat.zero_add] at hRead
    have hSize : ((w.disk.tree.contents ino).extract 0 Header.size).size = Header.size := by
      simp
      omega
    simp [readHeader, hShort, lift, StateT.lift, Sys.onDisk, modifyGet, MonadStateOf.modifyGet,
      StateT.modifyGet, bind, StateT.bind, pure, StateT.pure, hSeek, hRead, hSize, headerFailure]

theorem emit_eq (e : Event) (l : Log) (w : World) :
    emit e l w = (((), l), { w with lines := (Sys.emit l.logger e w).2.lines }) := by
  simp only [emit, Sys.emit, lift, StateT.lift, bind, StateT.bind, get, getThe, MonadStateOf.get,
    StateT.get, pure, StateT.pure, modify, modifyGet, MonadStateOf.modifyGet, StateT.modifyGet]
  split <;> rfl

/-- The handle a log opens on the file `ino`: at the start, readable and writable, holding the
file's lock. -/
def openedHandle (l : Log) (ino : Nat) : Handle :=
  { node := .file ino, name := l.path, readable := true, writable := true, locked := true,
    faulty := l.opener.faulty }

/-- What opening needs of a closed log and the world: its path names the file `ino`, which no
open handle holds the lock of, and no injected failure reaches the handle it opens. -/
structure CanOpen (l : Log) (w : World) (ino : Nat) : Prop where
  path : l.path ≠ ""
  located : w.disk.tree.locate (w.disk.place l.path) = .ok (some (.file ino))
  closed : l.file = none
  locking : l.opener.locking = true
  free : w.disk.lockHeld (.file ino) = false
  quiet : w.disk.faults.Quiet l.opener.faulty

section Open

variable {l : Log} {w : World} {ino : Nat}

theorem CanOpen.reads (hO : l.CanOpen w ino) (p : Nat) :
    ({ w.disk with handles := w.disk.handles.push { l.openedHandle ino with pos := p } } : Disk).ReadsFile
      w.disk.handles.size ino { l.openedHandle ino with pos := p } where
  handle := Disk.handle?_push_size _ _
  live := rfl
  node := rfl
  readable := rfl
  clean := hO.quiet.read

/-- Opening an empty file writes the header into it and leaves the log reading after it. -/
theorem openFile_of_empty (hO : l.CanOpen w ino)
    (hEmpty : w.disk.tree.contents ino = ByteArray.empty) :
    ∃ w', openFile l w =
        ((.ok (), { l with file := some w.disk.handles.size, headerError := none,
                           readOffset := Header.size, buffer := none }), w') ∧
      w'.draws = w.draws ∧
      w'.disk = { w.disk with
        tree := w.disk.tree.setContents ino Header.encode,
        handles := w.disk.handles.push { l.openedHandle ino with pos := Header.size } } := by
  have hStat := Disk.stat_of_file hO.path hO.located
  have hOpen := Disk.openLocked_of_file l.opener.faulty hO.path hO.located hO.free
  have hSize : ({ w.disk with handles := w.disk.handles.push (l.openedHandle ino) } : Disk).size
      w.disk.handles.size = .ok 0 := by
    rw [Disk.size_of_live (Disk.handle?_push_size _ _) rfl hO.quiet.size]
    simp [Disk.nodeSize, openedHandle, hEmpty]
  have hHeader := writeHeader_of_empty (l := l)
    (w := { w with disk := { w.disk with handles := w.disk.handles.push (l.openedHandle ino) } })
    (hO.reads 0) rfl rfl hO.quiet (by simpa using hEmpty)
  simp only [openedHandle] at hSize hHeader
  simp only [openFile, get, getThe, MonadStateOf.get, StateT.get, bind, StateT.bind, hO.closed,
    Option.isSome_none, Bool.false_eq_true, ↓reduceIte, lift, StateT.lift, Sys.disk, hStat,
    Sys.onDisk, modifyGet, MonadStateOf.modifyGet, StateT.modifyGet, hO.locking, hOpen, pure,
    StateT.pure, hSize, hHeader, emit_eq, modify]
  refine ⟨_, rfl, rfl, ?_⟩
  simp [openedHandle, Disk.setHandle, Array.setIfInBounds, Array.set_push]

theorem CanOpen.size (hO : l.CanOpen w ino) :
    ({ w.disk with handles := w.disk.handles.push (l.openedHandle ino) } : Disk).size
      w.disk.handles.size = .ok (w.disk.tree.contents ino).size := by
  rw [Disk.size_of_live (Disk.handle?_push_size _ _) rfl hO.quiet.size]
  rfl

/-- Opening a file that is not empty reads its header: when `headerFailure` refuses it, the log
stays open on the file with the header's failure and the open fails with it. -/
theorem openFile_of_refused (hO : l.CanOpen w ino)
    (hNonempty : (w.disk.tree.contents ino).size ≠ 0) {f : Failure}
    (hRefused : headerFailure (w.disk.tree.contents ino) = some f) :
    ∃ p w', openFile l w =
        ((.error f, { l with file := some w.disk.handles.size, headerError := some f }), w') ∧
      w'.draws = w.draws ∧
      w'.disk = { w.disk with
        handles := w.disk.handles.push { l.openedHandle ino with pos := p } } := by
  have hStat := Disk.stat_of_file hO.path hO.located
  have hOpen := Disk.openLocked_of_file l.opener.faulty hO.path hO.located hO.free
  have hSize := hO.size
  obtain ⟨p, hHeader⟩ := readHeader_spec (l := l)
    (w := { w with disk := { w.disk with handles := w.disk.handles.push (l.openedHandle ino) } })
    (hO.reads 0)
  dsimp only at hHeader
  simp only [openedHandle] at hSize hHeader
  simp only [openFile, get, getThe, MonadStateOf.get, StateT.get, bind, StateT.bind, hO.closed,
    Option.isSome_none, Bool.false_eq_true, ↓reduceIte, lift, StateT.lift, Sys.disk, hStat,
    Sys.onDisk, modifyGet, MonadStateOf.modifyGet, StateT.modifyGet, hO.locking, hOpen, pure,
    StateT.pure, hSize, hNonempty, hHeader, hRefused, emit_eq, modify]
  refine ⟨p, _, rfl, rfl, ?_⟩
  simp [openedHandle, Disk.setHandle, Array.setIfInBounds, Array.set_push]

/-- Opening a file that is not empty and whose header `headerFailure` accepts leaves the log
reading the file after the header. -/
theorem openFile_of_accepted (hO : l.CanOpen w ino)
    (hNonempty : (w.disk.tree.contents ino).size ≠ 0)
    (hAccepted : headerFailure (w.disk.tree.contents ino) = none) :
    ∃ p w', openFile l w =
        ((.ok (), { l with file := some w.disk.handles.size, headerError := none,
                           readOffset := Header.size, buffer := none }), w') ∧
      w'.draws = w.draws ∧
      w'.disk = { w.disk with
        handles := w.disk.handles.push { l.openedHandle ino with pos := p } } := by
  have hStat := Disk.stat_of_file hO.path hO.located
  have hOpen := Disk.openLocked_of_file l.opener.faulty hO.path hO.located hO.free
  have hSize := hO.size
  obtain ⟨p, hHeader⟩ := readHeader_spec (l := l)
    (w := { w with disk := { w.disk with handles := w.disk.handles.push (l.openedHandle ino) } })
    (hO.reads 0)
  dsimp only at hHeader
  simp only [openedHandle] at hSize hHeader
  simp only [openFile, get, getThe, MonadStateOf.get, StateT.get, bind, StateT.bind, hO.closed,
    Option.isSome_none, Bool.false_eq_true, ↓reduceIte, lift, StateT.lift, Sys.disk, hStat,
    Sys.onDisk, modifyGet, MonadStateOf.modifyGet, StateT.modifyGet, hO.locking, hOpen, pure,
    StateT.pure, hSize, hNonempty, hHeader, hAccepted, modify]
  refine ⟨p, _, rfl, rfl, ?_⟩
  simp [openedHandle, Disk.setHandle, Array.setIfInBounds, Array.set_push]

end Open

/-! ## Opening for reading only -/

/-- The handle a log opens for reading only on the file `ino`: at the start, taking no lock. -/
def readingHandle (l : Log) (ino : Nat) : Handle :=
  { node := .file ino, name := l.path, readable := true, writable := false,
    faulty := l.opener.faulty }

/-- What opening for reading only needs of a closed log and the world: its path names the file
`ino`, and no injected failure reaches the handle it opens. No lock is asked for. -/
structure CanRead (l : Log) (w : World) (ino : Nat) : Prop where
  path : l.path ≠ ""
  located : w.disk.tree.locate (w.disk.place l.path) = .ok (some (.file ino))
  closed : l.file = none
  reading : l.opener.locking = false
  quiet : w.disk.faults.Quiet l.opener.faulty

section Reading

variable {l : Log} {w : World} {ino : Nat}

theorem CanRead.reads (hO : l.CanRead w ino) (p : Nat) :
    ({ w.disk with handles := w.disk.handles.push { l.readingHandle ino with pos := p } } : Disk).ReadsFile
      w.disk.handles.size ino { l.readingHandle ino with pos := p } where
  handle := Disk.handle?_push_size _ _
  live := rfl
  node := rfl
  readable := rfl
  clean := hO.quiet.read

theorem CanRead.size (hO : l.CanRead w ino) :
    ({ w.disk with handles := w.disk.handles.push (l.readingHandle ino) } : Disk).size
      w.disk.handles.size = .ok (w.disk.tree.contents ino).size := by
  rw [Disk.size_of_live (Disk.handle?_push_size _ _) rfl hO.quiet.size]
  rfl

/-- Opening a file that is not empty for reading only reads its header: the log is left open on
the file, reading after the header when `headerFailure` accepts it, and holding the header's
failure, which the open returns, when it does not. -/
theorem openFile_reading (hO : l.CanRead w ino) (hNonempty : (w.disk.tree.contents ino).size ≠ 0) :
    ∃ p w', openFile l w =
        (match headerFailure (w.disk.tree.contents ino) with
          | some f => ((.error f, { l with file := some w.disk.handles.size, headerError := some f }), w')
          | none =>
            ((.ok (), { l with file := some w.disk.handles.size, headerError := none,
                               readOffset := Header.size, buffer := none }), w')) ∧
      w'.draws = w.draws ∧
      w'.disk = { w.disk with
        handles := w.disk.handles.push { l.readingHandle ino with pos := p } } := by
  have hStat := Disk.stat_of_file hO.path hO.located
  have hOpen := Disk.openReading_of_file l.opener.faulty hO.path hO.located
  have hSize := hO.size
  obtain ⟨p, hHeader⟩ := readHeader_spec (l := l)
    (w := { w with disk := { w.disk with handles := w.disk.handles.push (l.readingHandle ino) } })
    (hO.reads 0)
  dsimp only at hHeader
  simp only [readingHandle] at hSize hHeader
  simp only [openFile, get, getThe, MonadStateOf.get, StateT.get, bind, StateT.bind, hO.closed,
    Option.isSome_none, Bool.false_eq_true, ↓reduceIte, lift, StateT.lift, Sys.disk, hStat,
    Sys.onDisk, modifyGet, MonadStateOf.modifyGet, StateT.modifyGet, hO.reading, hOpen, pure,
    StateT.pure, hSize, hNonempty, hHeader, modify]
  have hDisk : ({ w.disk with handles := w.disk.handles.push (l.readingHandle ino) } : Disk).setHandle
      w.disk.handles.size { l.readingHandle ino with pos := p } =
        { w.disk with handles := w.disk.handles.push { l.readingHandle ino with pos := p } } := by
    simp [readingHandle, Disk.setHandle, Array.setIfInBounds, Array.set_push]
  simp only [readingHandle] at hDisk
  rcases headerFailure (w.disk.tree.contents ino) with _ | f
  · exact ⟨p, _, rfl, rfl, hDisk⟩
  · -- the warning about the header adds a line to the output and changes nothing else
    refine ⟨p, _, rfl, ?_, ?_⟩ <;> dsimp only
    · split <;> rfl
    · split <;> exact hDisk

end Reading

/-! ## Calls on an open log -/

section OpenLog

variable {l : Log} {w : World} {h ino : Nat} {x : Handle}

theorem close_of_open (hFile : l.file = some h) (hx : w.disk.handle? h = some x) :
    close l w = (((), { l with file := none, buffer := none, headerError := none }),
      { w with disk := w.disk.setHandle h { x with closed := true, locked := false } }) := by
  simp [close, hFile, Disk.close_of_handle hx, bind, StateT.bind, get, getThe, MonadStateOf.get,
    StateT.get, set, StateT.set, lift, StateT.lift, Sys.onDisk, modifyGet, MonadStateOf.modifyGet,
    StateT.modifyGet, pure, StateT.pure]

theorem size_of_open (hFile : l.file = some h) (hx : w.disk.handle? h = some x)
    (hOpen : x.closed = false) (hClean : (x.faulty && w.disk.faults.size) = false) :
    size l w = ((.ok (w.disk.nodeSize x.node), l), w) := by
  simp [size, hFile, Disk.size_of_live hx hOpen hClean, bind, StateT.bind, get, getThe,
    MonadStateOf.get, StateT.get, lift, StateT.lift, Sys.disk, pure, StateT.pure]

theorem seekToFirst_of_open (hFile : l.file = some h) (hHeader : l.headerError = none) :
    seekToFirst l w = ((.ok (), { l with readOffset := Header.size, buffer := none }), w) := by
  simp [seekToFirst, usable_of_open hFile hHeader, bind, StateT.bind, modify, modifyGet,
    MonadStateOf.modifyGet, StateT.modifyGet, pure, StateT.pure]

/-- Cutting the file back to `n` bytes, past the header, through a handle reached by no
injected failure of a cut or a sync, keeps its first `n` bytes and pulls the cursor back. -/
theorem truncate_of_open (hFile : l.file = some h) (hHeader : l.headerError = none)
    (hR : w.disk.ReadsFile h ino x) (hWritable : x.writable = true)
    (hCut : (x.faulty && w.disk.faults.truncate) = false)
    (hSync : (x.faulty && w.disk.faults.sync) = false) {n : Nat} (hn : Header.size ≤ n)
    (hLe : n ≤ (w.disk.tree.contents ino).size) :
    truncate n l w =
      ((.ok (), { l with buffer := none, readOffset := min l.readOffset n }),
        { w with disk := { w.disk with
          tree := w.disk.tree.setContents ino ((w.disk.tree.contents ino).extract 0 n) } }) := by
  have hTrunc := Disk.truncate_of_file hR.handle hR.live hR.node hWritable hCut n
  rw [Bytes.resize_of_le hLe] at hTrunc
  have hSynced : ({ w.disk with
      tree := w.disk.tree.setContents ino ((w.disk.tree.contents ino).extract 0 n) } : Disk).sync h =
        none :=
    Disk.sync_of_live hR.handle hR.live hSync
  have hNotShort : ¬ ((n : Int) < Header.size) := by simp [Header.size] at hn ⊢; omega
  simp [truncate, usable_of_open hFile hHeader, hNotShort, bind, StateT.bind, modify, modifyGet,
    MonadStateOf.modifyGet, StateT.modifyGet, pure, StateT.pure, lift, StateT.lift, Sys.onDisk,
    hTrunc, Sys.disk, get, getThe, MonadStateOf.get, StateT.get, hSynced]

/-- With nothing read ahead, an open log reads its file through any reading handle on it. -/
theorem ReadsAt.of_unbuffered {d : Disk} (hFile : l.file = some h) (hHeader : l.headerError = none)
    (hR : d.ReadsFile h ino x) (hBuf : l.buffer = none) : l.ReadsAt d h ino x :=
  ⟨hFile, hHeader, hR, by simp [hBuf]⟩

/-- **Appending.** A valid entry written to a log reading a file, through a writable handle
reached by no injected failure, is appended: its record follows the file's bytes and the handle
stands after it. The read-ahead buffer is dropped and the cursor stays. -/
theorem write_of_open (hFile : l.file = some h) (hHeader : l.headerError = none)
    (hR : w.disk.ReadsFile h ino x) (hWritable : x.writable = true)
    (hQuiet : w.disk.faults.Quiet x.faulty) {e : Entry} (he : e.Valid) :
    write e l w =
      ((.ok (), { l with buffer := none }),
        { w with
          disk := { w.disk with
            tree := w.disk.tree.setContents ino (w.disk.tree.contents ino ++ e.encode) }.setHandle h
              { x with pos := (w.disk.tree.contents ino).size + e.encode.size } }) := by
  have hSize : w.disk.nodeSize x.node = (w.disk.tree.contents ino).size := by
    rw [hR.node]
    rfl
  have hSeek := Disk.seek_end hR.handle hR.live
  rw [hSize] at hSeek
  have hR₁ := hR.setPos (w.disk.tree.contents ino).size
  have hWrite := Disk.write_of_file (b := e.encode) hR₁.handle hR.live hR.node hWritable
    (by simpa using hQuiet.write)
  -- the handle stands at the end, so the record is stored there
  rw [Disk.store_eq] at hWrite
  simp only [Disk.tree_setHandle, ite_self, Bytes.overwrite_end] at hWrite
  rw [Disk.setHandle_tree_setHandle] at hWrite
  have hx₂ : ({ w.disk with
        tree := w.disk.tree.setContents ino (w.disk.tree.contents ino ++ e.encode) }.setHandle h
          { x with pos := (w.disk.tree.contents ino).size + e.encode.size }).handle? h =
      some { x with pos := (w.disk.tree.contents ino).size + e.encode.size } :=
    Disk.handle?_setHandle_self hR.handle
  have hSync := Disk.sync_of_live hx₂ hR.live hQuiet.sync
  rw [Entry.size_encode] at hSync
  simp [write, usable_of_open hFile hHeader, (Entry.validate_eq_ok_iff e).mpr he, bind,
    StateT.bind, lift, StateT.lift, Sys.onDisk, Sys.disk, modifyGet, MonadStateOf.modifyGet,
    StateT.modifyGet, modify, pure, StateT.pure, get, getThe, MonadStateOf.get, StateT.get,
    hSeek, hWrite, hSync]

/-- An entry over the size limits is refused before anything is touched. -/
theorem write_of_invalid (hFile : l.file = some h) (hHeader : l.headerError = none) {e : Entry}
    {f : Failure} (he : e.validate = .error f) :
    write e l w = ((.error f, l), w) := by
  simp [write, usable_of_open hFile hHeader, he, bind, StateT.bind, pure, StateT.pure]

/-- Copying a range drops the read-ahead buffer and moves the handle, and changes nothing else,
whatever it returns. -/
theorem copyRange_moves (hFile : l.file = some h) (hHeader : l.headerError = none)
    (hR : w.disk.ReadsFile h ino x) (o n : Int) :
    ∃ q, (copyRange o n l w).1.2 = { l with buffer := none } ∧
      (copyRange o n l w).2 = { w with disk := w.disk.setHandle h { x with pos := q } } := by
  obtain ⟨q₀, ⟨p, err⟩, hSeek⟩ := Disk.seek_moves hR.handle hR.live o 0
  cases err with
  | some f =>
    refine ⟨q₀, ?_⟩
    simp [copyRange, usable_of_open hFile hHeader, bind, StateT.bind, modify, modifyGet,
      MonadStateOf.modifyGet, StateT.modifyGet, pure, StateT.pure, lift, StateT.lift, Sys.onDisk,
      hSeek]
  | none =>
    by_cases hn : n ≤ 0
    · refine ⟨q₀, ?_⟩
      simp [copyRange, usable_of_open hFile hHeader, bind, StateT.bind, modify, modifyGet,
        MonadStateOf.modifyGet, StateT.modifyGet, pure, StateT.pure, lift, StateT.lift,
        Sys.onDisk, hSeek, hn]
    · obtain ⟨q, r, hGo⟩ :=
        readFully_go_moves (hR.setPos q₀) ByteArray.empty n.toNat (n.toNat + 1)
      refine ⟨q, ?_⟩
      simp only [Disk.setHandle_setHandle] at hGo
      simp only [copyRange, usable_of_open hFile hHeader, bind, StateT.bind, modify, modifyGet,
        MonadStateOf.modifyGet, StateT.modifyGet, pure, StateT.pure, lift, StateT.lift,
        Sys.onDisk, hSeek, hn, readFully, hGo, if_false]
      -- every way of reporting the bytes read leaves the state the reads left
      rcases r with ⟨b, _ | f⟩
      · exact ⟨rfl, rfl⟩
      · cases f <;> exact ⟨rfl, rfl⟩

/-- Copying `n` bytes that the file has from offset `o` returns exactly them. -/
theorem copyRange_of_le (hFile : l.file = some h) (hHeader : l.headerError = none)
    (hR : w.disk.ReadsFile h ino x) {o n : Nat} (hLe : o + n ≤ (w.disk.tree.contents ino).size) :
    copyRange o n l w =
      ((((w.disk.tree.contents ino).extract o (o + n), none), { l with buffer := none }),
        { w with disk := w.disk.setHandle h { x with pos := o + n } }) := by
  have hSeek := Disk.seek_start hR.handle hR.live o
  cases n with
  | zero =>
    simp [copyRange, usable_of_open hFile hHeader, bind, StateT.bind, modify, modifyGet,
      MonadStateOf.modifyGet, StateT.modifyGet, pure, StateT.pure, lift, StateT.lift, Sys.onDisk,
      hSeek]
  | succ k =>
    have hRead := readFully_of_le (l := { l with buffer := none })
      (w := { w with disk := w.disk.setHandle h { x with pos := o } }) (hR.setPos o) (n := k + 1)
      (by simpa using hLe)
    simp only [Disk.tree_setHandle, Disk.setHandle_setHandle] at hRead
    have hPos : ¬ ((k : Int) + 1 ≤ 0) := by omega
    have hGot : ((w.disk.tree.contents ino).extract o (o + (k + 1))).size = k + 1 := by
      simp
      omega
    simp [copyRange, usable_of_open hFile hHeader, bind, StateT.bind, modify, modifyGet,
      MonadStateOf.modifyGet, StateT.modifyGet, pure, StateT.pure, lift, StateT.lift, Sys.onDisk,
      hSeek, hPos, hRead, hGot]

end OpenLog

end Log

end LogStore
