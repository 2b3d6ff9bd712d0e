import Mathlib
import LogStore.World

/-!
# Calls through one handle

Every proof about the log follows one handle through a run: reads move its position, writes
and cuts change the bytes of its file, and nothing else on the disk moves. This module says
what each call does to the handle it is made through and to the file under it, and that the
other handles and the tree of locations stay as they were.

* `setHandle_setHandle`, `setHandle_self`, `handle?_setHandle_self`, `handle?_setHandle_ne`:
  replacing a handle is a point update of the handle table.
* `ReadsFile`: a live handle on a file that reads it with no injected read failure.
* `read_of_lt`, `read_of_le`, `seek_start`, `seek_end`, `size_of_live`: reading, seeking from
  the start or to the end, and the size, through such a handle; `seek_moves`: any seek only moves
  the handle.
* `openLocked_of_file`, `openPath_of_absent`: opening an existing file adds one handle and
  changes nothing else; creating a missing one also adds its location and an empty inode.
* `write_of_file`, `store_eq`, `truncate_of_file`, `sync_of_live`, `close_of_handle`: writing,
  cutting, syncing and closing through a handle.
-/

namespace LogStore.Disk

variable {d : Disk} {h i : Nat} {x y : Handle}

/-! ## The handle table -/

@[simp] theorem tree_setHandle : (d.setHandle h x).tree = d.tree := rfl

@[simp] theorem faults_setHandle : (d.setHandle h x).faults = d.faults := rfl

@[simp] theorem cwd_setHandle : (d.setHandle h x).cwd = d.cwd := rfl

@[simp] theorem place_setHandle (p : String) : (d.setHandle h x).place p = d.place p := rfl

@[simp] theorem size_handles_setHandle : (d.setHandle h x).handles.size = d.handles.size := by
  simp [setHandle]

theorem lt_size_of_handle (hx : d.handle? h = some x) : h < d.handles.size := by
  unfold handle? at hx
  exact (Array.getElem?_eq_some_iff.mp hx).1

theorem handle?_setHandle_self (hx : d.handle? h = some x) :
    (d.setHandle h y).handle? h = some y := by
  simp [handle?, setHandle, lt_size_of_handle hx]

theorem handle?_setHandle_ne (hne : i ≠ h) : (d.setHandle h y).handle? i = d.handle? i := by
  simp [handle?, setHandle, Ne.symm hne]

@[simp] theorem setHandle_setHandle : (d.setHandle h x).setHandle h y = d.setHandle h y := by
  simp [setHandle]

/-- Changing the tree between two replacements of one handle keeps only the second. -/
theorem setHandle_tree_setHandle (t : Tree) :
    ({ d.setHandle h x with tree := t } : Disk).setHandle h y =
      ({ d with tree := t } : Disk).setHandle h y := by
  simp [setHandle]

theorem setHandle_self (hx : d.handle? h = some x) : d.setHandle h x = d := by
  have hlt := lt_size_of_handle hx
  have hget : d.handles[h] = x := by
    simp only [handle?, Array.getElem?_eq_getElem hlt, Option.some.injEq] at hx
    exact hx
  cases d
  simp only [setHandle, Array.set!_eq_setIfInBounds, Array.setIfInBounds, hlt, dite_true]
  rw [← hget, Array.set_getElem_self]

theorem setHandle_pos_self (hx : d.handle? h = some x) : d.setHandle h { x with pos := x.pos } = d :=
  setHandle_self hx

theorem live_of_handle (hx : d.handle? h = some x) (hOpen : x.closed = false) :
    d.live h = .ok x := by
  simp [live, hx, hOpen]

theorem faulted_of_handle (hx : d.handle? h = some x) (which : Faults → Bool) :
    d.faulted h which = (x.faulty && which d.faults) := by
  simp [faulted, hx]

/-! ## Handles that read a file -/

/-- The handle `h` stands as `x`, open on the file `ino`, readable, with no injected read
failure. -/
structure ReadsFile (d : Disk) (h ino : Nat) (x : Handle) : Prop where
  handle : d.handle? h = some x
  live : x.closed = false
  node : x.node = .file ino
  readable : x.readable = true
  clean : (x.faulty && d.faults.read) = false

/-- Moving a reading handle keeps it a reading handle. -/
theorem ReadsFile.setPos {ino : Nat} (hR : d.ReadsFile h ino x) (q : Nat) :
    (d.setHandle h { x with pos := q }).ReadsFile h ino { x with pos := q } where
  handle := handle?_setHandle_self hR.handle
  live := hR.live
  node := hR.node
  readable := hR.readable
  clean := hR.clean

/-- A handle reads its file whatever else the tree holds. -/
theorem ReadsFile.retree {ino : Nat} (hR : d.ReadsFile h ino x) (t : Tree) :
    ({ d with tree := t } : Disk).ReadsFile h ino x where
  handle := hR.handle
  live := hR.live
  node := hR.node
  readable := hR.readable
  clean := hR.clean

theorem ReadsFile.not_faulted {ino : Nat} (hR : d.ReadsFile h ino x) :
    d.faulted h (·.read) = false := by
  rw [faulted_of_handle hR.handle]
  exact hR.clean

/-- A read inside the file takes the bytes from the position on, as many as asked for and
there are, and moves the handle past them. -/
theorem read_of_lt {ino n : Nat} (hR : d.ReadsFile h ino x) (hn : 0 < n)
    (hPos : x.pos < (d.tree.contents ino).size) :
    d.read h n =
      (((d.tree.contents ino).extract x.pos (x.pos + n), none),
        d.setHandle h { x with
          pos := x.pos + ((d.tree.contents ino).extract x.pos (x.pos + n)).size }) := by
  simp [read, hR.not_faulted, live_of_handle hR.handle hR.live, hR.node, hR.readable,
    Nat.pos_iff_ne_zero.mp hn, Nat.not_le.mpr hPos]

/-- A read at or past the end of the file gives nothing, the end of data, and moves nothing. -/
theorem read_of_le {ino n : Nat} (hR : d.ReadsFile h ino x) (hn : 0 < n)
    (hPos : (d.tree.contents ino).size ≤ x.pos) :
    d.read h n = ((ByteArray.empty, some .endOfData), d) := by
  simp [read, hR.not_faulted, live_of_handle hR.handle hR.live, hR.node, hR.readable,
    Nat.pos_iff_ne_zero.mp hn, hPos]

/-- Seeking a live handle to an offset from the start puts it there. -/
theorem seek_start (hx : d.handle? h = some x) (hOpen : x.closed = false) (n : Nat) :
    d.seek h n 0 = ((n, none), d.setHandle h { x with pos := n }) := by
  have hNonneg : ¬ ((n : Int) < 0) := by omega
  simp [seek, live_of_handle hx hOpen, seekTarget, hNonneg]

/-- Seeking a live handle to the end of its file puts it there. -/
theorem seek_end (hx : d.handle? h = some x) (hOpen : x.closed = false) :
    d.seek h 0 2 = ((d.nodeSize x.node, none), d.setHandle h { x with pos := d.nodeSize x.node }) := by
  have hNonneg : ¬ ((d.nodeSize x.node : Int) < 0) := by omega
  simp [seek, live_of_handle hx hOpen, seekTarget, hNonneg]

/-- A seek on a live handle moves it, or leaves it where it was, and changes nothing else. -/
theorem seek_moves (hx : d.handle? h = some x) (hOpen : x.closed = false) (o : Int)
    (whence : Nat) : ∃ q r, d.seek h o whence = (r, d.setHandle h { x with pos := q }) := by
  simp only [seek, live_of_handle hx hOpen]
  split
  · exact ⟨_, _, rfl⟩
  · exact ⟨x.pos, _, by rw [setHandle_pos_self hx]⟩

/-- The size a live handle reports, when sizes are not failed by injection, is its node's. -/
theorem size_of_live (hx : d.handle? h = some x) (hOpen : x.closed = false)
    (hClean : (x.faulty && d.faults.size) = false) : d.size h = .ok (d.nodeSize x.node) := by
  rw [size, faulted_of_handle hx, hClean, if_neg Bool.false_ne_true, live_of_handle hx hOpen]
  rfl

/-! ## Opening -/

theorem locate_of_tree {path op : String} {n : Option Node} (hPath : path ≠ "")
    (hLoc : d.tree.locate (d.place path) = .ok n) : d.locate op path = .ok n := by
  simp [locate, String.isEmpty_eq_false_iff.mpr hPath, hLoc]

theorem stat_of_file {path : String} {ino : Nat} (hPath : path ≠ "")
    (hLoc : d.tree.locate (d.place path) = .ok (some (.file ino))) :
    d.stat path = .ok (.file ino, (d.tree.contents ino).size) := by
  simp [stat, locate_of_tree hPath hLoc, nodeSize, bind, Except.bind, pure, Except.pure]

theorem handle?_push_size (d : Disk) (x : Handle) :
    ({ d with handles := d.handles.push x } : Disk).handle? d.handles.size = some x := by
  simp [handle?]

theorem handle?_push_ne (d : Disk) (y : Handle) (hne : i ≠ d.handles.size) :
    ({ d with handles := d.handles.push y } : Disk).handle? i = d.handle? i := by
  simp [handle?, Array.getElem?_push, hne]

/-- Moving a handle and then adding another is adding it and then moving the first. -/
theorem handles_setHandle_push (hLt : h < d.handles.size) (y : Handle) :
    (d.setHandle h x).handles.push y = (d.handles.push y).setIfInBounds h x := by
  simp [setHandle, Array.setIfInBounds, Array.set_push, hLt, Nat.lt_succ_of_lt hLt]

/-- A reading handle keeps reading when another handle is added and other files change. -/
theorem ReadsFile.push {ino : Nat} (hR : d.ReadsFile h ino x) (t : Tree) (y : Handle) :
    ({ d with tree := t, handles := d.handles.push y } : Disk).ReadsFile h ino x where
  handle := by
    have hx := hR.handle
    simp only [handle?] at hx ⊢
    simp [Array.getElem?_push, Nat.ne_of_lt (lt_size_of_handle hR.handle), hx]
  live := hR.live
  node := hR.node
  readable := hR.readable
  clean := hR.clean

theorem setHandle_push_size (d : Disk) (x y : Handle) :
    ({ d with handles := d.handles.push x } : Disk).setHandle d.handles.size y =
      { d with handles := d.handles.push y } := by
  simp [setHandle, Array.setIfInBounds, Array.set_push]

/-- Opening an existing file, without truncating it, adds a handle at its start. -/
theorem openPath_of_file {path : String} {ino : Nat} (flags : OpenFlags) (hPath : path ≠ "")
    (hLoc : d.tree.locate (d.place path) = .ok (some (.file ino)))
    (hExclusive : ¬ (flags.create = true ∧ flags.exclusive = true)) (hKeep : flags.truncate = false) :
    d.openPath path flags =
      .ok (d.handles.size,
        { d with
          handles := d.handles.push
            { node := .file ino, name := path, readable := flags.read, writable := flags.write,
              appending := flags.append } }) := by
  simp only [openPath, locate_of_tree hPath hLoc, bind, Except.bind, pure, Except.pure]
  simp [hExclusive, hKeep]

/-- Opening an existing file for the log adds a locked handle at its start, when no other open
handle holds its lock. -/
theorem openLocked_of_file {path : String} {ino : Nat} (faulty : Bool) (hPath : path ≠ "")
    (hLoc : d.tree.locate (d.place path) = .ok (some (.file ino)))
    (hFree : d.lockHeld (.file ino) = false) :
    d.openLocked path faulty =
      .ok (d.handles.size,
        { d with
          handles := d.handles.push
            { node := .file ino, name := path, readable := true, writable := true, locked := true,
              faulty } }) := by
  rw [openLocked, openPath_of_file { write := true, create := true } hPath hLoc (by simp) rfl]
  simp [bind, Except.bind, handle?_push_size, hFree, pure, Except.pure, setHandle_push_size]

/-- Opening an existing file for reading only adds an unlocked handle at its start, whatever
locks other handles hold. -/
theorem openReading_of_file {path : String} {ino : Nat} (faulty : Bool) (hPath : path ≠ "")
    (hLoc : d.tree.locate (d.place path) = .ok (some (.file ino))) :
    d.openReading path faulty =
      .ok (d.handles.size,
        { d with
          handles := d.handles.push
            { node := .file ino, name := path, readable := true, writable := false, faulty } }) := by
  rw [openReading, openPath_of_file {} hPath hLoc (by simp) rfl]
  simp [bind, Except.bind, handle?_push_size, pure, Except.pure, setHandle_push_size]

/-- Creating a file exclusively fails when its path names something already or cannot be
followed. -/
theorem openPath_of_taken {path : String} (flags : OpenFlags) (hPath : path ≠ "")
    (hTaken : d.tree.locate (d.place path) ≠ .ok none) (hCreate : flags.create = true)
    (hExclusive : flags.exclusive = true) : ∃ f, d.openPath path flags = .error f := by
  rcases hLoc : d.tree.locate (d.place path) with e | _ | n
  · exact ⟨.system "open" path e, by
      simp [openPath, locate, String.isEmpty_eq_false_iff.mpr hPath, hLoc, bind, Except.bind]⟩
  · exact absurd hLoc hTaken
  · exact ⟨.system "open" path .exists, by
      simp [openPath, locate_of_tree hPath hLoc, hCreate, hExclusive, bind, Except.bind, throw,
        throwThe, MonadExceptOf.throw]⟩

/-- Creating a missing file adds its location, an empty inode numbered `nextIno`, and a handle
at its start. -/
theorem openPath_of_absent {path : String} (flags : OpenFlags) (hPath : path ≠ "")
    (hLoc : d.tree.locate (d.place path) = .ok none) (hCreate : flags.create = true) :
    d.openPath path flags =
      .ok (d.handles.size, { d with
        tree := (d.tree.createFile (d.place path)).2,
        handles := d.handles.push
          { node := .file d.tree.nextIno, name := path, readable := flags.read,
            writable := flags.write, appending := flags.append } }) := by
  simp only [openPath, locate_of_tree hPath hLoc, bind, Except.bind, pure, Except.pure, hCreate]
  cases flags.truncate <;> simp [Tree.createFile, Tree.setContents]

/-! ## Writing, cutting, syncing and closing -/

theorem writeDirect_of_file {ino : Nat} {b : ByteArray} (hx : d.handle? h = some x)
    (hOpen : x.closed = false) (hNode : x.node = .file ino) (hWritable : x.writable = true) :
    d.writeDirect h b = ((b.size, none), d.store h x ino b) := by
  simp [writeDirect, live_of_handle hx hOpen, hNode, hWritable]

/-- A write through a writable handle on a file, reached by no injected failure, stores all the
bytes. -/
theorem write_of_file {ino : Nat} {b : ByteArray} (hx : d.handle? h = some x)
    (hOpen : x.closed = false) (hNode : x.node = .file ino) (hWritable : x.writable = true)
    (hClean : (if x.faulty = true then d.faults.write else none) = none) :
    d.write h b = ((b.size, none), d.store h x ino b) := by
  rw [write, faulted_of_handle hx]
  simp only [Bool.and_true, hClean]
  exact writeDirect_of_file hx hOpen hNode hWritable

/-- A write stores the bytes where the handle stands (at the end, for an appending handle) and
moves the handle past them. -/
theorem store_eq (ino : Nat) (b : ByteArray) :
    d.store h x ino b =
      { d with tree := d.tree.setContents ino (Bytes.overwrite (d.tree.contents ino)
          (if x.appending then (d.tree.contents ino).size else x.pos) b) }.setHandle h
        { x with pos := (if x.appending then (d.tree.contents ino).size else x.pos) + b.size } :=
  rfl

theorem truncate_of_file {ino : Nat} (hx : d.handle? h = some x) (hOpen : x.closed = false)
    (hNode : x.node = .file ino) (hWritable : x.writable = true)
    (hClean : (x.faulty && d.faults.truncate) = false) (n : Nat) :
    d.truncate h n =
      (none, { d with tree := d.tree.setContents ino (Bytes.resize (d.tree.contents ino) n) }) := by
  have hNonneg : ¬ ((n : Int) < 0) := by omega
  simp [truncate, faulted_of_handle hx, hClean, live_of_handle hx hOpen, hNode, hWritable,
    hNonneg]

theorem sync_of_live (hx : d.handle? h = some x) (hOpen : x.closed = false)
    (hClean : (x.faulty && d.faults.sync) = false) : d.sync h = none := by
  simp [sync, faulted_of_handle hx, hClean, live_of_handle hx hOpen]

theorem close_of_handle (hx : d.handle? h = some x) :
    d.close h = d.setHandle h { x with closed := true, locked := false } := by
  simp [close, hx]

end LogStore.Disk

namespace LogStore

/-! ## Bytes of files -/

@[simp] theorem Tree.contents_setContents_self (t : Tree) (ino : Nat) (b : ByteArray) :
    (t.setContents ino b).contents ino = b := by
  simp [Tree.contents, Tree.setContents]

theorem lookup_filter_ne {α β : Type} [BEq α] [LawfulBEq α] [DecidableEq α] {l : List (α × β)}
    {a b : α} (hab : a ≠ b) : (l.filter (fun p => !decide (p.1 = b))).lookup a = l.lookup a := by
  induction l with
  | nil => rfl
  | cons p l ih =>
    obtain ⟨k, v⟩ := p
    by_cases hk : k = b
    · subst hk
      have hBeq : (a == k) = false := by simpa using hab
      simp [List.lookup, hBeq, ih]
    · by_cases ha : a = k
      · subst ha
        simp [List.lookup, hk]
      · have hBeq : (a == k) = false := by simpa using ha
        simp [List.lookup, hk, hBeq, ih]

theorem Tree.contents_setContents_ne (t : Tree) {ino ino' : Nat} (b : ByteArray)
    (hne : ino' ≠ ino) : (t.setContents ino b).contents ino' = t.contents ino' := by
  have hBeq : (ino' == ino) = false := by simpa using hne
  simp [Tree.contents, Tree.setContents, List.lookup, hBeq, lookup_filter_ne hne]

@[simp] theorem Tree.nodes_setContents (t : Tree) (ino : Nat) (b : ByteArray) :
    (t.setContents ino b).nodes = t.nodes := rfl

@[simp] theorem Tree.nextIno_setContents (t : Tree) (ino : Nat) (b : ByteArray) :
    (t.setContents ino b).nextIno = t.nextIno := rfl

/-! ## Locations -/

theorem Tree.locate_of_nodes {t t' : Tree} (hNodes : t'.nodes = t.nodes) (cs : List String) :
    t'.locate cs = t.locate cs := by
  simp [Tree.locate, Tree.walk, Tree.node?, hNodes]

theorem foldlM_unit_eq_ok {ε : Type} {g : Nat → Except ε Unit} (l : List Nat) :
    l.foldlM (fun _ i => g i) () = .ok () ↔ ∀ i ∈ l, g i = .ok () := by
  induction l with
  | nil => simp [pure, Except.pure]
  | cons j l ih =>
    simp only [List.foldlM_cons, List.mem_cons, forall_eq_or_imp]
    cases hj : g j <;> simp [bind, Except.bind, ih]

/-- The way to a location is clear exactly when every location above it is a directory. -/
theorem Tree.walk_eq_ok_iff {t : Tree} {cs : List String} :
    t.walk cs = .ok () ↔ ∀ i, i + 1 < cs.length → t.node? (cs.take (i + 1)) = some .dir := by
  unfold Tree.walk
  rw [foldlM_unit_eq_ok]
  simp only [List.mem_range]
  constructor
  · intro hAll i hi
    have hStep := hAll i (by omega)
    split at hStep
    · assumption
    · cases hStep
    · cases hStep
  · intro hAll i hi
    rw [hAll i (by omega)]

theorem Tree.locate_eq_ok_iff {t : Tree} {cs : List String} {r : Option Node} :
    t.locate cs = .ok r ↔ t.walk cs = .ok () ∧ t.node? cs = r := by
  unfold Tree.locate
  cases hWalk : t.walk cs <;> simp [bind, Except.bind, pure, Except.pure]

theorem Tree.node?_addNode_ne {t : Tree} {cs cs' : List String} (m : Node) (hne : cs ≠ cs') :
    (t.addNode cs' m).node? cs = t.node? cs := by
  have hBeq : (cs == cs') = false := by simpa using hne
  simp [Tree.node?, Tree.addNode, List.lookup, hBeq, lookup_filter_ne hne]

/-- Adding a location where the way was clear and nothing stood leaves every location that
existed naming what it named. -/
theorem Tree.locate_addNode_of_absent {t : Tree} {cs cs' : List String} {n : Node} (m : Node)
    (hAbsent : t.locate cs' = .ok none) (hFound : t.locate cs = .ok (some n)) :
    (t.addNode cs' m).locate cs = .ok (some n) := by
  obtain ⟨-, hNone⟩ := Tree.locate_eq_ok_iff.mp hAbsent
  obtain ⟨hWalk, hNode⟩ := Tree.locate_eq_ok_iff.mp hFound
  have hDirs := Tree.walk_eq_ok_iff.mp hWalk
  refine Tree.locate_eq_ok_iff.mpr ⟨Tree.walk_eq_ok_iff.mpr fun i hi => ?_, ?_⟩
  · have hne : cs.take (i + 1) ≠ cs' := by
      intro hEq
      have := hDirs i hi
      rw [hEq, hNone] at this
      cases this
    rw [Tree.node?_addNode_ne m hne, hDirs i hi]
  · have hne : cs ≠ cs' := by
      intro hEq
      rw [hEq, hNone] at hNode
      cases hNode
    rw [Tree.node?_addNode_ne m hne, hNode]

/-- The added location names what was added there, when the way to it was clear. -/
theorem Tree.locate_addNode_self {t : Tree} {cs : List String} (m : Node)
    (hAbsent : t.locate cs = .ok none) : (t.addNode cs m).locate cs = .ok (some m) := by
  obtain ⟨hWalk, hNone⟩ := Tree.locate_eq_ok_iff.mp hAbsent
  have hDirs := Tree.walk_eq_ok_iff.mp hWalk
  have hNonempty : cs.isEmpty = false := by
    cases hcs : cs.isEmpty
    · rfl
    · simp [Tree.node?, hcs] at hNone
  refine Tree.locate_eq_ok_iff.mpr ⟨Tree.walk_eq_ok_iff.mpr fun i hi => ?_, ?_⟩
  · have hne : cs.take (i + 1) ≠ cs := by
      intro hEq
      have := congrArg List.length hEq
      simp at this
      omega
    rw [Tree.node?_addNode_ne m hne, hDirs i hi]
  · simp [Tree.node?, Tree.addNode, hNonempty]

theorem Tree.contents_createFile_ne {t : Tree} (cs : List String) {ino : Nat}
    (hIno : ino ≠ t.nextIno) : (t.createFile cs).2.contents ino = t.contents ino := by
  simp only [Tree.createFile]
  exact Tree.contents_setContents_ne _ _ hIno

@[simp] theorem Tree.contents_createFile_self (t : Tree) (cs : List String) :
    (t.createFile cs).2.contents t.nextIno = ByteArray.empty := by
  simp [Tree.createFile, Tree.contents, Tree.setContents]

@[simp] theorem Tree.nodes_createFile (t : Tree) (cs : List String) :
    (t.createFile cs).2.nodes = (t.addNode cs (.file t.nextIno)).nodes := rfl

theorem Bytes.overwrite_end (a b : ByteArray) : Bytes.overwrite a a.size b = a ++ b := by
  simp [Bytes.overwrite, ByteArray.extract_zero_size]

theorem Bytes.overwrite_empty (b : ByteArray) : Bytes.overwrite ByteArray.empty 0 b = b := by
  simpa using Bytes.overwrite_end ByteArray.empty b

theorem Bytes.resize_of_le {b : ByteArray} {n : Nat} (hn : n ≤ b.size) :
    Bytes.resize b n = b.extract 0 n := by
  simp [Bytes.resize, hn]

end LogStore
