import LogStore.Disk.Basic

/-!
# Open files

A disk is a tree together with the open handles on it and the faults currently injected. A
handle is a position on a file or directory, opened for reading, writing or both; a handle may
hold the exclusive lock of its file, and at most one open handle holds a file's lock at a time.
A closed handle refuses every call with `fileio: file is closed`, and closing it again is
harmless.

Handles opened through the fault injector fail the calls that the current faults name with
`injected failure`: a failing write stores nothing, a short one stores the first half of the
bytes and reports success, a partial one stores the first half and fails. Faults are checked
before anything else, so they also apply to a handle that is closed.

* `openPath` is the system's open with its flags; `openLocked` opens for reading and writing,
  creating the file and taking its lock, and `openReading` opens for reading only.
* `read`, `write`, `seek`, `sync`, `truncate`, `size` and `close` act through a handle.
-/

namespace LogStore

/-- How an injected write fails. -/
inductive WriteFault where
  /-- Nothing is stored, and the write fails. -/
  | error
  /-- The first half is stored, and the write reports success. -/
  | short
  /-- The first half is stored, and the write fails. -/
  | partialError
  deriving DecidableEq, Repr

/-- The faults currently injected into handles opened through the injector. -/
structure Faults where
  write : Option WriteFault := none
  sync : Bool := false
  truncate : Bool := false
  read : Bool := false
  size : Bool := false
  deriving Repr

/-- An open (or closed) handle. -/
structure Handle where
  node : Node
  /-- The path the handle was opened by, as given. -/
  name : String
  pos : Nat := 0
  readable : Bool
  writable : Bool
  appending : Bool := false
  locked : Bool := false
  faulty : Bool := false
  closed : Bool := false

/-- The flags of an open call. -/
structure OpenFlags where
  read : Bool := true
  write : Bool := false
  create : Bool := false
  exclusive : Bool := false
  truncate : Bool := false
  append : Bool := false

/-- A tree, its handles, the working directory and the injected faults. -/
structure Disk where
  cwd : String
  tree : Tree := {}
  handles : Array Handle := #[]
  faults : Faults := {}

namespace Disk

/-- The disk with a working directory that exists and nothing else. -/
def withCwd (cwd : String) : Disk :=
  match ({} : Tree).mkdirAll "/" cwd with
  | .ok t => { cwd := cwd, tree := t }
  | .error _ => { cwd := cwd }

/-- The absolute components of a path. -/
def place (d : Disk) (p : String) : List String :=
  Path.resolve d.cwd p

/-- What a path names: a failure of `op` when the way there is broken (the empty path names
nothing). -/
def locate (d : Disk) (op path : String) : Except Failure (Option Node) :=
  if path.isEmpty then .error (.system op path .noEntry)
  else match d.tree.locate (d.place path) with
  | .ok n => .ok n
  | .error e => .error (.system op path e)

/-- The size of what a node holds. -/
def nodeSize (d : Disk) : Node → Nat
  | .dir => dirSize
  | .file ino => (d.tree.contents ino).size

/-- What a path names, and its size, or the failure of looking: `stat path: …`. -/
def stat (d : Disk) (path : String) : Except Failure (Node × Nat) := do
  match ← d.locate "stat" path with
  | some n => return (n, d.nodeSize n)
  | none => throw (.system "stat" path .noEntry)

/-- Opens a path with the given flags, giving the handle's number. -/
def openPath (d : Disk) (path : String) (flags : OpenFlags) : Except Failure (Nat × Disk) := do
  let cs := d.place path
  let fail (e : Errno) : Failure := .system "open" path e
  let (node, tree) ← match ← d.locate "open" path with
    | some n =>
      if flags.create ∧ flags.exclusive then throw (fail .exists)
      else pure (n, d.tree)
    | none =>
      if flags.create then
        let (ino, t) := d.tree.createFile cs
        pure (Node.file ino, t)
      else throw (fail .noEntry)
  if node = .dir ∧ flags.write then throw (fail .isDirectory)
  let tree := match node with
    | .file ino => if flags.truncate then tree.setContents ino ByteArray.empty else tree
    | .dir => tree
  let h : Handle := { node, name := path, readable := flags.read, writable := flags.write,
                      appending := flags.append }
  return (d.handles.size, { d with tree, handles := d.handles.push h })

/-- The handle numbered `h`. -/
def handle? (d : Disk) (h : Nat) : Option Handle :=
  d.handles[h]?

/-- Replaces the handle numbered `h`. -/
def setHandle (d : Disk) (h : Nat) (x : Handle) : Disk :=
  { d with handles := d.handles.set! h x }

/-- Whether another open handle holds the lock of the file `node`. -/
def lockHeld (d : Disk) (node : Node) : Bool :=
  d.handles.any fun x => x.locked && !x.closed && x.node == node

/-- Opens a file for reading and writing, creating it if missing, and takes its lock; `faulty`
routes the handle through the fault injector. -/
def openLocked (d : Disk) (path : String) (faulty : Bool) : Except Failure (Nat × Disk) := do
  let (h, d') ← d.openPath path { write := true, create := true }
  match d'.handle? h with
  | none => throw (.system "open" path .noEntry)
  | some x =>
    if d.lockHeld x.node then throw (.locked path)
    else return (h, d'.setHandle h { x with locked := true, faulty })

/-- Opens a file (or directory) for reading only. -/
def openReading (d : Disk) (path : String) (faulty : Bool) : Except Failure (Nat × Disk) := do
  let (h, d') ← d.openPath path {}
  match d'.handle? h with
  | none => throw (.system "open" path .noEntry)
  | some x => return (h, d'.setHandle h { x with faulty })

/-- The live handle numbered `h`, or the failure of using a closed one. -/
def live (d : Disk) (h : Nat) : Except Failure Handle :=
  match d.handle? h with
  | some x => if x.closed then .error .fileClosed else .ok x
  | none => .error .fileClosed

/-- Whether the fault injector fails this call on the handle. -/
def faulted (d : Disk) (h : Nat) (which : Faults → Bool) : Bool :=
  match d.handle? h with
  | some x => x.faulty && which d.faults
  | none => false

/-- Reads up to `n` bytes at the handle's position; at the end, nothing and the end of data.
Asking for no bytes reads nothing and succeeds, whatever the handle is open on. -/
def read (d : Disk) (h : Nat) (n : Nat) : (ByteArray × Option Failure) × Disk :=
  if d.faulted h (·.read) then ((ByteArray.empty, some .injected), d)
  else match d.live h with
  | .error f => ((ByteArray.empty, some f), d)
  | .ok x =>
    if n = 0 then ((ByteArray.empty, none), d)
    else match x.node with
    | .dir => ((ByteArray.empty, some (.system "read" x.name .isDirectory)), d)
    | .file ino =>
      if !x.readable then ((ByteArray.empty, some (.system "read" x.name .badDescriptor)), d)
      else
        let data := d.tree.contents ino
        if x.pos ≥ data.size then ((ByteArray.empty, some .endOfData), d)
        else
          let got := data.extract x.pos (x.pos + n)
          ((got, none), d.setHandle h { x with pos := x.pos + got.size })

/-- Stores bytes at the handle's position (at the end for an appending handle), filling any
gap with zeros. -/
def store (d : Disk) (h : Nat) (x : Handle) (ino : Nat) (b : ByteArray) : Disk :=
  let data := d.tree.contents ino
  let start := if x.appending then data.size else x.pos
  let d' := { d with tree := d.tree.setContents ino (Bytes.overwrite data start b) }
  d'.setHandle h { x with pos := start + b.size }

/-- Writes bytes through the handle: the count stored, and the failure if any. -/
def writeDirect (d : Disk) (h : Nat) (b : ByteArray) : (Nat × Option Failure) × Disk :=
  match d.live h with
  | .error f => ((0, some f), d)
  | .ok x =>
    match x.node with
    | .dir => ((0, some (.system "write" x.name .badDescriptor)), d)
    | .file ino =>
      if !x.writable then ((0, some (.system "write" x.name .badDescriptor)), d)
      else ((b.size, none), d.store h x ino b)

/-- Writes bytes through the handle, the fault injector first. -/
def write (d : Disk) (h : Nat) (b : ByteArray) : (Nat × Option Failure) × Disk :=
  let half := b.extract 0 (b.size / 2)
  match (if d.faulted h (fun _ => true) then d.faults.write else none) with
  | some .error => ((0, some .injected), d)
  | some .short => d.writeDirect h half
  | some .partialError =>
    let ((n, _), d') := d.writeDirect h half
    ((n, some .injected), d')
  | none => d.writeDirect h b

/-- Where a seek lands: from the start (`0`), the position (`1`) or the end (`2`), or
the next byte of data (`3`) or the next hole (`4`) at or after `offset`. A file holds
data everywhere and a hole at its end, so data is at the offset itself and the next hole at the
end, when the offset lies inside the file; outside it there is no such place. -/
def seekTarget (pos size : Nat) (offset : Int) (whence : Nat) : Except Errno Nat :=
  match whence with
  | 0 | 1 | 2 =>
    let b : Int := if whence = 0 then 0 else if whence = 1 then pos else size
    if b + offset < 0 then .error .invalidArgument else .ok (b + offset).toNat
  | 3 | 4 =>
    if offset < 0 || offset ≥ size then .error .noDevice
    else .ok (if whence = 3 then offset.toNat else size)
  | _ => .error .invalidArgument

/-- Moves the handle to its `seekTarget`; a refused seek answers position 0. -/
def seek (d : Disk) (h : Nat) (offset : Int) (whence : Nat) : (Nat × Option Failure) × Disk :=
  match d.live h with
  | .error f => ((0, some f), d)
  | .ok x =>
    match seekTarget x.pos (d.nodeSize x.node) offset whence with
    | .ok p => ((p, none), d.setHandle h { x with pos := p })
    | .error e => ((0, some (.system "seek" x.name e)), d)

/-- Makes the handle's file durable; only an injected fault or a closed handle fails it. -/
def sync (d : Disk) (h : Nat) : Option Failure :=
  if d.faulted h (·.sync) then some .injected
  else match d.live h with
  | .error f => some f
  | .ok _ => none

/-- Cuts or zero-extends the handle's file to `size` bytes. -/
def truncate (d : Disk) (h : Nat) (size : Int) : Option Failure × Disk :=
  if d.faulted h (·.truncate) then (some .injected, d)
  else match d.live h with
  | .error f => (some f, d)
  | .ok x =>
    let refuse := some (.within ("truncate " ++ x.name)
      (.system "truncate" x.name .invalidArgument))
    match x.node with
    | .dir => (refuse, d)
    | .file ino =>
      if size < 0 ∨ !x.writable then (refuse, d)
      else
        let data := d.tree.contents ino
        (none, { d with tree := d.tree.setContents ino (Bytes.resize data size.toNat) })

/-- The size of the handle's file. -/
def size (d : Disk) (h : Nat) : Except Failure Nat :=
  if d.faulted h (·.size) then .error .injected
  else do
    let x ← d.live h
    return d.nodeSize x.node

/-- Closes a handle, releasing its lock. -/
def close (d : Disk) (h : Nat) : Disk :=
  match d.handle? h with
  | some x => d.setHandle h { x with closed := true, locked := false }
  | none => d

/-- The name a handle was opened by. -/
def name (d : Disk) (h : Nat) : String :=
  match d.handle? h with
  | some x => x.name
  | none => ""

end Disk

end LogStore
