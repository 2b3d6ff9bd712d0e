import LogStore.Disk.Path
import LogStore.Failure
import LogStore.Bytes.Word
import LogStore.Order.Stable

/-!
# The disk

A disk is a tree of directories and files, held as the list of every location that exists (by
its absolute components) with what it is, and the contents of every file by inode number. A
path names an inode rather than bytes, so that a file removed or replaced while a handle is open
keeps its bytes for that handle, as on a real file system. The root always exists.

* `locate` finds what a path names, failing as the system does when a component on the way is
  missing (`no such file or directory`) or is a file (`not a directory`).
* `mkdirAll`, `writeFile`, `removeFile`, `readFile` and `entriesOf` act on locations; `contents`
  and `setContents` on inodes.
-/

namespace LogStore

/-- What a location holds. -/
inductive Node where
  | dir
  | file (ino : Nat)
  deriving DecidableEq, Repr

/-- The size a directory reports. -/
def dirSize : Nat := 4096

/-- Locations and file contents. -/
structure Tree where
  /-- Every existing location other than the root, by absolute components. -/
  nodes : List (List String × Node) := []
  /-- The bytes of every inode. -/
  inodes : List (Nat × ByteArray) := []
  /-- The next free inode number. -/
  nextIno : Nat := 0

namespace Tree

/-- What the location `cs` holds, if it exists. -/
def node? (t : Tree) (cs : List String) : Option Node :=
  if cs.isEmpty then some .dir else t.nodes.lookup cs

/-- The bytes of an inode (none for an unknown one). -/
def contents (t : Tree) (ino : Nat) : ByteArray :=
  (t.inodes.lookup ino).getD ByteArray.empty

/-- Replaces the bytes of an inode. -/
def setContents (t : Tree) (ino : Nat) (b : ByteArray) : Tree :=
  { t with inodes := (ino, b) :: t.inodes.filter (fun p => p.1 ≠ ino) }

/-- Checks that every proper prefix of `cs` is a directory. -/
def walk (t : Tree) (cs : List String) : Except Errno Unit :=
  (List.range (cs.length - 1)).foldlM (fun _ i =>
    match t.node? (cs.take (i + 1)) with
    | some .dir => .ok ()
    | some (.file _) => .error .notDirectory
    | none => .error .noEntry) ()

/-- What `cs` holds: a failure when the way there is broken, `none` when only the last
component is missing. -/
def locate (t : Tree) (cs : List String) : Except Errno (Option Node) := do
  t.walk cs
  return t.node? cs

/-- Adds a location. -/
def addNode (t : Tree) (cs : List String) (n : Node) : Tree :=
  { t with nodes := (cs, n) :: t.nodes.filter (fun p => p.1 ≠ cs) }

/-- Removes a location. -/
def dropNode (t : Tree) (cs : List String) : Tree :=
  { t with nodes := t.nodes.filter (fun p => p.1 ≠ cs) }

/-- Creates an empty file at `cs` (whose parent exists) and gives its inode. -/
def createFile (t : Tree) (cs : List String) : Nat × Tree :=
  let ino := t.nextIno
  (ino, { (t.addNode cs (.file ino)).setContents ino ByteArray.empty with nextIno := ino + 1 })

/-- The names directly inside the directory `cs`, sorted. -/
def entriesOf (t : Tree) (cs : List String) : List String :=
  let names := t.nodes.filterMap fun p =>
    if p.1.length = cs.length + 1 ∧ p.1.take cs.length = cs then p.1.getLast? else none
  Order.sortStable (fun a b => decide (a ≤ b)) names

end Tree

/-- Creates a directory and every missing directory above it. The failure names, as given,
the first location on the way that is a file. -/
def Tree.mkdirAll (t : Tree) (cwd path : String) : Except Failure Tree :=
  let given := Path.parts path
  let absolute := Path.resolve cwd path
  let lead := absolute.length - given.length
  (List.range absolute.length).foldlM (fun t i =>
    let cs := absolute.take (i + 1)
    match t.node? cs with
    | some .dir => .ok t
    | some (.file _) =>
      let shown := if i + 1 ≤ lead then Path.ofParts cs
        else (if Path.isAbs path then "/" else "") ++ "/".intercalate (given.take (i + 1 - lead))
      .error (.system "mkdir" shown .notDirectory)
    | none => .ok (t.addNode cs .dir)) t

end LogStore
