import LogStore.Disk.File

/-!
# Whole-file operations

Operations that act on a file by its path, without keeping a handle: read it all, replace it,
append to it, overwrite bytes inside it, cut or extend it, remove it, and list a directory. They
fail as the system does, naming the path as given: `open p: …` when the file cannot be opened,
`read p: is a directory` when the path is a directory.
-/

namespace LogStore.Disk

/-- The file (inode) a path names, creating it if `create` and missing. -/
def fileAt (d : Disk) (path : String) (create : Bool) : Except Failure (Nat × Disk) := do
  match ← d.locate "open" path with
  | some (.file ino) => return (ino, d)
  | some .dir => throw (.system "open" path .isDirectory)
  | none =>
    if create then
      let (ino, t) := d.tree.createFile (d.place path)
      return (ino, { d with tree := t })
    else throw (.system "open" path .noEntry)

/-- The whole contents of a file. -/
def contentsAt (d : Disk) (path : String) : Except Failure ByteArray := do
  match ← d.locate "open" path with
  | some (.file ino) => return d.tree.contents ino
  | some .dir => throw (.system "read" path .isDirectory)
  | none => throw (.system "open" path .noEntry)

/-- Replaces the contents of a file, creating it if missing. -/
def writeFile (d : Disk) (path : String) (b : ByteArray) : Except Failure Disk := do
  let (ino, d) ← d.fileAt path true
  return { d with tree := d.tree.setContents ino b }

/-- Appends bytes to a file, creating it if missing. -/
def appendFile (d : Disk) (path : String) (b : ByteArray) : Except Failure Disk := do
  let (ino, d) ← d.fileAt path true
  return { d with tree := d.tree.setContents ino (d.tree.contents ino ++ b) }

/-- Overwrites bytes of an existing file at an offset, filling any gap with zeros. -/
def writeAt (d : Disk) (path : String) (offset : Nat) (b : ByteArray) : Except Failure Disk := do
  let (ino, d) ← d.fileAt path false
  return { d with tree := d.tree.setContents ino (Bytes.overwrite (d.tree.contents ino) offset b) }

/-- Cuts or zero-extends an existing file to `size` bytes. -/
def resizeFile (d : Disk) (path : String) (size : Int) : Except Failure Disk := do
  match ← d.locate "truncate" path with
  | some (.file ino) =>
    if size < 0 then throw (.system "truncate" path .invalidArgument)
    return { d with tree := d.tree.setContents ino (Bytes.resize (d.tree.contents ino) size.toNat) }
  | some .dir => throw (.system "truncate" path .isDirectory)
  | none => throw (.system "truncate" path .noEntry)

/-- Removes a file or an empty directory. -/
def remove (d : Disk) (path : String) : Except Failure Disk := do
  let cs := d.place path
  match ← d.locate "remove" path with
  | some .dir =>
    if (d.tree.entriesOf cs).isEmpty then return { d with tree := d.tree.dropNode cs }
    else throw (.system "remove" path .notEmpty)
  | some (.file _) => return { d with tree := d.tree.dropNode cs }
  | none => throw (.system "remove" path .noEntry)

/-- Creates a directory and the missing ones above it. -/
def mkdirAll (d : Disk) (path : String) : Except Failure Disk := do
  return { d with tree := ← d.tree.mkdirAll d.cwd path }

/-- The sorted names in a directory. -/
def list (d : Disk) (path : String) : List String :=
  d.tree.entriesOf (d.place path)

end LogStore.Disk
