import LogStore.Disk.File
import LogStore.Entry.Decode

/-!
# The read-ahead buffer

Records are read through a buffer of 64 KiB. A request is served from the buffered bytes while
there are any, without touching the file, and only up to what is buffered; when the buffer is
empty, a request of at least the buffer's size goes straight to the file, and a smaller one
first refills the buffer with one read of up to 64 KiB. So the bytes a reader sees are the
buffered ones followed by the file from the handle's position, and a change to the file does
not reach bytes already buffered.

* `view d h pending` is what the reader sees: the buffered bytes and then the file, ending
  cleanly at the end of the file or with the injected read failure.
* `consume d h pending req` is the buffer and disk after reading exactly `req` bytes in full
  (the pieces a whole-read loop asks for), when that many are there to read.
-/

namespace LogStore.ReadAhead

/-- The size of the buffer. -/
def capacity : Nat := 65536

/-- The bytes a reader through the buffer sees. -/
def view (d : Disk) (h : Nat) (pending : ByteArray) : ByteSource :=
  if d.faulted h (·.read) then ⟨pending, .broken .injected⟩
  else match d.handle? h with
    | some x =>
      match x.node with
      | .file ino => ⟨pending ++ (d.tree.contents ino).extract x.pos (d.tree.contents ino).size, .clean⟩
      | .dir => ⟨pending, .broken (.system "read" x.name .isDirectory)⟩
    | none => ⟨pending, .broken .fileClosed⟩

/-- Reads `req` bytes through the buffer, in the pieces the buffer serves them in; `fuel`
bounds the pieces. -/
def consumeWith (d : Disk) (h : Nat) (pending : ByteArray) : Nat → Nat → ByteArray × Disk
  | 0, _ => (pending, d)
  | _, 0 => (pending, d)
  | req + 1, fuel + 1 =>
    let req := req + 1
    if pending.size > 0 then
      let k := min req pending.size
      consumeWith d h (pending.extract k pending.size) (req - k) fuel
    else if req ≥ capacity then
      let ((got, _), d') := d.read h req
      if got.size = 0 then (pending, d')
      else consumeWith d' h pending (req - got.size) fuel
    else
      let ((got, _), d') := d.read h capacity
      if got.size = 0 then (pending, d')
      else consumeWith d' h got req fuel

/-- The buffer and disk after reading exactly `req` bytes. -/
def consume (d : Disk) (h : Nat) (pending : ByteArray) (req : Nat) : ByteArray × Disk :=
  consumeWith d h pending req (2 * req + 2)

end LogStore.ReadAhead
