import LogStore.Log.Basic
import LogStore.KeyDir
import LogStore.SetMode

/-!
# The store

A store is a log together with the key directory that replaying it gives. Opening replays the
log from its first record; a torn or damaged record ends the replay, and the file is cut back to
the last good record, the cut bytes first copied to a sidecar file when the damage lies before
the end of the file. An oversized record or a failure of the file fails the open and leaves the
store closed and empty.

* `Store.set key value mode` writes only when the mode admits it (see `SetMode.admits`) and
  reports whether it wrote; `delete` writes a tombstone for a present key. The key directory
  changes only after the log has the record.
* `Recovery` is what opening found: records replayed, the cut, the damage, the sidecar.
-/

namespace LogStore

/-- What opening a store found. -/
structure Recovery where
  records : Nat := 0
  tombstones : Nat := 0
  keys : Nat := 0
  truncatedBytes : Nat := 0
  sizeBefore : Nat := 0
  sizeAfter : Nat := 0
  /-- The record failure that ended the replay. -/
  corruption : Option Failure := none
  /-- The sidecar holding the bytes cut after damage before the end. -/
  discarded : Option String := none

/-- Whether opening had to cut damaged bytes. -/
def Recovery.recovered (r : Recovery) : Bool :=
  r.corruption.isSome

/-- The number of keys and the size of the log. -/
structure Stats where
  keys : Nat := 0
  dataSize : Nat := 0

/-- A store: its log, its key directory, and whether it is open. -/
structure Store where
  path : String
  log : Log
  keys : KeyDir := {}
  logger : Logger
  isOpen : Bool := false

/-- A computation on a store in a world. -/
abbrev StoreM := StateT Store Sys

namespace Store

/-- A closed store on the log at `path`, creating the directories above it. -/
def create (path : String) (logger : Logger) (opener : Opener) : Sys (Except Failure Store) := do
  if path.isEmpty then return .error (.plain "store path is required")
  let d ← Sys.disk
  match d.tree.mkdirAll d.cwd (Path.dir path) with
  | .error f => return .error f
  | .ok t =>
    Sys.setDisk { d with tree := t }
    return .ok { path, log := Log.create path logger opener,
                 logger := logger.withText "path" path }

/-- Runs a log computation on the store's log. -/
def onLog {α : Type} (m : LogM α) : StoreM α := fun s => do
  let (a, l) ← m s.log
  return (a, { s with log := l })

/-- Runs a world computation on a store. -/
def lift {α : Type} (m : Sys α) : StoreM α :=
  StateT.lift m

/-- Copies `n` bytes of the log from `offset` into a new sidecar file, giving its path. -/
def preserve (offset n : Nat) : StoreM (Except Failure String) := do
  let s ← get
  let id ← lift Sys.fresh
  let side := s.path ++ "." ++ uniqueId id ++ ".discarded"
  let d ← lift Sys.disk
  match d.openPath side { read := false, write := true, create := true, exclusive := true } with
  | .error f => return .error f
  | .ok (h, d') =>
    lift (Sys.setDisk d')
    let (b, err) ← onLog (Log.copyRange offset n)
    lift (Sys.onDisk fun d => ((), (d.writeDirect h b).2))
    match err with
    | some f =>
      lift (Sys.onDisk fun d =>
        ((), { d.close h with tree := (d.close h).tree.dropNode (d.place side) }))
      return .error f
    | none =>
      lift (Sys.onDisk fun d => ((), d.close h))
      return .ok side

/-- Ends a replay at a damaged record: cuts the log back to the cursor, first copying the cut
bytes to a sidecar when the record ends before the end of the file. -/
def recover (cause : Failure) (r : Recovery) : StoreM (Except Failure Recovery) := do
  let good := (← get).log.readOffset
  let mut r := { r with corruption := some cause }
  let stop := match cause.record? with
    | some (_, e) => e
    | none => r.sizeBefore
  if stop < r.sizeBefore then
    match ← preserve good (r.sizeBefore - good) with
    | .error f => return .error (.within "preserve discarded bytes" f)
    | .ok side => r := { r with discarded := some side }
  match ← onLog (Log.truncate good) with
  | .error f => return .error f
  | .ok () =>
    return .ok { r with truncatedBytes := r.sizeBefore - good, sizeAfter := good }

/-- Replays records into the key directory; `fuel` bounds the records read. -/
def replayFrom (r : Recovery) : Nat → StoreM (Except Failure Recovery)
  | 0 => return .ok r
  | fuel + 1 => do
    match ← onLog Log.read with
    | .ok none => return .ok r
    | .ok (some e) =>
      modify fun s => { s with keys := s.keys.apply e.key e.value e.deleted }
      replayFrom { r with records := r.records + 1,
                          tombstones := r.tombstones + (if e.deleted then 1 else 0) } fuel
    | .error f =>
      if f.isRecoverable then recover f r
      else return .error (.within ("replay " ++ (← get).path) f)

/-- Replays the whole log from its first record into an empty key directory. -/
def replay : StoreM (Except Failure Recovery) := do
  match ← onLog Log.size with
  | .error f => return .error f
  | .ok size =>
    modify fun s => { s with keys := {} }
    match ← onLog Log.seekToFirst with
    | .error f => return .error f
    | .ok () =>
      match ← replayFrom { sizeBefore := size, sizeAfter := size } (size + 1) with
      | .error f => return .error f
      | .ok r => return .ok { r with keys := (← get).keys.size }

/-- Opens the log and replays it; an open store only reports its number of keys. -/
def openStore : StoreM (Except Failure Recovery) := do
  let s ← get
  if s.isOpen then return .ok { keys := s.keys.size }
  match ← onLog Log.openFile with
  | .error f =>
    onLog Log.close
    return .error f
  | .ok () =>
    match ← replay with
    | .error f =>
      modify fun s => { s with keys := {} }
      onLog Log.close
      return .error f
    | .ok r =>
      modify fun s => { s with isOpen := true }
      let fields : List (String × FieldValue) :=
        [("records", .int r.records), ("keys", .int r.keys)] ++
        (r.corruption.toList.map fun f => ("corruption", .text f.message)) ++
        [("truncated_bytes", .int r.truncatedBytes), ("discarded", .text (r.discarded.getD "")),
         ("took", .number "0")]
      lift (Sys.emit s.logger { level := if r.recovered then Level.warn else Level.info,
                                message := "opened store", fields })
      return .ok r

/-- The value of a key. -/
def get? (s : Store) (key : ByteArray) : Option ByteArray :=
  s.keys.get? key

/-- Writes `value` under `key` if the mode admits it; whether it wrote. -/
def set (key value : ByteArray) (mode : SetMode) : StoreM (Except Failure Bool) := do
  let s ← get
  if !s.isOpen then return .error .storeClosed
  if let .unknown _ := mode then return .error (.invalidMode mode.name)
  let e := Entry.live key value
  match e.validate with
  | .error f => return .error f
  | .ok () =>
    if !mode.admits (s.keys.get? key) value then return .ok false
    match ← onLog (Log.write e) with
    | .error f => return .error f
    | .ok () =>
      modify fun s => { s with keys := s.keys.insert key value }
      return .ok true

/-- Writes a tombstone for a present key; whether the key was present. -/
def delete (key : ByteArray) : StoreM (Except Failure Bool) := do
  let s ← get
  if !s.isOpen then return .error .storeClosed
  if !s.keys.contains key then return .ok false
  match ← onLog (Log.write (Entry.tombstone key)) with
  | .error f => return .error f
  | .ok () =>
    modify fun s => { s with keys := s.keys.erase key }
    return .ok true

/-- The number of keys and the log's size; zeros when closed, size 0 when it cannot be read. -/
def stats : StoreM Stats := do
  let s ← get
  if !s.isOpen then return {}
  match ← onLog Log.size with
  | .ok n => return { keys := s.keys.size, dataSize := n }
  | .error f =>
    lift (Sys.emit s.logger { level := Level.warn, message := "failed to stat log",
                              fields := [("error", .text f.message)] })
    return { keys := s.keys.size }

/-- Closes an open store, emptying its key directory. -/
def close : StoreM Unit := do
  let s ← get
  if !s.isOpen then return
  modify fun s => { s with isOpen := false, keys := {} }
  onLog Log.close
  lift (Sys.emit s.logger { level := Level.debug, message := "closed store" })

end Store

end LogStore
