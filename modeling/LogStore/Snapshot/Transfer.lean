import LogStore.Snapshot.Basic
import LogStore.Store.Basic

/-!
# Copying a store to and from a snapshot

A snapshot of a store keeps every live key under `d/` and two bindings of its own: `m/id`, a
fresh unique identifier, and `m/keys`, the number of keys in decimal.

* `exportTo dir` writes the open store's live keys into a new snapshot database at `dir`, as
  one batch: the keys under `d/` in key order, then `m/id` and `m/keys`; it reports the
  identifier, the number of keys and the number of value bytes copied.
* `importFrom dir mode logger` sets, with `mode`, every key of the snapshot at `dir` in key
  order; it reports the identifier, the keys read, their value bytes, and how many the store
  changed. A database without an identifier is not a snapshot:
  `export: directory is not a kvdb snapshot`. What opening the snapshot replayed goes to
  `logger` at debug level.

A failure to open the database reads `open snapshot <dir>: <why>`; a key the store refuses,
`import key "<key>": <why>`.
-/

namespace LogStore.Snapshot

/-- What a copy did. -/
structure Transfer where
  id : String
  keys : Nat := 0
  bytes : Nat := 0
  changed : Nat := 0

/-- The prefix of the keys copied from the store. -/
def dataPrefix : ByteArray := "d/".toUTF8

/-- The key of the snapshot's identifier. -/
def idKey : ByteArray := "m/id".toUTF8

/-- The key of the snapshot's key count. -/
def countKey : ByteArray := "m/keys".toUTF8

/-- The first key past those under `d/`. -/
def dataEnd : ByteArray := "d0".toUTF8

/-- What a snapshot of the key directory `keys` holds: each binding with its key under `d/`, in
key order, then the identifier and the number of keys in decimal. -/
def exportBindings (keys : KeyDir) (id : String) : List (ByteArray × ByteArray) :=
  keys.bindings.map (fun p => (dataPrefix ++ p.1, p.2)) ++
    [(idKey, id.toUTF8), (countKey, (toString keys.bindings.length).toUTF8)]

/-- Writes the open store's live keys into a new snapshot at `dir`. -/
def exportTo (dir : String) : StoreM (Except Failure Transfer) := do
  let s ← get
  let d ← Store.lift Sys.disk
  let id := uniqueId (← Store.lift Sys.fresh)
  let copied := s.keys.bindings
  match create d dir (exportBindings s.keys id) with
  | .error f => return .error (.within ("open snapshot " ++ dir) f)
  | .ok d =>
    Store.lift (Sys.setDisk d)
    return .ok { id, keys := copied.length, bytes := copied.foldl (fun n p => n + p.2.size) 0 }

/-- Sets the copied keys of a snapshot, counting what was read and changed. -/
def importEach (mode : SetMode) : List (ByteArray × ByteArray) → Transfer →
    StoreM (Except Failure Transfer)
  | [], t => return .ok t
  | (k, v) :: rest, t => do
    let key := k.extract 2 k.size
    match ← Store.set key v mode with
    | .error f => return .error (.within ("import key " ++ Text.quoteBytes key) f)
    | .ok changed =>
      importEach mode rest { t with keys := t.keys + 1, bytes := t.bytes + v.size,
                                    changed := t.changed + (if changed then 1 else 0) }

/-- Sets every copied key of the snapshot at `dir` in the open store with `mode`; what opening
the snapshot replayed is logged through `logger` at debug level. -/
def importFrom (dir : String) (mode : SetMode) (logger : Logger) : StoreM (Except Failure Transfer) := do
  let (d, notes, loaded) := load (← Store.lift Sys.disk) dir
  Store.lift (Sys.setDisk d)
  for note in notes do
    Store.lift (Sys.emit logger { level := Level.debug, message := note })
  match loaded with
  | .error f => return .error (.within ("open snapshot " ++ dir) f)
  | .ok db =>
    match db.get? d dir idKey with
    | .error f => return .error f
    | .ok none => return .error (.plain ("export: directory is not a kvdb snapshot: " ++ dir))
    | .ok (some id) =>
      match db.range d dir dataPrefix dataEnd with
      | .error f => return .error f
      | .ok bindings => importEach mode bindings { id := Text.Utf8.lossy id }

end LogStore.Snapshot
