import LogStore.World
import LogStore.Log.Header
import LogStore.Log.ReadAhead
import LogStore.Entry.Decode

/-!
# The log

A log is a file of records after a header. It is opened (creating the file and writing the
header when the file is empty), read from a cursor that starts after the header, appended to at
the physical end of the file, cut back, and closed.

* A header that is refused leaves the log open but unusable: every operation except `size` and
  `close` fails with the header's failure, and opening again changes nothing.
* `write` validates the entry, appends its record and makes it durable; when any part fails it
  cuts the file back to where it ended and fails with `append to log: …`.
* `read` reads the record at the cursor and moves the cursor past it. At the end of the file it
  gives `none`; a damaged or oversized record fails as `record at offset O: …`, located from the
  cursor to the last byte the reader took; other failures are passed on. Any failure, the end
  included, drops the read-ahead buffer, so the next read starts again at the cursor.
* `truncate` cuts the file (never into the header) and pulls the cursor back to the new end;
  `copyRange` reads bytes at an offset, failing with the end of data when there are fewer.
-/

namespace LogStore

/-- How a log opens its file. -/
structure Opener where
  /-- Open for reading and writing and take the file's lock; otherwise open for reading only. -/
  locking : Bool := true
  /-- Open through the fault injector. -/
  faulty : Bool := false

/-- A log and its cursor. -/
structure Log where
  path : String
  logger : Logger := Logger.nop
  opener : Opener := {}
  /-- The handle of the open file. -/
  file : Option Nat := none
  /-- The bytes read ahead and not yet used; `none` when there is no buffer. -/
  buffer : Option ByteArray := none
  readOffset : Nat := 0
  /-- Why the header was refused, while the log is open on such a file. -/
  headerError : Option Failure := none

/-- A computation on a log in a world. -/
abbrev LogM := StateT Log Sys

namespace Log

/-- A log of the file at `path`, whose events carry the path. -/
def create (path : String) (logger : Logger) (opener : Opener) : Log :=
  { path, logger := logger.withText "path" path, opener }

/-- Runs a world computation on a log. -/
def lift {α : Type} (m : Sys α) : LogM α :=
  StateT.lift m

/-- Writes an event through the log's logger. -/
def emit (e : Event) : LogM Unit := do
  lift (Sys.emit (← get).logger e)

/-- Whether the log is open. -/
def isOpen (l : Log) : Bool :=
  l.file.isSome

/-- The handle of a usable log, or why it is not usable. -/
def usable : LogM (Except Failure Nat) := do
  let l ← get
  match l.file, l.headerError with
  | none, _ => return .error .logClosed
  | some _, some e => return .error e
  | some h, none => return .ok h

/-- Reads up to `n` bytes straight from the file until there are `n` or a read fails. -/
def readFully (h : Nat) (n : Nat) : LogM (ByteArray × Option Failure) :=
  lift (Sys.onDisk fun d => go d ByteArray.empty n (n + 1))
where
  /-- The reads so far in `acc`; `fuel` bounds the reads, each of which takes a byte. -/
  go (d : Disk) (acc : ByteArray) (n : Nat) : Nat → (ByteArray × Option Failure) × Disk
    | 0 => ((acc, none), d)
    | fuel + 1 =>
      if acc.size ≥ n then ((acc, none), d)
      else
        let ((got, err), d') := d.read h (n - acc.size)
        match err with
        | some f => ((acc ++ got, some f), d')
        | none => if got.size = 0 then ((acc, none), d') else go d' (acc ++ got) n fuel

/-- Writes the header into an empty file: position, write, and sync. -/
def writeHeader (h : Nat) : LogM (Option Failure) := do
  let (_, seekErr) ← lift (Sys.onDisk fun d => d.seek h 0 0)
  if let some f := seekErr then return some f
  let (n, err) ← lift (Sys.onDisk fun d => d.write h Header.encode)
  if let some f := err then return some f
  if n < Header.size then return some .shortWrite
  return (← lift Sys.disk).sync h

/-- Reads and checks the header of a file of `size` bytes. -/
def readHeader (h : Nat) (size : Nat) : LogM (Option Failure) := do
  if size < Header.size then
    return some (.badMagic ("file is " ++ toString size ++ " bytes"))
  let (_, seekErr) ← lift (Sys.onDisk fun d => d.seek h 0 0)
  if let some f := seekErr then return some f
  let (b, err) ← readFully h Header.size
  match err with
  | some .endOfData => return some (.badMagic "short header")
  | some f => return some f
  | none =>
    if b.size < Header.size then return some (.badMagic "short header")
    else return Header.check b

/-- Opens the file, creating the header of an empty one; nothing happens when the log is open. -/
def openFile : LogM (Except Failure Unit) := do
  let l ← get
  if l.file.isSome then return .ok ()
  if let .ok (.dir, _) := (← lift Sys.disk).stat l.path then
    return .error (.isDirectory l.path)
  let opened ← lift (Sys.onDisk fun d =>
    let r := if l.opener.locking then d.openLocked l.path l.opener.faulty
      else d.openReading l.path l.opener.faulty
    match r with
    | .ok (h, d') => (Except.ok h, d')
    | .error f => (Except.error f, d))
  match opened with
  | .error f => return .error (.within ("open log " ++ l.path) f)
  | .ok h =>
    match (← lift Sys.disk).size h with
    | .error f =>
      lift (Sys.onDisk fun d => ((), d.close h))
      return .error (.within ("stat log " ++ l.path) f)
    | .ok size =>
      if size = 0 then
        if let some f ← writeHeader h then
          lift (Sys.onDisk fun d => ((), (d.truncate h 0).2.close h))
          return .error (.within ("write log header " ++ l.path) f)
        emit { level := Level.debug, message := "created log" }
      else if let some f ← readHeader h size then
        modify fun l => { l with headerError := some f, file := some h }
        emit { level := Level.warn, message := "rejected log header",
               fields := [("error", .text f.message)] }
        return .error f
      modify fun l => { l with file := some h, headerError := none,
                               readOffset := Header.size, buffer := none }
      return .ok ()

/-- Closes the file; the cursor stays where it was. -/
def close : LogM Unit := do
  let l ← get
  match l.file with
  | none => return
  | some h =>
    set { l with file := none, buffer := none, headerError := none }
    lift (Sys.onDisk fun d => ((), d.close h))

/-- Appends the record of an entry at the end of the file and makes it durable. -/
def write (e : Entry) : LogM (Except Failure Unit) := do
  match ← usable with
  | .error f => return .error f
  | .ok h =>
  match e.validate with
  | .error f => return .error f
  | .ok () =>
  let (stop, _) ← lift (Sys.onDisk fun d => d.seek h 0 2)
  modify fun l => { l with buffer := none }
  let record := e.encode
  let (n, err) ← lift (Sys.onDisk fun d => d.write h record)
  let err := match err with
    | some f => some f
    | none => if n < record.size then some .shortWrite else none
  let synced := (← lift Sys.disk).sync h
  let err := match err with
    | some f => some f
    | none => synced
  match err with
  | none => return .ok ()
  | some f =>
    let cut ← lift (Sys.onDisk fun d => d.truncate h stop)
    if let some g := cut then
      emit { level := Level.error, message := "failed to roll back partial append",
             fields := [("error", .text g.message), ("offset", .int stop)] }
    emit { level := Level.error, message := "append failed",
           fields := [("error", .text f.message), ("offset", .int stop),
                      ("size", .int record.size)] }
    return .error (.within "append to log" f)

/-- Moves the cursor to the first record. -/
def seekToFirst : LogM (Except Failure Unit) := do
  match ← usable with
  | .error f => return .error f
  | .ok _ =>
    modify fun l => { l with readOffset := Header.size, buffer := none }
    return .ok ()

/-- Whether a record failure is located at its record: damage or an oversized length. -/
def located (f : Failure) : Bool :=
  f.isRecoverable || f.kinds.contains .keyTooLarge || f.kinds.contains .valueTooLarge

/-- Reads the record at the cursor: `none` at the end of the file. -/
def read : LogM (Except Failure (Option Entry)) := do
  match ← usable with
  | .error f => return .error f
  | .ok h =>
  let l ← get
  let pending ← match l.buffer with
    | some b => pure b
    | none =>
      let _ ← lift (Sys.onDisk fun d => d.seek h l.readOffset 0)
      pure ByteArray.empty
  let src := ReadAhead.view (← lift Sys.disk) h pending
  match src.decodeAt 0 with
  | .finished =>
    modify fun l => { l with buffer := none }
    return .ok none
  | .failed f used =>
    modify fun l => { l with buffer := none }
    if located f then return .error (.record l.readOffset (l.readOffset + used) f)
    else return .error f
  | .entry e used =>
    let b1 ← lift (Sys.onDisk fun d => ReadAhead.consume d h pending headerSize)
    let b2 ← lift (Sys.onDisk fun d => ReadAhead.consume d h b1 (used - headerSize))
    modify fun l => { l with buffer := some b2, readOffset := l.readOffset + used }
    return .ok (some e)

/-- Reads records until the end of the file or a failure; `fuel` bounds the records read. -/
def readFrom (acc : Array Entry) : Nat → LogM (Array Entry × Option Failure)
  | 0 => return (acc, none)
  | fuel + 1 => do
    match ← read with
    | .ok none => return (acc, none)
    | .ok (some e) => readFrom (acc.push e) fuel
    | .error f => return (acc, some f)

/-- Reads the records from the cursor to the end of the file: the records, and the failure that
stopped the reading, if any. -/
def readAll : LogM (Array Entry × Option Failure) := do
  let l ← get
  let d ← lift Sys.disk
  let ahead := (l.buffer.map ByteArray.size).getD 0
  let rest := match l.file.bind d.handle? with
    | some x => d.nodeSize x.node
    | none => 0
  readFrom #[] (ahead + rest + 1)

/-- The size of the file; only a closed log refuses. -/
def size : LogM (Except Failure Nat) := do
  match (← get).file with
  | none => return .error .logClosed
  | some h => return (← lift Sys.disk).size h

/-- Cuts the file to `n` bytes and makes that durable. -/
def truncate (n : Int) : LogM (Except Failure Unit) := do
  match ← usable with
  | .error f => return .error f
  | .ok h =>
  let what := "truncate log to " ++ toString n
  if n < Header.size then return .error (.plain (what ++ ": would cut the file header"))
  modify fun l => { l with buffer := none }
  if let some f ← lift (Sys.onDisk fun d => d.truncate h n) then
    return .error (.within what f)
  if let some f := (← lift Sys.disk).sync h then
    return .error (.within "sync log" f)
  modify fun l => { l with readOffset := min l.readOffset n.toNat }
  return .ok ()

/-- Reads `n` bytes from `offset`: the bytes read, and the failure if there were fewer. -/
def copyRange (offset n : Int) : LogM (ByteArray × Option Failure) := do
  match ← usable with
  | .error f => return (ByteArray.empty, some f)
  | .ok h =>
  modify fun l => { l with buffer := none }
  let (_, seekErr) ← lift (Sys.onDisk fun d => d.seek h offset 0)
  if let some f := seekErr then return (ByteArray.empty, some f)
  if n ≤ 0 then return (ByteArray.empty, none)
  let (b, err) ← readFully h n.toNat
  match err with
  | some .endOfData => return (b, some .endOfData)
  | some f => return (b, some f)
  | none => return (b, if b.size < n.toNat then some .endOfData else none)

end Log

end LogStore
