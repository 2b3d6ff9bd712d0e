import LogStore.Disk.Whole
import LogStore.Text.Quoted
import LogStore.Text.Space
import LogStore.Text.Utf8
import LogStore.Snapshot.Batch
import LogStore.Snapshot.Manifest
import LogStore.Snapshot.Options
import LogStore.Snapshot.Table

/-!
# Snapshot databases

A snapshot is an embedded key-value database kept in a directory of its own:

* `CURRENT` names the manifest, `MANIFEST-000001` here: one line, ending with a line break;
* the manifest's edits say which log is the oldest still to replay (`000002.log`);
* the log holds the committed batches, then a closing trailer;
* `OPTIONS-000003` holds the settings the database was made with;
* `LOCK` is taken by whoever opens the database.

Files are numbered with at least six digits. A database hands out sequence numbers from ten on,
so a new database's manifest records nine as the last one used.

* `Snapshot.create d dir bindings` makes a new database holding the bindings, committed as one
  batch; a directory that already names a manifest is refused
  (`dirname="dir": pebble: database already exists`).
* `Snapshot.load d dir` opens a database read-only: it reads the manifest and replays the logs.
  It names what it replayed in one line per log. The checks come in this order: the directory
  (a missing one is `error opening database at "dir": pebble: database "dir" does not exist`),
  the lock, `CURRENT` (none means `dirname="dir": pebble: database does not exist`; an empty,
  too large, unterminated or unreadable one is refused under `pebble: database "dir"`), the
  manifest, the live table files (each must be in the directory at the size the manifest
  gives), the newest options file, and the logs from the oldest to replay on. A log ends at its
  first damaged or cut record, unless it is not the last and the options ask for strict tails.
* `Opened.get? db d dir k` and `Opened.range db d dir lo hi` read the opened database: the
  table files are read only then, and only those whose keys may matter.

A key's value is what its changes give, applied in the order of their sequence numbers. Reads
visit the logged changes first, then the table files of level 0 from the newest, then the
levels below in order; a lookup stops at the first of them that holds a change of the key that
does not merge onto an older value, so a damaged table further down is never read.
-/

namespace LogStore.Snapshot

/-- The file that names the manifest. -/
def markerFile : String := "CURRENT"

/-- The file that locks a database. -/
def lockFile : String := "LOCK"

/-- A file number as written in names: at least six digits. -/
def fileNumber (n : Nat) : String :=
  let ds := toString n
  String.ofList (List.replicate (6 - ds.length) '0') ++ ds

/-- The name of a manifest. -/
def manifestName (n : Nat) : String := "MANIFEST-" ++ fileNumber n

/-- The name of a log. -/
def logName (n : Nat) : String := fileNumber n ++ ".log"

/-- The name of an options file. -/
def optionsName (n : Nat) : String := "OPTIONS-" ++ fileNumber n

/-- The number of a new database's manifest. -/
def firstManifest : Nat := 1

/-- The number of a new database's log. -/
def firstLog : Nat := 2

/-- The number of a new database's options file. -/
def firstOptions : Nat := 3

/-- The log of a new database. -/
def tableFile : String := logName firstLog

/-- The other files of a new database. -/
def otherFiles : List String := [manifestName firstManifest, optionsName firstOptions]

/-- What a file of a database directory is, by its name. -/
inductive FileName where
  | current
  | lock
  | manifest (n : Nat)
  | options (n : Nat)
  | log (n : Nat)
  | table (n : Nat)
  | temporary (n : Nat)
  deriving DecidableEq

/-- A file number: decimal digits only, below `2 ^ 64`. -/
def parseFileNumber? (s : String) : Option Nat :=
  if !s.isEmpty && s.toList.all Char.isDigit then
    let n := s.toList.foldl (fun acc c => acc * 10 + (c.toNat - 48)) 0
    if n < Nat.pow 2 64 then some n else none
  else none

/-- The text between the first `pre` and the last `post` characters of a name. -/
def middle (name : String) (pre post : Nat) : String :=
  String.ofList ((name.toList.drop pre).take (name.length - pre - post))

/-- What a name says a file is, if anything. -/
def FileName.parse? (path : String) : Option FileName :=
  let name := Path.base path
  if name = "CURRENT" then some .current
  else if name = "LOCK" then some .lock
  else if name.startsWith "MANIFEST-" then (parseFileNumber? (middle name 9 0)).map .manifest
  else if name.startsWith "OPTIONS-" then (parseFileNumber? (middle name 8 0)).map .options
  else if name.startsWith "CURRENT." && name.endsWith ".dbtmp" && name.length ≥ 14 then
    (parseFileNumber? (middle name 8 6)).map .temporary
  else if name.startsWith "temporary." && name.endsWith ".dbtmp" && name.length ≥ 16 then
    (parseFileNumber? (middle name 10 6)).map .temporary
  else
    let cs := name.toList
    match cs.findIdx? (· = '.') with
    | none => none
    | some i =>
      match parseFileNumber? (String.ofList (cs.take i)), String.ofList (cs.drop (i + 1)) with
      | some n, "sst" => some (.table n)
      | some n, "log" => some (.log n)
      | _, _ => none

/-- The UTF-8 encodings of the white-space characters. Irreducible: a proof about the trimming
below unfolds it through its members, never by computing the whole table. -/
@[irreducible] def spaceEncodings : List (List UInt8) :=
  ((List.range 0x3001).filter fun n => Text.isSpace (Char.ofNat n)).map fun n =>
    (String.singleton (Char.ofNat n)).toUTF8.toList

/-- Bytes without the white space at their start. -/
def dropSpaceStart (bs : List UInt8) : Nat → List UInt8
  | 0 => bs
  | fuel + 1 =>
    match spaceEncodings.find? (·.isPrefixOf bs) with
    | some e => dropSpaceStart (bs.drop e.length) fuel
    | none => bs

/-- Reversed bytes without the white space at their start (the end of the bytes). -/
def dropSpaceEnd (bs : List UInt8) : Nat → List UInt8
  | 0 => bs
  | fuel + 1 =>
    match spaceEncodings.find? (fun e => e.reverse.isPrefixOf bs) with
    | some e => dropSpaceEnd (bs.drop e.length) fuel
    | none => bs

/-- Bytes without the white space at their start and end. -/
def trimSpaceBytes (b : ByteArray) : ByteArray :=
  let front := dropSpaceStart b.toList b.size
  ⟨(dropSpaceEnd front.reverse front.length).reverse.toArray⟩

/-- The number a file name carries (zero for the unnumbered ones). -/
def FileName.number : FileName → Nat
  | .current | .lock => 0
  | .manifest n | .options n | .log n | .table n | .temporary n => n

/-- The number of the manifest `CURRENT` names, none when there is no `CURRENT`. -/
def readCurrent (d : Disk) (dir : String) : Except Failure (Option Nat) := do
  let path := Path.join dir markerFile
  match d.locate "open" path with
  | .ok none => return none
  | .error (.system _ _ .noEntry) => return none
  | .error f => throw (.within ("pebble: could not open CURRENT file for DB " ++ Text.quote dir) f)
  | .ok (some .dir) => throw (.system "read" path .isDirectory)
  | .ok (some (.file ino)) =>
    let b := d.tree.contents ino
    if b.size = 0 then throw (.plain ("pebble: CURRENT file for DB " ++ Text.quote dir ++ " is empty"))
    if b.size > 4096 then
      throw (.plain ("pebble: CURRENT file for DB " ++ Text.quote dir ++ " is too large"))
    if b.get! (b.size - 1) ≠ 10 then
      throw (.plain ("pebble: CURRENT file for DB " ++ Text.quote dir ++ " is malformed"))
    let name := trimSpaceBytes b
    match FileName.parse? (Text.Utf8.lossy name) with
    | some f => return some f.number
    | none => throw (.plain ("pebble: MANIFEST name " ++ Text.quoteBytes name ++ " is malformed"))

/-- Takes a database's lock, creating the lock file if missing. -/
def takeLock (d : Disk) (dir : String) : Except Failure Disk := do
  let (_, d) ← d.fileAt (Path.join dir lockFile) true
  return d

/-- The edits a new database's manifest holds: its comparer and first file number, then its
log, next file number and last sequence number. -/
def newManifest : ByteArray :=
  plainRecords [{ comparer := comparerName.toUTF8, nextFile := firstLog : VersionEdit }.encode,
    { logNum := firstLog, nextFile := firstOptions, lastSeq := firstSeqNum - 1 : VersionEdit }.encode]

/-- The log of a new database whose one commit holds `bindings` (none when empty), closed. -/
def newLog (bindings : List (ByteArray × ByteArray)) : ByteArray :=
  let body := if bindings.isEmpty then ByteArray.empty
    else numberedRecord firstLog ByteArray.empty (Batch.encodeSets firstSeqNum bindings)
  body ++ endTrailer firstLog

/-- Makes a new database in a directory holding `bindings`, committed as one batch. -/
def create (d : Disk) (dir : String) (bindings : List (ByteArray × ByteArray)) :
    Except Failure Disk := do
  let d ← match d.mkdirAll dir with
    | .ok d => pure d
    | .error f => throw (.within ("error opening database at " ++ Text.quote dir) f)
  let d ← takeLock d dir
  let current ← match readCurrent d dir with
    | .ok c => pure c
    | .error f => throw (.within ("pebble: database " ++ Text.quote dir) f)
  if current.isSome then
    throw (.within ("dirname=" ++ Text.quote dir) (.plain "pebble: database already exists"))
  let d ← d.writeFile (Path.join dir (manifestName firstManifest)) newManifest
  let d ← d.writeFile (Path.join dir markerFile) (manifestName firstManifest ++ "\n").toUTF8
  let d ← d.writeFile (Path.join dir tableFile) (newLog bindings)
  d.writeFile (Path.join dir (optionsName firstOptions)) optionsText.toUTF8

/-- What replaying logs gives: the changes in order with their sequence numbers, the first
sequence number of the first batch, and a line for each log replayed. -/
structure Replay where
  logged : List (Nat × Change) := []
  firstSeq : Option Nat := none
  notes : List String := []

/-- Replays the records of a log from a reader; `keys` and `batches` count what was replayed,
`offset` is where the record being read began. `strict` refuses a damaged tail. -/
def replayRecords (path : String) (logNum : Nat) (strict : Bool) :
    ChunkReader → Replay → Nat → Nat → Nat → Except Failure (Replay × Nat × Nat × Nat)
  | _, rp, keys, batches, 0 => .ok (rp, keys, batches, 0)
  | r, rp, keys, batches, fuel + 1 =>
    let offset := r.offset
    match r.next with
    | .error e =>
      if e = .eof || (e.isDamage && !strict) then .ok (rp, keys, batches, offset)
      else .error (.plain ("pebble: error when replaying WAL: " ++ e.message))
    | .ok (record, r) =>
      match Batch.header? record with
      | none => .error (.plain ("pebble: corrupt log file " ++ Text.quote path ++ " (num " ++
          fileNumber logNum ++ ")"))
      | some b =>
        let first := rp.firstSeq.getD b.seqNum
        if b.seqNum < first then
          .error (.plain ("pebble: batch seqnum " ++ toString b.seqNum ++
            " is less than memtable creation seqnum " ++ toString first))
        else
          match b.changes? with
          | .error why => .error (.plain why)
          | .ok cs =>
            replayRecords path logNum strict r
              { rp with logged := rp.logged ++ cs, firstSeq := some first }
              (keys + b.count) (batches + 1) fuel

/-- Replays one log, adding its line. -/
def replayLog (d : Disk) (path : String) (logNum : Nat) (strict : Bool) (rp : Replay) :
    Except Failure Replay := do
  let file ← match d.contentsAt path with
    | .ok b => pure b
    | .error (.system "read" p e) =>
      throw (.within "pebble: error when replaying WAL" (.system "read" p e))
    | .error f => throw f
  let r : ChunkReader := { file, logNum }
  let (rp, keys, batches, offset) ← replayRecords path logNum strict r rp 0 0 (file.size + 1)
  return { rp with notes := rp.notes ++ ["[JOB 1] WAL file " ++ path ++ " with log number " ++
    fileNumber logNum ++ " stopped reading at offset: " ++ toString offset ++ "; replayed " ++
    toString keys ++ " keys in " ++ toString batches ++ " batches"] }

/-- Replays logs in order, each but the last strict when `strict`. -/
def replayLogs (d : Disk) (dir : String) (strict : Bool) :
    List (Nat × String) → Replay → Except Failure Replay × Replay
  | [], rp => (.ok rp, rp)
  | (n, name) :: rest, rp =>
    match replayLog d (Path.join dir name) n (strict && !rest.isEmpty) rp with
    | .error f => (.error f, rp)
    | .ok rp => replayLogs d dir strict rest rp

/-- The manifest's state, or why it is refused. -/
def loadManifest (d : Disk) (dir : String) (n : Nat) : Except Failure Manifest := do
  let name := manifestName n
  let path := Path.join dir name
  let file ← match d.contentsAt path with
    | .ok b => pure b
    | .error (.system "read" p e) =>
      throw (.within ("pebble: error when loading manifest file " ++ Text.quote name)
        (.system "read" p e))
    | .error f =>
      throw (.within ("pebble: could not open manifest file " ++ Text.quote name ++ " for DB " ++
        Text.quote dir) f)
  let m ← match Manifest.load comparerName.toUTF8 file with
    | .ok m => pure m
    | .error (.comparer found) =>
      throw (.plain ("pebble: manifest file " ++ Text.quote name ++ " for DB " ++ Text.quote dir ++
        ": comparer name from file " ++ Text.quoteBytes found ++ " != comparer name from options " ++
        Text.quote comparerName))
    | .error (.refused why) => throw (.plain why)
  if m.logNum = 0 && m.nextFile < 2 then
    throw (.plain ("pebble: malformed manifest file " ++ Text.quote name ++ " for DB " ++
      Text.quote dir))
  return m

/-- The logs to replay, by number then name, and the newest options file of a listing. -/
def scanNames (logNum : Nat) (names : List String) : List (Nat × String) × Option String :=
  let logs := names.filterMap fun name =>
    match FileName.parse? name with
    | some (.log n) => if n ≥ logNum then some (n, name) else none
    | _ => none
  let options := names.foldl (fun (best : Option (Nat × String)) name =>
    match FileName.parse? name, best with
    | some (.options n), some (m, _) => if m < n then some (n, name) else best
    | some (.options n), none => some (n, name)
    | _, _ => best) none
  (Order.sortStable (fun a b => a.1 ≤ b.1) logs, options.map Prod.snd)

/-- The live files of a level in the order the level keeps them: level 0 by newest sequence
number, then oldest, then file number; the others by first key, then file number. -/
def levelFiles (files : List TableFile) (level : Nat) : List TableFile :=
  let here := files.filter (·.level = level)
  if level = 0 then
    Order.sortStable (fun a b => a.largestSeq < b.largestSeq || (a.largestSeq = b.largestSeq &&
      (a.smallestSeq < b.smallestSeq || (a.smallestSeq = b.smallestSeq && a.num ≤ b.num)))) here
  else
    Order.sortStable (fun a b => compareBytes a.smallest b.smallest = .lt ||
      (compareBytes a.smallest b.smallest = .eq && a.num ≤ b.num)) here

/-- The name of a table file. -/
def tableName (n : Nat) : String := fileNumber n ++ ".sst"

/-- The problem with one live table file, as a line: missing from the directory's table files
`listed`, unreadable, or of another size than the manifest gives. -/
def tableProblem (d : Disk) (dir : String) (listed : List Nat) (f : TableFile) : Option String :=
  let num := fileNumber f.num
  let head := "L" ++ toString f.level ++ ": " ++ num ++ ": "
  if !listed.contains f.num then
    some (head ++ "file " ++ num ++ " (type 2) unknown to the objstorage provider: " ++
      "file does not exist\n")
  else
    let path := Path.join dir (tableName f.num)
    match d.contentsAt path with
    | .ok b =>
      if b.size = f.size then none
      else some (head ++ "object size mismatch (" ++ path ++ "): " ++ toString b.size ++
        " (disk) != " ++ toString f.size ++ " (MANIFEST)\n")
    | .error e => some (head ++ e.message ++ "\n")

/-- The problems of the live table files, level by level, one line for each file number at
most; empty when every file is there at its size. -/
def tableProblems (d : Disk) (dir : String) (files : List TableFile) : String :=
  let listed := (d.list dir).filterMap fun name =>
    match FileName.parse? name with
    | some (.table n) => some n
    | _ => none
  let ordered := (List.range 7).flatMap (levelFiles files)
  let (_, lines) := ordered.foldl (fun (acc : List Nat × List String) f =>
    if acc.1.contains f.num then acc
    else (f.num :: acc.1, acc.2 ++ (tableProblem d dir listed f).toList)) ([], [])
  String.join lines

/-- A database opened read-only: its live table files and the changes its logs hold, in order,
with their sequence numbers. -/
structure Opened where
  tables : List TableFile
  logged : List (Nat × Change)

/-- The live files in the order reads visit them: level 0 from the newest, then the levels
below in order. -/
def readOrder (files : List TableFile) : List TableFile :=
  (levelFiles files 0).reverse ++ (List.range 6).flatMap fun l => levelFiles files (l + 1)

/-- The changes a live table file holds, or why they cannot be read; a failure to open the file
names it. -/
def tableFileChanges (d : Disk) (dir : String) (f : TableFile) :
    Except Failure (List (Nat × Change)) := do
  let num := fileNumber f.num
  let opening := "pebble: backing file " ++ num ++ " error"
  let file ← match d.contentsAt (Path.join dir (tableName f.num)) with
    | .ok b => pure b
    | .error e => throw (.within opening e)
  let t ← match openTable num file with
    | .ok t => pure t
    | .error why => throw (.within opening (.plain why))
  match t.changes? num file with
  | .ok cs => return cs
  | .error why => throw (.plain why)

/-- Whether a file's keys may reach into `[lo, hi)`. -/
def TableFile.overlaps (f : TableFile) (lo hi : ByteArray) : Bool :=
  compareBytes f.smallest hi = .lt && compareBytes lo f.largest ≠ .gt

/-- Whether a change bears on the value of `k`: a point change of it, or a range deletion
covering it. -/
def Change.touches (c : Change) (k : ByteArray) : Bool :=
  if c.kind = 15 then compareBytes c.key k ≠ .gt && compareBytes k c.value = .lt
  else [0, 1, 2, 7, 18, 23].contains c.kind && c.key == k

/-- The table that changes give, applied in the order of their sequence numbers; of equal
numbers, the one listed first goes first. -/
def applyInOrder (changes : List (Nat × Change)) : KeyDir :=
  ((Order.sortStable (fun a b => a.1 ≤ b.1) changes).map (·.2)).foldl Change.applyTo {}

/-- Whether changes of a key settle its value without what older sources hold. -/
def settles (changes : List (Nat × Change)) : Bool :=
  changes.any (·.2.kind ≠ 2)

/-- The changes of `k` that the files hold, searched in order until one settles it, added in
front of `found` (which holds those of newer sources, the oldest first). -/
def lookupFrom (d : Disk) (dir : String) (k : ByteArray) :
    List TableFile → List (Nat × Change) → Except Failure (List (Nat × Change))
  | [], found => .ok found
  | f :: rest, found =>
    if !f.overlaps k (k.push 0) then lookupFrom d dir k rest found
    else do
      let mine := (← tableFileChanges d dir f).filter (·.2.touches k)
      if settles mine then return mine ++ found else lookupFrom d dir k rest (mine ++ found)

/-- The value of a key in an opened database, or why a table it needs cannot be read. -/
def Opened.get? (db : Opened) (d : Disk) (dir : String) (k : ByteArray) :
    Except Failure (Option ByteArray) := do
  let mine := db.logged.filter (·.2.touches k)
  let found ← if settles mine then pure mine else lookupFrom d dir k (readOrder db.tables) mine
  return (applyInOrder found).get? k

/-- The bindings of an opened database with keys in `[lo, hi)`, in key order, or why a table
they need cannot be read. -/
def Opened.range (db : Opened) (d : Disk) (dir : String) (lo hi : ByteArray) :
    Except Failure (List (ByteArray × ByteArray)) := do
  let files := (readOrder db.tables).filter (·.overlaps lo hi)
  let tables ← files.mapM (tableFileChanges d dir)
  let all := (applyInOrder (tables.reverse.flatten ++ db.logged)).bindings
  return all.filter fun p => compareBytes lo p.1 ≠ .gt && compareBytes p.1 hi = .lt

/-- Opens the database in a directory read-only and replays its logs. The disk afterwards has
the lock file; the lines name the logs replayed, also when a later step fails. -/
def load (d : Disk) (dir : String) : Disk × List String × Except Failure Opened :=
  let missing : Failure := .plain ("error opening database at " ++ Text.quote dir ++
    ": pebble: database " ++ Text.quote dir ++ " does not exist")
  match d.locate "open" dir with
  | .error (.system _ _ .noEntry) => (d, [], .error missing)
  | .error f => (d, [], .error (.within ("error opening database at " ++ Text.quote dir) f))
  | .ok none => (d, [], .error missing)
  | .ok (some _) =>
    match takeLock d dir with
    | .error f => (d, [], .error f)
    | .ok d =>
      let opened : Except Failure (Manifest × Bool) := do
        let current ← match readCurrent d dir with
          | .ok c => pure c
          | .error f => throw (.within ("pebble: database " ++ Text.quote dir) f)
        let some n := current
          | throw (.within ("dirname=" ++ Text.quote dir) (.plain "pebble: database does not exist"))
        let m ← loadManifest d dir n
        let problems := tableProblems d dir m.files
        if !problems.isEmpty then throw (.plain problems)
        let (_, options) := scanNames m.logNum (d.list dir)
        let strict ← match options with
          | none => pure false
          | some name =>
            match d.contentsAt (Path.join dir name) with
            | .ok b => checkOptions b
            | .error f => throw f
        return (m, strict)
      match opened with
      | .error f => (d, [], .error f)
      | .ok (m, strict) =>
        let (logs, _) := scanNames m.logNum (d.list dir)
        let (result, rp) := replayLogs d dir strict logs {}
        (d, rp.notes, result.map fun rp => { tables := m.files, logged := rp.logged })

end LogStore.Snapshot
