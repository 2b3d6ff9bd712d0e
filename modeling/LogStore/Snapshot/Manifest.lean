import LogStore.Snapshot.Chunk
import LogStore.Bytes.Varint

/-!
# Manifests

A manifest is a plain chunked file of version edits. An edit is a list of tagged fields, each tag
a varint: the comparer's name (tag 1, a length-prefixed string), the oldest log still to replay
(tag 2), the next file number (tag 3), the last sequence number (tag 4), an old log number
(tag 9), a compaction pointer (tag 5, a level below 7 and a string), a table file removed from a
level (tag 6) and a table file added to a level (tags 7, 100, 102, 103 and 104, which differ in
the fields that follow the file's level, number, size and key bounds); tags 200 to 203 name
column families. Any other tag is a corrupt manifest.

The newer added-file tags end with custom fields, each a varint tag and a string, up to the tag
1: a compaction mark (one byte), a creation time (one varint filling the field), or a field
whose tag has bit 6 set, which cannot be ignored and is refused.

Loading reads edits until the first record that is cut, damaged, or ends inside a field; each
edit read whole updates what it names. Fields of value zero change nothing. The files live at
the end are those added and not removed since; removing a file never added is refused.

* `VersionEdit.encode` writes the fields an edit sets (the last sequence number also whenever it
  names the comparer); `VersionEdit.decode?` reads one.
* `Manifest.load` folds the edits of a file into the state they give.
-/

namespace LogStore.Snapshot

/-- A table file of a database: its level, its number, its size in bytes, the first and last
user keys it holds, and the range of its sequence numbers. -/
structure TableFile where
  level : Nat
  num : Nat
  size : Nat
  smallest : ByteArray
  largest : ByteArray
  smallestSeq : Nat
  largestSeq : Nat

/-- A version edit: the fields it sets, the files it removes (level and number) and the files it
adds, in the order given. -/
structure VersionEdit where
  comparer : ByteArray := ByteArray.empty
  logNum : Nat := 0
  nextFile : Nat := 0
  lastSeq : Nat := 0
  prevLog : Nat := 0
  removed : List (Nat × Nat) := []
  added : List TableFile := []

/-- The bytes of an edit. -/
def VersionEdit.encode (e : VersionEdit) : ByteArray :=
  let field (tag v : Nat) : ByteArray := Bytes.uvarint tag ++ Bytes.uvarint v
  (if e.comparer.isEmpty then ByteArray.empty
   else Bytes.uvarint 1 ++ Bytes.uvarint e.comparer.size ++ e.comparer) ++
  (if e.logNum = 0 then ByteArray.empty else field 2 e.logNum) ++
  (if e.prevLog = 0 then ByteArray.empty else field 9 e.prevLog) ++
  (if e.nextFile = 0 then ByteArray.empty else field 3 e.nextFile) ++
  (if e.lastSeq = 0 && e.comparer.isEmpty then ByteArray.empty else field 4 e.lastSeq)

/-- Why an edit does not read: its record ends too soon (the manifest ends there), or it is
refused with a message. -/
inductive EditError where
  | cut
  | refused (message : String)

/-- The message of a corrupt manifest. -/
def corruptManifest : String := "pebble: corrupt manifest"

/-- Reads a varint at `i`; the end of the record right at `i` is `atEnd`. -/
def readVarint (b : ByteArray) (i : Nat) (atEnd : EditError) : Except EditError (Nat × Nat) :=
  if i ≥ b.size then .error atEnd
  else
    match Bytes.readUvarint? b i with
    | some r => if r.2 - i = 10 && Bytes.byteAt b (i + 9) > 1 then
        .error (.refused "binary: varint overflows a 64-bit integer") else .ok r
    | none =>
      if b.size - i ≥ 10 then .error (.refused "binary: varint overflows a 64-bit integer")
      else .error .cut

/-- Reads a value varint inside a field: the record may not end before it. -/
def readField (b : ByteArray) (i : Nat) : Except EditError (Nat × Nat) :=
  readVarint b i (.refused corruptManifest)

/-- Reads a length-prefixed string inside a field. -/
def readBytes (b : ByteArray) (i : Nat) : Except EditError (ByteArray × Nat) := do
  let (n, j) ← readField b i
  if n = 0 then return (ByteArray.empty, j)
  if j ≥ b.size then throw .cut
  if j + n > b.size then throw (.refused corruptManifest)
  return (b.extract j (j + n), j + n)

/-- The user key of a key stored with eight trailing bytes; empty when it is shorter. -/
def userKey (k : ByteArray) : ByteArray :=
  if k.size < 8 then ByteArray.empty else k.extract 0 (k.size - 8)

/-- Reads a level: a varint below 7. -/
def readLevel (b : ByteArray) (i : Nat) : Except EditError (Nat × Nat) := do
  let (level, j) ← readField b i
  if level ≥ 7 then throw (.refused corruptManifest)
  return (level, j)

/-- Reads the custom fields of an added file from `i` on, up to their end mark. -/
def readCustomFields (b : ByteArray) (i : Nat) : Nat → Except EditError Nat
  | 0 => .error .cut
  | fuel + 1 => do
    let (tag, j) ← readField b i
    if tag = 1 then return j
    if tag = 66 then
      let (_, k) ← readField b j
      return ← readCustomFields b k fuel
    let (field, k) ← readBytes b j
    if tag = 2 && field.size ≠ 1 then
      throw (.refused "new-file4: need-compaction field wrong size")
    if tag = 6 then
      match Bytes.readUvarint? field 0 with
      | some (_, n) => if n ≠ field.size then throw (.refused "new-file4: invalid file creation time")
      | none => if !field.isEmpty then throw (.refused "new-file4: invalid file creation time")
    if tag = 65 then throw (.refused "new-file4: path-id field not supported")
    if tag ≠ 2 && tag ≠ 6 && tag / 64 % 2 = 1 then
      throw (.refused ("new-file4: custom field not supported: " ++ toString tag))
    readCustomFields b k fuel

/-- Reads the fields of a file added with tag `tag` from `i` on: the file and the position
after it. -/
def readAddedFile (b : ByteArray) (tag i : Nat) : Except EditError (TableFile × Nat) := do
  let (level, i) ← readLevel b i
  let (num, i) ← readField b i
  let i ← if tag = 102 then (·.2) <$> readField b i else pure i
  let (size, i) ← readField b i
  let (smallest, largest, i) ← if tag = 104 then do
      if i ≥ b.size then throw (.refused corruptManifest)
      let marker := Bytes.byteAt b i
      let (points, i) ← if marker % 2 = 1 then do
          let (s, i) ← readBytes b (i + 1)
          let (l, i) ← readBytes b i
          pure (some (s, l), i)
        else if marker / 2 % 4 ≠ 0 then
          throw (.refused ("new-file-4-range-keys: table without point keys has point key " ++
            "bounds: marker=" ++ String.ofList (Nat.toDigits 16 marker)))
        else pure (none, i + 1)
      let (rs, i) ← readBytes b i
      let (rl, i) ← readBytes b i
      match points with
      | some (s, l) => pure (s, l, i)
      | none => pure (rs, rl, i)
    else do
      let (s, i) ← readBytes b i
      let (l, i) ← readBytes b i
      pure (s, l, i)
  let (smallestSeq, largestSeq, i) ← if tag = 7 then pure (0, 0, i) else do
      let (s, i) ← readField b i
      let (l, i) ← readField b i
      pure (s, l, i)
  let i ← if tag = 103 || tag = 104 then readCustomFields b i (b.size + 1) else pure i
  return ({ level, num, size, smallest := userKey smallest, largest := userKey largest,
            smallestSeq, largestSeq }, i)

/-- Reads the fields of an edit from `i` on. -/
def decodeFields (b : ByteArray) (i : Nat) (e : VersionEdit) : Nat → Except EditError VersionEdit
  | 0 => .ok e
  | fuel + 1 =>
    if i ≥ b.size then .ok e
    else do
      let (tag, j) ← readVarint b i .cut
      match tag with
      | 1 =>
        let (s, k) ← readBytes b j
        decodeFields b k { e with comparer := s } fuel
      | 2 =>
        let (n, k) ← readField b j
        decodeFields b k { e with logNum := n } fuel
      | 3 =>
        let (n, k) ← readField b j
        decodeFields b k { e with nextFile := n } fuel
      | 4 =>
        let (n, k) ← readField b j
        decodeFields b k { e with lastSeq := n } fuel
      | 5 =>
        let (level, k) ← readField b j
        if level ≥ 7 then throw (.refused corruptManifest)
        let (_, k) ← readBytes b k
        decodeFields b k e fuel
      | 9 =>
        let (n, k) ← readField b j
        decodeFields b k { e with prevLog := n } fuel
      | 6 =>
        let (level, k) ← readLevel b j
        let (num, k) ← readField b k
        decodeFields b k { e with removed := e.removed ++ [(level, num)] } fuel
      | 7 | 100 | 102 | 103 | 104 =>
        let (f, k) ← readAddedFile b tag j
        decodeFields b k { e with added := e.added ++ [f] } fuel
      | 105 =>
        let (_, k) ← readField b j
        let (_, k) ← readField b k
        decodeFields b k e fuel
      | 106 =>
        let (_, k) ← readField b j
        decodeFields b k e fuel
      | 200 | 201 | 202 | 203 => throw (.refused "column families are not supported")
      | _ => throw (.refused corruptManifest)

/-- Reads an edit. -/
def VersionEdit.decode? (b : ByteArray) : Except EditError VersionEdit :=
  decodeFields b 0 {} (b.size + 1)

/-- What the edits of a manifest give: the comparer named, the oldest log to replay, the next
file number (one until an edit sets it), the next sequence number (zero for those no edit set),
the table files live, the numbers of all files ever added, and the files removed from a level
they were not live in. -/
structure Manifest where
  comparer : ByteArray := ByteArray.empty
  logNum : Nat := 0
  nextFile : Nat := 1
  nextSeq : Nat := 0
  files : List TableFile := []
  everAdded : List Nat := []
  removedElsewhere : List (Nat × Nat) := []

/-- The first sequence number a database hands out; the ones below are reserved. -/
def firstSeqNum : Nat := 10

/-- A file number as names spell it: at least six digits. -/
def fileNumText (n : Nat) : String :=
  let ds := toString n
  String.ofList (List.replicate (6 - ds.length) '0') ++ ds

/-- The message of a file removed before it was added. -/
def removedEarly (level num : Nat) : String :=
  "pebble: file deleted L" ++ toString level ++ "." ++ fileNumText num ++ " before it was inserted"

/-- The files after one removal, or why it is refused. -/
def Manifest.remove (m : Manifest) (r : Nat × Nat) : Except String Manifest :=
  if !m.everAdded.contains r.2 then .error (removedEarly r.1 r.2)
  else if m.files.any (fun f => f.level = r.1 && f.num = r.2) then
    .ok { m with files := m.files.filter fun f => !(f.level = r.1 && f.num = r.2) }
  else .ok { m with removedElsewhere := m.removedElsewhere ++ [r] }

/-- The files after one addition, or why it is refused. -/
def Manifest.add (m : Manifest) (f : TableFile) : Except String Manifest :=
  if m.removedElsewhere.contains (f.level, f.num) then .error (removedEarly f.level f.num)
  else .ok { m with files := (m.files.filter fun g => !(g.level = f.level && g.num = f.num)) ++ [f],
                    everAdded := m.everAdded ++ [f.num] }

/-- The state after one more edit, or why it is refused. -/
def Manifest.apply (m : Manifest) (e : VersionEdit) : Except String Manifest := do
  let m ← e.removed.foldlM Manifest.remove m
  let m ← e.added.foldlM Manifest.add m
  return { m with
    comparer := if e.comparer.isEmpty then m.comparer else e.comparer
    logNum := if e.logNum = 0 then m.logNum else e.logNum
    nextFile := if e.nextFile = 0 then m.nextFile else e.nextFile
    nextSeq := if e.lastSeq = 0 then m.nextSeq else max (e.lastSeq + 1) firstSeqNum }

/-- Why a manifest is refused: an edit names another comparer, or does not read. -/
inductive ManifestError where
  | comparer (found : ByteArray)
  | refused (message : String)

/-- Folds the edits of the records from a reader into `m`; an edit that names a comparer other
than `comparer` is refused. -/
def Manifest.loadFrom (comparer : ByteArray) (m : Manifest) :
    ChunkReader → Nat → Except ManifestError Manifest
  | _, 0 => .ok m
  | r, fuel + 1 =>
    match r.next with
    | .error _ => .ok m
    | .ok (record, r) =>
      match VersionEdit.decode? record with
      | .error .cut => .ok m
      | .error (.refused why) => .error (.refused why)
      | .ok e =>
        if !e.comparer.isEmpty && e.comparer != comparer then .error (.comparer e.comparer)
        else
          match m.apply e with
          | .ok m => Manifest.loadFrom comparer m r fuel
          | .error why => .error (.refused why)

/-- The state the edits of a manifest file give, or the reason it is refused. -/
def Manifest.load (comparer : ByteArray) (file : ByteArray) : Except ManifestError Manifest :=
  Manifest.loadFrom comparer {} { file, logNum := 0 } (file.size + 1)

end LogStore.Snapshot
