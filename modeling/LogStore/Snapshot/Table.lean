import LogStore.Bytes.Varint
import LogStore.Bytes.Word
import LogStore.Checksum.Castagnoli
import LogStore.Compress.Snappy
import LogStore.Snapshot.Batch

/-!
# Sorted tables

When a database flushes or compacts, it writes a sorted table file. The file is a run of
blocks, and at its end a footer of 53 bytes: the checksum kind (1, CRC-32C), the handles of the
metaindex and index blocks (each an offset and a size, as varints), padding, the format version
(four bytes) and an eight-byte magic number.

A block holds entries, then the offsets of its restart points (four bytes each) and their
number (four bytes, at least one). An entry is three varints (how many bytes its key shares
with the key before, how many it adds, the length of its value), the added key bytes and the
value. After each block comes a five-byte trailer: the compression (0 for none, 1 for Snappy)
and the masked CRC-32C of the block and that byte.

The index block maps a key past each data block to the data block's handle; the metaindex names
the other blocks, among them the range deletions (`rocksdb.range_del2`). A key in a data or
range-deletion block is the user key followed by eight bytes holding the kind in the low byte
and the sequence number above it; a range deletion's value is the key its range ends before.

* `openTable num file` reads what a table says of itself: where its index and range
  deletions are.
* `OpenTable.changes? t num file` is the changes the table holds with their sequence numbers,
  or why they cannot be read.
-/

namespace LogStore.Snapshot

/-- Where a block lies in a table file: its offset and size, trailer not included. -/
structure BlockHandle where
  offset : Nat
  size : Nat

/-- Reads a block handle at `i`, giving the position after it. -/
def BlockHandle.read? (b : ByteArray) (i : Nat) : Option (BlockHandle × Nat) := do
  let (offset, j) ← Bytes.readUvarint? b i
  let (size, k) ← Bytes.readUvarint? b j
  return (⟨offset, size⟩, k)

/-- The size of the footer. -/
def footerSize : Nat := 53

/-- The size of the shortest footer a table may have. -/
def shortestFooter : Nat := 48

/-- The magic number of tables in the common format. -/
def commonMagic : ByteArray := ⟨#[0xf7, 0xcf, 0xf4, 0x85, 0xb7, 0x41, 0xe2, 0x88]⟩

/-- The magic number of tables in the newer formats. -/
def newerMagic : ByteArray := ⟨#[0xf0, 0x9f, 0xaa, 0xb3, 0xf0, 0x9f, 0xaa, 0xb3]⟩

/-- The magic number of tables in the oldest format. -/
def oldestMagic : ByteArray := ⟨#[0x57, 0xfb, 0x80, 0x8b, 0x24, 0x75, 0x47, 0xdb]⟩

/-- The message of a table that cannot be read. -/
def invalidTable (why : String) : String :=
  "pebble/table: invalid table (" ++ why ++ ")"

/-- Eight bytes as a hexadecimal number, the first byte first. -/
def magicText (b : ByteArray) : String :=
  "0x" ++ String.join (b.toList.map fun x =>
    let s := String.ofList (Nat.toDigits 16 x.toNat)
    if s.length < 2 then "0" ++ s else s)

/-- The metaindex and index handles of a table's footer, or why the footer is refused. -/
def readFooter (file : ByteArray) : Except String (BlockHandle × BlockHandle) := do
  let size := file.size
  if size < shortestFooter then throw (invalidTable "file size is too small")
  let tail := file.extract (size - min size footerSize) size
  let magic := tail.extract (tail.size - 8) tail.size
  let body ←
    if magic == oldestMagic then pure (tail.extract (tail.size - shortestFooter) tail.size)
    else if magic == commonMagic || magic == newerMagic then do
      if tail.size < footerSize then
        throw ("pebble/table: invalid table (footer too short): " ++ toString tail.size)
      let version := Bytes.readLE tail (footerSize - 12) 4
      if magic == commonMagic && version ≠ 2 then
        throw ("pebble/table: unsupported rocksdb format version " ++ toString version)
      if magic == newerMagic && (version < 1 || version > 4) then
        throw ("pebble/table: unsupported pebble format version " ++ toString version)
      let kind := Bytes.byteAt tail 0
      if kind ≠ 1 then throw ("pebble/table: unsupported checksum type " ++ toString kind)
      pure (tail.extract 1 tail.size)
    else throw (invalidTable ("bad magic number: " ++ magicText magic))
  let some (metaH, i) := BlockHandle.read? body 0
    | throw (invalidTable "bad metaindex block handle")
  if metaH.offset + metaH.size > size then throw (invalidTable "bad metaindex block handle")
  let some (index, _) := BlockHandle.read? body i
    | throw (invalidTable "bad index block handle")
  if index.offset + index.size > size then throw (invalidTable "bad index block handle")
  return (metaH, index)

/-- The bytes of a block, checked against its checksum and decompressed. -/
def readBlock (num : String) (file : ByteArray) (h : BlockHandle) : Except String ByteArray := do
  if h.offset + h.size + 5 > file.size then
    throw ("pebble/table: invalid table " ++ num ++ " (block extends past the file)")
  let covered := file.extract h.offset (h.offset + h.size + 1)
  let stored := Bytes.readLE file (h.offset + h.size + 1) 4
  if (Checksum.maskedCastagnoli covered).toNat ≠ stored then
    throw ("pebble/table: invalid table " ++ num ++ " (checksum mismatch at " ++
      toString h.offset ++ "/" ++ toString h.size ++ ")")
  let body := file.extract h.offset (h.offset + h.size)
  match Bytes.byteAt file (h.offset + h.size) with
  | 0 => return body
  | 1 =>
    match Compress.snappyDecode? body with
    | some b => return b
    | none => throw "snappy: corrupt input"
  | k => throw ("pebble/table: unknown block compression: " ++ toString k)

/-- The entries of a block from `i` up to `stop`, after the key `prev`, the last entry first in
`acc`. -/
def blockEntriesFrom (b : ByteArray) (stop : Nat) (prev : ByteArray)
    (acc : List (ByteArray × ByteArray)) (i : Nat) : Nat → Option (List (ByteArray × ByteArray))
  | 0 => none
  | fuel + 1 =>
    if i ≥ stop then some acc.reverse
    else do
      let (shared, j) ← Bytes.readUvarint? b i
      let (added, k) ← Bytes.readUvarint? b j
      let (valueLen, m) ← Bytes.readUvarint? b k
      if shared > prev.size || m + added + valueLen > stop then none
      else
        let key := prev.extract 0 shared ++ b.extract m (m + added)
        let value := b.extract (m + added) (m + added + valueLen)
        blockEntriesFrom b stop key ((key, value) :: acc) (m + added + valueLen) fuel

/-- The entries of a block: its keys spelled out in full, with their values. -/
def blockEntries (num : String) (b : ByteArray) : Except String (List (ByteArray × ByteArray)) :=
  let restarts := Bytes.readLE b (b.size - 4) 4
  if b.size < 4 || restarts = 0 then
    .error (invalidTable "block has no restart points")
  else if 4 * (restarts + 1) > b.size then
    .error ("pebble/table: invalid table " ++ num ++ " (bad restart points)")
  else
    match blockEntriesFrom b (b.size - 4 * (restarts + 1)) ByteArray.empty [] 0 b.size with
    | some es => .ok es
    | none => .error ("pebble/table: invalid table " ++ num ++ " (corrupt block)")

/-- A change stored in a table, from its key (user key and eight trailing bytes) and value. -/
def tableChange (key value : ByteArray) : Nat × Change :=
  if key.size < 8 then (0, { kind := 255, key, value })
  else
    let trailer := Bytes.readLE key (key.size - 8) 8
    (trailer / 256, { kind := trailer % 256, key := key.extract 0 (key.size - 8), value })

/-- The names the metaindex gives the block of range deletions, the newer first. -/
def rangeDelNames : List ByteArray := ["rocksdb.range_del2".toUTF8, "rocksdb.range_del".toUTF8]

/-- The name the metaindex gives the block of table properties. -/
def propertiesName : ByteArray := "rocksdb.properties".toUTF8

/-- The name the metaindex gives the index of value blocks, whose value is no block handle. -/
def valueIndexName : ByteArray := "pebble.value_index".toUTF8

/-- A table file opened: where its index block lies, and the block of its range deletions if it
has one. -/
structure OpenTable where
  index : BlockHandle
  rangeDels : Option BlockHandle

/-- The block handle that is a whole value of an index or metaindex entry. -/
def wholeHandle (v : ByteArray) : Except String BlockHandle :=
  match BlockHandle.read? v 0 with
  | some (h, n) => if n = v.size then .ok h else .error (invalidTable "bad block handle")
  | none => .error (invalidTable "bad block handle")

/-- Opens a table file: reads its footer, its metaindex (stored whole, not compressed) and its
properties block, or says why it cannot. `num` is the file's number as names spell it. -/
def openTable (num : String) (file : ByteArray) : Except String OpenTable := do
  let (metaH, indexH) ← readFooter file
  let metaBlock ← readBlock num file metaH
  if metaBlock.size ≠ metaH.size then
    throw ("pebble/table: unexpected metaindex block size: " ++ toString metaBlock.size ++ " vs " ++
      toString metaH.size)
  let metas ← blockEntries num metaBlock
  let named ← (metas.filter (·.1 != valueIndexName)).mapM fun (k, v) => do
    return (k, ← wholeHandle v)
  if let some (_, h) := named.find? (·.1 == propertiesName) then
    let _ ← readBlock num file h
  let rangeDels := (rangeDelNames.filterMap fun name => (named.find? (·.1 == name)).map (·.2)).head?
  return { index := indexH, rangeDels }

/-- The changes an opened table holds, each with its sequence number: its range deletions, then
the point changes of its data blocks in key order. They are read in that order: the range
deletions, the index, then each data block. -/
def OpenTable.changes? (t : OpenTable) (num : String) (file : ByteArray) :
    Except String (List (Nat × Change)) := do
  let ranges ← match t.rangeDels with
    | none => pure []
    | some h => do
      let entries ← blockEntries num (← readBlock num file h)
      pure (entries.map fun (k, value) => tableChange k value)
  let index ← blockEntries num (← readBlock num file t.index)
  let points ← index.foldlM (fun (acc : List (Nat × Change)) (_, v) => do
    let some (h, _) := BlockHandle.read? v 0
      | throw (invalidTable "bad block handle")
    let entries ← blockEntries num (← readBlock num file h)
    return acc ++ entries.map fun (k, value) => tableChange k value) []
  return ranges ++ points

end LogStore.Snapshot
