import LogStore.Bytes.Varint
import LogStore.Bytes.Word
import LogStore.KeyDir

/-!
# Write batches

A batch is what one commit writes to a database's log: a twelve-byte header (the sequence
number of its first change, eight bytes, and the number of changes, four bytes, little endian)
and then the changes, each a kind byte and a key, and for the kinds that carry one a value;
key and value are each a varint length and the bytes.

Replaying a batch applies its changes in order to the table: a set binds the key, the deletions
remove it, a merge appends its value to the key's value, and a range deletion removes the keys
from the key up to (not including) its value. Log data is no change and has no sequence number;
range keys do not touch the table. A batch that does not read as changes, or whose count is not
the number of changes, is refused with the reason.

* `Batch.encodeSets seqNum bindings` is a batch of sets.
* `Batch.header?` reads the header; `Batch.changes?` reads the changes with their sequence
  numbers, and `Change.applyTo` applies one to a table.
-/

namespace LogStore.Snapshot

/-- A batch as stored: its first sequence number, its count of changes and its changes. -/
structure Batch where
  seqNum : Nat
  count : Nat
  body : ByteArray

/-- The size of a batch header. -/
def batchHeader : Nat := 12

/-- The kind byte of a set. -/
def setKind : Nat := 1

/-- Bytes preceded by their varint length. -/
def lengthPrefixed (b : ByteArray) : ByteArray :=
  Bytes.uvarint b.size ++ b

/-- The bytes of a batch of sets, in the order given. -/
def Batch.encodeSets (seqNum : Nat) (bindings : List (ByteArray × ByteArray)) : ByteArray :=
  bindings.foldl (fun acc p => acc ++ ByteArray.mk #[setKind.toUInt8] ++ lengthPrefixed p.1 ++
    lengthPrefixed p.2) (Bytes.leBytes seqNum 8 ++ Bytes.leBytes bindings.length 4)

/-- Reads the header of a batch, if it is long enough to have one. -/
def Batch.header? (b : ByteArray) : Option Batch :=
  if b.size < batchHeader then none
  else some ⟨Bytes.readLE b 0 8, Bytes.readLE b 8 4, b.extract batchHeader b.size⟩

/-- The name of a change kind in messages. -/
def kindName (kind : Nat) : String :=
  match kind with
  | 0 => "DEL" | 1 => "SET" | 2 => "MERGE" | 3 => "LOGDATA" | 7 => "SINGLEDEL"
  | 15 => "RANGEDEL" | 18 => "SETWITHDEL" | 19 => "RANGEKEYDEL" | 20 => "RANGEKEYUNSET"
  | 21 => "RANGEKEYSET" | 22 => "INGESTSST" | 23 => "DELSIZED"
  | k => "UNKNOWN:" ++ toString k

/-- Whether changes of a kind carry a value. -/
def carriesValue (kind : Nat) : Bool :=
  [1, 2, 15, 19, 20, 21, 23].contains kind

/-- The largest kind a change may have. -/
def maxKind : Nat := 23

/-- Reads a length-prefixed string at `i`, giving it and the position after it. -/
def readString? (b : ByteArray) (i : Nat) : Option (ByteArray × Nat) := do
  let (n, j) ← Bytes.readUvarint? b i
  if j + n > b.size then none else some (b.extract j (j + n), j + n)

/-- A change of a batch. -/
structure Change where
  kind : Nat
  key : ByteArray
  value : ByteArray := ByteArray.empty

/-- Lowercase hexadecimal digits of a number. -/
def hexDigits (n : Nat) : String :=
  String.ofList (Nat.toDigits 16 n)

/-- The changes of a batch body from `i` on, after `acc` (last first). -/
def readChanges (b : ByteArray) (i : Nat) (acc : List Change) : Nat → Except String (List Change)
  | 0 => .ok acc.reverse
  | fuel + 1 =>
    if i ≥ b.size then .ok acc.reverse
    else
      let kind := Bytes.byteAt b i
      if kind > maxKind then
        .error ("invalid key kind 0x" ++ hexDigits kind ++ ": pebble: invalid batch")
      else
        match readString? b (i + 1) with
        | none => .error "decoding user key: pebble: invalid batch"
        | some (key, j) =>
          if carriesValue kind then
            match readString? b j with
            | none => .error ("decoding " ++ kindName kind ++ " value: pebble: invalid batch")
            | some (value, k) => readChanges b k ({ kind, key, value } :: acc) fuel
          else readChanges b j ({ kind, key } :: acc) fuel

/-- A table with one change applied. -/
def Change.applyTo (t : KeyDir) (c : Change) : KeyDir :=
  match c.kind with
  | 1 | 18 => t.insert c.key c.value
  | 0 | 7 | 23 => t.erase c.key
  | 2 => t.insert c.key ((t.get? c.key).getD ByteArray.empty ++ c.value)
  | 15 => ⟨t.bindings.filter fun p =>
      compareBytes p.1 c.key = .lt || compareBytes p.1 c.value ≠ .lt⟩
  | _ => t

/-- The changes of a batch, each with its sequence number: the batch's own for the first, one
more for each after it, none for log data, which changes no key. A batch whose changes do not
read, or number other than its count, is refused. -/
def Batch.changes? (b : Batch) : Except String (List (Nat × Change)) := do
  let changes ← readChanges b.body 0 [] (b.body.size + 1)
  let numbered := changes.filter (·.kind ≠ 3)
  if numbered.length ≠ b.count then
    throw ("pebble: inconsistent batch count: " ++ toString (b.seqNum + numbered.length) ++
      " vs " ++ toString (b.seqNum + b.count))
  return numbered.zipIdx.map fun (c, i) => (b.seqNum + i, c)

end LogStore.Snapshot
