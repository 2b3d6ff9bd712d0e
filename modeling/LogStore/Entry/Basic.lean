import LogStore.Failure

/-!
# Entries

An entry is one change to the map: a key with its new value, or a tombstone that removes the
key. A tombstone carries no value; whatever its `value` field holds is ignored everywhere.
Keys are at most 1 KiB and live values at most 1 MiB.

* `Entry.validate` refuses an entry over the limits, the key checked first.
* `Entry.payloadValue` is the value a record stores (empty for a tombstone), and
  `Entry.encodedSize` the record's length: 13 header bytes, the key and that value.
* `Entry.same` is equality of what an entry means: same flag, same key, and for live entries
  the same value.
-/

namespace LogStore

/-- The largest key, in bytes. -/
def maxKeySize : Nat := 1024

/-- The largest live value, in bytes. -/
def maxValueSize : Nat := 1048576

/-- The length of a record header: checksum, key length, value length, flag. -/
def headerSize : Nat := 13

/-- One change to the map. -/
structure Entry where
  key : ByteArray
  value : ByteArray
  deleted : Bool

namespace Entry

/-- A live entry setting `key` to `value`. -/
def live (key value : ByteArray) : Entry := ⟨key, value, false⟩

/-- A tombstone removing `key`. -/
def tombstone (key : ByteArray) : Entry := ⟨key, ByteArray.empty, true⟩

/-- The value a record stores: the value of a live entry, nothing for a tombstone. -/
def payloadValue (e : Entry) : ByteArray :=
  if e.deleted then ByteArray.empty else e.value

/-- The length of the entry's record. -/
def encodedSize (e : Entry) : Nat :=
  headerSize + e.key.size + e.payloadValue.size

/-- Refuses a key over 1 KiB, then a live value over 1 MiB. -/
def validate (e : Entry) : Except Failure Unit :=
  if e.key.size > maxKeySize then
    .error (.keyTooLarge (toString e.key.size ++ " > " ++ toString maxKeySize))
  else if !e.deleted && e.value.size > maxValueSize then
    .error (.valueTooLarge (toString e.value.size ++ " > " ++ toString maxValueSize))
  else .ok ()

/-- Equality of meaning: flag and key equal, and values equal unless both are tombstones. -/
def same (a b : Entry) : Bool :=
  a.deleted == b.deleted && a.key == b.key && (a.deleted || a.value == b.value)

/-- `same` extended to absent entries: two absent entries are the same, an absent and a present
one are not. -/
def sameOpt : Option Entry → Option Entry → Bool
  | none, none => true
  | some a, some b => same a b
  | _, _ => false

end Entry

end LogStore
