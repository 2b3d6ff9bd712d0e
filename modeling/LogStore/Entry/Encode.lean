import LogStore.Entry.Basic
import LogStore.Bytes.Word
import LogStore.Checksum.Crc32

/-!
# Writing records

A record is `[checksum 4][key length 4][value length 4][flag 1][key][value]`, numbers little
endian, flag 0 for a live entry and 1 for a tombstone, the value present only for a live entry.
The checksum is the CRC-32 of everything after it. Writing never fails: an entry over the size
limits is written all the same, and refused only by `Entry.validate`.

* `Entry.body` is the record without its checksum, `Entry.encode` the whole record.
-/

namespace LogStore.Entry

/-- The flag byte: 1 for a tombstone, 0 for a live entry. -/
def flag (e : Entry) : UInt8 :=
  if e.deleted then 1 else 0

/-- Lengths, flag, key and stored value: the checksummed part of the record. -/
def body (e : Entry) : ByteArray :=
  let lengths := Bytes.pushLE (Bytes.leBytes e.key.size 4) e.payloadValue.size 4
  (lengths.push e.flag) ++ e.key ++ e.payloadValue

/-- The record of an entry. -/
def encode (e : Entry) : ByteArray :=
  let b := e.body
  Bytes.leBytes (Checksum.checksum b).toNat 4 ++ b

end LogStore.Entry
