/-!
# CRC-32C (Castagnoli)

The checksum of the chunks of an embedded database's logs: the reflected Castagnoli polynomial
`0x82F63B78`, register started and finished inverted. A chunk stores the checksum masked (rotated
right by 15 bits and offset by a constant), so that a checksum of data that itself holds
checksums is not easily confused with one of them.

* `castagnoli b` is the CRC-32C of `b`; `maskedCastagnoli b` its masked form.
-/

namespace LogStore.Checksum

/-- One bit of the reflected register. -/
def castagnoliStep (c : UInt32) : UInt32 :=
  if c &&& 1 = 1 then (0x82F63B78 : UInt32) ^^^ (c >>> 1) else c >>> 1

/-- The 256 byte steps. -/
def castagnoliTable : Array UInt32 :=
  (Array.range 256).map fun n => Nat.repeat castagnoliStep 8 n.toUInt32

/-- The CRC-32C of `b`. -/
def castagnoli (b : ByteArray) : UInt32 :=
  ~~~ (b.foldl (fun c x => castagnoliTable.getD ((c ^^^ x.toUInt32) &&& 0xFF).toNat 0 ^^^ (c >>> 8))
    0xFFFFFFFF)

/-- The masked CRC-32C of `b`: rotated right by 15 bits, plus `0xa282ead8`. -/
def maskedCastagnoli (b : ByteArray) : UInt32 :=
  let c := castagnoli b
  ((c >>> 15) ||| (c <<< 17)) + 0xa282ead8

end LogStore.Checksum
