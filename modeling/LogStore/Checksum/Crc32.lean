/-!
# CRC-32 (IEEE)

The checksum of every record: the reflected polynomial `0xEDB88320`, register started and
finished inverted. `update` continues a checksum over more bytes, so checksumming a string in
pieces gives the checksum of the whole.

* `step` is one bit of the register, `tableEntry n` eight steps from the byte `n`.
* `update c b` runs the table over `b` starting from the checksum `c`; `checksum b = update 0 b`.
-/

namespace LogStore.Checksum

/-- One bit of the reflected register. -/
def step (c : UInt32) : UInt32 :=
  if c &&& 1 = 1 then (0xEDB88320 : UInt32) ^^^ (c >>> 1) else c >>> 1

/-- The register after eight bit steps from the byte `n`. -/
def tableEntry (n : Nat) : UInt32 :=
  Nat.repeat step 8 n.toUInt32

/-- The 256 byte steps. -/
def table : Array UInt32 :=
  (Array.range 256).map tableEntry

/-- One byte into the (inverted) register. -/
def feed (c : UInt32) (x : UInt8) : UInt32 :=
  table.getD ((c ^^^ x.toUInt32) &&& 0xFF).toNat 0 ^^^ (c >>> 8)

/-- The checksum `c` continued over the bytes of `b`. -/
def update (c : UInt32) (b : ByteArray) : UInt32 :=
  ~~~ (b.foldl feed (~~~ c))

/-- The CRC-32 of `b`. -/
def checksum (b : ByteArray) : UInt32 :=
  update 0 b

end LogStore.Checksum
