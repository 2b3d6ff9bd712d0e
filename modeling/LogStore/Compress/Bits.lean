/-!
# Bit streams

A compressed stream is written bit by bit, each byte filled from its least significant bit up.
A prefix code is stored with its bits reversed, so that writing the stored value low bits first
puts the code's first bit first.

* `BitSink.push w v n` appends the `n` low bits of `v`; the whole bytes move out as soon as
  they are complete, so at most seven bits wait in the byte in progress.
* `BitSink.align` pads the byte in progress with zeros; `BitSink.finish` is the bytes of a
  stream after padding.
* `reverseBits code len` reverses the `len` low bits of a code.
-/

namespace LogStore.Compress

/-- A stream of bits being written: the complete bytes, and the `count` bits of the byte in
progress, held as the number `acc` below `2 ^ count`. -/
structure BitSink where
  bytes : ByteArray := ByteArray.empty
  acc : Nat := 0
  count : Nat := 0

/-- Moves `k` complete bytes from the low end of `acc` into `bytes`. -/
def settle (bytes : ByteArray) (acc : Nat) : Nat → ByteArray × Nat
  | 0 => (bytes, acc)
  | k + 1 => settle (bytes.push (acc % 256).toUInt8) (acc / 256) k

/-- Appends the `n` low bits of `v`, lowest first. -/
def BitSink.push (w : BitSink) (v n : Nat) : BitSink :=
  let acc := w.acc + (v % Nat.pow 2 n) * Nat.pow 2 w.count
  let count := w.count + n
  let (bytes, acc) := settle w.bytes acc (count / 8)
  { bytes, acc, count := count % 8 }

/-- Pads the byte in progress with zero bits, completing it. -/
def BitSink.align (w : BitSink) : BitSink :=
  if w.count = 0 then w else { bytes := w.bytes.push w.acc.toUInt8, acc := 0, count := 0 }

/-- The bytes of a finished stream, the last byte padded with zero bits. -/
def BitSink.finish (w : BitSink) : ByteArray :=
  w.align.bytes

/-- The `len` low bits of `code` in reverse order. -/
def reverseBits (code len : Nat) : Nat :=
  (List.range len).foldl (fun acc i => acc * 2 + (code / Nat.pow 2 i) % 2) 0

/-- A prefix code for one symbol: its bits, stored reversed, and its length (zero for a symbol
that has no code). -/
structure Code where
  bits : Nat
  len : Nat
  deriving Inhabited

/-- Appends a code. -/
def BitSink.code (w : BitSink) (c : Code) : BitSink :=
  w.push c.bits c.len

end LogStore.Compress
