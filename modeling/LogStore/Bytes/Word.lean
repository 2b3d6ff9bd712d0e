/-!
# Fixed-width little-endian numbers in byte strings

Length fields, checksums and integer cells are stored little endian: the low byte first.
Reading past the end of a byte string gives zero bytes, so every reader here is total; callers
check the length first wherever a short buffer matters.

* `byteAt` reads one byte as a number; `readLE b i w` reads `w` bytes from `i`.
* `pushLE b n w` appends the low `w` bytes of `n`; `leBytes n w` is the same on an empty string.
-/

namespace LogStore.Bytes

/-- The byte at `i` as a number, zero past the end. -/
def byteAt (b : ByteArray) (i : Nat) : Nat :=
  if h : i < b.size then b[i].toNat else 0

/-- The `w`-byte little-endian number stored at `i`. -/
def readLE (b : ByteArray) (i : Nat) : Nat → Nat
  | 0 => 0
  | w + 1 => byteAt b i + 256 * readLE b (i + 1) w

/-- Appends the low `w` bytes of `n`, low byte first. -/
def pushLE (b : ByteArray) (n : Nat) : Nat → ByteArray
  | 0 => b
  | w + 1 => pushLE (b.push (n % 256).toUInt8) (n / 256) w

/-- The low `w` bytes of `n`, low byte first. -/
def leBytes (n w : Nat) : ByteArray :=
  pushLE ByteArray.empty n w

/-- Bytes `lo` up to (not including) `hi`, clipped to the string. -/
def slice (b : ByteArray) (lo hi : Nat) : ByteArray :=
  b.extract lo hi

/-- Replaces the bytes from `offset` on by `patch`, growing the string with zero bytes when the
patch starts or ends past its end. -/
def overwrite (b : ByteArray) (offset : Nat) (patch : ByteArray) : ByteArray :=
  let grown := if b.size < offset then b ++ ByteArray.mk (Array.replicate (offset - b.size) 0) else b
  let before := grown.extract 0 offset
  let after := grown.extract (offset + patch.size) grown.size
  before ++ patch ++ after

/-- The first `n` bytes, padded with zero bytes when the string is shorter. -/
def resize (b : ByteArray) (n : Nat) : ByteArray :=
  if n ≤ b.size then b.extract 0 n
  else b ++ ByteArray.mk (Array.replicate (n - b.size) 0)

end LogStore.Bytes
