import LogStore.Bytes.Word
import LogStore.Bytes.Hex

/-!
# SHA-256

The digest of FIPS 180-4: the message is padded with a one bit, zero bits and its bit length
as a 64-bit big-endian number up to a multiple of 64 bytes; each 64-byte block extends a
64-word schedule and runs 64 compression rounds over eight 32-bit working words.

* `digest` gives the 32 digest bytes, `hexDigest` their lowercase hexadecimal text.
* `Sha256.compress` is one block; `digest` folds it over the blocks of `pad`.
-/

namespace LogStore.Digest

/-- The eight working words of the compression function. -/
structure Sha256 where
  a : UInt32
  b : UInt32
  c : UInt32
  d : UInt32
  e : UInt32
  f : UInt32
  g : UInt32
  h : UInt32

namespace Sha256

/-- The first 32 bits of the fractional parts of the cube roots of the first 64 primes. -/
def roundConstants : Array UInt32 := #[
  0x428a2f98, 0x71374491, 0xb5c0fbcf, 0xe9b5dba5, 0x3956c25b, 0x59f111f1, 0x923f82a4, 0xab1c5ed5,
  0xd807aa98, 0x12835b01, 0x243185be, 0x550c7dc3, 0x72be5d74, 0x80deb1fe, 0x9bdc06a7, 0xc19bf174,
  0xe49b69c1, 0xefbe4786, 0x0fc19dc6, 0x240ca1cc, 0x2de92c6f, 0x4a7484aa, 0x5cb0a9dc, 0x76f988da,
  0x983e5152, 0xa831c66d, 0xb00327c8, 0xbf597fc7, 0xc6e00bf3, 0xd5a79147, 0x06ca6351, 0x14292967,
  0x27b70a85, 0x2e1b2138, 0x4d2c6dfc, 0x53380d13, 0x650a7354, 0x766a0abb, 0x81c2c92e, 0x92722c85,
  0xa2bfe8a1, 0xa81a664b, 0xc24b8b70, 0xc76c51a3, 0xd192e819, 0xd6990624, 0xf40e3585, 0x106aa070,
  0x19a4c116, 0x1e376c08, 0x2748774c, 0x34b0bcb5, 0x391c0cb3, 0x4ed8aa4a, 0x5b9cca4f, 0x682e6ff3,
  0x748f82ee, 0x78a5636f, 0x84c87814, 0x8cc70208, 0x90befffa, 0xa4506ceb, 0xbef9a3f7, 0xc67178f2]

/-- The first 32 bits of the fractional parts of the square roots of the first 8 primes. -/
def initial : Sha256 :=
  ⟨0x6a09e667, 0xbb67ae85, 0x3c6ef372, 0xa54ff53a, 0x510e527f, 0x9b05688c, 0x1f83d9ab, 0x5be0cd19⟩

/-- Rotation to the right by `n` of 32 bits. -/
def rotr (x n : UInt32) : UInt32 :=
  (x >>> n) ||| (x <<< (32 - n))

/-- The big-endian word at byte offset `i`. -/
def wordAt (b : ByteArray) (i : Nat) : UInt32 :=
  ((Bytes.byteAt b i).toUInt32 <<< 24) ||| ((Bytes.byteAt b (i + 1)).toUInt32 <<< 16) |||
    ((Bytes.byteAt b (i + 2)).toUInt32 <<< 8) ||| (Bytes.byteAt b (i + 3)).toUInt32

/-- The 64-word message schedule of the block at byte offset `off`. -/
def schedule (b : ByteArray) (off : Nat) : Array UInt32 :=
  let first := Nat.fold 16 (fun i _ w => w.push (wordAt b (off + 4 * i))) (Array.mkEmpty 64)
  Nat.fold 48 (fun j _ w =>
    let i := j + 16
    let w15 := w.getD (i - 15) 0
    let w2 := w.getD (i - 2) 0
    let s0 := rotr w15 7 ^^^ rotr w15 18 ^^^ (w15 >>> 3)
    let s1 := rotr w2 17 ^^^ rotr w2 19 ^^^ (w2 >>> 10)
    w.push (w.getD (i - 16) 0 + s0 + w.getD (i - 7) 0 + s1)) first

/-- One compression round with round constant `k` and schedule word `w`. -/
def round (s : Sha256) (k w : UInt32) : Sha256 :=
  let s1 := rotr s.e 6 ^^^ rotr s.e 11 ^^^ rotr s.e 25
  let ch := (s.e &&& s.f) ^^^ ((~~~ s.e) &&& s.g)
  let t1 := s.h + s1 + ch + k + w
  let s0 := rotr s.a 2 ^^^ rotr s.a 13 ^^^ rotr s.a 22
  let maj := (s.a &&& s.b) ^^^ (s.a &&& s.c) ^^^ (s.b &&& s.c)
  let t2 := s0 + maj
  ⟨t1 + t2, s.a, s.b, s.c, s.d + t1, s.e, s.f, s.g⟩

/-- Word-wise sum of two states. -/
def add (x y : Sha256) : Sha256 :=
  ⟨x.a + y.a, x.b + y.b, x.c + y.c, x.d + y.d, x.e + y.e, x.f + y.f, x.g + y.g, x.h + y.h⟩

/-- Compresses the block at byte offset `off` into the state. -/
def compress (s : Sha256) (b : ByteArray) (off : Nat) : Sha256 :=
  let w := schedule b off
  add s (Nat.fold 64 (fun i _ t => round t (roundConstants.getD i 0) (w.getD i 0)) s)

/-- The message, a one bit, zero bits and the 64-bit big-endian bit length, to a multiple of
64 bytes. -/
def pad (m : ByteArray) : ByteArray :=
  let withOne := m.push 0x80
  let zeros := (64 - (withOne.size + 8) % 64) % 64
  let body := withOne ++ ByteArray.mk (Array.replicate zeros 0)
  let bits := 8 * m.size
  Nat.fold 8 (fun i _ acc => acc.push ((bits >>> (8 * (7 - i))) % 256).toUInt8) body

/-- The eight state words, big endian. -/
def toBytes (s : Sha256) : ByteArray :=
  [s.a, s.b, s.c, s.d, s.e, s.f, s.g, s.h].foldl (fun (acc : ByteArray) (x : UInt32) =>
    ((((acc.push (x >>> 24).toUInt8).push (x >>> 16).toUInt8).push (x >>> 8).toUInt8).push
      x.toUInt8)) ByteArray.empty

end Sha256

/-- The SHA-256 digest of `m`. -/
def digest (m : ByteArray) : ByteArray :=
  let p := Sha256.pad m
  (Nat.fold (p.size / 64) (fun i _ s => Sha256.compress s p (64 * i)) Sha256.initial).toBytes

/-- The digest as 64 lowercase hexadecimal digits. -/
def hexDigest (m : ByteArray) : String :=
  Bytes.toHex (digest m)

end LogStore.Digest
