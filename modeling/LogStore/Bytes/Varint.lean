/-!
# Variable-length integers

A natural number is written in groups of seven bits, the lowest group first; every byte but the
last has its top bit set. Small numbers take one byte, and a reader knows where the number ends
without a length.

* `uvarint n` is the bytes of `n`.
* `readUvarint? b i` reads the number that starts at `i`, giving it and the position after it;
  it fails when the bytes end first or the number runs past ten bytes.
-/

namespace LogStore.Bytes

/-- The variable-length bytes of `n`. -/
def uvarint (n : Nat) : ByteArray :=
  let rec go (acc : ByteArray) (n : Nat) : Nat → ByteArray
    | 0 => acc.push n.toUInt8
    | fuel + 1 => if n < 128 then acc.push n.toUInt8 else go (acc.push (n % 128 + 128).toUInt8) (n / 128) fuel
  go ByteArray.empty n n

/-- The number that starts at `i`, read from at most `room` bytes, with `shift` bits already
read into `acc`, and the position after it. -/
def readUvarintFrom (b : ByteArray) (acc shift : Nat) : Nat → Nat → Option (Nat × Nat)
  | _, 0 => none
  | i, room + 1 =>
    if h : i < b.size then
      let x := b[i].toNat
      let acc := acc + (x % 128) * Nat.pow 2 shift
      if x < 128 then some (acc, i + 1) else readUvarintFrom b acc (shift + 7) (i + 1) room
    else none

/-- The number that starts at `i` and the position after it. -/
def readUvarint? (b : ByteArray) (i : Nat) : Option (Nat × Nat) :=
  readUvarintFrom b 0 0 i 10

end LogStore.Bytes
