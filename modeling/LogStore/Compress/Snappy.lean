import LogStore.Bytes.Varint
import LogStore.Bytes.Word

/-!
# Snappy blocks

A Snappy block is the length of the text it stands for, as a varint, then elements, each
starting with a tag byte whose low two bits give its kind:

* `0`, literal bytes: the count less one is the tag's upper six bits, or, when those are 60 to
  63, the one to four bytes that follow, low byte first;
* `1`, a copy of 4 to 11 bytes (three bits of the tag) from at most 2047 bytes back (the tag's
  top three bits and the next byte);
* `2` and `3`, a copy of 1 to 64 bytes (the tag's upper six bits) from the distance in the next
  two or four bytes.

A copy may overlap what it writes, repeating a short stretch. A block does not decode when an
element runs past its end, a copy reaches before the start or has distance zero, or the text
grows past the stated length or stops short of it.

* `snappyDecode? b` is the text of a block, if it decodes.
-/

namespace LogStore.Compress

/-- The text grown by a copy of `length` bytes from `distance` back, byte by byte. -/
def copyBack (out : ByteArray) (distance : Nat) : Nat → ByteArray
  | 0 => out
  | n + 1 => copyBack (out.push (out.get! (out.size - distance))) distance n

/-- One element at `i`: its length, where its bytes start or how far back it copies, and where
the next element starts. -/
inductive Element where
  | literal (length start next : Nat)
  | copy (length distance next : Nat)

/-- Reads the element at `i`, if it fits in the block. -/
def Element.read? (b : ByteArray) (i : Nat) : Option Element :=
  let tag := Bytes.byteAt b i
  let top := tag / 4
  match tag % 4 with
  | 0 =>
    let extra := if top < 60 then 0 else top - 59
    if i + 1 + extra > b.size then none
    else
      let count := if top < 60 then top else Bytes.readLE b (i + 1) extra
      some (.literal (count + 1) (i + 1 + extra) (i + 1 + extra + count + 1))
  | 1 =>
    if i + 2 > b.size then none
    else some (.copy (4 + top % 8) (tag / 32 * 256 + Bytes.byteAt b (i + 1)) (i + 2))
  | 2 =>
    if i + 3 > b.size then none else some (.copy (top + 1) (Bytes.readLE b (i + 1) 2) (i + 3))
  | _ =>
    if i + 5 > b.size then none else some (.copy (top + 1) (Bytes.readLE b (i + 1) 4) (i + 5))

/-- Decodes the elements from `i` on into `out`, which may grow to `total` bytes. -/
def decodeElements (b : ByteArray) (total : Nat) (out : ByteArray) (i : Nat) :
    Nat → Option ByteArray
  | 0 => none
  | fuel + 1 =>
    if i ≥ b.size then if out.size = total then some out else none
    else
      match Element.read? b i with
      | none => none
      | some (.literal length start next) =>
        if length > total - out.size || next > b.size then none
        else decodeElements b total (out ++ b.extract start next) next fuel
      | some (.copy length distance next) =>
        if distance = 0 || out.size < distance || length > total - out.size then none
        else decodeElements b total (copyBack out distance length) next fuel

/-- The text of a Snappy block, if it decodes. -/
def snappyDecode? (b : ByteArray) : Option ByteArray := do
  let (total, i) ← Bytes.readUvarint? b 0
  decodeElements b total ByteArray.empty i (b.size + 1)

end LogStore.Compress
