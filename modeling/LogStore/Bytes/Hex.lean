/-!
# Hexadecimal text of bytes

Every byte is written as two lowercase hexadecimal digits, high nibble first. Reading accepts
either case and refuses an odd number of digits or any other character.

* `toHex` writes, `ofHex?` reads back; `ofHexChars` is the reader over a character list, with
  the bytes read so far as an accumulator.
* `replicate` repeats a byte string, which inputs use to describe long values compactly.
-/

namespace LogStore.Bytes

/-- The lowercase hexadecimal digit of a value below 16. -/
def hexDigit (n : Nat) : Char :=
  if n < 10 then Char.ofNat (n + 48) else Char.ofNat (n + 87)

/-- Appends the two digits of one byte. -/
def pushHexByte (s : String) (x : UInt8) : String :=
  (s.push (hexDigit (x.toNat / 16))).push (hexDigit (x.toNat % 16))

/-- Two lowercase digits per byte, high nibble first. -/
def toHex (b : ByteArray) : String :=
  b.foldl pushHexByte ""

/-- The value of one hexadecimal digit of either case. -/
def hexValue? (c : Char) : Option Nat :=
  if '0' ≤ c ∧ c ≤ '9' then some (c.toNat - 48)
  else if 'a' ≤ c ∧ c ≤ 'f' then some (c.toNat - 87)
  else if 'A' ≤ c ∧ c ≤ 'F' then some (c.toNat - 55)
  else none

/-- Reads digit pairs onto `acc`; an odd digit count or a non-digit gives `none`. -/
def ofHexChars : List Char → ByteArray → Option ByteArray
  | [], acc => some acc
  | [_], _ => none
  | hi :: lo :: rest, acc =>
    match hexValue? hi, hexValue? lo with
    | some h, some l => ofHexChars rest (acc.push (h * 16 + l).toUInt8)
    | _, _ => none

/-- The bytes written by a string of hexadecimal digit pairs. -/
def ofHex? (s : String) : Option ByteArray :=
  ofHexChars s.toList ByteArray.empty

/-- `b` written `n` times in a row. -/
def replicate (b : ByteArray) (n : Nat) : ByteArray :=
  Nat.fold n (fun _ _ acc => acc ++ b) ByteArray.empty

end LogStore.Bytes
