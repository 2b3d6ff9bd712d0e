/-!
# Base64

The standard base64 alphabet (`A-Z`, `a-z`, `0-9`, `+`, `/`) with `=` padding. Decoding
ignores carriage returns and line feeds wherever they stand. What is left must close its last
group of four: whole groups, the last of which may end in `==` (two characters of data) or
`=` (three). The bits that padding leaves over are not checked.
-/

namespace LogStore.Bytes

/-- The value of a base64 character, if it is one. -/
def base64Value? (c : UInt8) : Option Nat :=
  if 65 ≤ c && c ≤ 90 then some (c.toNat - 65)
  else if 97 ≤ c && c ≤ 122 then some (c.toNat - 97 + 26)
  else if 48 ≤ c && c ≤ 57 then some (c.toNat - 48 + 52)
  else if c = 43 then some 62
  else if c = 47 then some 63
  else none

/-- Takes six more bits, giving out a byte whenever eight are there; the bytes are kept in
reverse, and the bits not yet given out stay below `2 ^ nbits`. -/
def base64Step (st : List UInt8 × Nat × Nat) (v : Nat) : List UInt8 × Nat × Nat :=
  let (out, acc, nbits) := st
  let acc := acc * 64 + v
  let nbits := nbits + 6
  if nbits ≥ 8 then
    (UInt8.ofNat (acc / Nat.pow 2 (nbits - 8)) :: out, acc % Nat.pow 2 (nbits - 8), nbits - 8)
  else (out, acc, nbits)

/-- The bytes a base64 text stands for, or `none` when it is not base64. -/
def base64Decode? (b : ByteArray) : Option ByteArray := do
  let cs := b.toList.filter fun c => c ≠ 13 && c ≠ 10
  let pads := (cs.reverse.takeWhile (· = 61)).length
  guard (pads ≤ 2)
  let body := cs.take (cs.length - pads)
  guard ((body.length + pads) % 4 = 0)
  let values ← body.mapM base64Value?
  let (out, _, _) := values.foldl base64Step ([], 0, 0)
  some ⟨out.reverse.toArray⟩

end LogStore.Bytes
