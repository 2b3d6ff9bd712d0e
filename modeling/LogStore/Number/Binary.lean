/-!
# Binary floating-point numbers

A binary floating-point format keeps `precision` significant bits and an exponent field of
`width - precision` bits with a bias; its words are handled here as natural numbers, so no
machine float is involved and every value is exact. A real number is stored as the nearest
value of the format, a tie going to the value with an even last bit; a number beyond the
largest finite value becomes infinity. Below the smallest normal exponent the precision shrinks
(subnormal numbers), so every multiple of the smallest step is still exact.

The word of a non-negative number orders like the number: a larger magnitude has a larger word.
So a comparison of two values needs only their signs and magnitude words.

* `BinaryFormat.single`, `BinaryFormat.double` are the 32- and 64-bit formats.
* `BinaryFormat.magnitudeOf f num den` is the magnitude word of the fraction `num / den`.
* `BinaryFormat.word f v` is the whole word of an integer, the sign in the top bit.
* `BinaryValue` is a value as a sign and a magnitude word, or not a number; `BinaryValue.lt`
  compares two of them as numbers, nothing being below or above not-a-number.
-/

namespace LogStore.Number

/-- A binary interchange format: the word width in bits, the significant bits (the leading one
included) and the exponent bias. -/
structure BinaryFormat where
  width : Nat
  precision : Nat
  bias : Nat

/-- The 32-bit format: 24 significant bits, exponents from -126 to 127. -/
def BinaryFormat.single : BinaryFormat := ⟨32, 24, 127⟩

/-- The 64-bit format: 53 significant bits, exponents from -1022 to 1023. -/
def BinaryFormat.double : BinaryFormat := ⟨64, 53, 1023⟩

/-- Rounds `a / b` to the nearest whole number, ties to even. -/
def roundHalfEven (a b : Nat) : Nat :=
  let q := a / b
  let r := a % b
  if 2 * r > b then q + 1 else if 2 * r = b then q + q % 2 else q

/-- Whether `num / den < 2 ^ e`. -/
def belowPower (num den : Nat) (e : Int) : Bool :=
  if e ≥ 0 then num < den * Nat.pow 2 e.toNat else num * Nat.pow 2 (-e).toNat < den

/-- The exponent `e` with `2 ^ e ≤ num / den < 2 ^ (e + 1)`, for positive `num` and `den`:
the difference of the two bit lengths is `e` or one more. -/
def floorLog2 (num den : Nat) : Int :=
  let e : Int := (num.log2 : Int) - den.log2
  if belowPower num den e then e - 1 else e

/-- `num / den` divided by `2 ^ q`, rounded to the nearest whole number, ties to even. -/
def roundScaled (num den : Nat) (q : Int) : Nat :=
  if q ≤ 0 then roundHalfEven (num * Nat.pow 2 (-q).toNat) den
  else roundHalfEven num (den * Nat.pow 2 q.toNat)

/-- The magnitude word of infinity: the exponent field all ones, the fraction zero. -/
def BinaryFormat.infinity (f : BinaryFormat) : Nat :=
  (2 * f.bias + 1) * Nat.pow 2 (f.precision - 1)

/-- The magnitude word of the value nearest to `num / den` (`den` positive). The exponent is
that of the leading bit, but no smaller than the least normal one; the significand is then
rounded to `precision` bits at that exponent, a carry moving to the next exponent. -/
def BinaryFormat.magnitudeOf (f : BinaryFormat) (num den : Nat) : Nat :=
  if num = 0 then 0
  else
    let p := f.precision
    let e := max (floorLog2 num den) (1 - (f.bias : Int))
    let m := roundScaled num den (e - (p - 1 : Nat))
    let (m, e) := if m = Nat.pow 2 p then (Nat.pow 2 (p - 1), e + 1) else (m, e)
    if e > f.bias then f.infinity
    else if m < Nat.pow 2 (p - 1) then m
    else (e + f.bias).toNat * Nat.pow 2 (p - 1) + (m - Nat.pow 2 (p - 1))

/-- The word of an integer: its magnitude's word, with the top bit set for a negative one. -/
def BinaryFormat.word (f : BinaryFormat) (v : Int) : Nat :=
  (if v < 0 then Nat.pow 2 (f.width - 1) else 0) + f.magnitudeOf v.natAbs 1

/-- A floating-point value: not a number, or a sign and a magnitude word. -/
inductive BinaryValue where
  | nan
  | number (negative : Bool) (magnitude : Nat)
  deriving Inhabited

/-- The magnitude word with its sign, ordered as the values are; both zeros are `0`. -/
def signedMagnitude (negative : Bool) (magnitude : Nat) : Int :=
  if negative then -(magnitude : Int) else magnitude

/-- Whether one value is below another; not-a-number is neither below nor above anything. -/
def BinaryValue.lt : BinaryValue → BinaryValue → Bool
  | .number n₁ m₁, .number n₂ m₂ => signedMagnitude n₁ m₁ < signedMagnitude n₂ m₂
  | _, _ => false

end LogStore.Number
