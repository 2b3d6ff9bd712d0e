/-!
# Decimal integers of 64 bits

Typed values and numeric log levels are read as signed 64-bit decimals: an optional `+` or
`-`, then at least one digit and nothing else. Digits are read left to right, and the first
problem decides the error: a non-digit is a syntax error, a value that leaves the 64-bit range
is a range error, whichever comes first.

* `parseDigits` reads the unsigned part with its running value; `parseInt64` adds the sign.
* `parseIntBase0` also reads the base from a prefix (`0b`, `0o`, `0x`, or a bare leading `0` for
  octal) and allows `_` between digits.
* `IntError.text` is the error's wording.
-/

namespace LogStore.Text

/-- Why a decimal was refused. -/
inductive IntError where
  /-- A character that is not a digit, or no digit at all. -/
  | malformed
  /-- A value outside the signed 64-bit range. -/
  | outOfRange
  deriving DecidableEq, Repr

/-- The wording of a refused decimal. -/
def IntError.text : IntError → String
  | .malformed => "invalid syntax"
  | .outOfRange => "value out of range"

/-- The unsigned value of a string of digit bytes, at most `2 ^ 64 - 1`, read from the left
onto `acc`. -/
def parseDigits : List UInt8 → Nat → Except IntError Nat
  | [], acc => .ok acc
  | c :: rest, acc =>
    if 48 ≤ c.toNat ∧ c.toNat ≤ 57 then
      let next := acc * 10 + (c.toNat - 48)
      if next ≥ Nat.pow 2 64 then .error .outOfRange else parseDigits rest next
    else .error .malformed

/-- Splits off an optional sign byte (`+` or `-`): whether it was `-`, and the bytes after it. -/
def splitSign : List UInt8 → Bool × List UInt8
  | c :: rest => if c = 43 then (false, rest) else if c = 45 then (true, rest) else (false, c :: rest)
  | [] => (false, [])

/-- The digits after a sign as a signed 64-bit value: at least one digit, and the magnitude at
most `2 ^ 63` when `negative`, below it otherwise. -/
def parseSigned (negative : Bool) (digits : List UInt8) : Except IntError Int :=
  if digits.isEmpty then .error .malformed
  else match parseDigits digits 0 with
    | .error e => .error e
    | .ok n =>
      if negative then
        if n > Nat.pow 2 63 then .error .outOfRange else .ok (-(n : Int))
      else if n ≥ Nat.pow 2 63 then .error .outOfRange else .ok n

/-- A signed 64-bit decimal with an optional sign, from its bytes. -/
def parseInt64 (s : ByteArray) : Except IntError Int :=
  let p := splitSign s.data.toList
  parseSigned p.1 p.2

/-- The value of a digit in bases up to 36. -/
def digitValue (c : Char) : Nat :=
  if '0' ≤ c ∧ c ≤ '9' then c.toNat - 48
  else if 'a' ≤ c ∧ c ≤ 'z' then c.toNat - 87
  else if 'A' ≤ c ∧ c ≤ 'Z' then c.toNat - 55
  else 36

/-- The unsigned value of digits in a base, at most `2 ^ 64 - 1`, skipping `_` when
`underscores`; read from the left onto `acc`. -/
def parseDigitsIn (base : Nat) (underscores : Bool) : List Char → Nat → Except IntError Nat
  | [], acc => .ok acc
  | c :: rest, acc =>
    if c = '_' && underscores then parseDigitsIn base underscores rest acc
    else if digitValue c < base then
      let next := acc * base + digitValue c
      if next ≥ Nat.pow 2 64 then .error .outOfRange
      else parseDigitsIn base underscores rest next
    else .error .malformed

/-- Whether the underscores of a number only separate digits (after an optional sign and base
prefix, which counts as a digit). -/
def underscoresOk (cs : List Char) : Bool :=
  let cs := match cs with
    | '+' :: rest | '-' :: rest => rest
    | _ => cs
  let (cs, seen, hex) : List Char × Char × Bool := match cs with
    | '0' :: b :: rest =>
      if b = 'b' || b = 'B' || b = 'o' || b = 'O' then (rest, '0', false)
      else if b = 'x' || b = 'X' then (rest, '0', true)
      else (cs, '^', false)
    | _ => (cs, '^', false)
  let step (seen : Option Char) (c : Char) : Option Char :=
    match seen with
    | none => none
    | some s =>
      if c.isDigit || (hex && digitValue c < 16) then some '0'
      else if c = '_' then (if s = '0' then some '_' else none)
      else if s = '_' then none
      else some '!'
  match cs.foldl step (some seen) with
  | some s => s ≠ '_'
  | none => false

/-- A signed 64-bit integer whose base its prefix gives, with `_` allowed between digits. -/
def parseIntBase0 (s : String) : Except IntError Int :=
  let (negative, body) := match s.toList with
    | '+' :: rest => (false, rest)
    | '-' :: rest => (true, rest)
    | cs => (false, cs)
  if body.isEmpty then .error .malformed
  else
    let (base, digits) : Nat × List Char := match body with
      | '0' :: b :: c :: rest =>
        if b = 'b' || b = 'B' then (2, c :: rest)
        else if b = 'o' || b = 'O' then (8, c :: rest)
        else if b = 'x' || b = 'X' then (16, c :: rest)
        else (8, b :: c :: rest)
      | '0' :: rest => (8, rest)
      | cs => (10, cs)
    match parseDigitsIn base true digits 0 with
    | .error .malformed => .error .malformed
    | .error .outOfRange => .error .outOfRange
    | .ok n =>
      if body.contains '_' && !underscoresOk s.toList then .error .malformed
      else if negative then
        if n > Nat.pow 2 63 then .error .outOfRange else .ok (-(n : Int))
      else if n ≥ Nat.pow 2 63 then .error .outOfRange else .ok n

end LogStore.Text
