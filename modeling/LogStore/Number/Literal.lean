import LogStore.Number.Binary

/-!
# Floating-point literals

A floating-point literal is read exactly, then rounded into a binary format. The syntax is the
usual programming one:

* an optional sign, then decimal digits with at most one point and an optional exponent
  `e`/`E` with its own optional sign; or, after `0x`/`0X`, hexadecimal digits with at most one
  point and a binary exponent `p`/`P` that may not be left out;
* at least one digit in the digits, and at least one digit right after the exponent mark and
  its sign;
* underscores anywhere among the digits, as long as each stands between two digits (a base
  prefix counting as a digit);
* `inf` and `infinity` with an optional sign, and `nan`, in any case.

Exponents are read up to five digits; a larger one means the same, a number far beyond every
format (zero or infinity once rounded).

* `Literal.read? s` is the value of the whole text `s`, if it is a literal.
* `BinaryFormat.valueOf f l` is the value nearest to it in the format `f`.
-/

namespace LogStore.Number

/-- An exactly read literal: not a number, an infinity, or a signed fraction. -/
inductive Literal where
  | nan
  | infinite (negative : Bool)
  | exact (negative : Bool) (num den : Nat)
  deriving Inhabited

/-- A literal that is one of the special words, with its optional sign (none for `nan`). -/
def specialLiteral? (cs : List Char) : Option Literal :=
  let (negative, signed, rest) : Bool × Bool × List Char := match cs with
    | '+' :: r => (false, true, r)
    | '-' :: r => (true, true, r)
    | r => (false, false, r)
  let word := String.ofList (rest.map Char.toLower)
  if word = "inf" || word = "infinity" then some (.infinite negative)
  else if !signed && word = "nan" then some .nan
  else none

/-- The value of a digit in base 16 or 10. -/
def digitValue? (hex : Bool) (c : Char) : Option Nat :=
  if c.isDigit then some (c.toNat - 48)
  else if hex && 'a' ≤ c.toLower && c.toLower ≤ 'f' then some (c.toLower.toNat - 87)
  else none

/-- Whether every underscore of a literal stands between two digits, a base prefix counting as
a digit. `saw` is what came last: `'^'` the start, `'0'` a digit, `'_'` an underscore and `'!'`
anything else. -/
def underscoresBetweenDigits (hex : Bool) : List Char → Char → Bool
  | [], saw => saw ≠ '_'
  | c :: rest, saw =>
    if (digitValue? hex c).isSome then underscoresBetweenDigits hex rest '0'
    else if c = '_' then saw = '0' && underscoresBetweenDigits hex rest '_'
    else saw ≠ '_' && underscoresBetweenDigits hex rest '!'

/-- Whether the underscores of a literal are placed well: after its sign, a base prefix counts
as a digit. -/
def underscoresOk (cs : List Char) : Bool :=
  let cs := match cs with
    | '+' :: r => r
    | '-' :: r => r
    | r => r
  match cs with
  | '0' :: x :: rest =>
    if x.toLower = 'x' || x.toLower = 'b' || x.toLower = 'o' then
      underscoresBetweenDigits (x.toLower = 'x') rest '0'
    else underscoresBetweenDigits false cs '^'
  | _ => underscoresBetweenDigits false cs '^'

/-- The value of an exponent's digits, read up to five digits. -/
def exponentValue (ds : List Nat) : Nat :=
  ds.foldl (fun e d => if e < 10000 then e * 10 + d else e) 0

/-- The exponent part of a literal: the mark, an optional sign, a digit and then digits and
underscores to the end. -/
def readExponent? (mark : Char) : List Char → Option Int
  | c :: rest =>
    if c.toLower ≠ mark then none
    else
      let (negative, rest) : Bool × List Char := match rest with
        | '+' :: r => (false, r)
        | '-' :: r => (true, r)
        | r => (false, r)
      match rest with
      | d :: _ =>
        if d.isDigit && rest.all (fun c => c.isDigit || c = '_') then
          let e := exponentValue ((rest.filter Char.isDigit).map (·.toNat - 48))
          some (if negative then -(e : Int) else e)
        else none
      | [] => none
  | [] => none

/-- The fraction `m · base ^ e` (the base being 10 or 2), as numerator and denominator; a
magnitude far beyond every format is cut to a value just as far, so the numbers stay small. -/
def scaledFraction (m base : Nat) (e : Int) : Nat × Nat :=
  let size : Int := (Nat.toDigits base m).length
  let e := if m = 0 then 0 else if e + size > 1200 then 1200 - size else if e + size < -1200 then -1200 - size else e
  if e ≥ 0 then (m * Nat.pow base e.toNat, 1) else (m, Nat.pow base (-e).toNat)

/-- Reads a whole text as a literal. -/
def Literal.read? (s : String) : Option Literal :=
  let cs := s.toList
  match specialLiteral? cs with
  | some l => some l
  | none =>
    let (negative, body) : Bool × List Char := match cs with
      | '+' :: r => (false, r)
      | '-' :: r => (true, r)
      | r => (false, r)
    let (hex, body) : Bool × List Char := match body with
      | '0' :: x :: rest => if x.toLower = 'x' && !rest.isEmpty then (true, rest) else (false, body)
      | _ => (false, body)
    let mantissa := body.takeWhile fun c => (digitValue? hex c).isSome || c = '_' || c = '.'
    let rest := body.drop mantissa.length
    let whole := mantissa.takeWhile (· ≠ '.')
    let fraction := (mantissa.drop (whole.length + 1)).filter (· ≠ '_')
    let whole := whole.filter (· ≠ '_')
    let digits := (whole ++ fraction).filterMap (digitValue? hex)
    let exponent : Option Int :=
      if rest.isEmpty && !hex then some 0 else readExponent? (if hex then 'p' else 'e') rest
    if digits.isEmpty || fraction.contains '.' || !underscoresOk cs then none
    else
      match exponent with
      | none => none
      | some e =>
        let base := if hex then 16 else 10
        let m := digits.foldl (fun acc d => acc * base + d) 0
        let (num, den) := if hex then scaledFraction m 2 (e - 4 * fraction.length)
          else scaledFraction m 10 (e - fraction.length)
        some (.exact negative num den)

/-- The value of a literal in a format, rounded to nearest. -/
def BinaryFormat.valueOf (f : BinaryFormat) : Literal → BinaryValue
  | .nan => .nan
  | .infinite negative => .number negative f.infinity
  | .exact negative num den => .number negative (f.magnitudeOf num den)

end LogStore.Number
