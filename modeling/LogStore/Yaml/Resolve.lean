import LogStore.Yaml.Parser

/-!
# What a scalar means

A plain scalar without a tag means what its text looks like: `null`, `~` or nothing is null;
`true`, `True`, `TRUE` and the three spellings of `false` are booleans; a number in decimal,
`0x`, `0o`, `0b` or leading-`0` octal form (underscores ignored) is an integer; a decimal with a
fraction or exponent, or `.inf`, `-.inf`, `.nan`, is a float (underscores ignored too, and
in one that starts with a period each must stand between two digits); a date `YYYY-M-D`,
optionally with a time, is a timestamp; anything else is a string. Quoted and block scalars
are strings.
An explicit tag asks for a meaning; a text that does not have it is an error (an integer may
stand for a float).

Floats are read exactly and rounded to the nearest double, ties to even; a text beyond the
largest double is not a float at all but a string.

* `resolve tag text` is the resolved tag and value, or the failure to decode.
* `Double.toInt64?` is how a float is stored in a 64-bit integer field: refused when NaN, or
  above `2^63`; otherwise truncated toward zero, where a value outside the range becomes the
  most negative integer, as the processor's conversion does.
-/

namespace LogStore.Yaml

/-- A double-precision binary floating-point number. -/
inductive Double where
  | nan
  | inf (negative : Bool)
  /-- `±mantissa · 2^exponent`. -/
  | finite (negative : Bool) (mantissa : Nat) (exponent : Int)
  deriving Inhabited

/-- What a scalar resolves to. -/
inductive Scalar where
  | null
  | bool (b : Bool)
  /-- An integer that fits in 64 signed bits. -/
  | int (n : Int)
  /-- An integer that fits only in 64 unsigned bits. -/
  | uint (n : Nat)
  | float (d : Double)
  | timestamp
  | merge
  | text (s : String)
  deriving Inhabited

/-- Rounds `a / b` to the nearest whole number, ties to even. -/
def roundHalfEven (a b : Nat) : Nat :=
  let q := a / b
  let r := a % b
  if 2 * r > b then q + 1 else if 2 * r = b then q + q % 2 else q

/-- The double nearest to `±m · 10^e`, or `none` when it is beyond the largest double. -/
def decimalToDouble (negative : Bool) (m : Nat) (e : Int) : Option Double :=
  if m = 0 then some (.finite negative 0 0)
  else
    let d : Int := (toString m).length
    if e + d > 310 then none
    else if e + d < -330 then some (.finite negative 0 0)
    else
      let num := if e ≥ 0 then m * Nat.pow 10 e.toNat else m
      let den := if e ≥ 0 then 1 else Nat.pow 10 (-e).toNat
      -- `k` is the binary exponent: 2^k ≤ num/den < 2^(k+1).
      let k0 : Int := (Nat.log2 num : Int) - (Nat.log2 den : Int)
      let k : Int := if num * (if k0 ≥ 0 then 1 else Nat.pow 2 (-k0).toNat) <
          den * (if k0 ≥ 0 then Nat.pow 2 k0.toNat else 1) then k0 - 1 else k0
      let shift : Int := if k < -1022 then 1074 else 52 - k
      let q := roundHalfEven (num * (if shift ≥ 0 then Nat.pow 2 shift.toNat else 1))
        (den * (if shift ≥ 0 then 1 else Nat.pow 2 (-shift).toNat))
      let (q, shift) := if q = Nat.pow 2 53 then (Nat.pow 2 52, shift - 1) else (q, shift)
      if (Nat.log2 q : Int) - shift > 1023 then none
      else some (.finite negative q (-shift))

/-- The value of a digit in a base, if it is one. -/
def digitIn (base : Nat) (c : Char) : Option Nat :=
  let v := if c.isDigit then c.toNat - 48
    else if 'a' ≤ c && c ≤ 'z' then c.toNat - 87
    else if 'A' ≤ c && c ≤ 'Z' then c.toNat - 55 else 99
  if v < base then some v else none

/-- The number the digits spell in a base. -/
def digitsValue (base : Nat) (cs : List Char) : Option Nat :=
  cs.foldl (fun acc c => acc.bind fun v => (digitIn base c).map fun d => base * v + d) (some 0)

/-- An unsigned integer in base-prefix form: `0x`, `0o`, `0b`, a leading `0` for octal, or
decimal. -/
def unsignedBase0 (cs : List Char) : Option Nat :=
  match cs with
  | [] => none
  | '0' :: b :: rest =>
    if rest.length ≥ 1 && (b = 'b' || b = 'B') then digitsValue 2 rest
    else if rest.length ≥ 1 && (b = 'o' || b = 'O') then digitsValue 8 rest
    else if rest.length ≥ 1 && (b = 'x' || b = 'X') then digitsValue 16 rest
    else digitsValue 8 (b :: rest)
  | ['0'] => some 0
  | _ => digitsValue 10 cs

/-- The 64-bit signed integer a text spells in base-prefix form, with an optional sign. -/
def parseInt64 (s : String) : Option Int :=
  let (neg, cs) := match s.toList with
    | '+' :: rest => (false, rest)
    | '-' :: rest => (true, rest)
    | cs => (false, cs)
  (unsignedBase0 cs).bind fun u =>
    if neg then (if u ≤ Nat.pow 2 63 then some (-(u : Int)) else none)
    else if u < Nat.pow 2 63 then some u else none

/-- The 64-bit unsigned integer a text spells in base-prefix form, without a sign. -/
def parseUint64 (s : String) : Option Nat :=
  (unsignedBase0 s.toList).bind fun u => if u < Nat.pow 2 64 then some u else none

/-- Reads a run of decimal digits. -/
def spanDigits (cs : List Char) : List Char × List Char :=
  (cs.takeWhile Char.isDigit, cs.dropWhile Char.isDigit)

/-- A decimal float `[-+]?(\.[0-9]+|[0-9]+(\.[0-9]*)?)([eE][-+]?[0-9]+)?`: its sign, its digits
as a whole number and the power of ten to scale them by. -/
def floatSyntax? (s : String) : Option (Bool × Nat × Int) :=
  let (neg, cs) := match s.toList with
    | '+' :: rest => (false, rest)
    | '-' :: rest => (true, rest)
    | cs => (false, cs)
  let (whole, rest) := spanDigits cs
  let (frac, rest, ok) := match rest with
    | '.' :: more => let (f, r) := spanDigits more; (f, r, !whole.isEmpty || !f.isEmpty)
    | _ => ([], rest, !whole.isEmpty)
  if !ok then none
  else
    let expPart : Option Int := match rest with
      | [] => some 0
      | e :: more =>
        if e = 'e' || e = 'E' then
          let (eneg, ds) := match more with
            | '+' :: r => (false, r)
            | '-' :: r => (true, r)
            | r => (false, r)
          if !ds.isEmpty && ds.all Char.isDigit then
            (digitsValue 10 ds).map fun v => if eneg then -(v : Int) else v
          else none
        else none
    expPart.bind fun ex =>
      (digitsValue 10 (whole ++ frac)).map fun m => (neg, m, ex - frac.length)

/-- Whether the underscores of a number stand only between digits: each follows a digit and
is followed by one. -/
def underscoresOk (cs : List Char) : Bool :=
  let step (saw : Option Char) (c : Char) : Option Char :=
    saw.bind fun last =>
      if c.isDigit then some '0'
      else if c = '_' then if last = '0' then some '_' else none
      else if last = '_' then none
      else some '!'
  match cs.foldl step (some '^') with
  | some last => last ≠ '_'
  | none => false

/-- A text without its underscores. -/
def withoutUnderscores (s : String) : String :=
  String.ofList (s.toList.filter (· ≠ '_'))

/-- The double a decimal float text denotes, if it is one within range. -/
def parseDouble? (s : String) : Option Double :=
  (floatSyntax? s).bind fun (neg, m, e) => decimalToDouble neg m e

/-- Reads one or two digits. -/
def twoDigits? : List Char → Option (Nat × List Char)
  | a :: b :: rest =>
    if !a.isDigit then none
    else if b.isDigit then some (10 * (a.toNat - 48) + (b.toNat - 48), rest)
    else some (a.toNat - 48, b :: rest)
  | [a] => if a.isDigit then some (a.toNat - 48, []) else none
  | [] => none

/-- Reads exactly two digits. -/
def fixedTwo? : List Char → Option (Nat × List Char)
  | a :: b :: rest => if a.isDigit && b.isDigit then some (10 * (a.toNat - 48) + (b.toNat - 48), rest) else none
  | _ => none

/-- The days in a month of a year. -/
def daysIn (month year : Nat) : Nat :=
  if month = 2 then (if year % 4 = 0 && (year % 100 ≠ 0 || year % 400 = 0) then 29 else 28)
  else if month = 4 || month = 6 || month = 9 || month = 11 then 30 else 31

/-- Skips a fraction of a second: a period or comma and digits. -/
def skipFraction (cs : List Char) : List Char :=
  match cs with
  | c :: d :: rest => if (c = '.' || c = ',') && d.isDigit then rest.dropWhile Char.isDigit else cs
  | _ => cs

/-- Reads `H:M:S` with an optional fraction; each of hour, minute and second one or two digits
in range. -/
def clock? (cs : List Char) : Option (List Char) := do
  let (h, cs) ← twoDigits? cs
  guard (h < 24)
  let cs ← match cs with | ':' :: r => some r | _ => none
  let (m, cs) ← twoDigits? cs
  guard (m < 60)
  let cs ← match cs with | ':' :: r => some r | _ => none
  let (s, cs) ← twoDigits? cs
  guard (s < 60)
  return skipFraction cs

/-- Reads a zone: `Z`, or a sign and `hh:mm`. -/
def zone? (cs : List Char) : Option (List Char) :=
  match cs with
  | 'Z' :: rest => some rest
  | sign :: rest =>
    if rest.length < 5 || rest.getD 2 ' ' ≠ ':' then none
    else match fixedTwo? rest, fixedTwo? (rest.drop 3) with
      | some (hh, _), some (mm, more) =>
        if (sign = '+' || sign = '-') && hh ≤ 24 && mm ≤ 60 then some more else none
      | _, _ => none
  | [] => none

/-- Whether a text is a timestamp: `YYYY-M-D`, optionally followed by `T`, `t` or a blank and
a time, and after `T` or `t` a zone. -/
def isTimestamp (s : String) : Bool :=
  let cs := s.toList
  let year := cs.takeWhile Char.isDigit
  if year.length ≠ 4 then false
  else
    let date : Option (List Char) := do
      let rest ← match cs.drop 4 with | '-' :: r => some r | _ => none
      let (mo, rest) ← twoDigits? rest
      guard (1 ≤ mo && mo ≤ 12)
      let rest ← match rest with | '-' :: r => some r | _ => none
      let (d, rest) ← twoDigits? rest
      let y := (digitsValue 10 year).getD 0
      guard (1 ≤ d && d ≤ daysIn mo y)
      return rest
    match date with
    | none => false
    | some [] => true
    | some (sep :: rest) =>
      if sep = 'T' || sep = 't' then
        match (clock? rest).bind zone? with
        | some [] => true
        | _ => false
      else if sep = ' ' then clock? rest == some []
      else false

/-- Whether a tag is one whose texts are resolved: the core scalar tags and no tag at all. A
null keeps its meaning under its own tag, so that a plain `~` read with the tag it resolved to
is still null. -/
def resolvable (tag : String) : Bool :=
  tag = "" || tag = "!!str" || tag = "!!bool" || tag = "!!int" || tag = "!!float" ||
    tag = "!!timestamp" || tag = "!!null"

/-- The texts whose meaning is fixed. -/
def fixedMeanings : List (String × String × Scalar) :=
  [("true", "!!bool", .bool true), ("True", "!!bool", .bool true), ("TRUE", "!!bool", .bool true),
   ("false", "!!bool", .bool false), ("False", "!!bool", .bool false), ("FALSE", "!!bool", .bool false),
   ("", "!!null", .null), ("~", "!!null", .null), ("null", "!!null", .null),
   ("Null", "!!null", .null), ("NULL", "!!null", .null),
   (".nan", "!!float", .float .nan), (".NaN", "!!float", .float .nan), (".NAN", "!!float", .float .nan),
   (".inf", "!!float", .float (.inf false)), (".Inf", "!!float", .float (.inf false)),
   (".INF", "!!float", .float (.inf false)), ("+.inf", "!!float", .float (.inf false)),
   ("+.Inf", "!!float", .float (.inf false)), ("+.INF", "!!float", .float (.inf false)),
   ("-.inf", "!!float", .float (.inf true)), ("-.Inf", "!!float", .float (.inf true)),
   ("-.INF", "!!float", .float (.inf true)), ("<<", "!!merge", .merge)]

/-- What the first character of a text suggests it may be: a sign, a digit, a word with a
fixed meaning, a float starting with a period. -/
def hintOf (s : String) : Option Char :=
  match s.toList with
  | [] => some 'N'
  | c :: _ =>
    if c = '+' || c = '-' then some 'S'
    else if c.isDigit then some 'D'
    else if "yYnNtTfFoO~".toList.contains c then some 'M'
    else if c = '.' then some '.'
    else none

/-- The meaning a text has by its form, given the tag asked for. -/
def meaningOf (tag s : String) : String × Scalar :=
  let fallback := ("!!str", Scalar.text s)
  match hintOf s with
  | none => fallback
  | some hint =>
    if tag = "!!str" || tag = "!!binary" then fallback
    else match fixedMeanings.find? (·.1 = s) with
      | some (_, t, v) => (t, v)
      | none =>
        if hint = '.' then
          match if underscoresOk s.toList then parseDouble? (withoutUnderscores s) else none with
          | some d => ("!!float", .float d)
          | none => fallback
        else if hint = 'D' || hint = 'S' then
          if (tag = "" || tag = "!!timestamp") && isTimestamp s then ("!!timestamp", .timestamp)
          else
            let plain := withoutUnderscores s
            match parseInt64 plain with
            | some n => ("!!int", .int n)
            | none =>
              match parseUint64 plain with
              | some n => ("!!int", .uint n)
              | none =>
                match parseDouble? plain with
                | some d => ("!!float", .float d)
                | none => fallback
        else fallback

/-- Resolves a scalar's text under a tag: the tag it has and its value, or the failure when
the text cannot have the tag asked for. -/
def resolve (tag s : String) : Except String (String × Scalar) :=
  let tag := shortTag tag
  if !resolvable tag then .ok (tag, .text s)
  else
    let (rtag, v) := meaningOf tag s
    if tag = "" || tag = rtag || tag = "!!str" || tag = "!!binary" then .ok (rtag, v)
    else if tag = "!!float" && rtag = "!!int" then
      match v with
      | .int n => .ok ("!!float", .float (if n < 0 then .finite true n.natAbs 0 else .finite false n.natAbs 0))
      | _ => .error ("cannot decode " ++ rtag ++ " `" ++ s ++ "` as a " ++ tag)
    else .error ("cannot decode " ++ rtag ++ " `" ++ s ++ "` as a " ++ tag)

/-- The tag a plain scalar's text resolves to. -/
def plainTag (s : String) : String :=
  match resolve "" s with
  | .ok (t, _) => t
  | .error _ => "!!str"

/-- The most negative 64-bit integer. -/
def minInt64 : Int := -(Nat.pow 2 63 : Nat)

/-- How a float is stored in a 64-bit integer: refused when NaN, `+∞` or above `2^63`;
otherwise truncated toward zero, a value outside the range becoming the most negative integer. -/
def Double.toInt64? : Double → Option Int
  | .nan => none
  | .inf false => none
  | .inf true => some minInt64
  | .finite neg q e =>
    let whole : Nat := if e ≥ 0 then q * Nat.pow 2 e.toNat else q / Nat.pow 2 (-e).toNat
    let exact : Bool := e ≥ 0 || q % Nat.pow 2 (-e).toNat = 0
    if !neg && (whole > Nat.pow 2 63 || (whole = Nat.pow 2 63 && !exact)) then none
    else if whole ≥ Nat.pow 2 63 then some minInt64
    else if neg then some (-(whole : Int)) else some whole

end LogStore.Yaml
