import LogStore.Yaml.Resolve

/-!
# Writing texts as YAML scalars

A text value of a block mapping is written in the first style that can hold it:

* a text with a line feed is asked for as a literal block (`|`), any other text whose plain
  form reads back as the same text is asked for plain, and the rest double-quoted;
* the characters then narrow the choice (`ScalarTraits`): plain falls back to single-quoted,
  single-quoted and literal fall back to double-quoted.

Plain and single-quoted texts are the characters themselves (a single quote doubled); the
double-quoted form escapes what is not printable, the quote, the backslash, line breaks and
the byte order mark. A literal block carries an indentation hint when it starts with a blank
or a break, and a chomping hint for its last breaks. The lines of single-quoted and literal
texts are indented one step deeper than their key; their breaks are written as they are, and
a text that ends with one leaves the line ended.
-/

namespace LogStore.Yaml

/-- Whether a character can be written as it is in a quoted or block scalar. -/
def isPrintable (c : Char) : Bool :=
  let n := c.toNat
  n = 0x0A || (0x20 ≤ n && n ≤ 0x7E) || (0xA0 ≤ n && n ≤ 0xD7FF) ||
    (0xE000 ≤ n && n ≤ 0xFFFD && n ≠ 0xFEFF)

/-- What a text's characters allow. -/
structure ScalarTraits where
  multiline : Bool
  flowPlain : Bool
  blockPlain : Bool
  singleQuoted : Bool
  block : Bool

/-- What a scan of a text's characters has seen so far. -/
structure ScalarScan where
  blockIndicators : Bool := false
  flowIndicators : Bool := false
  lineBreaks : Bool := false
  special : Bool := false
  tabs : Bool := false
  leadingSpace : Bool := false
  leadingBreak : Bool := false
  trailingSpace : Bool := false
  trailingBreak : Bool := false
  breakSpace : Bool := false
  spaceBreak : Bool := false
  previousSpace : Bool := false
  previousBreak : Bool := false

/-- Notes the indicators a character is at its place: the first character, or a later one
after whitespace or not, followed by a blank (or the end) or not. -/
def ScalarScan.indicators (st : ScalarScan) (c : Char) (first preceded followed : Bool) :
    ScalarScan :=
  if first then
    if "#,[]\x7b\x7d&*!|>\x27\"%@".toList.contains c || c.toNat = 96 then
      { st with flowIndicators := true, blockIndicators := true }
    else if c = '?' || c = ':' then
      { st with flowIndicators := true, blockIndicators := st.blockIndicators || followed }
    else if c = '-' && followed then
      { st with flowIndicators := true, blockIndicators := true }
    else st
  else
    if ",?[]\x7b\x7d".toList.contains c then { st with flowIndicators := true }
    else if c = ':' then
      { st with flowIndicators := true, blockIndicators := st.blockIndicators || followed }
    else if c = '#' && preceded then
      { st with flowIndicators := true, blockIndicators := true }
    else st

/-- Scans the characters of a text from the given one on. -/
def ScalarScan.run (st : ScalarScan) (first preceded : Bool) : List Char → ScalarScan
  | [] => st
  | c :: rest =>
    let followed := match rest with
      | [] => true
      | d :: _ => isBlank d
    let last := rest.isEmpty
    let st := st.indicators c first preceded followed
    let st := if c = '\t' then { st with tabs := true }
      else if !isPrintable c then { st with special := true } else st
    let st :=
      if c = ' ' then
        { st with leadingSpace := st.leadingSpace || first,
                  trailingSpace := st.trailingSpace || last,
                  breakSpace := st.breakSpace || st.previousBreak,
                  previousSpace := true, previousBreak := false }
      else if isBreak c then
        { st with lineBreaks := true,
                  leadingBreak := st.leadingBreak || first,
                  trailingBreak := st.trailingBreak || last,
                  spaceBreak := st.spaceBreak || st.previousSpace,
                  previousSpace := false, previousBreak := true }
      else { st with previousSpace := false, previousBreak := false }
    st.run false (isBlankZ c) rest

/-- What the characters of a text allow. -/
def scalarTraits (s : String) : ScalarTraits :=
  let cs := s.toList
  if cs.isEmpty then
    { multiline := false, flowPlain := false, blockPlain := true, singleQuoted := true,
      block := false }
  else
    let marker := cs.take 3 = ['-', '-', '-'] || cs.take 3 = ['.', '.', '.']
    let st := ({ blockIndicators := marker, flowIndicators := marker } : ScalarScan).run true true cs
    let edges := st.leadingSpace || st.leadingBreak || st.trailingSpace || st.trailingBreak
    let mixed := st.spaceBreak || st.tabs || st.special
    let plain := !(edges || st.breakSpace || mixed || st.lineBreaks)
    { multiline := st.lineBreaks
      flowPlain := plain && !st.flowIndicators
      blockPlain := plain && !st.blockIndicators
      singleQuoted := !(st.breakSpace || mixed)
      block := !(st.trailingSpace || st.spaceBreak || st.special) }

/-- Whether a text reads as a number in base 60, such as `1:20`. -/
def isBase60Float (s : String) : Bool :=
  let cs := s.toList
  let cs := match cs with
    | c :: rest => if c = '+' || c = '-' then rest else cs
    | [] => []
  match cs with
  | c :: rest =>
    if !c.isDigit then false
    else
      let (_, rest) := rest.span fun d => d.isDigit || d = '_'
      let rec groups (cs : List Char) (seen : Bool) : Nat → Option (List Char)
        | 0 => none
        | fuel + 1 =>
          match cs with
          | ':' :: a :: b :: more =>
            if a.isDigit && b.isDigit && a.toNat ≤ '5'.toNat then groups more true fuel
            else if a.isDigit && !b.isDigit then groups (b :: more) true fuel
            else none
          | [':', a] => if a.isDigit then some [] else none
          | _ => if seen then some cs else none
      match groups rest false (rest.length + 1) with
      | none => false
      | some [] => true
      | some ('.' :: frac) => frac.all fun d => d.isDigit || d = '_'
      | some _ => false
  | [] => false

/-- Whether a text was a boolean in YAML 1.1, such as `yes` or `off`. -/
def isOldBool (s : String) : Bool :=
  ["y", "Y", "yes", "Yes", "YES", "on", "On", "ON",
   "n", "N", "no", "No", "NO", "off", "Off", "OFF"].contains s

/-- The style a text value of a block mapping is written in. -/
def textStyle (s : String) : ScalarStyle :=
  let canPlain := (match resolve "" s with
    | .ok (t, _) => t = "!!str"
    | .error _ => false) && !(isBase60Float s || isOldBool s)
  let asked : ScalarStyle :=
    if s.toList.contains '\n' then .literal else if canPlain then .plain else .doubleQuoted
  let traits := scalarTraits s
  let style := if asked = .plain && !traits.blockPlain then .singleQuoted else asked
  let style := if style = .singleQuoted && !traits.singleQuoted then .doubleQuoted else style
  if style = .literal && !traits.block then .doubleQuoted else style

/-- The uppercase hexadecimal digits of `n`, exactly `width` of them. -/
def upperHex (n width : Nat) : List Char :=
  (List.range width).reverse.map fun i =>
    let d := n / Nat.pow 16 i % 16
    Char.ofNat (if d < 10 then 48 + d else 55 + d)

/-- The escape for a character of a double-quoted scalar. -/
def escapeChar (c : Char) : List Char :=
  let n := c.toNat
  '\\' :: match n with
    | 0x00 => ['0']
    | 0x07 => ['a']
    | 0x08 => ['b']
    | 0x09 => ['t']
    | 0x0A => ['n']
    | 0x0B => ['v']
    | 0x0C => ['f']
    | 0x0D => ['r']
    | 0x1B => ['e']
    | 0x22 => ['"']
    | 0x5C => ['\\']
    | 0x85 => ['N']
    | 0xA0 => ['_']
    | 0x2028 => ['L']
    | 0x2029 => ['P']
    | _ =>
      if n ≤ 0xFF then 'x' :: upperHex n 2
      else if n ≤ 0xFFFF then 'u' :: upperHex n 4
      else 'U' :: upperHex n 8

/-- A text double-quoted. -/
def doubleQuoted (s : String) : String :=
  let body := s.toList.flatMap fun c =>
    if !isPrintable c || c = '\uFEFF' || isBreak c || c = '"' || c = '\\' then escapeChar c
    else [c]
  "\"" ++ String.ofList body ++ "\""

/-- The characters of a single-quoted scalar, its lines indented by `indent`: a single quote
is doubled, a break is written as it is, and the first character after breaks that is neither
a blank nor a break starts with the indentation (`afterBreak`: breaks came last). -/
def singleBody (indent : Nat) (afterBreak : Bool) : List Char → List Char
  | [] => []
  | c :: rest =>
    if isBreak c then c :: singleBody indent true rest
    else if c = ' ' then c :: singleBody indent afterBreak rest
    else
      (if afterBreak then List.replicate indent ' ' else []) ++
        (if c = '\x27' then [c, c] else [c]) ++ singleBody indent false rest

/-- A text single-quoted, its lines indented by `indent`. -/
def singleQuoted (s : String) (indent : Nat) : String :=
  "'" ++ String.ofList (singleBody indent false s.toList) ++ "'"

/-- The characters of a literal block after its header, its lines indented by `indent`: a
break is written as it is, and the first character after breaks starts with the indentation.
Before the first character (`fresh`), a character that is not a break first ends the header's
line (`afterBreak`: breaks, or the header, came last). -/
def literalBody (indent : Nat) (fresh afterBreak : Bool) : List Char → List Char
  | [] => []
  | c :: rest =>
    if isBreak c then c :: literalBody indent false true rest
    else
      (if afterBreak then (if fresh then ['\n'] else []) ++ List.replicate indent ' ' else []) ++
        c :: literalBody indent false false rest

/-- The hints after `|`: the indentation step when the text starts with a blank or a break,
and `-` when the text has no final break, `+` when it ends with more than one (or is one
break). -/
def blockHints (s : String) (step : Nat) : String :=
  let cs := s.toList
  let indent := match cs with
    | c :: _ => if c = ' ' || isBreak c then String.singleton (Char.ofNat (48 + step)) else ""
    | [] => ""
  let chomp := match cs.reverse with
    | [] => "-"
    | [c] => if isBreak c then "+" else "-"
    | c :: d :: _ => if !isBreak c then "-" else if isBreak d then "+" else ""
  indent ++ chomp

/-- A text as a literal block whose lines are indented by `indent`, with its header. The
header's line ends with the text's first break when the text starts with one (so a first line
feed is not seen again when the block is read back), else before the first line. -/
def literalBlock (s : String) (indent : Nat) : String :=
  "|" ++ blockHints s 4 ++ String.ofList (literalBody indent true true s.toList)

/-- A text value written after `key:` in a block mapping whose keys are indented by `depth`:
the text after the colon, and whether the line is still open after it. -/
def textValue (s : String) (depth : Nat) : String × Bool :=
  match textStyle s with
  | .plain => (" " ++ s, true)
  | .singleQuoted => (" " ++ singleQuoted s (depth + 4), true)
  | .literal =>
    let cs := s.toList
    (" " ++ literalBlock s (depth + 4), !(cs.getLast?.map isBreak).getD false)
  | _ => (" " ++ doubleQuoted s, true)

end LogStore.Yaml
