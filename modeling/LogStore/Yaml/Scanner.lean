/-!
# Reading YAML text into tokens

A YAML text is read in three stages: the scanner turns characters into tokens, the parser turns
tokens into events and the events into a tree of nodes, and the decoder fills a record from the
tree. This module is the scanner.

Tokens are the indicators (`-`, `?`, `:`, `,`, brackets and braces, `---`, `...`), directives,
anchors, aliases, tags and scalars, plus the tokens that indentation implies: where a block
mapping or sequence starts (`BLOCK-MAPPING-START`, `BLOCK-SEQUENCE-START`) and where it ends
(`BLOCK-END`).

* Indentation is kept as a stack of columns. A line that starts left of the current column
  closes blocks until it no longer does; a key or entry right of it opens a block.
* A *simple key* is a scalar or collection that may turn out to be a mapping key: that is
  only known when a `:` follows on the same line within 1024 characters. Each flow level has
  one candidate; when the `:` comes, a `KEY` token (and, in block context, a
  `BLOCK-MAPPING-START`) is inserted before the candidate's first token. A candidate that
  starts a line at the block's column is required: if no `:` follows, the text is rejected
  with `could not find expected ':'`.
* Tokens are produced on demand, and the parser always has two more tokens available than it
  looks at, and more while the token at its head may still become a key. A problem in the text
  is therefore reported when the scanner reaches it, which may be before the parser reports a
  problem in the tokens before it.
* Plain and quoted scalars fold line breaks: one break between two lines becomes a blank, more
  breaks are kept. Literal (`|`) and folded (`>`) block scalars keep or fold their lines, and
  their last line breaks are kept, kept once or dropped (`+`, none, `-`).

A problem records the mark of the construct being read and the mark where it was found; its
message is `yaml: line N: <problem>`, where `N` is the line of the construct, or of the place
when the construct is on the first line, counted from one for scanner problems and from zero
for parser problems, and the line is left out when it would be zero.
-/

namespace LogStore.Yaml

/-- A place in a text: the character index, the line and the column, all counted from zero. -/
structure Mark where
  index : Nat := 0
  line : Nat := 0
  column : Nat := 0
  deriving Inhabited

/-- How a scalar is written. -/
inductive ScalarStyle where
  | plain
  | singleQuoted
  | doubleQuoted
  | literal
  | folded
  deriving DecidableEq, Inhabited

/-- The kinds of tokens. -/
inductive TokenType where
  | streamStart
  | streamEnd
  | versionDirective
  | tagDirective
  | documentStart
  | documentEnd
  | blockSequenceStart
  | blockMappingStart
  | blockEnd
  | flowSequenceStart
  | flowSequenceEnd
  | flowMappingStart
  | flowMappingEnd
  | blockEntry
  | flowEntry
  | key
  | value
  | alias
  | anchor
  | tag
  | scalar
  deriving DecidableEq, Inhabited

/-- A token with where it starts and ends. -/
structure Token where
  type : TokenType
  start : Mark
  stop : Mark
  /-- The text of a scalar, the name of an anchor or alias, the suffix of a tag, the prefix of
  a tag directive. -/
  value : String := ""
  /-- The handle of a tag or of a tag directive. -/
  handle : String := ""
  style : ScalarStyle := .plain
  major : Nat := 0
  minor : Nat := 0
  deriving Inhabited

/-- Why a text is not YAML: what is wrong, the mark of the construct being read, and the mark
where the problem was found. -/
structure Problem where
  /-- Whether the scanner found it (rather than the parser). -/
  scanning : Bool := false
  context : Mark := {}
  found : Mark := {}
  text : String
  deriving Inhabited

/-- The message of a problem, with the line it is reported at. -/
def Problem.message (p : Problem) : String :=
  let bump := if p.scanning then 1 else 0
  let line := if p.context.line ≠ 0 then p.context.line + bump
    else if p.found.line ≠ 0 then p.found.line + bump else 0
  "yaml: " ++ (if line = 0 then "" else "line " ++ toString line ++ ": ") ++ p.text

/-- A problem found outside any place, such as a reference to an unknown anchor. -/
def Problem.plain (text : String) : Problem := { text }

/-- Whether a character breaks a line. -/
def isBreak (c : Char) : Bool :=
  c = '\r' || c = '\n' || c = '\u0085' || c = '\u2028' || c = '\u2029'

/-- Whether a character is a blank: a space or a tab. -/
def isBlank (c : Char) : Bool := c = ' ' || c = '\t'

/-- The character read past the end of the text. -/
def endChar : Char := '\x00'

/-- Whether a character breaks a line or ends the text. -/
def isBreakZ (c : Char) : Bool := isBreak c || c = endChar

/-- Whether a character is a blank, breaks a line or ends the text. -/
def isBlankZ (c : Char) : Bool := isBlank c || isBreakZ c

/-- Whether a character may appear in an anchor name or a tag handle. -/
def isWordChar (c : Char) : Bool := c.isAlphanum || c = '_' || c = '-'

/-- Whether a character is a hexadecimal digit. -/
def isHexChar (c : Char) : Bool :=
  c.isDigit || ('a' ≤ c && c ≤ 'f') || ('A' ≤ c && c ≤ 'F')

/-- The value of a hexadecimal digit. -/
def hexValue (c : Char) : Nat :=
  if c.isDigit then c.toNat - 48 else if 'a' ≤ c && c ≤ 'f' then c.toNat - 87 else c.toNat - 55

/-- Whether a character may appear in a text at all: tabs, line breaks and printable
characters. -/
def allowedChar (c : Char) : Bool :=
  let n := c.toNat
  n = 0x09 || n = 0x0A || n = 0x0D || (0x20 ≤ n && n ≤ 0x7E) || n = 0x85 ||
    (0xA0 ≤ n && n ≤ 0xD7FF) || (0xE000 ≤ n && n ≤ 0xFFFD) || (0x10000 ≤ n && n ≤ 0x10FFFF)

/-- A candidate simple key: whether it is still possible and required, the number of its
first token, and where it starts. -/
structure SimpleKey where
  possible : Bool := false
  required : Bool := false
  number : Nat := 0
  mark : Mark := {}
  deriving Inhabited

/-- The state of the scanner. Tokens are kept from the first on; `parsed` of them have been
handed to the parser. -/
structure Scanner where
  /-- The characters at hand. -/
  text : Array Char
  /-- Why the characters after `text` could not be read, when they could not. -/
  broken : Option String := none
  mark : Mark := {}
  /-- Line breaks read since the last character that is not a blank. -/
  newlines : Nat := 0
  tokens : Array Token := #[]
  parsed : Nat := 0
  /-- Whether the token at the head is known to be complete. -/
  available : Bool := false
  started : Bool := false
  indent : Int := -1
  indents : List Int := []
  keyAllowed : Bool := false
  keys : Array SimpleKey := #[]
  flowLevel : Nat := 0
  deriving Inhabited

namespace Scanner

/-- The character `k` places ahead. -/
def peekAt (s : Scanner) (k : Nat) : Char := s.text.getD (s.mark.index + k) endChar

/-- The current character. -/
def cur (s : Scanner) : Char := s.peekAt 0

/-- A bound on the steps left: the characters left, and a few more. -/
def budget (s : Scanner) : Nat := s.text.size + 4 - s.mark.index

/-- Moves past the current character. -/
def skip (s : Scanner) : Scanner :=
  { s with mark := { s.mark with index := s.mark.index + 1, column := s.mark.column + 1 },
           newlines := if isBlank s.cur then s.newlines else 0 }

/-- Moves past a line break (`\r\n` counts as one). -/
def skipLine (s : Scanner) : Scanner :=
  if s.cur = '\r' && s.peekAt 1 = '\n' then
    { s with mark := { index := s.mark.index + 2, line := s.mark.line + 1, column := 0 },
             newlines := s.newlines + 1 }
  else if isBreak s.cur then
    { s with mark := { index := s.mark.index + 1, line := s.mark.line + 1, column := 0 },
             newlines := s.newlines + 1 }
  else s

/-- Moves past the current character, appending it to `acc`. -/
def read (s : Scanner) (acc : String) : Scanner × String := (s.skip, acc.push s.cur)

/-- Moves past a line break, appending it to `acc` as a newline (line and paragraph separators
are kept as they are). -/
def readLine (s : Scanner) (acc : String) : Scanner × String :=
  let c := s.cur
  if isBreak c then (s.skipLine, acc.push (if c = '\u2028' || c = '\u2029' then c else '\n'))
  else (s, acc)

/-- Reads characters while `p` holds. -/
def readWhile (s : Scanner) (p : Char → Bool) (acc : String) : Nat → Scanner × String
  | 0 => (s, acc)
  | n + 1 => if p s.cur && s.cur ≠ endChar then let (s, a) := s.read acc; readWhile s p a n else (s, acc)

/-- Skips characters while `p` holds. -/
def skipWhile (s : Scanner) (p : Char → Bool) : Nat → Scanner
  | 0 => s
  | n + 1 => if p s.cur && s.cur ≠ endChar then skipWhile s.skip p n else s

/-- Whether `---` or `...` followed by a blank or the end starts here. -/
def documentIndicatorAhead (s : Scanner) : Bool :=
  ((s.cur = '-' && s.peekAt 1 = '-' && s.peekAt 2 = '-') ||
    (s.cur = '.' && s.peekAt 1 = '.' && s.peekAt 2 = '.')) && isBlankZ (s.peekAt 3)

/-- A scanner problem found here while reading the construct at `context`. -/
def fail {α : Type} (s : Scanner) (context : Mark) (text : String) : Except Problem α :=
  .error { scanning := true, context, found := s.mark, text }

/-- Appends a token. -/
def push (s : Scanner) (type : TokenType) (start stop : Mark) : Scanner :=
  { s with tokens := s.tokens.push { type, start, stop } }

/-- Appends a token with its contents. -/
def pushToken (s : Scanner) (t : Token) : Scanner :=
  { s with tokens := s.tokens.push t }

/-- Inserts a token so that it becomes token number `n`. -/
def insertAt (s : Scanner) (n : Nat) (t : Token) : Scanner :=
  { s with tokens := (s.tokens.toList.take n ++ t :: s.tokens.toList.drop n).toArray }

/-- The candidate key of the current flow level. -/
def topKey (s : Scanner) : SimpleKey := s.keys.back?.getD {}

/-- Replaces the candidate key of the current flow level. -/
def setTopKey (s : Scanner) (k : SimpleKey) : Scanner :=
  { s with keys := s.keys.pop.push k }

/-- Drops the candidate key of the current flow level; a required one is an error. -/
def removeSimpleKey (s : Scanner) : Except Problem Scanner :=
  let k := s.topKey
  if k.possible then
    if k.required then s.fail k.mark "could not find expected ':'"
    else .ok (s.setTopKey { k with possible := false })
  else .ok s

/-- Records that the next token may start a simple key, if one may start here. -/
def saveSimpleKey (s : Scanner) : Except Problem Scanner := do
  if s.keyAllowed then
    let k : SimpleKey := { possible := true,
                           required := s.flowLevel = 0 && s.indent = (s.mark.column : Int),
                           number := s.tokens.size, mark := s.mark }
    let s ← s.removeSimpleKey
    return s.setTopKey k
  else return s

/-- Whether a candidate key can still be a key here: it must be on this line and within 1024
characters. A stale required key is an error; a stale optional one is dropped. -/
def keyValid (s : Scanner) (k : SimpleKey) : Except Problem (Bool × SimpleKey) :=
  if !k.possible then .ok (false, k)
  else if k.mark.line < s.mark.line || k.mark.index + 1024 < s.mark.index then
    if k.required then s.fail k.mark "could not find expected ':'"
    else .ok (false, { k with possible := false })
  else .ok (true, k)

/-- Opens a flow level. -/
def increaseFlow (s : Scanner) : Scanner :=
  { s with keys := s.keys.push { mark := s.mark }, flowLevel := s.flowLevel + 1 }

/-- Closes a flow level, if one is open. -/
def decreaseFlow (s : Scanner) : Scanner :=
  if s.flowLevel > 0 then { s with flowLevel := s.flowLevel - 1, keys := s.keys.pop } else s

/-- Opens a block at `column` when it is right of the current one, with its start token placed
as token `number` or appended. -/
def rollIndent (s : Scanner) (column : Nat) (number : Option Nat) (type : TokenType)
    (mark : Mark) : Scanner :=
  if s.flowLevel > 0 then s
  else if s.indent < (column : Int) then
    let s := { s with indents := s.indent :: s.indents, indent := column }
    let t : Token := { type, start := mark, stop := mark }
    match number with
    | none => s.pushToken t
    | some n => s.insertAt n t
  else s

/-- Closes blocks right of `column`, one `BLOCK-END` each. -/
def unrollFrom (column : Int) (m : Mark) : Int → List Int → Array Token → Int × List Int × Array Token
  | indent, [], ts => (indent, [], ts)
  | indent, i :: is, ts =>
    if indent > column then unrollFrom column m i is (ts.push { type := .blockEnd, start := m, stop := m })
    else (indent, i :: is, ts)

/-- Closes the blocks right of `column`; the `BLOCK-END` tokens are placed just before the
blanks that were skipped from `scanMark`. -/
def unrollIndent (s : Scanner) (column : Int) (scanMark : Mark) : Scanner :=
  if s.flowLevel > 0 then s
  else
    let m := { scanMark with index := scanMark.index - 1 }
    let (indent, indents, tokens) := unrollFrom column m s.indent s.indents s.tokens
    { s with indent, indents, tokens }

/-- Skips blanks that may precede a token: spaces, and tabs where no simple key may start or
in flow context. -/
def skipBlanks (s : Scanner) : Nat → Scanner
  | 0 => s
  | n + 1 =>
    if s.cur = ' ' || ((s.flowLevel > 0 || !s.keyAllowed) && s.cur = '\t') then skipBlanks s.skip n
    else s

/-- Skips blanks, comments and line breaks up to the next token. A line break in block
context lets a simple key start. -/
def toNextToken (s : Scanner) : Nat → Scanner
  | 0 => s
  | n + 1 =>
    let s := if s.mark.column = 0 && s.cur = '\uFEFF' then s.skip else s
    let s := s.skipBlanks s.budget
    let s := if s.cur = '#' then s.skipWhile (fun c => !isBreakZ c) s.budget else s
    if isBreak s.cur then
      let s := s.skipLine
      toNextToken (if s.flowLevel = 0 then { s with keyAllowed := true } else s) n
    else s

/-- Consumes a comment that follows a token on the same line. -/
def lineComment (s : Scanner) : Scanner :=
  if s.newlines > 0 then s
  else
    let s' := s.skipWhile isBlank 512
    if s'.cur = '#' then s'.skipWhile (fun c => !isBreakZ c) s'.budget else s

/-- The first token. -/
def streamStart (s : Scanner) : Scanner :=
  let s := { s with started := true, indent := -1, keyAllowed := true, keys := s.keys.push {} }
  s.push .streamStart s.mark s.mark

/-- The end of the text: closes every block, on a line of its own. -/
def streamEnd (s : Scanner) : Except Problem Scanner := do
  let s := if s.mark.column ≠ 0 then
      { s with mark := { s.mark with column := 0, line := s.mark.line + 1 } }
    else s
  let s := s.unrollIndent (-1) s.mark
  let s ← s.removeSimpleKey
  let s := { s with keyAllowed := false }
  return s.push .streamEnd s.mark s.mark

/-- Reads the digits of a version number. -/
def versionNumber (s : Scanner) (start : Mark) : Except Problem (Scanner × Nat) := do
  let (s', digits) := s.readWhile Char.isDigit "" s.budget
  if digits.length > 9 then s.fail start "found extremely long version number"
  else if digits.isEmpty then s.fail start "did not find expected version number"
  else return (s', digits.foldl (fun n c => 10 * n + (c.toNat - 48)) 0)

/-- Reads a tag handle: `!`, `!!` or `!name!`. In a directive the handle must end with `!`. -/
def tagHandle (s : Scanner) (directive : Bool) (start : Mark) : Except Problem (Scanner × String) := do
  if s.cur ≠ '!' then s.fail start "did not find expected '!'"
  else
    let (s, h) := s.read ""
    let (s, h) := s.readWhile isWordChar h s.budget
    if s.cur = '!' then return s.read h
    else if directive && h ≠ "!" then s.fail start "did not find expected '!'"
    else return (s, h)

/-- Whether a character may appear in a tag URI here. -/
def uriChar (s : Scanner) (c : Char) : Bool :=
  (isWordChar c || ";/?:@&=+$.!~*\x27()%".toList.contains c ||
    (s.flowLevel = 0 && (c = ',' || c = '[' || c = ']')))

/-- Reads `%XX` escapes of one UTF-8 character in a tag URI. -/
def uriEscapes (s : Scanner) (start : Mark) (acc : List UInt8) (width : Option Nat) :
    Nat → Except Problem (Scanner × List UInt8)
  | 0 => .ok (s, acc)
  | n + 1 =>
    if !(s.cur = '%' && isHexChar (s.peekAt 1) && isHexChar (s.peekAt 2)) then
      s.fail start "did not find URI escaped octet"
    else
      let octet := hexValue (s.peekAt 1) * 16 + hexValue (s.peekAt 2)
      let s' := s.skip.skip.skip
      match width with
      | none =>
        let w := if octet < 0x80 then 1 else if octet / 32 = 6 then 2
          else if octet / 16 = 14 then 3 else if octet / 8 = 30 then 4 else 0
        if w = 0 then s.fail start "found an incorrect leading UTF-8 octet"
        else if w = 1 then .ok (s', acc ++ [octet.toUInt8])
        else uriEscapes s' start (acc ++ [octet.toUInt8]) (some (w - 1)) n
      | some w =>
        if octet / 64 ≠ 2 then s.fail start "found an incorrect trailing UTF-8 octet"
        else if w ≤ 1 then .ok (s', acc ++ [octet.toUInt8])
        else uriEscapes s' start (acc ++ [octet.toUInt8]) (some (w - 1)) n

/-- Reads the rest of a tag URI after `head` (whose leading `!` is dropped). -/
def tagUriFrom (s : Scanner) (start : Mark) (acc : String) (seen : Bool) :
    Nat → Except Problem (Scanner × String × Bool)
  | 0 => .ok (s, acc, seen)
  | n + 1 =>
    let c := s.cur
    if c ≠ endChar && s.uriChar c then
      if c = '%' then do
        let (s, bytes) ← s.uriEscapes start [] none 4
        let piece := (String.fromUTF8? ⟨bytes.toArray⟩).getD "\uFFFD"
        tagUriFrom s start (acc ++ piece) true n
      else
        let (s, a) := s.read acc
        tagUriFrom s start a true n
    else .ok (s, acc, seen)

/-- Reads a tag URI; it may not be empty. -/
def tagUri (s : Scanner) (head : String) (start : Mark) : Except Problem (Scanner × String) := do
  let (s, uri, seen) ← s.tagUriFrom start (String.ofList (head.toList.drop 1)) (!head.isEmpty) s.budget
  if !seen then s.fail start "did not find expected tag URI"
  else return (s, uri)

/-- Skips the rest of a directive's line: blanks, a comment, the line break. -/
def directiveEnd (s : Scanner) (start : Mark) : Except Problem Scanner := do
  let s := s.skipWhile isBlank s.budget
  let s := if s.cur = '#' then s.skipWhile (fun c => !isBreakZ c) s.budget else s
  if !isBreakZ s.cur then s.fail start "did not find expected comment or line break"
  else return s.skipLine

/-- A `%YAML` or `%TAG` directive at the start of a line. -/
def directive (s : Scanner) : Except Problem Scanner := do
  let s := s.unrollIndent (-1) s.mark
  let s ← s.removeSimpleKey
  let s := { s with keyAllowed := false }
  let start := s.mark
  let s := s.skip
  let (s, name) := s.readWhile Char.isAlphanum "" s.budget
  if name.isEmpty then s.fail start "could not find expected directive name"
  else if !isBlankZ s.cur then s.fail start "found unexpected non-alphabetical character"
  else if name = "YAML" then
    let s := s.skipWhile isBlank s.budget
    let (s, major) ← s.versionNumber start
    if s.cur ≠ '.' then s.fail start "did not find expected digit or '.' character"
    else
      let (s, minor) ← s.skip.versionNumber start
      let stop := s.mark
      let s ← s.directiveEnd start
      return s.pushToken { type := .versionDirective, start, stop, major, minor }
  else if name = "TAG" then
    let s := s.skipWhile isBlank s.budget
    let (s, handle) ← s.tagHandle true start
    if !isBlank s.cur then s.fail start "did not find expected whitespace"
    else
      let s := s.skipWhile isBlank s.budget
      let (s, pfx) ← s.tagUri "" start
      if !isBlankZ s.cur then s.fail start "did not find expected whitespace or line break"
      else
        let stop := s.mark
        let s ← s.directiveEnd start
        return s.pushToken { type := .tagDirective, start, stop, handle, value := pfx }
  else s.fail start "found unknown directive name"

/-- `---` or `...` at the start of a line: closes every block. -/
def documentIndicator (s : Scanner) (type : TokenType) : Except Problem Scanner := do
  let s := s.unrollIndent (-1) s.mark
  let s ← s.removeSimpleKey
  let s := { s with keyAllowed := false }
  let start := s.mark
  let s := s.skip.skip.skip
  return s.push type start s.mark

/-- `[` or `{`. -/
def flowCollectionStart (s : Scanner) (type : TokenType) : Except Problem Scanner := do
  let s ← s.saveSimpleKey
  let s := { s.increaseFlow with keyAllowed := true }
  let start := s.mark
  let s := s.skip
  return s.push type start s.mark

/-- `]` or `}`. -/
def flowCollectionEnd (s : Scanner) (type : TokenType) : Except Problem Scanner := do
  let s ← s.removeSimpleKey
  let s := { s.decreaseFlow with keyAllowed := false }
  let start := s.mark
  let s := s.skip
  return s.push type start s.mark

/-- `,` in flow context. -/
def flowEntry (s : Scanner) : Except Problem Scanner := do
  let s ← s.removeSimpleKey
  let s := { s with keyAllowed := true }
  let start := s.mark
  let s := s.skip
  return s.push .flowEntry start s.mark

/-- `-` followed by a blank: an entry of a block sequence, which it may open. -/
def blockEntry (s : Scanner) : Except Problem Scanner := do
  let s ← if s.flowLevel = 0 then
      if !s.keyAllowed then s.fail s.mark "block sequence entries are not allowed in this context"
      else pure (s.rollIndent s.mark.column none .blockSequenceStart s.mark)
    else pure s
  let s ← s.removeSimpleKey
  let s := { s with keyAllowed := true }
  let start := s.mark
  let s := s.skip
  return s.push .blockEntry start s.mark

/-- `?`: an explicit key. -/
def explicitKey (s : Scanner) : Except Problem Scanner := do
  let s ← if s.flowLevel = 0 then
      if !s.keyAllowed then s.fail s.mark "mapping keys are not allowed in this context"
      else pure (s.rollIndent s.mark.column none .blockMappingStart s.mark)
    else pure s
  let s ← s.removeSimpleKey
  let s := { s with keyAllowed := s.flowLevel = 0 }
  let start := s.mark
  let s := s.skip
  return s.push .key start s.mark

/-- `:`: a value. When a candidate key is still valid, its `KEY` token (and in block context
the start of the mapping) is inserted before it. -/
def valueIndicator (s : Scanner) : Except Problem Scanner := do
  let k := s.topKey
  let (valid, k) ← s.keyValid k
  let s := s.setTopKey k
  let s ← if valid then
      let s := s.insertAt k.number { type := .key, start := k.mark, stop := k.mark }
      let s := s.rollIndent k.mark.column (some k.number) .blockMappingStart k.mark
      pure { s.setTopKey { k with possible := false } with keyAllowed := false }
    else if s.flowLevel = 0 then
      if !s.keyAllowed then s.fail s.mark "mapping values are not allowed in this context"
      else pure { s.rollIndent s.mark.column none .blockMappingStart s.mark with keyAllowed := true }
    else pure { s with keyAllowed := false }
  let start := s.mark
  let s := s.skip
  return s.push .value start s.mark

/-- `&name` or `*name`. -/
def anchorOrAlias (s : Scanner) (type : TokenType) : Except Problem Scanner := do
  let s ← s.saveSimpleKey
  let s := { s with keyAllowed := false }
  let start := s.mark
  let (s, name) := s.skip.readWhile isWordChar "" s.budget
  let c := s.cur
  if name.isEmpty || !(isBlankZ c || "?:,]\x7d%@".toList.contains c || c.toNat = 96) then
    s.fail start "did not find expected alphabetic or numeric character"
  else return s.pushToken { type, start, stop := s.mark, value := name }

/-- A tag: `!<uri>`, `!handle!suffix`, `!suffix` or `!`. -/
def tagToken (s : Scanner) : Except Problem Scanner := do
  let s ← s.saveSimpleKey
  let s := { s with keyAllowed := false }
  let start := s.mark
  let (s, handle, suffix) ← if s.peekAt 1 = '<' then do
      let (s, suffix) ← s.skip.skip.tagUri "" start
      if s.cur ≠ '>' then s.fail start "did not find the expected '>'"
      else pure (s.skip, "", suffix)
    else do
      let (s, h) ← s.tagHandle false start
      if h.length > 1 && h.startsWith "!" && h.endsWith "!" then
        let (s, suffix) ← s.tagUri "" start
        pure (s, h, suffix)
      else
        let (s, suffix) ← s.tagUri h start
        if suffix.isEmpty then pure (s, "", "!") else pure (s, "!", suffix)
  if !isBlankZ s.cur && (s.flowLevel = 0 || s.cur ≠ ',') then
    s.fail start "did not find expected whitespace or line break"
  else return s.pushToken { type := .tag, start, stop := s.mark, handle, value := suffix }

/-- Pending blanks and breaks between the pieces of a scalar. -/
structure Folding where
  text : String := ""
  leadingBreak : String := ""
  trailingBreaks : String := ""
  whitespaces : String := ""
  leadingBlanks : Bool := false

/-- Joins the pending blanks and breaks onto the text: one line break folds into a blank, more
are kept; blanks within a line are kept. -/
def Folding.join (f : Folding) : Folding :=
  if f.leadingBlanks then
    let t := if f.leadingBreak.startsWith "\n" then
        (if f.trailingBreaks.isEmpty then f.text.push ' ' else f.text ++ f.trailingBreaks)
      else f.text ++ f.leadingBreak ++ f.trailingBreaks
    { f with text := t, leadingBreak := "", trailingBreaks := "", leadingBlanks := false }
  else { f with text := f.text ++ f.whitespaces, whitespaces := "" }

/-- Consumes blanks and line breaks between the pieces of a scalar. In a plain scalar, a tab
that indents a continuation line left of the block is an error. -/
def foldBlanks (s : Scanner) (f : Folding) (tabCheck : Option (Int × Mark)) :
    Nat → Except Problem (Scanner × Folding)
  | 0 => .ok (s, f)
  | n + 1 =>
    let c := s.cur
    if isBlank c then
      match tabCheck with
      | some (indent, start) =>
        if f.leadingBlanks && (s.mark.column : Int) < indent && c = '\t' then
          s.fail start "found a tab character that violates indentation"
        else if !f.leadingBlanks then
          let (s, w) := s.read f.whitespaces
          foldBlanks s { f with whitespaces := w } tabCheck n
        else foldBlanks s.skip f tabCheck n
      | none =>
        if !f.leadingBlanks then
          let (s, w) := s.read f.whitespaces
          foldBlanks s { f with whitespaces := w } tabCheck n
        else foldBlanks s.skip f tabCheck n
    else if isBreak c then
      if !f.leadingBlanks then
        let (s, b) := s.readLine ""
        foldBlanks s { f with whitespaces := "", leadingBreak := b, leadingBlanks := true } tabCheck n
      else
        let (s, b) := s.readLine f.trailingBreaks
        foldBlanks s { f with trailingBreaks := b } tabCheck n
    else .ok (s, f)

/-- Consumes the non-blank characters of a plain scalar up to an indicator that ends it. -/
def plainWord (s : Scanner) (f : Folding) (stop : Mark) : Nat → Scanner × Folding × Mark
  | 0 => (s, f, stop)
  | n + 1 =>
    let c := s.cur
    if isBlankZ c then (s, f, stop)
    else if s.flowLevel > 0 && c = ':' && ",?[]\x7b\x7d".toList.contains (s.peekAt 1) then (s, f, stop)
    else if (c = ':' && isBlankZ (s.peekAt 1)) || (s.flowLevel > 0 && ",[]\x7b\x7d".toList.contains c) then
      (s, f, stop)
    else
      let f := if f.leadingBlanks || !f.whitespaces.isEmpty then f.join else f
      let (s, t) := s.read f.text
      plainWord s { f with text := t } s.mark n

/-- Reads the lines of a plain scalar. It ends at a comment, a document indicator, an
indicator that ends it, or a line indented at or left of the block. -/
def plainLines (s : Scanner) (f : Folding) (stop : Mark) (indent : Int) (start : Mark) :
    Nat → Except Problem (Scanner × Folding × Mark)
  | 0 => .ok (s, f, stop)
  | n + 1 => do
    if (s.mark.column = 0 && s.documentIndicatorAhead) || s.cur = '#' then return (s, f, stop)
    let (s, f, stop) := s.plainWord f stop s.budget
    if !(isBlank s.cur || isBreak s.cur) then return (s, f, stop)
    let (s, f) ← s.foldBlanks f (some (indent, start)) s.budget
    if s.flowLevel = 0 && (s.mark.column : Int) < indent then return (s, f, stop)
    plainLines s f stop indent start n

/-- A plain scalar. A line break inside it lets a simple key start after it. -/
def plainScalar (s : Scanner) : Except Problem Scanner := do
  let s ← s.saveSimpleKey
  let s := { s with keyAllowed := false }
  let start := s.mark
  let (s, f, stop) ← s.plainLines {} start (s.indent + 1) start s.budget
  let s := if f.leadingBlanks then { s with keyAllowed := true } else s
  return s.pushToken { type := .scalar, start, stop, value := f.text, style := .plain }

/-- What a backslash escape in a double-quoted scalar stands for: a character, or a code of
so many hexadecimal digits. -/
def escapeOf (c : Char) : Option (Char ⊕ Nat) :=
  match c with
  | '0' => some (.inl '\x00') | 'a' => some (.inl '\x07') | 'b' => some (.inl '\x08')
  | 't' => some (.inl '\t') | '\t' => some (.inl '\t') | 'n' => some (.inl '\n')
  | 'v' => some (.inl '\x0B') | 'f' => some (.inl '\x0C') | 'r' => some (.inl '\r')
  | 'e' => some (.inl '\x1B') | ' ' => some (.inl ' ') | '"' => some (.inl '"')
  | '\x27' => some (.inl '\x27') | '\\' => some (.inl '\\')
  | 'N' => some (.inl '\u0085') | '_' => some (.inl '\u00A0') | 'L' => some (.inl '\u2028')
  | 'P' => some (.inl '\u2029') | 'x' => some (.inr 2) | 'u' => some (.inr 4)
  | 'U' => some (.inr 8) | _ => none

/-- The value of `len` hexadecimal digits from `k` places ahead, if they are digits. -/
def hexCode (s : Scanner) (k len : Nat) : Option Nat :=
  (List.range len).foldl (fun acc i => acc.bind fun v =>
    let c := s.peekAt (k + i)
    if isHexChar c then some (16 * v + hexValue c) else none) (some 0)

/-- Consumes the non-blank characters of a quoted scalar up to its closing quote; reports
whether it ended at an escaped line break. -/
def quotedWord (s : Scanner) (single : Bool) (text : String) (start : Mark) :
    Nat → Except Problem (Scanner × String × Bool)
  | 0 => .ok (s, text, false)
  | n + 1 =>
    let c := s.cur
    if isBlankZ c then .ok (s, text, false)
    else if single && c = '\x27' && s.peekAt 1 = '\x27' then quotedWord s.skip.skip single (text.push '\x27') start n
    else if single && c = '\x27' then .ok (s, text, false)
    else if !single && c = '"' then .ok (s, text, false)
    else if !single && c = '\\' && isBreak (s.peekAt 1) then .ok (s.skip.skipLine, text, true)
    else if !single && c = '\\' then
      match escapeOf (s.peekAt 1) with
      | some (.inl ch) => quotedWord s.skip.skip single (text.push ch) start n
      | some (.inr len) =>
        let s := s.skip.skip
        match s.hexCode 0 len with
        | none => s.fail start "did not find expected hexdecimal number"
        | some v =>
          if (0xD800 ≤ v && v ≤ 0xDFFF) || v > 0x10FFFF then
            s.fail start "found invalid Unicode character escape code"
          else
            let s := (List.range len).foldl (fun s _ => s.skip) s
            quotedWord s single (text.push (Char.ofNat v)) start n
      | none => s.fail start "found unknown escape character"
    else
      let (s, t) := s.read text
      quotedWord s single t start n

/-- Reads the lines of a quoted scalar up to its closing quote. -/
def quotedLines (s : Scanner) (single : Bool) (f : Folding) (start : Mark) :
    Nat → Except Problem (Scanner × String)
  | 0 => .ok (s, f.text)
  | n + 1 => do
    if s.mark.column = 0 && s.documentIndicatorAhead then
      s.fail start "found unexpected document indicator"
    else if s.cur = endChar then s.fail start "found unexpected end of stream"
    else
      let (s, t, escapedBreak) ← s.quotedWord single f.text start s.budget
      let f := { f with text := t, leadingBlanks := escapedBreak }
      if (single && s.cur = '\x27') || (!single && s.cur = '"') then return (s.skip, f.text)
      let (s, f) ← s.foldBlanks f none s.budget
      let f := if f.leadingBlanks then
          let t := if f.leadingBreak.startsWith "\n" then
              (if f.trailingBreaks.isEmpty then f.text.push ' ' else f.text ++ f.trailingBreaks)
            else f.text ++ f.leadingBreak ++ f.trailingBreaks
          { f with text := t, leadingBreak := "", trailingBreaks := "" }
        else { f with text := f.text ++ f.whitespaces, whitespaces := "" }
      quotedLines s single f start n

/-- A single- or double-quoted scalar. -/
def quotedScalar (s : Scanner) (single : Bool) : Except Problem Scanner := do
  let s ← s.saveSimpleKey
  let s := { s with keyAllowed := false }
  let start := s.mark
  let (s, text) ← s.skip.quotedLines single {} start s.budget
  return s.pushToken { type := .scalar, start, stop := s.mark, value := text,
                       style := if single then .singleQuoted else .doubleQuoted }

/-- Skips the indentation of a block scalar's line, up to `indent` when it is known. -/
def skipIndentation (s : Scanner) (indent : Nat) : Nat → Scanner
  | 0 => s
  | n + 1 => if (indent = 0 || s.mark.column < indent) && s.cur = ' ' then skipIndentation s.skip indent n else s

/-- Skips indentation and empty lines in a block scalar, collecting the line breaks; also
reports the deepest indentation seen. -/
def blockBreaksLoop (s : Scanner) (indent : Nat) (breaks : String) (stop : Mark) (deepest : Nat)
    (start : Mark) : Nat → Except Problem (Scanner × String × Mark × Nat)
  | 0 => .ok (s, breaks, stop, deepest)
  | n + 1 =>
    let s := s.skipIndentation indent s.budget
    let deepest := max deepest s.mark.column
    if (indent = 0 || s.mark.column < indent) && s.cur = '\t' then
      s.fail start "found a tab character where an indentation space is expected"
    else if !isBreak s.cur then .ok (s, breaks, stop, deepest)
    else
      let (s, b) := s.readLine breaks
      blockBreaksLoop s indent b s.mark deepest start n

/-- Skips indentation and empty lines in a block scalar; an unknown indentation becomes that
of the first non-empty line, at least one more than the enclosing block and at least 1. -/
def blockBreaks (s : Scanner) (indent : Nat) (breaks : String) (start : Mark) :
    Except Problem (Scanner × Nat × String × Mark) := do
  let (s, b, stop, deepest) ← s.blockBreaksLoop indent breaks s.mark 0 start s.budget
  let indent := if indent = 0 then (max (max (deepest : Int) (s.indent + 1)) 1).toNat else indent
  return (s, indent, b, stop)

/-- Reads one line of block scalar content. -/
def blockLine (s : Scanner) (text : String) : Scanner × String :=
  s.readWhile (fun c => !isBreakZ c) text s.budget

/-- Reads the lines of a block scalar at its indentation. -/
def blockLines (s : Scanner) (literal : Bool) (indent : Nat) (text leadingBreak trailing : String)
    (leadingBlank : Bool) (stop start : Mark) :
    Nat → Except Problem (Scanner × String × String × String × Mark)
  | 0 => .ok (s, text, leadingBreak, trailing, stop)
  | n + 1 => do
    if !(s.mark.column = indent && s.cur ≠ endChar) then return (s, text, leadingBreak, trailing, stop)
    let trailingBlank := isBlank s.cur
    let text := if !literal && !leadingBlank && !trailingBlank && leadingBreak.startsWith "\n" then
        (if trailing.isEmpty then text.push ' ' else text)
      else text ++ leadingBreak
    let text := text ++ trailing
    let leadingBlank := isBlank s.cur
    let (s, text) := s.blockLine text
    let (s, lb) := s.readLine ""
    let (s, indent, trailing, stop) ← s.blockBreaks indent "" start
    blockLines s literal indent text lb trailing leadingBlank stop start n

/-- A literal (`|`) or folded (`>`) block scalar with its chomping and indentation indicators. -/
def blockScalar (s : Scanner) (literal : Bool) : Except Problem Scanner := do
  let s ← s.removeSimpleKey
  let s := { s with keyAllowed := true }
  let start := s.mark
  let s := s.skip
  let chompOf (c : Char) : Int := if c = '+' then 1 else -1
  let (s, chomping, increment) ← if s.cur = '+' || s.cur = '-' then
      let ch := chompOf s.cur
      let s := s.skip
      if s.cur.isDigit then
        if s.cur = '0' then s.fail start "found an indentation indicator equal to 0"
        else pure (s.skip, ch, s.cur.toNat - 48)
      else pure (s, ch, 0)
    else if s.cur.isDigit then
      if s.cur = '0' then s.fail start "found an indentation indicator equal to 0"
      else
        let inc := s.cur.toNat - 48
        let s := s.skip
        if s.cur = '+' || s.cur = '-' then pure (s.skip, chompOf s.cur, inc) else pure (s, 0, inc)
    else pure (s, 0, 0)
  let s := s.skipWhile isBlank s.budget
  let s := if s.cur = '#' then s.skipWhile (fun c => !isBreakZ c) s.budget else s
  if !isBreakZ s.cur then s.fail start "did not find expected comment or line break"
  else
    let s := s.skipLine
    let indent := if increment > 0 then
        (if s.indent ≥ 0 then (s.indent + increment).toNat else increment) else 0
    let (s, indent, trailing, stop) ← s.blockBreaks indent "" start
    let (s, text, leadingBreak, trailing, stop) ←
      s.blockLines literal indent "" "" trailing false stop start s.budget
    let text := if chomping ≠ -1 then text ++ leadingBreak else text
    let text := if chomping = 1 then text ++ trailing else text
    return s.pushToken { type := .scalar, start, stop, value := text,
                         style := if literal then .literal else .folded }

/-- Whether a plain scalar may start here. -/
def plainStart (s : Scanner) : Bool :=
  let c := s.cur
  let next := s.peekAt 1
  !(isBlankZ c || "-?:,[]\x7b\x7d#&*!|>\x27\"%@".toList.contains c || c.toNat = 96) ||
    (c = '-' && !isBlank next) ||
    (s.flowLevel = 0 && (c = '?' || c = ':') && !isBlankZ next)

/-- Reads the token that starts at the current character. -/
def fetchToken (s : Scanner) : Except Problem Scanner :=
  let c := s.cur
  let next := s.peekAt 1
  if c = '[' then s.flowCollectionStart .flowSequenceStart
  else if c = '{' then s.flowCollectionStart .flowMappingStart
  else if c = ']' then s.flowCollectionEnd .flowSequenceEnd
  else if c = '}' then s.flowCollectionEnd .flowMappingEnd
  else if c = ',' then s.flowEntry
  else if c = '-' && isBlankZ next then s.blockEntry
  else if c = '?' && (s.flowLevel > 0 || isBlankZ next) then s.explicitKey
  else if c = ':' && (s.flowLevel > 0 || isBlankZ next) then s.valueIndicator
  else if c = '*' then s.anchorOrAlias .alias
  else if c = '&' then s.anchorOrAlias .anchor
  else if c = '!' then s.tagToken
  else if c = '|' && s.flowLevel = 0 then s.blockScalar true
  else if c = '>' && s.flowLevel = 0 then s.blockScalar false
  else if c = '\x27' then s.quotedScalar true
  else if c = '"' then s.quotedScalar false
  else if s.plainStart then s.plainScalar
  else s.fail s.mark "found character that cannot start any token"

/-- Whether reading on to `reach` characters needs characters past those at hand that could
not be read. -/
def beyond (s : Scanner) (reach : Nat) : Bool :=
  s.broken.isSome && reach > s.text.size

/-- Fails with the problem of the characters past those at hand if the next `n` characters are
needed and some of them could not be read. -/
def needs (s : Scanner) (n : Nat) : Except Problem Unit :=
  match s.broken with
  | some why => if s.mark.index + n > s.text.size then .error (Problem.plain why) else .ok ()
  | none => .ok ()

/-- Reads the token that starts at the current character, the document markers and directives
that start a line among them. -/
def fetchAt (s : Scanner) : Except Problem Scanner := do
  let c := s.cur
  if c = endChar then s.streamEnd
  else if s.mark.column = 0 && c = '%' then s.directive
  else if s.mark.column = 0 && c = '-' && s.documentIndicatorAhead then s.documentIndicator .documentStart
  else if s.mark.column = 0 && c = '.' && s.documentIndicatorAhead then s.documentIndicator .documentEnd
  else
    let s ← s.fetchToken
    if s.tokens.back?.map (·.type) == some .blockEntry then return s
    else return s.lineComment

/-- Reads the next token (or tokens, when indentation closes blocks). The characters needed are
one to start with and four where the token starts (the longest indicator and the blank after
it), then those the token spans and the one after it; needing a character that could not be
read fails with the problem of reading it, even where the characters at hand would show
another problem. -/
def fetchNext (s : Scanner) : Except Problem Scanner := do
  s.needs 1
  if !s.started then return s.streamStart
  let scanMark := s.mark
  let s := s.toNextToken s.budget
  let s := s.unrollIndent s.mark.column scanMark
  s.needs 4
  match s.fetchAt with
  | .ok t => t.needs 1; return t
  | .error p =>
    match s.broken with
    | some why => if s.beyond (p.found.index + 1) then throw (Problem.plain why) else throw p
    | none => throw p

/-- Reads tokens until the parser may look at the head: two more must be available, and more
while the head may still become a key. -/
def fetchMore (s : Scanner) : Nat → Except Problem Scanner
  | 0 => .ok { s with available := true }
  | n + 1 => do
    if s.parsed + 2 < s.tokens.size then
      match s.keys.findIdx? (fun k => k.possible && k.number = s.parsed) with
      | none => return { s with available := true }
      | some i =>
        let (valid, k) ← s.keyValid (s.keys.getD i {})
        if !valid then return { s with keys := s.keys.set! i k, available := true }
    let s ← s.fetchNext
    fetchMore s n

/-- The token at the head, reading more as needed. -/
def peek (s : Scanner) : Except Problem (Token × Scanner) := do
  let s ← if s.available then pure s else s.fetchMore (s.text.size + 8)
  return (s.tokens.getD s.parsed { type := .streamEnd, start := s.mark, stop := s.mark }, s)

/-- Hands the head token to the parser. -/
def advance (s : Scanner) : Scanner :=
  { s with parsed := s.parsed + 1, available := false }

end Scanner

end LogStore.Yaml
