import LogStore.Yaml.Scanner

/-!
# Parsing YAML tokens into nodes

The parser is a state machine over the tokens: each step reads a few tokens and yields one
event (the start or end of the stream, a document, a sequence or a mapping, a scalar, an
alias), keeping a stack of states to return to and of the marks where open collections
started. A missing key, entry, node or closing bracket is a problem located at the token where
it was expected, in the context of the collection that was open.

The tree builder then reads the events of the first document into nodes. Each node knows the
line it starts on and its tag: an explicit tag in short form (`!!str`), `!!seq` or `!!map` for
collections, `!!str` for quoted and block scalars, and for plain scalars the tag their text
resolves to (`resolveTag`, supplied by the caller). An anchor names the node it is put on; an
alias refers to the node last named so, which must exist.
-/

namespace LogStore.Yaml

/-- The kinds of events. -/
inductive EventType where
  | streamStart
  | streamEnd
  | documentStart
  | documentEnd
  | alias
  | scalar
  | sequenceStart
  | sequenceEnd
  | mappingStart
  | mappingEnd
  deriving DecidableEq, Inhabited

/-- An event with where it starts and ends. -/
structure Event where
  type : EventType
  start : Mark
  stop : Mark
  anchor : String := ""
  tag : String := ""
  value : String := ""
  style : ScalarStyle := .plain
  deriving Inhabited

/-- What the parser expects next. -/
inductive State where
  | streamStart
  | implicitDocumentStart
  | documentStart
  | documentContent
  | documentEnd
  | blockNode
  | blockNodeOrIndentlessSequence
  | flowNode
  | blockSequenceFirstEntry
  | blockSequenceEntry
  | indentlessSequenceEntry
  | blockMappingFirstKey
  | blockMappingKey
  | blockMappingValue
  | flowSequenceFirstEntry
  | flowSequenceEntry
  | flowSequenceEntryMappingKey
  | flowSequenceEntryMappingValue
  | flowSequenceEntryMappingEnd
  | flowMappingFirstKey
  | flowMappingKey
  | flowMappingValue
  | flowMappingEmptyValue
  | finished
  deriving DecidableEq, Inhabited

/-- The tag handles every document knows. -/
def defaultTagDirectives : List (String × String) :=
  [("!", "!"), ("!!", "tag:yaml.org,2002:")]

/-- The state of the parser. -/
structure Parser where
  scanner : Scanner
  state : State := .streamStart
  states : List State := []
  marks : List Mark := []
  tagDirectives : List (String × String) := []
  deriving Inhabited

/-- A parser problem found at `found` while reading the construct at `context`. -/
def parseFailure {α : Type} (context : Mark) (text : String) (found : Mark) : Except Problem α :=
  .error { scanning := false, context, found, text }

namespace Parser

/-- The head token. -/
def peek (p : Parser) : Except Problem (Token × Parser) := do
  let (t, s) ← p.scanner.peek
  return (t, { p with scanner := s })

/-- Moves past the head token. -/
def skipToken (p : Parser) : Parser := { p with scanner := p.scanner.advance }

/-- Returns to the state on top of the stack. -/
def popState (p : Parser) : Parser :=
  match p.states with
  | s :: rest => { p with state := s, states := rest }
  | [] => { p with state := .finished }

/-- Pushes a state to return to. -/
def pushState (p : Parser) (s : State) : Parser := { p with states := s :: p.states }

/-- Drops the mark of the innermost open collection, returning it. -/
def popMark (p : Parser) : Mark × Parser :=
  match p.marks with
  | m :: rest => (m, { p with marks := rest })
  | [] => ({}, p)

/-- An empty plain scalar at `mark`. -/
def emptyScalar (mark : Mark) : Event :=
  { type := .scalar, start := mark, stop := mark }

/-- Reads the `%YAML` and `%TAG` directives before a document. -/
def directivesFrom (p : Parser) (version : Bool) (tags : List (String × String)) :
    Nat → Except Problem (Parser × List (String × String))
  | 0 => .ok (p, tags)
  | n + 1 => do
    let (t, p) ← p.peek
    if t.type = .versionDirective then
      if version then parseFailure {} "found duplicate %YAML directive" t.start
      else if t.major ≠ 1 || t.minor ≠ 1 then parseFailure {} "found incompatible YAML document" t.start
      else directivesFrom p.skipToken true tags n
    else if t.type = .tagDirective then
      if tags.any (·.1 = t.handle) then parseFailure {} "found duplicate %TAG directive" t.start
      else directivesFrom p.skipToken version (tags ++ [(t.handle, t.value)]) n
    else
      let tags := tags ++ defaultTagDirectives.filter fun d => !tags.any (·.1 = d.1)
      return ({ p with tagDirectives := tags }, tags)

/-- Reads the directives before a document. -/
def directives (p : Parser) : Except Problem Parser := do
  let (p, _) ← p.directivesFrom false [] (p.scanner.text.size + 2)
  return p

/-- Skips `...` indicators that follow a document end. -/
def skipDocumentEnds (t : Token) (p : Parser) : Nat → Except Problem (Token × Parser)
  | 0 => .ok (t, p)
  | n + 1 =>
    if t.type = .documentEnd then do
      let (t, p) ← p.skipToken.peek
      skipDocumentEnds t p n
    else .ok (t, p)

/-- The start of a document, or the end of the stream. -/
def documentStart (p : Parser) (implicit : Bool) : Except Problem (Event × Parser) := do
  let (t, p) ← p.peek
  let (t, p) ← if implicit then pure (t, p) else skipDocumentEnds t p (p.scanner.text.size + 2)
  if implicit && t.type ≠ .versionDirective && t.type ≠ .tagDirective &&
      t.type ≠ .documentStart && t.type ≠ .streamEnd then
    let p ← p.directives
    let p := (p.pushState .documentEnd)
    return ({ type := .documentStart, start := t.start, stop := t.start }, { p with state := .blockNode })
  else if t.type ≠ .streamEnd then
    let start := t.start
    let p ← p.directives
    let (t, p) ← p.peek
    if t.type ≠ .documentStart then parseFailure {} "did not find expected <document start>" t.start
    else
      let p := p.pushState .documentEnd
      return ({ type := .documentStart, start, stop := t.stop },
              { p.skipToken with state := .documentContent })
  else
    return ({ type := .streamEnd, start := t.start, stop := t.stop }, { p.skipToken with state := .finished })

/-- The end of a document, explicit (`...`) or implied. -/
def documentEnd (p : Parser) : Except Problem (Event × Parser) := do
  let (t, p) ← p.peek
  let (stop, p) := if t.type = .documentEnd then (t.stop, p.skipToken) else (t.start, p)
  return ({ type := .documentEnd, start := t.start, stop },
          { p with state := .documentStart, tagDirectives := [] })

/-- The full tag a handle and suffix stand for, by the document's tag directives. -/
def resolveHandle (p : Parser) (handle suffix : String) (start tagMark : Mark) :
    Except Problem String :=
  if handle.isEmpty then .ok suffix
  else match p.tagDirectives.lookup handle with
    | some pfx => .ok (pfx ++ suffix)
    | none => parseFailure start "found undefined tag handle" tagMark

/-- A node: an alias, or properties (anchor, tag) followed by a scalar, a collection start, or
nothing (an empty scalar). -/
def node (p : Parser) (block indentless : Bool) : Except Problem (Event × Parser) := do
  let (t, p) ← p.peek
  if t.type = .alias then
    return ({ type := .alias, start := t.start, stop := t.stop, anchor := t.value }, p.skipToken.popState)
  let start := t.start
  -- Properties: an anchor and a tag, in either order.
  let (anchor, tagParts, stop, t, p) ← if t.type = .anchor then do
      let (t2, p2) ← p.skipToken.peek
      if t2.type = .tag then
        let (t3, p3) ← p2.skipToken.peek
        pure (t.value, some (t2.handle, t2.value, t2.start), t2.stop, t3, p3)
      else pure (t.value, none, t.stop, t2, p2)
    else if t.type = .tag then do
      let (t2, p2) ← p.skipToken.peek
      if t2.type = .anchor then
        let (t3, p3) ← p2.skipToken.peek
        pure (t2.value, some (t.handle, t.value, t.start), t2.stop, t3, p3)
      else pure ("", some (t.handle, t.value, t.start), t.stop, t2, p2)
    else pure ("", none, t.start, t, p)
  let tag ← match tagParts with
    | some (h, s, m) => p.resolveHandle h s start m
    | none => pure ""
  if indentless && t.type = .blockEntry then
    return ({ type := .sequenceStart, start, stop := t.stop, anchor, tag },
            { p with state := .indentlessSequenceEntry })
  else if t.type = .scalar then
    return ({ type := .scalar, start, stop := t.stop, anchor, tag, value := t.value, style := t.style },
            p.skipToken.popState)
  else if t.type = .flowSequenceStart then
    return ({ type := .sequenceStart, start, stop := t.stop, anchor, tag, style := .plain },
            { p with state := .flowSequenceFirstEntry })
  else if t.type = .flowMappingStart then
    return ({ type := .mappingStart, start, stop := t.stop, anchor, tag },
            { p with state := .flowMappingFirstKey })
  else if block && t.type = .blockSequenceStart then
    return ({ type := .sequenceStart, start, stop := t.stop, anchor, tag },
            { p with state := .blockSequenceFirstEntry })
  else if block && t.type = .blockMappingStart then
    return ({ type := .mappingStart, start, stop := t.stop, anchor, tag },
            { p with state := .blockMappingFirstKey })
  else if !anchor.isEmpty || tagParts.isSome then
    return ({ type := .scalar, start, stop, anchor, tag }, p.popState)
  else
    parseFailure start "did not find expected node content" t.start

/-- An entry of a block sequence, or its end. -/
def blockSequenceEntry (p : Parser) (first : Bool) : Except Problem (Event × Parser) := do
  let p ← if first then do
      let (t, p) ← p.peek
      pure { p.skipToken with marks := t.start :: p.marks }
    else pure p
  let (t, p) ← p.peek
  if t.type = .blockEntry then
    let mark := t.stop
    let (t, p) ← p.skipToken.peek
    if t.type ≠ .blockEntry && t.type ≠ .blockEnd then
      (p.pushState .blockSequenceEntry).node true false
    else return (emptyScalar mark, { p with state := .blockSequenceEntry })
  else if t.type = .blockEnd then
    let (_, p) := p.popMark
    return ({ type := .sequenceEnd, start := t.start, stop := t.stop }, p.popState.skipToken)
  else
    let (m, _) := p.popMark
    parseFailure m "did not find expected '-' indicator" t.start

/-- An entry of a sequence written at the indentation of its mapping key, or its end. -/
def indentlessSequenceEntry (p : Parser) : Except Problem (Event × Parser) := do
  let (t, p) ← p.peek
  if t.type = .blockEntry then
    let mark := t.stop
    let (t, p) ← p.skipToken.peek
    if t.type ≠ .blockEntry && t.type ≠ .key && t.type ≠ .value && t.type ≠ .blockEnd then
      (p.pushState .indentlessSequenceEntry).node true false
    else return (emptyScalar mark, { p with state := .indentlessSequenceEntry })
  else return ({ type := .sequenceEnd, start := t.start, stop := t.start }, p.popState)

/-- A key of a block mapping, or its end. -/
def blockMappingKey (p : Parser) (first : Bool) : Except Problem (Event × Parser) := do
  let p ← if first then do
      let (t, p) ← p.peek
      pure { p.skipToken with marks := t.start :: p.marks }
    else pure p
  let (t, p) ← p.peek
  if t.type = .key then
    let mark := t.stop
    let (t, p) ← p.skipToken.peek
    if t.type ≠ .key && t.type ≠ .value && t.type ≠ .blockEnd then
      (p.pushState .blockMappingValue).node true true
    else return (emptyScalar mark, { p with state := .blockMappingValue })
  else if t.type = .blockEnd then
    let (_, p) := p.popMark
    return ({ type := .mappingEnd, start := t.start, stop := t.stop }, p.popState.skipToken)
  else
    let (m, _) := p.popMark
    parseFailure m "did not find expected key" t.start

/-- A value of a block mapping, which may be empty. -/
def blockMappingValue (p : Parser) : Except Problem (Event × Parser) := do
  let (t, p) ← p.peek
  if t.type = .value then
    let mark := t.stop
    let (t, p) ← p.skipToken.peek
    if t.type ≠ .key && t.type ≠ .value && t.type ≠ .blockEnd then
      (p.pushState .blockMappingKey).node true true
    else return (emptyScalar mark, { p with state := .blockMappingKey })
  else return (emptyScalar t.start, { p with state := .blockMappingKey })

/-- An entry of a flow sequence, or its end. -/
def flowSequenceEntry (p : Parser) (first : Bool) : Except Problem (Event × Parser) := do
  let p ← if first then do
      let (t, p) ← p.peek
      pure { p.skipToken with marks := t.start :: p.marks }
    else pure p
  let (t, p) ← p.peek
  if t.type ≠ .flowSequenceEnd then
    let (t, p) ← if !first then
        if t.type = .flowEntry then p.skipToken.peek
        else
          let (m, _) := p.popMark
          parseFailure m "did not find expected ',' or ']'" t.start
      else pure (t, p)
    if t.type = .key then
      return ({ type := .mappingStart, start := t.start, stop := t.stop },
              { p.skipToken with state := .flowSequenceEntryMappingKey })
    else if t.type ≠ .flowSequenceEnd then
      return ← (p.pushState .flowSequenceEntry).node false false
    else
      let (_, p) := p.popMark
      return ({ type := .sequenceEnd, start := t.start, stop := t.stop }, p.popState.skipToken)
  else
    let (_, p) := p.popMark
    return ({ type := .sequenceEnd, start := t.start, stop := t.stop }, p.popState.skipToken)

/-- The key of a one-pair mapping inside a flow sequence. -/
def flowSequenceEntryMappingKey (p : Parser) : Except Problem (Event × Parser) := do
  let (t, p) ← p.peek
  if t.type ≠ .value && t.type ≠ .flowEntry && t.type ≠ .flowSequenceEnd then
    (p.pushState .flowSequenceEntryMappingValue).node false false
  else
    return (emptyScalar t.stop, { p.skipToken with state := .flowSequenceEntryMappingValue })

/-- The value of a one-pair mapping inside a flow sequence. -/
def flowSequenceEntryMappingValue (p : Parser) : Except Problem (Event × Parser) := do
  let (t, p) ← p.peek
  if t.type = .value then
    let (t, p) ← p.skipToken.peek
    if t.type ≠ .flowEntry && t.type ≠ .flowSequenceEnd then
      return ← (p.pushState .flowSequenceEntryMappingEnd).node false false
    else return (emptyScalar t.start, { p with state := .flowSequenceEntryMappingEnd })
  else return (emptyScalar t.start, { p with state := .flowSequenceEntryMappingEnd })

/-- The end of a one-pair mapping inside a flow sequence. -/
def flowSequenceEntryMappingEnd (p : Parser) : Except Problem (Event × Parser) := do
  let (t, p) ← p.peek
  return ({ type := .mappingEnd, start := t.start, stop := t.start }, { p with state := .flowSequenceEntry })

/-- A key of a flow mapping, or its end. -/
def flowMappingKey (p : Parser) (first : Bool) : Except Problem (Event × Parser) := do
  let p ← if first then do
      let (t, p) ← p.peek
      pure { p.skipToken with marks := t.start :: p.marks }
    else pure p
  let (t, p) ← p.peek
  if t.type ≠ .flowMappingEnd then
    let (t, p) ← if !first then
        if t.type = .flowEntry then p.skipToken.peek
        else
          let (m, _) := p.popMark
          parseFailure m "did not find expected ',' or '\x7d'" t.start
      else pure (t, p)
    if t.type = .key then
      let (t, p) ← p.skipToken.peek
      if t.type ≠ .value && t.type ≠ .flowEntry && t.type ≠ .flowMappingEnd then
        return ← (p.pushState .flowMappingValue).node false false
      else return (emptyScalar t.start, { p with state := .flowMappingValue })
    else if t.type ≠ .flowMappingEnd then
      return ← (p.pushState .flowMappingEmptyValue).node false false
    else
      let (_, p) := p.popMark
      return ({ type := .mappingEnd, start := t.start, stop := t.stop }, p.popState.skipToken)
  else
    let (_, p) := p.popMark
    return ({ type := .mappingEnd, start := t.start, stop := t.stop }, p.popState.skipToken)

/-- A value of a flow mapping, which may be empty. -/
def flowMappingValue (p : Parser) (empty : Bool) : Except Problem (Event × Parser) := do
  let (t, p) ← p.peek
  if empty then return (emptyScalar t.start, { p with state := .flowMappingKey })
  if t.type = .value then
    let (t, p) ← p.skipToken.peek
    if t.type ≠ .flowEntry && t.type ≠ .flowMappingEnd then
      return ← (p.pushState .flowMappingKey).node false false
    else return (emptyScalar t.start, { p with state := .flowMappingKey })
  return (emptyScalar t.start, { p with state := .flowMappingKey })

/-- The next event. -/
def next (p : Parser) : Except Problem (Event × Parser) := do
  match p.state with
  | .streamStart =>
    let (t, p) ← p.peek
    if t.type ≠ .streamStart then parseFailure {} "did not find expected <stream-start>" t.start
    else return ({ type := .streamStart, start := t.start, stop := t.stop },
                 { p.skipToken with state := .implicitDocumentStart })
  | .implicitDocumentStart => p.documentStart true
  | .documentStart => p.documentStart false
  | .documentContent => do
    let (t, p') ← p.peek
    if t.type = .versionDirective || t.type = .tagDirective || t.type = .documentStart ||
        t.type = .documentEnd || t.type = .streamEnd then
      return (emptyScalar t.start, p'.popState)
    else p'.node true false
  | .documentEnd => p.documentEnd
  | .blockNode => p.node true false
  | .blockNodeOrIndentlessSequence => p.node true true
  | .flowNode => p.node false false
  | .blockSequenceFirstEntry => p.blockSequenceEntry true
  | .blockSequenceEntry => p.blockSequenceEntry false
  | .indentlessSequenceEntry => p.indentlessSequenceEntry
  | .blockMappingFirstKey => p.blockMappingKey true
  | .blockMappingKey => p.blockMappingKey false
  | .blockMappingValue => p.blockMappingValue
  | .flowSequenceFirstEntry => p.flowSequenceEntry true
  | .flowSequenceEntry => p.flowSequenceEntry false
  | .flowSequenceEntryMappingKey => p.flowSequenceEntryMappingKey
  | .flowSequenceEntryMappingValue => p.flowSequenceEntryMappingValue
  | .flowSequenceEntryMappingEnd => p.flowSequenceEntryMappingEnd
  | .flowMappingFirstKey => p.flowMappingKey true
  | .flowMappingKey => p.flowMappingKey false
  | .flowMappingValue => p.flowMappingValue false
  | .flowMappingEmptyValue => p.flowMappingValue true
  | .finished =>
    let m := p.scanner.mark
    return ({ type := .streamEnd, start := m, stop := m }, p)

end Parser

/-- A node of a YAML document. -/
inductive Node where
  /-- A scalar: its text, tag and style. -/
  | scalar (value tag : String) (style : ScalarStyle) (line : Nat)
  | sequence (items : List Node) (tag : String) (line : Nat)
  | mapping (entries : List (Node × Node)) (tag : String) (line : Nat)
  /-- A reference to the anchored node numbered `ref`; `id` tells this reference apart from
  the others. -/
  | alias (name : String) (ref id : Nat) (line : Nat)
  deriving Inhabited

/-- The line a node starts on, counted from one. -/
def Node.line : Node → Nat
  | .scalar _ _ _ l | .sequence _ _ l | .mapping _ _ l | .alias _ _ _ l => l

/-- The tag of a node (empty for an alias). -/
def Node.tag : Node → String
  | .scalar _ t _ _ | .sequence _ t _ | .mapping _ t _ => t
  | .alias _ _ _ _ => ""

/-- The text of a node: a scalar's text, an alias's anchor name, empty for collections. -/
def Node.text : Node → String
  | .scalar v _ _ _ => v
  | .alias n _ _ _ => n
  | _ => ""

/-- The kind of a node, as a number, for telling keys apart. -/
def Node.kindCode : Node → Nat
  | .sequence _ _ _ => 2
  | .mapping _ _ _ => 4
  | .scalar _ _ _ _ => 8
  | .alias _ _ _ _ => 16

/-- The prefix of the tags that YAML itself defines. -/
def longTagPrefix : String := "tag:yaml.org,2002:"

/-- A tag in short form: `tag:yaml.org,2002:str` is `!!str`. -/
def shortTag (t : String) : String :=
  if t.startsWith longTagPrefix then "!!" ++ String.ofList (t.toList.drop longTagPrefix.length) else t

/-- Builds nodes from events: the parser, the event read but not yet used, the anchors by
name with the number of the node each names, the anchored nodes by number (a collection still
being read stands as an empty one of its kind), and how many references were read. -/
structure Builder where
  parser : Parser
  pending : Option Event := none
  anchors : List (String × Nat) := []
  named : Array Node := #[]
  aliases : Nat := 0

namespace Builder

/-- The next event, without using it. -/
def peek (b : Builder) : Except Problem (Event × Builder) := do
  match b.pending with
  | some e => return (e, b)
  | none =>
    let (e, p) ← b.parser.next
    return (e, { b with parser := p, pending := some e })

/-- Uses the next event, which must be of the given type. -/
def expect (b : Builder) (type : EventType) : Except Problem Builder := do
  let (e, b) ← b.peek
  if e.type = .streamEnd && type ≠ .streamEnd then
    .error (Problem.plain "attempted to go past the end of stream; corrupted value?")
  else if e.type ≠ type then .error (Problem.plain "unknown problem parsing YAML content")
  else return { b with pending := none }

/-- Names a node by an anchor, giving it the next number. -/
def name (b : Builder) (anchor : String) (n : Node) : Builder :=
  if anchor.isEmpty then b
  else { b with anchors := (anchor, b.named.size) :: b.anchors.filter (·.1 ≠ anchor),
                named := b.named.push n }

/-- Replaces the numbered node once it has been read whole. -/
def complete (b : Builder) (anchor : String) (id : Nat) (n : Node) : Builder :=
  if anchor.isEmpty then b else { b with named := b.named.setIfInBounds id n }

/-- The tag of a node: an explicit tag in short form, else the given default, else for a scalar
the tag its text resolves to. -/
def tagOf (explicit default : String) (resolved : Option String) : String :=
  if explicit ≠ "" && explicit ≠ "!" then shortTag explicit
  else if default ≠ "" then default
  else resolved.getD ""

mutual

/-- Reads one node. -/
def node (resolveTag : String → String) (b : Builder) : Nat → Except Problem (Node × Builder)
  | 0 => .error (Problem.plain "document nested too deeply")
  | n + 1 => do
    let (e, b) ← b.peek
    let line := e.start.line + 1
    match e.type with
    | .scalar =>
      let default := if e.style = .plain then (if e.value = "<<" then "!!merge" else "") else "!!str"
      let nd := Node.scalar e.value (tagOf e.tag default (some (resolveTag e.value))) e.style line
      let b ← b.expect .scalar
      return (nd, b.name e.anchor nd)
    | .alias =>
      match b.anchors.lookup e.anchor with
      | none => .error (Problem.plain ("unknown anchor '" ++ e.anchor ++ "' referenced"))
      | some ref =>
        let b ← b.expect .alias
        return (.alias e.anchor ref b.aliases line, { b with aliases := b.aliases + 1 })
    | .sequenceStart =>
      let tag := tagOf e.tag "!!seq" none
      let id := b.named.size
      let b := b.name e.anchor (.sequence [] tag line)
      let b ← b.expect .sequenceStart
      let (items, b) ← items resolveTag b n
      let b ← b.expect .sequenceEnd
      let nd := Node.sequence items tag line
      return (nd, b.complete e.anchor id nd)
    | .mappingStart =>
      let tag := tagOf e.tag "!!map" none
      let id := b.named.size
      let b := b.name e.anchor (.mapping [] tag line)
      let b ← b.expect .mappingStart
      let (entries, b) ← entries resolveTag b n
      let b ← b.expect .mappingEnd
      let nd := Node.mapping entries tag line
      return (nd, b.complete e.anchor id nd)
    | _ => .error (Problem.plain "unknown problem parsing YAML content")

/-- Reads the items of a sequence up to its end. -/
def items (resolveTag : String → String) (b : Builder) : Nat → Except Problem (List Node × Builder)
  | 0 => .error (Problem.plain "document nested too deeply")
  | n + 1 => do
    let (e, b) ← b.peek
    if e.type = .sequenceEnd then return ([], b)
    let (x, b) ← node resolveTag b n
    let (xs, b) ← items resolveTag b n
    return (x :: xs, b)

/-- Reads the pairs of a mapping up to its end. -/
def entries (resolveTag : String → String) (b : Builder) : Nat → Except Problem (List (Node × Node) × Builder)
  | 0 => .error (Problem.plain "document nested too deeply")
  | n + 1 => do
    let (e, b) ← b.peek
    if e.type = .mappingEnd then return ([], b)
    let (k, b) ← node resolveTag b n
    let (v, b) ← node resolveTag b n
    let (rest, b) ← entries resolveTag b n
    return ((k, v) :: rest, b)

end

end Builder

/-- A document: its content and its anchored nodes by number. -/
structure Document where
  root : Node
  named : Array Node

/-- The node a reference refers to. -/
def Document.target (d : Document) (ref : Nat) : Node :=
  d.named.getD ref default

/-- The first document of a text, read by the scanner `s`, or `none` when the text has no
document; `resolveTag` gives the tag of a plain scalar's text. -/
def parseDocument (resolveTag : String → String) (s : Scanner) : Except Problem (Option Document) := do
  let b : Builder := { parser := { scanner := s } }
  let fuel := 4 * s.text.size + 16
  let b ← b.expect .streamStart
  let (e, b) ← b.peek
  if e.type = .streamEnd then return none
  let b ← b.expect .documentStart
  let (nd, b) ← Builder.node resolveTag b fuel
  let b ← b.expect .documentEnd
  return some { root := nd, named := b.named }

end LogStore.Yaml
