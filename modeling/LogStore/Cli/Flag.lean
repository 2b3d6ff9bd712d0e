import LogStore.Text.Integer
import LogStore.Text.Quoted
import LogStore.Text.Utf8
import LogStore.Text.Space

/-!
# Command-line flags

A flag has a long name, maybe a one-letter shorthand, a kind (text, whole number or switch), a
usage line and a default. Arguments are read left to right:

* `--name=value`, or `--name value`, sets a flag; a switch takes no value unless it is given
  with `=`;
* `-x value`, `-xvalue` and `-x=value` set a flag by its shorthand; several switches may share
  one dash (`-hv`); each letter after the first is read against the arguments as they stood
  before the group;
* `--` ends the flags, and everything after it is an argument;
* anything else, including a lone `-`, is an argument, wherever it stands.

A whole number is read with its base prefix (`0x`, `0o`, `0b`, or `0` for octal); a switch
takes `1 t T TRUE true True` or `0 f F FALSE false False`. A value that does not read is
refused as `invalid argument "v" for "-x, --name" flag: <why>`; an unknown flag as
`unknown flag: --name` or `unknown shorthand flag: 'x' in -xyz`; a missing value as
`flag needs an argument: …`.

`flagUsages` lists flags sorted by name, one a line, their usage texts aligned in one column,
with the default when it is not the kind's zero.
-/

namespace LogStore.Cli

/-- The kind of value a flag takes. -/
inductive FlagKind where
  | text
  | int
  | bool
  deriving DecidableEq, Inhabited

/-- A command-line flag. -/
structure Flag where
  name : String
  shorthand : Option Char := none
  kind : FlagKind := .text
  usage : String
  /-- The default value, as text. -/
  default : String := ""
  deriving Inhabited

/-- The values set on the command line, each flag once with its last value. -/
abbrev FlagValues := List (String × String)

/-- Records a flag's value, replacing an earlier one. -/
def FlagValues.put (vs : FlagValues) (name value : String) : FlagValues :=
  vs.filter (·.1 ≠ name) ++ [(name, value)]

/-- The value of a switch: `1 t T TRUE true True` are true, `0 f F FALSE false False` false. -/
def parseBool (s : String) : Option Bool :=
  if ["1", "t", "T", "TRUE", "true", "True"].contains s then some true
  else if ["0", "f", "F", "FALSE", "false", "False"].contains s then some false
  else none

/-- How a flag is named in messages: `-x, --name`, or `--name` without a shorthand. -/
def Flag.shownName (f : Flag) : String :=
  match f.shorthand with
  | some c => "-" ++ c.toString ++ ", --" ++ f.name
  | none => "--" ++ f.name

/-- The value a flag keeps for a given text (a number in decimal), or why it is refused. -/
def Flag.read (f : Flag) (value : String) : Except String String :=
  let why : Except String String := match f.kind with
    | .text => .ok value
    | .int => match Text.parseIntBase0 value with
      | .ok n => .ok (toString n)
      | .error e => .error ("strconv.ParseInt: parsing " ++ Text.quote value ++ ": " ++ e.text)
    | .bool => match parseBool value with
      | some b => .ok (if b then "true" else "false")
      | none => .error ("strconv.ParseBool: parsing " ++ Text.quote value ++ ": invalid syntax")
  match why with
  | .ok v => .ok v
  | .error e =>
    .error ("invalid argument " ++ Text.quote value ++ " for " ++ Text.quote f.shownName ++
      " flag: " ++ e)

/-- The value a flag given without one takes: `true` for a switch. -/
def Flag.implied (f : Flag) : Option String :=
  if f.kind = .bool then some "true" else none

/-- The flag of a long name. -/
def lookupLong (flags : List Flag) (name : String) : Option Flag :=
  flags.find? (·.name = name)

/-- The flag of a shorthand. -/
def lookupShort (flags : List Flag) (c : Char) : Option Flag :=
  flags.find? (·.shorthand = some c)

/-- What reading the flags found: the values set and the other arguments, in order. -/
structure Parsed where
  values : FlagValues := []
  args : List String := []

/-- Reads `--name[=value]`, given without its dashes, taking its value from `rest` when needed;
`whole` is the argument as written. -/
def parseLong (flags : List Flag) (whole body : String) (rest : List String) (vs : FlagValues) :
    Except String (FlagValues × List String) :=
  match body.toList with
  | [] | '-' :: _ | '=' :: _ => .error ("bad flag syntax: " ++ whole)
  | cs =>
    let name := String.ofList (cs.takeWhile (· ≠ '='))
    let given : Option String :=
      if cs.contains '=' then some (String.ofList ((cs.dropWhile (· ≠ '=')).drop 1)) else none
    match lookupLong flags name with
    | none => .error ("unknown flag: --" ++ name)
    | some f =>
      let pick : Except String (String × List String) :=
        match given, f.implied, rest with
        | some v, _, _ => .ok (v, rest)
        | none, some v, _ => .ok (v, rest)
        | none, none, v :: more => .ok (v, more)
        | none, none, [] => .error ("flag needs an argument: " ++ whole)
      match pick with
      | .error e => .error e
      | .ok (v, rest) =>
        match f.read v with
        | .ok kept => .ok (vs.put f.name kept, rest)
        | .error e => .error e

/-- The bytes of `test.`, which start the flags a test runner passes to a program. -/
def testFlagPrefix : List UInt8 := [116, 101, 115, 116, 46]

/-- Reads a group of shorthands (the bytes after the dash); every letter is read against the
arguments `args` that followed the group, and the arguments left are those of the last letter.
What is left of the group once it reads `test.` is a test runner's flag, and is passed
over. -/
def parseShorts (flags : List Flag) (args : List String) :
    List UInt8 → FlagValues → List String → Except String (FlagValues × List String)
  | [], vs, left => .ok (vs, left)
  | b :: more, vs, _ =>
    if testFlagPrefix.isPrefixOf (b :: more) then .ok (vs, args) else
    let c := Char.ofNat b.toNat
    let here := Text.Utf8.lossy ⟨(b :: more).toArray⟩
    match lookupShort flags c with
    | none => .error ("unknown shorthand flag: " ++ Text.quoteRune c ++ " in -" ++ here)
    | some f =>
      let finish (v : String) (left : List String) : Except String (FlagValues × List String) :=
        match f.read v with
        | .ok kept => .ok (vs.put f.name kept, left)
        | .error e => .error e
      match more, f.implied with
      | 61 :: value@(_ :: _), _ => finish (Text.Utf8.lossy ⟨value.toArray⟩) args
      | _, some v =>
        match f.read v with
        | .ok kept => parseShorts flags args more (vs.put f.name kept) args
        | .error e => .error e
      | _ :: _, none => finish (Text.Utf8.lossy ⟨more.toArray⟩) args
      | [], none =>
        match args with
        | v :: rest => finish v rest
        | [] => .error ("flag needs an argument: " ++ Text.quoteRune c ++ " in -" ++ here)

/-- Reads arguments, collecting flag values and the other arguments. -/
def parseFrom (flags : List Flag) : List String → Parsed → Nat → Except String Parsed
  | _, p, 0 => .ok p
  | [], p, _ + 1 => .ok p
  | s :: rest, p, fuel + 1 =>
    match s.toList with
    | '-' :: '-' :: [] => .ok { p with args := p.args ++ rest }
    | '-' :: '-' :: body =>
      match parseLong flags s (String.ofList body) rest p.values with
      | .ok (vs, rest) => parseFrom flags rest { p with values := vs } fuel
      | .error e => .error e
    | '-' :: _ :: _ =>
      match parseShorts flags rest (s.toUTF8.toList.drop 1) p.values rest with
      | .ok (vs, rest) => parseFrom flags rest { p with values := vs } fuel
      | .error e => .error e
    | _ => parseFrom flags rest { p with args := p.args ++ [s] } fuel

/-- Reads a command line against a list of flags. -/
def parseFlags (flags : List Flag) (args : List String) : Except String Parsed :=
  parseFrom flags args {} (args.length + 1)

/-- Whether a flag's default is the zero of its kind, which usage lines leave out. -/
def Flag.defaultIsZero (f : Flag) : Bool :=
  match f.kind with
  | .text => f.default = ""
  | .int => f.default = "0"
  | .bool => f.default = "false"

/-- The name a usage line gives a flag's value. -/
def Flag.valueName (f : Flag) : String :=
  match f.kind with
  | .text => "string"
  | .int => "int"
  | .bool => ""

/-- The part of a flag's usage line before the usage text. -/
def Flag.usageHead (f : Flag) : String :=
  (match f.shorthand with
    | some c => "  -" ++ c.toString ++ ", --" ++ f.name
    | none => "      --" ++ f.name) ++
  (if f.valueName.isEmpty then "" else " " ++ f.valueName)

/-- The usage text of a flag, with its default when it is not the zero. -/
def Flag.usageTail (f : Flag) : String :=
  f.usage ++
    if f.defaultIsZero then ""
    else if f.kind = .text then " (default " ++ Text.quote f.default ++ ")"
    else " (default " ++ f.default ++ ")"

/-- The usage lines of flags, sorted by name, their texts aligned two columns after the longest
head. -/
def flagUsages (flags : List Flag) : String :=
  let sorted := flags.mergeSort (fun a b => decide (a.name ≤ b.name))
  let width := (sorted.map (·.usageHead.length)).foldl max 0 + 1
  String.join (sorted.map fun f =>
    f.usageHead ++ String.ofList (List.replicate (width - f.usageHead.length + 2) ' ') ++
      f.usageTail ++ "\n")

end LogStore.Cli
