import LogStore.Cli.Flag
import LogStore.Text.Case

/-!
# Command trees

A program's command line is a tree of commands, each named by its path of names from the root.
A command has a usage line (its name and arguments), a short and a long description, flags of
its own, and persistent flags that its descendants inherit; every command also takes `-h`,
`--help`.

Reading a command line (`resolve`) goes in three steps:

* **Finding the command.** Walking from the root, the first argument that is neither a flag
  nor, seemingly, a flag's value names a child, by its name or an alias; the walk stops at the
  first that names none.
  A flag without `=` that is not a switch is taken to have a value, the next argument, which is
  skipped, and when it is the last argument it ends the search. At the root, an argument left
  over is an unknown command, with suggestions of the commands whose names are within two edits
  or start with it.
* **Reading the flags** of the command found, its own and those it inherits; a command that
  reads no flags gets every argument as it stands.
* **Checking** that the command asks for help (`--help`, or a command with nothing to run) or
  gets the number of arguments it takes.

`helpText` and `usageText` render a command's help the way the program prints it: the
description, then `Usage:`, the subcommands, the flags, the inherited (`Global`) flags.
-/

namespace LogStore.Cli

/-- How many arguments a command takes. -/
inductive ArgRule where
  /-- No rule: any arguments. -/
  | any
  /-- None: an argument is an unknown command. -/
  | none
  | exactly (n : Nat)
  | atLeast (n : Nat)
  deriving DecidableEq, Inhabited

/-- What completing a command's arguments offers besides its subcommands. -/
inductive ArgCompleter where
  /-- Nothing of its own. -/
  | none
  /-- Nothing, and no file names either. -/
  | noFiles
  /-- The subcommands of the command its arguments name, as the help command does. -/
  | commandNames
  deriving DecidableEq, Inhabited

/-- A command of a tree. -/
structure Command where
  /-- The names from the root (empty for the root). -/
  path : List String
  /-- The usage line: the name, then the arguments. -/
  use : String
  short : String := ""
  long : String := ""
  /-- The argument rule; `none` for a command that set none. -/
  args : Option ArgRule := some .any
  /-- Whether the command does something (a command that does not only shows help). -/
  runnable : Bool := true
  flags : List Flag := []
  persistent : List Flag := []
  /-- Whether the usage line ends in `[flags]`. -/
  flagsInUseLine : Bool := true
  hidden : Bool := false
  /-- Other names the command answers to. -/
  aliases : List String := []
  /-- Whether the command reads its flags; one that does not gets every argument as it is. -/
  parsesFlags : Bool := true
  /-- What completing its arguments offers. -/
  completer : ArgCompleter := .none
  deriving Inhabited

/-- A command's name: its usage line up to the first blank. -/
def Command.name (c : Command) : String :=
  String.ofList (c.use.toList.takeWhile (· ≠ ' '))

/-- A program's commands. -/
abbrev Commands := List Command

namespace Commands

/-- The root command. -/
def root (cs : Commands) : Command :=
  (cs.find? (·.path.isEmpty)).getD default

/-- The command at a path. -/
def get? (cs : Commands) (p : List String) : Option Command :=
  cs.find? (·.path = p)

/-- The children of the command at a path, sorted by name. -/
def children (cs : Commands) (p : List String) : List Command :=
  (cs.filter fun c => c.path.length = p.length + 1 && c.path.take p.length = p).mergeSort
    (fun a b => decide (a.name ≤ b.name))

/-- The child of the command at a path with a given name or alias. -/
def child? (cs : Commands) (p : List String) (name : String) : Option Command :=
  (cs.children p).find? fun c => c.name = name || c.aliases.contains name

/-- The path of a command as printed: the root's name and the names below it. -/
def commandPath (cs : Commands) (c : Command) : String :=
  " ".intercalate (cs.root.name :: c.path)

/-- The help flag of a command. -/
def helpFlag (c : Command) : Flag :=
  { name := "help", shorthand := some 'h', kind := .bool, usage := "help for " ++ c.name,
    default := "false" }

/-- Flags with the names in `seen` and repeated names left out. -/
def fresh (seen : List String) : List Flag → List Flag
  | [] => []
  | f :: fs => if seen.contains f.name then fresh seen fs else f :: fresh (f.name :: seen) fs

/-- The flags a command defines for itself, the help flag among them. -/
def localFlags (c : Command) : List Flag :=
  fresh [] (c.flags ++ c.persistent ++ [helpFlag c])

/-- The persistent flags of a command's ancestors, nearest first, that it does not define. -/
def inheritedFlags (cs : Commands) (c : Command) : List Flag :=
  let ancestors := (List.range c.path.length).reverse.filterMap fun n => cs.get? (c.path.take n)
  fresh ((localFlags c).map (·.name)) (ancestors.flatMap (·.persistent))

/-- Every flag a command reads. -/
def allFlags (cs : Commands) (c : Command) : List Flag :=
  localFlags c ++ inheritedFlags cs c

/-- Whether a command is listed: shown, not the help command, and runnable or with listed
children; `fuel` bounds the depth looked at, and the number of commands is always enough. -/
def available (cs : Commands) (c : Command) : Nat → Bool
  | 0 => false
  | fuel + 1 =>
    !c.hidden && c.path ≠ ["help"] &&
      (c.runnable || (cs.children c.path).any fun s => available cs s fuel)

/-- Whether a command is listed, looking as deep as the tree can be. -/
def listed (cs : Commands) (c : Command) : Bool :=
  available cs c cs.length

/-- Whether a command has listed children. -/
def hasAvailableChildren (cs : Commands) (c : Command) : Bool :=
  (cs.children c.path).any cs.listed

end Commands

/-- Whether an argument seems to be a flag that takes the next argument as its value. -/
def takesValue (flags : List Flag) (s : String) : Bool :=
  let cs := s.toList
  if cs.contains '=' then false
  else match cs with
    | '-' :: '-' :: name => ((lookupLong flags (String.ofList name)).bind Flag.implied).isNone
    | ['-', c] => c.toNat < 128 && ((lookupShort flags c).bind Flag.implied).isNone
    | _ => false

/-- The arguments that may name commands: those that are not flags or flag values, up to `--`. -/
def commandWords (flags : List Flag) : List String → List String
  | [] => []
  | s :: rest =>
    if s = "--" then []
    -- the flag's value is skipped; with no word after it nothing is left
    else if takesValue flags s then commandWords flags (rest.drop 1)
    else if s ≠ "" && !s.startsWith "-" then s :: commandWords flags rest
    else commandWords flags rest
termination_by l => l.length
decreasing_by all_goals simp only [List.length_drop, List.length_cons]; omega

/-- The arguments without the first that is `name` and not a flag or a flag's value. -/
def withoutFirst (flags : List Flag) (name : String) : List String → List String
  | [] => []
  | s :: rest =>
    if s = "--" then s :: rest
    else if takesValue flags s then
      match rest with
      | v :: more => s :: v :: withoutFirst flags name more
      | [] => [s]
    else if !s.startsWith "-" && s = name then rest
    else s :: withoutFirst flags name rest

/-- The command a command line names, from `c` down, the word that named it (`called` when
no word below `c` does), and the arguments left for it. -/
def findNamed (cs : Commands) (c : Command) (called : String) (args : List String) :
    Nat → Command × String × List String
  | 0 => (c, called, args)
  | fuel + 1 =>
    let flags := cs.allFlags c
    match commandWords flags args with
    | [] => (c, called, args)
    | next :: _ =>
      match cs.child? c.path next with
      | some sub => findNamed cs sub next (withoutFirst flags next args) fuel
      | none => (c, called, args)

/-- The command a command line names, from `c` down, and the arguments left for it. -/
def findCommand (cs : Commands) (c : Command) (args : List String) (fuel : Nat) :
    Command × List String :=
  let (c, _, rest) := findNamed cs c c.name args fuel
  (c, rest)

/-- The number of edits between two byte strings, ignoring case. -/
def editDistance (a b : String) : Nat :=
  let s := (Text.lower a).toUTF8.toList
  let t := (Text.lower b).toUTF8.toList
  let first := List.range (t.length + 1)
  let last := s.foldl (fun (row : List Nat) (x : UInt8) =>
    let start := row.headD 0 + 1
    let next := (t.zip ((row.zip row.tail).zip (List.range t.length))).foldl
      (fun (acc : List Nat) (entry : UInt8 × (Nat × Nat) × Nat) =>
        let (y, (diag, up), _) := entry
        let left := acc.getLastD 0
        acc ++ [if x = y then diag else min (min up left) diag + 1]) [start]
    next) first
  last.getLastD 0

/-- The suggestions for an unknown command name at the root, as appended to the message. -/
def suggestions (cs : Commands) (typed : String) : String :=
  let names := ((cs.children []).filter cs.listed).filterMap fun c =>
    if editDistance typed c.name ≤ 2 || (Text.lower c.name).startsWith (Text.lower typed) then
      some c.name else none
  if names.isEmpty then ""
  else "\n\nDid you mean this?\n" ++ String.join (names.map fun n => "\t" ++ n ++ "\n")

/-- The usage line of a command. -/
def Commands.useLine (cs : Commands) (c : Command) : String :=
  let line := match c.path with
    | [] => c.use
    | _ => cs.commandPath { c with path := c.path.dropLast } ++ " " ++ c.use
  if c.flagsInUseLine && !((line.splitOn "[flags]").length > 1) then line ++ " [flags]" else line

/-- A text padded with blanks on the right to `n` characters. -/
def padTo (s : String) (n : Nat) : String :=
  s ++ String.ofList (List.replicate (n - s.length) ' ')

/-- The usage text of a command; `withHelp` says whether its help flag is set up, as it is for
the command a line runs and for a help topic found, but not for the root when the help command
names no known topic. -/
def Commands.usageWith (cs : Commands) (c : Command) (withHelp : Bool) : String :=
  let subs := cs.children c.path
  let hasSubs := cs.hasAvailableChildren c
  let path := cs.commandPath c
  let inherited := cs.inheritedFlags c
  "Usage:" ++
  (if c.runnable then "\n  " ++ cs.useLine c else "") ++
  (if hasSubs then "\n  " ++ path ++ " [command]" else "") ++
  (if hasSubs then
    "\n\nAvailable Commands:" ++ String.join ((subs.filter fun s =>
      cs.listed s || s.path = ["help"]).map fun s =>
        "\n  " ++ padTo s.name (max 11 ((subs.map (·.name.length)).foldl max 0)) ++ " " ++ s.short)
   else "") ++
  let own := if withHelp then Commands.localFlags c else fresh [] (c.flags ++ c.persistent)
  "\n\nFlags:\n" ++ Text.trimRight (flagUsages own) ++
  (if inherited.isEmpty then "" else "\n\nGlobal Flags:\n" ++ Text.trimRight (flagUsages inherited)) ++
  (if hasSubs then "\n\nUse \"" ++ path ++ " [command] --help\" for more information about a command."
   else "") ++
  "\n"

/-- The usage text of a command whose help flag is set up. -/
def Commands.usageText (cs : Commands) (c : Command) : String :=
  cs.usageWith c true

/-- The help text of a command: its description, then its usage when it runs or has children. -/
def Commands.helpText (cs : Commands) (c : Command) : String :=
  let about := if c.long.isEmpty then c.short else c.long
  (if about.isEmpty then "" else Text.trimRight about ++ "\n\n") ++
  (if c.runnable || !(cs.children c.path).isEmpty then cs.usageText c else "")

/-- What a command line asks for. -/
inductive Request where
  /-- Printing a help text. -/
  | help (text : String)
  /-- A refusal, with the hint printed after it, if any. -/
  | refuse (message : String) (hint : String)
  /-- Running a command with its flag values and arguments. -/
  | run (c : Command) (values : FlagValues) (args : List String)

/-- Checks a command's arguments against its rule. -/
def checkArgs (cs : Commands) (c : Command) (args : List String) : Option String :=
  match c.args, args with
  | some .none, a :: _ =>
    some ("unknown command " ++ Text.quote a ++ " for " ++ Text.quote (cs.commandPath c))
  | some (.exactly n), _ =>
    if args.length = n then none
    else some ("accepts " ++ toString n ++ " arg(s), received " ++ toString args.length)
  | some (.atLeast n), _ =>
    if args.length ≥ n then none
    else some ("requires at least " ++ toString n ++ " arg(s), only received " ++
      toString args.length)
  | _, _ => none

/-- The command a command line names, or the unknown command at the root. -/
def Commands.find (cs : Commands) (args : List String) : Except String (Command × List String) :=
  let (c, rest) := findCommand cs cs.root args (args.length + 1)
  let words := commandWords (cs.allFlags c) rest
  match c.args, c.path, words with
  | none, [], w :: _ =>
    if (cs.children []).isEmpty then .ok (c, rest)
    else .error ("unknown command " ++ Text.quote w ++ " for " ++ Text.quote (cs.commandPath c) ++
      suggestions cs w)
  | _, _, _ => .ok (c, rest)

/-- The word by which a command line called the command it names: its name or an alias. -/
def Commands.calledAs (cs : Commands) (args : List String) : String :=
  (findNamed cs cs.root cs.root.name args (args.length + 1)).2.1

/-- Reads a command line. -/
def Commands.resolve (cs : Commands) (args : List String) : Request :=
  match cs.find args with
  | .error e => .refuse e ("Run \x27" ++ cs.root.name ++ " --help\x27 for usage.\n")
  | .ok (c, rest) =>
    match if c.parsesFlags then parseFlags (cs.allFlags c) rest else .ok { args := rest } with
    | .error e => .refuse e ""
    | .ok p =>
      if p.values.lookup "help" = some "true" || !c.runnable then .help (cs.helpText c)
      else match checkArgs cs c p.args with
        | some e => .refuse e ""
        | none => .run c p.values p.args

end LogStore.Cli
