import LogStore.Cli.Command
import LogStore.Text.Space

/-!
# Completing a command line

A shell asks the program how to complete a command line by running its hidden command
`__complete` with the words typed so far, the last one being the word to complete (possibly
empty). The answer is one completion a line, a word and, after a tab, what it stands for, then
a line `:` and a directive: a sum of bits telling the shell what to do besides (1 an error,
2 no blank after the word, 4 no file names, 8 and 16 file name filters, 32 keep the order).
Asked as `__completeNoDesc`, the answer leaves the descriptions out. The command exists only
for a command line that calls it, so that it shows nowhere else.

How the words are completed (`Commands.complete`):

* The words before the last name a command the way a command line does; when they do not,
  nothing is offered (directive 0).
* The word to complete is a flag's value when it follows a flag that takes one, or stands
  after the `=` of `--name=` or `-x=` (`flagWord`); a switch takes no value, so after one the
  word is an argument again. A flag named there that the command lacks offers nothing, unless
  a `--` already ended the flags.
* When the words before do not read as flags, or ask for help, nothing is offered (the latter
  with directive 4).
* A word starting with `-` (without `=`) is completed from the flag names not yet given, the
  inherited flags first, each list sorted by name: `--name` and `-x` when they start with the
  word (directive 4).
* Otherwise, with no argument given yet and no flag of the command's own set, the available
  subcommands whose names start with the word, the help command among them at the root
  (directive 4 when there are subcommands at all, else 0). Then the command's own completer
  adds its offers: the completion commands offer nothing but ask for no file names, the help
  command offers the subcommands of the command its arguments name.
-/

namespace LogStore.Cli

/-- The hidden command a shell runs to ask for completions. -/
def completeCommand : Command :=
  { path := ["__complete"], use := "__complete [command-line]", aliases := ["__completeNoDesc"],
    short := "Request shell completion choices for the specified command-line",
    long := "__complete is a special command that is used by the shell completion logic\n" ++
      "to request completion choices for the specified command-line.",
    args := some (.atLeast 1), hidden := true, parsesFlags := false, flagsInUseLine := false }

/-- The name by which the completion command is asked to leave descriptions out. -/
def noDescriptionsName : String := "__completeNoDesc"

/-- The names of a directive's bits, as the program reports them. -/
def directiveText (d : Nat) : String :=
  let named := [(0, "ShellCompDirectiveError"), (1, "ShellCompDirectiveNoSpace"),
    (2, "ShellCompDirectiveNoFileComp"), (3, "ShellCompDirectiveFilterFileExt"),
    (4, "ShellCompDirectiveFilterDirs"), (5, "ShellCompDirectiveKeepOrder")]
  let names := (named.filter fun p => d.testBit p.1).map (·.2)
  if d ≥ 64 then "ERROR: unexpected ShellCompDirective value: " ++ toString d
  else if names.isEmpty then "ShellCompDirectiveDefault"
  else ", ".intercalate names

/-- Whether an argument looks like a flag with a name: two dashes and at least one more byte,
or a dash and a byte other than a dash. -/
def looksLikeFlag (s : String) : Bool :=
  match s.toUTF8.toList with
  | 45 :: 45 :: _ :: _ => true
  | 45 :: b :: _ => b ≠ 45
  | _ => false

/-- The flag a name typed on the command line stands for; a one-byte name is a shorthand. -/
def flagNamed (flags : List Flag) (name : List UInt8) : Option Flag :=
  match name with
  | [b] => if b < 128 then lookupShort flags (Char.ofNat b.toNat) else none
  | _ => lookupLong flags (Text.Utf8.lossy ⟨name.toArray⟩)

/-- What the words before the one to complete say about it. -/
structure FlagWord where
  /-- The flag whose value the word is, if it is one. -/
  flag : Option Flag
  /-- The words left for the command: without the flag whose value is being completed. -/
  args : List String
  /-- The word to complete, without the flag written before an `=` in it. -/
  word : String
  /-- Whether a flag was named that the command does not have. -/
  unknown : Bool := false

/-- The text after the first `=` of a word. -/
def afterEquals (s : String) : String :=
  String.ofList ((s.toList.dropWhile (· ≠ '=')).drop 1)

/-- Reads the word to complete against the words before it: a word `--name=…` or `-…x=…`
names its flag before the `=`, a word starting with `-` otherwise is a flag name being typed,
and any other word is the value of the flag before it, when that is a flag without `=`. -/
def flagWord (flags : List Flag) (args : List String) (last : String) : FlagWord :=
  let lb := last.toUTF8.toList
  if lb.head? = some 45 && !lb.contains 61 then { flag := none, args, word := last }
  else
    let (name, word, withEquals) : List UInt8 × String × Bool :=
      match lb.head?, lb.findIdx? (· = 61) with
      | some 45, some i =>
        (if i ≥ 2 && lb.take 2 = [45, 45] then (lb.take i).drop 2 else (lb.take i).drop (i - 1),
         afterEquals last, true)
      | _, _ => ([], last, false)
    let (name, left) : List UInt8 × List String :=
      if !name.isEmpty then (name, args)
      else match args.getLast? with
        | some prev =>
          let pb := prev.toUTF8.toList
          if looksLikeFlag prev && !pb.contains 61 then
            (if pb.take 2 = [45, 45] then pb.drop 2 else pb.drop (pb.length - 1), args.dropLast)
          else ([], args)
        | none => ([], args)
    if name.isEmpty then { flag := none, args := left, word }
    else match flagNamed flags name with
      | none => { flag := none, args, word := last, unknown := true }
      | some f =>
        if !withEquals && f.implied.isSome then { flag := none, args, word }
        else { flag := some f, args := left, word }

/-- The completions of a flag's names that start with a word. -/
def nameCompletions (word : String) (f : Flag) : List String :=
  (if ("--" ++ f.name).startsWith word then ["--" ++ f.name ++ "\t" ++ f.usage] else []) ++
  match f.shorthand with
  | some c => if ("-" ++ c.toString).startsWith word then ["-" ++ c.toString ++ "\t" ++ f.usage]
    else []
  | none => []

/-- Flags sorted by name. -/
def sortedByName (flags : List Flag) : List Flag :=
  flags.mergeSort fun a b => decide (a.name ≤ b.name)

/-- The subcommands of a command offered as completions: the available ones and, at the
root, the help command. -/
def Commands.offered (cs : Commands) (c : Command) : List Command :=
  (cs.children c.path).filter fun s => cs.listed s || (c.path = [] && s.path = ["help"])

/-- The completions naming the offered subcommands of `c` that start with a word. -/
def Commands.subcommandCompletions (cs : Commands) (c : Command) (word : String) : List String :=
  ((cs.offered c).filter (·.name.startsWith word)).map fun s => s.name ++ "\t" ++ s.short

/-- What a command's completer adds to the completions and the directive it sets. -/
def Commands.completerOffers (cs : Commands) (c : Command) (args : List String) (word : String)
    (d : Nat) : List String × Nat :=
  match c.completer with
  | .none => ([], d)
  | .noFiles => ([], 4)
  | .commandNames =>
    match cs.find args with
    | .ok (t, _) => (cs.subcommandCompletions t word, 4)
    | .error _ => ([], 4)

/-- The completions of the last of `words` and the directive, for the command line `words`. -/
def Commands.complete (cs : Commands) (words : List String) : List String × Nat :=
  let word := words.getLastD ""
  match cs.find words.dropLast with
  | .error _ => ([], 0)
  | .ok (c, found) =>
    let flags := cs.allFlags c
    let fw : FlagWord :=
      if c.parsesFlags then flagWord flags found word else { flag := none, args := found, word }
    let parse (args : List String) : Except String Parsed :=
      if c.parsesFlags then parseFlags flags args else .ok {}
    let ended := ((parse (fw.args ++ ["--"])).toOption.map (·.args.length)).getD 0
    match parse fw.args with
    | .error _ => ([], 0)
    | .ok p =>
      let flagCompletion := !(ended > p.args.length)
      if fw.unknown && flagCompletion then ([], 0)
      else if (p.values.lookup "help").isSome then ([], 4)
      else
        let args := if c.parsesFlags then p.args else fw.args
        let unset (f : Flag) : Bool := (p.values.lookup f.name).isNone
        if fw.flag.isNone && fw.word.startsWith "-" && !fw.word.contains '=' && flagCompletion then
          let items := ((sortedByName (cs.inheritedFlags c) ++
            sortedByName (Commands.localFlags c)).filter unset).flatMap (nameCompletions fw.word)
          let d := if items.length = 1 && (items.headD "").endsWith "=" then 2 else 4
          if c.parsesFlags then (items, d)
          else
            let (more, d) := cs.completerOffers c args fw.word d
            (items ++ more, d)
        else if fw.flag.isSome && flagCompletion then ([], 0)
        else
          let (items, d) :=
            if fw.flag.isNone && args.isEmpty && (c.flags ++ [helpFlag c]).all unset then
              (cs.subcommandCompletions c fw.word, if (cs.offered c).isEmpty then 0 else 4)
            else ([], 0)
          let (more, d) := cs.completerOffers c args fw.word d
          (items ++ more, d)

/-- The answer to a completion request: each completion on a line of its own (its first line,
without the description unless `descriptions`, trimmed), then the directive. -/
def completionAnswer (items : List String) (d : Nat) (descriptions : Bool) : String :=
  String.join (items.map fun item =>
    let item := if descriptions then item else (item.splitOn "\t").headD ""
    Text.trim ((item.splitOn "\n").headD "") ++ "\n") ++ ":" ++ toString d ++ "\n"

end LogStore.Cli
