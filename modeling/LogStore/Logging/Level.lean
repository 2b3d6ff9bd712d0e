import LogStore.Text.Case
import LogStore.Text.Integer
import LogStore.Failure

/-!
# Log levels and formats

A log level is a small signed number: `trace` is −1, then `debug`, `info`, `warn`, `error`,
`fatal` and `panic` count up from 0 to 5; 6 is the unnamed level and 7 disables logging. A
logger at level `l` writes exactly the events of level `l` or above. Any other number from −128
to 127 is a level too, named by its decimal.

* `Level.parse?` reads a name regardless of case (the empty name is the unnamed level), or else
  a decimal in range.
* `LogFormat.parse?` reads `console` or `json`, regardless of case; the empty name is `console`.
-/

namespace LogStore

/-- A log level. -/
structure Level where
  code : Int
  deriving DecidableEq, Repr

namespace Level

/-- Very fine detail. -/
def trace : Level := ⟨-1⟩
/-- Detail for debugging. -/
def debug : Level := ⟨0⟩
/-- Normal operation. -/
def info : Level := ⟨1⟩
/-- Something went wrong and was handled. -/
def warn : Level := ⟨2⟩
/-- An operation failed. -/
def error : Level := ⟨3⟩
/-- The program cannot go on. -/
def fatal : Level := ⟨4⟩
/-- A fault in the program itself. -/
def panic : Level := ⟨5⟩
/-- The level of events that carry none. -/
def none : Level := ⟨6⟩
/-- A logger level that writes nothing. -/
def disabled : Level := ⟨7⟩

/-- The named levels, with their names, in the order they are tried. -/
def named : List (String × Level) :=
  [("trace", trace), ("debug", debug), ("info", info), ("warn", warn), ("error", error),
   ("fatal", fatal), ("panic", panic), ("disabled", disabled), ("", none)]

/-- The name of a level: its word, or its decimal for an unnamed number. -/
def name (l : Level) : String :=
  match named.find? (fun p => p.2 == l) with
  | some p => p.1
  | Option.none => toString l.code

/-- The level a name or decimal stands for. -/
def parse? (s : String) : Except Failure Level :=
  match named.find? (fun p => Text.equalFold s p.1) with
  | some p => .ok p.2
  | Option.none =>
    match Text.parseInt64 s.toUTF8 with
    | .error _ =>
      .error (.plain ("Unknown Level String: '" ++ s ++ "', defaulting to NoLevel"))
    | .ok n =>
      if n > 127 ∨ n < -128 then
        .error (.plain ("Out-Of-Bounds Level: '" ++ toString n ++ "', defaulting to NoLevel"))
      else .ok ⟨n⟩

/-- Whether a logger at level `threshold` writes an event of level `l`. -/
def admits (threshold l : Level) : Bool :=
  decide (threshold.code ≤ l.code)

end Level

/-- How log events are written: as aligned console text or as one JSON object per line. -/
inductive LogFormat where
  | console
  | json
  deriving DecidableEq, Repr

namespace LogFormat

/-- The number of a format: 0 for console, 1 for JSON. -/
def code : LogFormat → Nat
  | .console => 0
  | .json => 1

/-- The format a name stands for, regardless of case; the empty name is `console`. -/
def parse? (s : String) : Except Failure LogFormat :=
  match Text.lower s with
  | "" | "console" => .ok .console
  | "json" => .ok .json
  | _ => .error (.plain ("unknown log format " ++ Text.quote s))

end LogFormat

end LogStore
