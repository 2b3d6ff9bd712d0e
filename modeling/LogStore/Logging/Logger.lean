import LogStore.Logging.Level
import LogStore.Text.Json

/-!
# Loggers and log lines

A log event is a level, a message and named fields. A logger holds a threshold level, a format,
and context fields that it adds before the event's own; it writes an event as one line exactly
when the event's level is at least the threshold. A logger whose threshold is `disabled`
writes nothing.

A JSON line is one object: `level`, the context and event fields in order, `time` when known,
and `message`. A console line is, separated by blanks, the time when known, the level as
`| INFO  |` (padded to six and upper-cased), `message: "…" |`, and then the fields sorted by
name, `error` first: each as `"name": "value" |`, the error as `error= value |`. A text value
free of blanks, quotes, backslashes, control characters and non-ASCII bytes is written as it
is; any other is written quoted with escapes. When a name occurs twice, its last value counts.

* `Logger.render now e` is the line for `e`, if the logger writes it.
-/

namespace LogStore

/-- The value of a log field. -/
inductive FieldValue where
  /-- A text. -/
  | text (s : String)
  /-- A number, as its decimal text. -/
  | number (s : String)
  deriving Repr

/-- A whole-number field value. -/
def FieldValue.int (n : Int) : FieldValue := .number (toString n)

/-- One log event. -/
structure Event where
  level : Level
  message : String
  fields : List (String × FieldValue) := []

/-- Where and how events are written. -/
structure Logger where
  format : LogFormat := .console
  threshold : Level := Level.disabled
  context : List (String × FieldValue) := []

namespace Logger

/-- The logger that writes nothing. -/
def nop : Logger := {}

/-- The logger with one more context field. -/
def withField (lg : Logger) (name : String) (v : FieldValue) : Logger :=
  { lg with context := lg.context ++ [(name, v)] }

/-- The logger with one more text context field. -/
def withText (lg : Logger) (name value : String) : Logger :=
  lg.withField name (.text value)

end Logger

/-- Whether a console value needs quoting: it holds a blank, a quote, a backslash, a control
character or a non-ASCII byte. -/
def needsQuote (s : String) : Bool :=
  s.toUTF8.toList.any fun b => b < 0x20 || b > 0x7E || b == 0x20 || b == 0x5C || b == 0x22

/-- A console value, quoted when it needs it. -/
def consoleText : FieldValue → String
  | .text s => if needsQuote s then Text.quote s else s
  | .number s => s

/-- The fields of an event after its context, each name once with its last value. -/
def lastValues (fs : List (String × FieldValue)) : List (String × FieldValue) :=
  fs.foldl (fun acc p => acc.filter (fun q => q.1 ≠ p.1) ++ [p]) []

/-- A text padded with blanks on the right to `n` characters. -/
def padRight (s : String) (n : Nat) : String :=
  s ++ String.ofList (List.replicate (n - s.length) ' ')

/-- The console line of an event. -/
def consoleLine (now : Option String) (level : Level) (message : String)
    (fs : List (String × FieldValue)) : String :=
  let sorted := (lastValues fs).mergeSort (fun a b => decide (a.1 ≤ b.1))
  let ordered := sorted.filter (·.1 = "error") ++ sorted.filter (·.1 ≠ "error")
  let field (p : String × FieldValue) : String :=
    if p.1 = "error" then "error= " ++ consoleText p.2 ++ " |"
    else "\"" ++ p.1 ++ "\": \"" ++ consoleText p.2 ++ "\" |"
  let parts := (now.toList) ++
    ["| " ++ (padRight level.name 6).toUpper ++ "|", "message: \"" ++ message ++ "\" |"] ++
    ordered.map field
  " ".intercalate parts

/-- The JSON value of a field. -/
def jsonValue : FieldValue → Text.Json.Value
  | .text s => .text s
  | .number s => .num s

/-- The JSON line of an event. -/
def jsonLine (now : Option String) (level : Level) (message : String)
    (fs : List (String × FieldValue)) : String :=
  let fields := [("level", Text.Json.Value.text level.name)] ++
    fs.map (fun p => (p.1, jsonValue p.2)) ++
    (now.toList.map fun t => ("time", Text.Json.Value.text t)) ++
    [("message", Text.Json.Value.text message)]
  (Text.Json.Value.obj fields).render false

/-- The line a logger writes for an event, if it writes it. -/
def Logger.render (lg : Logger) (now : Option String) (e : Event) : Option String :=
  if lg.threshold.admits e.level then
    let fs := lg.context ++ e.fields
    some (match lg.format with
      | .console => consoleLine now e.level e.message fs
      | .json => jsonLine now e.level e.message fs)
  else none

end LogStore
