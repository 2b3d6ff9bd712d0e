import LogStore.Yaml.Decode
import LogStore.Yaml.Emit
import LogStore.Yaml.Reader
import LogStore.Text.Space

/-!
# The configuration

A configuration names the log file, the HTTP server's address, port and key, and the logging
level and format. It is kept as YAML:

```
path: ./data/kvdb.log
server:
    bind: 127.0.0.1
    port: 8080
    api_key: ""
logging:
    level: info
    format: console
```

Reading a text fills the defaults with what it holds (`Config.ofYaml`); writing gives the
text above with each value in the style `Yaml.textStyle` picks (`Config.toYaml`), which reads
back as the same configuration. The settings that are texts are kept as bytes: a `!!binary`
value may set one to bytes that are not UTF-8, and a message quoting it shows those bytes
escaped.

A configuration is valid (`Config.validate`) when its path is not blank, its port is in
`0..65535`, and its format is `console`, `json` or empty; otherwise every problem is listed,
one per line.
-/

namespace LogStore

/-- The HTTP server settings: the address to listen on, the port, and the key requests must
carry (none when empty). -/
structure ServerConfig where
  bind : ByteArray
  port : Int
  apiKey : ByteArray
  deriving Inhabited

/-- The logging settings: the least level written and the line format. -/
structure LoggingConfig where
  level : ByteArray
  format : ByteArray
  deriving Inhabited

/-- A configuration. -/
structure Config where
  path : ByteArray
  server : ServerConfig
  logging : LoggingConfig
  deriving Inhabited

namespace Config

/-- The configuration used when none is given. -/
def default : Config :=
  { path := "./data/kvdb.log".toUTF8
    server := { bind := "127.0.0.1".toUTF8, port := 8080, apiKey := ByteArray.empty }
    logging := { level := "info".toUTF8, format := "console".toUTF8 } }

/-- The log file's path as text. -/
def pathText (c : Config) : String := Text.Utf8.lossy c.path

/-- Whether a format names one the logger writes: `console`, `json`, or empty for the first. -/
def knownFormat (format : ByteArray) : Bool :=
  format.isEmpty || format == "console".toUTF8 || format == "json".toUTF8

/-- Everything wrong with a configuration, in order. -/
def problems (c : Config) : List String :=
  (if Text.isBlank c.pathText then ["path must not be empty"] else []) ++
  (if c.server.port < 0 || c.server.port > 65535 then
    ["server.port " ++ toString c.server.port ++ " out of range"] else []) ++
  (if knownFormat c.logging.format then []
   else ["logging.format " ++ Text.quoteBytes c.logging.format ++ " must be console or json"])

/-- Why a configuration cannot be used, one problem a line; `none` when it can. -/
def validate (c : Config) : Option String :=
  match c.problems with
  | [] => none
  | ps => some ("\n".intercalate ps)

/-- The shape of a configuration's YAML form. -/
def shape : Yaml.Shape :=
  .record "config.Config"
    [("path", .text),
     ("server", .record "config.Server" [("bind", .text), ("port", .int), ("api_key", .text)]),
     ("logging", .record "config.Logging" [("level", .text), ("format", .text)])]

/-- A configuration as a value of its shape. -/
def toValue (c : Config) : Yaml.Value :=
  .record
    [("path", .text c.path),
     ("server", .record [("bind", .text c.server.bind), ("port", .int c.server.port),
                         ("api_key", .text c.server.apiKey)]),
     ("logging", .record [("level", .text c.logging.level), ("format", .text c.logging.format)])]

/-- The text of a field, or `d` when it holds none. -/
def textField (fields : List (String × Yaml.Value)) (name : String) (d : ByteArray) : ByteArray :=
  match fields.lookup name with
  | some (.text s) => s
  | _ => d

/-- The number of a field, or `d` when it holds none. -/
def intField (fields : List (String × Yaml.Value)) (name : String) (d : Int) : Int :=
  match fields.lookup name with
  | some (.int n) => n
  | _ => d

/-- The fields of a record field. -/
def recordField (fields : List (String × Yaml.Value)) (name : String) : List (String × Yaml.Value) :=
  match fields.lookup name with
  | some (.record fs) => fs
  | _ => []

/-- A configuration read back from a value of its shape; `c` gives what the value lacks. -/
def ofValue (c : Config) : Yaml.Value → Config
  | .record fs =>
    let srv := recordField fs "server"
    let lg := recordField fs "logging"
    { path := textField fs "path" c.path
      server := { bind := textField srv "bind" c.server.bind,
                  port := intField srv "port" c.server.port,
                  apiKey := textField srv "api_key" c.server.apiKey }
      logging := { level := textField lg "level" c.logging.level,
                   format := textField lg "format" c.logging.format } }
  | _ => c

/-- `c` with what a YAML text sets, or why the text cannot be read. -/
def ofYaml (c : Config) (bytes : ByteArray) : Except String Config := do
  let s := Yaml.scannerOf bytes
  let doc ← match Yaml.parseDocument Yaml.plainTag s with
    | .ok d => pure d
    | .error p => throw p.message
  let v ← Yaml.decodeDocument doc shape c.toValue ((s.text.size + 2) * (s.text.size + 2))
  return c.ofValue v

/-- A key and its text value at a depth; a line still open after the value is ended. -/
def textLine (depth : Nat) (key : String) (value : ByteArray) : String :=
  let (v, isOpen) := Yaml.textValue (Text.Utf8.lossy value) depth
  String.ofList (List.replicate depth ' ') ++ key ++ ":" ++ v ++ (if isOpen then "\n" else "")

/-- The YAML text of a configuration. -/
def toYaml (c : Config) : String :=
  textLine 0 "path" c.path ++
  "server:\n" ++
  textLine 4 "bind" c.server.bind ++
  "    port: " ++ toString c.server.port ++ "\n" ++
  textLine 4 "api_key" c.server.apiKey ++
  "logging:\n" ++
  textLine 4 "level" c.logging.level ++
  textLine 4 "format" c.logging.format

end Config

end LogStore
