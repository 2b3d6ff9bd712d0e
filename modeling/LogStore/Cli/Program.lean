import LogStore.Cli.Complete
import LogStore.Config.File
import LogStore.Store.Verify
import LogStore.Snapshot.Transfer
import LogStore.Cell.Text
import LogStore.Net.Address

/-!
# The `kvdb` command line

`kvdb` runs one command on the store named by its settings:

* `set <key> <value>` (`--mode`, `--type`), `get <key>` (`--type`), `delete <key>`, `keys`,
  `stat` and `verify` work on the log; `export <dir>` and `import <dir>` (`--mode`) copy it to
  and from a snapshot; `serve` starts the HTTP server; `init` writes a configuration file with a
  new API key.
* Before any command but `init`, the settings are read: the configuration file named by
  `--config`, else the one at the default path if it exists, else the defaults; then `--db`,
  `--log-level` and `--log-format` override, and the result must be valid. The loggers follow
  the settings' level and format; `init` uses the default ones.
* A command that opens the store logs what opening found, warns when it had to cut damage, and
  closes the store when it is done.
* A shell asks for completions through the hidden command `__complete`, which is part of the
  tree only for a command line that calls it (`treeFor`). It reads the settings like any
  command, then answers on standard output and names the directive on standard error.

A run prints its output on standard output; a failure is printed on standard error as
`Error: <message>`.
-/

namespace LogStore.Cli

/-- The persistent flags of the root command. -/
def rootFlags : List Flag :=
  [{ name := "db", usage := "Path to the log file (default from config, ./data/kvdb.log)" },
   { name := "config", usage := "Path to config file (default: OS-specific location)" },
   { name := "log-level", usage := "Log level: trace, debug, info, warn, error" },
   { name := "log-format", usage := "Log format: console or json" }]

/-- The `--mode` flag. -/
def modeFlag : Flag :=
  { name := "mode", usage := "Set mode: upsert, insert or update", default := "upsert" }

/-- The `--type` flag. -/
def typeFlag : Flag :=
  { name := "type", usage := "Value type: bytes, i64 or str", default := "bytes" }

/-- The flag that turns off descriptions in completion scripts. -/
def noDescriptionsFlag : Flag :=
  { name := "no-descriptions", kind := .bool, usage := "disable completion descriptions",
    default := "false" }

/-- The help text of a completion script command for a shell. -/
def completionHelp (shell : String) : String :=
  match shell with
  | "bash" =>
    "Generate the autocompletion script for the bash shell.\n\n" ++
    "This script depends on the \x27bash-completion\x27 package.\n" ++
    "If it is not installed already, you can install it via your OS\x27s package manager.\n\n" ++
    "To load completions in your current shell session:\n\n" ++
    "\tsource <(kvdb completion bash)\n\n" ++
    "To load completions for every new session, execute once:\n\n" ++
    "#### Linux:\n\n" ++
    "\tkvdb completion bash > /etc/bash_completion.d/kvdb\n\n" ++
    "#### macOS:\n\n" ++
    "\tkvdb completion bash > $(brew --prefix)/etc/bash_completion.d/kvdb\n\n" ++
    "You will need to start a new shell for this setup to take effect.\n"
  | "zsh" =>
    "Generate the autocompletion script for the zsh shell.\n\n" ++
    "If shell completion is not already enabled in your environment you will need\n" ++
    "to enable it.  You can execute the following once:\n\n" ++
    "\techo \"autoload -U compinit; compinit\" >> ~/.zshrc\n\n" ++
    "To load completions in your current shell session:\n\n" ++
    "\tsource <(kvdb completion zsh)\n\n" ++
    "To load completions for every new session, execute once:\n\n" ++
    "#### Linux:\n\n" ++
    "\tkvdb completion zsh > \"$\x7bfpath[1]\x7d/_kvdb\"\n\n" ++
    "#### macOS:\n\n" ++
    "\tkvdb completion zsh > $(brew --prefix)/share/zsh/site-functions/_kvdb\n\n" ++
    "You will need to start a new shell for this setup to take effect.\n"
  | "fish" =>
    "Generate the autocompletion script for the fish shell.\n\n" ++
    "To load completions in your current shell session:\n\n" ++
    "\tkvdb completion fish | source\n\n" ++
    "To load completions for every new session, execute once:\n\n" ++
    "\tkvdb completion fish > ~/.config/fish/completions/kvdb.fish\n\n" ++
    "You will need to start a new shell for this setup to take effect.\n"
  | _ =>
    "Generate the autocompletion script for powershell.\n\n" ++
    "To load completions in your current shell session:\n\n" ++
    "\tkvdb completion powershell | Out-String | Invoke-Expression\n\n" ++
    "To load completions for every new session, add the output of the above command\n" ++
    "to your powershell profile.\n"

/-- The commands of `kvdb`. -/
def commands : Commands :=
  [{ path := [], use := "kvdb", short := "KVDB - durable single-file key-value store",
     long := "KVDB keeps a key-value map in one append-only log file. Every write is\n" ++
       "synced before it is acknowledged, and a torn or damaged tail is cut away\n" ++
       "the next time the store is opened.",
     args := none, runnable := false, persistent := rootFlags },
   { path := ["set"], use := "set <key> <value>", short := "Set a key-value pair",
     long := "Set a key-value pair in the KVDB store.\n\n" ++
       "Nothing is written when the mode does not allow the change or when the key\n" ++
       "already holds the same value.\n\n" ++
       "Example:\n  kvdb set mykey myvalue\n  kvdb set mykey myvalue --mode insert\n" ++
       "  kvdb set counter 42 --type i64",
     args := some (.exactly 2), flags := [modeFlag, typeFlag] },
   { path := ["get"], use := "get <key>", short := "Get a value for a key",
     long := "Get a value for a key from the KVDB store.\n\n" ++
       "Example:\n  kvdb get mykey\n  kvdb get counter --type i64",
     args := some (.exactly 1), flags := [typeFlag] },
   { path := ["delete"], use := "delete <key>", short := "Delete a key",
     long := "Delete a key from the KVDB store. Deleting a missing key writes nothing.\n\n" ++
       "Example:\n  kvdb delete mykey",
     args := some (.exactly 1) },
   { path := ["keys"], use := "keys", short := "List all live keys", args := some .none },
   { path := ["stat"], use := "stat", short := "Open the store and print what replay found",
     args := some .none },
   { path := ["verify"], use := "verify",
     short := "Check every record of the log without changing it",
     long := "Scan the log file from the header to the end and check every record.\n\n" ++
       "The file is opened read-only and never created or modified. It is not\n" ++
       "locked, so a log held by a running \"kvdb serve\" can be verified as well;\n" ++
       "a record being appended at that moment may show up as a torn tail.\n\n" ++
       "A torn last record is reported as a warning, because the next open will\n" ++
       "cut it away. Damage before the last record is an error.",
     args := some .none },
   { path := ["init"], use := "init", short := "Create a configuration file with a generated API key",
     long := "Create a KVDB configuration file with defaults and a freshly generated\n" ++
       "API key for the REST server.\n\n" ++
       "Examples:\n  kvdb init\n  kvdb init --config ./kvdb.yaml --db ./data/app.log\n" ++
       "  kvdb init --force --print-key",
     args := some .none,
     flags := [{ name := "force", kind := .bool, usage := "Overwrite an existing config file",
                 default := "false" },
               { name := "print-key", kind := .bool, usage := "Print the generated API key",
                 default := "false" }] },
   { path := ["serve"], use := "serve", short := "Start the REST API server",
     long := "Start the KVDB REST API server. Requests are authenticated with the\n" ++
       "X-API-Key header when an API key is configured. The server stops gracefully\n" ++
       "on SIGINT or SIGTERM.\n\n" ++
       "Examples:\n  kvdb serve\n  kvdb serve --api-key=mysecretkey --port=9000\n" ++
       "  kvdb serve --config ./kvdb.yaml --bind 0.0.0.0",
     args := some .none,
     flags := [{ name := "port", shorthand := some 'p', kind := .int, usage := "Port to listen on",
                 default := "8080" },
               { name := "bind", usage := "Address to bind server to", default := "127.0.0.1" },
               { name := "api-key", usage := "API key for client authentication" }] },
   { path := ["export"], use := "export <dir>",
     short := "Copy every live key into a new Pebble snapshot directory",
     long := "Copy every live key into a new Pebble database directory. The directory\n" ++
       "must not already contain a database.\n\n" ++
       "Example:\n  kvdb export ./backup-2025-01-01",
     args := some (.exactly 1) },
   { path := ["import"], use := "import <dir>",
     short := "Apply every key of a Pebble snapshot to the store",
     long := "Apply every key of a snapshot written by export to the store, honoring\n" ++
       "the set mode for each key.\n\n" ++
       "Example:\n  kvdb import ./backup-2025-01-01\n" ++
       "  kvdb import ./backup-2025-01-01 --mode insert",
     args := some (.exactly 1), flags := [modeFlag] },
   { path := ["help"], use := "help [command]", short := "Help about any command",
     long := "Help provides help for any command in the application.\n" ++
       "Simply type kvdb help [path to command] for full details.",
     args := none, completer := .commandNames },
   { path := ["completion"], use := "completion",
     short := "Generate the autocompletion script for the specified shell",
     long := "Generate the autocompletion script for kvdb for the specified shell.\n" ++
       "See each sub-command\x27s help for details on how to use the generated script.\n",
     args := some .none, runnable := false, completer := .noFiles }] ++
  ["bash", "zsh", "fish", "powershell"].map fun shell =>
    { path := ["completion", shell], use := shell,
      short := "Generate the autocompletion script for " ++ shell,
      long := completionHelp shell, args := some .none, flags := [noDescriptionsFlag],
      flagsInUseLine := shell ≠ "bash", completer := .noFiles }

/-- Where a command line runs: the home directory, if there is one, whether the server can be
started, and whether an earlier run in the same process set up the root command's help flag.
That flag is added to a command the first time the command runs, is completed on, or has its help
shown through the help command; clearing flag values between runs keeps it. -/
structure Env where
  home : Option String := none
  serverFactory : Bool := true
  rootHelp : Bool := false

/-- What a run printed so far. -/
structure Printed where
  stdout : ByteArray := ByteArray.empty
  stderr : String := ""

/-- A step of a run: it prints, changes the world, and may fail. -/
abbrev RunM := ExceptT Failure (StateT Printed Sys)

/-- Prints bytes on standard output. -/
def emitBytes (b : ByteArray) : RunM Unit :=
  modify fun o => { o with stdout := o.stdout ++ b }

/-- Prints text on standard error. -/
def emitError (s : String) : RunM Unit :=
  modify fun o => { o with stderr := o.stderr ++ s }

/-- Prints text on standard output. -/
def emitText (s : String) : RunM Unit :=
  emitBytes s.toUTF8

/-- Runs a world step. -/
def world {α : Type} (m : Sys α) : RunM α :=
  ExceptT.lift (StateT.lift m)

/-- Fails unless the result is a success. -/
def orFail {α : Type} (r : Except Failure α) : RunM α :=
  match r with
  | .ok a => pure a
  | .error f => throw f

/-- The loggers of the components. -/
structure Loggers where
  store : Logger
  api : Logger
  cli : Logger

/-- The value of a flag: as set, else its default. -/
def flagValue (c : Command) (vs : FlagValues) (name : String) : String :=
  match vs.lookup name with
  | some v => v
  | none => ((lookupLong (commands.allFlags c) name).map (·.default)).getD ""

/-- Whether a flag was set on the command line. -/
def flagSet (vs : FlagValues) (name : String) : Bool :=
  (vs.lookup name).isSome

/-- Whether a path names something (anything but a missing path). -/
def pathExists (d : Disk) (path : String) : Bool :=
  match d.stat path with
  | .error (.system _ _ .noEntry) => false
  | _ => true

/-- The settings of a run: the configuration file, then the overriding flags, validated. -/
def loadSettings (env : Env) (c : Command) (vs : FlagValues) : RunM Config := do
  let d ← world Sys.disk
  let configPath := flagValue c vs "config"
  let defaultPath := defaultConfigPath env.home
  let cfg ← if !configPath.isEmpty then orFail (Config.load d configPath)
    else if pathExists d defaultPath then orFail (Config.load d defaultPath)
    else pure Config.default
  let cfg := if flagSet vs "db" then { cfg with path := (flagValue c vs "db").toUTF8 } else cfg
  let cfg := if flagSet vs "log-level" then
    { cfg with logging := { cfg.logging with level := (flagValue c vs "log-level").toUTF8 } }
    else cfg
  let cfg := if flagSet vs "log-format" then
    { cfg with logging := { cfg.logging with format := (flagValue c vs "log-format").toUTF8 } }
    else cfg
  match cfg.validate with
  | some why => throw (.plain why)
  | none => return cfg

/-- The loggers for a configuration's level and format. -/
def loggersFor (cfg : Config) : RunM Loggers := do
  let level ← match Level.parse? (Text.Utf8.lossy cfg.logging.level) with
    | .ok l => pure l
    | .error f => throw (.within "invalid log level" f)
  let format ← orFail (LogFormat.parse? (Text.Utf8.lossy cfg.logging.format))
  let base : Logger := { format, threshold := level }
  return { store := base.withText "component" "store", api := base.withText "component" "api",
           cli := base.withText "component" "cli" }

/-- Writes an event through a logger. -/
def logEvent (lg : Logger) (e : Event) : RunM Unit :=
  world (Sys.emit lg e)

/-- Opens the store at the settings' path, warning when opening had to cut damage. -/
def openStore (cfg : Config) (lg : Loggers) : RunM (Store × Recovery) := do
  let st ← match ← world (Store.create cfg.pathText lg.store {}) with
    | .ok st => pure st
    | .error f => throw (.within "failed to create store" f)
  let (r, st) ← world (Store.openStore.run st)
  match r with
  | .error f => throw (.within "failed to open store" f)
  | .ok r =>
    if r.recovered then
      let fields : List (String × FieldValue) :=
        (r.corruption.toList.map fun f => ("corruption", .text f.message)) ++
          [("truncated_bytes", .int r.truncatedBytes), ("discarded", .text (r.discarded.getD ""))]
      logEvent lg.cli { level := Level.warn, message := "recovered from corruption", fields }
    return (st, r)

/-- Opens the store, runs a step on it, closes it, and prints what the step gave. -/
def withStore (cfg : Config) (lg : Loggers) (body : Recovery → StoreM (Except Failure ByteArray)) :
    RunM Unit := do
  let (st, r) ← openStore cfg lg
  let (result, st) ← world ((body r).run st)
  let _ ← world (Store.close.run st)
  emitBytes (← orFail result)

/-- The lines `stat` prints. -/
def statLines (path : String) (r : Recovery) (s : Stats) : String :=
  "Path:             " ++ path ++ "\n" ++
  "Keys:             " ++ toString s.keys ++ "\n" ++
  "Data size:        " ++ toString s.dataSize ++ " bytes\n" ++
  "Records replayed: " ++ toString r.records ++ "\n" ++
  "Tombstones:       " ++ toString r.tombstones ++ "\n" ++
  "Recovery time:    0s\n" ++
  (match r.corruption with
    | some f => "Truncated bytes:  " ++ toString r.truncatedBytes ++ "\n" ++
                "Corruption:       " ++ f.message ++ "\n"
    | none => "") ++
  (match r.discarded with
    | some p => if p.isEmpty then "" else "Discarded bytes:  " ++ p ++ "\n"
    | none => "")

/-- The lines `verify` prints for a report. -/
def reportLines (rep : VerifyReport) : String :=
  "File size:  " ++ toString rep.fileSize ++ " bytes\n" ++
  "Valid size: " ++ toString rep.validSize ++ " bytes\n" ++
  "Records:    " ++ toString rep.records ++ "\n" ++
  "Tombstones: " ++ toString rep.tombstones ++ "\n" ++
  "Live keys:  " ++ toString rep.liveKeys ++ "\n" ++
  (match rep.tailCorruption with
    | some f => "Warning: torn tail will be truncated on open: " ++ f.message ++ "\n"
    | none => "")

/-- A host and port as one address; a host with a colon goes in brackets. -/
def joinHostPort (host : String) (port : Int) : String :=
  (if host.toList.contains ':' then "[" ++ host ++ "]" else host) ++ ":" ++ toString port

/-- The address a listener on a host and port gets, or why listening fails. The joined address
is split again, the port checked, and the host read as an IP address or else looked up as a
name, of which only `localhost` is known (as 127.0.0.1). The listener takes every address at
once for no host or an unspecified one, and an IPv4 loopback address for itself; no other
address can be bound. -/
def listenAddress (host : String) (port : Int) : Except String String := do
  let hostport := joinHostPort host port
  let (h, _) ← match Net.splitHostPort hostport with
    | .ok hp => pure hp
    | .error why => throw ("listen tcp: address " ++ hostport ++ ": " ++ why)
  if port < 0 || port > 65535 then
    throw ("listen tcp: address " ++ toString port ++ ": invalid port")
  let p := toString port
  if h.isEmpty then return "[::]:" ++ p
  match Net.IpAddress.parse? h.toUTF8.toList with
  | .ok a =>
    if a.isUnspecified then return "[::]:" ++ p
    match a.asV4? with
    | some (127 :: _) => return a.text ++ ":" ++ p
    | _ =>
      let zone := if a.zone.isEmpty then "" else "%" ++ Text.Utf8.lossy ⟨a.zone.toArray⟩
      throw ("listen tcp " ++ joinHostPort (a.text ++ zone) port ++
        ": bind: cannot assign requested address")
  | .error _ =>
    if h = "localhost" then return "127.0.0.1:" ++ p
    throw ("listen tcp: lookup " ++ h ++ ": no such host")

/-- Starts the HTTP server on the open store and stops it at once, as a run whose context is
already cancelled does. -/
def startServer (lg : Loggers) (bind : String) (port : Int) (apiKey : String) :
    StoreM (Except Failure ByteArray) := do
  let _ ← Store.stats
  let addr := joinHostPort bind port
  match listenAddress bind port with
  | .error why =>
    return .error (.within ("error starting server") (.within ("listen on " ++ addr) (.plain why)))
  | .ok bound =>
    let path := (← get).path
    let emit (lgr : Logger) (e : Event) : StoreM Unit := Store.lift (Sys.emit lgr e)
    if apiKey.isEmpty then
      emit lg.api { level := Level.warn, message := "no API key configured, authentication is disabled" }
    emit lg.api { level := Level.info, message := "starting KVDB REST API server",
                  fields := [("addr", .text bound), ("path", .text path)] }
    emit lg.api { level := Level.info, message := "shutting down" }
    return .ok ByteArray.empty

/-- Whether a text can be shown between backquotes: no backquote, no control character but tab,
valid UTF-8 and no byte order mark. -/
def canBackquote (s : String) : Bool :=
  s.toList.all fun c => c ≠ '\x60' && c ≠ '\uFEFF' && (c = '\t' || (c.toNat ≥ 0x20 && c.toNat ≠ 0x7F))

/-- A help topic as the refusal shows it: between backquotes when it can be, else quoted. -/
def showTopic (s : String) : String :=
  if canBackquote s then "`" ++ s ++ "`" else Text.quote s

/-- The help for a list of topics: the command they name, or the refusal of unknown ones, with
the root's usage, which lists the root's help flag only if `rootHelp` says it is set up. -/
def helpTopics (rootHelp : Bool) (args : List String) : RunM Unit := do
  match commands.find args with
  | .ok (c, _) => emitText (commands.helpText c)
  | .error _ =>
    emitText ("Unknown help topic [" ++ " ".intercalate (args.map showTopic) ++ "]\n" ++
      commands.usageWith commands.root rootHelp)

/-- The command tree with the completion command. -/
def withCompletion : Commands :=
  commands ++ [completeCommand]

/-- The command tree a command line runs in: the one with the completion command when the line
calls it, else the plain one. -/
def treeFor (args : List String) : Commands :=
  match withCompletion.find args with
  | .ok (c, _) => if c.path = completeCommand.path then withCompletion else commands
  | .error _ => commands

/-- Runs a command after its settings are read; `called` is the name it was called by. -/
def perform (env : Env) (c : Command) (called : String) (vs : FlagValues) (args : List String)
    (cfg : Config) (lg : Loggers) : RunM Unit := do
  let arg (i : Nat) : String := args.getD i ""
  match c.path with
  | ["set"] =>
    let mode ← orFail (SetMode.parse? (flagValue c vs "mode"))
    let value ← orFail (Cell.encodeArg (flagValue c vs "type") (arg 1).toUTF8)
    withStore cfg lg fun _ => do
      match ← Store.set (arg 0).toUTF8 value mode with
      | .error f => return .error (.within ("failed to set " ++ arg 0) f)
      | .ok true => return .ok "OK\n".toUTF8
      | .ok false => return .ok ("unchanged (mode " ++ mode.name ++ ")\n").toUTF8
  | ["get"] =>
    withStore cfg lg fun _ => do
      match (← get).get? (arg 0).toUTF8 with
      | none => return .error (.plain ("key not found: " ++ arg 0))
      | some v =>
        match Cell.formatValue (flagValue c vs "type") v with
        | .error f => return .error f
        | .ok text => return .ok (text ++ "\n".toUTF8)
  | ["delete"] =>
    withStore cfg lg fun _ => do
      match ← Store.delete (arg 0).toUTF8 with
      | .error f => return .error (.within ("failed to delete " ++ arg 0) f)
      | .ok true => return .ok "deleted\n".toUTF8
      | .ok false => return .ok "not found\n".toUTF8
  | ["keys"] =>
    withStore cfg lg fun _ => do
      return .ok ((← get).keys.keys.foldl (fun acc k => acc ++ k ++ "\n".toUTF8) ByteArray.empty)
  | ["stat"] =>
    withStore cfg lg fun r => do
      let s ← Store.stats
      return .ok (statLines (← get).path r s).toUTF8
  | ["verify"] =>
    let (rep, err) ← world (verify cfg.pathText lg.store { locking := false })
    if let some rep := rep then emitText (reportLines rep)
    match err with
    | some f => throw (.within ("verify " ++ cfg.pathText) f)
    | none => emitText "OK\n"
  | ["init"] =>
    let d ← world Sys.disk
    let given := flagValue c vs "config"
    let path := if given.isEmpty then defaultConfigPath env.home else given
    if pathExists d path && flagValue c vs "force" ≠ "true" then
      throw (.plain ("config already exists at " ++ path ++ ", use --force to overwrite"))
    let db := flagValue c vs "db"
    let key := secretHex (← world Sys.fresh)
    let made : Config := { Config.default with
      path := if db.isEmpty then Config.default.path else db.toUTF8
      server := { Config.default.server with apiKey := key.toUTF8 } }
    match Config.save d made path with
    | .error f => throw (.within "failed to save bootstrap config" f)
    | .ok d =>
      world (Sys.setDisk d)
      emitText ("Configuration created at " ++ path ++ "\nLog file: " ++ made.pathText ++ "\n" ++
        if flagValue c vs "print-key" = "true" then "API key: " ++ key ++ "\n"
        else "API key saved in " ++ path ++ "\n")
  | ["serve"] =>
    let bind := if flagSet vs "bind" then flagValue c vs "bind"
      else Text.Utf8.lossy cfg.server.bind
    let port := if flagSet vs "port" then (flagValue c vs "port").toInt!
      else cfg.server.port
    let apiKey := if flagSet vs "api-key" then flagValue c vs "api-key"
      else Text.Utf8.lossy cfg.server.apiKey
    if !env.serverFactory then throw (.plain "dependency container not initialized")
    withStore cfg lg fun _ => do
      let fields : List (String × FieldValue) :=
        [("bind", .text bind), ("port", .int port), ("path", .text (← get).path)]
      Store.lift (Sys.emit lg.cli { level := Level.info, message := "starting KVDB server", fields })
      startServer lg bind port apiKey
  | ["export"] =>
    withStore cfg lg fun _ => do
      match ← Snapshot.exportTo (arg 0) with
      | .error f => return .error f
      | .ok t => return .ok ("Exported " ++ toString t.keys ++ " keys (" ++ toString t.bytes ++
          " bytes) to " ++ arg 0 ++ ", snapshot " ++ t.id ++ "\n").toUTF8
  | ["import"] =>
    let mode ← orFail (SetMode.parse? (flagValue c vs "mode"))
    withStore cfg lg fun _ => do
      match ← Snapshot.importFrom (arg 0) mode lg.store with
      | .error f => return .error f
      | .ok t => return .ok ("Imported snapshot " ++ t.id ++ ": " ++ toString t.keys ++
          " keys read, " ++ toString t.changed ++ " changed\n").toUTF8
  | ["help"] => helpTopics env.rootHelp args
  | ["__complete"] =>
    let (items, d) := withCompletion.complete args
    emitText (completionAnswer items d (called ≠ noDescriptionsName))
    emitError ("Completion ended with directive: " ++ directiveText d ++ "\n")
  | _ => pure ()

/-- Runs a command: reads the settings (the default ones for `init`), then performs it. -/
def execute (env : Env) (c : Command) (called : String) (vs : FlagValues) (args : List String) :
    RunM Unit := do
  let cfg ← if c.path = ["init"] then pure Config.default else loadSettings env c vs
  let lg ← loggersFor cfg
  perform env c called vs args cfg lg

/-- What a run of `kvdb` printed, the failure it ended with, and whether the root command's help
flag is set up afterwards. -/
structure Outcome where
  stdout : ByteArray := ByteArray.empty
  stderr : String := ""
  failure : Option Failure := none
  rootHelp : Bool := false

/-- Whether a command line sets up the root command's help flag: it runs the root (even if its
flags are then refused), shows the root's help through the help command, or completes a line
whose command is the root. -/
def setsUpRootHelp (cs : Commands) (args : List String) : Bool :=
  let isRoot (r : Except String (Command × List String)) : Bool :=
    match r with
    | .ok (c, _) => c.path.isEmpty
    | .error _ => false
  isRoot (cs.find args) ||
    match cs.resolve args with
    | .run c _ rest =>
      (c.path = ["help"] && isRoot (commands.find rest)) ||
        (c.path = completeCommand.path && isRoot (withCompletion.find rest.dropLast))
    | _ => false

/-- Runs `kvdb` with arguments, before the help flag bookkeeping. -/
def runLine (env : Env) (cs : Commands) (args : List String) : Sys Outcome := do
  match cs.resolve args with
  | .help text => return { stdout := text.toUTF8 }
  | .refuse message hint =>
    return { stderr := "Error: " ++ message ++ "\n" ++ hint, failure := some (.plain message) }
  | .run c vs rest =>
    let (r, out) ← ((execute env c (cs.calledAs args) vs rest).run).run {}
    match r with
    | .ok () => return { stdout := out.stdout, stderr := out.stderr }
    | .error f =>
      return { stdout := out.stdout, stderr := out.stderr ++ "Error: " ++ f.message ++ "\n",
               failure := some f }

/-- Runs `kvdb` with arguments. -/
def run (env : Env) (args : List String) : Sys Outcome := do
  let cs := treeFor args
  let outcome ← runLine env cs args
  return { outcome with rootHelp := env.rootHelp || setsUpRootHelp cs args }

end LogStore.Cli
