import LogStore.Config.Basic
import LogStore.Disk.Whole

/-!
# Configuration files

* `Config.load` reads a configuration file over the defaults. A path that names nothing is
  refused as `config file does not exist: <path>`; otherwise the path is made absolute, and a
  file that cannot be read, a text that is not a configuration, and a configuration that is
  not valid are refused, each naming what went wrong.
* `Config.save` creates the file's directory if missing and writes the configuration's text.
* `defaultConfigPath` is `~/.config/kvdb/config.yaml`, or `./kvdb.yaml` without a home.
-/

namespace LogStore

namespace Config

/-- Reads a configuration file over the defaults. -/
def load (d : Disk) (path : String) : Except Failure Config := do
  match d.stat path with
  | .error (.system _ _ .noEntry) => throw (.plain ("config file does not exist: " ++ path))
  | _ => pure ()
  let abs := if Path.isAbs path then path else Path.abs d.cwd path
  let bytes ← match d.contentsAt abs with
    | .ok b => pure b
    | .error f => throw (.within "failed to read config file" f)
  let c ← match Config.default.ofYaml bytes with
    | .ok c => pure c
    | .error e => throw (.plain ("failed to parse config file: " ++ e))
  match c.validate with
  | some why => throw (.plain ("invalid config file " ++ abs ++ ": " ++ why))
  | none => return c

/-- Writes a configuration file, creating its directory if missing. -/
def save (d : Disk) (c : Config) (path : String) : Except Failure Disk := do
  let d ← match d.mkdirAll (Path.dir path) with
    | .ok d => pure d
    | .error f => throw (.within "failed to create config directory" f)
  match d.writeFile path c.toYaml.toUTF8 with
  | .ok d => return d
  | .error f => throw (.within "failed to write config file" f)

end Config

/-- Where the configuration is kept when no path is given: under the home directory when
there is one. -/
def defaultConfigPath (home : Option String) : String :=
  match home with
  | some h => Path.join (Path.join h ".config/kvdb") "config.yaml"
  | none => "./kvdb.yaml"

end LogStore
