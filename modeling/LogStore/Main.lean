import LogStore.Cli.Files

/-!
# The `kvdb` program

The command line on the machine's files: it gathers the files the run reads, runs the command,
writes back what the run changed, prints the output on standard output and the log lines and
the failure on standard error, and exits with status 1 when the run failed.
-/

namespace LogStore.Cli

/-- The number the system gives a failure to read a directory as a file. -/
def isDirectoryCode : UInt32 := 21

/-- The disk with the file at `path` gathered: its bytes, a directory, or nothing when it cannot
be read. -/
def gather (d : Disk) (path : String) : IO Disk := do
  try
    let b ← IO.FS.readBinFile path
    return d.withPath path b
  catch e =>
    match e with
    | .inappropriateType _ code _ =>
      if code = isDirectoryCode then return (d.mkdirAll path).toOption.getD d else return d
    | _ => return d

/-- The disk with every file a run may read gathered, in `rounds` rounds, each naming the files
from what the ones before gathered. -/
def gatherAll (env : Cli.Env) (args : List String) (d : Disk) : Nat → IO Disk
  | 0 => pure d
  | rounds + 1 => do
    let d ← (Cli.readsFrom env args d).foldlM gather d
    gatherAll env args d rounds

/-- Applies a change to the machine's files. -/
def applyChange : Change → IO Unit
  | .makeDir path => IO.FS.createDirAll path
  | .write path contents => IO.FS.writeBinFile path contents
  | .remove path => IO.FS.removeFile path

end LogStore.Cli

open LogStore

/-- Runs `kvdb` with the command-line arguments. -/
def main (args : List String) : IO UInt32 := do
  let env : Cli.Env := { home := ← IO.getEnv "HOME" }
  let cwd := (← IO.getEnv "PWD").getD "/"
  let before ← Cli.gatherAll env args (Disk.withCwd cwd) 4
  let (out, w) := (Cli.run env args).run { disk := before }
  for c in Disk.changes before w.disk do
    Cli.applyChange c
  let stdout ← IO.getStdout
  let stderr ← IO.getStderr
  stdout.write out.stdout
  stdout.flush
  for line in w.lines do
    stderr.putStrLn line
  stderr.putStr out.stderr
  stderr.flush
  return if out.failure.isSome then 1 else 0
