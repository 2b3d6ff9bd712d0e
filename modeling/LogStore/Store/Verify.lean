import LogStore.Store.Basic

/-!
# Verifying a log

Verification scans a log without changing it and reports what a store opening it would find.
An empty file is an empty log. A torn or damaged last record is reported as tail damage, which
opening would cut; damage that ends before the end of the file is mid-stream corruption, which
fails verification with the report so far; an oversized record or a failure of the file fails it
too.

* `verify path logger opener` gives the report (or none) and the failure (or none).
-/

namespace LogStore

/-- What a scan of a log found. -/
structure VerifyReport where
  records : Nat := 0
  tombstones : Nat := 0
  liveKeys : Nat := 0
  fileSize : Nat := 0
  /-- The offset just past the last good record. -/
  validSize : Nat := 0
  /-- Damage of the last record, if any. -/
  tailCorruption : Option Failure := none

/-- Reads records to the end of the log, counting them; `fuel` bounds the records read. -/
def scanFrom (keys : KeyDir) (rep : VerifyReport) :
    Nat → LogM (Option VerifyReport × Option Failure)
  | 0 => do
    return (some { rep with validSize := (← get).readOffset, liveKeys := keys.size }, none)
  | fuel + 1 => do
    match ← Log.read with
    | .ok none =>
      return (some { rep with validSize := (← get).readOffset, liveKeys := keys.size }, none)
    | .ok (some e) =>
      scanFrom (keys.apply e.key e.value e.deleted)
        { rep with records := rep.records + 1,
                   tombstones := rep.tombstones + (if e.deleted then 1 else 0) } fuel
    | .error f =>
      let rep := { rep with validSize := (← get).readOffset, liveKeys := keys.size }
      if !f.isRecoverable then return (some rep, some f)
      match f.record? with
      | some (_, stop) =>
        if stop < rep.fileSize then return (some rep, some (.corruptMidStream f))
        else return (some { rep with tailCorruption := some f }, none)
      | none => return (some { rep with tailCorruption := some f }, none)

/-- Verifies the log at `path`: the report, if there is one, and the failure, if any. -/
def verify (path : String) (logger : Logger) (opener : Opener) :
    Sys (Option VerifyReport × Option Failure) := do
  match (← Sys.disk).stat path with
  | .error f => return (none, some f)
  | .ok (.dir, _) => return (none, some (.isDirectory path))
  | .ok (_, size) =>
    if size = 0 then return (some { fileSize := 0 }, none)
    let scan : LogM (Option VerifyReport × Option Failure) := do
      match ← Log.openFile with
      | .error f =>
        Log.close
        return (none, some f)
      | .ok () =>
        let result ← match ← Log.size with
          | .error f => pure (none, some f)
          | .ok n => scanFrom {} { fileSize := n } (n + 1)
        Log.close
        return result
    let (result, _) ← scan (Log.create path logger opener)
    return result

end LogStore
