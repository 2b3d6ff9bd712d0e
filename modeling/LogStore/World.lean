import LogStore.Disk.File
import LogStore.Logging.Logger
import LogStore.Digest.Sha256

/-!
# The world a program runs in

Everything outside the program's own values: the disk, the log lines written so far, the time
of day when it is known, and a supply of fresh identifiers. Identifiers are drawn one after
another, so no two drawn in one world are equal; their text is in the formats that the program
shows (27 base-62 characters, 64 lowercase hexadecimal digits).

* `Sys` is a computation in a world; `emit` writes an event through a logger, `fresh` draws.
* `onDisk` runs a disk operation inside `Sys`.
-/

namespace LogStore

/-- The disk, the log written so far, the clock and the identifier supply. -/
structure World where
  disk : Disk
  lines : Array String := #[]
  now : Option String := none
  draws : Nat := 0

/-- A computation in a world. -/
abbrev Sys := StateM World

namespace Sys

/-- Runs a disk operation that also gives a result. -/
def onDisk {α : Type} (f : Disk → α × Disk) : Sys α :=
  modifyGet fun w => let (a, d) := f w.disk; (a, { w with disk := d })

/-- The current disk. -/
def disk : Sys Disk := do
  return (← get).disk

/-- Replaces the disk. -/
def setDisk (d : Disk) : Sys Unit :=
  modify fun w => { w with disk := d }

/-- Writes an event through a logger. -/
def emit (lg : Logger) (e : Event) : Sys Unit :=
  modify fun w => match lg.render w.now e with
    | some line => { w with lines := w.lines.push line }
    | none => w

/-- Draws the next identifier number. -/
def fresh : Sys Nat :=
  modifyGet fun w => (w.draws, { w with draws := w.draws + 1 })

end Sys

/-- The base-62 digits. -/
def base62Digits : List Char :=
  "0123456789ABCDEFGHIJKLMNOPQRSTUVWXYZabcdefghijklmnopqrstuvwxyz".toList

/-- `n` as exactly `width` base-62 digits (the low ones). -/
def base62 (n width : Nat) : String :=
  String.ofList ((List.range width).reverse.map fun i =>
    base62Digits.getD (n / Nat.pow 62 i % 62) '0')

/-- A sortable unique identifier of 27 base-62 characters for the draw `n`. -/
def uniqueId (n : Nat) : String :=
  base62 (n + 1) 27

/-- 64 lowercase hexadecimal digits for the draw `n`. -/
def secretHex (n : Nat) : String :=
  Digest.hexDigest (toString n).toUTF8

end LogStore
