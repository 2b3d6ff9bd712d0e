import LogStore.Failure
import LogStore.Text.Case

/-!
# Set modes

A write of a key states a precondition: `upsert` writes unless the key already holds the same
value, `insert` writes only an absent key, `update` only a present key whose value differs. A
mode may also arrive as a number; `0`, `1` and `2` are the three modes and any other number is
an unknown mode, which every write refuses.

* `SetMode.parse?` reads a name regardless of case, the empty name meaning `upsert`.
* `SetMode.name` is the mode's name, `SetMode(n)` for an unknown mode.
-/

namespace LogStore

/-- The precondition of a write. -/
inductive SetMode where
  | upsert
  | insert
  | update
  /-- A numbered mode that is none of the three. -/
  | unknown (code : Int)
  deriving DecidableEq, Repr

namespace SetMode

/-- The mode numbered `n`. -/
def ofInt (n : Int) : SetMode :=
  if n = 0 then .upsert else if n = 1 then .insert else if n = 2 then .update else .unknown n

/-- The number of a mode. -/
def code : SetMode → Int
  | .upsert => 0
  | .insert => 1
  | .update => 2
  | .unknown n => n

/-- The name of a mode. -/
def name : SetMode → String
  | .upsert => "upsert"
  | .insert => "insert"
  | .update => "update"
  | .unknown n => "SetMode(" ++ toString n ++ ")"

/-- The mode a name stands for, regardless of case; the empty name is `upsert`. -/
def parse? (s : String) : Except Failure SetMode :=
  match Text.lower s with
  | "" | "upsert" => .ok .upsert
  | "insert" => .ok .insert
  | "update" => .ok .update
  | _ => .error (.invalidMode (Text.quote s))

/-- The mode named by bytes: as `parse?` when they are UTF-8 text; any other bytes name no
mode and are quoted byte by byte in the refusal. -/
def parseBytes? (b : ByteArray) : Except Failure SetMode :=
  match String.fromUTF8? b with
  | some s => parse? s
  | none => .error (.invalidMode (Text.quoteBytes b))

/-- Whether a write of `value` in this mode goes ahead, given the key's current value. -/
def admits (m : SetMode) (current : Option ByteArray) (value : ByteArray) : Bool :=
  match m, current with
  | .insert, some _ => false
  | .update, none => false
  | _, some v => v != value
  | _, none => true

end SetMode

end LogStore
