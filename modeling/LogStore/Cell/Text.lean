import LogStore.Cell.Codec
import LogStore.Text.Integer

/-!
# Values typed on the command line

On the command line a value comes with a type name. The empty name and `bytes` store the text
as it is; a cell type stores the text as one cell of that type, and reads a stored value back
as exactly one cell, nothing after it.

* `encodeArg typ arg` is the stored value for the bytes `arg` of an argument: an `i64` argument
  is a signed decimal, a `str` argument its bytes, and an `empty` cell cannot be given.
* `formatValue typ value` is the text of a stored value.
-/

namespace LogStore.Cell

/-- The name under which values are stored as given. -/
def rawTypeName : String := "bytes"

/-- The stored value for the bytes `arg` of a command-line argument of type `typ`. -/
def encodeArg (typ : String) (arg : ByteArray) : Except Failure ByteArray :=
  if typ = "" ∨ typ = rawTypeName then .ok arg
  else do
    let t ← CellType.parse? typ
    let c ← match t.code.toNat with
      | 1 =>
        match Text.parseInt64 arg with
        | .ok v => pure (Cell.int (Int64.ofInt v))
        | .error e =>
          .error (.within ("value " ++ Text.quoteBytes arg ++ " is not an i64") (.number "ParseInt" arg e))
      | 2 => pure (Cell.str arg)
      | _ => .error (.plain ("type " ++ t.name ++ " cannot be set from the command line"))
    match append ByteArray.empty c t with
    | (b, Option.none) => pure b
    | (_, some f) => .error f

/-- The text of a stored value of type `typ`. -/
def formatValue (typ : String) (value : ByteArray) : Except Failure ByteArray :=
  if typ = "" ∨ typ = rawTypeName then .ok value
  else do
    let t ← CellType.parse? typ
    match decode value t with
    | (_, _, some f) => .error (.within ("value is not a " ++ t.name ++ " cell") f)
    | (c, rest, none) =>
      if rest.size ≠ 0 then
        .error (.plain ("value is not a " ++ t.name ++ " cell: " ++ toString rest.size ++
          " trailing bytes"))
      else pure c.text

end LogStore.Cell
