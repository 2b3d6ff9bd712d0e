import LogStore.Failure

/-!
# Typed cells

A cell is a typed value: empty, a signed 64-bit integer, or a byte string. A cell type is one
byte; 0, 1 and 2 name the three kinds and every other byte is an unknown type, which no cell
has but a caller may still ask for.

* `CellType.name` is `empty`, `i64`, `str` or `CellType(n)`; `CellType.parse?` reads the names
  `empty`, `i64`, `int64`, `str` and `string`, exactly as written.
* `Cell.text` is the cell as text: the decimal of an integer, the bytes of a string, nothing for
  an empty cell. `Cell.same` compares type and value.
-/

namespace LogStore

/-- A cell type: one byte, of which 0, 1 and 2 are known. -/
structure CellType where
  code : UInt8
  deriving DecidableEq, Repr

namespace CellType

/-- The type of empty cells. -/
def empty : CellType := ⟨0⟩

/-- The type of 64-bit integer cells. -/
def int : CellType := ⟨1⟩

/-- The type of byte-string cells. -/
def str : CellType := ⟨2⟩

/-- The name of a type. -/
def name (t : CellType) : String :=
  match t.code.toNat with
  | 0 => "empty"
  | 1 => "i64"
  | 2 => "str"
  | n => "CellType(" ++ toString n ++ ")"

/-- The type a name stands for, or a failure naming the unknown name. -/
def parse? (s : String) : Except Failure CellType :=
  if s = "empty" then .ok empty
  else if s = "i64" ∨ s = "int64" then .ok int
  else if s = "str" ∨ s = "string" then .ok str
  else .error (.plain ("unknown cell type " ++ Text.quote s))

end CellType

/-- A typed value. -/
inductive Cell where
  | empty
  | int (v : Int64)
  | str (b : ByteArray)

namespace Cell

/-- The type of a cell. -/
def type : Cell → CellType
  | .empty => .empty
  | .int _ => .int
  | .str _ => .str

/-- Whether the cell is empty. -/
def isEmpty : Cell → Bool
  | .empty => true
  | _ => false

/-- Same type and, for integers and strings, same value. -/
def same : Cell → Cell → Bool
  | .empty, .empty => true
  | .int a, .int b => a == b
  | .str a, .str b => a == b
  | _, _ => false

/-- The cell as bytes of text: the decimal of an integer, the string's bytes, nothing when empty. -/
def text : Cell → ByteArray
  | .empty => ByteArray.empty
  | .int v => (toString v.toInt).toUTF8
  | .str b => b

/-- The integer of an integer cell, or the complaint of asking another cell for one. -/
def int? : Cell → Except String Int64
  | .int v => .ok v
  | c => .error ("codec: Int64 called on " ++ c.type.name ++ " cell")

/-- The bytes of a string cell, or the complaint of asking another cell for them. -/
def bytes? : Cell → Except String ByteArray
  | .str b => .ok b
  | c => .error ("codec: Bytes called on " ++ c.type.name ++ " cell")

end Cell

end LogStore
