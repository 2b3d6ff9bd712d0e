import LogStore.Cell.Basic
import LogStore.Bytes.Word

/-!
# Cell encoding

An empty cell is the single byte `0x02`; an integer cell its eight bytes, little endian, two's
complement; a string cell its length in four bytes, little endian, then its bytes.

* `append dst c expected` writes `c` after `dst` when `c` has the expected type, and otherwise
  fails and leaves `dst` as it was.
* `decode buf t` reads a cell of type `t` from the front of `buf` and gives it with the bytes
  after it. On failure the cell is the empty one and the whole of `buf` is the remainder: a
  buffer that ends too early, an empty cell whose byte is not `0x02`, or an unknown type.
* `decodeAll buf ts` reads one cell per type, in order, and stops at the first failure.
-/

namespace LogStore.Cell

/-- The byte an empty cell is written as. -/
def emptyByte : UInt8 := 0x02

/-- Writes `c` after `dst`, refusing a cell of another type than `expected`. -/
def append (dst : ByteArray) (c : Cell) (expected : CellType) : ByteArray × Option Failure :=
  if c.type ≠ expected then
    (dst, some (.typeMismatch ("have " ++ c.type.name ++ ", want " ++ expected.name)))
  else match c with
    | .empty => (dst.push emptyByte, none)
    | .int v => (Bytes.pushLE dst v.toUInt64.toNat 8, none)
    | .str b => (Bytes.pushLE dst b.size 4 ++ b, none)

/-- A cell of type `t` from the front of `buf`, the bytes after it, and no failure; or, on
failure, the empty cell, all of `buf`, and the failure. -/
def decode (buf : ByteArray) (t : CellType) : Cell × ByteArray × Option Failure :=
  match t.code.toNat with
  | 0 =>
    if buf.size < 1 then (.empty, buf, some .expectMoreData)
    else if Bytes.byteAt buf 0 ≠ emptyByte.toNat then
      (.empty, buf, some (.illegalByte (Bytes.byteAt buf 0).toUInt8))
    else (.empty, buf.extract 1 buf.size, none)
  | 1 =>
    if buf.size < 8 then (.empty, buf, some .expectMoreData)
    else (.int (Bytes.readLE buf 0 8).toUInt64.toInt64, buf.extract 8 buf.size, none)
  | 2 =>
    if buf.size < 4 then (.empty, buf, some .expectMoreData)
    else
      let n := Bytes.readLE buf 0 4
      if buf.size - 4 < n then (.empty, buf, some .expectMoreData)
      else (.str (buf.extract 4 (4 + n)), buf.extract (4 + n) buf.size, none)
  | _ => (.empty, buf, some (.typeMismatch ("unknown cell type " ++ t.name)))

/-- One cell per type, in order, until the first failure: the cells read (a failure last, with
the bytes it left), and the bytes after the last cell read. -/
def decodeAll (buf : ByteArray) : List CellType → List (Except (Failure × ByteArray) Cell) × ByteArray
  | [] => ([], buf)
  | t :: ts =>
    match decode buf t with
    | (_, rest, some f) => ([.error (f, rest)], rest)
    | (c, rest, none) =>
      let (cs, last) := decodeAll rest ts
      (.ok c :: cs, last)

end LogStore.Cell
