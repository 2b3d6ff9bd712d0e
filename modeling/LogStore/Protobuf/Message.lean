import LogStore.Bytes.Varint
import LogStore.Bytes.Word

/-!
# Protocol buffer messages

A message is a list of fields, each with a name, a number and a value: a string, an enum
constant, an unsigned integer, a double or a nested message. The fields are kept in the order
the message type declares them; where a field is repeated it appears once per element.

Two encodings are written:

* `Field.encode`, `encodeFields`: the binary one. Each field is its key (the number shifted
  left three bits, plus the wire type: 0 for varints, 1 for eight fixed bytes, 2 for
  length-prefixed bytes) and its value; strings and nested messages are length-prefixed, a
  double is its 64-bit word, low byte first.
* `Field.text`, `fieldsText`: the text one, one `name: value` per line, a nested message in
  `<` and `>` with its fields indented two more spaces. The compact form puts a blank where a
  line ends, drops the blank after the colon and indents nothing. Strings are quoted: `\n`,
  `\r`, `\t`, `\"` and `\\` are escaped by name, and every byte outside printable ASCII as
  three octal digits.
-/

namespace LogStore.Protobuf

/-- A field of a message, with its name and number. A double carries the text it is shown
with and its 64-bit word. -/
inductive Field where
  | string (name : String) (number : Nat) (value : String)
  | enum (name : String) (number : Nat) (label : String) (value : Nat)
  | uint (name : String) (number : Nat) (value : Nat)
  | double (name : String) (number : Nat) (text : String) (word : Nat)
  | message (name : String) (number : Nat) (fields : List Field)
  deriving Inhabited

/-- The key of a field: its number and wire type. -/
def key (number wireType : Nat) : ByteArray :=
  Bytes.uvarint (number * 8 + wireType)

/-- Bytes preceded by their length. -/
def lengthPrefixed (b : ByteArray) : ByteArray :=
  Bytes.uvarint b.size ++ b

mutual

/-- The binary encoding of a field. -/
def Field.encode : Field → ByteArray
  | .string _ n v => key n 2 ++ lengthPrefixed v.toUTF8
  | .enum _ n _ v => key n 0 ++ Bytes.uvarint v
  | .uint _ n v => key n 0 ++ Bytes.uvarint v
  | .double _ n _ w => key n 1 ++ Bytes.leBytes w 8
  | .message _ n fs => key n 2 ++ lengthPrefixed (encodeFields fs)

/-- The binary encoding of fields, one after the other. -/
def encodeFields : List Field → ByteArray
  | [] => ByteArray.empty
  | f :: fs => f.encode ++ encodeFields fs

end

/-- Three octal digits of a byte. -/
def octal (b : Nat) : String :=
  String.ofList [Char.ofNat (48 + b / 64), Char.ofNat (48 + b / 8 % 8), Char.ofNat (48 + b % 8)]

/-- A string in double quotes, escaped byte by byte. -/
def quoted (s : String) : String :=
  "\"" ++ String.join (s.toUTF8.toList.map fun c =>
    if c = 10 then "\\n" else if c = 13 then "\\r" else if c = 9 then "\\t"
    else if c = 34 then "\\\"" else if c = 92 then "\\\\"
    else if 32 ≤ c && c < 127 then String.singleton (Char.ofNat c.toNat)
    else "\\" ++ octal c.toNat) ++ "\""

/-- How a field's name is followed: by a colon and, unless compact, a blank. -/
def nameText (compact : Bool) (name : String) : String :=
  name ++ (if compact then ":" else ": ")

/-- The end of a field: a line break, or a blank in the compact form. -/
def fieldEnd (compact : Bool) : String :=
  if compact then " " else "\n"

/-- The indentation of a line at a depth, none in the compact form. -/
def indentText (compact : Bool) (depth : Nat) : String :=
  if compact then "" else String.ofList (List.replicate (2 * depth) ' ')

mutual

/-- The text of a field at a depth of nesting. -/
def Field.text (compact : Bool) (depth : Nat) : Field → String
  | .string name _ v => indentText compact depth ++ nameText compact name ++ quoted v ++ fieldEnd compact
  | .enum name _ label _ => indentText compact depth ++ nameText compact name ++ label ++ fieldEnd compact
  | .uint name _ v => indentText compact depth ++ nameText compact name ++ toString v ++ fieldEnd compact
  | .double name _ t _ => indentText compact depth ++ nameText compact name ++ t ++ fieldEnd compact
  | .message name _ fs =>
    indentText compact depth ++ nameText compact name ++ "<" ++ (if compact then "" else "\n") ++
      fieldsText compact (depth + 1) fs ++ indentText compact depth ++ ">" ++ fieldEnd compact

/-- The text of fields at a depth of nesting. -/
def fieldsText (compact : Bool) (depth : Nat) : List Field → String
  | [] => ""
  | f :: fs => f.text compact depth ++ fieldsText compact depth fs

end

end LogStore.Protobuf
