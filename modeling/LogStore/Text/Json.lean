import LogStore.Text.Utf8
import LogStore.Text.Quoted

/-!
# JSON text

The JSON this library writes: objects with fields in the order given, strings escaped so that
the text reads back as the same value. In a string a double quote and a backslash get a backslash;
`\b \f \n \r \t` use their short escapes and every other byte below U+0020 is `\u00XX`; a byte
that starts no well-formed UTF-8 sequence becomes the replacement character U+FFFD. For text
served to browsers (`html`), `<`, `>`, `&`, U+2028 and U+2029 are escaped too.

* `quoteBytes html b` and `quote html s` write a string; `Value.render` a whole value.
-/

namespace LogStore.Text.Json

/-- The escape of one well-formed character, or the character itself. -/
def escapeChar (html : Bool) (c : Char) : String :=
  let n := c.toNat
  if c = '"' then "\\\""
  else if c = '\\' then "\\\\"
  else if n = 8 then "\\b"
  else if n = 12 then "\\f"
  else if c = '\n' then "\\n"
  else if c = '\r' then "\\r"
  else if c = '\t' then "\\t"
  else if n < 0x20 then "\\u00" ++ hexPadded n 2
  else if html ∧ (c = '<' ∨ c = '>' ∨ c = '&') then "\\u00" ++ hexPadded n 2
  else if html ∧ (n = 0x2028 ∨ n = 0x2029) then "\\u" ++ hexPadded n 4
  else c.toString

/-- The escaped bytes from `i` on, appended to `acc`. -/
def quoteFrom (html : Bool) (b : ByteArray) (i : Nat) (acc : String) : String :=
  if _h : i < b.size then
    match Utf8.decodeAt b i with
    | some (c, w) => quoteFrom html b (i + max w 1) (acc ++ escapeChar html c)
    | none => quoteFrom html b (i + 1) (acc.push '\uFFFD')
  else acc
termination_by b.size - i

/-- A byte string as a JSON string. -/
def quoteBytes (html : Bool) (b : ByteArray) : String :=
  "\"" ++ quoteFrom html b 0 "" ++ "\""

/-- A text as a JSON string. -/
def quote (html : Bool) (s : String) : String :=
  quoteBytes html s.toUTF8

/-- A JSON value to be written. -/
inductive Value where
  | null
  | bool (b : Bool)
  /-- A number, already as its text. -/
  | num (text : String)
  /-- A string, as bytes. -/
  | str (b : ByteArray)
  | arr (xs : List Value)
  | obj (fields : List (String × Value))

/-- A text as a JSON string value. -/
def Value.text (s : String) : Value := .str s.toUTF8

/-- A whole number as a JSON number. -/
def Value.int (n : Int) : Value := .num (toString n)

mutual
/-- The compact text of a value. -/
def Value.render (html : Bool) : Value → String
  | .null => "null"
  | .bool b => if b then "true" else "false"
  | .num t => t
  | .str b => quoteBytes html b
  | .arr xs => "[" ++ renderList html xs ++ "]"
  | .obj fs => "\x7b" ++ renderFields html fs ++ "\x7d"

/-- Values separated by commas. -/
def renderList (html : Bool) : List Value → String
  | [] => ""
  | [x] => x.render html
  | x :: xs => x.render html ++ "," ++ renderList html xs

/-- Fields separated by commas. -/
def renderFields (html : Bool) : List (String × Value) → String
  | [] => ""
  | [(k, v)] => quote html k ++ ":" ++ v.render html
  | (k, v) :: fs => quote html k ++ ":" ++ v.render html ++ "," ++ renderFields html fs
end

end LogStore.Text.Json
