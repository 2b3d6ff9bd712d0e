import LogStore.Text.Utf8
import LogStore.Text.Printable

/-!
# Double-quoted escaped text

Error messages show names and keys between double quotes with escapes, so that blanks, control
characters and malformed bytes stay visible. Inside the quotes a double quote and a backslash
get a backslash; a printable character stands for itself; the control characters with a
one-letter escape use it (`\a \b \f \n \r \t \v`); other characters below U+0020 and U+007F are
written `\xNN`; other unprintable characters `\uNNNN` or `\UNNNNNNNN`; a malformed byte `\xNN`.

* Which characters are printable is `isPrint`: letters, marks, numbers, punctuation, symbols
  and the ASCII space.
* `quoteBytes b` quotes a byte string, `quote s` a text.
-/

namespace LogStore.Text

/-- `n` as exactly `w` lowercase hexadecimal digits (the low ones). -/
def hexPadded (n w : Nat) : String :=
  let digit (d : Nat) : Char := if d < 10 then Char.ofNat (d + 48) else Char.ofNat (d + 87)
  (List.range w).foldl (fun s i => s.push (digit ((n / Nat.pow 16 (w - 1 - i)) % 16))) ""

/-- The escaped form of one character between double quotes. -/
def escapeChar (c : Char) : String :=
  let n := c.toNat
  if c = '"' then "\\\""
  else if c = '\\' then "\\\\"
  else if isPrint c then c.toString
  else if n = 7 then "\\a"
  else if n = 8 then "\\b"
  else if n = 12 then "\\f"
  else if n = 10 then "\\n"
  else if n = 13 then "\\r"
  else if n = 9 then "\\t"
  else if n = 11 then "\\v"
  else if n < 0x20 || n = 0x7F then "\\x" ++ hexPadded n 2
  else if n < 0x10000 then "\\u" ++ hexPadded n 4
  else "\\U" ++ hexPadded n 8

/-- The escaped bytes from `i` on, appended to `acc`. -/
def quoteFrom (b : ByteArray) (i : Nat) (acc : String) : String :=
  if h : i < b.size then
    match Utf8.decodeAt b i with
    | some (c, w) => quoteFrom b (i + max w 1) (acc ++ escapeChar c)
    | none => quoteFrom b (i + 1) (acc ++ "\\x" ++ hexPadded b[i].toNat 2)
  else acc
termination_by b.size - i

/-- A byte string between double quotes, escaped. -/
def quoteBytes (b : ByteArray) : String :=
  (quoteFrom b 0 "\"").push '"'

/-- A text between double quotes, escaped. -/
def quote (s : String) : String :=
  quoteBytes s.toUTF8

/-- A character between single quotes, escaped as a character literal. -/
def quoteRune (c : Char) : String :=
  let body := if c = '\x27' then "\\\x27" else if c = '"' then "\"" else escapeChar c
  "\x27" ++ body ++ "\x27"

end LogStore.Text
