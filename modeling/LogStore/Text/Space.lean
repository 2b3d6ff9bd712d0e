import LogStore.Text.Utf8

/-!
# White space

White space is what Unicode calls so: the ASCII blanks and line breaks (tab, line feed,
vertical tab, form feed, carriage return, space), the next-line and no-break spaces, and the
other space separators and line and paragraph separators.

* `trimRight` drops white space at the end of a text, `trim` at both ends; `isBlank` says a
  text is all white space.
* `trimBytes` drops white space at both ends of bytes read as UTF-8; a malformed byte is not
  white space, so trimming stops at it.
-/

namespace LogStore.Text

/-- Whether a character is white space. -/
def isSpace (c : Char) : Bool :=
  let n := c.toNat
  (0x09 ≤ n && n ≤ 0x0D) || n = 0x20 || n = 0x85 || n = 0xA0 || n = 0x1680 ||
    (0x2000 ≤ n && n ≤ 0x200A) || n = 0x2028 || n = 0x2029 || n = 0x202F || n = 0x205F ||
    n = 0x3000

/-- A text without the white space at its end. -/
def trimRight (s : String) : String :=
  String.ofList (s.toList.reverse.dropWhile isSpace).reverse

/-- A text without the white space at its start and at its end. -/
def trim (s : String) : String :=
  trimRight (String.ofList (s.toList.dropWhile isSpace))

/-- Whether a text is empty or all white space. -/
def isBlank (s : String) : Bool :=
  s.toList.all isSpace

/-- The index after the white-space characters of `b` that start at `i`. -/
def spaceEnd (b : ByteArray) (i : Nat) : Nat :=
  if _h : i < b.size then
    match Utf8.decodeAt b i with
    | some (c, w) => if isSpace c then spaceEnd b (i + max w 1) else i
    | none => i
  else i
termination_by b.size - i

/-- The width of the white-space character that ends the first `n` bytes of `b`, or zero. A
white-space character takes one to three bytes. -/
def trailingSpaceWidth (b : ByteArray) (n : Nat) : Nat :=
  let ends (w : Nat) : Bool := w ≤ n && match Utf8.decodeAt b (n - w) with
    | some (c, w') => w' = w && isSpace c
    | none => false
  if ends 1 then 1 else if ends 2 then 2 else if ends 3 then 3 else 0

/-- The number of the first `n` bytes of `b` left after dropping white space at their end. -/
def spaceStart (b : ByteArray) (n : Nat) : Nat :=
  let w := trailingSpaceWidth b n
  if _h : 0 < w ∧ w ≤ n then spaceStart b (n - w) else n
termination_by n

/-- Bytes without the white-space characters at their start and at their end. -/
def trimBytes (b : ByteArray) : ByteArray :=
  let rest := b.extract (spaceEnd b 0) b.size
  rest.extract 0 (spaceStart rest rest.size)

end LogStore.Text
