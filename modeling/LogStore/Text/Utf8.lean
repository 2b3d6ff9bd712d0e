/-!
# Reading UTF-8 with replacement

Keys and values are bytes; where they are shown as text, each well-formed UTF-8 sequence is one
character and each byte that starts no well-formed sequence is one replacement character
U+FFFD. A sequence is well formed when its lead byte and continuation bytes fall in the
ranges of the Unicode standard (no overlong forms, no surrogates, nothing above U+10FFFF).

* `decodeAt b i` is the character starting at byte `i` and its width, or `none` when the byte
  there starts no well-formed sequence.
* `lossy b` is the text of `b` with replacements; `isValid b` says that none was needed.
-/

namespace LogStore.Text.Utf8

/-- Whether byte `x` is a continuation byte within `lo ≤ x ≤ hi`. -/
def within (x lo hi : Nat) : Bool :=
  lo ≤ x && x ≤ hi

/-- The character starting at `i` and its width in bytes, or `none` when the byte at `i` starts
no well-formed sequence (or `i` is past the end). -/
def decodeAt (b : ByteArray) (i : Nat) : Option (Char × Nat) :=
  if _h : i < b.size then
    let b0 := b[i].toNat
    let at1 := if h1 : i + 1 < b.size then b[i + 1].toNat else 0
    let at2 := if h2 : i + 2 < b.size then b[i + 2].toNat else 0
    let at3 := if h3 : i + 3 < b.size then b[i + 3].toNat else 0
    let has (n : Nat) := decide (i + n < b.size)
    if b0 < 0x80 then some (Char.ofNat b0, 1)
    else if within b0 0xC2 0xDF then
      if has 1 && within at1 0x80 0xBF then
        some (Char.ofNat ((b0 % 32) * 64 + at1 % 64), 2)
      else none
    else if within b0 0xE0 0xEF then
      let lo := if b0 = 0xE0 then 0xA0 else 0x80
      let hi := if b0 = 0xED then 0x9F else 0xBF
      if has 2 && within at1 lo hi && within at2 0x80 0xBF then
        some (Char.ofNat ((b0 % 16) * 4096 + (at1 % 64) * 64 + at2 % 64), 3)
      else none
    else if within b0 0xF0 0xF4 then
      let lo := if b0 = 0xF0 then 0x90 else 0x80
      let hi := if b0 = 0xF4 then 0x8F else 0xBF
      if has 3 && within at1 lo hi && within at2 0x80 0xBF && within at3 0x80 0xBF then
        some (Char.ofNat ((b0 % 8) * 262144 + (at1 % 64) * 4096 + (at2 % 64) * 64 + at3 % 64), 4)
      else none
    else none
  else none

/-- The text of the bytes from `i` on, each malformed byte read as U+FFFD. -/
def lossyFrom (b : ByteArray) (i : Nat) (acc : String) : String :=
  if _h : i < b.size then
    match decodeAt b i with
    | some (c, w) => lossyFrom b (i + max w 1) (acc.push c)
    | none => lossyFrom b (i + 1) (acc.push '�')
  else acc
termination_by b.size - i

/-- The text of `b`, each malformed byte read as U+FFFD. -/
def lossy (b : ByteArray) : String :=
  match String.fromUTF8? b with
  | some s => s
  | none => lossyFrom b 0 ""

/-- Whether `b` is well-formed UTF-8 throughout. -/
def isValid (b : ByteArray) : Bool :=
  (String.fromUTF8? b).isSome

end LogStore.Text.Utf8
