import LogStore.Failure
import LogStore.Bytes.Word

/-!
# The log file header

Every log file starts with six bytes: the magic number `0x4B564442` (the text `BDVK` read as a
little-endian word, `KVDB` backwards) and the format version, 2, as a little-endian 16-bit
word. A reader accepts any version up to its own, so files of versions 0 and 1 open too.

* `encode` is the header; `check` accepts or refuses the first six bytes of a file.
-/

namespace LogStore.Header

/-- The magic number. -/
def magic : Nat := 0x4B564442

/-- The format version written and the newest one read. -/
def version : Nat := 2

/-- The header's length. -/
def size : Nat := 6

/-- The header of a new log. -/
def encode : ByteArray :=
  Bytes.pushLE (Bytes.leBytes magic 4) version 2

/-- Accepts a header, or says why not: a wrong magic number, or a newer version. -/
def check (b : ByteArray) : Option Failure :=
  if b.size < size then
    some (.badMagic (toString b.size ++ " byte header"))
  else
    let m := Bytes.readLE b 0 4
    let v := Bytes.readLE b 4 2
    if m ≠ magic then some (.badMagic ("magic 0x" ++ Text.hexPadded m 8))
    else if v > version then some (.unsupportedVersion v)
    else none

end LogStore.Header
