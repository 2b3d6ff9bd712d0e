import LogStore.Yaml.Scanner

/-!
# Reading the bytes of a YAML text

A YAML text is UTF-8, UTF-16LE or UTF-16BE. A byte order mark at the start names the encoding
(`FF FE`, `FE FF`, `EF BB BF`) and is dropped; without one the text is UTF-8.

The bytes are read in rounds, as the scanner asks for characters. A round takes the bytes from
where the last one stopped, 512 of them (fewer at the end), and decodes every character they
hold whole; a character cut off by the end of the round is left for the next round, and once
the bytes are used up a last round finds nothing more. The first character that is wrong fails
its round:

* a byte that starts no UTF-8 sequence, `invalid leading UTF-8 octet`; a byte that does not
  continue one, `invalid trailing UTF-8 octet`; a character written with more bytes than it
  needs, `invalid length of a UTF-8 sequence`;
* a UTF-16 low surrogate first, `unexpected low surrogate area`; a high surrogate followed by
  something else, `expected low surrogate area`;
* a surrogate or a number past the last character in UTF-8, `invalid Unicode character`;
* a character YAML does not allow, such as a control character (`allowedChar`),
  `control characters are not allowed`;
* bytes left over at the end: `incomplete UTF-8 octet sequence`, `incomplete UTF-16
  character`, or `incomplete UTF-16 surrogate pair`.

A failing round fails only when the scanner needs characters past those of the rounds before
it. So the scanner gets those characters and the failure (`scannerOf`), and reports the
failure when it needs more (`Scanner.fetchNext`); a problem past the end of the first
document is never seen.
-/

namespace LogStore.Yaml

/-- The encodings of a YAML text. -/
inductive Encoding where
  | utf8
  | utf16le
  | utf16be
  deriving DecidableEq, Inhabited

/-- The encoding the first bytes name, and the length of the byte order mark naming it. -/
def encodingOf (b : ByteArray) : Encoding × Nat :=
  if b.size ≥ 2 && b.get! 0 = 0xFF && b.get! 1 = 0xFE then (.utf16le, 2)
  else if b.size ≥ 2 && b.get! 0 = 0xFE && b.get! 1 = 0xFF then (.utf16be, 2)
  else if b.size ≥ 3 && b.get! 0 = 0xEF && b.get! 1 = 0xBB && b.get! 2 = 0xBF then (.utf8, 3)
  else (.utf8, 0)

/-- What decoding at a place finds: a character and its width in bytes, a character cut off
by the end of the bytes at hand (`short`, with the failure it is at the very end), or a
failure. -/
inductive Decoded where
  | char (c : Char) (width : Nat)
  | short (why : String)
  | bad (why : String)

/-- The number of bytes of the UTF-8 sequence a byte starts (zero when it starts none). -/
def leadWidth (o : UInt8) : Nat :=
  if o &&& 0x80 = 0 then 1
  else if o &&& 0xE0 = 0xC0 then 2
  else if o &&& 0xF0 = 0xE0 then 3
  else if o &&& 0xF8 = 0xF0 then 4
  else 0

/-- The bits a starting byte contributes to its character. -/
def leadBits (o : UInt8) (width : Nat) : Nat :=
  match width with
  | 1 => o.toNat &&& 0x7F
  | 2 => o.toNat &&& 0x1F
  | 3 => o.toNat &&& 0x0F
  | _ => o.toNat &&& 0x07

/-- Adds the continuation bytes at `i`, `i+1`, … to a character's bits, or names the first that
does not continue it. -/
def continuation (b : ByteArray) (i : Nat) (value : Nat) : Nat → Except String Nat
  | 0 => .ok value
  | k + 1 =>
    let o := b.get! i
    if o &&& 0xC0 ≠ 0x80 then .error "invalid trailing UTF-8 octet"
    else continuation b (i + 1) (value * 64 + (o.toNat &&& 0x3F)) k

/-- A decoded number as a character YAML allows, or the failure. -/
def allowed (v : Nat) (width : Nat) : Decoded :=
  let c := Char.ofNat v
  if c.toNat = v && allowedChar c then .char c width
  else .bad "control characters are not allowed"

/-- Decodes the UTF-8 character at byte `i`, the bytes at hand ending at `stop`. -/
def decodeUtf8 (b : ByteArray) (i stop : Nat) : Decoded :=
  let o := b.get! i
  let w := leadWidth o
  if w = 0 then .bad "invalid leading UTF-8 octet"
  else if i + w > stop then .short "incomplete UTF-8 octet sequence"
  else
    match continuation b (i + 1) (leadBits o w) (w - 1) with
    | .error why => .bad why
    | .ok v =>
      let shortest := w = 1 || (w = 2 && v ≥ 0x80) || (w = 3 && v ≥ 0x800) || (w = 4 && v ≥ 0x10000)
      if !shortest then .bad "invalid length of a UTF-8 sequence"
      else if (0xD800 ≤ v && v ≤ 0xDFFF) || v > 0x10FFFF then .bad "invalid Unicode character"
      else allowed v w

/-- The UTF-16 unit at byte `i`, in the byte order of `e`. -/
def unitAt (b : ByteArray) (e : Encoding) (i : Nat) : Nat :=
  if e = .utf16le then (b.get! i).toNat + 256 * (b.get! (i + 1)).toNat
  else 256 * (b.get! i).toNat + (b.get! (i + 1)).toNat

/-- Decodes the UTF-16 character at byte `i`, the bytes at hand ending at `stop`. -/
def decodeUtf16 (b : ByteArray) (e : Encoding) (i stop : Nat) : Decoded :=
  if i + 2 > stop then .short "incomplete UTF-16 character"
  else
    let v := unitAt b e i
    if v &&& 0xFC00 = 0xDC00 then .bad "unexpected low surrogate area"
    else if v &&& 0xFC00 = 0xD800 then
      if i + 4 > stop then .short "incomplete UTF-16 surrogate pair"
      else
        let v2 := unitAt b e (i + 2)
        if v2 &&& 0xFC00 ≠ 0xDC00 then .bad "expected low surrogate area"
        else allowed (0x10000 + (v &&& 0x3FF) * 1024 + (v2 &&& 0x3FF)) 4
    else allowed v 2

/-- Decodes the character at byte `i`, the bytes at hand ending at `stop`. -/
def decodeAt (b : ByteArray) (e : Encoding) (i stop : Nat) : Decoded :=
  if e = .utf8 then decodeUtf8 b i stop else decodeUtf16 b e i stop

/-- Decodes the characters of one round, from byte `i` to at most `stop`: the characters
and where the round stopped (before a character cut off at `stop`), or the failure. -/
def decodeRound (b : ByteArray) (e : Encoding) (stop : Nat) (i : Nat) (acc : Array Char) :
    Nat → Except String (Array Char × Nat)
  | 0 => .ok (acc, i)
  | fuel + 1 =>
    if i < stop then
      match decodeAt b e i stop with
      | .char c w => decodeRound b e stop (i + max w 1) (acc.push c) fuel
      | .short _ => .ok (acc, i)
      | .bad why => .error why
    else .ok (acc, i)

/-- What reading the bytes gives: the characters of the rounds that succeeded, and the failure
of the first round that did not, if one did not. -/
structure Reading where
  chars : Array Char
  broken : Option String := none

/-- Reads rounds from byte `i` on, after the characters `acc`; `first` marks the first round,
whose bytes are counted from the start of the text. A round after the first that decodes
nothing holds only a character cut off by the end of the text, which is the last round's
failure. -/
def readRounds (b : ByteArray) (e : Encoding) (first : Bool) (i : Nat) (acc : Array Char) :
    Nat → Reading
  | 0 => { chars := acc }
  | fuel + 1 =>
    if i ≥ b.size then { chars := acc }
    else
      let stop := min b.size ((if first then 0 else i) + 512)
      match decodeRound b e stop i #[] (stop - i + 1) with
      | .error why => { chars := acc, broken := some why }
      | .ok (cs, j) =>
        if j = i && !first then
          match decodeAt b e i b.size with
          | .short why | .bad why => { chars := acc ++ cs, broken := some why }
          | .char _ _ => { chars := acc ++ cs }
        else readRounds b e false j (acc ++ cs) fuel

/-- Reads the bytes of a YAML text. -/
def readText (b : ByteArray) : Reading :=
  let (e, bom) := encodingOf b
  readRounds b e true bom #[] (b.size + 2)

/-- A scanner over the bytes of a YAML text. -/
def scannerOf (b : ByteArray) : Scanner :=
  let r := readText b
  { text := r.chars, broken := r.broken }

end LogStore.Yaml
