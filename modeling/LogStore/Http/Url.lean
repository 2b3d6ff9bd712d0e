import LogStore.Bytes.Hex
import LogStore.Text.Quoted
import LogStore.Net.Address

/-!
# Request targets

A request target is a path, optionally followed by `?` and a query and by `#` and a fragment.
The path is percent-decoded into bytes; when the target's spelling of the path differs from the
standard encoding of those bytes, that spelling is kept as the raw path, since routing must then
see it (an encoded `/` is part of a key, not a separator).

* Decoding fails on a `%` not followed by two hexadecimal digits; in a query component `+` also
  stands for a blank.
* The standard encoding of a path escapes every byte except letters, digits, `-_.~` and
  `$&+,/:;=@`, as `%XX` with capital digits.
* `Target.parse?` splits and decodes a target, refusing control characters, bad escapes in
  the path or fragment, an empty scheme and a colon in the first segment of a relative path;
  a target with a scheme and an authority keeps only the path after the authority.
* The authority is checked as `user@host:port` (`checkAuthority`): the port must be digits,
  a bracketed address must be closed, a host may escape only bytes of 0x80 or more (and `%25`,
  a percent sign) and holds only letters, digits and `-_.~!$&'()*+,;=:[]<>"`; the part of an
  address after `%25` (its zone) may also escape what it could hold as it is. A bracket may
  only open the host, and the brackets must hold an IPv6 address (`checkLiteral`). The user
  information holds only letters, digits and `-._:~!$&'()*+,;=%@`, with well-formed escapes.
* `queryValue q name` is the first value of `name` in the query `q`, pairs that do not decode,
  or hold a `;` in the name, being skipped.
-/

namespace LogStore.Http

/-- Whether a byte is a hexadecimal digit. -/
def isHexDigit (c : UInt8) : Bool :=
  (48 ≤ c && c ≤ 57) || (65 ≤ c && c ≤ 70) || (97 ≤ c && c ≤ 102)

/-- The value of a hexadecimal digit byte. -/
def hexDigitValue (c : UInt8) : Nat :=
  if c ≤ 57 then c.toNat - 48 else if c ≤ 70 then c.toNat - 55 else c.toNat - 87

/-- Percent-decodes bytes from `i` on onto `acc`; `plus` makes `+` a blank. -/
def unescapeFrom (b : ByteArray) (plus : Bool) (i : Nat) (acc : ByteArray) : Option ByteArray :=
  if _h : i < b.size then
    let c := b[i]
    if c = 37 then
      if i + 2 < b.size ∧ isHexDigit (b.get! (i + 1)) ∧ isHexDigit (b.get! (i + 2)) then
        let v := hexDigitValue (b.get! (i + 1)) * 16 + hexDigitValue (b.get! (i + 2))
        unescapeFrom b plus (i + 3) (acc.push v.toUInt8)
      else none
    else if plus ∧ c = 43 then unescapeFrom b plus (i + 1) (acc.push 32)
    else unescapeFrom b plus (i + 1) (acc.push c)
  else some acc
termination_by b.size - i

/-- Percent-decodes a text; `plus` makes `+` a blank. -/
def unescape (s : String) (plus : Bool) : Option ByteArray :=
  unescapeFrom s.toUTF8 plus 0 ByteArray.empty

/-- Whether a byte is written as itself in a path. -/
def pathSafe (c : UInt8) : Bool :=
  (97 ≤ c && c ≤ 122) || (65 ≤ c && c ≤ 90) || (48 ≤ c && c ≤ 57) ||
    "-_.~$&+,/:;=@".toList.contains (Char.ofNat c.toNat)

/-- The standard encoding of path bytes. -/
def escapePath (b : ByteArray) : String :=
  b.foldl (fun acc c =>
    if pathSafe c then acc.push (Char.ofNat c.toNat)
    else acc ++ "%" ++ String.ofList [Bytes.hexDigit (c.toNat / 16) |>.toUpper,
                                       Bytes.hexDigit (c.toNat % 16) |>.toUpper]) ""

/-- A split and decoded request target. -/
structure Target where
  /-- The decoded path. -/
  path : ByteArray
  /-- The path as spelled, when that differs from the standard encoding. -/
  rawPath : Option String
  /-- The query, undecoded. -/
  rawQuery : String

/-- The first bad escape in bytes: from a `%` not followed by two hexadecimal digits, at most
three bytes. -/
def badEscape? : List UInt8 → Option (List UInt8)
  | [] => none
  | 37 :: a :: b :: more =>
    if isHexDigit a && isHexDigit b then badEscape? more else some [37, a, b]
  | 37 :: rest => some (37 :: rest)
  | _ :: rest => badEscape? rest

/-- The text before the first `c` and the text after it (empty when `c` does not occur). -/
def cutAt (s : String) (c : Char) : String × String :=
  (String.ofList (s.toList.takeWhile (· != c)), String.ofList ((s.toList.dropWhile (· != c)).drop 1))

/-- Whether a character may continue a scheme name. -/
def schemeChar (c : Char) : Bool :=
  c.isAlphanum || c = '+' || c = '-' || c = '.'

/-- Splits a leading scheme (letters, then letters, digits, `+`, `-`, `.`, then `:`) off a
target; a target starting with `:` names an empty scheme, which is refused. -/
def splitScheme (s : String) : Except String (String × String) :=
  match s.toList with
  | [] => .ok ("", s)
  | c :: _ =>
    if c.isDigit || c = '+' || c = '-' || c = '.' then .ok ("", s)
    else
      let name := s.toList.takeWhile schemeChar
      match s.toList.drop name.length with
      | ':' :: rest =>
        if name.isEmpty then .error "missing protocol scheme"
        else .ok ((String.ofList name).toLower, String.ofList rest)
      | _ => .ok ("", s)

/-- The failure of a bad escape. -/
def escapeFailure (bad : List UInt8) : String :=
  "invalid URL escape " ++ Text.quoteBytes ⟨bad.toArray⟩

/-- Whether a byte below 0x80 may stand unescaped in a host. -/
def hostByte (c : UInt8) : Bool :=
  (97 ≤ c && c ≤ 122) || (65 ≤ c && c ≤ 90) || (48 ≤ c && c ≤ 57) ||
    "-_.~!$&\x27()*+,;=:[]<>\"".toList.contains (Char.ofNat c.toNat)

/-- Decodes the bytes of a host, or of an address zone when `zone` is set, onto `acc`: every
`%` begins a well-formed escape, a host escapes only bytes of 0x80 or more or the percent sign
itself, a zone escapes only the percent sign, a blank or a byte it could hold as it is, and no
byte below 0x80 that a host cannot hold stands unescaped. -/
def unescapeHostBytes (zone : Bool) : List UInt8 → List UInt8 → Except String (List UInt8)
  | [], acc => .ok acc.reverse
  | 37 :: a :: b :: more, acc =>
    if !(isHexDigit a && isHexDigit b) then .error (escapeFailure [37, a, b])
    else
      let v := (hexDigitValue a * 16 + hexDigitValue b).toUInt8
      let percent := a = 50 && b = 53
      let refused := if zone then !percent && v ≠ 32 && !hostByte v
        else hexDigitValue a < 8 && !percent
      if refused then .error (escapeFailure [37, a, b]) else unescapeHostBytes zone more (v :: acc)
  | 37 :: rest, _ => .error (escapeFailure (37 :: rest))
  | c :: rest, acc =>
    if c < 128 && !hostByte c then
      .error ("invalid character " ++ Text.quoteBytes ⟨#[c]⟩ ++ " in host name")
    else unescapeHostBytes zone rest (c :: acc)

/-- Decodes a text of bytes as a host, or as a zone. -/
def unescapeHost (zone : Bool) (s : String) : Except String (List UInt8) :=
  unescapeHostBytes zone s.toUTF8.toList []

/-- Whether the text after a host is empty or a colon and digits. -/
def portOk (s : String) : Bool :=
  match s.toList with
  | [] => true
  | ':' :: ds => ds.all Char.isDigit
  | _ => false

/-- The failure of a bad port. -/
def portFailure (colonPort : String) : String :=
  "invalid port " ++ Text.quote colonPort ++ " after host"

/-- The text from the last occurrence of `c` on, if `c` occurs. -/
def fromLast? (s : String) (c : Char) : Option (String × String) :=
  match (s.splitOn (String.singleton c)).reverse with
  | last :: before@(_ :: _) =>
    some ((String.singleton c).intercalate before.reverse, last)
  | _ => none

/-- Checks a bracketed address, the text between the brackets: decoded (the part from the
first `%25` on as a zone), it must read as an IPv6 address. -/
def checkLiteral (inside : String) : Except String Unit := do
  let bytes ← match inside.splitOn "%25" with
    | before :: zone@(_ :: _) => do
      let a ← unescapeHost false before
      let b ← unescapeHost true ("%25" ++ "%25".intercalate zone)
      pure (a ++ b)
    | _ => unescapeHost false inside
  match Net.IpAddress.parse? bytes with
  | .error f => throw ("invalid host: " ++ f.message bytes)
  | .ok a => if a.isV4 then throw "invalid IP-literal"

/-- Checks a host with its optional port. A `[` may only open the host, and then a `]` must
close an IPv6 address. -/
def checkHostPort (host : String) : Except String Unit := do
  match Net.lastIndexOf? host.toList '[' with
  | some i =>
    if i > 0 then throw "invalid IP-literal"
    match fromLast? host ']' with
    | none => throw "missing \x27]\x27 in host"
    | some (inside, colonPort) =>
      if !portOk colonPort then throw (portFailure colonPort)
      checkLiteral (inside.drop 1).copy
  | none =>
    if let some (_, port) := fromLast? host ':' then
      if !portOk (":" ++ port) then throw (portFailure (":" ++ port))
    let _ ← unescapeHost false host

/-- Whether a character may stand in user information. -/
def userChar (c : Char) : Bool :=
  c.isAlphanum || "-._:~!$&\x27()*+,;=%@".toList.contains c

/-- Checks an authority, `user@host:port` with the user information optional: the host first,
then the user information. -/
def checkAuthority (authority : String) : Except String Unit := do
  match fromLast? authority '@' with
  | none => checkHostPort authority
  | some (user, host) =>
    checkHostPort host
    if !user.toList.all userChar then throw "net/url: invalid userinfo"
    let parts := match user.splitOn ":" with
      | [] => []
      | name :: rest => if rest.isEmpty then [name] else [name, ":".intercalate rest]
    for part in parts do
      if let some bad := badEscape? part.toUTF8.toList then throw (escapeFailure bad)

/-- Splits and decodes a target that has no fragment. -/
def parseReference (u : String) : Except String Target := do
  if u.toList.any (fun c => c.toNat < 32 || c.toNat = 127) then
    throw "net/url: invalid control character in URL"
  if u = "*" then return { path := "*".toUTF8, rawPath := none, rawQuery := "" }
  let (scheme, rest) ← splitScheme u
  let (rest, rawQuery) := cutAt rest '?'
  if !rest.startsWith "/" then
    if !scheme.isEmpty then return { path := ByteArray.empty, rawPath := none, rawQuery }
    if ((cutAt rest '/').1).contains ':' then
      throw "first path segment in URL cannot contain colon"
  let rest ← if (!scheme.isEmpty || !rest.startsWith "///") && rest.startsWith "//" then do
      let after := rest.toList.drop 2
      checkAuthority (String.ofList (after.takeWhile (· ≠ '/')))
      pure (String.ofList (after.dropWhile (· ≠ '/')))
    else pure rest
  match badEscape? rest.toUTF8.toList with
  | some bad => throw (escapeFailure bad)
  | none =>
    let path := (unescape rest false).getD ByteArray.empty
    return { path, rawPath := if escapePath path = rest then none else some rest, rawQuery }

/-- Splits and decodes a request target, or says why it is not one: the failure names the
target (without its fragment when the part before the fragment is at fault). -/
def Target.parse? (raw : String) : Except String Target :=
  let (u, frag) := cutAt raw '#'
  match parseReference u with
  | .error why => .error ("parse " ++ Text.quote u ++ ": " ++ why)
  | .ok t =>
    match badEscape? frag.toUTF8.toList with
    | some bad => .error ("parse " ++ Text.quote raw ++ ": " ++ escapeFailure bad)
    | none => .ok t

/-- The route path of a target: its raw spelling when kept, else the decoded path. -/
def Target.routePath (t : Target) : ByteArray :=
  match t.rawPath with
  | some r => r.toUTF8
  | none => t.path

/-- The first value of `name` in a query. -/
def queryValue (q name : String) : Option ByteArray :=
  (q.splitOn "&").findSome? fun pair =>
    if pair.isEmpty ∨ pair.contains ';' then none
    else
      let (k, v) := match pair.splitOn "=" with
        | [] => ("", "")
        | k :: rest => (k, "=".intercalate rest)
      match unescape k true, unescape v true with
      | some kb, some vb => if kb == name.toUTF8 then some vb else none
      | _, _ => none

end LogStore.Http
