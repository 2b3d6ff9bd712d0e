import LogStore.Text.Quoted

/-!
# IP addresses

An IP address is written as four dotted decimal fields (IPv4) or as eight colon-separated
groups of at most four hexadecimal digits (IPv6), where one run of groups may be left out as
`::`, the last two groups may be written as an IPv4 address, and a `%` may add a zone.

* `IpAddress.parse?` reads an address from bytes and says what is wrong when the bytes are none:
  the first `.`, `:` or `%` decides the form. A decimal field is at most 255 and has no leading
  zero; a group has one to four digits; a zone, once announced, is not empty.
* `IpAddress.text` writes an address the standard way: IPv6 groups in lowercase without
  leading zeros, the first longest run of two or more zero groups as `::`, and an IPv4 address
  carried in IPv6 (`::ffff:a.b.c.d`) as the IPv4 address itself.
* `splitHostPort` cuts `host:port` (`[host]:port` for a host with colons) at its last colon.
-/

namespace LogStore.Net

/-- An IP address: four decimal fields, or eight sixteen-bit groups with a zone (empty when
none is named). -/
inductive IpAddress where
  | v4 (fields : List Nat)
  | v6 (groups : List Nat) (zone : List UInt8)

/-- Why bytes are not an IP address: what is wrong and, when the message points at a place,
the bytes from that place on. -/
structure AddrFault where
  what : String
  place : List UInt8 := []

/-- The message of a fault met reading `input`, naming the input and the place. -/
def AddrFault.message (f : AddrFault) (input : List UInt8) : String :=
  "ParseAddr(" ++ Text.quoteBytes ⟨input.toArray⟩ ++ "): " ++ f.what ++
    (if f.place.isEmpty then "" else " (at " ++ Text.quoteBytes ⟨f.place.toArray⟩ ++ ")")

/-- Reads dotted decimal fields. `fields` were read before the field in progress, which has
the value `val` and `digits` digits so far; `atStart` holds before the first byte and
`afterDot` right after a dot. A dot must stand between two digits, and there are four fields. -/
def ipv4Fields : List UInt8 → List Nat → Nat → Nat → Bool → Bool → Except AddrFault (List Nat)
  | [], fields, val, _, _, _ =>
    if fields.length < 3 then .error { what := "IPv4 address too short" } else .ok (fields ++ [val])
  | c :: rest, fields, val, digits, atStart, afterDot =>
    if 48 ≤ c && c ≤ 57 then
      if digits = 1 && val = 0 then .error { what := "IPv4 field has octet with leading zero" }
      else
        let v := val * 10 + (c.toNat - 48)
        if v > 255 then .error { what := "IPv4 field has value >255" }
        else ipv4Fields rest fields v (digits + 1) false false
    else if c = 46 then
      if atStart || rest.isEmpty || afterDot then
        .error { what := "IPv4 field must have at least one digit", place := c :: rest }
      else if fields.length = 3 then .error { what := "IPv4 address too long" }
      else ipv4Fields rest (fields ++ [val]) 0 0 false true
    else .error { what := "unexpected character", place := c :: rest }

/-- Reads a whole text as an IPv4 address. -/
def ipv4 (s : List UInt8) : Except AddrFault (List Nat) :=
  ipv4Fields s [] 0 0 true false

/-- The value of a hexadecimal digit byte, if it is one. -/
def hexDigitValue? (c : UInt8) : Option Nat :=
  if 48 ≤ c && c ≤ 57 then some (c.toNat - 48)
  else if 97 ≤ c && c ≤ 102 then some (c.toNat - 87)
  else if 65 ≤ c && c ≤ 70 then some (c.toNat - 55)
  else none

/-- The number of hexadecimal digits a text starts with, counting no further than five. -/
def hexRun : List UInt8 → Nat → Nat
  | c :: rest, n => if n < 5 && (hexDigitValue? c).isSome then hexRun rest (n + 1) else n
  | [], n => n

/-- The value of hexadecimal digits. -/
def hexNumber (ds : List UInt8) : Nat :=
  ds.foldl (fun acc c => acc * 16 + (hexDigitValue? c).getD 0) 0

/-- Reads the groups of an IPv6 address after the groups `groups`; `ellipsis` is the number of
groups read when a `::` stood. Each round reads one to four digits, or an IPv4 address that
takes the place of the last two groups and ends the address; a group is followed by the end,
or by a colon and more, a second colon being the `::`. The answer is the groups, the place of
the `::` and what is left unread. -/
def ipv6Groups (s : List UInt8) (groups : List Nat) (ellipsis : Option Nat) :
    Nat → Except AddrFault (List Nat × Option Nat × List UInt8)
  | 0 => .ok (groups, ellipsis, s)
  | fuel + 1 =>
    if groups.length ≥ 8 then .ok (groups, ellipsis, s)
    else
      let n := hexRun s 0
      if n > 4 then .error { what := "each group must have 4 or less digits", place := s }
      else if n = 0 then
        .error { what := "each colon-separated field must have at least one digit", place := s }
      else
        match s.drop n with
        | 46 :: _ =>
          if ellipsis.isNone && groups.length ≠ 6 then
            .error { what := "embedded IPv4 address must replace the final 2 fields of the address",
                     place := s }
          else if groups.length > 6 then
            .error { what := "too many hex fields to fit an embedded IPv4 at the end of the address",
                     place := s }
          else
            match ipv4 s with
            | .ok [a, b, c, d] => .ok (groups ++ [a * 256 + b, c * 256 + d], ellipsis, [])
            | .ok _ => .error { what := "IPv4 address too short" }
            | .error f => .error f
        | [] => .ok (groups ++ [hexNumber (s.take n)], ellipsis, [])
        | c :: more =>
          let groups := groups ++ [hexNumber (s.take n)]
          if c ≠ 58 then .error { what := "unexpected character, want colon", place := c :: more }
          else
            match more with
            | [] => .error { what := "colon must be followed by more characters", place := [c] }
            | 58 :: rest =>
              if ellipsis.isSome then .error { what := "multiple :: in address", place := 58 :: rest }
              else if rest.isEmpty then .ok (groups, some groups.length, [])
              else ipv6Groups rest groups (some groups.length) fuel
            | _ => ipv6Groups more groups ellipsis fuel

/-- Reads a whole text as an IPv6 address, its zone split off at the first `%`. -/
def ipv6 (input : List UInt8) : Except AddrFault IpAddress := do
  let s := input.takeWhile (· ≠ 37)
  let zone := (input.dropWhile (· ≠ 37)).drop 1
  if s.length < input.length && zone.isEmpty then
    throw { what := "zone must be a non-empty string" }
  let (s, ellipsis) : List UInt8 × Option Nat :=
    if s.take 2 = [58, 58] then (s.drop 2, some 0) else (s, none)
  if ellipsis.isSome && s.isEmpty then return .v6 (List.replicate 8 0) zone
  let (groups, ellipsis, rest) ← ipv6Groups s [] ellipsis (s.length + 1)
  if !rest.isEmpty then throw { what := "trailing garbage after address", place := rest }
  if groups.length < 8 then
    match ellipsis with
    | none => throw { what := "address string too short" }
    | some e =>
      return .v6 (groups.take e ++ List.replicate (8 - groups.length) 0 ++ groups.drop e) zone
  else if ellipsis.isSome then throw { what := "the :: must expand to at least one field of zeros" }
  else return .v6 groups zone

/-- Reads bytes as an IP address: the first `.` makes them IPv4, the first `:` IPv6; a `%`
before either announces a zone with no address. -/
def IpAddress.parse? (s : List UInt8) : Except AddrFault IpAddress :=
  match s.find? (fun c => c = 46 || c = 58 || c = 37) with
  | some 46 => (ipv4 s).map .v4
  | some 58 => ipv6 s
  | some _ => .error { what := "missing IPv6 address" }
  | none => .error { what := "unable to parse IP" }

/-- Whether an address is IPv4, written as such. -/
def IpAddress.isV4 : IpAddress → Bool
  | .v4 _ => true
  | .v6 _ _ => false

/-- The IPv4 address an address stands for: itself, or the one carried in `::ffff:a.b.c.d`. -/
def IpAddress.asV4? : IpAddress → Option (List Nat)
  | .v4 fs => some fs
  | .v6 [0, 0, 0, 0, 0, 0xFFFF, hi, lo] _ => some [hi / 256, hi % 256, lo / 256, lo % 256]
  | .v6 _ _ => none

/-- Whether every bit of an address is zero. -/
def IpAddress.isUnspecified (a : IpAddress) : Bool :=
  match a with
  | .v4 fs => fs.all (· = 0)
  | .v6 gs _ => gs.all (· = 0) || a.asV4? = some [0, 0, 0, 0]

/-- The longest run of zero groups so far after a run from `start` up to `i` (end exclusive)
ends: the run replaces `best` when it has two or more groups and is longer. -/
def closeRun (start : Option Nat) (i : Nat) (best : Option (Nat × Nat)) : Option (Nat × Nat) :=
  match start with
  | some a =>
    let longer := match best with
      | some (b, e) => i - a > e - b
      | none => true
    if i - a ≥ 2 && longer then some (a, i) else best
  | none => best

/-- The first longest run of two or more zero groups, as its start and end (end exclusive):
`i` is the position of the head of the groups, `start` where the run of zeros just before it
began, and `best` the longest run before that. -/
def zeroRun : List Nat → Nat → Option Nat → Option (Nat × Nat) → Option (Nat × Nat)
  | [], i, start, best => closeRun start i best
  | g :: rest, i, start, best =>
    if g = 0 then zeroRun rest (i + 1) (some (start.getD i)) best
    else zeroRun rest (i + 1) none (closeRun start i best)

/-- A group in lowercase hexadecimal without leading zeros. -/
def groupText (g : Nat) : String :=
  String.ofList (Nat.toDigits 16 g)

/-- The groups of an IPv6 address separated by colons, the first longest run of two or more
zero groups written as `::`. -/
def groupsText (gs : List Nat) : String :=
  match zeroRun gs 0 none none with
  | some (a, b) =>
    ":".intercalate ((gs.take a).map groupText) ++ "::" ++
      ":".intercalate ((gs.drop b).map groupText)
  | none => ":".intercalate (gs.map groupText)

/-- Four decimal fields separated by dots. -/
def dotted (fs : List Nat) : String :=
  ".".intercalate (fs.map toString)

/-- The standard text of an address, without its zone. -/
def IpAddress.text (a : IpAddress) : String :=
  match a.asV4?, a with
  | some fs, _ => dotted fs
  | none, .v6 gs _ => groupsText gs
  | none, .v4 fs => dotted fs

/-- The zone of an address, empty when it names none. -/
def IpAddress.zone : IpAddress → List UInt8
  | .v4 _ => []
  | .v6 _ z => z

/-- The position of the last occurrence of a character. -/
def lastIndexOf? (cs : List Char) (c : Char) : Option Nat :=
  (cs.reverse.findIdx? (· = c)).map (cs.length - 1 - ·)

/-- Cuts `host:port` at its last colon; a host in brackets ends at the first `]`, which the
last colon must follow. A colon in an unbracketed host, or a bracket anywhere else, is refused,
with the reason. -/
def splitHostPort (hp : String) : Except String (String × String) := do
  let cs := hp.toList
  let some i := lastIndexOf? cs ':' | throw "missing port in address"
  let (host, j, k) ← if cs.head? = some '[' then
      match cs.findIdx? (· = ']') with
      | none => throw "missing \x27]\x27 in address"
      | some e =>
        if e + 1 = cs.length then throw "missing port in address"
        else if e + 1 = i then pure (String.ofList ((cs.take e).drop 1), 1, e + 1)
        else if cs.getD (e + 1) ' ' = ':' then throw "too many colons in address"
        else throw "missing port in address"
    else
      let host := cs.take i
      if host.contains ':' then throw "too many colons in address"
      else pure (String.ofList host, 0, 0)
  if (cs.drop j).contains '[' then throw "unexpected \x27[\x27 in address"
  if (cs.drop k).contains ']' then throw "unexpected \x27]\x27 in address"
  return (host, String.ofList (cs.drop (i + 1)))

end LogStore.Net
