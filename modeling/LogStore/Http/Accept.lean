import LogStore.Number.Literal
import LogStore.Order.Pdqsort
import LogStore.Text.Space

/-!
# Content negotiation

An `Accept` header lists media ranges separated by commas: `type/subtype` (or a lone `*`),
then parameters after semicolons, each `name=value`. The parameter `q` is the quality, read
as a 32-bit floating-point literal: 1 when absent, 0 when it is not a literal. Blanks (only
spaces) around an entry, around the type and subtype and around a parameter's name and value
are dropped, but not around the quality; an entry with more than one `/`, or with none and a
type other than `*`, is skipped, as is a parameter without `=`. A parameter named twice keeps
the later value.

The entries are then put in order of preference by pattern-defeating quicksort
(`Order.pdqsort`), which for up to twelve entries inserts each, from the first, as far forward
as it is preferred to the entry before it. One entry is preferred to another when its quality
is higher, when its type is not `*` and the other's is, or when its subtype is not `*` and the
other's is. This order is not a ranking (an entry can be preferred for its type while its
quality is lower), so every comparison the sort makes is part of the result.

* `MediaRange.parse?`, `parseAccept` read the header; `MediaRange.param` is a parameter's
  value, empty when absent.
* `acceptsGzip` says whether an `Accept-Encoding` header names `gzip`: one of its
  comma-separated entries, white space trimmed, is `gzip` or starts with `gzip;`, whatever
  quality follows.
-/

namespace LogStore.Http

/-- One entry of an `Accept` header: the media type, its subtype, its parameters in order and
its quality. -/
structure MediaRange where
  type : String
  subtype : String
  params : List (String × String) := []
  quality : Number.BinaryValue := Number.BinaryFormat.single.valueOf (.exact false 1 1)
  deriving Inhabited

/-- A parameter's value, the last one given winning; empty when absent. -/
def MediaRange.param (m : MediaRange) (name : String) : String :=
  (m.params.reverse.lookup name).getD ""

/-- A text without the spaces at its ends (other blanks stay). -/
def trimSpaces (s : String) : String :=
  String.ofList ((s.toList.dropWhile (· = ' ')).reverse.dropWhile (· = ' ')).reverse

/-- A text cut at its first `=`, if it has one. -/
def splitAtEquals (s : String) : Option (String × String) :=
  let cs := s.toList
  (cs.findIdx? (· = '=')).map fun i => (String.ofList (cs.take i), String.ofList (cs.drop (i + 1)))

/-- The quality a `q` parameter's value gives: a literal rounded to 32 bits, else zero. -/
def qualityOf (s : String) : Number.BinaryValue :=
  (Number.BinaryFormat.single.valueOf <$> Number.Literal.read? s).getD (.number false 0)

/-- Adds one parameter to a media range: the quality, or a named value. -/
def MediaRange.addParam (m : MediaRange) (param : String) : MediaRange :=
  match splitAtEquals param with
  | none => m
  | some (name, value) =>
    let name := trimSpaces name
    if name = "q" then { m with quality := qualityOf value }
    else { m with params := m.params ++ [(name, trimSpaces value)] }

/-- Reads one entry of an `Accept` header, if it names a media range. -/
def MediaRange.parse? (entry : String) : Option MediaRange :=
  let pieces := (trimSpaces entry).splitOn ";"
  let halves := (pieces.headD "").splitOn "/"
  let type := trimSpaces (halves.headD "")
  let subtype? : Option String := match halves with
    | [_] => if type = "*" then some "*" else none
    | [_, s] => some (trimSpaces s)
    | _ => none
  subtype?.map fun subtype =>
    (pieces.drop 1).foldl MediaRange.addParam { type, subtype }

/-- Whether one media range is preferred to another. -/
def MediaRange.preferred (a b : MediaRange) : Bool :=
  b.quality.lt a.quality || (a.type ≠ "*" && b.type = "*") || (a.subtype ≠ "*" && b.subtype = "*")

/-- The media ranges of an `Accept` header in order of preference. -/
def parseAccept (header : String) : List MediaRange :=
  let ranges := (header.splitOn ",").filterMap MediaRange.parse?
  (Order.pdqsort MediaRange.preferred ranges.toArray).toList

/-- Whether an `Accept-Encoding` header names `gzip`. -/
def acceptsGzip (header : String) : Bool :=
  (header.splitOn ",").any fun entry =>
    let e := Text.trim entry
    e = "gzip" || e.startsWith "gzip;"

end LogStore.Http
