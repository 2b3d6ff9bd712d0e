/-!
# Metrics

The server counts what it does in named metric families: counters, gauges and histograms, each
with fixed label names. A series is a family and one value per label. The exposition text lists
the families by name, each with `# HELP` and `# TYPE` lines and then its series ordered by their
label values; a labelled family with no series yet is left out, an unlabelled gauge is always
shown. Labels are written sorted by name. A histogram series is its cumulative buckets, its sum
and its count; durations are not measured, so every observation falls in the lowest bucket and
adds nothing to the sum.

Numbers are written as the shortest decimal that reads back, in exponent form (`1.049636e+06`)
from a million on.

* `Registry.add`, `Registry.setGauge`, `Registry.touch` and `Registry.observe` change the
  registry; `Registry.render` is the exposition text.
-/

namespace LogStore.Http

/-- What kind of values a family holds. -/
inductive MetricKind where
  | counter
  | gauge
  | histogram
  deriving DecidableEq

/-- A metric family: its name, help text, kind and label names. -/
structure Family where
  name : String
  help : String
  kind : MetricKind
  labels : List String

/-- The families of the server, by name. -/
def families : List Family :=
  [⟨"kvdb_auth_requests_total", "Total number of authentication requests", .counter, ["status"]⟩,
   ⟨"kvdb_db_data_size_bytes", "Size of the log file in bytes", .gauge, []⟩,
   ⟨"kvdb_db_keys_total", "Number of live keys in the store", .gauge, []⟩,
   ⟨"kvdb_db_operation_duration_seconds", "Store operation duration in seconds", .histogram,
     ["operation"]⟩,
   ⟨"kvdb_db_operations_total", "Total number of store operations", .counter,
     ["operation", "status"]⟩,
   ⟨"kvdb_health_checks_total", "Total number of health checks", .counter, ["status"]⟩,
   ⟨"kvdb_http_request_duration_seconds", "HTTP request duration in seconds", .histogram,
     ["method", "endpoint"]⟩,
   ⟨"kvdb_http_requests_in_flight", "Number of HTTP requests currently being processed", .gauge,
     ["method", "endpoint"]⟩,
   ⟨"kvdb_http_requests_total", "Total number of HTTP requests", .counter,
     ["method", "endpoint", "status_code"]⟩]

/-- The upper bounds of the histogram buckets, as written. -/
def bucketBounds : List String :=
  ["0.005", "0.01", "0.025", "0.05", "0.1", "0.25", "0.5", "1", "2.5", "5", "10", "+Inf"]

/-- Values by family and label values (in the family's label order). -/
structure Registry where
  values : List ((String × List String) × Int) := []

namespace Registry

/-- The value of a series, if it exists. -/
def get? (r : Registry) (family : String) (labels : List String) : Option Int :=
  r.values.lookup (family, labels)

/-- Sets a series. -/
def put (r : Registry) (family : String) (labels : List String) (v : Int) : Registry :=
  ⟨((family, labels), v) :: r.values.filter (fun p => p.1 ≠ (family, labels))⟩

/-- Adds one to a counter series, creating it. -/
def add (r : Registry) (family : String) (labels : List String) : Registry :=
  r.put family labels ((r.get? family labels).getD 0 + 1)

/-- Creates a gauge series at zero if missing. -/
def touch (r : Registry) (family : String) (labels : List String) : Registry :=
  match r.get? family labels with
  | some _ => r
  | none => r.put family labels 0

/-- Sets a gauge series. -/
def setGauge (r : Registry) (family : String) (labels : List String) (v : Int) : Registry :=
  r.put family labels v

/-- Records one observation in a histogram series: its count goes up by one. -/
def observe (r : Registry) (family : String) (labels : List String) : Registry :=
  r.add family labels

end Registry

/-- The decimal digits of a natural number. -/
def digitsOf (n : Nat) : List Char :=
  (toString n).toList

/-- A whole number as the shortest text that reads back: plain below a million, else in
exponent form with the trailing zeros of the mantissa dropped. -/
def numberText (v : Int) : String :=
  let n := v.natAbs
  let sign := if v < 0 then "-" else ""
  if n < 1000000 then sign ++ toString n
  else
    let ds := digitsOf n
    let exp := ds.length - 1
    let mant := (ds.drop 1).reverse.dropWhile (· = '0') |>.reverse
    let e := if exp < 10 then "0" ++ toString exp else toString exp
    sign ++ String.ofList (ds.take 1) ++ (if mant.isEmpty then "" else "." ++ String.ofList mant) ++
      "e+" ++ e

/-- A label value escaped for the exposition text. -/
def escapeLabel (s : String) : String :=
  s.foldl (fun acc c =>
    if c = '\\' then acc ++ "\\\\" else if c = '"' then acc ++ "\\\""
    else if c = '\n' then acc ++ "\\n" else acc.push c) ""

/-- Label pairs in braces, sorted by name, with extra pairs after them. -/
def labelText (pairs : List (String × String)) (extra : List (String × String)) : String :=
  let sorted := pairs.mergeSort (fun a b => decide (a.1 ≤ b.1))
  let all := sorted ++ extra
  if all.isEmpty then ""
  else "\x7b" ++ ",".intercalate (all.map fun p => p.1 ++ "=\"" ++ escapeLabel p.2 ++ "\"") ++ "\x7d"

/-- Orders label value lists by the family's labels sorted by name. -/
def sortKey (f : Family) (labels : List String) : List String :=
  ((f.labels.zip labels).mergeSort (fun a b => decide (a.1 ≤ b.1))).map Prod.snd

/-- Whether one list of texts comes before another, element by element. -/
def textsBefore : List String → List String → Bool
  | [], _ => true
  | _ :: _, [] => false
  | a :: as, b :: bs => if a = b then textsBefore as bs else decide (a < b)

/-- A family as it is exposed: its series in order, each with its label pairs sorted by name
and its value. -/
structure Exposed where
  family : Family
  series : List (List (String × String) × Int)

/-- The families to expose, by name: those with series, and every unlabelled gauge. The series
of a family are ordered by their label values, taken in the order of the label names. -/
def Registry.gather (r : Registry) : List Exposed :=
  families.filterMap fun f =>
    let series := r.values.filterMap fun p => if p.1.1 = f.name then some (p.1.2, p.2) else none
    let series := if f.labels.isEmpty ∧ series.isEmpty then [([], 0)] else series
    if series.isEmpty then none
    else
      let sorted := series.mergeSort (fun a b => textsBefore (sortKey f a.1) (sortKey f b.1))
      some ⟨f, sorted.map fun s =>
        ((f.labels.zip s.1).mergeSort (fun a b => decide (a.1 ≤ b.1)), s.2)⟩

/-- The name of a kind in the exposition text. -/
def MetricKind.name : MetricKind → String
  | .counter => "counter"
  | .gauge => "gauge"
  | .histogram => "histogram"

/-- The lines of one series of a family, its label pairs sorted by name. -/
def seriesLines (f : Family) (pairs : List (String × String)) (v : Int) : List String :=
  match f.kind with
  | .histogram =>
    bucketBounds.map (fun b => f.name ++ "_bucket" ++ labelText pairs [("le", b)] ++ " " ++ numberText v) ++
      [f.name ++ "_sum" ++ labelText pairs [] ++ " 0",
       f.name ++ "_count" ++ labelText pairs [] ++ " " ++ numberText v]
  | _ => [f.name ++ labelText pairs [] ++ " " ++ numberText v]

/-- The exposition text of one family. -/
def Exposed.render (e : Exposed) : String :=
  String.join ((["# HELP " ++ e.family.name ++ " " ++ e.family.help,
      "# TYPE " ++ e.family.name ++ " " ++ e.family.kind.name] ++
    e.series.flatMap (fun s => seriesLines e.family s.1 s.2)).map (· ++ "\n"))

/-- The exposition text of a registry. -/
def Registry.render (r : Registry) : String :=
  String.join (r.gather.map Exposed.render)

end LogStore.Http
