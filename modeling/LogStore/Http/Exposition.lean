import LogStore.Http.Metrics
import LogStore.Http.Accept
import LogStore.Protobuf.Message
import LogStore.Number.Binary

/-!
# Exposition formats

The metrics are exposed in one of four formats, chosen from the request's `Accept` header: the
plain exposition text, or the families as protocol buffer messages, either in binary (each
message preceded by its length as a varint) or in the text encoding, full or compact (each
message followed by an empty line, or by a line break). The first media range in order of
preference that names a format decides: protocol buffers of the metric family type with a known
`encoding`, or `text/plain` of version `0.0.4` or of no version. Anything else asks for the
plain text.

As a message, a family holds its name, help, type and metrics; a metric holds its label pairs
and then its gauge, counter or histogram. A histogram holds its count, its sum and its buckets
without the infinite one, each with its cumulative count and its upper bound.

* `ExpositionFormat.negotiate accept` is the format for an `Accept` header, and
  `ExpositionFormat.contentType` the content type it is sent with.
* `Exposed.toFields` is a family as message fields; `Registry.expose r format` is the body.
-/

namespace LogStore.Http

/-- The formats the metrics are exposed in. -/
inductive ExpositionFormat where
  | text
  | protoDelimited
  | protoText
  | protoCompact
  deriving DecidableEq

/-- The content type of a format. -/
def ExpositionFormat.contentType : ExpositionFormat → String
  | .text => "text/plain; version=0.0.4; charset=utf-8"
  | .protoDelimited =>
    "application/vnd.google.protobuf; proto=io.prometheus.client.MetricFamily; encoding=delimited"
  | .protoText =>
    "application/vnd.google.protobuf; proto=io.prometheus.client.MetricFamily; encoding=text"
  | .protoCompact =>
    "application/vnd.google.protobuf; proto=io.prometheus.client.MetricFamily; encoding=compact-text"

/-- The format a media range names, if any. -/
def ExpositionFormat.ofMediaRange? (m : MediaRange) : Option ExpositionFormat :=
  let proto? : Option ExpositionFormat :=
    if m.type ++ "/" ++ m.subtype = "application/vnd.google.protobuf" &&
        m.param "proto" = "io.prometheus.client.MetricFamily" then
      match m.param "encoding" with
      | "delimited" => some .protoDelimited
      | "text" => some .protoText
      | "compact-text" => some .protoCompact
      | _ => none
    else none
  match proto? with
  | some f => some f
  | none =>
    if m.type = "text" && m.subtype = "plain" && (m.param "version" = "0.0.4" || m.param "version" = "")
    then some .text else none

/-- The format for an `Accept` header. -/
def ExpositionFormat.negotiate (accept : String) : ExpositionFormat :=
  ((parseAccept accept).findSome? ExpositionFormat.ofMediaRange?).getD .text

/-- The type constant of a kind of family. -/
def MetricKind.protoType : MetricKind → String × Nat
  | .counter => ("COUNTER", 0)
  | .gauge => ("GAUGE", 1)
  | .histogram => ("HISTOGRAM", 4)

/-- A whole number as a double field. -/
def doubleField (name : String) (number : Nat) (v : Int) : Protobuf.Field :=
  .double name number (numberText v) (Number.BinaryFormat.double.word v)

/-- The finite bucket bounds as double fields. -/
def boundFields : List Protobuf.Field :=
  bucketBounds.filterMap fun b =>
    match Number.Literal.read? b with
    | some (.exact _ num den) =>
      some (.double "upper_bound" 2 b (Number.BinaryFormat.double.magnitudeOf num den))
    | _ => none

/-- The value fields of one series of a family. -/
def valueField (kind : MetricKind) (v : Int) : Protobuf.Field :=
  match kind with
  | .gauge => .message "gauge" 2 [doubleField "value" 1 v]
  | .counter => .message "counter" 3 [doubleField "value" 1 v]
  | .histogram =>
    .message "histogram" 7 ([.uint "sample_count" 1 v.toNat, doubleField "sample_sum" 2 0] ++
      boundFields.map fun b => .message "bucket" 3 [.uint "cumulative_count" 1 v.toNat, b])

/-- A family as the fields of a message. -/
def Exposed.toFields (e : Exposed) : List Protobuf.Field :=
  let (typeName, typeNumber) := e.family.kind.protoType
  [.string "name" 1 e.family.name, .string "help" 2 e.family.help,
    .enum "type" 3 typeName typeNumber] ++
  e.series.map fun (pairs, v) =>
    .message "metric" 4 (pairs.map (fun (n, x) => .message "label" 1 [.string "name" 1 n, .string "value" 2 x]) ++
      [valueField e.family.kind v])

/-- One family in a format. -/
def Exposed.encode (e : Exposed) : ExpositionFormat → ByteArray
  | .text => e.render.toUTF8
  | .protoDelimited => Protobuf.lengthPrefixed (Protobuf.encodeFields e.toFields)
  | .protoText => (Protobuf.fieldsText false 0 e.toFields ++ "\n").toUTF8
  | .protoCompact => (Protobuf.fieldsText true 0 e.toFields ++ "\n").toUTF8

/-- The body that exposes a registry in a format. -/
def Registry.expose (r : Registry) (format : ExpositionFormat) : ByteArray :=
  r.gather.foldl (fun acc e => acc ++ e.encode format) ByteArray.empty

end LogStore.Http
