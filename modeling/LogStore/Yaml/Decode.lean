import LogStore.Yaml.Parser
import LogStore.Yaml.Resolve
import LogStore.Text.Quoted
import LogStore.Text.Utf8
import LogStore.Bytes.Base64

/-!
# Filling a record from a YAML document

A record is described by its shape: a text, a whole number, or a named record of fields. The
document is read into a copy of the record's current value, so that what the document leaves
out keeps its value.

* A null scalar changes nothing. Any other scalar fills a text with its text, a `!!binary`
  one with the bytes its base64 text stands for (text that is not base64 stops the reading).
  A whole number is filled from an integer that fits in 64 bits or from a float
  (`Double.toInt64?`).
* A mapping fills a record field by field; unknown keys are ignored; a `<<` key merges the
  mappings it names, for fields the mapping itself does not set.
* Anything else is a type error, noted as `line N: cannot unmarshal <tag> <value> into
  <type>` (a value longer than ten bytes shown as its first seven and `...`), and reading
  goes on. A mapping that repeats a key is not read at all. A scalar that cannot have its
  explicit tag stops the reading.

The result is the filled value, or the type errors joined under `yaml: unmarshal errors:`.
-/

namespace LogStore.Yaml

/-- The shape of a value to fill. -/
inductive Shape where
  | text
  | int
  /-- A record with its type name and its fields. -/
  | record (typeName : String) (fields : List (String × Shape))

/-- A value of some shape. A text is kept as bytes, since a `!!binary` scalar may stand for
bytes that are not UTF-8. -/
inductive Value where
  | text (s : ByteArray)
  | int (n : Int)
  | record (fields : List (String × Value))
  deriving Inhabited

/-- The name of a shape's type, as type errors show it. -/
def Shape.typeName : Shape → String
  | .text => "string"
  | .int => "int"
  | .record n _ => n

/-- The state of a reading: the type errors so far, while merging the keys already set, and
the references being followed. -/
structure DecodeState where
  errors : Array String := #[]
  merged : Option (List String) := none
  following : List Nat := []

/-- A reading step, which may stop with a failure. -/
abbrev DecodeM := StateT DecodeState (Except String)

/-- Notes an error in the reading. -/
def noteError (text : String) : DecodeM Unit :=
  modify fun st => { st with errors := st.errors.push text }

/-- Notes a type error for a node that cannot fill a shape. -/
def typeError (n : Node) (shape : Shape) : DecodeM Unit :=
  let tag := n.tag
  let shown := if tag ≠ "!!seq" && tag ≠ "!!map" then
      let bytes := n.text.toUTF8
      " `" ++ (if bytes.size > 10 then Text.Utf8.lossy (bytes.extract 0 7) ++ "..." else n.text) ++ "`"
    else ""
  noteError ("line " ++ toString n.line ++ ": cannot unmarshal " ++ tag ++ shown ++ " into " ++ shape.typeName)

/-- Whether a key merges other mappings in. -/
def Node.isMerge : Node → Bool
  | .scalar v t _ _ => v = "<<" && (t = "" || t = "!" || t = "!!merge")
  | _ => false

/-- The repeated keys of a mapping, as errors: a key of the same kind and text as an earlier
one. -/
def duplicateKeys (entries : List (Node × Node)) : List String :=
  let keys := entries.map Prod.fst
  (keys.zipIdx.flatMap fun (ki, i) =>
    (keys.drop (i + 1)).filterMap fun kj =>
      if ki.kindCode = kj.kindCode && ki.text = kj.text then
        some ("line " ++ toString kj.line ++ ": mapping key " ++ Text.quote kj.text ++
              " already defined at line " ++ toString ki.line)
      else none)

/-- The text of a key whose value is a text, which is what a merge treats as already set. -/
def keyText? (doc : Document) : Node → Nat → Option String
  | _, 0 => none
  | .scalar v t _ _, _ + 1 =>
    match resolve t v with
    | .ok (_, .text _) => some v
    | _ => none
  | .alias _ ref _ _, fuel + 1 => keyText? doc (doc.target ref) fuel
  | _, _ + 1 => none

/-- Replaces the value of a record field. -/
def setField (fields : List (String × Value)) (name : String) (v : Value) : List (String × Value) :=
  fields.map fun p => if p.1 = name then (name, v) else p

/-- The failure for a merge of something that is not a mapping. -/
def mergeFailure : String := "yaml: map merge requires map or sequence of maps as the value"

/-- Whether a node is a mapping or refers to one: what a merge takes. -/
def mergeable (doc : Document) : Node → Bool
  | .mapping _ _ _ => true
  | .alias _ ref _ _ => match doc.target ref with
    | .mapping _ _ _ => true
    | _ => false
  | _ => false

/-- The failure for running out of fuel. -/
def tooDeep : String := "yaml: document nested too deeply"

mutual

/-- Fills a value of a shape from a node; reports whether the node filled it. -/
def decode (doc : Document) (n : Node) (shape : Shape) (cur : Value) : Nat → DecodeM (Bool × Value)
  | 0 => throw tooDeep
  | fuel + 1 =>
    match n with
    | .alias name ref id _ => do
      let following := (← get).following
      if following.contains id then throw ("yaml: anchor '" ++ name ++ "' value contains itself")
      modify fun st => { st with following := id :: following }
      let r ← decode doc (doc.target ref) shape cur fuel
      modify fun st => { st with following := following }
      return r
    | .scalar v tag _ _ => do
      let (rtag, resolved) ← if tag = "!!str" then pure ("!!str", Scalar.text v) else
        match resolve tag v with
        | .ok r => pure r
        | .error e => throw ("yaml: " ++ e)
      let (text, resolved) ← if rtag = "!!binary" then
          match Bytes.base64Decode? v.toUTF8 with
          | some data => pure (data, Scalar.text (Text.Utf8.lossy data))
          | none => throw "yaml: !!binary value contains invalid base64 data"
        else pure (v.toUTF8, resolved)
      match resolved with
      | .null => return (false, cur)
      | _ =>
        match shape with
        | .text => return (true, .text text)
        | .int =>
          let asInt := match resolved with
            | .int i => some i
            | .float d => d.toInt64?
            | _ => none
          match asInt with
          | some i => return (true, .int i)
          | none => do typeError n shape; return (false, cur)
        | .record _ _ => do typeError n shape; return (false, cur)
    | .sequence _ _ _ => do typeError n shape; return (false, cur)
    | .mapping entries _ _ => do
      let dups := duplicateKeys entries
      if !dups.isEmpty then
        for d in dups do noteError d
        return (false, cur)
      match shape, cur with
      | .record name fields, .record values => do
        let values ← mappingRecord doc entries name fields values fuel
        return (true, .record values)
      | _, _ => do typeError n shape; return (false, cur)

/-- Fills a record from the pairs of a mapping, then merges in what a `<<` key names. -/
def mappingRecord (doc : Document) (entries : List (Node × Node)) (name : String)
    (fields : List (String × Shape)) (values : List (String × Value)) :
    Nat → DecodeM (List (String × Value))
  | 0 => throw tooDeep
  | fuel + 1 => do
    let merged := (← get).merged
    modify fun st => { st with merged := none }
    let (values, merged, mergeNode) ← fillFields doc entries name fields values merged [] none fuel
    modify fun st => { st with merged := merged }
    match mergeNode with
    | none => return values
    | some m => mergeInto doc entries m name fields values fuel

/-- Fills fields pair by pair, `done` holding the fields set so far; returns the values, the
merged keys and the value of a `<<` key. -/
def fillFields (doc : Document) (entries : List (Node × Node)) (name : String)
    (fields : List (String × Shape)) (values : List (String × Value))
    (merged : Option (List String)) (done : List String) (mergeNode : Option Node) :
    Nat → DecodeM (List (String × Value) × Option (List String) × Option Node)
  | 0 => throw tooDeep
  | fuel + 1 =>
    match entries with
    | [] => return (values, merged, mergeNode)
    | (k, v) :: rest => do
      if k.isMerge then
        return ← fillFields doc rest name fields values merged done (some v) fuel
      let (ok, key) ← decode doc k .text (.text ByteArray.empty) fuel
      let keyName := match key with | .text s => Text.Utf8.lossy s | _ => ""
      if !ok then return ← fillFields doc rest name fields values merged done mergeNode fuel
      if merged.any (·.contains keyName) then
        return ← fillFields doc rest name fields values merged done mergeNode fuel
      let merged := merged.map (· ++ [keyName])
      match fields.lookup keyName with
      | none => fillFields doc rest name fields values merged done mergeNode fuel
      | some shape =>
        if done.contains keyName then
          noteError ("line " ++ toString k.line ++ ": field " ++ keyName ++ " already set in type " ++ name)
          fillFields doc rest name fields values merged done mergeNode fuel
        else
          let (_, newVal) ← decode doc v shape ((values.lookup keyName).getD default) fuel
          fillFields doc rest name fields (setField values keyName newVal) merged
            (done ++ [keyName]) mergeNode fuel

/-- Merges the mapping (or each of the mappings) a `<<` key names into a record, for fields that
the mapping holding the key does not set. -/
def mergeInto (doc : Document) (parent : List (Node × Node)) (m : Node) (name : String)
    (fields : List (String × Shape)) (values : List (String × Value)) :
    Nat → DecodeM (List (String × Value))
  | 0 => throw tooDeep
  | fuel + 1 => do
    let saved := (← get).merged
    if saved.isNone then
      modify fun st => { st with merged := some (parent.filterMap fun p => keyText? doc p.1 fuel) }
    let shape := Shape.record name fields
    let values ← match m with
      | .mapping _ _ _ => mergeEach doc [m] shape values fuel
      | .alias _ _ _ _ => if mergeable doc m then mergeEach doc [m] shape values fuel else throw mergeFailure
      | .sequence xs _ _ => mergeEach doc xs shape values fuel
      | _ => throw mergeFailure
    modify fun st => { st with merged := saved }
    return values

/-- Fills a record from each of several mappings in turn. -/
def mergeEach (doc : Document) (items : List Node) (shape : Shape) (values : List (String × Value)) :
    Nat → DecodeM (List (String × Value))
  | 0 => throw tooDeep
  | fuel + 1 =>
    match items with
    | [] => return values
    | x :: xs => do
      if !mergeable doc x then throw mergeFailure
      let (_, v) ← decode doc x shape (.record values) fuel
      let values := match v with | .record vs => vs | _ => values
      mergeEach doc xs shape values fuel

end

/-- Fills a value from a document (nothing when there is none): the filled value, or the
failure. -/
def decodeDocument (doc : Option Document) (shape : Shape) (cur : Value) (fuel : Nat) :
    Except String Value :=
  match doc with
  | none => .ok cur
  | some d =>
    match (decode d d.root shape cur fuel).run {} with
    | .error e => .error e
    | .ok ((_, v), st) =>
      if st.errors.isEmpty then .ok v
      else .error ("yaml: unmarshal errors:\n  " ++ "\n  ".intercalate st.errors.toList)

end LogStore.Yaml
