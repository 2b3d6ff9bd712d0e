import LogStore.Http.Url
import LogStore.Text.Json

/-!
# Requests and responses

A request is a method, a target, header fields and a body; a response is a status, header fields
with their values in order, and a body. Header names are compared in canonical form: the first
letter and every letter after a `-` upper case, all other letters lower case; a name holding a
byte that no header name may hold is left as it is.

* `canonicalName`, `Request.build?`, `Request.header`, `Response.set` and `Response.add`.
* `Response.json status v` is a JSON body written for browsers, followed by a newline;
  `Response.notFound` and `Response.methodNotAllowed` are the plain answers of the router.
-/

namespace LogStore.Http

/-- Whether a byte may appear in a header name. -/
def headerNameByte (c : Char) : Bool :=
  c.isAlphanum || "!#$%&\x27*+-.^_|~".toList.contains c || c.toNat = 96

/-- The canonical form of a header name. -/
def canonicalName (s : String) : String :=
  if s.toList.all headerNameByte then
    let (out, _) := s.toList.foldl (fun (acc : List Char × Bool) c =>
      let (out, upper) := acc
      let c' := if upper then c.toUpper else c.toLower
      (c' :: out, c = '-')) ([], true)
    String.ofList out.reverse
  else s

/-- A request. -/
structure Request where
  method : String
  target : Target
  /-- Header fields by canonical name. -/
  headers : List (String × String) := []
  body : ByteArray := ByteArray.empty

/-- Builds a request from a method name (`GET` when empty) and a target, refusing a method
that is not a token and a target that does not parse. -/
def Request.build? (method target : String) (headers : List (String × String))
    (body : ByteArray) : Except String Request :=
  let method := if method.isEmpty then "GET" else method
  if !method.toList.all headerNameByte then
    .error ("net/http: invalid method " ++ Text.quote method)
  else
    match Target.parse? target with
    | .error e => .error e
    | .ok t => .ok { method, target := t, headers := headers.map fun p => (canonicalName p.1, p.2), body }

/-- The value of a request header, empty when absent. -/
def Request.header (r : Request) (name : String) : String :=
  (r.headers.lookup (canonicalName name)).getD ""

/-- A response. -/
structure Response where
  status : Nat := 200
  headers : List (String × List String) := []
  body : ByteArray := ByteArray.empty

namespace Response

/-- Replaces the values of a header. -/
def set (r : Response) (name value : String) : Response :=
  { r with headers := r.headers.filter (·.1 ≠ name) ++ [(name, [value])] }

/-- Adds a value to a header. -/
def add (r : Response) (name value : String) : Response :=
  match r.headers.lookup name with
  | some vs => { r with headers := r.headers.map fun p => if p.1 = name then (name, vs ++ [value]) else p }
  | none => { r with headers := r.headers ++ [(name, [value])] }

/-- Sets every header of `other` on `r`, keeping headers `other` does not name. -/
def merge (r other : Response) : Response :=
  { other with headers := r.headers.filter (fun p => (other.headers.lookup p.1).isNone) ++ other.headers }

/-- A JSON answer, written for browsers and ended by a newline. -/
def json (status : Nat) (v : Text.Json.Value) : Response :=
  { status, headers := [("Content-Type", ["application/json"])],
    body := (v.render true ++ "\n").toUTF8 }

/-- A plain-text error answer. -/
def plainError (status : Nat) (text : String) : Response :=
  { status, headers := [("Content-Type", ["text/plain; charset=utf-8"]),
                        ("X-Content-Type-Options", ["nosniff"])],
    body := (text ++ "\n").toUTF8 }

/-- The answer for a path that names nothing. -/
def notFound : Response :=
  plainError 404 "404 page not found"

/-- The answer for a method a path does not take, listing those it takes. -/
def methodNotAllowed (allowed : List String) : Response :=
  { status := 405, headers := if allowed.isEmpty then [] else [("Allow", allowed)] }

end Response

end LogStore.Http
