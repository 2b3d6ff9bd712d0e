import LogStore.Http.Message

/-!
# Cross-origin requests

The server admits requests from any origin for the methods `GET`, `PUT`, `DELETE` and `OPTIONS`,
with any request headers, exposing `Link` and letting browsers cache a preflight answer for
300 seconds.

* A preflight request is an `OPTIONS` request naming the method it wants in
  `Access-Control-Request-Method`. It is answered here and goes no further: always status 200
  with an empty body, varying on the origin and the two request fields, and granting the
  method and headers only when an origin is given and the method is admitted.
* Any other request goes on to the routes; its answer varies on the origin and, when an
  origin is given and the method is admitted, allows any origin and exposes `Link`.
* The requested headers are read as a list split at blanks and commas, each name put in
  canonical case and stripped of bytes other than letters, digits, `-`, `_` and `.`.
-/

namespace LogStore.Http

/-- The methods cross-origin requests may use. -/
def corsMethods : List String := ["GET", "PUT", "DELETE"]

/-- Whether cross-origin requests may use a method, compared in upper case; `OPTIONS` always. -/
def corsAdmits (method : String) : Bool :=
  let m := method.toUpper
  m = "OPTIONS" || corsMethods.contains m

/-- One step of reading a header list: the names so far, the name being read, and whether
its next letter is upper case. -/
def headerListStep (acc : List String × List Char × Bool) (last : Bool) (c : Char) :
    List String × List Char × Bool :=
  let (names, cur, upper) := acc
  let cur :=
    if 'a' ≤ c ∧ c ≤ 'z' then cur ++ [if upper then c.toUpper else c]
    else if 'A' ≤ c ∧ c ≤ 'Z' then cur ++ [if upper then c else c.toLower]
    else if c = '-' ∨ c = '_' ∨ c = '.' ∨ ('0' ≤ c ∧ c ≤ '9') then cur ++ [c]
    else cur
  if c = ' ' ∨ c = ',' ∨ last then
    if cur.isEmpty then (names, cur, upper) else (names ++ [String.ofList cur], [], true)
  else (names, cur, c = '-')

/-- The header names of a requested header list. -/
def headerList (s : String) : List String :=
  let bytes := s.toUTF8.toList.map fun b => Char.ofNat b.toNat
  let n := bytes.length
  let (names, _, _) := (bytes.zipIdx).foldl
    (fun acc p => headerListStep acc (p.2 + 1 = n) p.1) ([], [], true)
  names

/-- The answer to a preflight request. -/
def preflight (origin method requested : String) : Response :=
  let r : Response := { headers := [("Vary", ["Origin", "Access-Control-Request-Method",
                                              "Access-Control-Request-Headers"])] }
  if origin.isEmpty || !corsAdmits method then r
  else
    let names := headerList requested
    let r := (r.set "Access-Control-Allow-Origin" "*").set "Access-Control-Allow-Methods" method.toUpper
    let r := if names.isEmpty then r else r.set "Access-Control-Allow-Headers" (", ".intercalate names)
    r.set "Access-Control-Max-Age" "300"

/-- The headers set on the answer to a request that is not a preflight. -/
def corsHeaders (origin method : String) : Response :=
  let r : Response := { headers := [("Vary", ["Origin"])] }
  if origin.isEmpty || !corsAdmits method then r
  else (r.set "Access-Control-Allow-Origin" "*").set "Access-Control-Expose-Headers" "Link"

/-- Whether a request is a preflight request. -/
def Request.isPreflight (r : Request) : Bool :=
  r.method = "OPTIONS" && !(r.header "Access-Control-Request-Method").isEmpty

end LogStore.Http
