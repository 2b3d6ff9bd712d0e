import LogStore.Http.Cors
import LogStore.Http.Exposition
import LogStore.Compress.Gzip
import LogStore.Http.Docs
import LogStore.Store.Basic
import LogStore.Text.Utf8

/-!
# The HTTP server

The server answers requests over one store. Its routes are:

* `/metrics`, any method: the metrics in the format the `Accept` header prefers, gzip-compressed
  when `Accept-Encoding` allows it;
* under `/api/v1`, behind the key check: `GET /health`, `GET /kv` (the sorted keys),
  `GET`, `PUT` and `DELETE` on `/kv/{key}`, and `GET /stats`;
* `GET /swagger/…`: the API viewer page at `/swagger/` and `/swagger/index.html`, the API
  description at `/swagger/swagger.json`.

A path that matches no route is answered 404 with `404 page not found`; a method a route does
not take, 405 with the methods it takes in `Allow`; a method the router does not know, 405 with
no `Allow`. Routing reads the path as spelled when that differs from its standard encoding, so
an encoded `/` stays inside a key; the key is then decoded from its spelling.

When a key is configured, every request under `/api/v1` must carry it in `X-API-Key`. Around
everything, the cross-origin rules apply (a preflight is answered before routing) and one
`request` line is logged per request with its method, decoded path, status and body size.

Every API route counts its requests by method, route and status; the store routes also count
their store operations: `success`, `error`, or `noop` for a write that changed nothing.
Requests carrying a key count as authentication successes unless answered 401. `/stats` also
sets the key-count and size gauges.

JSON answers are `{"success":true,"data":…}` or `{"success":false,"error":…}`. Store failures
map to statuses: a key or value over its limit 413, an invalid mode 400, a closed store 503,
anything else 500 `Failed to <op> key: <failure>`, which is also logged.
-/

namespace LogStore.Http

open Text.Json

/-- The routes under `/api/v1`. -/
inductive ApiRoute where
  | health
  | keys
  /-- One key, as spelled in the route path. -/
  | key (raw : ByteArray)
  | stats
  | unknown

/-- What a route path leads to. -/
inductive Endpoint where
  | metrics
  | api (r : ApiRoute)
  | docs
  | unknown

/-- The bytes of a text, as a list. -/
def byteList (s : String) : List UInt8 := s.toUTF8.toList

/-- The route under `/api/v1` that a remaining path leads to. -/
def apiRoute (p : List UInt8) : ApiRoute :=
  if p = byteList "/health" then .health
  else if p = byteList "/kv" then .keys
  else if p = byteList "/stats" then .stats
  else if (byteList "/kv/").isPrefixOf p then
    let rest := p.drop 4
    if rest.isEmpty || rest.contains 47 then .unknown else .key ⟨rest.toArray⟩
  else .unknown

/-- The endpoint a route path leads to; the empty path is `/`. -/
def route (p : List UInt8) : Endpoint :=
  if p = byteList "/metrics" then .metrics
  else if p = byteList "/api/v1" then .api .unknown
  else if (byteList "/api/v1/").isPrefixOf p then .api (apiRoute (47 :: p.drop 8))
  else if (byteList "/swagger/").isPrefixOf p then .docs
  else .unknown

/-- The methods the router knows. -/
def knownMethods : List String :=
  ["CONNECT", "DELETE", "GET", "HEAD", "OPTIONS", "PATCH", "POST", "PUT", "TRACE"]

/-- A successful JSON answer. -/
def success (data : Value) : Response :=
  Response.json 200 (.obj [("success", .bool true), ("data", data)])

/-- A failed JSON answer. -/
def refusal (status : Nat) (message : String) : Response :=
  Response.json status (.obj [("success", .bool false), ("error", .text message)])

/-- The key a route names: its bytes, decoded from the spelling when routing used one. -/
def keyOf (t : Target) (raw : ByteArray) : Except Response ByteArray :=
  if raw.isEmpty then .error (refusal 400 "Key is required")
  else match t.rawPath with
    | none => .ok raw
    | some _ => match unescapeFrom raw false 0 ByteArray.empty with
      | some k => .ok k
      | none => .error (refusal 400 "Invalid key encoding")

/-- The status a store failure is answered with, if it is one the client caused. -/
def clientStatus (f : Failure) : Option Nat :=
  let ks := f.kinds
  if ks.contains .keyTooLarge || ks.contains .valueTooLarge then some 413
  else if ks.contains .invalidMode then some 400
  else if ks.contains .storeClosed then some 503
  else none

/-- The state of a server: its key, its logger, its metrics and how many requests it served. -/
structure Server where
  apiKey : String
  logger : Logger
  metrics : Registry := {}
  served : Nat := 0

/-- Server steps: they change the server and the store. -/
abbrev ServeM := StateT Server StoreM

namespace Server

/-- Changes the metrics. -/
def measure (f : Registry → Registry) : ServeM Unit :=
  modify fun s => { s with metrics := f s.metrics }

/-- The store served. -/
def store : ServeM Store :=
  fun s => do return (← get, s)

/-- Writes a log event through the server's logger. -/
def log (e : Event) : ServeM Unit := do
  let s ← get
  monadLift (Sys.emit s.logger e : Sys Unit)

/-- Counts one store operation with its outcome. -/
def countOperation (op status : String) : ServeM Unit :=
  measure fun m => (m.add "kvdb_db_operations_total" [op, status]).observe
    "kvdb_db_operation_duration_seconds" [op]

/-- Runs an API route, counting it by method, route and status. -/
def instrument (method endpoint : String) (h : ServeM Response) : ServeM Response := do
  measure (·.touch "kvdb_http_requests_in_flight" [method, endpoint])
  let r ← h
  measure fun m => (m.add "kvdb_http_requests_total" [method, endpoint, toString r.status]).observe
    "kvdb_http_request_duration_seconds" [method, endpoint]
  return r

/-- The answer to a failed store operation; an unexpected failure is logged. -/
def storeFailure (op : String) (f : Failure) : ServeM Response := do
  match clientStatus f with
  | some status => return refusal status f.message
  | none =>
    log { level := Level.error, message := "store operation failed",
          fields := [("error", .text f.message), ("operation", .text op)] }
    return refusal 500 ("Failed to " ++ op ++ " key: " ++ f.message)

/-- `GET /health`. -/
def health : ServeM Response := do
  measure (·.add "kvdb_health_checks_total" ["success"])
  return success (.obj [("status", .text "healthy")])

/-- `GET /kv`: the sorted keys and their number. -/
def listKeys : ServeM Response := do
  let ks := (← store).keys.keys
  return success (.obj [("keys", .arr (ks.map Value.str)), ("count", .int ks.length)])

/-- `GET /kv/{key}`: the raw value. -/
def getValue (t : Target) (raw : ByteArray) : ServeM Response := do
  match keyOf t raw with
  | .error r => return r
  | .ok key =>
    let v := (← store).get? key
    countOperation "get" "success"
    match v with
    | none => return refusal 404 "Key not found"
    | some b => return { headers := [("Content-Type", ["application/octet-stream"])], body := b }

/-- `PUT /kv/{key}?mode=…`: writes the body, at most one byte over the value limit of it. -/
def putValue (t : Target) (raw body : ByteArray) : ServeM Response := do
  match keyOf t raw with
  | .error r => return r
  | .ok key =>
    match SetMode.parseBytes? ((queryValue t.rawQuery "mode").getD ByteArray.empty) with
    | .error f => return refusal 400 f.message
    | .ok mode =>
      let r ← monadLift (Store.set key (body.extract 0 (maxValueSize + 1)) mode : StoreM _)
      countOperation "set" (match r with | .error _ => "error" | .ok false => "noop" | .ok true => "success")
      match r with
      | .error f => storeFailure "set" f
      | .ok c => return success (.obj [("changed", .bool c)])

/-- `DELETE /kv/{key}`: whether the key existed. -/
def deleteValue (t : Target) (raw : ByteArray) : ServeM Response := do
  match keyOf t raw with
  | .error r => return r
  | .ok key =>
    let r ← monadLift (Store.delete key : StoreM _)
    countOperation "delete" (match r with | .error _ => "error" | .ok false => "noop" | .ok true => "success")
    match r with
    | .error f => storeFailure "delete" f
    | .ok e => return success (.obj [("existed", .bool e)])

/-- `GET /stats`: the key count, the log size and the path; also sets the gauges. -/
def stats : ServeM Response := do
  let st ← monadLift (Store.stats : StoreM Stats)
  measure fun m => (m.setGauge "kvdb_db_keys_total" [] st.keys).setGauge
    "kvdb_db_data_size_bytes" [] st.dataSize
  let path := (← store).path
  return success (.obj ([("keys", .int st.keys), ("data_size", .int st.dataSize)] ++
    if path.isEmpty then [] else [("path", .text path)]))

/-- The routes under `/api/v1`, after the key check. -/
def api (req : Request) : ApiRoute → ServeM Response
  | .health =>
    if req.method = "GET" then instrument "GET" "/api/v1/health" health
    else return Response.methodNotAllowed ["GET"]
  | .keys =>
    if req.method = "GET" then instrument "GET" "/api/v1/kv" listKeys
    else return Response.methodNotAllowed ["GET"]
  | .key raw =>
    let e := "/api/v1/kv/\x7bkey\x7d"
    if req.method = "GET" then instrument "GET" e (getValue req.target raw)
    else if req.method = "PUT" then instrument "PUT" e (putValue req.target raw req.body)
    else if req.method = "DELETE" then instrument "DELETE" e (deleteValue req.target raw)
    else return Response.methodNotAllowed ["DELETE", "GET", "PUT"]
  | .stats =>
    if req.method = "GET" then instrument "GET" "/api/v1/stats" stats
    else return Response.methodNotAllowed ["GET"]
  | .unknown => return Response.notFound

/-- The key check in front of the API routes, counting the outcome for requests with a key. -/
def authorize (req : Request) (inner : ServeM Response) : ServeM Response := do
  let expected := (← get).apiKey
  let given := req.header "X-API-Key"
  let r ← if expected.isEmpty then inner
    else if given.isEmpty then pure (refusal 401 "Missing X-API-Key header")
    else if given ≠ expected then pure (refusal 401 "Invalid API key")
    else inner
  if !given.isEmpty then
    measure (·.add "kvdb_auth_requests_total" [if r.status = 401 then "error" else "success"])
  return r

/-- The documentation pages, by decoded path. -/
def docs (path : ByteArray) : Response :=
  if path == "/swagger/".toUTF8 || path == "/swagger/index.html".toUTF8 then
    { headers := [("Content-Type", ["text/html"])], body := docsPage.toUTF8 }
  else if path == "/swagger/swagger.json".toUTF8 then
    { headers := [("Content-Type", ["application/json"])], body := docsSpec.toUTF8 }
  else Response.notFound

/-- The metrics in the format the request prefers, compressed when it accepts gzip. -/
def metricsResponse (req : Request) (r : Registry) : Response :=
  let format := ExpositionFormat.negotiate (req.header "Accept")
  let body := r.expose format
  let plain : Response := { headers := [("Content-Type", [format.contentType])], body }
  if acceptsGzip (req.header "Accept-Encoding") then
    { plain.set "Content-Encoding" "gzip" with body := Compress.gzip body }
  else plain

/-- Routes a request that passed the cross-origin rules. -/
def dispatch (req : Request) : ServeM Response := do
  if !knownMethods.contains req.method then return Response.methodNotAllowed []
  match route req.target.routePath.toList with
  | .metrics => return metricsResponse req (← get).metrics
  | .api r => authorize req (api req r)
  | .docs =>
    if req.method = "GET" then return docs req.target.path
    else return Response.methodNotAllowed ["GET"]
  | .unknown => return Response.notFound

/-- The identifier of the `n`th request. -/
def requestId (n : Nat) : String :=
  let digits := toString n
  "request-" ++ String.ofList (List.replicate (6 - digits.length) '0') ++ digits

/-- Answers one request and logs it. -/
def serve (req : Request) : ServeM Response := do
  modify fun s => { s with served := s.served + 1 }
  let id := requestId (← get).served
  let r ← if req.isPreflight then
      pure (preflight (req.header "Origin") (req.header "Access-Control-Request-Method")
        (req.header "Access-Control-Request-Headers"))
    else (corsHeaders (req.header "Origin") req.method).merge <$> dispatch req
  log { level := Level.info, message := "request",
        fields := [("request_id", .text id), ("method", .text req.method),
                   ("path", .text (Text.Utf8.lossy req.target.path)),
                   ("status", .int r.status), ("bytes", .int r.body.size), ("took", .number "0")] }
  return r

end Server

end LogStore.Http
