import LogStore.Proofs.KeyDir
import LogStore.Proofs.Writes
import LogStore.Http.Server

/-!
# The HTTP API over a store

The server puts one store behind the routes under `/api/v1`. This module says what serving a
request does to the store and its files, and what it answers.

* `Server.serve_of_unadmitted`: with a key configured, a request under `/api/v1` that does not
  carry it changes neither the store nor its files. A preflight is answered by the cross-origin
  rules and a method the router does not know 405, both before the key is looked at; any other
  request is answered 401.
* `Server.serve_put`, `Server.serve_delete`, `Server.serve_get`, `Server.serve_keys`: an admitted
  request to a store route ends as the store call it names, in the same store and files, with
  the answer that call's result maps to. `PUT` hands the store at most one byte past the value
  limit of its body, which the store refuses as it would the whole body
  (`Store.set_extract_limit`).
* `Server.Keeps`: what a server step keeps of the store, with the server's key. Every step keeps
  the key, and keeps the key directory sorted (`Server.serveAll_sorted`), so after any run the
  keys `GET /api/v1/kv` lists are increasing.
* `Server.api_contract` gathers these.
-/

namespace LogStore

theorem SetMode.parseBytes?_known {b : ByteArray} {m : SetMode}
    (h : SetMode.parseBytes? b = .ok m) : m = .upsert ∨ m = .insert ∨ m = .update := by
  unfold SetMode.parseBytes? SetMode.parse? at h
  split at h
  · split at h <;> cases h <;> simp
  · cases h

theorem Bytes.extract_of_size_le {b : ByteArray} {n : Nat} (h : b.size ≤ n) :
    b.extract 0 n = b := by
  apply ByteArray.ext
  rw [ByteArray.data_extract]
  exact Array.extract_eq_self_of_le h

namespace Store

/-- **A value cut one byte past the limit is set as the whole value would be**: the same
store and world, and the same answer, except that both refuse the value as too large with texts
that quote different sizes. -/
theorem set_extract_limit (key value : ByteArray) (mode : SetMode) (s : Store) (w : World) :
    (set key (value.extract 0 (maxValueSize + 1)) mode s w).1.2 = (set key value mode s w).1.2 ∧
    (set key (value.extract 0 (maxValueSize + 1)) mode s w).2 = (set key value mode s w).2 ∧
    ((set key (value.extract 0 (maxValueSize + 1)) mode s w).1.1 = (set key value mode s w).1.1 ∨
      ∃ d d', (set key (value.extract 0 (maxValueSize + 1)) mode s w).1.1 =
        .error (.valueTooLarge d) ∧ (set key value mode s w).1.1 = .error (.valueTooLarge d')) := by
  by_cases hFits : value.size ≤ maxValueSize + 1
  · rw [Bytes.extract_of_size_le hFits]
    exact ⟨rfl, rfl, .inl rfl⟩
  -- a value over the limit: the cut one is still over it, so both are refused unchanged
  have hCut : (value.extract 0 (maxValueSize + 1)).size = maxValueSize + 1 := by
    simp only [ByteArray.size_extract]
    omega
  cases hOpen : s.isOpen
  · rw [set_of_closed hOpen, set_of_closed hOpen]
    exact ⟨rfl, rfl, .inl rfl⟩
  by_cases hMode : mode = .upsert ∨ mode = .insert ∨ mode = .update
  · by_cases hKey : maxKeySize < key.size
    · -- the key is refused first, in the same words whatever the value
      have hInvalid : ∀ v, (Entry.live key v).validate =
          .error (.keyTooLarge (toString key.size ++ " > " ++ toString maxKeySize)) := by
        intro v
        simp [Entry.validate, Entry.live, hKey]
      rw [set_of_invalid hOpen hMode (hInvalid _), set_of_invalid hOpen hMode (hInvalid _)]
      exact ⟨rfl, rfl, .inl rfl⟩
    · have hInvalid : ∀ v : ByteArray, maxValueSize < v.size → (Entry.live key v).validate =
          .error (.valueTooLarge (toString v.size ++ " > " ++ toString maxValueSize)) := by
        intro v hv
        simp [Entry.validate, Entry.live, hKey, hv]
      rw [set_of_invalid hOpen hMode (hInvalid _ (by omega)),
        set_of_invalid hOpen hMode (hInvalid _ (by omega))]
      exact ⟨rfl, rfl, .inr ⟨_, _, rfl, rfl⟩⟩
  · obtain ⟨n, rfl⟩ : ∃ n, mode = .unknown n := by
      cases mode <;> simp_all
    rw [set_of_unknown hOpen n, set_of_unknown hOpen n]
    exact ⟨rfl, rfl, .inl rfl⟩

end Store

end LogStore

namespace LogStore.Http

/-! ## Routes -/

/-- The bytes of the route texts. -/
theorem byteList_routes :
    byteList "/metrics" = [47, 109, 101, 116, 114, 105, 99, 115] ∧
    byteList "/api/v1" = [47, 97, 112, 105, 47, 118, 49] ∧
    byteList "/api/v1/" = [47, 97, 112, 105, 47, 118, 49, 47] ∧
    byteList "/health" = [47, 104, 101, 97, 108, 116, 104] ∧
    byteList "/stats" = [47, 115, 116, 97, 116, 115] ∧
    byteList "/kv" = [47, 107, 118] ∧ byteList "/kv/" = [47, 107, 118, 47] ∧
    byteList "/api/v1/kv" = [47, 97, 112, 105, 47, 118, 49, 47, 107, 118] ∧
    byteList "/api/v1/kv/" = [47, 97, 112, 105, 47, 118, 49, 47, 107, 118, 47] := by
  decide +kernel

/-- A request to a path under `/api/v1`, as routed: the path itself or one below it. -/
def Request.UnderApi (req : Request) : Prop :=
  req.target.routePath.toList = byteList "/api/v1" ∨
    (byteList "/api/v1/").isPrefixOf req.target.routePath.toList = true

theorem route_of_underApi {req : Request} (h : req.UnderApi) :
    ∃ r, route req.target.routePath.toList = .api r := by
  obtain ⟨hm, ha, hp, -⟩ := byteList_routes
  have hNotMetrics : req.target.routePath.toList ≠ byteList "/metrics" := by
    intro hEq
    rw [Request.UnderApi, hEq, hm, ha, hp] at h
    simp at h
  by_cases hTop : req.target.routePath.toList = byteList "/api/v1"
  · exact ⟨.unknown, by simp [route, hTop, ha, hm]⟩
  · exact ⟨apiRoute (47 :: req.target.routePath.toList.drop 8),
      by simp [route, hNotMetrics, hTop, h.resolve_left hTop]⟩

/-- `/api/v1/kv/` and then one nonempty segment names a key, spelled as the segment. -/
theorem route_key {raw : ByteArray} (hne : raw.size ≠ 0) (hs : 47 ∉ raw.toList) :
    route (byteList "/api/v1/kv/" ++ raw.toList) = .api (.key raw) := by
  obtain ⟨hm, ha, hp, hh, hst, hkv, hk, -, hkvs⟩ := byteList_routes
  have hList : raw.toList ≠ [] := by
    rw [Bytes.toList_eq_data, Ne, ← List.length_eq_zero_iff, Array.length_toList]
    exact hne
  have hRaw : ({ data := raw.toList.toArray } : ByteArray) = raw := by
    rw [Bytes.toList_eq_data]
  simp [route, apiRoute, hkvs, hm, ha, hp, hh, hst, hk, hkv, hList, hs, hRaw]

theorem route_keys : route (byteList "/api/v1/kv") = .api .keys := by
  obtain ⟨hm, ha, hp, hh, -, hkv, -, hkvs, -⟩ := byteList_routes
  simp [route, apiRoute, hkvs, hm, ha, hp, hh, hkv]

@[simp] theorem Response.status_merge (r o : Response) : (r.merge o).status = o.status := rfl

@[simp] theorem Response.body_merge (r o : Response) : (r.merge o).body = o.body := rfl

namespace Server

variable {α β : Type} {srv : Server} {st : Store} {w : World} {req : Request}

/-! ## Running server steps -/

@[simp] theorem bind_apply (m : ServeM α) (f : α → ServeM β) :
    (m >>= f) srv st w =
      f (m srv st w).1.1.1 (m srv st w).1.1.2 (m srv st w).1.2 (m srv st w).2 := rfl

@[simp] theorem map_apply (f : α → β) (m : ServeM α) :
    (f <$> m) srv st w =
      (((f (m srv st w).1.1.1, (m srv st w).1.1.2), (m srv st w).1.2), (m srv st w).2) := rfl

@[simp] theorem pure_apply (a : α) : (pure a : ServeM α) srv st w = (((a, srv), st), w) := rfl

@[simp] theorem get_apply : (get : ServeM Server) srv st w = (((srv, srv), st), w) := rfl

@[simp] theorem modify_apply (g : Server → Server) :
    (modify g : ServeM PUnit) srv st w = ((((), g srv), st), w) := rfl

@[simp] theorem lift_apply (m : StoreM α) :
    (monadLift m : ServeM α) srv st w = ((((m st w).1.1, srv), (m st w).1.2), (m st w).2) := rfl

@[simp] theorem measure_apply (g : Registry → Registry) :
    measure g srv st w = ((((), { srv with metrics := g srv.metrics }), st), w) := rfl

@[simp] theorem log_apply (e : Event) :
    log e srv st w = ((((), srv), st), (Sys.emit srv.logger e w).2) := rfl

@[simp] theorem store_apply : store srv st w = (((st, srv), st), w) := rfl

/-- The key check lets `req` through: no key is configured, or the request carries it. -/
def Admits (srv : Server) (req : Request) : Prop :=
  srv.apiKey = "" ∨ req.header "X-API-Key" = srv.apiKey

/-- Two server steps end alike: in the same store and files, with the same status and body. -/
def Alike (o o' : ((Response × Server) × Store) × World) : Prop :=
  o.1.2 = o'.1.2 ∧ o.2.disk = o'.2.disk ∧ o.1.1.1.status = o'.1.1.1.status ∧
    o.1.1.1.body = o'.1.1.1.body

theorem Alike.trans {o o' o'' : ((Response × Server) × Store) × World} (h : Alike o o')
    (h' : Alike o' o'') : Alike o o'' :=
  ⟨h.1.trans h'.1, h.2.1.trans h'.2.1, h.2.2.1.trans h'.2.2.1, h.2.2.2.trans h'.2.2.2⟩

/-! ## The layers around the routes -/

/-- A preflight request is answered by the cross-origin rules alone. -/
theorem serve_of_preflight (srv : Server) (st : Store) (w : World)
    (h : req.isPreflight = true) :
    (serve req srv st w).1.1.1 = preflight (req.header "Origin")
      (req.header "Access-Control-Request-Method") (req.header "Access-Control-Request-Headers") ∧
    (serve req srv st w).1.2 = st ∧ (serve req srv st w).2.disk = w.disk ∧
    (serve req srv st w).1.1.2.apiKey = srv.apiKey := by
  simp [serve, h]

/-- Any other request is routed, and its answer carries the cross-origin headers. -/
theorem serve_of_dispatch (srv : Server) (st : Store) (w : World)
    (h : req.isPreflight = false) :
    let o := dispatch req { srv with served := srv.served + 1 } st w
    (serve req srv st w).1.1.1 = (corsHeaders (req.header "Origin") req.method).merge o.1.1.1 ∧
    (serve req srv st w).1.2 = o.1.2 ∧ (serve req srv st w).2.disk = o.2.disk ∧
    (serve req srv st w).1.1.2.apiKey = o.1.1.2.apiKey := by
  simp [serve, h]

theorem dispatch_of_unknown_method (h : req.method ∉ knownMethods) :
    dispatch req srv st w = (((Response.methodNotAllowed [], srv), st), w) := by
  simp [dispatch, h]

theorem dispatch_of_api {r : ApiRoute} (hm : req.method ∈ knownMethods)
    (hr : route req.target.routePath.toList = .api r) :
    dispatch req srv st w = authorize req (api req r) srv st w := by
  simp [dispatch, hm, hr]

/-- With a key configured, a request that does not carry it is answered 401, and neither the
store nor the world changes. -/
theorem authorize_of_refused (inner : ServeM Response) (srv : Server) (st : Store) (w : World)
    (hKey : srv.apiKey ≠ "")
    (hGiven : req.header "X-API-Key" ≠ srv.apiKey) :
    (authorize req inner srv st w).1.1.1 = refusal 401
      (if req.header "X-API-Key" = "" then "Missing X-API-Key header" else "Invalid API key") ∧
    (authorize req inner srv st w).1.2 = st ∧ (authorize req inner srv st w).2 = w ∧
    (authorize req inner srv st w).1.1.2.apiKey = srv.apiKey := by
  by_cases hEmpty : req.header "X-API-Key" = ""
  · simp [authorize, hKey, hEmpty]
  · simp [authorize, hKey, hEmpty, hGiven]

/-- Through the key check, the route runs as it would alone. -/
theorem authorize_of_granted (inner : ServeM Response) (srv : Server) (st : Store) (w : World)
    (h : srv.Admits req) :
    (authorize req inner srv st w).1.1.1 = (inner srv st w).1.1.1 ∧
    (authorize req inner srv st w).1.2 = (inner srv st w).1.2 ∧
    (authorize req inner srv st w).2 = (inner srv st w).2 ∧
    (authorize req inner srv st w).1.1.2.apiKey = (inner srv st w).1.1.2.apiKey := by
  by_cases hKey : srv.apiKey = ""
  · -- no key is configured: every request goes through, counted only when it carries a key
    simp [authorize, hKey]
    split <;> simp
  · have hGiven := h.resolve_left hKey
    simp [authorize, hKey, hGiven]

/-- An instrumented route ends as its handler does on the server with only the metrics
changed. -/
theorem instrument_alike (srv : Server) (st : Store) (w : World) (method endpoint : String)
    (h : ServeM Response) :
    ∃ srv', Alike (instrument method endpoint h srv st w) (h srv' st w) :=
  ⟨{ srv with metrics := srv.metrics.touch "kvdb_http_requests_in_flight" [method, endpoint] },
    by simp [instrument, Alike]⟩

/-- An admitted request to an API route, other than a preflight, ends as the route does on the
server that has counted it. -/
theorem serve_alike_api {r : ApiRoute} (hPre : req.isPreflight = false)
    (hm : req.method ∈ knownMethods) (hr : route req.target.routePath.toList = .api r)
    (hAdmit : srv.Admits req) :
    Alike (serve req srv st w) (api req r { srv with served := srv.served + 1 } st w) := by
  obtain ⟨hRes, hSt, hDisk, -⟩ := serve_of_dispatch srv st w hPre
  obtain ⟨hRes', hSt', hW', -⟩ := authorize_of_granted (api req r)
    { srv with served := srv.served + 1 } st w hAdmit
  rw [dispatch_of_api hm hr] at hRes hSt hDisk
  exact ⟨hSt.trans hSt', by rw [hDisk, hW'], by rw [hRes, Response.status_merge, hRes'],
    by rw [hRes, Response.body_merge, hRes']⟩

/-! ## The store routes -/

/-- A failed store call is answered with the status its failure maps to; only a failure the
client did not cause is logged, and that changes no file. -/
theorem storeFailure_apply (op : String) (f : Failure) :
    (storeFailure op f srv st w).1.1.1.status = (clientStatus f).getD 500 ∧
    (storeFailure op f srv st w).1.2 = st ∧ (storeFailure op f srv st w).2.disk = w.disk ∧
    (storeFailure op f srv st w).1.1.2.apiKey = srv.apiKey := by
  unfold storeFailure
  cases hc : clientStatus f <;> simp [refusal, Response.json]

section Key

variable {t : Target} {raw key : ByteArray}

/-- `PUT`: the store's set runs with the body cut one byte past the value limit, and its result
is the answer. -/
theorem putValue_of_mode (srv : Server) {body : ByteArray} {mode : SetMode}
    {res : Except Failure Bool} {st' : Store} {w' : World} (hk : keyOf t raw = .ok key)
    (hm : SetMode.parseBytes? ((queryValue t.rawQuery "mode").getD ByteArray.empty) = .ok mode)
    (hr : Store.set key (body.extract 0 (maxValueSize + 1)) mode st w = ((res, st'), w')) :
    (putValue t raw body srv st w).1.2 = st' ∧ (putValue t raw body srv st w).2.disk = w'.disk ∧
    (∀ c, res = .ok c →
      (putValue t raw body srv st w).1.1.1 = success (.obj [("changed", .bool c)])) ∧
    (∀ f, res = .error f →
      (putValue t raw body srv st w).1.1.1.status = (clientStatus f).getD 500) ∧
    (putValue t raw body srv st w).1.1.2.apiKey = srv.apiKey := by
  simp only [putValue, hk, hm, bind_apply, lift_apply, hr]
  cases res with
  | error f => simp [countOperation, storeFailure_apply]
  | ok c => simp [countOperation]

/-- `PUT` with a mode that names none is refused 400 before the store is called. -/
theorem putValue_of_bad_mode {body : ByteArray} {f : Failure} (hk : keyOf t raw = .ok key)
    (hm : SetMode.parseBytes? ((queryValue t.rawQuery "mode").getD ByteArray.empty) = .error f) :
    putValue t raw body srv st w = (((refusal 400 f.message, srv), st), w) := by
  simp [putValue, hk, hm]

/-- `DELETE`: the store's delete runs, and its result is the answer. -/
theorem deleteValue_of_key (srv : Server) {res : Except Failure Bool} {st' : Store} {w' : World}
    (hk : keyOf t raw = .ok key) (hr : Store.delete key st w = ((res, st'), w')) :
    (deleteValue t raw srv st w).1.2 = st' ∧ (deleteValue t raw srv st w).2.disk = w'.disk ∧
    (∀ e, res = .ok e →
      (deleteValue t raw srv st w).1.1.1 = success (.obj [("existed", .bool e)])) ∧
    (∀ f, res = .error f →
      (deleteValue t raw srv st w).1.1.1.status = (clientStatus f).getD 500) ∧
    (deleteValue t raw srv st w).1.1.2.apiKey = srv.apiKey := by
  simp only [deleteValue, hk, bind_apply, lift_apply, hr]
  cases res with
  | error f => simp [countOperation, storeFailure_apply]
  | ok e => simp [countOperation]

/-- `GET` of a key: the bytes it holds, or 404; nothing changes but the metrics. -/
theorem getValue_of_key (srv : Server) (st : Store) (w : World) (hk : keyOf t raw = .ok key) :
    (getValue t raw srv st w).1.2 = st ∧ (getValue t raw srv st w).2 = w ∧
    (∀ v, st.get? key = some v →
      (getValue t raw srv st w).1.1.1 =
        { headers := [("Content-Type", ["application/octet-stream"])], body := v }) ∧
    (st.get? key = none → (getValue t raw srv st w).1.1.1 = refusal 404 "Key not found") ∧
    (getValue t raw srv st w).1.1.2.apiKey = srv.apiKey := by
  cases hv : st.get? key <;> simp [getValue, hk, hv, countOperation]

end Key

/-- `GET /kv`: the keys of the directory, in its order, and their number. -/
theorem listKeys_apply :
    listKeys srv st w = (((success (.obj [("keys", .arr (st.keys.keys.map Text.Json.Value.str)),
      ("count", .int st.keys.keys.length)]), srv), st), w) := by
  simp [listKeys]

/-! ## Serving the store routes -/

/-- An admitted request, other than a preflight, with method `method` to `/api/v1/kv/{raw}`,
where the one segment `raw` names the key `key`. -/
structure KeyRequest (srv : Server) (req : Request) (method : String) (raw key : ByteArray) :
    Prop where
  notPreflight : req.isPreflight = false
  admitted : srv.Admits req
  hasMethod : req.method = method
  path : req.target.routePath.toList = byteList "/api/v1/kv/" ++ raw.toList
  rawNonempty : raw.size ≠ 0
  oneSegment : 47 ∉ raw.toList
  decodes : keyOf req.target raw = .ok key

variable {raw key : ByteArray} {method : String}

/-- A key request ends as the handler its method names. -/
theorem KeyRequest.alike {h : ServeM Response} (hr : KeyRequest srv req method raw key)
    (st : Store) (w : World) (hm : method ∈ knownMethods)
    (hApi : ∃ e, api req (.key raw) = instrument method e h) :
    ∃ srv', Alike (serve req srv st w) (h srv' st w) := by
  obtain ⟨e, hE⟩ := hApi
  obtain ⟨srv', h'⟩ := instrument_alike { srv with served := srv.served + 1 } st w method e h
  have hRoute : route req.target.routePath.toList = .api (.key raw) := by
    rw [hr.path, route_key hr.rawNonempty hr.oneSegment]
  refine ⟨srv', (serve_alike_api hr.notPreflight (hr.hasMethod ▸ hm) hRoute hr.admitted).trans ?_⟩
  rw [hE]
  exact h'

/-- **`PUT` is a set of the whole body.** An admitted `PUT /api/v1/kv/{key}?mode=…` whose mode
parses ends as the store's set of the key to the body in that mode: in the same store and files,
answered 200 with whether the map changed when the set succeeds, and with the status its failure
maps to when it fails. -/
theorem serve_put {mode : SetMode} (hr : KeyRequest srv req "PUT" raw key) (st : Store)
    (w : World)
    (hMode : SetMode.parseBytes? ((queryValue req.target.rawQuery "mode").getD ByteArray.empty) =
      .ok mode) :
    (serve req srv st w).1.2 = (Store.set key req.body mode st w).1.2 ∧
    (serve req srv st w).2.disk = (Store.set key req.body mode st w).2.disk ∧
    (∀ c, (Store.set key req.body mode st w).1.1 = .ok c →
      (serve req srv st w).1.1.1.status = 200 ∧
      (serve req srv st w).1.1.1.body = (success (.obj [("changed", .bool c)])).body) ∧
    (∀ f, (Store.set key req.body mode st w).1.1 = .error f →
      (serve req srv st w).1.1.1.status = (clientStatus f).getD 500) := by
  obtain ⟨srv', hSt, hDisk, hStatus, hBody⟩ := hr.alike st w
    (h := putValue req.target raw req.body) (by decide) ⟨_, by simp [api, hr.hasMethod]; rfl⟩
  -- the handler sets the body cut one byte past the limit
  obtain ⟨hStCut, hWCut, hRes⟩ := Store.set_extract_limit key req.body mode st w
  generalize hCut : Store.set key (req.body.extract 0 (maxValueSize + 1)) mode st w = o
    at hStCut hWCut hRes
  obtain ⟨⟨res, st'⟩, w'⟩ := o
  obtain ⟨hSt', hDisk', hOk, hErr, -⟩ := putValue_of_mode srv' hr.decodes hMode hCut
  refine ⟨hSt.trans (hSt'.trans hStCut), hDisk.trans (hDisk'.trans (congrArg World.disk hWCut)),
    fun c hc => ?_, fun f hf => ?_⟩
  · have hRes' : res = .ok c := by
      rcases hRes with h | ⟨d, d', -, h'⟩
      · exact h.trans hc
      · rw [hc] at h'
        cases h'
    rw [hStatus, hBody, hOk c hRes']
    exact ⟨rfl, rfl⟩
  · rw [hStatus]
    rcases hRes with h | ⟨d, d', h, h'⟩
    · exact hErr f (h.trans hf)
    · -- both are refused as too large, which maps to one status whatever size is quoted
      rw [hf] at h'
      cases h'
      rw [hErr _ h]
      rfl

/-- An admitted `PUT` whose mode does not parse is refused 400, and nothing changes. -/
theorem serve_put_bad_mode {f : Failure} (hr : KeyRequest srv req "PUT" raw key) (st : Store)
    (w : World)
    (hMode : SetMode.parseBytes? ((queryValue req.target.rawQuery "mode").getD ByteArray.empty) =
      .error f) :
    (serve req srv st w).1.2 = st ∧ (serve req srv st w).2.disk = w.disk ∧
    (serve req srv st w).1.1.1.status = 400 := by
  obtain ⟨srv', hSt, hDisk, hStatus, -⟩ := hr.alike st w
    (h := putValue req.target raw req.body) (by decide) ⟨_, by simp [api, hr.hasMethod]; rfl⟩
  rw [putValue_of_bad_mode hr.decodes hMode] at hSt hDisk hStatus
  exact ⟨hSt, hDisk, hStatus⟩

/-- **Nothing over the limits is stored, whole or cut.** On an open store, an admitted `PUT`
whose mode parses, with a key or a body over its limit, is refused 413, and nothing changes. -/
theorem serve_put_too_large {mode : SetMode} (hr : KeyRequest srv req "PUT" raw key)
    (st : Store) (w : World)
    (hMode : SetMode.parseBytes? ((queryValue req.target.rawQuery "mode").getD ByteArray.empty) =
      .ok mode)
    (hOpen : st.isOpen = true) (hLarge : maxKeySize < key.size ∨ maxValueSize < req.body.size) :
    (serve req srv st w).1.2 = st ∧ (serve req srv st w).2.disk = w.disk ∧
    (serve req srv st w).1.1.1.status = 413 := by
  obtain ⟨hSt, hDisk, -, hErr⟩ := serve_put hr st w hMode
  have hKnown := SetMode.parseBytes?_known hMode
  have hOut := Store.set_outcomes st w key req.body mode
  -- the store refuses the set, the key first, and the answer is the status of the refusal
  obtain ⟨f, hSet, hf⟩ : ∃ f, Store.set key req.body mode st w = ((.error f, st), w) ∧
      clientStatus f = some 413 := by
    by_cases hKey : maxKeySize < key.size
    · exact ⟨_, hOut.keyTooLarge hOpen hKnown hKey, rfl⟩
    · exact ⟨_, hOut.valueTooLarge hOpen hKnown (by omega) (hLarge.resolve_left hKey), rfl⟩
  rw [hSet] at hSt hDisk hErr
  exact ⟨hSt, hDisk, by rw [hErr f rfl, hf]; rfl⟩

/-- **`DELETE` is a delete.** An admitted `DELETE /api/v1/kv/{key}` ends as the store's delete
of the key: in the same store and files, answered 200 with whether the key was bound when the
delete succeeds, and with the status its failure maps to when it fails. -/
theorem serve_delete (hr : KeyRequest srv req "DELETE" raw key) (st : Store) (w : World) :
    (serve req srv st w).1.2 = (Store.delete key st w).1.2 ∧
    (serve req srv st w).2.disk = (Store.delete key st w).2.disk ∧
    (∀ e, (Store.delete key st w).1.1 = .ok e →
      (serve req srv st w).1.1.1.status = 200 ∧
      (serve req srv st w).1.1.1.body = (success (.obj [("existed", .bool e)])).body) ∧
    (∀ f, (Store.delete key st w).1.1 = .error f →
      (serve req srv st w).1.1.1.status = (clientStatus f).getD 500) := by
  obtain ⟨srv', hSt, hDisk, hStatus, hBody⟩ := hr.alike st w
    (h := deleteValue req.target raw) (by decide) ⟨_, by simp [api, hr.hasMethod]; rfl⟩
  generalize hDel : Store.delete key st w = o
  obtain ⟨⟨res, st'⟩, w'⟩ := o
  obtain ⟨hSt', hDisk', hOk, hErr, -⟩ := deleteValue_of_key srv' hr.decodes hDel
  refine ⟨hSt.trans hSt', hDisk.trans hDisk', fun e he => ?_, fun f hf => ?_⟩
  · rw [hStatus, hBody, hOk e he]
    exact ⟨rfl, rfl⟩
  · rw [hStatus]
    exact hErr f hf

/-- **`GET` reads the map.** An admitted `GET /api/v1/kv/{key}` is answered with exactly the
bytes the key is bound to, or 404 when it is unbound, and changes nothing. -/
theorem serve_get (hr : KeyRequest srv req "GET" raw key) (st : Store) (w : World) :
    (serve req srv st w).1.2 = st ∧ (serve req srv st w).2.disk = w.disk ∧
    (∀ v, st.get? key = some v →
      (serve req srv st w).1.1.1.status = 200 ∧ (serve req srv st w).1.1.1.body = v) ∧
    (st.get? key = none → (serve req srv st w).1.1.1.status = 404) := by
  obtain ⟨srv', hSt, hDisk, hStatus, hBody⟩ := hr.alike st w
    (h := getValue req.target raw) (by decide) ⟨_, by simp [api, hr.hasMethod]; rfl⟩
  obtain ⟨hSt', hW', hSome, hNone, -⟩ := getValue_of_key srv' st w hr.decodes
  refine ⟨hSt.trans hSt', by rw [hDisk, hW'], fun v hv => ?_, fun hv => ?_⟩
  · rw [hStatus, hBody, hSome v hv]
    exact ⟨rfl, rfl⟩
  · rw [hStatus, hNone hv]
    rfl

/-- **`GET /kv` lists the directory.** An admitted `GET /api/v1/kv`, other than a preflight, is
answered with the keys of the directory in its order and their number, and changes nothing. -/
theorem serve_keys (st : Store) (w : World) (hPre : req.isPreflight = false)
    (hAdmit : srv.Admits req) (hMethod : req.method = "GET")
    (hPath : req.target.routePath.toList = byteList "/api/v1/kv") :
    (serve req srv st w).1.2 = st ∧ (serve req srv st w).2.disk = w.disk ∧
    (serve req srv st w).1.1.1.status = 200 ∧
    (serve req srv st w).1.1.1.body = (success (.obj [
      ("keys", .arr (st.keys.keys.map Text.Json.Value.str)),
      ("count", .int st.keys.keys.length)])).body := by
  obtain ⟨srv', h'⟩ := instrument_alike { srv with served := srv.served + 1 } st w "GET"
    "/api/v1/kv" listKeys
  have hApi : api req .keys = instrument "GET" "/api/v1/kv" listKeys := by
    simp [api, hMethod]
  have hAlike := (serve_alike_api hPre (by rw [hMethod]; decide) (by rw [hPath, route_keys])
    hAdmit).trans (hApi ▸ h')
  rw [Alike, listKeys_apply] at hAlike
  exact hAlike

/-! ## The key check -/

/-- **The key check.** With a key configured, a request under `/api/v1` that does not carry it
changes neither the store, nor its files, nor the server's key. A preflight is answered by the
cross-origin rules and a method the router does not know 405, both before the key is looked at;
any other request is answered 401. -/
theorem serve_of_unadmitted (st : Store) (w : World) (hKey : srv.apiKey ≠ "")
    (hUnder : req.UnderApi) (hGiven : req.header "X-API-Key" ≠ srv.apiKey) :
    (serve req srv st w).1.2 = st ∧ (serve req srv st w).2.disk = w.disk ∧
    (serve req srv st w).1.1.2.apiKey = srv.apiKey ∧
    (req.isPreflight = true → (serve req srv st w).1.1.1 = preflight (req.header "Origin")
      (req.header "Access-Control-Request-Method") (req.header "Access-Control-Request-Headers")) ∧
    (req.isPreflight = false → req.method ∉ knownMethods →
      (serve req srv st w).1.1.1.status = 405) ∧
    (req.isPreflight = false → req.method ∈ knownMethods →
      (serve req srv st w).1.1.1.status = 401 ∧
      (serve req srv st w).1.1.1.body = (refusal 401 (if req.header "X-API-Key" = "" then
        "Missing X-API-Key header" else "Invalid API key")).body) := by
  cases hPre : req.isPreflight
  · obtain ⟨hRes, hSt, hDisk, hKeep⟩ := serve_of_dispatch srv st w hPre
    by_cases hm : req.method ∈ knownMethods
    · obtain ⟨r, hr⟩ := route_of_underApi hUnder
      obtain ⟨hRes', hSt', hW', hKeep'⟩ := authorize_of_refused (api req r)
        { srv with served := srv.served + 1 } st w hKey hGiven
      rw [dispatch_of_api hm hr] at hRes hSt hDisk hKeep
      refine ⟨hSt.trans hSt', by rw [hDisk, hW'], hKeep.trans hKeep', nofun,
        fun _ h => absurd hm h, fun _ _ => ?_⟩
      rw [hRes, Response.status_merge, Response.body_merge, hRes']
      exact ⟨rfl, rfl⟩
    · rw [dispatch_of_unknown_method hm] at hRes hSt hDisk hKeep
      exact ⟨hSt, hDisk, hKeep, nofun, fun _ _ => by rw [hRes]; rfl, fun _ h => absurd h hm⟩
  · obtain ⟨hRes, hSt, hDisk, hKeep⟩ := serve_of_preflight srv st w hPre
    exact ⟨hSt, hDisk, hKeep, fun _ => hRes, nofun, nofun⟩

/-- With a key configured, a run of requests under `/api/v1` none of which carries it leaves the
store and its files as they were. -/
theorem serveAll_of_unadmitted (reqs : List Request) (srv : Server) (st : Store) (w : World)
    (hKey : srv.apiKey ≠ "")
    (hReqs : ∀ req ∈ reqs, req.UnderApi ∧ req.header "X-API-Key" ≠ srv.apiKey) :
    (reqs.mapM serve srv st w).1.2 = st ∧ (reqs.mapM serve srv st w).2.disk = w.disk := by
  induction reqs generalizing srv st w with
  | nil => exact ⟨rfl, rfl⟩
  | cons req reqs ih =>
    obtain ⟨hUnder, hGiven⟩ := hReqs req List.mem_cons_self
    obtain ⟨hSt, hDisk, hKeep, -⟩ := serve_of_unadmitted st w hKey hUnder hGiven
    -- the next server has the same key, so the rest of the run is turned away alike
    have hRest := ih (serve req srv st w).1.1.2 (serve req srv st w).1.2 (serve req srv st w).2
      (hKeep ▸ hKey) fun r hr => hKeep ▸ hReqs r (List.mem_cons_of_mem _ hr)
    simp only [List.mapM_cons, bind_apply, pure_apply]
    exact ⟨hRest.1.trans hSt, hRest.2.trans hDisk⟩

/-! ## What serving keeps -/

/-- `m` keeps `P` of the store, and the server's key. -/
def Keeps (P : Store → Prop) (m : ServeM α) : Prop :=
  ∀ srv st w, P st → P (m srv st w).1.2 ∧ (m srv st w).1.1.2.apiKey = srv.apiKey

namespace Keeps

variable {P : Store → Prop}

theorem bind {m : ServeM α} {f : α → ServeM β} (hm : Keeps P m) (hf : ∀ a, Keeps P (f a)) :
    Keeps P (m >>= f) := by
  intro srv st w hP
  obtain ⟨hP', hKey⟩ := hm srv st w hP
  obtain ⟨hP'', hKey'⟩ := hf _ _ _ _ hP'
  exact ⟨hP'', hKey'.trans hKey⟩

theorem pure (a : α) : Keeps P (Pure.pure a : ServeM α) := fun _ _ _ hP => ⟨hP, rfl⟩

theorem get : Keeps P (MonadState.get : ServeM Server) := fun _ _ _ hP => ⟨hP, rfl⟩

theorem measure (g : Registry → Registry) : Keeps P (Server.measure g) :=
  fun _ _ _ hP => ⟨hP, rfl⟩

theorem log (e : Event) : Keeps P (Server.log e) := fun _ _ _ hP => ⟨hP, rfl⟩

theorem store : Keeps P Server.store := fun _ _ _ hP => ⟨hP, rfl⟩

theorem lift {m : StoreM α} (hm : ∀ st w, P st → P (m st w).1.2) :
    Keeps P (monadLift m : ServeM α) := fun _ st w hP => ⟨hm st w hP, rfl⟩

/-- A run of steps that each keep `P` keeps it. -/
theorem mapM {f : α → ServeM β} (l : List α) (hf : ∀ a ∈ l, Keeps P (f a)) :
    Keeps P (l.mapM f) := by
  induction l with
  | nil => exact .pure _
  | cons a l ih =>
    rw [List.mapM_cons]
    exact .bind (hf a List.mem_cons_self) fun _ =>
      .bind (ih fun b hb => hf b (List.mem_cons_of_mem _ hb)) fun _ => .pure _

end Keeps

variable {P : Store → Prop}

theorem countOperation_keeps (op status : String) : Keeps P (countOperation op status) :=
  .measure _

theorem instrument_keeps (method endpoint : String) {h : ServeM Response} (hh : Keeps P h) :
    Keeps P (instrument method endpoint h) :=
  .bind (.measure _) fun _ => .bind hh fun _ => .bind (.measure _) fun _ => .pure _

theorem storeFailure_keeps (op : String) (f : Failure) : Keeps P (storeFailure op f) := by
  unfold storeFailure
  split
  · exact .pure _
  · exact .bind (.log _) fun _ => .pure _

theorem getValue_keeps (t : Target) (raw : ByteArray) : Keeps P (getValue t raw) := by
  unfold getValue
  split
  · exact .pure _
  · refine .bind .store fun st => .bind (countOperation_keeps _ _) fun _ => ?_
    split <;> exact .pure _

theorem authorize_keeps (req : Request) {inner : ServeM Response} (hi : Keeps P inner) :
    Keeps P (authorize req inner) := by
  intro srv st w hP
  by_cases h : srv.Admits req
  · obtain ⟨-, hSt, -, hKey⟩ := authorize_of_granted inner srv st w h
    obtain ⟨hP', hKey'⟩ := hi srv st w hP
    exact ⟨hSt ▸ hP', hKey.trans hKey'⟩
  · obtain ⟨hKey, hGiven⟩ := not_or.mp h
    obtain ⟨-, hSt, -, hKey'⟩ := authorize_of_refused inner srv st w hKey hGiven
    exact ⟨by rw [hSt]; exact hP, hKey'⟩

/-- The store calls the server makes keep `P`. -/
structure KeptByCalls (P : Store → Prop) : Prop where
  set : ∀ key value mode st w, P st → P (Store.set key value mode st w).1.2
  delete : ∀ key st w, P st → P (Store.delete key st w).1.2
  stats : ∀ st w, P st → P (Store.stats st w).1.2

section Kept

variable (hP : KeptByCalls P)
include hP

theorem putValue_keeps (t : Target) (raw body : ByteArray) : Keeps P (putValue t raw body) := by
  unfold putValue
  split
  · exact .pure _
  · split
    · exact .pure _
    · refine .bind (.lift (hP.set _ _ _)) fun r => .bind (countOperation_keeps _ _) fun _ => ?_
      split
      · exact storeFailure_keeps _ _
      · exact .pure _

theorem deleteValue_keeps (t : Target) (raw : ByteArray) : Keeps P (deleteValue t raw) := by
  unfold deleteValue
  split
  · exact .pure _
  · refine .bind (.lift (hP.delete _)) fun r => .bind (countOperation_keeps _ _) fun _ => ?_
    split
    · exact storeFailure_keeps _ _
    · exact .pure _

theorem stats_keeps : Keeps P stats :=
  .bind (.lift hP.stats) fun _ => .bind (.measure _) fun _ => .bind .store fun _ => .pure _

theorem api_keeps (req : Request) (r : ApiRoute) : Keeps P (api req r) := by
  cases r with
  | health =>
    rw [api]
    split
    · exact instrument_keeps _ _ (.bind (.measure _) fun _ => .pure _)
    · exact .pure _
  | keys =>
    rw [api]
    split
    · exact instrument_keeps _ _ (.bind .store fun _ => .pure _)
    · exact .pure _
  | key raw =>
    rw [api]
    split
    · exact instrument_keeps _ _ (getValue_keeps _ _)
    split
    · exact instrument_keeps _ _ (putValue_keeps hP _ _ _)
    split
    · exact instrument_keeps _ _ (deleteValue_keeps hP _ _)
    · exact .pure _
  | stats =>
    rw [api]
    split
    · exact instrument_keeps _ _ (stats_keeps hP)
    · exact .pure _
  | unknown => exact .pure _

theorem dispatch_keeps (req : Request) : Keeps P (dispatch req) := by
  unfold dispatch
  split
  · exact .pure _
  split
  · exact .bind .get fun _ => .pure _
  · exact authorize_keeps req (api_keeps hP req _)
  · split <;> exact .pure _
  · exact .pure _

/-- **Serving a request keeps what the store calls keep**, and the server's key. -/
theorem serve_keeps (req : Request) : Keeps P (serve req) := by
  intro srv st w hSt
  cases hPre : req.isPreflight
  · obtain ⟨-, hS, -, hKey⟩ := serve_of_dispatch srv st w hPre
    obtain ⟨hP', hKey'⟩ := dispatch_keeps hP req _ st w hSt
    exact ⟨hS ▸ hP', hKey.trans hKey'⟩
  · obtain ⟨-, hS, -, hKey⟩ := serve_of_preflight srv st w hPre
    exact ⟨by rw [hS]; exact hSt, hKey⟩

/-- A run of requests keeps what the store calls keep, and the server's key. -/
theorem serveAll_keeps (reqs : List Request) : Keeps P (reqs.mapM serve) :=
  .mapM reqs fun req _ => serve_keeps hP req

end Kept

theorem keptByCalls_true : KeptByCalls fun _ => True :=
  ⟨fun _ _ _ _ _ h => h, fun _ _ _ h => h, fun _ _ h => h⟩

/-- Every store call keeps the key directory sorted. -/
theorem keptByCalls_sorted : KeptByCalls fun st => st.keys.Sorted where
  set key value mode st w h := by
    rcases Store.set_keys key value mode st w with hk | hk
    · rw [hk]
      exact h
    · rw [hk]
      exact h.insert key value
  delete key st w h := by
    rcases Store.delete_keys key st w with hk | hk
    · rw [hk]
      exact h
    · rw [hk]
      exact h.erase key
  stats st w h := by
    rw [Store.stats_keys]
    exact h

/-- **No run changes the key.** -/
theorem serveAll_apiKey (reqs : List Request) :
    (reqs.mapM serve srv st w).1.1.2.apiKey = srv.apiKey :=
  (serveAll_keeps keptByCalls_true reqs srv st w trivial).2

/-- **The key list stays sorted.** From a store whose key directory is sorted, after any run of
requests the directory is still sorted, so the keys `GET /api/v1/kv` lists are increasing. -/
theorem serveAll_sorted (reqs : List Request) (hSorted : st.keys.Sorted) :
    (reqs.mapM serve srv st w).1.2.keys.keys.Pairwise fun a b => compareBytes a b = .lt :=
  KeyDir.keys_sorted (serveAll_keeps keptByCalls_sorted reqs srv st w hSorted).1

/-- After any run, a request under `/api/v1` that does not carry the key the server started with
changes neither the store nor its files. -/
theorem serve_of_unadmitted_after (pre : List Request) (hKey : srv.apiKey ≠ "")
    (hUnder : req.UnderApi) (hGiven : req.header "X-API-Key" ≠ srv.apiKey) :
    let o := pre.mapM serve srv st w
    (serve req o.1.1.2 o.1.2 o.2).1.2 = o.1.2 ∧
      (serve req o.1.1.2 o.1.2 o.2).2.disk = o.2.disk := by
  intro o
  have hKeep : o.1.1.2.apiKey = srv.apiKey := serveAll_apiKey pre
  obtain ⟨hSt, hDisk, -⟩ := serve_of_unadmitted o.1.2 o.2 (hKeep ▸ hKey) hUnder
    (hKeep ▸ hGiven)
  exact ⟨hSt, hDisk⟩

/-! ## The contract -/

/-- What the API promises over a store, for every server, store, world and request. -/
structure ApiContract : Prop where
  /-- With a key configured, a request under `/api/v1` that does not carry it changes neither
  the store nor its files. A preflight and a method the router does not know are answered
  before the key check; any other request is answered 401. -/
  keyChecked : ∀ (srv : Server) (st : Store) (w : World) (req : Request), srv.apiKey ≠ "" →
    req.UnderApi → req.header "X-API-Key" ≠ srv.apiKey →
    (serve req srv st w).1.2 = st ∧ (serve req srv st w).2.disk = w.disk ∧
    (req.isPreflight = true → (serve req srv st w).1.1.1 = preflight (req.header "Origin")
      (req.header "Access-Control-Request-Method") (req.header "Access-Control-Request-Headers")) ∧
    (req.isPreflight = false → req.method ∉ knownMethods →
      (serve req srv st w).1.1.1.status = 405) ∧
    (req.isPreflight = false → req.method ∈ knownMethods →
      (serve req srv st w).1.1.1.status = 401 ∧
      (serve req srv st w).1.1.1.body = (refusal 401 (if req.header "X-API-Key" = "" then
        "Missing X-API-Key header" else "Invalid API key")).body)
  /-- A run of such requests changes neither the store nor its files. -/
  keyCheckedRuns : ∀ (srv : Server) (st : Store) (w : World) (reqs : List Request),
    srv.apiKey ≠ "" → (∀ req ∈ reqs, req.UnderApi ∧ req.header "X-API-Key" ≠ srv.apiKey) →
    (reqs.mapM serve srv st w).1.2 = st ∧ (reqs.mapM serve srv st w).2.disk = w.disk
  /-- The key check holds after any run of requests, admitted or not. -/
  keyCheckedAfterRuns : ∀ (srv : Server) (st : Store) (w : World) (pre : List Request)
    (req : Request), srv.apiKey ≠ "" → req.UnderApi → req.header "X-API-Key" ≠ srv.apiKey →
    let o := pre.mapM serve srv st w
    (serve req o.1.1.2 o.1.2 o.2).1.2 = o.1.2 ∧ (serve req o.1.1.2 o.1.2 o.2).2.disk = o.2.disk
  /-- An admitted `PUT` whose mode parses is the store's set of the whole body. -/
  put : ∀ (srv : Server) (st : Store) (w : World) (req : Request) (raw key : ByteArray)
    (mode : SetMode), KeyRequest srv req "PUT" raw key →
    SetMode.parseBytes? ((queryValue req.target.rawQuery "mode").getD ByteArray.empty) =
      .ok mode →
    (serve req srv st w).1.2 = (Store.set key req.body mode st w).1.2 ∧
    (serve req srv st w).2.disk = (Store.set key req.body mode st w).2.disk ∧
    (∀ c, (Store.set key req.body mode st w).1.1 = .ok c →
      (serve req srv st w).1.1.1.status = 200 ∧
      (serve req srv st w).1.1.1.body = (success (.obj [("changed", .bool c)])).body) ∧
    (∀ f, (Store.set key req.body mode st w).1.1 = .error f →
      (serve req srv st w).1.1.1.status = (clientStatus f).getD 500)
  /-- An admitted `PUT` whose mode does not parse is refused 400 and changes nothing. -/
  putBadMode : ∀ (srv : Server) (st : Store) (w : World) (req : Request) (raw key : ByteArray)
    (f : Failure), KeyRequest srv req "PUT" raw key →
    SetMode.parseBytes? ((queryValue req.target.rawQuery "mode").getD ByteArray.empty) =
      .error f →
    (serve req srv st w).1.2 = st ∧ (serve req srv st w).2.disk = w.disk ∧
    (serve req srv st w).1.1.1.status = 400
  /-- On an open store, an admitted `PUT` with a key or a body over its limit is refused 413 and
  changes nothing: no part of the body is stored. -/
  putTooLarge : ∀ (srv : Server) (st : Store) (w : World) (req : Request) (raw key : ByteArray)
    (mode : SetMode), KeyRequest srv req "PUT" raw key →
    SetMode.parseBytes? ((queryValue req.target.rawQuery "mode").getD ByteArray.empty) =
      .ok mode →
    st.isOpen = true → (maxKeySize < key.size ∨ maxValueSize < req.body.size) →
    (serve req srv st w).1.2 = st ∧ (serve req srv st w).2.disk = w.disk ∧
    (serve req srv st w).1.1.1.status = 413
  /-- An admitted `DELETE` is the store's delete, answered with whether the key was bound. -/
  delete : ∀ (srv : Server) (st : Store) (w : World) (req : Request) (raw key : ByteArray),
    KeyRequest srv req "DELETE" raw key →
    (serve req srv st w).1.2 = (Store.delete key st w).1.2 ∧
    (serve req srv st w).2.disk = (Store.delete key st w).2.disk ∧
    (∀ e, (Store.delete key st w).1.1 = .ok e →
      (serve req srv st w).1.1.1.status = 200 ∧
      (serve req srv st w).1.1.1.body = (success (.obj [("existed", .bool e)])).body) ∧
    (∀ f, (Store.delete key st w).1.1 = .error f →
      (serve req srv st w).1.1.1.status = (clientStatus f).getD 500)
  /-- An admitted `GET` of a key answers exactly its bytes, or 404, and changes nothing. -/
  get : ∀ (srv : Server) (st : Store) (w : World) (req : Request) (raw key : ByteArray),
    KeyRequest srv req "GET" raw key →
    (serve req srv st w).1.2 = st ∧ (serve req srv st w).2.disk = w.disk ∧
    (∀ v, st.get? key = some v →
      (serve req srv st w).1.1.1.status = 200 ∧ (serve req srv st w).1.1.1.body = v) ∧
    (st.get? key = none → (serve req srv st w).1.1.1.status = 404)
  /-- An admitted `GET /api/v1/kv` lists the keys of the directory and changes nothing. -/
  keys : ∀ (srv : Server) (st : Store) (w : World) (req : Request), req.isPreflight = false →
    srv.Admits req → req.method = "GET" →
    req.target.routePath.toList = byteList "/api/v1/kv" →
    (serve req srv st w).1.2 = st ∧ (serve req srv st w).2.disk = w.disk ∧
    (serve req srv st w).1.1.1.status = 200 ∧
    (serve req srv st w).1.1.1.body = (success (.obj [("keys",
      .arr (st.keys.keys.map Text.Json.Value.str)), ("count", .int st.keys.keys.length)])).body
  /-- From a sorted key directory, after any run the keys are listed in increasing order. -/
  keysSorted : ∀ (srv : Server) (st : Store) (w : World) (reqs : List Request),
    st.keys.Sorted →
    (reqs.mapM serve srv st w).1.2.keys.keys.Pairwise fun a b => compareBytes a b = .lt

/-- **The API refines the store behind a key check.** -/
theorem api_contract : ApiContract where
  keyChecked _ _ _ _ hKey hUnder hGiven := by
    obtain ⟨hSt, hDisk, -, hRest⟩ := serve_of_unadmitted _ _ hKey hUnder hGiven
    exact ⟨hSt, hDisk, hRest⟩
  keyCheckedRuns srv st w reqs hKey hReqs := serveAll_of_unadmitted reqs srv st w hKey hReqs
  keyCheckedAfterRuns _ _ _ pre _ hKey hUnder hGiven :=
    serve_of_unadmitted_after pre hKey hUnder hGiven
  put _ st w _ _ _ _ hr hMode := serve_put hr st w hMode
  putBadMode _ st w _ _ _ _ hr hMode := serve_put_bad_mode hr st w hMode
  putTooLarge _ st w _ _ _ _ hr hMode hOpen hLarge := serve_put_too_large hr st w hMode hOpen hLarge
  delete _ st w _ _ _ hr := serve_delete hr st w
  get _ st w _ _ _ hr := serve_get hr st w
  keys _ st w _ hPre hAdmit hMethod hPath := serve_keys st w hPre hAdmit hMethod hPath
  keysSorted _ _ _ reqs hSorted := serveAll_sorted reqs hSorted

/-- With a key configured, a request under `/api/v1` with no key and a method the router does not
know is answered 405, not 401: the router turns it away before the key check. -/
theorem unknown_method_refused_before_key_check :
    let srv : Server := { apiKey := "secret", logger := .nop }
    let st : Store :=
      { path := "/db", log := Log.create "/db" .nop {}, logger := .nop, isOpen := true }
    let w : World := { disk := { cwd := "/" } }
    let req : Request := { method := "FOO", target := ⟨"/api/v1/kv/a".toUTF8, none, ""⟩ }
    req.UnderApi ∧ req.header "X-API-Key" ≠ srv.apiKey ∧
      (serve req srv st w).1.1.1.status = 405 ∧ (serve req srv st w).1.2 = st := by
  intro srv st w req
  have hUnder : req.UnderApi := .inr (by decide +kernel)
  have hGiven : req.header "X-API-Key" ≠ srv.apiKey := by
    simp [req, srv, Request.header]
  have hPre : req.isPreflight = false := by
    simp [req, Request.isPreflight]
  have hm : req.method ∉ knownMethods := by
    simp [req, knownMethods]
  obtain ⟨hSt, -, -, -, hUnknown, -⟩ := serve_of_unadmitted st w (by simp [srv]) hUnder hGiven
  exact ⟨hUnder, hGiven, hUnknown hPre hm, hSt⟩

end Server

end LogStore.Http
