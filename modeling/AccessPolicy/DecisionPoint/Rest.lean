import AccessPolicy.Engine.Deployment
import AccessPolicy.Http.Message
import AccessPolicy.Json.Bind
import AccessPolicy.Xml.Bind
import AccessPolicy.Value.Json
import AccessPolicy.Value.Cast
import AccessPolicy.Decision.Encode
import AccessPolicy.Interceptor.Hive
import AccessPolicy.Interceptor.HBase
import AccessPolicy.Interceptor.HiveOperation
import AccessPolicy.Interceptor.Registry
/-!
# The REST decision point

A decision point answers HTTP requests about a deployed engine:

| route | answers |
|---|---|
| `GET /healthz` | the status, snapshot version, domains and policy count |
| `POST /v1/decision[?probe=bool]` | the decision on a request, with `allow` |
| `POST /v1/reload` | the version after reloading |
| `GET /v1/tags?resource=` | the tags of a resource |
| `POST /v1/tags` | binds a tag through the set store, then reloads |
| `POST /v1/hive/privileges` | whether a hive operation may go ahead |
| `POST /v1/hive/rows` | the rows of a table a principal may see, masked |
| `POST /v1/hbase/scan` | the readable cells of scanned rows |
| `GET /metrics` | the exposition text of the metrics |

A path that is no route is not found (404); a route asked with another method is not allowed
(405), except that `OPTIONS` is answered with no content (204). A `HEAD` request gets the status
of its error with no body.

Bodies are JSON or XML documents bound to the shape of each request. A body of zero length
binds nothing; a form binds nothing; one of another media type is refused. Errors are JSON objects
with the message and, for a field of the request that is wrong, the field; the status is 400
for a wrong request, 403 for a denial and 500 otherwise. The hive and hbase routes need their
interceptor to be configured, and binding tags needs the engine's tag source to be a set store.
-/

namespace AccessPolicy.Rest

open Json (Shape)

def principalShape : Shape :=
  .record "types.Principal" [("user", .text "string"), ("groups", .list "[]string" (.text "string"))]

def decisionShape : Shape :=
  .record "api.DecisionRequest" [("principal", principalShape),
    ("resource", .record "types.ResourcePath"
      [("service", .text "string"), ("segments", .list "[]string" (.text "string"))]),
    ("action", .text "types.Action"), ("rowContext", .anyMap), ("path", .text "string")]

def bindTagShape : Shape :=
  .record "api.BindTagRequest" [("resource", .text "string"), ("tag", .text "string")]

def privilegesShape : Shape :=
  .record "api.HivePrivilegesRequest" [("principal", principalShape),
    ("operation", .text "string"),
    ("objects", .list "[]interceptor.HiveObject" (.record "interceptor.HiveObject"
      [("database", .text "string"), ("table", .text "string"),
        ("columns", .list "[]string" (.text "string"))]))]

def rowsShape : Shape :=
  .record "api.HiveRowsRequest" [("principal", principalShape), ("database", .text "string"),
    ("table", .text "string"), ("rows", .list "[]map[string]interface \x7b\x7d" .anyMap)]
def scanShape : Shape :=
  .record "api.HBaseScanRequest" [("principal", principalShape), ("table", .text "string"),
    ("rows", .list "[]interceptor.Row" (.record "interceptor.Row" [("key", .text "string"),
      ("cells", .list "[]interceptor.Cell" (.record "interceptor.Cell"
        [("family", .text "string"), ("qualifier", .text "string"), ("value", .bytes)]))]))]

/-- The text of a bind error as the server reports it: a status, a message and the error
behind it. -/
def bindErrorText : Json.BindError → String
  | .malformed offset reason =>
    "code=400, message=Syntax error: offset=" ++ toString offset ++ ", error=" ++ reason ++
      ", internal=" ++ reason
  | .mismatch m =>
    "code=400, message=Unmarshal type error: expected=" ++ m.wanted ++ ", got=" ++ m.found ++
      ", field=" ++ m.field ++ ", offset=" ++ toString m.offset ++ ", internal=" ++ m.message
  | e => "code=400, message=" ++ e.message ++ ", internal=" ++ e.message

def plainError (message : String) : String :=
  "code=400, message=" ++ message ++ ", internal=" ++ message

def xmlErrorText : Xml.XmlError → String
  | .malformed line msg =>
    let text := (Xml.XmlError.malformed line msg).message
    "code=400, message=Syntax error: line=" ++ toString line ++ ", error=" ++ text ++ ", internal=" ++ text
  | e => plainError e.message

/-- Binds the body of a request to a shape by its media type: nothing bound for an empty body,
the document for a JSON or an XML body. A form binds nothing, as no field names a form key, once
its body and the query of the target read as forms; a multipart form needs its boundary. Any
other media type is refused. -/
def bindBody (req : Http.Request) (shape : Shape) : Except String Value :=
  if req.contentLength == 0 then .ok shape.zero
  else if req.mediaType == "application/json" then
    (Json.bind shape (req.body.getD "")).mapError bindErrorText
  else if req.mediaType == "application/xml" || req.mediaType == "text/xml" then
    (Xml.bind shape (req.body.getD "")).mapError xmlErrorText
  else if req.mediaType == "application/x-www-form-urlencoded" then
    match (Http.queryError? (req.body.getD "")).orElse fun _ => Http.queryError? req.query with
    | some e => .error (plainError e)
    | none => .ok shape.zero
  else if req.mediaType == "multipart/form-data" then
    if ((req.header "Content-Type").splitOn ";").any fun p =>
        (CharClass.trimBlank p).startsWith "boundary=" then .ok shape.zero
    else .error (plainError "no multipart boundary param in Content-Type")
  else .error "code=415, message=Unsupported Media Type"

def json (status : Nat) (body : Json) : Http.Response :=
  ⟨status, "application/json", Json.line body ++ "\n"⟩

def failure (status : Nat) (message : String) (field : String := "") : Http.Response :=
  json status (.object ([("error", .string message)] ++
    (if field.isEmpty then [] else [("field", .string field)])))

def refused (e : RequestError) : Http.Response :=
  match e with
  | .invalid field _ => failure 400 e.message field

/-- The response to a guard's failure: 403 for a denial, 400 for a wrong request with its
field, 500 otherwise. -/
def guardFailure (e : GuardError) : Http.Response :=
  match e with
  | .denied .. => failure 403 e.message
  | .failed _ _ (.invalid field _) => failure 400 e.message field
  | _ => failure 500 e.message

def principalOf (v : Value) : Principal :=
  ⟨(v.field "user").textOr, (v.field "groups").textsOr⟩

def rowOf (v : Value) : Option Row :=
  match v with
  | .map fs => some fs
  | _ => none

def versionAnswer : Deployed Http.Response := do
  pure (json 200 (.object [("snapshotVersion", Json.nat (← Deployment.snapshot).version)]))

def health : Deployed Http.Response := do
  let s ← Deployment.snapshot
  pure (json 200 (.object [("status", .string "ok"), ("snapshotVersion", Json.nat s.version),
    ("domains", if s.domains.isEmpty then .null else Json.strs s.domains),
    ("policies", Json.nat s.policyCount)]))

def probeOf (req : Http.Request) : Except RequestError Bool :=
  let p := req.param "probe"
  if p.isEmpty then .ok false
  else match Value.boolWord? p with
    | some b => .ok b
    | none => .error (.invalid "probe" (Quote.string p ++ " is not a boolean"))

def decision (req : Http.Request) : Deployed Http.Response := do
  match bindBody req decisionShape with
  | .error msg => pure (failure 400 msg)
  | .ok body =>
    match probeOf req with
    | .error e => pure (refused e)
    | .ok probe =>
      let s ← Deployment.snapshot
      let given := body.field "resource"
      let pathText := (body.field "path").textOr
      let resource := if pathText.isEmpty
        then .ok ⟨(given.field "service").textOr, (given.field "segments").textsOr⟩
        else (s.parsePath pathText).mapError (RequestError.invalid "path")
      match resource with
      | .error e => pure (refused e)
      | .ok path =>
        let request : AccessRequest := ⟨principalOf (body.field "principal"), path,
          (body.field "action").textOr, rowOf (body.field "rowContext")⟩
        match ← Deployment.judge request probe with
        | .error e => pure (refused e)
        | .ok (d, _) =>
          match d.toJson "" with
          | .object ms => pure (json 200 (.object (ms ++ [("allow", .bool d.allowed)])))
          | other => pure (json 200 other)

def reload : Deployed Http.Response := do
  match ← Deployment.reload with
  | .error err => pure (failure 422 err.message)
  | .ok () => versionAnswer

def tags (req : Http.Request) : Deployed Http.Response := do
  let d ← get
  match d.engine.snapshot.parsePath (req.param "resource") with
  | .error e => pure (refused (.invalid "resource" e))
  | .ok path =>
    let tags ← Deployment.tagsFor path
    pure (json 200 (.object [("resource", .string path.text), ("tags", Json.strs tags)]))

def bindTag (req : Http.Request) : Deployed Http.Response := do
  if (← get).engine.store?.isNone then
    pure (failure 501 "no writable tag source configured")
  else
    match bindBody req bindTagShape with
    | .error msg => pure (failure 400 msg)
    | .ok body =>
      let resource := (body.field "resource").textOr
      let tag := (body.field "tag").textOr
      if tag.isEmpty then pure (refused (.invalid "tag" "must not be empty"))
      else
        match (← Deployment.snapshot).parsePath resource with
        | .error e => pure (refused (.invalid "resource" e))
        | .ok _ =>
          match ← Deployment.bindTag resource tag with
          | none => pure (failure 501 "no writable tag source configured")
          | some (.error msg) => pure (failure 502 msg)
          | some (.ok ()) => reload
def noInterceptor : Http.Response := failure 404 "interceptor not configured"

def hivePrivileges (guard : Option HiveGuard) (req : Http.Request) : Deployed Http.Response := do
  match guard with
  | none => pure noInterceptor
  | some h =>
    match bindBody req privilegesShape with
    | .error msg => pure (failure 400 msg)
    | .ok body =>
      match HiveOperation.parse (body.field "operation").textOr with
      | .error e => pure (refused (.invalid "operation" e))
      | .ok op =>
        let objects := (body.field "objects").itemsOr.map fun o =>
          HiveObject.mk (o.field "database").textOr (o.field "table").textOr
            (o.field "columns").textsOr
        match ← h.checkPrivileges Deployment.evaluator (principalOf (body.field "principal"))
            op.name objects with
        | .ok () => pure (json 200 (.object [("allow", .bool true)]))
        | .error e =>
          if e.isDenial then pure (json 403 (.object [("allow", .bool false)]))
          else pure (guardFailure e)

def hiveRows (guard : Option HiveGuard) (req : Http.Request) : Deployed Http.Response := do
  match guard with
  | none => pure noInterceptor
  | some h =>
    match bindBody req rowsShape with
    | .error msg => pure (failure 400 msg)
    | .ok body =>
      let rows := (body.field "rows").itemsOr.map Value.fieldsOr
      match ← h.applyRowPolicies Deployment.evaluator (principalOf (body.field "principal"))
          (body.field "database").textOr (body.field "table").textOr rows with
      | .ok kept => pure (json 200 (.object [("rows", .array (kept.map Value.rowToJson))]))
      | .error e => pure (guardFailure e)

def cellJson (c : Cell) : Json :=
  .object ([("family", .string c.family)] ++
    (if c.qualifier.isEmpty then [] else [("qualifier", .string c.qualifier)]) ++
    (if c.value.isEmpty then [] else [("value", .string (Base64.encode c.value))]))

def hbaseScan (guard : Option HBaseGuard) (req : Http.Request) : Deployed Http.Response := do
  match guard with
  | none => pure noInterceptor
  | some h =>
    match bindBody req scanShape with
    | .error msg => pure (failure 400 msg)
    | .ok body =>
      let rows := (body.field "rows").itemsOr.map fun r =>
        ScanRow.mk (r.field "key").textOr ((r.field "cells").itemsOr.map fun c =>
          Cell.mk (c.field "family").textOr (c.field "qualifier").textOr (c.field "value").bytesOr)
      match ← h.postScan Deployment.evaluator (principalOf (body.field "principal"))
          (body.field "table").textOr rows with
      | .ok kept => pure (json 200 (.object [("rows", .array (kept.map fun r =>
          .object [("key", .string r.key), ("cells", .array (r.cells.map cellJson))]))]))
      | .error e => pure (guardFailure e)

def metrics : Deployed Http.Response := do
  pure ⟨200, Exposition.contentType, (← get).metrics.exposition⟩

def routePaths : List String :=
  ["/healthz", "/v1/decision", "/v1/reload", "/v1/tags", "/v1/hive/privileges", "/v1/hive/rows",
    "/v1/hbase/scan", "/metrics"]

/-- The response to a request no route takes: no content for `OPTIONS` on a route, and else
not found or not allowed, with no body for `HEAD`. -/
def unrouted (req : Http.Request) : Http.Response :=
  let known := routePaths.contains req.path
  if known && req.method == "OPTIONS" then ⟨204, "", ""⟩
  else
    let (status, message) := if known then (405, "Method Not Allowed") else (404, "Not Found")
    if req.method == "HEAD" then ⟨status, "", ""⟩
    else json status (.object [("message", .string message)])
def handle (interceptors : List InterceptorEntry) (req : Http.Request) : Deployed Http.Response :=
  let hive := (interceptors.find? (·.name == "hive")).map fun e => HiveGuard.mk e.service
  let hbase := (interceptors.find? (·.name == "hbase")).map fun e => HBaseGuard.mk e.service
  match req.method, req.path with
  | "GET", "/healthz" => health
  | "POST", "/v1/decision" => decision req
  | "POST", "/v1/reload" => reload
  | "GET", "/v1/tags" => tags req
  | "POST", "/v1/tags" => bindTag req
  | "POST", "/v1/hive/privileges" => hivePrivileges hive req
  | "POST", "/v1/hive/rows" => hiveRows hive req
  | "POST", "/v1/hbase/scan" => hbaseScan hbase req
  | "GET", "/metrics" => metrics
  | _, _ => pure (unrouted req)

end AccessPolicy.Rest
