import AccessPolicy.Engine.Deployment
import AccessPolicy.Http.Message
import AccessPolicy.Decision.Encode
/-!
# Authorization checks for a proxy

A proxy asks, before it forwards an HTTP request, whether the request may go ahead. The
request names its principal in headers: the user in `x-dataguard-user` (trimmed; required),
the groups in `x-dataguard-groups` (split at commas, trimmed, empty ones dropped). The action
is the `x-dataguard-action` header, else follows from the method: `GET`, `HEAD` and `OPTIONS`
read, `POST` creates, `PUT` and `PATCH` write, `DELETE` drops. The resource is the path before
any `?`, its escapes decoded and its slashes at both ends trimmed, read with the snapshot.

The answer carries a status code of the remote call and what the proxy does:

| case | code | the proxy |
|---|---|---|
| no user | 16 | answers 401 with `missing x-dataguard-user header` |
| a wrong request | 3 | answers 400 with the message |
| DENY | 7 | answers 403 with `permission denied` and the decision's id |
| ALLOW | 0 | forwards with the decision's id, and passes on the decision as metadata |
-/

namespace AccessPolicy.ProxyCheck

structure CheckRequest where
  method : String
  path : String
  headers : List (String × String)
  deriving Repr, Inhabited

inductive Verdict where
  | forward (headers : List (String × String))
  | answer (status : Nat) (body : String) (headers : List (String × String))
  deriving Repr, Inhabited

structure CheckResponse where
  code : Nat
  message : String
  verdict : Verdict
  metadata : Option Json := none
  deriving Repr, Inhabited

def resultHeader : String := "x-ext-authz-check-result"

def decisionHeader : String := "x-dataguard-decision-id"

/-- The answer that refuses a request with a code, an HTTP status and a message, and headers
after the result's. -/
def deny (code status : Nat) (message : String) (headers : List (String × String) := []) :
    CheckResponse :=
  ⟨code, message, .answer status message ([(resultHeader, "denied")] ++ headers), none⟩

def methodAction? (method : String) : Option Action :=
  match CharClass.upperText method with
  | "GET" | "HEAD" | "OPTIONS" => some .read
  | "POST" => some .create
  | "PUT" | "PATCH" => some .write
  | "DELETE" => some .drop
  | _ => none
def trimSlashes (s : String) : String :=
  String.ofList ((s.toList.dropWhile (· == '/')).reverse.dropWhile (· == '/')).reverse

/-- The decision passed on to the proxy: its id, policies, snapshot version, and its row
filter and masks when it has them. -/
def metadataOf (id : String) (d : Decision) : Json :=
  .object [("dataguard", .object ([("decisionId", .string id),
      ("appliedPolicyIds", Json.strs d.appliedPolicyIds),
      ("snapshotVersion", Json.nat d.snapshotVersion)] ++
    (match d.rowFilter with
      | some f => [("rowFilter", .string f.text)]
      | none => []) ++
    (if d.columnMasks.isEmpty then []
    else [("columnMasks", .object (d.columnMasks.map fun (c, ms) => (c, .array (ms.map fun m =>
      .object [("function", .string m.function), ("args", Json.strs m.args)]))))])))]

namespace CheckRequest

/-- A header's value; an absent header reads as empty. -/
def header (req : CheckRequest) (name : String) : String := (req.headers.lookup name).getD ""

def user (req : CheckRequest) : String := CharClass.trimBlank (req.header "x-dataguard-user")

def groups (req : CheckRequest) : List String :=
  ((req.header "x-dataguard-groups").splitOn ",").map CharClass.trimBlank |>.filter (!·.isEmpty)

/-- The action asked for: the action header, else the method's action. -/
def action (req : CheckRequest) : Except RequestError String :=
  match req.header "x-dataguard-action" with
  | "" => match methodAction? req.method with
    | some a => pure a.name
    | none => throw (.invalid "method" ("no action for method " ++ Quote.string req.method))
  | a => pure a

/-- The resource the path names: the path before any `?`, its escapes decoded and its slashes
at both ends trimmed, read with the snapshot. -/
def resource (s : Snapshot) (req : CheckRequest) : Except RequestError ResourcePath := do
  let decoded ← (Http.unescape false (Http.cut req.path '?').1).mapError (RequestError.invalid "path")
  (s.parsePath (trimSlashes decoded)).mapError (RequestError.invalid "path")

end CheckRequest

/-- The access request a check asks about; none without a user. -/
def accessRequest (s : Snapshot) (req : CheckRequest) : Option (Except RequestError AccessRequest) :=
  if req.user.isEmpty then none
  else some do
    let action ← req.action
    let path ← req.resource s
    pure ⟨⟨req.user, req.groups⟩, path, action, none⟩
def check (id : String) (req : CheckRequest) : Deployed CheckResponse := do
  match accessRequest (← Deployment.snapshot) req with
  | none => pure (deny 16 401 "missing x-dataguard-user header")
  | some (.error e) => pure (deny 3 400 e.message)
  | some (.ok request) =>
    match ← Deployment.judge request false with
    | .error e => pure (deny 3 400 e.message)
    | .ok (d, _) =>
      if d.allowed then
        pure ⟨0, "", .forward [(resultHeader, "allowed"), (decisionHeader, id)],
          some (metadataOf id d)⟩
      else pure (deny 7 403 "permission denied" [(decisionHeader, id)])

end AccessPolicy.ProxyCheck
