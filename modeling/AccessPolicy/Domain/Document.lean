import AccessPolicy.Domain.Basic
import AccessPolicy.Yaml.Decode
/-!
# Reading policy domain documents

A policy domain is written as a YAML (or JSON) document:

```
apiVersion: dataguard.manetu.io/v1beta1
kind: PolicyDomain
metadata: {name: …}
spec:
  services: [{name, type}]
  policies: [{id, service, description, enabled, resource: {level: pattern}, tag, tags,
              allow: [{users, groups, actions}], deny: […],
              rowFilters: [{users, groups, expression}],
              columnMasks: [{users, groups, column, function, args}]}]
  tags: [{service, resource, tag}]
```

Reading checks the kind first and the version second, each after decoding only those two
fields. Every error is prefixed by the document's source. A policy is enabled unless it says
otherwise; a mask carries the id of its policy; a tag binding is kept when its service is
declared with a known type and its resource reads as a path of that type; the problems of the
others are kept as text.
-/

namespace AccessPolicy

open Yaml

def domainApiVersion : String := "dataguard.manetu.io/v1beta1"
structure DocumentHead where
  apiVersion : String := ""
  kind : String := ""
  deriving Inhabited

structure ServiceEntry where
  name : String := ""
  type : String := ""
  deriving Inhabited

structure ClauseEntry where
  users : List String := []
  groups : List String := []
  actions : List String := []
  deriving Inhabited

structure FilterEntry where
  users : List String := []
  groups : List String := []
  expression : String := ""
  deriving Inhabited

structure MaskEntry where
  users : List String := []
  groups : List String := []
  column : String := ""
  function : String := ""
  args : List String := []
  deriving Inhabited

structure PolicyEntry where
  id : String := ""
  service : String := ""
  description : String := ""
  enabled : Option Bool := none
  resource : List (String × String) := []
  tag : String := ""
  tags : List String := []
  allow : List ClauseEntry := []
  deny : List ClauseEntry := []
  rowFilters : List FilterEntry := []
  columnMasks : List MaskEntry := []
  deriving Inhabited

structure TagEntry where
  service : String := ""
  resource : String := ""
  tag : String := ""
  deriving Inhabited

structure DomainSpec where
  services : List ServiceEntry := []
  policies : List PolicyEntry := []
  tags : List TagEntry := []
  deriving Inhabited

structure DomainDocument where
  name : String := ""
  spec : DomainSpec := {}
  deriving Inhabited

/-! ## Decoders -/

def asStrings : Node → DecodeM (Option (List String)) := asList "[]string" asString

def asDocumentHead : Node → DecodeM (Option DocumentHead) :=
  asRecord "parsers.Preamble" {} fun
    | "apiVersion" => some (setWith asString fun e v => { e with apiVersion := v })
    | "kind" => some (setWith asString fun e v => { e with kind := v })
    | _ => none

def asServiceEntry : Node → DecodeM (Option ServiceEntry) :=
  asRecord "v1beta1.Service" {} fun
    | "name" => some (setWith asString fun e v => { e with name := v })
    | "type" => some (setWith asString fun e v => { e with type := v })
    | _ => none

def asClauseEntry : Node → DecodeM (Option ClauseEntry) :=
  asRecord "v1beta1.Clause" {} fun
    | "users" => some (setWith asStrings fun e v => { e with users := v })
    | "groups" => some (setWith asStrings fun e v => { e with groups := v })
    | "actions" => some (setWith asStrings fun e v => { e with actions := v })
    | _ => none

def asFilterEntry : Node → DecodeM (Option FilterEntry) :=
  asRecord "v1beta1.RowFilter" {} fun
    | "users" => some (setWith asStrings fun e v => { e with users := v })
    | "groups" => some (setWith asStrings fun e v => { e with groups := v })
    | "expression" => some (setWith asString fun e v => { e with expression := v })
    | _ => none

def asMaskEntry : Node → DecodeM (Option MaskEntry) :=
  asRecord "v1beta1.ColumnMask" {} fun
    | "users" => some (setWith asStrings fun e v => { e with users := v })
    | "groups" => some (setWith asStrings fun e v => { e with groups := v })
    | "column" => some (setWith asString fun e v => { e with column := v })
    | "function" => some (setWith asString fun e v => { e with function := v })
    | "args" => some (setWith asStrings fun e v => { e with args := v })
    | _ => none

def asPolicyEntry : Node → DecodeM (Option PolicyEntry) :=
  asRecord "v1beta1.Policy" {} fun
    | "id" => some (setWith asString fun e v => { e with id := v })
    | "service" => some (setWith asString fun e v => { e with service := v })
    | "description" => some (setWith asString fun e v => { e with description := v })
    | "enabled" => some (setWith asBool fun e v => { e with enabled := some v })
    | "resource" => some (setWith asStringMap fun e v => { e with resource := v })
    | "tag" => some (setWith asString fun e v => { e with tag := v })
    | "tags" => some (setWith asStrings fun e v => { e with tags := v })
    | "allow" => some (setWith (asList "[]v1beta1.Clause" asClauseEntry)
        fun e v => { e with allow := v })
    | "deny" => some (setWith (asList "[]v1beta1.Clause" asClauseEntry)
        fun e v => { e with deny := v })
    | "rowFilters" => some (setWith (asList "[]v1beta1.RowFilter" asFilterEntry)
        fun e v => { e with rowFilters := v })
    | "columnMasks" => some (setWith (asList "[]v1beta1.ColumnMask" asMaskEntry)
        fun e v => { e with columnMasks := v })
    | _ => none

def asTagEntry : Node → DecodeM (Option TagEntry) :=
  asRecord "v1beta1.TagBinding" {} fun
    | "service" => some (setWith asString fun e v => { e with service := v })
    | "resource" => some (setWith asString fun e v => { e with resource := v })
    | "tag" => some (setWith asString fun e v => { e with tag := v })
    | _ => none

def asDomainSpec : Node → DecodeM (Option DomainSpec) :=
  asRecord "v1beta1.Spec" {} fun
    | "services" => some (setWith (asList "[]v1beta1.Service" asServiceEntry)
        fun e v => { e with services := v })
    | "policies" => some (setWith (asList "[]v1beta1.Policy" asPolicyEntry)
        fun e v => { e with policies := v })
    | "tags" => some (setWith (asList "[]v1beta1.TagBinding" asTagEntry)
        fun e v => { e with tags := v })
    | _ => none

def asMetadataName : Node → DecodeM (Option String) :=
  asRecord "v1beta1.Metadata" "" fun
    | "name" => some (setWith asString fun _ v => v)
    | _ => none

def asDomainDocument : Node → DecodeM (Option DomainDocument) :=
  asRecord "v1beta1.PolicyDomain" {} fun
    | "apiVersion" => some (setWith asString fun e _ => e)
    | "kind" => some (setWith asString fun e _ => e)
    | "metadata" => some (setWith asMetadataName fun e v => { e with name := v })
    | "spec" => some (setWith asDomainSpec fun e v => { e with spec := v })
    | _ => none

/-! ## From a document to a domain -/

def principalsOf (users groups : List String) : Principals := ⟨users, groups⟩

def PolicyEntry.toPolicy (e : PolicyEntry) : Policy :=
  { id := e.id
    service := e.service
    description := e.description
    enabled := e.enabled.getD true
    resource := e.resource
    tag := e.tag
    tags := e.tags
    allow := e.allow.map fun c => ⟨principalsOf c.users c.groups, c.actions⟩
    deny := e.deny.map fun c => ⟨principalsOf c.users c.groups, c.actions⟩
    rowFilters := e.rowFilters.map fun r => ⟨principalsOf r.users r.groups, r.expression⟩
    columnMasks := e.columnMasks.map fun m =>
      ⟨principalsOf m.users m.groups, m.column, ⟨m.function, m.args, e.id⟩⟩ }

def servicesOf (entries : List ServiceEntry) : List (String × Service) :=
  entries.foldl (fun acc s => (acc.filter (·.1 ≠ s.name)) ++ [(s.name, ⟨s.name, s.type⟩)]) []

/-- The tag bindings of a document and the problems of those that cannot be read. A binding of
a service of unknown type is dropped without a problem: the service itself is reported. -/
def tagBindingsOf (entries : List TagEntry) (services : List (String × Service)) :
    List TagBinding × List String :=
  let step := fun (acc : List TagBinding × List String) ((e, i) : TagEntry × Nat) =>
    let (bindings, problems) := acc
    let head := "tag " ++ toString i ++ " ('" ++ e.tag ++ "'): "
    match services.lookup e.service with
    | none => (bindings, problems ++ [head ++ "unknown service '" ++ e.service ++ "'"])
    | some svc =>
      match ServiceType.ofName? svc.type with
      | none => (bindings, problems)
      | some st =>
        match ResourcePath.parse (e.service ++ "/" ++ e.resource) st.hierarchy.depth with
        | .ok path => (bindings ++ [⟨path, e.tag⟩], problems)
        | .error err => (bindings, problems ++ [head ++ err.message])
  entries.zipIdx.foldl step ([], [])

def DomainDocument.toDomain (source : String) (d : DomainDocument) : Domain :=
  let services := servicesOf d.spec.services
  let (tags, tagErrors) := tagBindingsOf d.spec.tags services
  { name := d.name
    source := source
    services := services
    policies := d.spec.policies.map PolicyEntry.toPolicy
    tags := tags
    tagErrors := tagErrors }
def withSource {α : Type} (source : String) (r : Except String α) : Except String α :=
  r.mapError (fun e => source ++ ": " ++ e)

def Domain.read (source text : String) : Except String Domain := do
  let head ← withSource source (decodeText text asDocumentHead {})
  if head.kind ≠ "PolicyDomain" then
    throw (source ++ ": expected PolicyDomain got '" ++ head.kind ++ "'")
  if head.apiVersion ≠ domainApiVersion then
    throw (source ++ ": unsupported PolicyDomain API Version '" ++ head.apiVersion ++ "'")
  let doc ← withSource source (decodeText text asDomainDocument {})
  return doc.toDomain source

end AccessPolicy
