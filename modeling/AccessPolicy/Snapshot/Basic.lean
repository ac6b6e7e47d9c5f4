import AccessPolicy.Snapshot.TagIndex
import AccessPolicy.Tags.Source
import AccessPolicy.Domain.Document
/-!
# Snapshots

A snapshot is the fixed, versioned view of every loaded policy that decisions read. Loading a
set of domains into one:

1. validates them together; any failure rejects the set, reported as a malformed policy of
   the set's source (the one domain's source, or `policy domains`);
2. merges their services, a later domain's declaration of a name winning;
3. compiles every policy into a rule; failures are collected and reject the set the same way;
4. orders the enabled resource rules of each service by id;
5. fetches the outside tag source's bindings, if there is one, and indexes them after the
   domains' own bindings.
-/

namespace AccessPolicy

inductive LoadError where
  | unreadable (source reason : String)
  | invalid (source : String) (errors : List ValidationError)
  | tagSource (name reason : String)
  | unavailable (reason : String)
  deriving Repr, Inhabited

namespace LoadError

def malformed (source reason : String) : String :=
  if source.isEmpty then "malformed policy: " ++ reason
  else "malformed policy in " ++ source ++ ": " ++ reason

def message : LoadError → String
  | .unreadable source reason => malformed source reason
  | .invalid source errors => malformed source (validationText errors)
  | .tagSource name reason => "tag source " ++ name ++ ": " ++ reason
  | .unavailable reason => reason
def failures : LoadError → List ValidationError
  | .invalid _ errors => errors
  | _ => []

def isMalformed : LoadError → Bool
  | .unreadable .. | .invalid .. => true
  | _ => false

end LoadError

structure Snapshot where
  version : Nat
  domains : List String
  services : List (String × Service)
  rules : List Rule
  resourceRules : List (String × List Rule)
  tags : TagIndex
  tagSources : List String
  deriving Inhabited

def sourceOf (domains : List Domain) : String :=
  match domains with
  | [d] => d.source
  | _ => "policy domains"

def declareService (m : List (String × Service)) (kv : String × Service) :
    List (String × Service) :=
  if (m.lookup kv.1).isSome then m.map fun e => if e.1 == kv.1 then kv else e else m ++ [kv]

namespace Snapshot
def service? (s : Snapshot) (name : String) : Option (Service × Hierarchy) :=
  match s.services.lookup name with
  | none => none
  | some svc => (ServiceType.ofName? svc.type).map fun t => (svc, t.hierarchy)

def hierarchy? (s : Snapshot) (name : String) : Option Hierarchy :=
  (s.service? name).map (·.2)
def serviceNames (s : Snapshot) : List String :=
  (s.services.map (·.1)).mergeSort fun a b => decide (a ≤ b)

/-- Reads `service/segment/…` with the hierarchy of its service; a path of a recursive service
is made absolute. -/
def parsePath (s : Snapshot) (text : String) : Except String ResourcePath := do
  let head ← (ResourcePath.parse text 1).mapError PathError.message
  match s.hierarchy? head.service with
  | none => .error ("unknown service '" ++ head.service ++ "'")
  | some h =>
    let path ← (ResourcePath.parse text h.depth).mapError PathError.message
    match h.recursive, path.segments with
    | true, first :: rest =>
      if first.startsWith "/" then pure path else pure { path with segments := ("/" ++ first) :: rest }
    | _, _ => pure path
def resourceRulesOf (s : Snapshot) (service : String) : List Rule :=
  (s.resourceRules.lookup service).getD []
def rulesForTag (s : Snapshot) (tag : String) : List Rule :=
  s.tags.rulesFor tag

def tagsFor (s : Snapshot) (path : ResourcePath) : List String :=
  s.tags.tagsFor s.hierarchy? path
def policyCount (s : Snapshot) : Nat :=
  (s.rules.map (·.id)).eraseDups.length

def tagBindingCount (s : Snapshot) : Nat :=
  s.tags.count

/-- Compiles the policies of the domains against the merged services: the rules, or the
failures of all policies that do not compile. -/
def compileAll (services : List (String × Service)) (domains : List Domain) :
    Except (List ValidationError) (List Rule) :=
  let results := domains.flatMap fun d => d.policies.map fun p =>
    ((p.compile ((services.lookup p.service).getD ⟨"", ""⟩)).mapError
      fun e => ValidationError.predicate d.name p.id e)
  let errors := results.filterMap fun r => match r with
    | .error e => some e
    | .ok _ => none
  if errors.isEmpty then .ok (results.filterMap fun r => match r with
    | .ok rule => some rule
    | .error _ => none)
  else .error errors

def build (version : Nat) (domains : List Domain) (source : Option TagSource) :
    Except LoadError Snapshot := do
  let services := (domains.flatMap (·.services)).foldl declareService []
  let rules ← (compileAll services domains).mapError (LoadError.invalid (sourceOf domains))
  let resourceRules := (services.map (·.1)).filterMap fun name =>
    match rules.filter (·.onResourcesOf name) with
    | [] => none
    | rs => some (name, sortRulesById rs)
  let base : Snapshot := {
    version := version
    domains := domains.map (·.name)
    services := services
    rules := rules
    resourceRules := resourceRules
    tags := {}
    tagSources := [] }
  let own := domains.flatMap (·.tags)
  match source with
  | none => pure { base with tags := TagIndex.build own rules }
  | some src =>
    let extra ← (src.fetch base.hierarchy?).mapError (LoadError.tagSource src.name)
    pure { base with
      tags := TagIndex.build (own ++ extra) rules
      tagSources := [src.name] }

def ofDomains (version : Nat) (domains : List Domain) (source : Option TagSource) :
    Except LoadError Snapshot :=
  match validateDomains domains with
  | [] => build version domains source
  | errors => .error (.invalid (sourceOf domains) errors)

end Snapshot

end AccessPolicy
