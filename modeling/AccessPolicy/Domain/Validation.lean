import AccessPolicy.Domain.Basic
import AccessPolicy.Resource.Pattern
import AccessPolicy.Resource.Action
import AccessPolicy.RowFilter.Parse
/-!
# Validating policy domains

A set of domains is valid when

* every service has a name and a known type, and a service name declared by several domains has
  one type in all;
* policy ids are unique across the domains;
* every domain has a name, and every policy an id, exactly one anchor (a resource or a tag), a
  service that is declared (required for a resource anchor), a resource pattern that compiles
  against its service's hierarchy, at least one clause, clauses with principals and valid
  actions, no principal both allowed and denied an action, and row filters and column masks
  only beside an allow clause, each with principals, a predicate that parses, a column and a
  mask that checks;
* every tag binding could be read and names a tag.

Validation reports every failure, in that order, each with the domain, the entity and field it
concerns, and a kind: `schema`, `conflict` or `predicate`.
-/

namespace AccessPolicy

structure ValidationError where
  domain : String
  kind : String
  entity : String
  entityId : String
  field : String
  message : String
  deriving Repr, DecidableEq, Inhabited

namespace ValidationError

def text (e : ValidationError) : String :=
  let parts := (if e.domain.isEmpty then [] else ["domain '" ++ e.domain ++ "'"]) ++
    (if e.entity.isEmpty ∨ e.entityId.isEmpty then [] else [e.entity ++ " '" ++ e.entityId ++ "'"]) ++
    (if e.field.isEmpty then [] else ["field '" ++ e.field ++ "'"])
  (if parts.isEmpty then "" else "in " ++ " ".intercalate parts ++ ": ") ++ e.message

def schema (domain entity entityId field message : String) : ValidationError :=
  ⟨domain, "schema", entity, entityId, field, message⟩

def conflict (domain entity entityId message : String) : ValidationError :=
  ⟨domain, "conflict", entity, entityId, "", message⟩

def predicate (domain policyId message : String) : ValidationError :=
  ⟨domain, "predicate", "policy", policyId, "rowFilters", message⟩

end ValidationError

def orUnknown (s : String) : String := if s.isEmpty then "unknown" else s

def validationText (errs : List ValidationError) : String :=
  match errs with
  | [] => "no validation errors"
  | [e] => e.text
  | _ =>
    "validation failed with " ++ toString errs.length ++ " errors:\n" ++
      String.join (errs.zipIdx.map fun (e, i) =>
        "  " ++ toString (i + 1) ++ ". [" ++ orUnknown e.kind ++ "] " ++ e.text ++ "\n")

def countBy (key : ValidationError → String) (errs : List ValidationError) :
    List (String × Nat) :=
  let keys := (errs.map (orUnknown ∘ key)).eraseDups.mergeSort (fun a b => decide (a ≤ b))
  keys.map fun k => (k, (errs.filter fun e => orUnknown (key e) = k).length)

def validationSummary (errs : List ValidationError) : String :=
  if errs.isEmpty then "No validation errors"
  else
    let counts (title : String) (cs : List (String × Nat)) :=
      "\n" ++ title ++ ":\n" ++
        String.join (cs.map fun (k, n) => "  " ++ k ++ ": " ++ toString n ++ " errors\n")
    "Validation Summary: " ++ toString errs.length ++ " errors found\n" ++
      counts "By Domain" (countBy (·.domain) errs) ++ counts "By Type" (countBy (·.kind) errs)
def Domain.serviceNames (d : Domain) : List String :=
  (d.services.map (·.1)).mergeSort (fun a b => decide (a ≤ b))

/-- Notes a service a domain declares against the services known so far, each with the domain
that declared it last: a service with a name and a known type is remembered, replacing an earlier
declaration of the same type; a missing name, an unknown type or a second type is reported. -/
def noteService (domain : String) (acc : List ValidationError × List (String × Service × String))
    (svc : Service) : List ValidationError × List (String × Service × String) :=
  let (errs, known) := acc
  if svc.name.isEmpty then
    (errs ++ [.schema domain "service" "" "name" "service name is required"], known)
  else if (ServiceType.ofName? svc.type).isNone then
    (errs ++ [.schema domain "service" svc.name "type" ("unknown service type '" ++ svc.type ++
      "' (expected one of " ++ ", ".intercalate ServiceType.names ++ ")")], known)
  else match known.lookup svc.name with
    | some (prev, owner) =>
      if prev.type ≠ svc.type then
        (errs ++ [.conflict domain "service" svc.name ("declared as '" ++ svc.type ++
          "' here and as '" ++ prev.type ++ "' in domain '" ++ owner ++ "'")], known)
      else (errs, (known.filter (·.1 ≠ svc.name)) ++ [(svc.name, svc, domain)])
    | none => (errs, known ++ [(svc.name, svc, domain)])

/-- Checks the services of all domains, giving the failures and the services that count: each
name with a known type, with the type it was first declared with. -/
def checkServices (domains : List Domain) : List ValidationError × List (String × Service × String) :=
  domains.foldl (fun acc d =>
    d.serviceNames.foldl (fun acc name =>
      noteService d.name acc ((d.services.lookup name).getD ⟨name, ""⟩)) acc) ([], [])

/-- Notes the id of a policy of a domain against the ids seen so far, with the domain that
defined each: a new id is remembered, an id seen before is reported. -/
def noteId (domain : String) (acc : List ValidationError × List (String × String))
    (p : Policy) : List ValidationError × List (String × String) :=
  let (errs, seen) := acc
  if p.id.isEmpty then (errs, seen)
  else match seen.lookup p.id with
    | some other => (errs ++ [.conflict domain "policy" p.id
        ("duplicate policy id (also defined in domain '" ++ other ++ "')")], seen)
    | none => (errs, seen ++ [(p.id, domain)])
def checkPolicyIds (domains : List Domain) : List ValidationError :=
  (domains.foldl (fun acc d => d.policies.foldl (noteId d.name) acc)
    (([] : List ValidationError), ([] : List (String × String)))).1

/-- The pattern a policy's resource declares for a service: each level must be one of the
hierarchy's, and the levels set must be the first ones. -/
def resourcePattern (svc : Service) (resource : List (String × String)) : Except String Pattern :=
  match ServiceType.ofName? svc.type with
  | none => .error ("unknown service type '" ++ svc.type ++ "'")
  | some st =>
    let h := st.hierarchy
    match resource.find? (fun (level, _) => !h.levels.contains level) with
    | some (level, _) =>
      .error ("'" ++ level ++ "' is not a level of " ++ svc.type ++ " resources (expected " ++
        ", ".intercalate h.levels ++ ")")
    | none =>
      let present := h.levels.takeWhile fun l => (resource.lookup l).isSome
      if present.length ≠ resource.length then
        .error ("'" ++ (h.levels.getD present.length "") ++ "' must be set when deeper levels are set")
      else
        (Pattern.compile svc.name h (present.map fun l => (resource.lookup l).getD "")).mapError
          PatternError.message

def overlap (a b : Principals) : List String :=
  (a.users.flatMap fun u => (b.users.filter (· = u)).map fun _ => "user '" ++ u ++ "'") ++
    (a.groups.flatMap fun g => (b.groups.filter (· = g)).map fun _ => "group '" ++ g ++ "'")

def checkClauses (domain id kind : String) (clauses : List Clause) : List ValidationError :=
  clauses.zipIdx.flatMap fun (c, i) =>
    let field := kind ++ "[" ++ toString i ++ "]"
    let who := if c.principals.isEmpty then
        [.schema domain "policy" id field "clause requires users or groups"] else []
    if c.actions.isEmpty then who ++ [.schema domain "policy" id field "clause requires actions"]
    else match ActionSet.parse c.actions with
      | .ok _ => who
      | .error e => who ++ [.schema domain "policy" id field e]

def checkContradictions (domain : String) (p : Policy) : List ValidationError :=
  p.allow.flatMap fun allow =>
    match ActionSet.parse allow.actions with
    | .error _ => []
    | .ok allowed => p.deny.flatMap fun deny =>
      match ActionSet.parse deny.actions with
      | .error _ => []
      | .ok denied =>
        let common : ActionSet := ⟨(Action.all.filter fun a => allowed.has a ∧ denied.has a).foldl
          (fun n a => n + a.bit) 0⟩
        if common.bits = 0 then []
        else (overlap allow.principals deny.principals).map fun who =>
          .conflict domain "policy" p.id
            ("contradictory clauses: " ++ who ++ " is both allowed and denied " ++ common.text)
def checkPolicy (domain : String) (services : List (String × Service × String)) (p : Policy) :
    List ValidationError :=
  let err := ValidationError.schema domain "policy" p.id
  let hasResource := !p.resource.isEmpty
  let idErr := if p.id.isEmpty then [err "id" "policy id is required"] else []
  let anchorErr :=
    if hasResource ∧ p.tagAnchored then
      [err "resource" "a policy is anchored by resource or by tag, not both"]
    else if !hasResource ∧ !p.tagAnchored then [err "resource" "a policy requires a resource or a tag"]
    else []
  let svc := if p.service.isEmpty then none else (services.lookup p.service).map (·.1)
  let serviceErr :=
    if !p.service.isEmpty then
      if svc.isNone then [err "service" ("unknown service '" ++ p.service ++ "'")] else []
    else if hasResource then [err "service" "resource policies require a service"]
    else []
  let patternErr := match svc with
    | some s =>
      if hasResource ∧ !s.name.isEmpty then
        match resourcePattern s p.resource with
        | .ok _ => []
        | .error e => [err "resource" e]
      else []
    | none => []
  let clauseErr :=
    (if p.allow.isEmpty ∧ p.deny.isEmpty then
      [err "allow" "a policy requires at least one allow or deny clause"] else []) ++
    checkClauses domain p.id "allow" p.allow ++ checkClauses domain p.id "deny" p.deny ++
    checkContradictions domain p
  let ruleErr :=
    if p.allow.isEmpty ∧ (!p.rowFilters.isEmpty ∨ !p.columnMasks.isEmpty) then
      [err "rowFilters" "row filters and column masks require an allow clause"] else []
  let filterErr := p.rowFilters.zipIdx.flatMap fun (rf, i) =>
    (if rf.principals.isEmpty then
      [err ("rowFilters[" ++ toString i ++ "]") "row filter requires users or groups"] else []) ++
    (match RowFilter.parse rf.expression with
      | .ok _ => []
      | .error e => [.predicate domain p.id (e.message rf.expression)])
  let maskErr := p.columnMasks.zipIdx.flatMap fun (cm, i) =>
    let field := "columnMasks[" ++ toString i ++ "]"
    (if cm.principals.isEmpty then [err field "column mask requires users or groups"] else []) ++
    (if cm.column.isEmpty then [err field "column mask requires a column"] else []) ++
    (match cm.mask.check with
      | .ok () => []
      | .error e => [err field e.message])
  idErr ++ anchorErr ++ serviceErr ++ patternErr ++ clauseErr ++ ruleErr ++ filterErr ++ maskErr
def checkDomain (services : List (String × Service × String)) (d : Domain) :
    List ValidationError :=
  (if d.name.isEmpty then
    [.schema d.source "domain" "" "metadata.name" "domain name is required"] else []) ++
  d.policies.flatMap (checkPolicy d.name services) ++
  d.tagErrors.map (fun problem => .schema d.name "tag" "" "resource" problem) ++
  (d.tags.filter (·.tag.isEmpty)).map fun b =>
    .schema d.name "tag" b.resource.text "tag" "tag name is required"

def validateDomains (domains : List Domain) : List ValidationError :=
  let (serviceErrs, services) := checkServices domains
  serviceErrs ++ checkPolicyIds domains ++ domains.flatMap (checkDomain services)

/-- The failures of the last domain of a name, judged against the services of all domains; an
error when no domain has the name. -/
def validateDomainNamed (domains : List Domain) (name : String) :
    Except String (List ValidationError) :=
  match (domains.filter (·.name = name)).getLast? with
  | none => .error ("domain '" ++ name ++ "' not found")
  | some d => .ok (checkDomain (checkServices domains).2 d)

end AccessPolicy
