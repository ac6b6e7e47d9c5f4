import AccessPolicy.Decision.Principal
import AccessPolicy.Domain.Validation
import AccessPolicy.RowFilter.Predicate
/-!
# Rules

A rule is a policy made ready for decisions: its clauses' action names read as action sets,
its resource read as a pattern of its service's hierarchy, and its row filter expressions
parsed. A policy that validation accepted always compiles; compiling reports the first part
that does not, in that order: allow clauses, deny clauses, the resource, the row filters.
-/

namespace AccessPolicy

structure Grant where
  principals : Principals
  actions : ActionSet
  deriving Repr, DecidableEq, Inhabited
def Grant.applies (g : Grant) (p : Principal) (a : Action) : Bool :=
  g.actions.has a && g.principals.admits p

structure FilterGrant where
  principals : Principals
  predicate : RowFilter.Predicate
  deriving Repr, DecidableEq, Inhabited

structure Rule where
  id : String
  service : String
  enabled : Bool
  tag : String
  allow : List Grant
  deny : List Grant
  pattern : Option Pattern
  rowFilters : List FilterGrant
  columnMasks : List MaskRule
  deriving Inhabited

namespace Rule

def tagAnchored (r : Rule) : Bool := !r.tag.isEmpty

def appliesToService (r : Rule) (service : String) : Bool :=
  r.service.isEmpty || r.service == service

def onResourcesOf (r : Rule) (service : String) : Bool :=
  r.enabled && !r.tagAnchored && r.service == service

end Rule

def Clause.compile (c : Clause) : Except String Grant :=
  (ActionSet.parse c.actions).map fun s => ⟨c.principals, s⟩

def FilterRule.compile (f : FilterRule) : Except String FilterGrant :=
  match RowFilter.Predicate.compile f.expression with
  | .ok p => .ok ⟨f.principals, p⟩
  | .error e => .error (e.message f.expression)

def Policy.compile (svc : Service) (p : Policy) : Except String Rule := do
  let allow ← p.allow.mapM Clause.compile
  let deny ← p.deny.mapM Clause.compile
  let pattern ← if p.tagAnchored then pure none else some <$> resourcePattern svc p.resource
  let rowFilters ← p.rowFilters.mapM FilterRule.compile
  pure {
    id := p.id
    service := p.service
    enabled := p.enabled
    tag := p.tag
    allow := allow
    deny := deny
    pattern := pattern
    rowFilters := rowFilters
    columnMasks := p.columnMasks }

end AccessPolicy
