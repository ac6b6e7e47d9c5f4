import AccessPolicy.Decision.Principal
import AccessPolicy.RowFilter.Filter
/-!
# Requests, decisions and access records

A request asks whether a principal may do an action on a resource, optionally with one row to
judge. The decision says ALLOW or DENY, which policies decided it, and for ALLOW the row filter
and column masks that go with it. Every decision that is not a probe leaves an access record:
who asked for what, the tags of the resource, the outcome and every policy that took part.

Judging a request passes through fixed phases: collecting candidates, judging the principal,
judging conditions (only on ALLOW), and decided.
-/

namespace AccessPolicy

inductive Outcome where
  | allow
  | deny
  deriving Repr, DecidableEq, Inhabited

def Outcome.text : Outcome → String
  | .allow => "ALLOW"
  | .deny => "DENY"

inductive Phase where
  | collecting
  | evaluatingPrincipal
  | evaluatingConditions
  | decided
  deriving Repr, DecidableEq, Inhabited

def Phase.text : Phase → String
  | .collecting => "COLLECTING"
  | .evaluatingPrincipal => "EVALUATING_PRINCIPAL"
  | .evaluatingConditions => "EVALUATING_CONDITIONS"
  | .decided => "DECIDED"

inductive Origin where
  | resource
  | tag
  deriving Repr, DecidableEq, Inhabited

def Origin.text : Origin → String
  | .resource => "RESOURCE"
  | .tag => "TAG"

structure Reference where
  id : String
  origin : Origin
  tag : String
  outcome : Outcome
  deriving Repr, DecidableEq, Inhabited

structure AccessRequest where
  principal : Principal
  resource : ResourcePath
  action : String
  rowContext : Option Row := none
  deriving Repr, Inhabited

inductive RequestError where
  | invalid (field reason : String)
  deriving Repr, DecidableEq, Inhabited

def RequestError.message : RequestError → String
  | .invalid field reason => "invalid request: " ++ field ++ ": " ++ reason

structure Decision where
  outcome : Outcome
  appliedPolicyIds : List String
  rowFilter : Option RowFilter.Filter
  columnMasks : List (String × List MaskSpec)
  snapshotVersion : Nat
  phase : Phase
  rowMatch : Option Bool
  deriving Repr, Inhabited

namespace Decision

def allowed (d : Decision) : Bool := d.outcome == .allow

def maskedColumns (d : Decision) : List String :=
  (d.columnMasks.map (·.1)).mergeSort fun a b => decide (a ≤ b)

def rowFilterText (d : Decision) : String :=
  (d.rowFilter.map RowFilter.Filter.text).getD ""

def rowVisible (d : Decision) (row : Row) : Bool :=
  d.allowed && RowFilter.passes d.rowFilter row

def maskRow (d : Decision) (row : Row) : Row :=
  row.map fun (k, v) => match d.columnMasks.lookup k with
    | some specs => (k, applyMasks specs v)
    | none => (k, v)

def applyToRows (d : Decision) (rows : List Row) : List Row :=
  let visible := RowFilter.visibleRows d.rowFilter rows
  if d.columnMasks.isEmpty then visible else visible.map d.maskRow

end Decision

structure AccessRecord where
  subject : String
  groups : List String
  action : String
  resource : String
  tags : List String
  outcome : Outcome
  references : List Reference
  rowFilter : String
  maskedColumns : List String
  snapshotVersion : Nat
  deriving Repr, Inhabited

end AccessPolicy
