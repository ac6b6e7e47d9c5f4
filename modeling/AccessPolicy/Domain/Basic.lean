import AccessPolicy.Resource.Path
import AccessPolicy.Mask.Basic
/-!
# Policy domains

A policy domain is a named document of policies over services. It declares

* services, each a name and a type (`hbase`, `hive` or `hdfs`);
* policies, each anchored on a resource pattern of one service or on a tag, with clauses that
  allow or deny actions to users and groups, row filters and column masks for some of them;
* tag bindings, which put a tag on a resource.

The model keeps what the document says, unchecked: validation judges it, and the engine
compiles a valid one.
-/

namespace AccessPolicy

structure Service where
  name : String
  type : String
  deriving Repr, DecidableEq, Inhabited

structure Principals where
  users : List String := []
  groups : List String := []
  deriving Repr, DecidableEq, Inhabited

def Principals.isEmpty (p : Principals) : Bool := p.users.isEmpty ∧ p.groups.isEmpty

structure Clause where
  principals : Principals
  actions : List String
  deriving Repr, DecidableEq, Inhabited

structure FilterRule where
  principals : Principals
  expression : String
  deriving Repr, DecidableEq, Inhabited

structure MaskRule where
  principals : Principals
  column : String
  mask : MaskSpec
  deriving Repr, DecidableEq, Inhabited

structure Policy where
  id : String
  service : String
  description : String
  enabled : Bool
  resource : List (String × String)
  tag : String
  tags : List String
  allow : List Clause
  deny : List Clause
  rowFilters : List FilterRule
  columnMasks : List MaskRule
  deriving Repr, Inhabited

namespace Policy

def tagAnchored (p : Policy) : Bool := !p.tag.isEmpty
def appliesToService (p : Policy) (service : String) : Bool :=
  p.service.isEmpty ∨ p.service = service

end Policy

structure TagBinding where
  resource : ResourcePath
  tag : String
  deriving Repr, DecidableEq, Inhabited

structure Domain where
  name : String
  source : String
  services : List (String × Service)
  policies : List Policy
  tags : List TagBinding
  tagErrors : List String
  deriving Repr, Inhabited

end AccessPolicy
