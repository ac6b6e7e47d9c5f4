import AccessPolicy.Snapshot.Rule
import AccessPolicy.Order.Stable
/-!
# The tag index

The index answers two questions of a snapshot: which tags a resource carries, and which rules a
tag brings in.

* A binding puts a tag on a resource, keyed by the resource's text; a tag bound twice to the
  same resource counts once. The tags of a resource are those bound to it or to any of its
  ancestors, in ascending order.
* The rules of a tag are the enabled rules anchored on it, ordered by id with a stable sort.
-/

namespace AccessPolicy

structure TagIndex where
  bindings : List (String × List String) := []
  count : Nat := 0
  rules : List (String × List Rule) := []
  deriving Inhabited

def sortRulesById (rs : List Rule) : List Rule :=
  Order.stableSort (fun a b => compareIds a.id b.id == .lt) rs

def appendAt {α : Type} (key : String) (x : α) (m : List (String × List α)) :
    List (String × List α) :=
  if (m.lookup key).isSome then m.map fun (k, v) => if k == key then (k, v ++ [x]) else (k, v)
  else m ++ [(key, [x])]

namespace TagIndex

def bind (idx : TagIndex) (b : TagBinding) : TagIndex :=
  let key := b.resource.text
  if ((idx.bindings.lookup key).getD []).contains b.tag then idx
  else { idx with
    bindings := appendAt key b.tag idx.bindings
    count := idx.count + 1 }

def build (bindings : List TagBinding) (rules : List Rule) : TagIndex :=
  let idx := bindings.foldl bind {}
  let byTag := (rules.filter fun r => r.enabled && r.tagAnchored).foldl
    (fun m r => appendAt r.tag r m) []
  { idx with rules := byTag.map fun (t, rs) => (t, sortRulesById rs) }

/-- The tags bound to a resource or its ancestors, in ascending order; none for a service
without a hierarchy. -/
def tagsFor (idx : TagIndex) (resolve : String → Option Hierarchy) (path : ResourcePath) :
    List String :=
  match resolve path.service with
  | none => []
  | some h =>
    let found := (path.ancestors h).flatMap fun a => (idx.bindings.lookup a.text).getD []
    (found.mergeSort fun a b => decide (a ≤ b)).eraseDups
def rulesFor (idx : TagIndex) (tag : String) : List Rule :=
  (idx.rules.lookup tag).getD []

end TagIndex

end AccessPolicy
