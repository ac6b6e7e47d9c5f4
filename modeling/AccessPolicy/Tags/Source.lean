import AccessPolicy.Domain.Basic
import AccessPolicy.Tags.SetStore
/-!
# Sources of tag bindings

Besides the bindings its domains declare, a snapshot takes bindings from one outside source,
read afresh at every load:

* a static list, of which the bindings on services the snapshot does not know are dropped;
* a set store under a key prefix `p`: the set `p:tagged` lists tagged resources as
  `service/segment/…`, and the set `p:tags:<resource>` holds the tags of each. Resources and
  tags are read in ascending order, each once; resources of unknown services, or that do not
  read as resources of their service, are skipped. A read that fails fails the whole fetch.

Binding a tag through the store adds the resource to the index set, then the tag to the
resource's set.
-/

namespace AccessPolicy

inductive TagSource where
  | static (bindings : List TagBinding)
  | store (keyPrefix : String) (sets : SetStore)
  deriving Repr, Inhabited

namespace TagSource

def defaultPrefix : String := "dataguard"

def name : TagSource → String
  | .static _ => "static"
  | .store _ _ => "redis"

def indexKey (keyPrefix : String) : String := keyPrefix ++ ":tagged"

def tagsKey (keyPrefix member : String) : String := keyPrefix ++ ":tags:" ++ member

def sortedUnique (xs : List String) : List String :=
  (xs.mergeSort fun a b => decide (a ≤ b)).eraseDups

def readMember (resolve : String → Option Hierarchy) (member : String) : Option ResourcePath :=
  match ResourcePath.parse member 1 with
  | .error _ => none
  | .ok head =>
    match resolve head.service with
    | none => none
    | some h =>
      match ResourcePath.parse member h.depth with
      | .ok path => some path
      | .error _ => none

def fetchStore (resolve : String → Option Hierarchy) (keyPrefix : String) (sets : SetStore) :
    Except String (List TagBinding) := do
  let members ← (sets.members (indexKey keyPrefix)).mapError fun e =>
    "redis tag index " ++ indexKey keyPrefix ++ ": " ++ e
  let perMember ← (sortedUnique members).filterMapM fun member =>
    match readMember resolve member with
    | none => pure none
    | some path => do
      let tags ← (sets.members (tagsKey keyPrefix member)).mapError fun e =>
        "redis tags for " ++ member ++ ": " ++ e
      pure (some ((sortedUnique tags).map fun t => TagBinding.mk path t))
  pure perMember.flatten

def fetch (resolve : String → Option Hierarchy) : TagSource → Except String (List TagBinding)
  | .static bindings => .ok (bindings.filter fun b => (resolve b.resource.service).isSome)
  | .store keyPrefix sets => fetchStore resolve keyPrefix sets

def bind (keyPrefix : String) (sets : SetStore) (resource tag : String) : Except String SetStore := do
  let sets ← sets.add (indexKey keyPrefix) resource
  sets.add (tagsKey keyPrefix resource) tag

end TagSource

end AccessPolicy
