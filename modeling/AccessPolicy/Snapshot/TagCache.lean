import AccessPolicy.Snapshot.Basic
/-!
# The tag cache

Tag queries may go through a cache that the snapshots of one store share. An answer is kept
under the text `version|service/segment/…` of the snapshot's version and the resource, so it is
found again under the same version and the same resource text. A lookup finds the answer last
kept under its key, or nothing: the cache may drop any entry to make room.

A snapshot's resolver asks the cache first; on a miss it asks the index and keeps the answer.
-/

namespace AccessPolicy
structure TagCache where
  entries : List (String × List String) := []
  deriving DecidableEq, Inhabited

namespace TagCache

def key (version : Nat) (path : ResourcePath) : String :=
  toString version ++ "|" ++ path.text

def get? (c : TagCache) (k : String) : Option (List String) :=
  c.entries.lookup k

def set (c : TagCache) (k : String) (tags : List String) : TagCache :=
  ⟨(k, tags) :: c.entries.filter (·.1 != k)⟩

def drop (c : TagCache) (k : String) : TagCache :=
  ⟨c.entries.filter (·.1 != k)⟩

end TagCache

/-- The tags of a resource through a snapshot's resolver: with a cache, the answer kept under
the snapshot's version and the resource; on a miss, or without a cache, the index's answer,
which a cache then keeps. -/
def Snapshot.tagsThrough (s : Snapshot) (cache : Option TagCache) (path : ResourcePath) :
    List String × Option TagCache :=
  match cache with
  | none => (s.tagsFor path, none)
  | some c =>
    let k := TagCache.key s.version path
    match c.get? k with
    | some tags => (tags, some c)
    | none => (s.tagsFor path, some (c.set k (s.tagsFor path)))

end AccessPolicy
