import AccessPolicy.Domain.Basic
/-!
# Principals

A principal is the user a request is made for, with the groups the user belongs to. A rule
names users and groups; it is for a principal when it names the principal's user or one of its
groups. Every principal belongs to the group `public`, whether it lists it or not.
-/

namespace AccessPolicy
structure Principal where
  user : String
  groups : List String := []
  deriving Repr, DecidableEq, Inhabited

def publicGroup : String := "public"

def Principal.inGroup (p : Principal) (group : String) : Bool :=
  group == publicGroup || p.groups.contains group

def Principals.admits (ps : Principals) (p : Principal) : Bool :=
  ps.users.contains p.user || ps.groups.any p.inGroup

end AccessPolicy
