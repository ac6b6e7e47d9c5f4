/-!
# Stores of named sets

A set store keeps sets of texts under keys, as a key-value server with set values does. Reading a
key that holds nothing gives the empty set; adding a member that is there already changes
nothing. Keys can be marked unavailable: reading or writing one fails, as it does when the
server cannot serve it.
-/

namespace AccessPolicy

structure SetStore where
  sets : List (String × List String) := []
  unavailable : List String := []
  deriving Repr, DecidableEq, Inhabited

namespace SetStore
def members (s : SetStore) (key : String) : Except String (List String) :=
  if s.unavailable.contains key then .error ("injected failure reading " ++ key)
  else .ok ((s.sets.lookup key).getD [])

def add (s : SetStore) (key member : String) : Except String SetStore :=
  if s.unavailable.contains key then .error ("injected failure writing " ++ key)
  else
    let old := (s.sets.lookup key).getD []
    let new := if old.contains member then old else old ++ [member]
    if (s.sets.lookup key).isSome then
      .ok { s with sets := s.sets.map fun (k, v) => if k == key then (k, new) else (k, v) }
    else .ok { s with sets := s.sets ++ [(key, new)] }

def ofLists (sets : List (String × List String)) (unavailable : List String) : SetStore :=
  { sets := sets.map fun (k, v) => (k, v.eraseDups), unavailable := unavailable }
def sorted (s : SetStore) : List (String × List String) :=
  (s.sets.map fun (k, v) => (k, v.mergeSort fun a b => decide (a ≤ b))).mergeSort
    fun a b => decide (a.1 ≤ b.1)

end SetStore

end AccessPolicy
