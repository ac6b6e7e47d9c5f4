/-!
# JSON documents

A JSON document keeps its numbers as the numerals they were written with, so that a number read
and written again keeps its spelling, and an object keeps its members in order (members are
looked up by their last occurrence, as a map read from the document would hold them).
-/

namespace AccessPolicy

inductive Json where
  | null
  | bool (b : Bool)
  | number (numeral : String)
  | string (s : String)
  | array (items : List Json)
  | object (members : List (String × Json))
  deriving Repr, Inhabited, BEq

namespace Json

def get? (j : Json) (key : String) : Option Json :=
  match j with
  | .object ms => (ms.reverse.find? (·.1 == key)).map (·.2)
  | _ => none

def getString? (j : Json) (key : String) : Option String :=
  match j.get? key with
  | some (.string s) => some s
  | _ => none

def getBool? (j : Json) (key : String) : Option Bool :=
  match j.get? key with
  | some (.bool b) => some b
  | _ => none

def getArray? (j : Json) (key : String) : Option (List Json) :=
  match j.get? key with
  | some (.array xs) => some xs
  | _ => none

def members (j : Json) : List (String × Json) :=
  match j with
  | .object ms =>
    let keys := ms.foldl (fun acc (k, _) => if acc.contains k then acc else acc ++ [k]) []
    keys.filterMap fun k => (j.get? k).map (k, ·)
  | _ => []
def strings (xs : List Json) : List String :=
  xs.filterMap fun
    | .string s => some s
    | _ => none

def obj (ms : List (String × Json)) : Json := .object ms

def nat (n : Nat) : Json := .number (toString n)

def int (n : Int) : Json := .number (toString n)

def strs (xs : List String) : Json := .array (xs.map .string)

end Json

end AccessPolicy
