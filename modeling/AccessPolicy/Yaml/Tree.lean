import AccessPolicy.Yaml.Decode
/-!
# Untyped YAML under the rules of YAML 1.1
-/

namespace AccessPolicy.Yaml

inductive Tree where
  | null
  | bool (b : Bool)
  | int (n : Int)
  | float (x : Binary)
  | text (s : String)
  | list (items : List Tree)
  | map (entries : List (Tree × Tree))
  deriving Repr, Inhabited

namespace Tree

/-- Whether two floats are the same map key: equal numbers, so the two zeros are one key and
no key equals a NaN. -/
def sameFloat (x y : Binary) : Bool :=
  match x, y with
  | .infinity a, .infinity b => a == b
  | .finite .., .finite .. => x.toRat? == y.toRat?
  | _, _ => false

def sameKey : Tree → Tree → Bool
  | .null, .null => true
  | .bool a, .bool b => a == b
  | .int a, .int b => a == b
  | .float x, .float y => sameFloat x y
  | .text a, .text b => a == b
  | _, _ => false

/-- Sets the entry of a key in a map's entries: it replaces the value of the same key, or comes
last. -/
def setEntry (entries : List (Tree × Tree)) (key value : Tree) : List (Tree × Tree) :=
  if entries.any (fun e => sameKey e.1 key) then
    entries.map fun e => if sameKey e.1 key then (e.1, value) else e
  else entries ++ [(key, value)]

def depth : Tree → Nat
  | .list items => 1 + depthOfItems items
  | .map entries => 1 + depthOfEntries entries
  | _ => 1
where
  depthOfItems : List Tree → Nat
    | [] => 0
    | t :: ts => max (depth t) (depthOfItems ts)
  depthOfEntries : List (Tree × Tree) → Nat
    | [] => 0
    | (k, v) :: es => max (max (depth k) (depth v)) (depthOfEntries es)

end Tree

def treeScalar (n : Node) : DecodeM Tree := do
  if n.isIndicatedString then return .text n.text
  match resolveWith knownScalarYaml11? n.tag n.text with
  | .error e => stopDecoding e
  | .ok (tag, v) =>
    match v with
    | .null => return .null
    | .bool b => return .bool b
    | .int i => return .int i
    | .float x => return .float x
    | .timestamp _ => return .text n.text
    | .str s => if tag = "!!binary" then return .text (← binaryText n) else return .text s

mutual
def treeValue : Node → DecodeM Tree
  | .scalar text tag style line => do
    countNode
    treeScalar (.scalar text tag style line)
  | .sequence items _ _ => do
    countNode
    .list <$> treeItems items
  | .mapping entries _ _ => do
    countNode
    .map <$> treeEntries entries []
  | .aliasRef name none _ => do
    countNode
    stopDecoding (selfContained name)
  | .aliasRef _ (some n) _ => insideAlias (treeValue n)

def treeItems : List Node → DecodeM (List Tree)
  | [] => pure []
  | n :: ns => do
    let t ← treeValue n
    pure (t :: (← treeItems ns))

/-- Sets a mapping's entries, in order, into the entries so far; a merge key sets the entries
of what it names at its place. -/
def treeEntries : List (Node × Node) → List (Tree × Tree) → DecodeM (List (Tree × Tree))
  | [], acc => pure acc
  | (k, v) :: es, acc => do
    if isMergeKey k then
      let acc ← treeMerge v acc
      treeEntries es acc
    else
      let key ← treeValue k
      match key with
      | .list _ | .map _ => stopDecoding "invalid map key"
      | _ =>
        let value ← treeValue v
        treeEntries es (Tree.setEntry acc key value)

/-- Sets the entries of a merge key's value: a mapping, an alias of one, or a sequence of those
from the last to the first. -/
def treeMerge : Node → List (Tree × Tree) → DecodeM (List (Tree × Tree))
  | .mapping entries _ _, acc => do
    countNode
    treeEntries entries acc
  | .aliasRef _ (some (.mapping entries _ _)) _, acc => insideAlias do
    countNode
    treeEntries entries acc
  | .aliasRef name none _, _ => do
    countNode
    stopDecoding (selfContained name)
  | .sequence items _ _, acc => treeMergeItems items acc
  | _, _ => stopDecoding mergeRefusal

/-- Sets the entries of the mappings of a merge sequence from the last to the first: those of
the later items first, then those of the first. -/
def treeMergeItems : List Node → List (Tree × Tree) → DecodeM (List (Tree × Tree))
  | [], acc => pure acc
  | n :: ns, acc => do
    let acc ← treeMergeItems ns acc
    match n with
    | .mapping .. | .aliasRef _ none _ | .aliasRef _ (some (.mapping ..)) _ => treeMerge n acc
    | _ => stopDecoding mergeRefusal

end

/-- Reads the first document of a text as a tree under the rules of YAML 1.1; a text without
one is nothing. -/
def readTree (text : String) : Except String Tree :=
  match parseDocument text with
  | .error e => .error e.message
  | .ok none => .ok .null
  | .ok (some root) => decodeRoot treeValue root

end AccessPolicy.Yaml
