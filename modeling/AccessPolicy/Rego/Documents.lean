import AccessPolicy.Rego.Builtin
/-!
# The document built-ins

Built-ins that take documents apart along paths.
-/

namespace AccessPolicy.Rego

namespace Documents

def unescapeStep (s : String) : String :=
  (s.replace "~1" "/").replace "~0" "~"

def pathSteps : Datum → Option (List Datum)
  | .string s =>
    if s.isEmpty then some []
    else
      let t := String.ofList (s.toList.dropWhile (· = '/'))
      some ((t.splitOn "/").map fun part => .string (unescapeStep part))
  | .array items => some items
  | _ => none

def pathsOf : Datum → Option (List (List Datum))
  | .array items | .set items => items.mapM pathSteps
  | _ => none

def setPair (k v : Datum) : List (Datum × Datum) → List (Datum × Datum)
  | [] => [(k, v)]
  | (k', v') :: rest =>
    match k.compare k' with
    | .lt => (k, v) :: (k', v') :: rest
    | .eq => (k, v) :: rest
    | .gt => (k', v') :: setPair k v rest

/-- A tree of paths with one more path: each step an object key, `null` at the end of a path. -/
def addPath (node : List (Datum × Datum)) : List Datum → List (Datum × Datum)
  | [] => node
  | [k] => setPair k .null node
  | k :: rest =>
    match Datum.lookup k node with
    | none => setPair k (.object (addPath [] rest)) node
    | some (.object sub) => setPair k (.object (addPath sub rest)) node
    | some _ => node

def pathTree (paths : List (List Datum)) : List (Datum × Datum) :=
  paths.foldl addPath []

def placeKey (i : Nat) : Datum := .string (toString i)

mutual

def keep : Datum → Datum → Datum
  | .array items, .object tree => .array (keepItems tree 0 items)
  | .set items, .object tree => Datum.setOf (keepMembers tree items)
  | .object pairs, .object tree => Datum.objectOf (keepPairs tree pairs)
  | v, _ => v
termination_by structural v => v
def keepItems (tree : List (Datum × Datum)) : Nat → List Datum → List Datum
  | _, [] => []
  | i, x :: xs =>
    match Datum.lookup (placeKey i) tree with
    | some sub => keep x sub :: keepItems tree (i + 1) xs
    | none => keepItems tree (i + 1) xs
termination_by structural _ xs => xs
def keepMembers (tree : List (Datum × Datum)) : List Datum → List Datum
  | [] => []
  | x :: xs =>
    match Datum.lookup x tree with
    | some sub => keep x sub :: keepMembers tree xs
    | none => keepMembers tree xs
termination_by structural xs => xs
def keepPairs (tree : List (Datum × Datum)) : List (Datum × Datum) → List (Datum × Datum)
  | [] => []
  | (k, v) :: ps =>
    match Datum.lookup k tree with
    | some sub => (k, keep v sub) :: keepPairs tree ps
    | none => keepPairs tree ps
termination_by structural ps => ps

end

mutual

/-- A value without what the paths of a tree end at; none when a path ends at the value
itself. -/
def drop : Datum → Option Datum → Option Datum
  | v, none => some v
  | _, some .null => none
  | .object pairs, some (.object tree) => some (.object (dropPairs tree pairs))
  | .set items, some (.object tree) => some (Datum.setOf (dropMembers tree items))
  | .array items, some (.object tree) => some (.array (dropItems tree 0 items))
  | v, some _ => some v

def dropItems (tree : List (Datum × Datum)) : Nat → List Datum → List Datum
  | _, [] => []
  | i, x :: xs =>
    match drop x (Datum.lookup (placeKey i) tree) with
    | some y => y :: dropItems tree (i + 1) xs
    | none => dropItems tree (i + 1) xs

def dropMembers (tree : List (Datum × Datum)) : List Datum → List Datum
  | [] => []
  | x :: xs =>
    match drop x (Datum.lookup x tree) with
    | some y => y :: dropMembers tree xs
    | none => dropMembers tree xs

def dropPairs (tree : List (Datum × Datum)) : List (Datum × Datum) → List (Datum × Datum)
  | [] => []
  | (k, v) :: ps =>
    match drop v (Datum.lookup k tree) with
    | some y => (k, y) :: dropPairs tree ps
    | none => dropPairs tree ps

end

/-! ## Patches -/

/-- The place a step names in an array, if it is below `bound`: a decimal text with an optional
sign and no leading zero (`0` itself apart), or an integer. -/
def placeOf (step : Datum) (bound : Nat) : Option Nat := do
  let i ← match step with
    | .string s =>
      let (neg, ds) := match s.toList with
        | '-' :: r => (true, r)
        | '+' :: r => (false, r)
        | r => (false, r)
      if ds.isEmpty || !ds.all Char.isDigit || (s ≠ "0" && s.startsWith "0") then none
      else
        let n : Int := ds.foldl (fun n c => n * 10 + (c.toNat - '0'.toNat)) 0
        some (if neg then -n else n)
    | .number n => integer? n
    | _ => none
  if 0 ≤ i ∧ i < bound then some i.toNat else none

/-- Changes the collection that holds the end of a path by `f`, given it and the last step;
`f` also gives something it found. -/
def atPath {α : Type} (f : Datum → Datum → Option (Datum × α)) :
    Datum → List Datum → Option (Datum × α)
  | _, [] => none
  | target, [key] => f target key
  | target, key :: rest =>
    match target with
    | .object pairs => do
      let child ← Datum.lookup key pairs
      let (c, found) ← atPath f child rest
      some (.object (setPair key c pairs), found)
    | .array items => do
      let i ← placeOf key items.length
      let (c, found) ← atPath f (items.getD i .null) rest
      some (.array (items.set i c), found)
    | .set items =>
      if Datum.memberOf key items then
        (atPath f key rest).map fun (c, found) =>
          (Datum.setOf (c :: items.filter fun x => !x.same key), found)
      else none
    | _ => none

def addUnder (value parent key : Datum) : Option (Datum × Unit) :=
  match parent with
  | .object pairs => some (.object (setPair key value pairs), ())
  | .array items =>
    let place := if key.same (.string "-") then some items.length else placeOf key (items.length + 1)
    place.map fun i => (.array (items.take i ++ value :: items.drop i), ())
  | .set items => if key.same value then some (Datum.setOf (key :: items), ()) else none
  | _ => none

def takeUnder (parent key : Datum) : Option (Datum × Datum) :=
  match parent with
  | .object pairs =>
    (Datum.lookup key pairs).map fun v => (.object (pairs.filter fun (k, _) => !k.same key), v)
  | .array items =>
    (placeOf key items.length).map fun i => (.array (items.eraseIdx i), items.getD i .null)
  | .set items =>
    if Datum.memberOf key items then some (.set (items.filter fun x => !x.same key), key) else none
  | _ => none

def under (parent key : Datum) : Option (Datum × Datum) :=
  match parent with
  | .object pairs => (Datum.lookup key pairs).map (parent, ·)
  | .array items => (placeOf key items.length).map fun i => (parent, items.getD i .null)
  | .set items => if Datum.memberOf key items then some (parent, key) else none
  | _ => none

def addAt (doc : Datum) (path : List Datum) (value : Datum) : Option Datum :=
  if path.isEmpty then some value else (atPath (addUnder value) doc path).map (·.1)

def takeAt (doc : Datum) (path : List Datum) : Option (Datum × Datum) :=
  atPath takeUnder doc path

def valueAt (doc : Datum) (path : List Datum) : Option Datum :=
  if path.isEmpty then some doc else (atPath under doc path).map (·.2)
def properPrefix (a b : List Datum) : Bool :=
  a.length < b.length && (a.zip b).all fun (x, y) => x.same y

def applyPatch (doc : Datum) (patch : Datum) : Option Datum := do
  let pairs ← match patch with
    | .object pairs => some pairs
    | _ => none
  let attr := fun (name : String) => Datum.lookup (.string name) pairs
  let op ← match attr "op" with
    | some (.string op) => some op
    | _ => none
  let path ← (attr "path").bind pathSteps
  match op with
  | "add" => addAt doc path (← attr "value")
  | "remove" => (takeAt doc path).map (·.1)
  | "replace" => do
    let value ← attr "value"
    let (rest, _) ← takeAt doc path
    addAt rest path value
  | "move" => do
    let source ← (attr "from").bind pathSteps
    if properPrefix source path then none
    let (rest, moved) ← takeAt doc source
    addAt rest path moved
  | "copy" => do
    let source ← (attr "from").bind pathSteps
    let copied ← valueAt doc source
    addAt doc path copied
  | "test" => do
    let expected ← attr "value"
    let actual ← valueAt doc path
    if actual.same expected then some doc else none
  | _ => none

/-! ## Writing with options -/

structure WriteOptions where
  pretty : Bool
  pre : String
  unit : String
  deriving Repr, Inhabited

def writeOptions (pairs : List (Datum × Datum)) : Option WriteOptions := do
  let (explicit, implicit, opts) ← pairs.foldlM (fun (acc : Option Bool × Bool × WriteOptions) (k, v) =>
    let (explicit, implicit, opts) := acc
    match k, v with
    | .string "prefix", .string p => some (explicit, true, { opts with pre := p })
    | .string "indent", .string i => some (explicit, true, { opts with unit := i })
    | .string "pretty", .bool b => some (some b, implicit, opts)
    | _, _ => none) (none, false, { pretty := false, pre := "", unit := "\t" })
  some { opts with pretty := explicit.getD implicit }

def writeWith (opts : WriteOptions) (d : Datum) : String :=
  let j := Value.toJson d.toValue
  if opts.pretty then opts.pre ++ Json.indentedWith true opts.pre opts.unit 0 j
  else Json.compact true j

/-! ## Walking -/

mutual

def walk (path : List Datum) : Datum → List (List Datum × Datum)
  | .array items => (path, .array items) :: walkItems path 0 items
  | .object pairs => (path, .object pairs) :: walkPairs path pairs
  | .set items => (path, .set items) :: walkMembers path items
  | v => [(path, v)]

def walkItems (path : List Datum) : Nat → List Datum → List (List Datum × Datum)
  | _, [] => []
  | i, x :: xs => walk (path ++ [.number (toString i)]) x ++ walkItems path (i + 1) xs

def walkPairs (path : List Datum) : List (Datum × Datum) → List (List Datum × Datum)
  | [] => []
  | (k, v) :: ps => walk (path ++ [k]) v ++ walkPairs path ps

def walkMembers (path : List Datum) : List Datum → List (List Datum × Datum)
  | [] => []
  | x :: xs => walk (path ++ [x]) x ++ walkMembers path xs

end

/-- The values of a call of a document built-in: several for `walk`, one for the others, none
when the call fails or the function is not one of these. -/
def applyAll (name : String) (args : List Datum) : Option (List Datum) :=
  match name, args with
  | "walk", [d] => some ((walk [] d).map fun (p, v) => .array [.array p, v])
  | _, _ => none

/-- The value of a call of a document built-in that has one value; none when the call fails or
the function is not one of these. -/
def apply (name : String) (args : List Datum) : Option Datum :=
  match name, args with
  | "json.filter", [.object pairs, paths] => do
    let ps ← pathsOf paths
    some (keep (.object pairs) (.object (pathTree ps)))
  | "json.remove", [.object pairs, paths] => do
    let ps ← pathsOf paths
    drop (.object pairs) (some (.object (pathTree ps)))
  | "json.patch", [doc, .array patches] => patches.foldlM applyPatch doc
  | "json.marshal_with_options", [d, .object opts] => do
    let o ← writeOptions opts
    some (.string (writeWith o d))
  | _, _ => none

end Documents

end AccessPolicy.Rego
