import AccessPolicy.GraphQL.Schema
import AccessPolicy.Number.Binary
/-!
# Checking GraphQL queries against a schema
-/

namespace AccessPolicy.GraphQL

def typenameField : FieldDef :=
  { description := "", name := "__typename", type := .named "String" false, args := [],
    default := none, directives := [] }

def introspectionField? : String → Option FieldDef
  | "__schema" => some
      { description := "", name := "__schema", type := .named "__Schema" true,
        args := [], default := none, directives := [] }
  | "__type" =>
    let arg : InputValueDef :=
      { description := "", name := "name", type := .named "String" true, default := none,
        directives := [] }
    some
      { description := "", name := "__type", type := .named "__Type" false,
        default := none, directives := [], args := [arg] }
  | _ => none

def Schema.fieldOf (s : Schema) (parent : Option TypeDef) (n : String) : Option FieldDef :=
  if n == "__typename" then some typenameField
  else
    match parent with
    | none => none
    | some p =>
      match p.fields.find? (·.name == n) with
      | some f => some f
      | none => if s.query == some p.name then introspectionField? n else none
def TypeDef.isLeaf (d : TypeDef) : Bool := d.kind == .scalar || d.kind == .enum

def TypeDef.isComposite (d : TypeDef) : Bool :=
  d.kind == .object || d.kind == .interface || d.kind == .union

def distinctNames (ns : List String) : Bool := ns.eraseDups.length == ns.length

/-- The type a variable's type fits where another is expected: the same named type or list of
such, and non-null where the expected one is. -/
def fits : TypeRef → TypeRef → Bool
  | .named t tn, .named o on_ => t == o && (!on_ || tn)
  | .list t tn, .list o on_ => fits t o && (!on_ || tn)
  | _, _ => false

def TypeRef.nullable : TypeRef → TypeRef
  | .named n _ => .named n false
  | .list e _ => .list e false

structure Context where
  schema : Schema
  doc : QueryDocument
  operation : Option Operation := none

/-- What a walk finds: whether all is well so far, the variables of the operation used, the
fragments walked in this walk, and the fragments spread where they count as used. -/
structure Walk where
  ok : Bool := true
  used : List String := []
  walked : List String := []
  spread : List String := []
  counting : Bool := true

abbrev WalkM := StateM Walk

def check (b : Bool) : WalkM Unit :=
  if b then pure () else modify fun w => { w with ok := false }

def intFits (raw : String) : Bool :=
  match raw.toInt? with
  | some n => -(Int.pow 2 63) ≤ n && n < Int.pow 2 63
  | none => false

def floatFits (raw : String) : Bool :=
  match Numeral.read? raw with
  | some n => (Binary.ofNumeral .double n).isFinite
  | none => false

def rawFits (c : Context) : Nat → Value → Bool
  | 0, _ => true
  | fuel + 1, v =>
    match v with
    | .int raw => intFits raw
    | .float raw => floatFits raw
    | .list items => items.all (rawFits c fuel)
    | .object fields => fields.all fun f => rawFits c fuel f.2
    | .variable n =>
      match c.operation.bind fun op => (op.variableDefs.find? (·.name == n)).bind (·.default) with
      | some d => rawFits c fuel d
      | none => true
    | _ => true

def valueFits (c : Context) (expected : Option TypeRef) (v : Value) : Bool :=
  match expected with
  | none => true
  | some t =>
    match c.schema.type? t.name with
    | none => true
    | some d =>
      let builtInScalar := ["Int", "Float", "String", "Boolean", "ID"].contains d.name
      match v with
      | .null => !t.nonNull
      | _ =>
        if d.kind == .scalar && !builtInScalar then true
        else
          rawFits c 64 v &&
          match v with
          | .list _ => match t with
            | .list .. => true
            | .named .. => false
          | .int _ => ["Int", "Float", "ID"].contains d.name
          | .float _ => d.name == "Float"
          | .string _ | .block _ => d.kind != .enum && (d.name == "String" || d.name == "ID")
          | .enum n => d.kind == .enum && d.enumValues.any (·.name == n)
          | .boolean _ => d.name == "Boolean"
          | .object fields =>
            d.fields.all (fun f => !f.type.nonNull || fields.any (·.1 == f.name) || f.default.isSome) &&
            fields.all fun fv => d.fields.any (·.name == fv.1)
          | _ => true

mutual

def walkValue (c : Context) (expected : Option TypeRef) : Value → WalkM Unit
  | .variable n => do
    match c.operation with
    | some op =>
      match op.variableDefs.find? (·.name == n) with
      | some vd =>
        modify fun w => { w with used := w.used ++ [n] }
        match expected with
        | some t =>
          let t := if vd.default.isSome && !(match vd.default with | some .null => true | _ => false)
            then t.nullable else t
          check (fits vd.type t)
        | none => pure ()
      | none => check false
    | none => pure ()
    check (valueFits c expected (.variable n))
  | .object fields => do
    let d := expected.bind fun t => c.schema.type? t.name
    walkFields c d fields
    check (distinctNames (fields.map (·.1)))
    check (valueFits c expected (.object fields))
  | .list items => do
    let inner := match expected with
      | some (.list e _) => some e
      | _ => none
    walkItems c inner items
    check (valueFits c expected (.list items))
  | v => check (valueFits c expected v)

def walkItems (c : Context) (expected : Option TypeRef) : List Value → WalkM Unit
  | [] => pure ()
  | v :: vs => do
    walkValue c expected v
    walkItems c expected vs

def walkFields (c : Context) (d : Option TypeDef) : List (String × Value) → WalkM Unit
  | [] => pure ()
  | (n, v) :: fs => do
    let expected := d.bind fun d => (d.fields.find? (·.name == n)).map (·.type)
    walkValue c expected v
    walkFields c d fs

end

def walkDirectives (c : Context) (dirs : List Directive) (location : String) : WalkM Unit := do
  for dir in dirs do
    let def_ := c.schema.directive? dir.name
    for (n, v) in dir.args do
      walkValue c (def_.bind fun d => (d.args.find? (·.name == n)).map (·.type)) v
    match def_ with
    | none => check false
    | some d =>
      check (d.locations.contains location)
      check (dir.args.all fun a => d.args.any (·.name == a.1))
      check (d.args.all fun a => !a.type.nonNull || a.default.isSome || dir.args.any (·.1 == a.name))
    check (distinctNames (dir.args.map (·.1)))
  let names := dirs.map (·.name)
  check ((List.range names.length).all fun i =>
    let n := names.getD i ""
    n == "repeatable" || !(names.take i).contains n)

/-- Whether a fragment on a type can be spread on another: some possible type of each is the
same. -/
def spreadPossible (c : Context) (parent : Option TypeDef) (cond : String) : Bool :=
  match parent with
  | none => true
  | some p =>
    if !(p.kind == .object || p.kind == .interface || p.kind == .union) then true
    else
      let parents := if p.kind == .object then [p.name] else c.schema.possibleOf p.name
      match c.schema.type? cond with
      | none => true
      | some f =>
        if !f.isComposite then true
        else (c.schema.possibleOf f.name).any parents.contains

def walkSelections (c : Context) (parent : Option TypeDef) : Nat → List Selection → WalkM Unit
  | 0, _ => pure ()
  | _ + 1, [] => pure ()
  | fuel + 1, sel :: rest => do
    match sel with
    | .field _ n args ds sub =>
      let def_ := c.schema.fieldOf parent n
      let next := def_.bind fun f => c.schema.type? f.type.name
      for (an, v) in args do
        walkValue c (def_.bind fun f => (f.args.find? (·.name == an)).map (·.type)) v
      walkDirectives c ds "FIELD"
      walkSelections c next fuel sub
      check (parent.isNone || def_.isSome)
      match def_ with
      | some f =>
        if parent.isSome then check (args.all fun a => f.args.any (·.name == a.1))
        check (f.args.all fun a => !a.type.nonNull || a.default.isSome || args.any (·.1 == a.name))
        match c.schema.type? f.type.name with
        | some t =>
          if t.isLeaf then check sub.isEmpty else check !sub.isEmpty
        | none => pure ()
      | none => pure ()
      check (distinctNames (args.map (·.1)))
    | .inline cond ds sub =>
      let next := if cond.isEmpty then parent else c.schema.type? cond
      walkDirectives c ds "INLINE_FRAGMENT"
      walkSelections c next fuel sub
      match c.schema.type? cond with
      | some t => check t.isComposite
      | none => check cond.isEmpty
      check (spreadPossible c parent cond)
    | .spread n ds =>
      let frag := c.doc.fragments.find? (·.name == n)
      walkDirectives c ds "FRAGMENT_SPREAD"
      match frag with
      | some f =>
        if !(← get).walked.contains n then
          modify fun w => { w with walked := w.walked ++ [n] }
          walkSelections c (c.schema.type? f.typeCondition) fuel f.selections
        check (spreadPossible c parent f.typeCondition)
      | none => check false
      if (← get).counting then modify fun w => { w with spread := w.spread ++ [n] }
    walkSelections c parent fuel rest

/-- The names of the top fields of a selection set, through inline fragments and spread
fragments, each once. -/
def topFields (doc : QueryDocument) : Nat → List String → List Selection → List String
  | 0, _, _ => []
  | _ + 1, _, [] => []
  | fuel + 1, seen, sel :: rest =>
    match sel with
    | .field _ n _ _ _ => n :: topFields doc fuel seen rest
    | .inline _ _ sub => topFields doc fuel seen sub ++ topFields doc fuel seen rest
    | .spread n _ =>
      match doc.fragments.find? (·.name == n) with
      | some f =>
        if seen.contains n then topFields doc fuel seen rest
        else topFields doc fuel (n :: seen) f.selections ++ topFields doc fuel (n :: seen) rest
      | none => []

/-! ## Fields that can be merged -/

/-- A field as the merge check sees it: its response key, name, arguments, the type it is
selected on, its definition, and its selections with the type they are on. -/
structure FieldAt where
  key : String
  name : String
  args : List (String × Value)
  parent : Option TypeDef
  def_ : Option FieldDef
  sub : List Selection
  subParent : Option TypeDef
  deriving Inhabited

/-- The fields of a selection set on a type, through inline fragments, and the fragments it
spreads. -/
def collectFields (s : Schema) (parent : Option TypeDef) : Nat → List Selection →
    List FieldAt × List String
  | 0, _ => ([], [])
  | _ + 1, [] => ([], [])
  | fuel + 1, sel :: rest =>
    let (fs, ss) := collectFields s parent fuel rest
    match sel with
    | .field aliasName n args _ sub =>
      let d := s.fieldOf parent n
      (⟨aliasName, n, args, parent, d, sub, d.bind fun f => s.type? f.type.name⟩ :: fs, ss)
    | .inline cond _ sub =>
      let next := if cond.isEmpty then parent else s.type? cond
      let (gs, ts) := collectFields s next fuel sub
      (gs ++ fs, ts ++ ss)
    | .spread n _ => (fs, n :: ss)

/-- Whether two argument lists are the same: the same length, and each argument of the first
in the second with a value of the same kind and text. -/
def sameArgs (a b : List (String × Value)) : Bool :=
  let same (x y : Value) : Bool :=
    match x, y with
    | .variable m, .variable n => m == n
    | .int m, .int n => m == n
    | .float m, .float n => m == n
    | .string m, .string n => m == n
    | .block m, .block n => m == n
    | .boolean m, .boolean n => m == n
    | .null, .null => true
    | .enum m, .enum n => m == n
    | .list _, .list _ => true
    | .object _, .object _ => true
    | _, _ => false
  a.length == b.length && a.all fun x => b.any fun y => x.1 == y.1 && same x.2 y.2

/-- Whether two field types conflict: a list against a non-list, different nullability of
named types, or different leaf types. -/
def typesConflict (s : Schema) : TypeRef → TypeRef → Bool
  | .list a _, .list b _ => typesConflict s a b
  | .list .., .named .. | .named .., .list .. => true
  | .named a an, .named b bn =>
    if an != bn then true
    else
      match s.type? a, s.type? b with
      | some x, some y => if x.isLeaf && y.isLeaf then a != b else false
      | _, _ => false

def fragmentNamed? (doc : QueryDocument) (n : String) : Option Fragment :=
  doc.fragments.find? (·.name == n)

mutual
def fieldsConflict (s : Schema) (doc : QueryDocument) (excl : Bool) (a b : FieldAt) : Nat → Bool
  | 0 => false
  | fuel + 1 =>
    match a.parent, b.parent with
    | some pa, some pb =>
      let excl := excl || (pa.name != pb.name && pa.kind == .object && pb.kind == .object &&
        a.def_.isSome && b.def_.isSome)
      if !excl && (a.name != b.name || !sameArgs a.args b.args) then true
      else if (match a.def_, b.def_ with
          | some x, some y => typesConflict s x.type y.type
          | _, _ => false) then true
      else if !a.sub.isEmpty && !b.sub.isEmpty then
        setsConflict s doc excl (a.subParent, a.sub) (b.subParent, b.sub) fuel
      else false
    | _, _ => false

def listsConflict (s : Schema) (doc : QueryDocument) (excl : Bool) (as bs : List FieldAt) :
    Nat → Bool
  | 0 => false
  | fuel + 1 =>
    as.any fun a => bs.any fun b => a.key == b.key && fieldsConflict s doc excl a b fuel

/-- Whether the fields of a list conflict with those of a spread fragment and the fragments it
spreads. -/
def fragmentConflicts (s : Schema) (doc : QueryDocument) (excl : Bool) (fs : List FieldAt)
    (seen : List String) (n : String) : Nat → Bool
  | 0 => false
  | fuel + 1 =>
    if seen.contains n then false
    else
      match fragmentNamed? doc n with
      | none => false
      | some f =>
        let (gs, spreads) := collectFields s (s.type? f.typeCondition) fuel f.selections
        listsConflict s doc excl fs gs fuel ||
          spreads.any fun m => m != n && fragmentConflicts s doc excl fs (n :: seen) m fuel

def fragmentsConflict (s : Schema) (doc : QueryDocument) (excl : Bool) (a b : String)
    (seen : List (String × String)) : Nat → Bool
  | 0 => false
  | fuel + 1 =>
    if a == b || seen.contains (a, b) then false
    else
      match fragmentNamed? doc a, fragmentNamed? doc b with
      | some fa, some fb =>
        let (ga, sa) := collectFields s (s.type? fa.typeCondition) fuel fa.selections
        let (gb, sb) := collectFields s (s.type? fb.typeCondition) fuel fb.selections
        let seen := (a, b) :: seen
        listsConflict s doc excl ga gb fuel ||
          sb.any (fun m => fragmentsConflict s doc excl a m seen fuel) ||
          sa.any (fun m => fragmentsConflict s doc excl m b seen fuel)
      | _, _ => false
def setsConflict (s : Schema) (doc : QueryDocument) (excl : Bool)
    (a b : Option TypeDef × List Selection) : Nat → Bool
  | 0 => false
  | fuel + 1 =>
    let (fa, sa) := collectFields s a.1 fuel a.2
    let (fb, sb) := collectFields s b.1 fuel b.2
    listsConflict s doc excl fa fb fuel ||
      sb.any (fun n => fragmentConflicts s doc excl fa [] n fuel) ||
      sa.any (fun n => fragmentConflicts s doc excl fb [] n fuel) ||
      sa.any fun x => sb.any fun y => fragmentsConflict s doc excl x y [] fuel

end

/-- Whether the fields of a selection set on a type conflict among themselves or with the
fragments it spreads. -/
def setConflicts (s : Schema) (doc : QueryDocument) (parent : Option TypeDef)
    (sels : List Selection) (fuel : Nat) : Bool :=
  let (fs, spreads) := collectFields s parent fuel sels
  let pairs := (List.range fs.length).any fun i =>
    let a := fs.getD i default
    (fs.drop (i + 1)).any fun b => a.key == b.key && fieldsConflict s doc false a b fuel
  pairs ||
    spreads.any (fun n => fragmentConflicts s doc false fs [] n fuel) ||
    (List.range spreads.length).any fun i =>
      (spreads.drop (i + 1)).any fun m => fragmentsConflict s doc false (spreads.getD i "") m [] fuel

/-- Whether any selection set of a selection set on a type, itself included, has fields that
cannot be merged. -/
def anyConflicts (s : Schema) (doc : QueryDocument) (parent : Option TypeDef) (fuel : Nat) :
    Nat → List Selection → Bool
  | 0, _ => false
  | depth + 1, sels =>
    setConflicts s doc parent sels fuel ||
      sels.any fun sel => match sel with
        | .field _ n _ _ sub =>
          let next := (s.fieldOf parent n).bind fun f => s.type? f.type.name
          !sub.isEmpty && anyConflicts s doc next fuel depth sub
        | .inline cond _ sub =>
          anyConflicts s doc (if cond.isEmpty then parent else s.type? cond) fuel depth sub
        | .spread .. => false

/-! ## Fragment cycles -/

def spreadsIn : Nat → List Selection → List String
  | 0, _ => []
  | _ + 1, [] => []
  | fuel + 1, sel :: rest =>
    (match sel with
      | .field _ _ _ _ sub => spreadsIn fuel sub
      | .inline _ _ sub => spreadsIn fuel sub
      | .spread n _ => [n]) ++ spreadsIn fuel rest

def reachesCycle (doc : QueryDocument) (size : Nat) : Nat → List String → String → Bool
  | 0, _, _ => false
  | fuel + 1, path, n =>
    if path.contains n then true
    else
      match fragmentNamed? doc n with
      | some f => (spreadsIn size f.selections).any (reachesCycle doc size fuel (n :: path))
      | none => false

/-! ## Depth of introspection -/

def memberLists : List String := ["fields", "interfaces", "possibleTypes", "inputFields"]

/-- Whether a selection set, at a depth of member lists, nests them three deep; `visited` are
the fragments on the path. -/
def listsTooDeep (doc : QueryDocument) : Nat → List String → Nat → List Selection → Bool
  | 0, _, _, _ => false
  | fuel + 1, visited, depth, sels =>
    sels.any fun sel => match sel with
      | .field _ name _ _ sub =>
        if memberLists.contains name then
          depth + 1 ≥ 3 || listsTooDeep doc fuel visited (depth + 1) sub
        else listsTooDeep doc fuel visited depth sub
      | .spread n _ =>
        if visited.contains n then false
        else
          match fragmentNamed? doc n with
          | some f => listsTooDeep doc fuel (n :: visited) depth f.selections
          | none => false
      | .inline _ _ sub => listsTooDeep doc fuel visited depth sub

/-- Whether some `__schema` or `__type` field of a selection set, at any depth, nests member
lists too deep. -/
def introspectionTooDeep (doc : QueryDocument) : Nat → List Selection → Bool
  | 0, _ => false
  | fuel + 1, sels =>
    sels.any fun sel => match sel with
      | .field _ name _ _ sub =>
        ((name == "__schema" || name == "__type") && listsTooDeep doc fuel [] 0 sub) ||
          introspectionTooDeep doc fuel sub
      | .spread .. => false
      | .inline _ _ sub => introspectionTooDeep doc fuel sub

/-! ## Documents -/

def Schema.rootOf (s : Schema) (kind : String) : Option TypeDef :=
  let n := match kind with
    | "mutation" => s.mutation
    | "subscription" => s.subscription
    | _ => s.query
  n.bind s.type?

def walkOperation (c : Context) (op : Operation) (fuel : Nat) : WalkM Unit := do
  let c := { c with operation := some op }
  modify fun w => { w with used := [], walked := [] }
  for v in op.variableDefs do
    check (c.schema.type? v.type.name).isSome
  let root := c.schema.rootOf op.kind
  let location := match op.kind with
    | "mutation" => "MUTATION"
    | "subscription" => "SUBSCRIPTION"
    | _ => "QUERY"
  for v in op.variableDefs do
    match v.default with
    | some d => walkValue c (some v.type) d
    | none => pure ()
    walkDirectives c v.directives "VARIABLE_DEFINITION"
  walkDirectives c op.directives location
  walkSelections c root fuel op.selections
  check root.isSome
  check (!op.name.isEmpty || c.doc.operations.length ≤ 1)
  let used := (← get).used
  check (op.variableDefs.all fun v => used.contains v.name)
  check (distinctNames (op.variableDefs.map (·.name)))
  check (op.variableDefs.all fun v => match c.schema.type? v.type.name with
    | some t => t.isInput
    | none => true)
  if c.schema.subscription.isSome && op.kind == "subscription" then
    let tops := (topFields c.doc fuel [] op.selections).eraseDups
    check (tops.length ≤ 1 && tops.all fun n => !n.startsWith "__")

def walkFragment (c : Context) (f : Fragment) (fuel : Nat) : WalkM Unit := do
  modify fun w => { w with walked := [] }
  let d := c.schema.type? f.typeCondition
  walkDirectives c f.directives "FRAGMENT_DEFINITION"
  walkSelections c d fuel f.selections
  match d with
  | some t => check (t.isComposite || f.typeCondition.isEmpty)
  | none => check false
  modify fun w => { w with counting := false }
  check ((← get).spread.contains f.name)
def queryValid (s : Schema) (doc : QueryDocument) (size : Nat) : Bool :=
  let c : Context := { schema := s, doc }
  let walk : WalkM Unit := do
    for op in doc.operations do walkOperation c op size
    for f in doc.fragments do walkFragment c f size
  let (_, w) := walk.run {}
  let named := (doc.operations.map (·.name)).filter (!·.isEmpty)
  w.ok && distinctNames named && distinctNames (doc.fragments.map (·.name)) &&
    !(doc.fragments.any fun f => (spreadsIn size f.selections).any (reachesCycle doc size size [f.name])) &&
    !(doc.operations.any fun op => anyConflicts s doc (s.rootOf op.kind) size size op.selections) &&
    !(doc.fragments.any fun f => anyConflicts s doc (s.type? f.typeCondition) size size f.selections) &&
    !(doc.operations.any fun op => introspectionTooDeep doc size op.selections) &&
    !(doc.fragments.any fun f => introspectionTooDeep doc size f.selections)

end AccessPolicy.GraphQL
