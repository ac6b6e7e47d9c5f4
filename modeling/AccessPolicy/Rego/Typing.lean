import AccessPolicy.Rego.Types
import AccessPolicy.Rego.Check
import AccessPolicy.Rego.Index
/-!
# Checking types

Once safety has put each body in order, the types of its expressions are checked. The check
follows what the variables hold, the documents the rules define and the functions they are.
-/

namespace AccessPolicy.Rego

/-! ## The types rules define -/

structure FunctionType where
  params : List RegoType
  result : RegoType
  deriving Repr, Inhabited

/-- What the rules of a program define: documents by their path below `data`, and functions;
a function with a fault is known to exist but has no type. -/
structure RuleTypes where
  docs : List (List Datum × RegoType) := []
  funcs : List (List String × Option FunctionType) := []
  deriving Repr, Inhabited

namespace RuleTypes
def reaches (rt : RuleTypes) (p : List Datum) : Bool :=
  rt.docs.any fun (q, _) => p.length ≤ q.length && (p.zip q).all fun (a, b) => a.same b

def valueAt? (rt : RuleTypes) (p : List Datum) : Option RegoType :=
  (rt.docs.find? fun (q, _) => q.length == p.length && (p.zip q).all fun (a, b) => a.same b).map (·.2)

def childKeys (rt : RuleTypes) (p : List Datum) : List Datum :=
  RegoType.ascendingOnce (rt.docs.filterMap fun (q, _) =>
    if p.length < q.length && (p.zip q).all (fun (a, b) => a.same b) then q[p.length]? else none)

def scalarKey : Datum → Bool
  | .null | .bool _ | .number _ | .string _ => true
  | _ => false

/-- The type of everything at or below a path: the type defined there, or else an object of what
lies below each key, which may also have other string keys of any value. -/
def extent (rt : RuleTypes) : Nat → List Datum → RegoType
  | 0, _ => RegoType.top
  | fuel + 1, p =>
    match rt.valueAt? p with
    | some t => t
    | none =>
      let children := (rt.childKeys p).filter scalarKey
      .object (children.map fun k => (k, rt.extent fuel (p ++ [k]))) (some (.string, RegoType.top))

/-- Joins the types of two definitions of a document: two sets join their members, two objects
with no listed keys their keys and values; other types make a union. -/
def joinTypes (a b : RegoType) : RegoType :=
  match a, b with
  | .unset, _ => b
  | _, .unset => a
  | .set x, .set y => .set (RegoType.or x y)
  | .object [] (some (ka, va)), .object [] (some (kb, vb)) =>
    .object [] (some (RegoType.or ka kb, RegoType.or va vb))
  | _, _ => RegoType.or a b

def addDoc (rt : RuleTypes) (p : List Datum) (t : RegoType) : RuleTypes :=
  if (rt.valueAt? p).isSome then
    { rt with docs := rt.docs.map fun (q, u) =>
      if q.length == p.length && (p.zip q).all (fun (a, b) => a.same b) then (q, joinTypes u t)
      else (q, u) }
  else { rt with docs := rt.docs ++ [(p, t)] }

def setAny (rt : RuleTypes) (p : List Datum) : RuleTypes :=
  if (rt.valueAt? p).isSome then
    { rt with docs := rt.docs.map fun (q, u) =>
      if q.length == p.length && (p.zip q).all (fun (a, b) => a.same b) then (q, RegoType.top)
      else (q, u) }
  else { rt with docs := rt.docs ++ [(p, RegoType.top)] }

/-- Records the type of a definition of a function, joining it with earlier ones: parameter by
parameter and result with result; a function with a fault has no type. -/
def addFunction (rt : RuleTypes) (p : List String) (t : Option FunctionType) : RuleTypes :=
  match rt.funcs.find? (·.1 == p) with
  | none => { rt with funcs := rt.funcs ++ [(p, t)] }
  | some (_, old) =>
    let joined := match old, t with
      | some f, some g =>
        if f.params.length == g.params.length then
          some ⟨(f.params.zip g.params).map fun (x, y) => RegoType.or x y, RegoType.or f.result g.result⟩
        else none
      | _, _ => none
    { rt with funcs := rt.funcs.map fun (q, u) => if q == p then (q, joined) else (q, u) }

end RuleTypes

/-! ## Rewriting bodies for the check -/

/-- The fresh variable numbered `k` with a stem: `__local` in the rules of a program, `__localq`
in a query. -/
def freshVar (gen : String) (k : Nat) : String := gen ++ toString k ++ "__"

def stepLiteral (e : Expr) (loc : Loc) (mods : List (Term × Term × Loc)) : Literal :=
  .mk false e loc "" mods

def needsEval : Term → Bool
  | .ref .. => true
  | .arrayOf .. | .setOf .. | .objectOf .. => true
  | .array items => items.any fun t => needsEvalShallow t
  | .set items => items.any fun t => needsEvalShallow t
  | .object pairs => pairs.any fun (k, v) => needsEvalShallow k || needsEvalShallow v
  | .call _ args _ => args.any fun t => needsEvalShallow t
  | _ => false
where
  /-- Whether a part of a composite term is a reference or a comprehension, or holds one one
  level down. -/
  needsEvalShallow : Term → Bool
    | .ref .. => true
    | .arrayOf .. | .setOf .. | .objectOf .. => true
    | .array items => items.any fun t => match t with
      | .ref .. | .arrayOf .. | .setOf .. | .objectOf .. => true
      | _ => false
    | .object pairs => pairs.any fun (k, v) => (match k with
      | .ref .. | .arrayOf .. | .setOf .. | .objectOf .. => true
      | _ => false) || (match v with
      | .ref .. | .arrayOf .. | .setOf .. | .objectOf .. => true
      | _ => false)
    | _ => false

def bindHead (gen : String) (body : List Literal) (t : Term) (k : Nat) (loc : Loc := ⟨"", 0, 0⟩) :
    List Literal × Term × Nat :=
  if needsEval t then
    (body ++ [stepLiteral (.call "eq" [.var (freshVar gen k), t]) loc []], .var (freshVar gen k), k + 1)
  else (body, t, k)

mutual

/-- Takes the calls, and the heads of references that are composite terms, out of a term: the steps
before it, the term left, and the next fresh number. -/
def expandTerm (gen : String) (mods : List (Term × Term × Loc)) : Nat → Term → Nat → List Literal × Term × Nat
  | 0, t, k => ([], t, k)
  | fuel + 1, t, k =>
    match t with
    | .call name args loc =>
      let (steps, args', k) := expandTerms gen mods fuel args k
      (steps ++ [stepLiteral (.call name (args' ++ [.var (freshVar gen k)])) loc mods], .var (freshVar gen k), k + 1)
    | .ref head path loc =>
      let (s1, head', k) := expandTerm gen mods fuel head k
      let (s2, path', k) := expandTerms gen mods fuel path k
      match head' with
      | .array _ | .set _ | .object _ | .arrayOf .. | .setOf .. | .objectOf .. =>
        (s1 ++ s2 ++ [stepLiteral (.call "eq" [.var (freshVar gen k), head']) loc mods],
          .ref (.var (freshVar gen k)) path' loc, k + 1)
      | _ => (s1 ++ s2, .ref head' path' loc, k)
    | .array items =>
      let (steps, items', k) := expandTerms gen mods fuel items k
      (steps, .array items', k)
    | .set items =>
      let (steps, items', k) := expandTerms gen mods fuel items k
      (steps, .set items', k)
    | .object pairs =>
      let (steps, pairs', k) := expandPairs gen mods fuel pairs k
      (steps, .object pairs', k)
    | .arrayOf head body =>
      let (steps, head', k) := expandTerm gen [] fuel head k
      let (body', k) := rewriteBody gen fuel (body ++ steps) k
      let (body', head', k) := bindHead gen body' head' k
      (steps.take 0, .arrayOf head' body', k)
    | .setOf head body =>
      let (steps, head', k) := expandTerm gen [] fuel head k
      let (body', k) := rewriteBody gen fuel (body ++ steps) k
      let (body', head', k) := bindHead gen body' head' k
      (steps.take 0, .setOf head' body', k)
    | .objectOf key value body =>
      let (s1, key', k) := expandTerm gen [] fuel key k
      let (s2, value', k) := expandTerm gen [] fuel value k
      let (body', k) := rewriteBody gen fuel (body ++ s1 ++ s2) k
      let (body', key', k) := bindHead gen body' key' k
      let (body', value', k) := bindHead gen body' value' k
      (s1.take 0, .objectOf key' value' body', k)
    | t => ([], t, k)
termination_by structural fuel _ _ => fuel

def expandTerms (gen : String) (mods : List (Term × Term × Loc)) : Nat → List Term → Nat → List Literal × List Term × Nat
  | 0, ts, k => ([], ts, k)
  | _ + 1, [], k => ([], [], k)
  | fuel + 1, t :: ts, k =>
    let (s1, t', k) := expandTerm gen mods fuel t k
    let (s2, ts', k) := expandTerms gen mods fuel ts k
    (s1 ++ s2, t' :: ts', k)
termination_by structural fuel _ _ => fuel

def expandPairs (gen : String) (mods : List (Term × Term × Loc)) : Nat → List (Term × Term) → Nat →
    List Literal × List (Term × Term) × Nat
  | 0, ps, k => ([], ps, k)
  | _ + 1, [], k => ([], [], k)
  | fuel + 1, (a, b) :: ps, k =>
    let (s1, a', k) := expandTerm gen mods fuel a k
    let (s2, b', k) := expandTerm gen mods fuel b k
    let (s3, ps', k) := expandPairs gen mods fuel ps k
    (s1 ++ s2 ++ s3, (a', b') :: ps', k)
termination_by structural fuel _ _ => fuel
def rewriteLiteral (gen : String) : Nat → Literal → Nat → List Literal × Nat
  | 0, l, k => ([l], k)
  | fuel + 1, .mk neg e loc text mods, k =>
    let (modSteps, mods', k) := expandMods gen fuel mods k
    let keep := fun (e' : Expr) => Literal.mk neg e' loc text mods'
    match e with
    | .term t =>
      let (steps, t', k) := expandTerm gen mods' fuel t k
      (modSteps ++ steps ++ [keep (.term t')], k)
    | .call name args =>
      let (steps, args', k) := expandTerms gen mods' fuel args k
      (modSteps ++ steps ++ [keep (.call name args')], k)
    | .someIn key value coll =>
      let (keyTerm, k) := match key with
        | some kt => (kt, k)
        | none => (Term.var (freshVar gen k), k + 1)
      let rhs := match coll with
        | .ref h p rloc => Term.ref h (p ++ [keyTerm]) rloc
        | c => Term.ref c [keyTerm] loc
      let names := (match key with
        | some kt => (patternNames kt).2
        | none => []) ++ (patternNames value).2
      let (steps, args', k) := expandTerms gen mods' fuel [value, rhs] k
      (modSteps ++ [keep (.some names)] ++ steps ++ [keep (.call "eq" args')], k)
    | .every key value domain body =>
      let (steps, domain', k) := expandTerm gen mods' fuel domain k
      let (body', k) := rewriteBody gen fuel body k
      (modSteps ++ steps ++ [keep (.every key value domain' body')], k)
    | e => (modSteps ++ [keep e], k)
termination_by structural fuel _ _ => fuel

def expandMods (gen : String) : Nat → List (Term × Term × Loc) → Nat →
    List Literal × List (Term × Term × Loc) × Nat
  | 0, ms, k => ([], ms, k)
  | _ + 1, [], k => ([], [], k)
  | fuel + 1, (target, value, loc) :: ms, k =>
    let (s1, value', k) := expandTerm gen [] fuel value k
    let (s2, ms', k) := expandMods gen fuel ms k
    (s1 ++ s2, (target, value', loc) :: ms', k)
termination_by structural fuel _ _ => fuel

def rewriteBody (gen : String) : Nat → List Literal → Nat → List Literal × Nat
  | 0, ls, k => (ls, k)
  | _ + 1, [], k => ([], k)
  | fuel + 1, l :: ls, k =>
    let (l', k) := rewriteLiteral gen fuel l k
    let (ls', k) := rewriteBody gen fuel ls k
    (l' ++ ls', k)
termination_by structural fuel _ _ => fuel

end

def rewriteFuel : Nat := 10000

/-! ## What the check knows -/

/-- What the check knows while it reads a body: where names are looked up, what the rules
define, and the types of variables, the innermost scope first. -/
structure TypeEnv where
  scope : Scope
  rules : RuleTypes
  frames : List (List (String × RegoType))

namespace TypeEnv

def lookup (env : TypeEnv) (v : String) : Option RegoType :=
  env.frames.findSome? fun f => (f.find? (·.1 == v)).map (·.2)

/-- Lists a type for a variable in the innermost scope. -/
def put (env : TypeEnv) (v : String) (t : RegoType) : TypeEnv :=
  if v == "_" then env
  else
    match env.frames with
    | f :: fs =>
      let f' := if f.any (·.1 == v) then f.map fun (w, u) => if w == v then (w, t) else (w, u)
        else f ++ [(v, t)]
      { env with frames := f' :: fs }
    | [] => { env with frames := [[(v, t)]] }

def push (env : TypeEnv) : TypeEnv := { env with frames := [] :: env.frames }

def declare (env : TypeEnv) (vs : List String) : TypeEnv :=
  vs.foldl (fun e v => e.put v .unset) env

def rulePath (env : TypeEnv) (v : String) : List Datum :=
  (env.scope.package ++ [v]).map Datum.string

end TypeEnv

mutual

/-- The value of a term with no variable, reference, call or comprehension in it; sets become
arrays, as JSON writes them. -/
def constantOf? : Term → Option Datum
  | .array items => (constantsOf? items).map Datum.array
  | .set items => (constantsOf? items).map fun ds => .array (RegoType.ascendingOnce ds)
  | .object pairs => (constantPairs? pairs).map fun ps => .object (ps.mergeSort fun a b => a.1.compare b.1 != .gt)
  | t => scalarOf? t

def constantsOf? : List Term → Option (List Datum)
  | [] => some []
  | t :: ts => do pure ((← constantOf? t) :: (← constantsOf? ts))

def constantPairs? : List (Term × Term) → Option (List (Datum × Datum))
  | [] => some []
  | (k, v) :: ps => do pure ((← constantOf? k, ← constantOf? v) :: (← constantPairs? ps))

end

/-- The type a path of keys selects in a type: a scalar key selects under itself, a variable or a
composite key every value; none for anything else. -/
def selectPath : RegoType → List Term → RegoType
  | t, [] => t
  | .unset, _ => .unset
  | t, k :: ks =>
    match scalarOf? k with
    | some d => selectPath (RegoType.select t d) ks
    | none =>
      match k with
      | .var _ | .ref .. | .array _ | .object _ | .set _ => selectPath (RegoType.valuesOf t) ks
      | _ => .unset

/-- The type of what a reference into `data` selects, from the document at a path on: what the
documents there define, or anything where none is defined. -/
def dataRefType (rt : RuleTypes) : Nat → List Datum → List Term → RegoType
  | 0, _, _ => RegoType.top
  | fuel + 1, node, tail =>
    if !rt.reaches node then RegoType.top
    else
      match tail with
      | [] => rt.extent (node.length + 64) node
      | k :: rest =>
        match rt.valueAt? node with
        | some v =>
          match constantOf? k with
          | some d => if rt.reaches (node ++ [d]) then dataRefType rt fuel (node ++ [d]) rest else selectPath v tail
          | none => selectPath v tail
        | none =>
          match constantOf? k with
          | none => selectPath (rt.extent (node.length + 64) node) tail
          | some d => if rt.reaches (node ++ [d]) then dataRefType rt fuel (node ++ [d]) rest else RegoType.top

def pathFuel (path : List Term) : Nat := path.length + 2

/-! ## Faults -/

def typeList (ts : List RegoType) : String :=
  "(" ++ ", ".intercalate (ts.map RegoType.render) ++ ")"

def argumentFault (loc : Loc) (name reason : String) (given : List RegoType) (sig : Signature) :
    RegoError :=
  ⟨"rego_type_error", some loc, name ++ ": " ++ reason, ["have: " ++ typeList given, "want: " ++ sig.render]⟩

def refPrefixText (head : Term) (path : List Term) (n : Nat) : String :=
  (Term.ref head (path.take (n - 1)) ⟨"", 0, 0⟩).render

/-- The fault of a key of a reference that what precedes it cannot have: the reference, a mark
under the key, the key (or its type, for a variable or a reference) and the keys allowed, listed
when known. -/
def refInvalidFault (loc : Loc) (head : Term) (path : List Term) (idx : Nat) (given : Option RegoType)
    (want : RegoType) (oneOf : List Datum) : RegoError :=
  let whole := Term.ref head path ⟨"", 0, 0⟩
  let pad := String.ofList (List.replicate ((refPrefixText head path idx).length + 1) ' ')
  let key := ((head :: path)[idx]?).getD .null
  let haveLine := match given with
    | some t => pad ++ "have (type): " ++ t.render
    | none => pad ++ "have: " ++ key.render
  let wantLine := if oneOf.isEmpty then pad ++ "want (type): " ++ want.render
    else pad ++ "want (one of): [" ++ " ".intercalate (oneOf.map fun d => (termOfDatum d).render) ++ "]"
  ⟨"rego_type_error", some loc, "undefined ref: " ++ whole.render,
    [whole.render, pad ++ "^", haveLine, wantLine]⟩
where
  termOfDatum : Datum → Term
    | .null => .null
    | .bool b => .bool b
    | .number n => .number n
    | .string s => .string s
    | d => .string d.render

/-- The fault of a reference into a value that has no keys: the reference, a mark under what
precedes the key, and the type of that. -/
def refUnsupportedFault (loc : Loc) (head : Term) (path : List Term) (pos : Nat) (given : RegoType) :
    RegoError :=
  let whole := Term.ref head path ⟨"", 0, 0⟩
  ⟨"rego_type_error", some loc, "undefined ref: " ++ whole.render,
    [whole.render, String.ofList (List.replicate (refPrefixText head path (pos + 1)).length '^'),
      "have: " ++ given.render]⟩

def FunctionType.signature (f : FunctionType) : Signature :=
  ⟨f.params.map fun t => ⟨"", t⟩, ⟨"", f.result⟩⟩
def comparisonSignature? (name : String) : Option Signature :=
  if ["equal", "neq", "lt", "lte", "gt", "gte"].contains name then
    some (Signature.of [("", RegoType.top), ("", RegoType.top)] ("", .boolean))
  else none

/-- What a call is checked against: a function of the program's type (none when that function
has a fault), or a built-in's signature; none when there is nothing to check. -/
def callSignature? (env : TypeEnv) (name : String) : Option Signature :=
  match env.scope.functionPath? name with
  | some path =>
    match env.rules.funcs.find? (·.1 == path) with
    | some (_, some f) => some f.signature
    | _ => none
  | none => (Signature.lookup? name).orElse fun _ => comparisonSignature? name

def keyTerm : Datum → Term
  | .string s => .string s
  | .number n => .number n
  | .bool b => .bool b
  | _ => .null

/-! ## The check -/

mutual
def typeOf : Nat → TypeEnv → Term → RegoType
  | 0, _, _ => .unset
  | fuel + 1, env, t =>
    match t with
    | .null => .null
    | .bool _ => .boolean
    | .number _ => .number
    | .string _ => .string
    | .var v =>
      if v == "_" then .unset
      else
        match env.lookup v with
        | some u => u
        | none =>
          if v == "input" then RegoType.top
          else if v == "data" then dataRefType env.rules 2 [] []
          else if env.scope.isRule v then dataRefType env.rules 64 [] ((env.rulePath v).map keyTerm)
          else .unset
    | .ref head path _ =>
      match head with
      | .var v =>
        match env.lookup v with
        | some u => selectPath u path
        | none =>
          if v == "input" then RegoType.top
          else if v == "data" then dataRefType env.rules (pathFuel path) [] path
          else if env.scope.isRule v then
            dataRefType env.rules (pathFuel path + 64) [] ((env.rulePath v).map keyTerm ++ path)
          else .unset
      | h => selectPath (typeOf fuel env h) path
    | .array items =>
      .array (items.map (typeOf fuel env)) (if items.isEmpty then some RegoType.top else none)
    | .set items =>
      match items.foldl (fun acc i => RegoType.or acc (typeOf fuel env i)) .unset with
      | .unset => .set RegoType.top
      | u => .set u
    | .object pairs =>
      let (static, dynamic) := pairs.foldl (fun (acc : List (Datum × RegoType) × Option (RegoType × RegoType)) (k, v) =>
        match constantOf? k with
        | some d => (acc.1 ++ [(d, typeOf fuel env v)], acc.2)
        | none => (acc.1, some (typeOf fuel env k, typeOf fuel env v))) ([], none)
      let sorted := static.mergeSort fun a b => a.1.compare b.1 != .gt
      if sorted.isEmpty && dynamic.isNone then RegoType.anyObject else .object sorted dynamic
    | .arrayOf head body =>
      let (errs, env') := checkBody fuel env body
      if errs.isEmpty then .array [] (some (typeOf fuel env' head)) else .unset
    | .setOf head body =>
      let (errs, env') := checkBody fuel env body
      if errs.isEmpty then .set (typeOf fuel env' head) else .unset
    | .objectOf key value body =>
      let (errs, env') := checkBody fuel env body
      if errs.isEmpty then .object [] (some (typeOf fuel env' key, typeOf fuel env' value)) else .unset
    | .call .. => .unset

/-- Unifies a term with a type: whether it unifies, and what is known after. -/
def unifyOne : Nat → TypeEnv → Term → RegoType → Bool → Bool × TypeEnv
  | 0, env, _, _, _ => (true, env)
  | fuel + 1, env, t, tpe, union =>
    let alternatives := fun (alts : List RegoType) =>
      alts.foldl (fun (acc : Bool × TypeEnv) alt =>
        let (ok, e) := unifyOne fuel acc.2 t alt true
        (ok || acc.1, e)) (false, env)
    match t with
    | .array items =>
      match tpe with
      | .array st dyn =>
        if items.length != st.length && dyn.isNone then (false, env)
        else
          items.zipIdx.foldl (fun (acc : Bool × TypeEnv) (item, i) =>
            if !acc.1 then acc
            else unifyOne fuel acc.2 item (RegoType.selectItem st dyn i) union) (true, env)
      | .any [] => (true, items.foldl (fun e item => (unifyOne fuel e item RegoType.top true).2) env)
      | .any alts => alternatives alts
      | _ => (false, env)
    | .object pairs =>
      match tpe with
      | .object st dyn =>
        if pairs.length != st.length && dyn.isNone then (false, env)
        else
          pairs.foldl (fun (acc : Bool × TypeEnv) (k, v) =>
            if !acc.1 then acc
            else
              match constantOf? k with
              | some key =>
                match RegoType.select tpe key with
                | .unset => (false, acc.2)
                | child => unifyOne fuel acc.2 v child union
              | none => (true, (unifyOne fuel acc.2 v RegoType.top union).2)) (true, env)
      | .any [] => (true, pairs.foldl (fun e (_, v) => (unifyOne fuel e v RegoType.top true).2) env)
      | .any alts => alternatives alts
      | _ => (false, env)
    | .set items =>
      match tpe with
      | .set m =>
        items.foldl (fun (acc : Bool × TypeEnv) item =>
          if !acc.1 then acc else unifyOne fuel acc.2 item m union) (true, env)
      | .any [] => (true, items.foldl (fun e item => (unifyOne fuel e item RegoType.top true).2) env)
      | .any alts => alternatives alts
      | _ => (false, env)
    | .var v =>
      if v == "_" then (true, env)
      else
        let current := typeOf fuel env t
        if union then (true, env.put v (RegoType.or current tpe))
        else
          match current with
          | .unset => (true, env.put v tpe)
          | known => (RegoType.unifies known tpe, env)
    | .call .. => (true, env)
    | _ => (RegoType.unifies (typeOf fuel env t) tpe, env)

/-- Unifies two terms with their types: a side whose type has a part without a type takes the
other side's type; two arrays of one length, or two objects of the same keys, unify part by part;
a variable and a variable, array or object both without types take any type. -/
def unifyTwo : Nat → TypeEnv → Term → RegoType → Term → RegoType → Bool × TypeEnv
  | 0, env, _, _, _, _ => (true, env)
  | fuel + 1, env, a, ta, b, tb =>
    let nilA := RegoType.hasUnset RegoType.depth ta
    let nilB := RegoType.hasUnset RegoType.depth tb
    let viaAny := fun (x y : Term) =>
      let (ok, e) := unifyOne fuel env x RegoType.top false
      if !ok then (false, e)
      else unifyOne fuel e y (typeOf fuel e x) false
    if nilA && !nilB then unifyOne fuel env a tb false
    else if nilB && !nilA then unifyOne fuel env b ta false
    else if !nilA && !nilB then (RegoType.unifies ta tb, env)
    else
      let pairwise := fun (xs ys : List Term) =>
        (xs.zip ys).foldl (fun (acc : Bool × TypeEnv) (x, y) =>
          if !acc.1 then acc
          else unifyTwo fuel acc.2 x (typeOf fuel acc.2 x) y (typeOf fuel acc.2 y)) (true, env)
      match a, b with
      | .array xs, .array ys => if xs.length == ys.length then pairwise xs ys else (false, env)
      | .array _, .var _ => viaAny a b
      | .object ps, .object qs =>
        let common := ps.filterMap fun (k, v) =>
          (qs.find? fun (k', _) => match constantOf? k, constantOf? k' with
            | some x, some y => x.same y
            | _, _ => false).map fun (_, w) => (v, w)
        if ps.length == qs.length && qs.length == common.length then
          pairwise (common.map (·.1)) (common.map (·.2))
        else (false, env)
      | .object _, .var _ => viaAny a b
      | .var _, .var _ => viaAny a b
      | .var _, .array _ => viaAny b a
      | .var _, .object _ => viaAny b a
      | _, _ => (false, env)

def checkRefLeaf : Nat → TypeEnv → Loc → Term → List Term → RegoType → Nat → Option RegoError × TypeEnv
  | 0, env, _, _, _, _, _ => (none, env)
  | fuel + 1, env, loc, head, path, tpe, idx =>
    match (head :: path)[idx]? with
    | none => (none, env)
    | some key =>
      let keys := RegoType.keysOf tpe
      match keys with
      | .unset => (some (refUnsupportedFault loc head path (idx - 1) tpe), env)
      | _ =>
        let invalid := fun (given : Option RegoType) (oneOf : List Datum) =>
          refInvalidFault loc head path idx given keys oneOf
        let next := fun (e : TypeEnv) => checkRefLeaf fuel e loc head path (RegoType.valuesOf tpe) (idx + 1)
        match key with
        | .var v =>
          if v == "_" then next env
          else
            match typeOf fuel env key with
            | .unset => next (env.put v keys)
            | exist =>
              if RegoType.unifies exist keys then next env
              else (some (invalid (some exist) (RegoType.listedKeys tpe)), env)
        | .ref .. =>
          match typeOf fuel env key with
          | .unset => next env
          | exist =>
            if RegoType.unifies exist keys then next env
            else (some (invalid (some exist) (RegoType.listedKeys tpe)), env)
        | .array _ | .object _ | .set _ =>
          let (ok, env') := unifyOne fuel env key keys false
          if ok then next env' else (some (invalid (some (typeOf fuel env key)) []), env')
        | _ =>
          match scalarOf? key with
          | some d =>
            match RegoType.select tpe d with
            | .unset => (some (invalid none (RegoType.listedKeys tpe)), env)
            | child => checkRefLeaf fuel env loc head path child (idx + 1)
          | none => (some (invalid none (RegoType.listedKeys tpe)), env)

/-- Checks the keys of a reference into `data` against the documents the rules define, from the
document at a path on; a key that leads nowhere defined is not a fault. -/
def checkRefTree : Nat → TypeEnv → Loc → Term → List Term → List Datum → Nat → Option RegoError × TypeEnv
  | 0, env, _, _, _, _, _ => (none, env)
  | fuel + 1, env, loc, head, path, node, idx =>
    match (head :: path)[idx]? with
    | none => (none, env)
    | some key =>
      let oneOf := env.rules.childKeys node
      let badStep := (idx == 1 || idx == 2) && (match key with
        | .var _ | .string _ => false
        | _ => true)
      if badStep then
        (some (refInvalidFault loc head path idx (some (typeOf fuel env key)) .string oneOf), env)
      else
        let (fault, env) := match key with
          | .var v =>
            if v == "_" then (none, env)
            else
              let tpe := RegoType.keysOf (env.rules.extent (node.length + 64) node)
              match typeOf fuel env key with
              | .unset => (none, env.put v tpe)
              | exist =>
                if RegoType.unifies tpe exist then (none, env)
                else (some (refInvalidFault loc head path idx (some exist) tpe oneOf), env)
          | _ => (none, env)
        match fault with
        | some f => (some f, env)
        | none =>
          let child := match key with
            | .string s => if env.rules.reaches (node ++ [.string s]) then some (node ++ [.string s]) else none
            | _ => none
          match child with
          | none => checkRefLeaf fuel env loc head path RegoType.top 1
          | some c =>
            match env.rules.valueAt? c with
            | some t => checkRefLeaf fuel env loc head path t (idx + 1)
            | none => checkRefTree fuel env loc head path c (idx + 1)

def FunctionType.render (f : FunctionType) : String :=
  typeList f.params ++ " => " ++ f.result.render

/-- The path below `data` a reference leads to, as terms, when its head is `data` or a bare name
of a rule or function of the scope's package. -/
def TypeEnv.dataPath? (env : TypeEnv) (head : Term) (path : List Term) : Option (List Term) :=
  match head with
  | .var v =>
    if (env.lookup v).isSome then none
    else if v == "data" then some path
    else if env.scope.isRule v || env.scope.isFunctionName v then
      some ((env.scope.package ++ [v]).map Term.string ++ path)
    else none
  | _ => none

/-- The fault of a reference that reaches a function of the program: a function is no value, so
neither it nor anything below it can be referred to. -/
def functionRefFault? (env : TypeEnv) (head : Term) (path : List Term) (loc : Loc) : Option RegoError :=
  (env.dataPath? head path).bind fun full =>
    let names := namePrefix full
    let hit := (List.range (names.length + 1)).findSome? fun n =>
      (env.rules.funcs.find? (·.1 == names.take n)).bind fun (_, f) => f.map (n, ·)
    hit.map fun (n, f) =>
      let whole := Term.ref (.var "data") full ⟨"", 0, 0⟩
      ⟨"rego_type_error", some loc, "undefined ref: " ++ whole.render,
        [whole.render, String.ofList (List.replicate (refPrefixText (.var "data") full (n + 1)).length '^'),
          "have: " ++ f.render]⟩

def checkRef : Nat → TypeEnv → Term → List Term → Loc → Option RegoError × TypeEnv
  | 0, env, _, _, _ => (none, env)
  | fuel + 1, env, head, path, loc =>
    match head with
    | .var v =>
      match env.lookup v with
      | some .unset => checkRefLeaf fuel (env.put v RegoType.top) loc head path RegoType.top 1
      | some t => checkRefLeaf fuel env loc head path t 1
      | none =>
        if v == "data" then checkRefTree fuel env loc head path [] 1
        else if v == "input" then checkRefLeaf fuel env loc head path RegoType.top 1
        else if env.scope.isRule v then
          let full := (env.scope.package ++ [v]).map Term.string ++ path
          checkRefTree fuel env loc (.var "data") full [] 1
        else checkRefLeaf fuel (env.put v RegoType.top) loc head path RegoType.top 1
    | _ => checkRefLeaf fuel env loc head path RegoType.top 1

/-- The faults of the references in a term standing at a place, outside comprehensions, each
reference before the references in its keys; a bare name of a function is a reference to it. -/
def refFaults : Nat → TypeEnv → Loc → Term → List RegoError × TypeEnv
  | 0, env, _, _ => ([], env)
  | fuel + 1, env, place, t =>
    let many := fun (ts : List Term) (e : TypeEnv) =>
      ts.foldl (fun (acc : List RegoError × TypeEnv) u =>
        let (errs, e') := refFaults fuel acc.2 place u
        (acc.1 ++ errs, e')) ([], e)
    match t with
    | .var v =>
      if env.scope.isFunctionName v then ((functionRefFault? env t [] place).toList, env) else ([], env)
    | .ref head path loc =>
      match functionRefFault? env head path loc with
      | some fault => ([fault], env)
      | none =>
        let (fault, env) := checkRef fuel env head path loc
        let (errs, env) := many (head :: path) env
        (fault.toList ++ errs, env)
    | .array items => many items env
    | .set items => many items env
    | .object pairs => many (pairs.flatMap fun (k, v) => [k, v]) env
    | .call _ args _ => many args env
    | _ => ([], env)

def closureFaults : Nat → TypeEnv → Term → List RegoError
  | 0, _, _ => []
  | fuel + 1, env, t =>
    let many := fun (ts : List Term) => ts.flatMap (closureFaults fuel env)
    match t with
    | .arrayOf _ body => (checkBody fuel env body).1
    | .setOf _ body => (checkBody fuel env body).1
    | .objectOf _ _ body => (checkBody fuel env body).1
    | .ref head path _ => many (head :: path)
    | .array items => many items
    | .set items => many items
    | .object pairs => many (pairs.flatMap fun (k, v) => [k, v])
    | .call _ args _ => many args
    | _ => []

def checkCall : Nat → TypeEnv → String → List Term → Loc → Signature → Option RegoError × TypeEnv
  | 0, env, _, _, _, _ => (none, env)
  | fuel + 1, env, name, args, loc, sig =>
    let before := args.map (typeOf fuel env)
    let slots := sig.params.map (·.type) ++ [sig.result.type]
    if args.length > slots.length then (some (argumentFault loc name "too many arguments" before sig), env)
    else if args.length < sig.params.length then
      (some (argumentFault loc name "too few arguments" before sig), env)
    else
      let (ok, env') := (args.zip slots).foldl (fun (acc : Bool × TypeEnv) (arg, slot) =>
        if !acc.1 then acc else unifyOne fuel acc.2 arg slot false) (true, env)
      if ok then (none, env')
      else
        let after := args.map (typeOf fuel env')
        (some (argumentFault loc name "invalid argument(s)" after sig), env')

def checkLiteral : Nat → TypeEnv → Literal → List RegoError × TypeEnv
  | 0, env, _ => ([], env)
  | fuel + 1, env, l =>
    let env := match l.expr with
      | .call "assign" [lhs, _] => env.declare (patternNames lhs).2
      | .some names => env.declare names
      | _ => env
    let terms := match l.expr with
      | .term t => [t]
      | .call _ args => args
      | .someIn key value coll => key.toList ++ [value, coll]
      | .every _ _ domain _ => [domain]
      | .some _ => []
    let closures := terms.flatMap (closureFaults fuel env) ++
      (match l.expr with
        | .every key value domain body =>
          let dom := typeOf fuel env domain
          let inner := env.push.declare (key.toList ++ [value])
          let inner := match key with
            | some k => inner.put k (RegoType.keysOf dom)
            | none => inner
          let inner := inner.put value (RegoType.valuesOf dom)
          (checkBody fuel inner body).1
        | _ => [])
    let (refs, env) := terms.foldl (fun (acc : List RegoError × TypeEnv) t =>
      let (errs, e) := refFaults fuel acc.2 l.loc t
      (acc.1 ++ errs, e)) ([], env)
    let earlier := !closures.isEmpty || !refs.isEmpty
    let (fault, env) : Option RegoError × TypeEnv := match l.expr with
      | .call "eq" [a, b] | .call "assign" [a, b] =>
        let ta := typeOf fuel env a
        let tb := typeOf fuel env b
        let (ok, env') := unifyTwo fuel env a ta b tb
        let untyped := RegoType.hasUnset RegoType.depth ta || RegoType.hasUnset RegoType.depth tb
        if ok || (earlier && untyped) then (none, env')
        else (some ⟨"rego_type_error", some l.loc, "match error",
          ["left  : " ++ ta.render, "right : " ++ tb.render]⟩, env')
      | .call name args =>
        match callSignature? env name with
        | some sig => checkCall fuel env name args l.loc sig
        | none => (none, env)
      | _ => (none, env)
    (closures ++ refs ++ fault.toList, env)

/-- Checks a body in a scope of its own: the faults, and what is known after, that scope
innermost. -/
def checkBody : Nat → TypeEnv → List Literal → List RegoError × TypeEnv
  | 0, env, _ => ([], env.push)
  | fuel + 1, env, body =>
    body.foldl (fun (acc : List RegoError × TypeEnv) l =>
      let (errs, e) := checkLiteral fuel acc.2 l
      (acc.1 ++ errs, e)) ([], env.push)

end

def checkFuel : Nat := 10000

/-! ## Checking queries and rules -/

/-! ## Calls of missing functions, and calls with the wrong number of arguments -/

def paramsText (ps : List Param) : String :=
  "(" ++ ", ".intercalate (ps.map fun p =>
    if p.name.isEmpty then p.type.render else p.name ++ ": " ++ p.type.render) ++ ")"

/-- The fault of a call, if it has one: it calls a function that does not exist, or it gives a
number of arguments that does not fit its function. -/
def callFault (env : TypeEnv) (bs : Builtins) (c : CallSite) : Option RegoError :=
  let given := c.args.map (typeOf checkFuel env) ++ (if c.asValue then [RegoType.unset] else [])
  let fits := fun (arity : Nat) =>
    if c.asValue then c.args.length == arity
    else c.args.length == arity || c.args.length == arity + 1
  let mismatch := fun (name : String) (params : List Param) =>
    (⟨"rego_type_error", some c.loc, name ++ ": arity mismatch",
      ["have: " ++ typeList given, "want: " ++ paramsText params]⟩ : RegoError)
  match env.scope.functionPath? c.name with
  | some path =>
    let arity := (env.scope.program.functionArity? path).getD 0
    if fits arity then none
    else
      let name := "data." ++ ".".intercalate path
      match env.rules.funcs.find? (·.1 == path) with
      | some (_, some f) => some (mismatch name f.signature.params)
      | _ =>
        let count := c.args.length
        some ⟨"rego_type_error", some c.loc, "function " ++ name ++ " has arity " ++
          toString arity ++ ", got " ++ toString count ++
          (if count == 1 then " argument" else " arguments"), []⟩
  | none =>
    if !bs.has c.name then some ⟨"rego_type_error", some c.loc, "undefined function " ++ c.name, []⟩
    else if c.name == "print" then none
    else
      let name := if c.name == "assign" then "eq" else c.name
      if bs.declared then
        match callSignature? env c.name with
        | some sig => if fits sig.params.length then none else some (mismatch name sig.params)
        | none => none
      else if fits 0 then none
      else some (mismatch name [])
def callFaults (env : TypeEnv) (bs : Builtins) (calls : List CallSite) : List RegoError :=
  calls.filterMap (callFault env bs)

/-- The type faults of a query, in the order it runs, given how many fresh names its
declarations took. -/
def queryTypeFaults (sc : Scope) (rules : RuleTypes) (body : List Literal) (start : Nat := 0) :
    List RegoError :=
  let (body', _) := rewriteBody "__localq" rewriteFuel body start
  (checkBody checkFuel ⟨sc, rules, []⟩ body').1

/-- A rule's body with its head's calls taken out into it, and its key and value bound to fresh
variables when they need evaluating: the body, the key and value left, the parameters left, and
the next fresh number. -/
def ruleForm (start : Nat) (params : List Term) (key value : Option Term) (body : List Literal)
    (loc : Loc) : List Literal × List Term × Option Term × Option Term × Nat :=
  let gen := "__local"
  let (s1, params', k) := expandTerms gen [] rewriteFuel params start
  let (s2, key', k) := match key with
    | some t => let (s, t', k) := expandTerm gen [] rewriteFuel t k; (s, some t', k)
    | none => ([], none, k)
  let (s3, value', k) := match value with
    | some t => let (s, t', k) := expandTerm gen [] rewriteFuel t k; (s, some t', k)
    | none => ([], none, k)
  let (body', k) := rewriteBody gen rewriteFuel body k
  let body' := body' ++ s1 ++ s2 ++ s3
  let (body', key', k) := match key' with
    | some t => let (b, t', k) := bindHead gen body' t k loc; (b, some t', k)
    | none => (body', none, k)
  let (body', value', k) := match value' with
    | some t => let (b, t', k) := bindHead gen body' t k loc; (b, some t', k)
    | none => (body', none, k)
  (body', params', key', value', k)

mutual

/-- A parameter with each wildcard named, so that it can be given a type: a parameter its
function does not use takes any value. -/
def Term.namedWildcards : Term → Term
  | .var "_" => .var "$_"
  | .array items => .array (namedWildcardItems items)
  | .set items => .set (namedWildcardItems items)
  | .object pairs => .object (namedWildcardPairs pairs)
  | t => t

def namedWildcardItems : List Term → List Term
  | [] => []
  | t :: ts => t.namedWildcards :: namedWildcardItems ts

def namedWildcardPairs : List (Term × Term) → List (Term × Term)
  | [] => []
  | (k, v) :: ps => (k.namedWildcards, v.namedWildcards) :: namedWildcardPairs ps

end

/-- Checks one definition of a rule (its body and value, or an `else` branch's), whose fresh
names are numbered from `start`, and records what it defines: the faults and what the rules
define after. -/
def checkDefinition (sc : Scope) (rules : RuleTypes) (e : Entry) (value : Option Term)
    (body : List Literal) (start : Nat) : List RegoError × RuleTypes :=
  let r := e.rule
  let (body', params', key', value', _) := ruleForm start (r.params.getD []) r.key value body r.loc
  let env : TypeEnv := ⟨sc, rules, [[]]⟩
  let (errs, env') := checkBody checkFuel env body'
  let headVar := fun (t : Option Term) => match t with
    | some (.var v) => (functionRefFault? env' (.var v) [] r.loc).toList
    | _ => []
  let errs := errs ++ headVar key' ++ headVar value'
  let docPath := e.path.map Datum.string
  if !errs.isEmpty then
    match r.kind with
    | .function => (errs, rules.addFunction e.path none)
    | _ => (errs, rules.setAny docPath)
  else
    let typeOfHead := fun (t : Term) => typeOf checkFuel env' t
    match r.kind with
    | .function =>
      let env'' := params'.foldl (fun (en : TypeEnv) p =>
        (termVars p).foldl (fun (en2 : TypeEnv) v =>
          match typeOf checkFuel en2 (.var v) with
          | .unset => en2.put v RegoType.top
          | _ => en2) en) (env'.put "$_" RegoType.top)
      let params := params'.map fun p => typeOf checkFuel env'' p.namedWildcards
      let result := ((value'.map (typeOf checkFuel env'')).getD .boolean)
      (errs, rules.addFunction e.path (some ⟨params, result⟩))
    | .partialSet =>
      match key'.map typeOfHead with
      | some .unset | none => (errs, rules)
      | some t => (errs, rules.addDoc docPath (.set t))
    | .partialObject =>
      match key'.map typeOfHead, value'.map typeOfHead with
      | some .unset, _ | _, some .unset | none, _ | _, none => (errs, rules)
      | some k, some v => (errs, rules.addDoc docPath (.object [] (some (k, v))))
    | .complete =>
      match (value'.map typeOfHead).getD .boolean with
      | .unset => (errs, rules)
      | t => (errs, rules.addDoc docPath t)

/-- The rules of a program in an order where each comes after those it refers to, found depth
first from the rules in their order. -/
def dependencyOrder (prog : Program) : List Nat :=
  let entries := prog.entries
  let refsOf := entries.map fun e => ruleRefs { program := prog, input := none, package := e.package } e.rule
  let edges := fun (i : Nat) =>
    let refs := refsOf.getD i []
    (List.range entries.length).filter fun j =>
      j != i && match entries[j]? with
      | some e => refs.any fun p => p.isPrefixOf e.path || e.path.isPrefixOf p
      | none => false
  let rec visit : Nat → Nat → List Nat → List Nat
    | 0, _, done => done
    | fuel + 1, i, done =>
      if done.contains i then done
      else
        let done := (edges i).foldl (fun acc j => if acc.contains j then acc else visit fuel j acc) (i :: done)
        done
  let order := (List.range entries.length).foldl (fun acc i =>
    if acc.contains i then acc else visit (entries.length + 1) i acc) []
  order.reverse

def RegoError.before (a b : RegoError) : Bool :=
  let key := fun (e : RegoError) => match e.loc with
    | some l => (l.file, l.row, l.col)
    | none => ("", 0, 0)
  let (fa, ra, ca) := key a
  let (fb, rb, cb) := key b
  if fa != fb then fa < fb
  else if ra != rb then ra < rb
  else if ca != cb then ca < cb
  else decide (a.text ≤ b.text)

def Entry.definitions (e : Entry) : List (Option Term × List Literal) :=
  (e.rule.value, e.rule.body) :: e.rule.elses.map fun (v, b) => ((v.orElse fun _ => some (.bool true)), b)

/-- The first fresh number of each definition of each rule of a program: the rules take their
fresh names in the order of the program, after the `declared` names their declarations took. -/
def freshStarts (prog : Program) (declared : Nat) : List (List Nat) :=
  (prog.entries.foldl (fun (acc : List (List Nat) × Nat) e =>
    let (starts, next) := e.definitions.foldl (fun (acc2 : List Nat × Nat) (v, b) =>
      let (_, _, _, _, k) := ruleForm acc2.2 (e.rule.params.getD []) e.rule.key v b e.rule.loc
      (acc2.1 ++ [acc2.2], k)) ([], acc.2)
    (acc.1 ++ [starts], next)) ([], declared)).1

/-- Checks the rules of a program, whose declarations took `declared` fresh names: their faults,
ordered by place, and what they define. -/
def programTypes (prog : Program) (declared : Nat := 0) : List RegoError × RuleTypes :=
  let starts := freshStarts prog declared
  let (errs, rules) := (dependencyOrder prog).foldl (fun (acc : List RegoError × RuleTypes) i =>
    match prog.entries[i]? with
    | none => acc
    | some e =>
      let sc : Scope := { program := prog, input := none, package := e.package }
      (e.definitions.zip (starts.getD i [])).foldl (fun (acc2 : List RegoError × RuleTypes) ((v, b), k) =>
        let (errs, rules) := checkDefinition sc acc2.2 e v b k
        (acc2.1 ++ errs, rules)) acc) ([], {})
  (errs.mergeSort RegoError.before, rules)

end AccessPolicy.Rego
