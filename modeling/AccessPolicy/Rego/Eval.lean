import AccessPolicy.Rego.Index
import AccessPolicy.Rego.Library
/-!
# Evaluation

A body is evaluated to all the ways it holds: each way is an environment that binds variables
to values. Literals run in order; each one extends every environment so far in all the ways it
holds. Solutions come in a fixed order: arrays are walked by index, objects by key and sets by
member, each ascending.
-/

namespace AccessPolicy.Rego

abbrev Env := List (String × Datum)

inductive Fault where
  | conflict (loc : Loc) (message : String)
  | exhausted
  deriving Repr, Inhabited

def Fault.text : Fault → String
  | .conflict loc message => loc.text ++ ": eval_conflict_error: " ++ message
  | .exhausted => "eval_internal_error: evaluation too deep"

abbrev Outcome := Except Fault

/-- Runs a step for each item and joins the results in order; the first step that fails stops
the rest. -/
def gather {α β : Type} (xs : List α) (f : α → Outcome (List β)) : Outcome (List β) := do
  let parts ← xs.mapM f
  pure parts.flatten

def isWildcard (v : String) : Bool := v == "_"

def bindVar (env : Env) (v : String) (d : Datum) : Env :=
  if isWildcard v then env else (v, d) :: env

/-- The keys and values of a collection: an array's indexes, an object's keys, a set's members
as their own keys. -/
def members : Datum → List (Datum × Datum)
  | .array xs => (List.range xs.length).zip xs |>.map fun (i, x) => (intNumber i, x)
  | .object ps => ps
  | .set xs => xs.map fun x => (x, x)
  | _ => []

def index (d key : Datum) : Option Datum :=
  match d, key with
  | .array xs, .number n =>
    match integer? n with
    | some i => if 0 ≤ i then xs[i.toNat]? else none
    | none => none
  | .object ps, k => Datum.lookup k ps
  | .set xs, k => if k.memberOf xs then some k else none
  | _, _ => none

def pairUp : List Datum → List (Datum × Datum)
  | k :: v :: rest => (k, v) :: pairUp rest
  | _ => []
def treeOf : List Datum → Datum → Datum
  | [], v => v
  | k :: ks, v => .object [(k, treeOf ks v)]

/-- A document with the value under a path of keys set: objects on the path keep their other
keys, and a place on it that holds no object is replaced by objects leading to the value. -/
def upsert : Option Datum → List Datum → Datum → Datum
  | _, [], v => v
  | some (.object ps), [k], v => Datum.objectOf ((k, v) :: ps)
  | some (.object ps), k :: ks, v =>
    match Datum.lookup k ps with
    | some (.object qs) => Datum.objectOf ((k, upsert (some (.object qs)) ks v) :: ps)
    | _ => Datum.objectOf ((k, treeOf ks v) :: ps)
  | _, ks, v => treeOf ks v

/-- The name a function is replaced by in a scope: `data.` and its path for a function of the
program, or a built-in's own name. -/
def Scope.standKey (sc : Scope) (name : String) : String :=
  match sc.functionPath? name with
  | some path => "data." ++ ".".intercalate path
  | none => name

/-- The place a `with` target names: the input below some keys, a document of `data`, or a
function by the name it is replaced by; none for a target no check lets through. -/
inductive Target where
  | input (keys : List Datum)
  | document (path : List String)
  | function (key : String)

def Scope.target? (sc : Scope) (t : Term) : Option Target :=
  let strings := fun (ks : List Term) => ks.mapM fun (k : Term) => match k with
    | .string s => some s
    | _ => none
  let atData := fun (path : List String) =>
    if sc.program.definesFunction path then Target.function ("data." ++ ".".intercalate path)
    else Target.document path
  match t with
  | .var "input" => some (.input [])
  | .ref (.var "input") ks _ => (strings ks).map fun ss => .input (ss.map Datum.string)
  | .var "data" => some (.document [])
  | .ref (.var "data") ks _ => (strings ks).map atData
  | .var v => if sc.isRule v then some (atData (sc.package ++ [v])) else some (.function v)
  | .ref (.var v) ks _ =>
    (strings ks).map fun ss =>
      if sc.isRule v then atData (sc.package ++ v :: ss) else .function (".".intercalate (v :: ss))
  | _ => none

/-- The function a `with` value names, if it names one: the value is then a stand-in for the
replaced function rather than a value. -/
def Scope.functionNamed? (sc : Scope) (t : Term) : Option String :=
  let name? := match t with
    | .var v => some v
    | .ref (.var v) ks _ => (ks.mapM fun (k : Term) => match k with
        | .string s => some s
        | _ => none).map fun ss => ".".intercalate (v :: ss)
    | _ => none
  name?.bind fun name => if (sc.arity? name).isSome then some name else none

def Scope.resolveIndex (sc : Scope) (args : List Datum) : IndexRef → Option Datum
  | .input keys => sc.input.bind (lookupPath · keys)
  | .arg i => args[i]?

def Scope.openVar? (sc : Scope) (env : Env) : Term → Option String
  | .var v =>
    if isWildcard v then some v
    else if (List.lookup v env).isSome || isRoot v || sc.isRule v then none
    else some v
  | _ => none

mutual

/-- Variables of a term that must be bound before it can be evaluated: those standing as values,
not those walking the keys of a reference. -/
def valueVars (sc : Scope) (env : Env) : Term → List String
  | .var v => (sc.openVar? env (.var v)).toList.filter (!isWildcard ·)
  | .ref head _ _ => valueVars sc env head
  | .array items => valueVarsOf sc env items
  | .set items => valueVarsOf sc env items
  | .object pairs => valueVarsOfPairs sc env pairs
  | .call _ args _ => valueVarsOf sc env args
  | _ => []

def valueVarsOf (sc : Scope) (env : Env) : List Term → List String
  | [] => []
  | t :: ts => valueVars sc env t ++ valueVarsOf sc env ts

def valueVarsOfPairs (sc : Scope) (env : Env) : List (Term × Term) → List String
  | [] => []
  | (k, v) :: ps => valueVars sc env k ++ valueVars sc env v ++ valueVarsOfPairs sc env ps

end

mutual
def evalTerm : Nat → Scope → Env → Term → Outcome (List (Datum × Env))
  | 0, _, _, _ => throw .exhausted
  | n + 1, sc, env, t =>
    match t with
    | .null => pure [(.null, env)]
    | .bool b => pure [(.bool b, env)]
    | .number s => pure [(.number s, env)]
    | .string s => pure [(.string s, env)]
    | .var v => evalRef n sc env (.var v) []
    | .ref head path _ => evalRef n sc env head path
    | .array items => do
      let rs ← evalTerms n sc env items
      pure (rs.map fun (ds, e) => (.array ds, e))
    | .set items => do
      let rs ← evalTerms n sc env items
      pure (rs.map fun (ds, e) => (Datum.setOf ds, e))
    | .object pairs => do
      let rs ← evalTerms n sc env (pairs.flatMap fun (k, v) => [k, v])
      pure (rs.map fun (ds, e) => (Datum.objectWritten (pairUp ds), e))
    | .call name args _ => do
      let rs ← evalTerms n sc env args
      gather rs fun (ds, e) => do
        let results ← callFunction n sc name ds
        pure (results.map (·, e))
    | .arrayOf head body => do
      let es ← evalBody n sc env body
      let vs ← gather es fun e => evalTerm n sc e head
      pure [(.array (vs.map (·.1)), env)]
    | .setOf head body => do
      let es ← evalBody n sc env body
      let vs ← gather es fun e => evalTerm n sc e head
      pure [(Datum.setOf (vs.map (·.1)), env)]
    | .objectOf key value body => do
      let es ← evalBody n sc env body
      let ps ← gather es fun e => do
        let ks ← evalTerm n sc e key
        gather ks fun (k, e2) => do
          let vs ← evalTerm n sc e2 value
          pure (vs.map fun (v, _) => (k, v))
      pure [(Datum.objectOf ps, env)]

def evalTerms : Nat → Scope → Env → List Term → Outcome (List (List Datum × Env))
  | 0, _, _, _ => throw .exhausted
  | n + 1, sc, env, ts =>
    match ts with
    | [] => pure [([], env)]
    | t :: rest => do
      let firsts ← evalTerm n sc env t
      gather firsts fun (d, e) => do
        let others ← evalTerms n sc e rest
        pure (others.map fun (ds, e2) => (d :: ds, e2))

def evalRef : Nat → Scope → Env → Term → List Term → Outcome (List (Datum × Env))
  | 0, _, _, _, _ => throw .exhausted
  | n + 1, sc, env, head, path =>
    match head with
    | .var v =>
      match List.lookup v env with
      | some d => walk n sc env d path
      | none =>
        if v == "input" then
          match sc.input with
          | some d => walk n sc env d path
          | none => pure []
        else if v == "data" then walkData n sc env [] path
        else if sc.isRule v then walkData n sc env (sc.package ++ [v]) path
        else pure []
    | other => do
      let hs ← evalTerm n sc env other
      gather hs fun (d, e) => walk n sc e d path

def walk : Nat → Scope → Env → Datum → List Term → Outcome (List (Datum × Env))
  | 0, _, _, _, _ => throw .exhausted
  | n + 1, sc, env, d, path =>
    match path with
    | [] => pure [(d, env)]
    | k :: ks =>
      match sc.openVar? env k with
      | some v => gather (members d) fun (key, val) => walk n sc (bindVar env v key) val ks
      | none => do
        let keys ← evalTerm n sc env k
        gather keys fun (kd, e) =>
          match index d kd with
          | some val => walk n sc e val ks
          | none => pure []

def walkData : Nat → Scope → Env → List String → List Term → Outcome (List (Datum × Env))
  | 0, _, _, _, _ => throw .exhausted
  | n + 1, sc, env, pre, path =>
    match sc.replaced.lookup pre with
    | some d => walk n sc env d path
    | none =>
    let below := sc.replaced.filterMap fun (p, _) =>
      if p.length > pre.length && p.take pre.length == pre then p[pre.length]? else none
    if sc.program.definesDocument pre then do
      match ← ruleDoc n sc pre with
      | some d => walk n sc env d path
      | none => pure []
    else
      let kids := sc.program.children pre
      let kids := kids ++ (below.filter fun c => !kids.contains c).eraseDups
      if !sc.program.isNode pre && below.isEmpty then pure []
      else
        match path with
        | [] => do
          let pairs ← gather kids fun c => do
            let rs ← walkData n sc env (pre ++ [c]) []
            pure (match rs with
              | (d, _) :: _ => [(Datum.string c, d)]
              | [] => [])
          pure [(Datum.objectOf pairs, env)]
        | k :: ks =>
          match sc.openVar? env k with
          | some v => gather kids fun c => walkData n sc (bindVar env v (.string c)) (pre ++ [c]) ks
          | none => do
            let keys ← evalTerm n sc env k
            gather keys fun (kd, e) =>
              match kd with
              | .string s => walkData n sc e (pre ++ [s]) ks
              | _ => pure []

/-- The document a path's rules define, if it is defined. -/
def ruleDoc : Nat → Scope → List String → Outcome (Option Datum)
  | 0, _, _ => throw .exhausted
  | n + 1, sc, path =>
    let rules := sc.program.rulesAt path
    let regular := indexOrder (sc.resolveIndex []) (rules.filter (!·.rule.isDefault))
    match ((regular ++ rules).head?.map (·.rule.kind)).getD .complete with
    | .complete => do
      let found ← regular.foldlM (fun (prev : Option Datum) e => do
          let vs ← ruleValues n sc e
          vs.foldlM (fun (prev : Option Datum) v =>
            match prev with
            | some p =>
              if p.same v then pure (some p)
              else throw (Fault.conflict e.rule.loc "complete rules must not produce multiple outputs")
            | none => pure (some v)) prev) none
      match found with
      | some v => pure (some v)
      | none =>
        match rules.find? (·.rule.isDefault) with
        | some e => do
          let vs ← evalTerm n (sc.within e) [] (e.rule.value.getD (.bool true))
          pure (vs.head?.map (·.1))
        | none => pure none
    | .partialSet => do
      let keys ← gather regular fun e => ruleKeys n sc e
      pure (some (Datum.setOf keys))
    | .partialObject => do
      let pairs ← gather regular fun e => do
        let ps ← rulePairs n sc e
        pure (ps.map fun p => (e, p))
      let obj ← pairs.foldlM (fun (acc : List (Datum × Datum)) (ep : Entry × Datum × Datum) =>
        match Datum.lookup ep.2.1 acc with
        | some w =>
          if w.same ep.2.2 then pure acc
          else throw (Fault.conflict ep.1.rule.loc "object keys must be unique")
        | none => pure (acc ++ [ep.2])) []
      let fallback ← gather (rules.filter (·.rule.isDefault)) fun e => rulePairs n sc e
      let obj := fallback.foldl (fun acc p => if (Datum.lookup p.1 acc).isSome then acc else acc ++ [p]) obj
      let below ← gather (sc.program.children path) fun c =>
        if (Datum.lookup (.string c) obj).isSome then pure []
        else do
          let rs ← walkData n sc [] (path ++ [c]) []
          pure ((rs.head?.map fun (d, _) => (Datum.string c, d)).toList)
      pure (some (Datum.objectOf (obj ++ below)))
    | .function => pure none

/-- The values a complete rule gives: its value in every way its body holds, or else those of
its first `else` branch that holds. -/
def ruleValues : Nat → Scope → Entry → Outcome (List Datum)
  | 0, _, _ => throw .exhausted
  | n + 1, sc, e => do
    let sc := sc.within e
    let envs ← evalBody n sc [] e.rule.body
    if envs.isEmpty then elseValues n sc [] e.rule.elses
    else gather envs fun env => do
      let vs ← evalTerm n sc env (e.rule.value.getD (.bool true))
      pure (vs.map (·.1))

def elseValues : Nat → Scope → Env → List (Option Term × List Literal) → Outcome (List Datum)
  | 0, _, _, _ => throw .exhausted
  | n + 1, sc, env, branches =>
    match branches with
    | [] => pure []
    | (value, body) :: rest => do
      let envs ← evalBody n sc env body
      if envs.isEmpty then elseValues n sc env rest
      else gather envs fun e => do
        let vs ← evalTerm n sc e (value.getD (.bool true))
        pure (vs.map (·.1))

def ruleKeys : Nat → Scope → Entry → Outcome (List Datum)
  | 0, _, _ => throw .exhausted
  | n + 1, sc, e => do
    let sc := sc.within e
    let envs ← evalBody n sc [] e.rule.body
    gather envs fun env => do
      let ks ← evalTerm n sc env (e.rule.key.getD .null)
      pure (ks.map (·.1))

def rulePairs : Nat → Scope → Entry → Outcome (List (Datum × Datum))
  | 0, _, _ => throw .exhausted
  | n + 1, sc, e => do
    let sc := sc.within e
    let envs ← evalBody n sc [] e.rule.body
    gather envs fun env => do
      let ks ← evalTerm n sc env (e.rule.key.getD .null)
      gather ks fun (k, env2) => do
        let vs ← evalTerm n sc env2 (e.rule.value.getD (.bool true))
        pure (vs.map fun (v, _) => (k, v))

/-- The results of a call: of the program's function it names, or else of a built-in; none
when the call fails, and several for a built-in that gives several. -/
def callFunction : Nat → Scope → String → List Datum → Outcome (List Datum)
  | 0, _, _, _ => throw .exhausted
  | n + 1, sc, name, args =>
    let key := sc.standKey name
    match sc.stands.lookup key with
    | some (.value d) => pure [d]
    | some (.function other) => callFunction n { sc with stands := sc.stands.filter (·.1 != key) } other args
    | none =>
      match sc.functionPath? name with
      | some path => return (← callUser n sc path args).toList
      | none => pure (Library.callAll name args)

/-- The result of a call of the program's function at a path: that of its definitions, or else
that of its default definition. -/
def callUser : Nat → Scope → List String → List Datum → Outcome (Option Datum)
  | 0, _, _, _ => throw .exhausted
  | n + 1, sc, path, args => do
    let all := (sc.program.rulesAt path).filter (·.rule.kind == .function)
    let regular := indexOrder (sc.resolveIndex args) (all.filter (!·.rule.isDefault))
    match ← callDefinitions n sc args regular with
    | some d => pure (some d)
    | none => callDefinitions n sc args (all.filter (·.rule.isDefault))

/-- The result of some definitions of a function for some arguments: the value every definition
that holds gives, none if none holds. -/
def callDefinitions : Nat → Scope → List Datum → List Entry → Outcome (Option Datum)
  | 0, _, _, _ => throw .exhausted
  | n + 1, sc, args, rules =>
    rules.foldlM (fun (prev : Option Datum) e => do
      let sc := sc.within e
      let params := e.rule.params.getD []
      if params.length != args.length then pure prev
      else
        let starts ← unifyItems n sc [] params args
        let vs ← gather starts fun env0 => do
          let envs ← evalBody n sc env0 e.rule.body
          if envs.isEmpty then elseValues n sc env0 e.rule.elses
          else gather envs fun env => do
            let vs ← evalTerm n sc env (e.rule.value.getD (.bool true))
            pure (vs.map (·.1))
        vs.foldlM (fun (prev : Option Datum) v =>
          match prev with
          | some p =>
            if p.same v then pure (some p)
            else throw (Fault.conflict e.rule.loc "functions must not produce multiple outputs for same inputs")
          | none => pure (some v)) prev) none

def evalBody : Nat → Scope → Env → List Literal → Outcome (List Env)
  | 0, _, _, _ => throw .exhausted
  | n + 1, sc, env, lits =>
    match lits with
    | [] => pure [env]
    | l :: rest => do
      let envs ← evalLiteral n sc env l
      gather envs fun e => evalBody n sc e rest

/-- All ways a literal holds, under its `with` modifiers; a negated one holds once, binding
nothing, when its expression does not hold. -/
def evalLiteral : Nat → Scope → Env → Literal → Outcome (List Env)
  | 0, _, _, _ => throw .exhausted
  | n + 1, sc, env, l => do
    let runs ← modified n sc env l.mods
    gather runs fun (sc1, e1) =>
      if l.negated then do
        let rs ← evalExpr n sc1 e1 l.expr
        pure (if rs.isEmpty then [e1] else [])
      else evalExpr n sc1 e1 l.expr

/-- The scopes `with` modifiers make, one for each way their values can be taken: each replaces
the input below a path, a document of `data`, or a function, by a value or by another function
its value names. -/
def modified : Nat → Scope → Env → List (Term × Term × Loc) → Outcome (List (Scope × Env))
  | 0, _, _, _ => throw .exhausted
  | n + 1, sc, env, mods =>
    match mods with
    | [] => pure [(sc, env)]
    | (target, value, _) :: rest =>
      match sc.target? target with
      | none => modified n sc env rest
      | some (.function key) =>
        match sc.functionNamed? value with
        | some other =>
          modified n { sc with stands := (key, .function other) :: sc.stands } env rest
        | none => do
          let vs ← evalTerm n sc env value
          gather vs fun (d, e1) => modified n { sc with stands := (key, .value d) :: sc.stands } e1 rest
      | some (.input keys) => do
        let vs ← evalTerm n sc env value
        gather vs fun (d, e1) => modified n { sc with input := some (upsert sc.input keys d) } e1 rest
      | some (.document path) => do
        let vs ← evalTerm n sc env value
        gather vs fun (d, e1) =>
          modified n { sc with replaced := (path, d) :: sc.replaced.filter (·.1 != path) } e1 rest

def evalExpr : Nat → Scope → Env → Expr → Outcome (List Env)
  | 0, _, _, _ => throw .exhausted
  | n + 1, sc, env, e =>
    match e with
    | .term t => do
      let rs ← evalTerm n sc env t
      pure (rs.filterMap fun (d, e) => if d.holds then some e else none)
    | .some _ => pure [env]
    | .someIn key value coll => do
      let cs ← evalTerm n sc env coll
      gather cs fun (c, e1) =>
        gather (members c) fun (k, v) => do
          let es ← match key with
            | some kt => unify n sc e1 kt k
            | none => pure [e1]
          gather es fun e2 => unify n sc e2 value v
    | .every key value domain body => do
      let ds ← evalTerm n sc env domain
      gather ds fun (d, e1) => do
        let iterable := match d with
          | .array _ | .object _ | .set _ => true
          | _ => false
        let held ← if !iterable then pure false else (members d).allM fun (k, v) => do
          let inner := bindVar (match key with
            | some kv => bindVar e1 kv k
            | none => e1) value v
          pure !(← evalBody n sc inner body).isEmpty
        pure (if held then [e1] else [])
    | .call "assign" [lhs, rhs] => do
      let rs ← evalTerm n sc env rhs
      gather rs fun (d, e1) => unify n sc e1 lhs d
    | .call "eq" [a, b] =>
      if (valueVars sc env a).isEmpty then do
        let rs ← evalTerm n sc env a
        gather rs fun (d, e1) => unify n sc e1 b d
      else do
        let rs ← evalTerm n sc env b
        gather rs fun (d, e1) => unify n sc e1 a d
    | .call "print" _ => pure [env]
    | .call name args =>
      match sc.arity? name with
      | some k =>
        if args.length == k + 1 then do
          let rs ← evalTerms n sc env (args.take k)
          gather rs fun (ds, e1) => do
            let results ← callFunction n sc name ds
            gather results fun d => unify n sc e1 (args.getLastD .null) d
        else callHolds n sc env name args
      | none => callHolds n sc env name args

def callHolds : Nat → Scope → Env → String → List Term → Outcome (List Env)
  | 0, _, _, _, _ => throw .exhausted
  | n + 1, sc, env, name, args => do
    let rs ← evalTerms n sc env args
    gather rs fun (ds, e1) => do
      let results ← callFunction n sc name ds
      pure ((results.filter Datum.holds).map fun _ => e1)

def unify : Nat → Scope → Env → Term → Datum → Outcome (List Env)
  | 0, _, _, _, _ => throw .exhausted
  | n + 1, sc, env, pattern, d =>
    match sc.openVar? env pattern with
    | some v => pure [bindVar env v d]
    | none =>
      match pattern, d with
      | .array ps, .array ds =>
        if ps.length == ds.length then unifyItems n sc env ps ds else pure []
      | .array _, _ => pure []
      | .object pairs, .object dps =>
        if pairs.length != dps.length then pure []
        else do
          let keys ← evalTerms n sc env (pairs.map Prod.fst)
          gather keys fun (ks, e1) =>
            match ks.mapM fun k => Datum.lookup k dps with
            | some vs => unifyItems n sc e1 (pairs.map Prod.snd) vs
            | none => pure []
      | .object _, _ => pure []
      | other, _ => do
        let rs ← evalTerm n sc env other
        pure (rs.filterMap fun (v, e1) => if v.same d then some e1 else none)
def unifyItems : Nat → Scope → Env → List Term → List Datum → Outcome (List Env)
  | 0, _, _, _, _ => throw .exhausted
  | n + 1, sc, env, ps, ds =>
    match ps, ds with
    | p :: ps, d :: ds => do
      let es ← unify n sc env p d
      gather es fun e => unifyItems n sc e ps ds
    | _, _ => pure [env]

end

end AccessPolicy.Rego
