import AccessPolicy.Rego.Parse
import AccessPolicy.Rego.Eval
import AccessPolicy.Rego.Check
import AccessPolicy.Rego.Scopes
import AccessPolicy.Rego.Safety
import AccessPolicy.Rego.Typing
import AccessPolicy.Rego.Metadata
/-!
# Policies
-/

namespace AccessPolicy.Rego

structure CompilerOptions where
  v1 : Bool := true
  builtins : Builtins := {}
  deriving Repr, Inhabited
inductive PolicyFailure where
  | compile (errors : List RegoError)
  | unreadable (error : RegoError)
  | prepare (errors : List RegoError)
  | evaluation (message : String)
  deriving Repr, Inhabited

namespace PolicyFailure

def kind : PolicyFailure → String
  | .compile _ => "Error"
  | .unreadable _ => "Error"
  | _ => "PolicyError"

def message : PolicyFailure → String
  | .compile es => errorsText es
  | .unreadable e => e.text
  | .prepare es => errorsText es ++ "(code-COMPILATION_ERROR)"
  | .evaluation m => m ++ "(code-EVALUATION_ERROR)"

def errorLimit : Nat := 10

/-- Errors cut at the limit, ending with a note that it was reached. -/
def limitErrors (eager : Bool) (es : List RegoError) : List RegoError :=
  if es.length > errorLimit || (eager && es.length == errorLimit) then
    es.take errorLimit ++ [⟨"rego_compile_error", none, "error limit reached", []⟩]
  else es
def compileStopped (es : List RegoError) : PolicyFailure := .compile (limitErrors true es)

def prepareStopped (es : List RegoError) : PolicyFailure := .prepare (limitErrors false es)

end PolicyFailure

structure Policy where
  name : String
  program : Program
  options : CompilerOptions
  ruleTypes : RuleTypes := {}
  deriving Repr, Inhabited

def stage (errs : List RegoError) (fail : List RegoError → PolicyFailure) : Except PolicyFailure Unit :=
  if errs.isEmpty then .ok () else .error (fail errs)

def paramNames (r : Rule) : List String :=
  (r.params.getD []).flatMap fun p => (patternNames p).2

def orderRule (st : Statics) (r : Rule) : Except (List RegoError) Rule := do
  let bound := paramNames r
  let body ← st.order bound r.body
  let elses ← r.elses.mapM fun (v, b) => do pure (v, ← st.order bound b)
  pure { r with body, elses }

def Policy.compile (opts : CompilerOptions) (name : String) (modules : List (String × String)) :
    Except PolicyFailure Policy := do
  let sorted := modules.mergeSort fun a b => decide (a.1 ≤ b.1)
  let parsed ← sorted.mapM fun (file, source) =>
    (parseModule file source opts.v1).mapError fun
      | .errors es => PolicyFailure.compile es
      | .empty => .unreadable ⟨"rego_parse_error", some ⟨file, 0, 0⟩, "empty module", []⟩
  let written := Program.ofModules parsed
  let writtenScope := fun (e : Entry) => ({ program := written, input := none, package := e.package } : Scope)
  let bs := opts.builtins
  let newer := fun (m : Module) => opts.v1 || m.imports.any (·.path == ["rego", "v1"])
  stage (parsed.flatMap fun m => if newer m then shadowedImports m.imports else []) .compileStopped
  stage (written.entries.flatMap fun e => (writtenScope e).statics.ruleDeclFaults e.rule) .compileStopped
  stage (written.entries.flatMap fun e => voidCallFaults bs (writtenScope e) (ruleCalls e.rule)) .compileStopped
  let parsed ← (withMetadata bs (parsed.zip (sorted.map (·.2)))).mapError PolicyFailure.compileStopped
  let prog := Program.ofModules parsed
  let scopeOf := fun (e : Entry) => ({ program := prog, input := none, package := e.package } : Scope)
  stage (prog.entries.flatMap fun e =>
    withFaults bs (scopeOf e) (e.rule.body ++ e.rule.elses.flatMap (·.2))) .compileStopped
  stage (ruleConflicts parsed) .compileStopped
  stage (prog.entries.flatMap fun e => callFaults ⟨scopeOf e, {}, []⟩ bs (ruleCallsInOrder e.rule)) .compileStopped
  stage (prog.entries.flatMap fun e =>
    ((scopeOf e).statics.unsafeHead e.rule).map fun (v, loc) =>
      ⟨"rego_unsafe_var_error", some loc, "var " ++ v ++ " is unsafe", []⟩) .compileStopped
  let (renamed, declared) := prog.entries.foldl (fun (acc : List Entry × Nat) e =>
    let (rule, made) := e.rule.renamed (paramNames e.rule) acc.2
    (acc.1 ++ [{ e with rule }], made)) ([], 0)
  let ordered := renamed.map fun e => (e, orderRule (scopeOf e).statics e.rule)
  stage (ordered.flatMap fun (_, r) => match r with
    | .error errs => errs
    | .ok _ => []) .compileStopped
  let entries := ordered.map fun (e, r) => match r with
    | .ok rule => { e with rule }
    | .error _ => e
  let prog : Program := { prog with entries }
  stage (entries.flatMap fun e => (scopeOf e).statics.ruleTemplateFaults (paramNames e.rule) e.rule) .compileStopped
  stage (recursionFaults prog) .compileStopped
  let (typeErrs, ruleTypes) := if bs.declared then programTypes prog declared else ([], {})
  stage typeErrs .compileStopped
  stage (entries.flatMap fun e =>
    undeclaredFaults bs { program := prog, input := none, package := e.package } (e.rule.body ++ e.rule.elses.flatMap (·.2))) .compileStopped
  let newerRules := parsed.flatMap fun m => m.rules.map fun _ => newer m
  stage ((entries.zip newerRules).flatMap fun (e, n) =>
    if n then deprecatedCallFaults (scopeOf e) (ruleCallsInOrder e.rule) else []) .compileStopped
  pure ⟨name, prog, opts, ruleTypes⟩

inductive Report where
  | value
  | holds
  deriving Repr, DecidableEq, Inhabited

mutual

def Term.iterates : Term → Bool
  | .ref head path _ => head.iterates || path.any (fun k => match k with
      | .var _ => true
      | _ => false) || termsIterate path
  | .array items => termsIterate items
  | .set items => termsIterate items
  | .object pairs => pairsIterate pairs
  | .call _ args _ => termsIterate args
  | .arrayOf .. => true
  | .setOf .. => true
  | .objectOf .. => true
  | _ => false

def termsIterate : List Term → Bool
  | [] => false
  | t :: ts => t.iterates || termsIterate ts

def pairsIterate : List (Term × Term) → Bool
  | [] => false
  | (k, v) :: ps => k.iterates || v.iterates || pairsIterate ps

end

def Expr.iterates : Expr → Bool
  | .term t => t.iterates
  | .call _ args => termsIterate args
  | .some _ => false
  | .someIn k v c => ((k.map Term.iterates).getD false) || v.iterates || c.iterates
  | .every .. => false

structure Query where
  policy : Policy
  text : String
  steps : List (Literal × Report)
  strict : Bool
  deriving Repr, Inhabited

/-- What a literal of a query reports: a term or a call of a function with a result reports its
value. -/
def reportOf (sc : Scope) (bs : Builtins) (l : Literal) : Report :=
  if l.negated then .holds
  else
    match l.expr with
    | .term _ => .value
    | .call "assign" [_, _] => .holds
    | .call "eq" [_, _] => .holds
    | .call "print" _ => .holds
    | .call name args =>
      match sc.functionPath? name with
      | some path => if sc.program.functionArity? path == some args.length then .value else .holds
      | none =>
        if bs.declared && Builtin.arity? name == some args.length then .value else .holds
    | _ => .holds

/-- The type fault of a query expression whose value is captured by a unification with an
undeclared `eq`. -/
def captureFault (sc : Scope) (l : Literal) : Option RegoError :=
  match l.expr with
  | .term t =>
    some ⟨"rego_type_error", some l.loc, "eq: arity mismatch",
      ["have: (" ++ termType sc t ++ ", ???)", "want: ()"]⟩
  | _ => none

def Policy.prepare (p : Policy) (text : String) : Except PolicyFailure Query := do
  let lits ← (parseQuery text).mapError PolicyFailure.prepare
  if lits.isEmpty then
    throw (.prepare [⟨"rego_compile_error", none, "empty query cannot be compiled", []⟩])
  let sc : Scope := { program := p.program, input := none }
  let bs := p.options.builtins
  let reports := lits.map fun l => (l, reportOf sc bs l)
  let calls := bodyCalls lits
  stage (sc.statics.queryDeclFaults lits) .prepareStopped
  stage (voidCallFaults bs sc calls) .prepareStopped
  stage (withFaults bs sc lits) .prepareStopped
  stage (callFaults ⟨sc, p.ruleTypes, []⟩ bs (bodyCallsInOrder lits)) .prepareStopped
  let (renamed, declared) := renameQuery lits
  let ordered ← (sc.statics.order [] renamed).mapError PolicyFailure.prepareStopped
  stage (sc.statics.templateFaults [] ordered).1 .prepareStopped
  let steps := ordered.map fun l =>
    (l, ((reports.find? fun (m, _) => m.loc == l.loc && m.text == l.text).map (·.2)).getD .holds)
  if bs.declared then stage (queryTypeFaults sc p.ruleTypes ordered declared) .prepareStopped
  if !bs.declared then
    stage (steps.flatMap fun (l, r) =>
      match r with
      | .value => (captureFault sc l).toList
      | .holds => undeclaredFaults bs sc [l]) .prepareStopped
  let strict := lits.length > 1 || lits.any (·.expr.iterates)
  pure ⟨p, text, steps, strict⟩

structure QueryResult where
  expressions : List (String × Datum)
  bindings : List (String × Datum)
  deriving Repr, Inhabited

def evalFuel : Nat := 10000

/-- All ways a query holds, each with the values its expressions report. -/
def runSteps (sc : Scope) (steps : List (Literal × Report)) : Outcome (List (Env × List Datum)) :=
  steps.foldlM (fun acc (l, r) => gather acc fun (env, vals) => do
    match r, l.expr with
    | .value, .term t => do
      let runs ← modified evalFuel sc env l.mods
      gather runs fun (sc1, e1) => do
        let rs ← evalTerm evalFuel sc1 e1 t
        pure (rs.map fun (d, e) => (e, vals ++ [d]))
    | .value, .call name args => do
      let runs ← modified evalFuel sc env l.mods
      gather runs fun (sc1, e1) => do
        let rs ← evalTerms evalFuel sc1 e1 args
        gather rs fun (ds, e) => do
          let results ← callFunction evalFuel sc1 name ds
          pure (results.map fun d => (e, vals ++ [d]))
    | _, _ => do
      let es ← evalLiteral evalFuel sc env l
      pure (es.map (·, vals ++ [.bool true]))) [([], [])]
def Query.eval (q : Query) (input : Option Datum) : Except PolicyFailure QueryResult := do
  let sc : Scope := { program := q.policy.program, input }
  let ways ← (runSteps sc q.steps).mapError fun f => PolicyFailure.evaluation f.text
  let counted := if q.strict then ways.filter fun (_, vals) => vals.all Datum.holds else ways
  match counted with
  | (env, vals) :: _ =>
    pure ⟨(q.steps.map (·.1.text)).zip vals, env.reverse.filter fun (v, _) => !v.startsWith "__local"⟩
  | [] => throw (.evaluation ("no opa results: " ++ q.policy.name))

/-- Evaluates a prepared query for a decision: its first expression's value, which must be a
boolean. -/
def Query.decide (q : Query) (input : Option Datum) : Except PolicyFailure Bool := do
  let r ← q.eval input
  match r.expressions with
  | [] => throw (.evaluation (q.policy.name ++ ": empty result"))
  | (_, .bool b) :: _ => pure b
  | (_, d) :: _ =>
    throw (.evaluation (q.policy.name ++ ": non-boolean result " ++ d.toValue.typeName))

end AccessPolicy.Rego
