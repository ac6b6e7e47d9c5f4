import AccessPolicy.Rego.Program
/-!
# Checks before evaluation

A program and a query are checked before they run, in stages; the first stage that finds faults
stops the compilation with all of them.
-/

namespace AccessPolicy.Rego

structure Builtins where
  removed : List String := []
  declared : Bool := true
  deriving Repr, Inhabited

def Builtins.has (b : Builtins) (name : String) : Bool :=
  (Builtin.arity? name).isSome && !b.removed.contains name

structure CallSite where
  name : String
  args : List Term
  loc : Loc
  asValue : Bool
  deriving Repr, Inhabited

mutual

def termCalls : Term → List CallSite
  | .call name args loc => ⟨name, args, loc, true⟩ :: termsCalls args
  | .ref head path _ => termCalls head ++ termsCalls path
  | .array items => termsCalls items
  | .set items => termsCalls items
  | .object pairs => pairsCalls pairs
  | .arrayOf head body => termCalls head ++ bodyCalls body
  | .setOf head body => termCalls head ++ bodyCalls body
  | .objectOf k v body => termCalls k ++ termCalls v ++ bodyCalls body
  | _ => []

def termsCalls : List Term → List CallSite
  | [] => []
  | t :: ts => termCalls t ++ termsCalls ts

def pairsCalls : List (Term × Term) → List CallSite
  | [] => []
  | (k, v) :: ps => termCalls k ++ termCalls v ++ pairsCalls ps

def bodyCalls : List Literal → List CallSite
  | [] => []
  | .mk _ e loc _ mods :: ls => exprCalls loc e ++ modCalls mods ++ bodyCalls ls

def modCalls : List (Term × Term × Loc) → List CallSite
  | [] => []
  | (_, v, _) :: ms => termCalls v ++ modCalls ms
def exprCalls (loc : Loc) : Expr → List CallSite
  | .term t => termCalls t
  | .call name args => ⟨name, args, loc, false⟩ :: termsCalls args
  | .some _ => []
  | .someIn key value coll =>
    (match key with
      | some k => termCalls k
      | none => []) ++ termCalls value ++ termCalls coll
  | .every _ _ domain body => termCalls domain ++ bodyCalls body

end

def ruleCalls (r : Rule) : List CallSite :=
  let head := (r.key.map termCalls).getD [] ++ (r.value.map termCalls).getD []
  let branches := r.elses.flatMap fun (v, b) => (v.map termCalls).getD [] ++ bodyCalls b
  head ++ bodyCalls r.body ++ branches

mutual

/-- The calls in a term in the order they run once each nested call is a step of its own: the
calls in a call's arguments, in order, come before the call, and the calls of a comprehension's
head, which are taken out to the end of its body, after those of its body. -/
def termCallsInOrder : Term → List CallSite
  | .call name args loc => termsCallsInOrder args ++ [⟨name, args, loc, true⟩]
  | .ref head path _ => termCallsInOrder head ++ termsCallsInOrder path
  | .array items => termsCallsInOrder items
  | .set items => termsCallsInOrder items
  | .object pairs => pairsCallsInOrder pairs
  | .arrayOf head body => bodyCallsInOrder body ++ termCallsInOrder head
  | .setOf head body => bodyCallsInOrder body ++ termCallsInOrder head
  | .objectOf k v body => bodyCallsInOrder body ++ termCallsInOrder k ++ termCallsInOrder v
  | _ => []
def termsCallsInOrder : List Term → List CallSite
  | [] => []
  | t :: ts => termCallsInOrder t ++ termsCallsInOrder ts

def pairsCallsInOrder : List (Term × Term) → List CallSite
  | [] => []
  | (k, v) :: ps => termCallsInOrder k ++ termCallsInOrder v ++ pairsCallsInOrder ps

/-- The calls in a body in the order they run: for each literal, the calls nested in it and in
its modifiers' values, then the literal's own call. -/
def bodyCallsInOrder : List Literal → List CallSite
  | [] => []
  | .mk _ e loc _ mods :: ls => modCallsInOrder mods ++ exprCallsInOrder loc e ++ bodyCallsInOrder ls

def modCallsInOrder : List (Term × Term × Loc) → List CallSite
  | [] => []
  | (_, v, _) :: ms => termCallsInOrder v ++ modCallsInOrder ms

def exprCallsInOrder (loc : Loc) : Expr → List CallSite
  | .term t => termCallsInOrder t
  | .call name args => termsCallsInOrder args ++ [⟨name, args, loc, false⟩]
  | .some _ => []
  | .someIn key value coll =>
    (match key with
      | some k => termCallsInOrder k
      | none => []) ++ termCallsInOrder value ++ termCallsInOrder coll
  | .every _ _ domain body => termCallsInOrder domain ++ bodyCallsInOrder body

end

/-- The calls of a rule in the order they run: those of its body, then those of its head's key
and value, which are taken out to the end of the body; then those of each `else` branch. -/
def ruleCallsInOrder (r : Rule) : List CallSite :=
  let head := (r.key.map termCallsInOrder).getD [] ++ (r.value.map termCallsInOrder).getD []
  let branches := r.elses.flatMap fun (v, b) => bodyCallsInOrder b ++ (v.map termCallsInOrder).getD []
  bodyCallsInOrder r.body ++ head ++ branches

/-- Faults of calls of built-ins without a result used as values: `print`, and every built-in
that lost its declaration. -/
def voidCallFaults (bs : Builtins) (sc : Scope) (calls : List CallSite) : List RegoError :=
  calls.filterMap fun c =>
    if c.asValue && bs.has c.name && (sc.functionPath? c.name).isNone &&
        (!bs.declared || c.name == "print") then
      some ⟨"rego_type_error", some c.loc, (Term.call c.name c.args c.loc).render ++ " used as value", []⟩
    else none

def deprecatedBuiltins : List String :=
  ["any", "all", "set_diff", "re_match", "net.cidr_overlap", "cast_array", "cast_set",
   "cast_string", "cast_boolean", "cast_null", "cast_object"]

/-- Faults of calls of deprecated built-ins, which a module in the newer version of the
language may not make; a function of the policy with such a name is not one of them. -/
def deprecatedCallFaults (sc : Scope) (calls : List CallSite) : List RegoError :=
  calls.filterMap fun c =>
    if deprecatedBuiltins.contains c.name && (sc.functionPath? c.name).isNone then
      some ⟨"rego_type_error", some c.loc, "deprecated built-in function calls in expression: " ++ c.name, []⟩
    else none

/-- The fault of a `with` target, if it has one. -/
def targetFault (bs : Builtins) (sc : Scope) (target : Term) (loc : Loc) : Option RegoError :=
  let typeFault : RegoError := ⟨"rego_type_error", some loc,
    "with keyword target must reference existing input, data, or a function", []⟩
  let partialFault := fun (keys : List Term) =>
    let strs := (keys.dropLast.takeWhile fun k => match k with
      | .string _ => true
      | _ => false).filterMap fun k => match k with
      | .string s => some s
      | _ => none
    if (List.range strs.length).any fun i => !(sc.program.rulesAt (strs.take (i + 1))).isEmpty then
      some (⟨"rego_compile_error", some loc,
        "with keyword cannot partially replace virtual document(s)", []⟩ : RegoError)
    else none
  let headKeys : Option (String × List Term) := match target with
    | .var v => some (v, [])
    | .ref (.var v) ks _ => some (v, ks)
    | _ => none
  match headKeys with
  | none => some typeFault
  | some (h, ks) =>
    if h == "input" then none
    else if h == "data" then partialFault ks
    else if sc.isRule h then partialFault ((sc.package ++ [h]).map Term.string ++ ks)
    else
      let name := ".".intercalate (h :: ks.filterMap fun k => match k with
        | .string s => some s
        | _ => none)
      if bs.has name then none else some typeFault

def withFaults (bs : Builtins) (sc : Scope) (lits : List Literal) : List RegoError :=
  lits.flatMap fun l => l.mods.filterMap fun (t, _, loc) => targetFault bs sc t loc

/-! ## Safety -/

mutual

/-- The variables a term needs bound and those it binds by walking keys of references. -/
def termNames : Term → List String × List String
  | .var v => ([v], [])
  | .ref head path _ =>
    let (n, p) := termNames head
    let (n2, p2) := keyNames path
    (n ++ n2, p ++ p2)
  | .array items => termsNames items
  | .set items => termsNames items
  | .object pairs => pairsNames pairs
  | .call _ args _ => termsNames args
  | _ => ([], [])

def keyNames : List Term → List String × List String
  | [] => ([], [])
  | .var v :: ks =>
    let (n, p) := keyNames ks
    (n, v :: p)
  | k :: ks =>
    let (n, p) := termNames k
    let (n2, p2) := keyNames ks
    (n ++ n2, p ++ p2)

def termsNames : List Term → List String × List String
  | [] => ([], [])
  | t :: ts =>
    let (n, p) := termNames t
    let (n2, p2) := termsNames ts
    (n ++ n2, p ++ p2)
def pairsNames : List (Term × Term) → List String × List String
  | [] => ([], [])
  | (k, v) :: ps =>
    let (n, p) := termNames k
    let (n2, p2) := termNames v
    let (n3, p3) := pairsNames ps
    (n ++ n2 ++ n3, p ++ p2 ++ p3)

end

mutual

/-- The variables a pattern needs bound and those it binds: its variables bind, through arrays
and the values of objects; any other term is evaluated. -/
def patternNames : Term → List String × List String
  | .var v => ([], [v])
  | .array items => patternsNames items
  | .object pairs => patternPairsNames pairs
  | t => termNames t

def patternsNames : List Term → List String × List String
  | [] => ([], [])
  | t :: ts =>
    let (n, p) := patternNames t
    let (n2, p2) := patternsNames ts
    (n ++ n2, p ++ p2)

def patternPairsNames : List (Term × Term) → List String × List String
  | [] => ([], [])
  | (k, v) :: ps =>
    let (n, p) := termNames k
    let (n2, p2) := patternNames v
    let (n3, p3) := patternPairsNames ps
    (n ++ n2 ++ n3, p ++ p2 ++ p3)

end

def opaqueTerm : Term → Bool
  | .var _ | .ref .. | .call .. | .arrayOf .. | .setOf .. | .objectOf .. => true
  | _ => false

mutual

/-- The variables of a pattern that unifying it with a term binds. -/
def unifyBinds : Term → Term → List String
  | .var v, _ => [v]
  | .array ps, .array ts => if ps.length == ts.length then unifyItemBinds ps ts else []
  | .object ps, .object ts => if ps.length == ts.length then unifyPairBinds ps ts else []
  | .array ps, t => if opaqueTerm t then (patternsNames ps).2 else []
  | .object ps, t => if opaqueTerm t then (patternPairsNames ps).2 else []
  | _, _ => []

def unifyItemBinds : List Term → List Term → List String
  | p :: ps, t :: ts => unifyBinds p t ++ unifyItemBinds ps ts
  | _, _ => []

/-- The variables the values of an object pattern bind against the values of an object under
the same keys. -/
def unifyPairBinds : List (Term × Term) → List (Term × Term) → List String
  | [], _ => []
  | (k, v) :: ps, ts =>
    (match ts.find? (fun (k', _) => k'.render == k.render) with
      | some (_, t) => unifyBinds v t
      | none => []) ++ unifyPairBinds ps ts

end

/-- The variables a pattern needs bound and those it binds when it is unified with a term: those
of its variables the unification does not bind are needed. -/
def unifyNames (pat other : Term) : List String × List String :=
  let (n, p) := patternNames pat
  let bound := unifyBinds pat other
  (n ++ p.filter (!bound.contains ·), p.filter bound.contains)

structure Statics where
  isRule : String → Bool
  arity : String → Option Nat

def Statics.free (st : Statics) (v : String) : Bool :=
  v == "_" || isRoot v || st.isRule v

def Statics.missing (st : Statics) (bound : List String) (names : List String) : List String :=
  (names.filter fun v => !st.free v && !bound.contains v).eraseDups

/-- The variables the values of a literal's `with` modifiers need; a name of a function stands
for the function. -/
def Statics.modNames (st : Statics) (l : Literal) : List String :=
  (l.mods.flatMap fun (_, v, _) => let (n, p) := termNames v; n ++ p).filter fun v =>
    (st.arity v).isNone

/-- The ways a literal can run, each as the variables it then needs bound and those it binds:
an equality runs either way round. -/
def Statics.flows (st : Statics) (l : Literal) : List (List String × List String) :=
  let both := fun (a b : List String × List String) => (a.1 ++ b.1, a.2 ++ b.2)
  if l.negated then
    let (n, p) := match l.expr with
      | .term t => termNames t
      | .call _ args => termsNames args
      | .some _ => ([], [])
      | .someIn k v c => both (both ((k.map termNames).getD ([], [])) (termNames v)) (termNames c)
      | .every _ _ d _ => termNames d
    [(n ++ p, [])]
  else
    match l.expr with
    | .term t => [termNames t]
    | .some _ => [([], [])]
    | .someIn k v c => [both (both ((k.map patternNames).getD ([], [])) (patternNames v)) (termNames c)]
    | .every _ _ d _ => [termNames d]
    | .call "assign" [lhs, rhs] => [both (unifyNames lhs rhs) (termNames rhs)]
    | .call "eq" [a, b] => [both (termNames a) (unifyNames b a), both (unifyNames a b) (termNames b)]
    | .call name args =>
      match st.arity name with
      | some k =>
        if args.length == k + 1 then [both (termsNames (args.take k)) (patternNames (args.getLastD .null))]
        else [termsNames args]
      | none => [termsNames args]

/-- What a literal binds if it is ready to run with some variables bound: none when it needs one
that is not, the values of its `with` modifiers included. -/
def Statics.binds (st : Statics) (bound : List String) (l : Literal) : Option (List String) :=
  if !(st.missing bound (st.modNames l)).isEmpty then none else
  (st.flows l).findSome? fun (n, p) => if (st.missing bound n).isEmpty then some p else none

/-- The variables of a literal's expression, outside comprehensions. -/
def literalVars (l : Literal) : List String :=
  let (n, p) := match l.expr with
    | .term t => termNames t
    | .call _ args => termsNames args
    | .some _ => ([], [])
    | .someIn k v c =>
      let (n1, p1) := (k.map termNames).getD ([], [])
      let (n2, p2) := termNames v
      let (n3, p3) := termNames c
      (n1 ++ n2 ++ n3, p1 ++ p2 ++ p3)
    | .every _ _ d _ => termNames d
  n ++ p

def Statics.literalNames (st : Statics) (l : Literal) : List String :=
  st.modNames l ++ literalVars l

def bodyNames (body : List Literal) : List String :=
  body.flatMap fun l =>
    (l.mods.flatMap fun (_, v, _) => let (n, p) := termNames v; n ++ p) ++ literalVars l

/-- The variables of a rule's head that its body and parameters never mention, and of the
value of each `else` branch that its body and the parameters never mention, each with where its
rule or branch starts. -/
def Statics.unsafeHead (st : Statics) (r : Rule) : List (String × Loc) :=
  let params := ((r.params.getD []).map fun p => (patternNames p).2 ++ (patternNames p).1).flatten
  let unsafeIn := fun (body : List Literal) (terms : List Term) =>
    let known := bodyNames body ++ params
    let headVars := terms.flatMap fun t => let (n, p) := termNames t; n ++ p
    (headVars.filter fun v => !st.free v && !known.contains v).eraseDups
  (unsafeIn r.body (r.key.toList ++ r.value.toList)).map (·, r.loc) ++
    (r.elses.zip (r.elseLocs ++ r.elses.map fun _ => r.loc)).flatMap fun ((v, b), loc) =>
      (unsafeIn b v.toList).map (·, loc)

/-- The statics of a scope: a bare name of a rule or a function of the package needs no
binding. -/
def Scope.statics (sc : Scope) : Statics := ⟨fun v => sc.isRule v || sc.isFunctionName v, sc.arity?⟩

/-! ## Declared variables -/

inductive Occurrence where
  | seen
  | assigned
  | declared
  | arg
  deriving Repr, DecidableEq, Inhabited
def Occurrence.fault (v : String) : Occurrence → String
  | .seen => "var " ++ v ++ " referenced above"
  | .assigned => "var " ++ v ++ " assigned above"
  | .declared => "var " ++ v ++ " declared above"
  | .arg => "arg " ++ v ++ " redeclared"
abbrev Occurrences := List (String × Occurrence)

def Statics.see (st : Statics) (occ : Occurrences) (names : List String) : Occurrences :=
  names.foldl (fun acc v => if st.free v || acc.any (·.1 == v) then acc else acc ++ [(v, .seen)]) occ

def declare (loc : Loc) (kind : Occurrence) (occ : Occurrences) (names : List String) :
    List RegoError × Occurrences :=
  names.foldl (fun (errs, acc) v =>
    if v == "_" then (errs, acc)
    else
      match acc.find? (·.1 == v) with
      | some (_, o) => (errs ++ [⟨"rego_compile_error", some loc, o.fault v, []⟩], acc)
      | none => (errs, acc ++ [(v, kind)])) ([], occ)

mutual

/-- The variables an assignment's left side declares, through arrays and the values of objects,
and the kinds of the other terms in it, which cannot be assigned to. -/
def assignTargets : Term → List String × List String
  | .var v => ([v], [])
  | .array items => itemsTargets items
  | .object pairs => pairsTargets pairs
  | t => ([], [t.kindName])

def itemsTargets : List Term → List String × List String
  | [] => ([], [])
  | t :: ts =>
    let (a, b) := assignTargets t
    let (c, d) := itemsTargets ts
    (a ++ c, b ++ d)

def pairsTargets : List (Term × Term) → List String × List String
  | [] => ([], [])
  | (_, v) :: ps =>
    let (a, b) := assignTargets v
    let (c, d) := pairsTargets ps
    (a ++ c, b ++ d)

end
def termVars (t : Term) : List String :=
  let (n, p) := termNames t
  n ++ p

/-- The declarations of one literal: its faults and the occurrences after it. -/
def Statics.declStep (st : Statics) (occ : Occurrences) (l : Literal) : List RegoError × Occurrences :=
  let modVars := l.mods.flatMap fun (_, v, _) => termVars v
  match l.expr with
  | .call "assign" [lhs, rhs] =>
    if l.negated then ([⟨"rego_compile_error", some l.loc, "cannot assign vars inside negated expression", []⟩], occ)
    else
      let occ := st.see occ (termVars rhs ++ modVars)
      let (vars, bad) := assignTargets lhs
      let (errs, occ) := declare l.loc .assigned occ vars
      (errs ++ bad.map fun k => ⟨"rego_compile_error", some l.loc, "cannot assign to " ++ k, []⟩, occ)
  | .some names => declare l.loc .declared occ names
  | .someIn key value coll =>
    let occ := st.see occ (termVars coll ++ modVars)
    declare l.loc .declared occ (((key.map fun k => (patternNames k).2).getD []) ++ (patternNames value).2)
  | .every _ _ domain _ => ([], st.see occ (termVars domain ++ modVars))
  | .term t => ([], st.see occ (termVars t ++ modVars))
  | .call _ args => ([], st.see occ (args.flatMap termVars ++ modVars))

mutual

def termBodies : Term → List (List Literal)
  | .ref head path _ => termBodies head ++ termsBodies path
  | .array items => termsBodies items
  | .set items => termsBodies items
  | .object pairs => pairsBodies pairs
  | .call _ args _ => termsBodies args
  | .arrayOf _ body => [body]
  | .setOf _ body => [body]
  | .objectOf _ _ body => [body]
  | _ => []
def termsBodies : List Term → List (List Literal)
  | [] => []
  | t :: ts => termBodies t ++ termsBodies ts

def pairsBodies : List (Term × Term) → List (List Literal)
  | [] => []
  | (k, v) :: ps => termBodies k ++ termBodies v ++ pairsBodies ps

end

/-- The bodies inside a literal, each with the occurrences its frame starts with: those of
comprehensions start empty, that of `every` with its key and value declared. -/
def literalBodies (l : Literal) : List (Occurrences × List Literal) :=
  let inTerms := fun (ts : List Term) => (termsBodies ts).map fun b => (([] : Occurrences), b)
  let mods := inTerms (l.mods.map fun (_, v, _) => v)
  mods ++ match l.expr with
    | .term t => inTerms [t]
    | .call _ args => inTerms args
    | .someIn key value coll => inTerms (key.toList ++ [value, coll])
    | .every key value domain body =>
      inTerms [domain] ++ [((key.toList ++ [value]).map fun v => (v, Occurrence.declared), body)]
    | .some _ => []

/-- The faults of the declarations of a body whose frame starts with some occurrences; the
bodies of comprehensions and of `every` have frames of their own. -/
def Statics.declFaults (st : Statics) : Nat → Occurrences → List Literal → List RegoError
  | 0, _, _ => []
  | fuel + 1, occ, body =>
    (body.foldl (fun (acc : List RegoError × Occurrences) l =>
      let (e, occ) := st.declStep acc.2 l
      let inner := (literalBodies l).flatMap fun (start, b) => st.declFaults fuel start b
      (acc.1 ++ e ++ inner, occ)) ([], occ)).1

mutual

def termMentions : Term → List String
  | .var v => [v]
  | .ref head path _ => termMentions head ++ termsMentions path
  | .array items => termsMentions items
  | .set items => termsMentions items
  | .object pairs => pairsMentions pairs
  | .call _ args _ => termsMentions args
  | .arrayOf head body => termMentions head ++ bodyMentions body
  | .setOf head body => termMentions head ++ bodyMentions body
  | .objectOf k v body => termMentions k ++ termMentions v ++ bodyMentions body
  | _ => []

def termsMentions : List Term → List String
  | [] => []
  | t :: ts => termMentions t ++ termsMentions ts

def pairsMentions : List (Term × Term) → List String
  | [] => []
  | (k, v) :: ps => termMentions k ++ termMentions v ++ pairsMentions ps

def bodyMentions : List Literal → List String
  | [] => []
  | .mk _ e _ _ mods :: ls => exprMentions e ++ modsMentions mods ++ bodyMentions ls

def modsMentions : List (Term × Term × Loc) → List String
  | [] => []
  | (t, v, _) :: ms => termMentions t ++ termMentions v ++ modsMentions ms

def exprMentions : Expr → List String
  | .term t => termMentions t
  | .call _ args => termsMentions args
  | .some names => names
  | .someIn key value coll =>
    (match key with
      | some k => termMentions k
      | none => []) ++ termMentions value ++ termMentions coll
  | .every key value domain body => key.toList ++ [value] ++ termMentions domain ++ bodyMentions body

end

mutual

def termFrames : Term → List (List String × List Literal)
  | .ref head path _ => termFrames head ++ termsFrames path
  | .array items => termsFrames items
  | .set items => termsFrames items
  | .object pairs => pairsFrames pairs
  | .call _ args _ => termsFrames args
  | .arrayOf head body => [(termMentions head, body)]
  | .setOf head body => [(termMentions head, body)]
  | .objectOf k v body => [(termMentions k ++ termMentions v, body)]
  | _ => []

def termsFrames : List Term → List (List String × List Literal)
  | [] => []
  | t :: ts => termFrames t ++ termsFrames ts

def pairsFrames : List (Term × Term) → List (List String × List Literal)
  | [] => []
  | (k, v) :: ps => termFrames k ++ termFrames v ++ pairsFrames ps

end

/-- The bodies nested in a literal, each with the variables it declares at its start and those
mentioned outside it that count as its own: a comprehension's body declares nothing and its head
counts, the body of `every` declares its key and value. -/
def literalFrames (l : Literal) : List (List String × List String × List Literal) :=
  let inTerms := fun (ts : List Term) => (termsFrames ts).map fun (u, b) => (([] : List String), u, b)
  inTerms (l.mods.map fun (_, v, _) => v) ++ match l.expr with
    | .term t => inTerms [t]
    | .call _ args => inTerms args
    | .someIn key value coll => inTerms (key.toList ++ [value, coll])
    | .every key value domain body => inTerms [domain] ++ [(key.toList ++ [value], [], body)]
    | .some _ => []

/-- The faults of variables a body declares and never mentions again: those it is given, which
`every` declares for its body, and those of its `some` declarations. -/
def unusedFaults : Nat → List String → List String → List Literal → List RegoError
  | 0, _, _, _ => []
  | fuel + 1, given, used, body =>
    let inner := body.flatMap fun l =>
      (literalFrames l).map fun (g, u, b) => unusedFaults fuel g u b
    match inner.find? (!·.isEmpty) with
    | some errs => errs
    | none =>
      let declared := given ++ body.flatMap fun l => match l.expr with
        | .some names => names
        | _ => []
      let seen := used ++ body.flatMap fun l => match l.expr with
        | .some _ => []
        | _ => bodyMentions [l]
      match body with
      | l :: _ => (declared.filter fun v => v != "_" && !seen.contains v).map fun v =>
          ⟨"rego_compile_error", some l.loc, "declared var " ++ v ++ " unused", []⟩
      | [] => []

/-- The faults of the declarations of a query: a variable declared twice, or else one declared
and never used. -/
def Statics.queryDeclFaults (st : Statics) (body : List Literal) : List RegoError :=
  match st.declFaults 100 [] body with
  | [] => unusedFaults 100 [] [] body
  | faults => faults

/-- The faults of the declarations of a rule, branch by branch: first those of the comprehensions
of the branch's head, each a body of its own; then those of its body, which starts with the
function's parameters and, without other faults, must use the variables it declares, its head's
variables counting as used. -/
def Statics.ruleDeclFaults (st : Statics) (r : Rule) : List RegoError :=
  let args := ((r.params.getD []).flatMap fun p => (patternNames p).2).map fun v => (v, Occurrence.arg)
  let keyVars := (r.key.map termMentions).getD []
  let ofBody := fun (start : Occurrences) (used : List String) (b : List Literal) =>
    match st.declFaults 100 start b with
    | [] => unusedFaults 100 [] used b
    | faults => faults
  ((r.key, r.value, r.body) :: r.elses.map fun (v, b) => (none, v, b)).flatMap fun (k, v, b) =>
    ((termsFrames (k.toList ++ v.toList)).flatMap fun (u, inner) => ofBody [] u inner) ++
      ofBody args (keyVars ++ (v.map termMentions).getD []) b

/-! ## Recursion -/

def namePrefix : List Term → List String
  | .string s :: ks => s :: namePrefix ks
  | _ => []

/-- The document a reference leads into, by the path of names it starts with: below `data`, or
below the package for a bare name of one of its rules. -/
def refPath (sc : Scope) (head : Term) (path : List Term) : List (List String) :=
  match head with
  | .var v =>
    if v == "data" then [namePrefix path]
    else if sc.isRule v then [sc.package ++ v :: namePrefix path]
    else []
  | _ => []

mutual

/-- The documents and functions a term refers to, each by the path of names its reference starts
with: references to `data`, bare names of the package's rules, and calls of the program's
functions. -/
def termRefs (sc : Scope) : Term → List (List String)
  | .var v => if sc.isRule v then [sc.package ++ [v]] else []
  | .ref head path _ => refPath sc head path ++ termRefs sc head ++ termsRefs sc path
  | .array items => termsRefs sc items
  | .set items => termsRefs sc items
  | .object pairs => pairsRefs sc pairs
  | .call name args _ => (sc.functionPath? name).toList ++ termsRefs sc args
  | .arrayOf head body => termRefs sc head ++ bodyRefs sc body
  | .setOf head body => termRefs sc head ++ bodyRefs sc body
  | .objectOf k v body => termRefs sc k ++ termRefs sc v ++ bodyRefs sc body
  | _ => []

def termsRefs (sc : Scope) : List Term → List (List String)
  | [] => []
  | t :: ts => termRefs sc t ++ termsRefs sc ts

def pairsRefs (sc : Scope) : List (Term × Term) → List (List String)
  | [] => []
  | (k, v) :: ps => termRefs sc k ++ termRefs sc v ++ pairsRefs sc ps

def bodyRefs (sc : Scope) : List Literal → List (List String)
  | [] => []
  | .mk _ e _ _ mods :: ls => exprRefs sc e ++ modsRefs sc mods ++ bodyRefs sc ls

def modsRefs (sc : Scope) : List (Term × Term × Loc) → List (List String)
  | [] => []
  | (t, v, _) :: ms => termRefs sc t ++ termRefs sc v ++ modsRefs sc ms

def exprRefs (sc : Scope) : Expr → List (List String)
  | .term t => termRefs sc t
  | .call name args => (sc.functionPath? name).toList ++ termsRefs sc args
  | .some _ => []
  | .someIn key value coll =>
    (match key with
      | some k => termRefs sc k
      | none => []) ++ termRefs sc value ++ termRefs sc coll
  | .every _ _ domain body => termRefs sc domain ++ bodyRefs sc body

end

def ruleRefs (sc : Scope) (r : Rule) : List (List String) :=
  termsRefs sc (r.key.toList ++ r.value.toList ++ r.params.getD []) ++ bodyRefs sc r.body ++
    r.elses.flatMap fun (v, b) => (v.map (termRefs sc)).getD [] ++ bodyRefs sc b

/-- A path of rules, by index, from a rule to a target along their dependencies, found depth
first; a rule once visited is not entered again. -/
def cyclePath (edges : Nat → List Nat) (target : Nat) : Nat → Nat → List Nat → Option (List Nat) × List Nat
  | 0, _, visited => (none, visited)
  | fuel + 1, node, visited =>
    if visited.contains node then (none, visited)
    else
      (edges node).foldl (fun (acc : Option (List Nat) × List Nat) v =>
        match acc.1 with
        | some p => (some p, acc.2)
        | none =>
          if v = target then (some [node, v], acc.2)
          else
            match cyclePath edges target fuel v acc.2 with
            | (some p, vis) => (some (node :: p), vis)
            | (none, vis) => (none, vis)) (none, node :: visited)

def dataName (path : List String) : String :=
  (Term.ref (.var "data") (path.map .string) ⟨"", 0, 0⟩).render

/-- The faults of rules that depend on themselves: a rule depends on the rules whose documents
its references lead into or lie inside of. -/
def recursionFaults (prog : Program) : List RegoError :=
  let entries := prog.entries
  let refsOf := entries.map fun e => ruleRefs { program := prog, input := none, package := e.package } e.rule
  let edges := fun (i : Nat) =>
    let refs := refsOf.getD i []
    (List.range entries.length).filter fun j =>
      match entries[j]? with
      | some e => refs.any fun p => p.isPrefixOf e.path || e.path.isPrefixOf p
      | none => false
  (List.range entries.length).filterMap fun i =>
    match entries[i]?, (cyclePath edges i (entries.length + 1) i []).1 with
    | some e, some p =>
      let names := p.map fun j => dataName ((entries[j]?.map Entry.path).getD [])
      some ⟨"rego_recursion_error", some e.rule.loc,
        "rule " ++ dataName e.path ++ " is recursive: " ++ " -> ".intercalate names, []⟩
    | _, _ => none

/-! ## Types of terms, as undeclared built-ins report them -/

def unionType (ts : List String) : String :=
  match ts.eraseDups with
  | [t] => t
  | [] => "any"
  | ts => "any<" ++ ", ".intercalate ts ++ ">"

mutual

def plainType : Term → String
  | .bool _ => "boolean"
  | .number _ => "number"
  | .string _ => "string"
  | .null => "null"
  | .array items =>
    if items.isEmpty then "array" else "array<" ++ ", ".intercalate (plainTypes items) ++ ">"
  | _ => "any"

def plainTypes : List Term → List String
  | [] => []
  | t :: ts => plainType t :: plainTypes ts

end

def Scope.pathType (sc : Scope) (path : List String) : String :=
  match (sc.program.rulesAt path).head? with
  | some e =>
    match e.rule.kind with
    | .complete => (e.rule.value.map plainType).getD "boolean"
    | .partialSet => "set[any]"
    | _ => "any"
  | none => "any"

mutual

def termType (sc : Scope) : Term → String
  | .null => "null"
  | .bool _ => "boolean"
  | .number _ => "number"
  | .string _ => "string"
  | .var v => if sc.isRule v then sc.pathType (sc.package ++ [v]) else "???"
  | .ref (.var "data") path _ =>
    match path.mapM (fun k => match k with
      | .string s => some s
      | _ => none) with
    | some keys => sc.pathType keys
    | none => "any"
  | .array items => if items.isEmpty then "array" else "array<" ++ ", ".intercalate (itemTypes sc items) ++ ">"
  | .set items => "set[" ++ unionType (itemTypes sc items) ++ "]"
  | .object pairs =>
    if pairs.isEmpty then "object" else "object<" ++ ", ".intercalate (pairTypes sc pairs) ++ ">"
  | _ => "any"

def itemTypes (sc : Scope) : List Term → List String
  | [] => []
  | t :: ts => termType sc t :: itemTypes sc ts
def pairTypes (sc : Scope) : List (Term × Term) → List String
  | [] => []
  | (k, v) :: ps =>
    ((match k with
      | .string s => s
      | k => k.render) ++ ": " ++ termType sc v) :: pairTypes sc ps

end

/-- The fault of a call of an undeclared built-in as a literal: a unification compares its
types with none, any other call has too many arguments. -/
def undeclaredCallFault (sc : Scope) (loc : Loc) (name : String) (args : List Term) : RegoError :=
  let given := "have: (" ++ ", ".intercalate (args.map (termType sc)) ++ ")"
  let message := if name == "eq" || name == "assign" then "eq: arity mismatch" else name ++ ": too many arguments"
  ⟨"rego_type_error", some loc, message, [given, "want: ()"]⟩

def undeclaredFaults (bs : Builtins) (sc : Scope) (body : List Literal) : List RegoError :=
  if bs.declared then []
  else body.filterMap fun l =>
    match l.expr with
    | .call name args =>
      if (sc.functionPath? name).isNone && bs.has name then some (undeclaredCallFault sc l.loc name args)
      else none
    | _ => none

mutual

/-- The expressions of the template strings in a term, outside comprehensions, each with where
it starts. -/
def termTemplates : Term → List (Term × Loc)
  | .call "internal.template_string" [.array parts] _ => parts.filterMap fun p => match p with
    | .setOf e [.mk _ _ loc _ _] => some (e, loc)
    | _ => none
  | .call _ args _ => termsTemplates args
  | .ref head path _ => termTemplates head ++ termsTemplates path
  | .array items => termsTemplates items
  | .set items => termsTemplates items
  | .object pairs => pairsTemplates pairs
  | _ => []
def termsTemplates : List Term → List (Term × Loc)
  | [] => []
  | t :: ts => termTemplates t ++ termsTemplates ts

def pairsTemplates : List (Term × Term) → List (Term × Loc)
  | [] => []
  | (k, v) :: ps => termTemplates k ++ termTemplates v ++ pairsTemplates ps

end

def literalTerms (l : Literal) : List Term :=
  match l.expr with
  | .term t => [t]
  | .call _ args => args
  | .some _ => []
  | .someIn k v c => k.toList ++ [v, c]
  | .every _ _ d _ => [d]

/-- The fault of a template string's expression that uses a variable bound nowhere before it:
an expression of a template string is only read, so each of its variables must already have a
value; a wildcard never has one. -/
def Statics.templateFault (st : Statics) (bound : List String) (e : Term) (loc : Loc) :
    Option RegoError :=
  ((termVars e).find? fun v => v == "_" || (!bound.contains v && !isRoot v && !st.isRule v)).map
    fun v => ⟨"rego_compile_error", some loc, "var " ++ writtenName v ++ " is undeclared", []⟩

/-- The faults of the template strings of a body in the order it runs, given the variables
bound before it, and the variables bound after it. -/
def Statics.templateFaults (st : Statics) (bound : List String) : List Literal →
    List RegoError × List String
  | [] => ([], bound)
  | l :: ls =>
    let here := ((literalTerms l).flatMap termTemplates).filterMap fun (e, loc) =>
      st.templateFault bound e loc
    let (rest, after) := st.templateFaults (bound ++ ((st.binds bound l).getD [])) ls
    (here ++ rest, after)

/-- The faults of the template strings of a rule whose bodies are in the order they run: those
of each body, then those of its head, which sees what the body binds. -/
def Statics.ruleTemplateFaults (st : Statics) (params : List String) (r : Rule) : List RegoError :=
  let branch := fun (value : Option Term) (body : List Literal) =>
    let (errs, bound) := st.templateFaults params body
    let head := (r.key.toList ++ value.toList).flatMap termTemplates
    errs ++ head.filterMap fun (e, loc) => st.templateFault bound e loc
  branch r.value r.body ++ r.elses.flatMap fun (v, b) => branch v b

end AccessPolicy.Rego
