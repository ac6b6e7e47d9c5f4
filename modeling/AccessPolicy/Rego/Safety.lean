import AccessPolicy.Rego.Check
import AccessPolicy.Rego.Index
/-!
# Safety

A body runs its literals in an order in which each finds bound the variables it needs. The
checks say what each literal needs and binds; this module finds the order, for a body and for
the bodies of the closures in it, and the variables that are unsafe when there is none.
-/

namespace AccessPolicy.Rego

mutual

/-- The variables the comprehensions of a term mention, outside template strings, whose
expressions are checked on their own. -/
def termClosureNames : Term → List String
  | .ref head path _ => termClosureNames head ++ termsClosureNames path
  | .array items => termsClosureNames items
  | .set items => termsClosureNames items
  | .object pairs => pairsClosureNames pairs
  | .call "internal.template_string" _ _ => []
  | .call _ args _ => termsClosureNames args
  | .arrayOf head body => termMentions head ++ bodyMentions body
  | .setOf head body => termMentions head ++ bodyMentions body
  | .objectOf k v body => termMentions k ++ termMentions v ++ bodyMentions body
  | _ => []
def termsClosureNames : List Term → List String
  | [] => []
  | t :: ts => termClosureNames t ++ termsClosureNames ts

def pairsClosureNames : List (Term × Term) → List String
  | [] => []
  | (k, v) :: ps => termClosureNames k ++ termClosureNames v ++ pairsClosureNames ps

end

/-- The variables the closures of a literal mention: all those of its comprehensions, and those
of the body of `every`, whose domain is read as it stands. -/
def literalClosureNames (l : Literal) : List String :=
  termsClosureNames (l.mods.map fun (_, v, _) => v) ++ match l.expr with
    | .term t => termClosureNames t
    | .call _ args => termsClosureNames args
    | .someIn key value coll => termsClosureNames (key.toList ++ [value, coll])
    | .every _ _ _ body => bodyMentions body
    | .some _ => []

def Statics.waits (st : Statics) (bodyVars bound : List String) (l : Literal) : List String :=
  st.missing bound ((literalClosureNames l).filter bodyVars.contains)

/-- What a literal binds if it can run now: what it needs is bound, and so is every variable of
the body that its closures mention. -/
def Statics.ready (st : Statics) (bodyVars bound : List String) (l : Literal) :
    Option (List String) :=
  if (st.waits bodyVars bound l).isEmpty then st.binds bound l else none

/-- One pass over the literals not yet taken, each with its position: each one that is ready is
taken and binds what it binds; the others stay, in order. -/
def Statics.sweep (st : Statics) (bodyVars : List String) :
    List (Nat × Literal) → List String → List (Nat × Literal) → List (Nat × Literal) →
    List String × List (Nat × Literal) × List (Nat × Literal)
  | [], bound, taken, rest => (bound, taken, rest)
  | (i, l) :: ls, bound, taken, rest =>
    match st.ready bodyVars bound l with
    | some out => st.sweep bodyVars ls (bound ++ out) (taken ++ [(i, l)]) rest
    | none => st.sweep bodyVars ls bound taken (rest ++ [(i, l)])

/-- Passes over a body until one takes nothing: the variables bound, the literals taken in
order and those left. -/
def Statics.arrange (st : Statics) (bodyVars : List String) : Nat → List String →
    List (Nat × Literal) → List (Nat × Literal) →
    List String × List (Nat × Literal) × List (Nat × Literal)
  | 0, bound, taken, rest => (bound, taken, rest)
  | fuel + 1, bound, taken, rest =>
    let (bound2, taken2, rest2) := st.sweep bodyVars rest bound taken []
    if rest2.length == rest.length then (bound2, taken2, rest2)
    else st.arrange bodyVars fuel bound2 taken2 rest2

/-- The variables a literal left over is unsafe in, given those bound: those its closures wait
for, less those it binds itself; if that leaves none, those it needs. -/
def Statics.unsafeIn (st : Statics) (bodyVars bound : List String) (l : Literal) : List String :=
  let outs := (st.flows l).flatMap (·.2)
  match (st.waits bodyVars bound l).filter (!outs.contains ·) with
  | [] => st.missing bound (st.literalNames l)
  | others => others

mutual

def Term.evaluates : Term → Bool
  | .ref .. | .call .. | .arrayOf .. | .setOf .. | .objectOf .. => true
  | .array items => termsEvaluate items
  | .set items => termsEvaluate items
  | .object pairs => pairsEvaluate pairs
  | _ => false

def termsEvaluate : List Term → Bool
  | [] => false
  | t :: ts => t.evaluates || termsEvaluate ts
def pairsEvaluate : List (Term × Term) → Bool
  | [] => false
  | (k, v) :: ps => k.evaluates || v.evaluates || pairsEvaluate ps

end

mutual

def Term.start? : Term → Option Loc
  | .ref _ _ loc => some loc
  | .call _ _ loc => some loc
  | .array items => termsStart? items
  | .set items => termsStart? items
  | .object pairs => pairsStart? pairs
  | _ => none
def termsStart? : List Term → Option Loc
  | [] => none
  | t :: ts => t.start? <|> termsStart? ts

def pairsStart? : List (Term × Term) → Option Loc
  | [] => none
  | (k, v) :: ps => k.start? <|> v.start? <|> pairsStart? ps

end

/-- How a body runs: the positions of its literals in the order they run, those left over last;
for each literal of the body, and each head of its comprehension, the variables bound around
its closures if it runs; and the unsafe variables found, each with where it stands. -/
structure Plan where
  order : List Nat
  around : List (Option (List String))
  /-- For each head, the variables bound around its closures, if it is read as a literal that
  runs. -/
  heads : List (Option (List String))
  sites : List (String × Loc)
  deriving Repr, Inhabited
def Plan.arrange (p : Plan) (body : List Literal) : List Literal :=
  p.order.filterMap fun i => body[i]?

/-- The plan of a body, given the variables bound around it, the place of the literal it stands
in, and the heads of its comprehension, if it is one. -/
def Statics.plan (st : Statics) (around : List String) (place : Loc) (heads : List Term)
    (body : List Literal) : Plan :=
  let n := body.length
  let steps := heads.zipIdx.filterMap fun (h, j) =>
    if h.evaluates then some (n + j, Literal.mk false (.term h) (h.start?.getD place) "" [])
    else none
  let items := body.zipIdx.map (fun (l, i) => (i, l)) ++ steps
  let bodyVars := bodyNames (items.map (·.2))
  let headSites := (heads.filter (!·.evaluates)).flatMap fun h =>
    ((termMentions h).filter fun v => !st.free v && !bodyVars.contains v && !around.contains v).eraseDups.map
      (·, place)
  let (safe, taken, rest) := st.arrange bodyVars (items.length + 1) around [] items
  let restSites := rest.flatMap fun (_, l) => (st.unsafeIn bodyVars safe l).map (·, l.loc)
  let seen := (taken.foldl (fun (acc : List (Nat × List String) × List String) (i, l) =>
    (acc.1 ++ [(i, acc.2)], acc.2 ++ st.literalNames l)) ([], around)).1
  { order := (taken ++ rest).map (·.1)
    around := (List.range n).map fun i => seen.lookup i
    heads := (List.range heads.length).map fun j => seen.lookup (n + j)
    sites := headSites ++ restSites }

mutual

/-- A term with the bodies of its comprehensions in the order they run, given the variables
bound around it and the place of the literal it stands in, and the unsafe variables found. -/
def Statics.closeTerm (st : Statics) (around : List String) (place : Loc) :
    Term → Term × List (String × Loc)
  | .ref head path loc =>
    let (h, s1) := st.closeTerm around place head
    let (p, s2) := st.closeTerms around place path
    (.ref h p loc, s1 ++ s2)
  | .array items => let (xs, s) := st.closeTerms around place items; (.array xs, s)
  | .set items => let (xs, s) := st.closeTerms around place items; (.set xs, s)
  | .object pairs => let (ps, s) := st.closePairs around place pairs; (.object ps, s)
  | .call "internal.template_string" args loc => (.call "internal.template_string" args loc, [])
  | .call name args loc => let (xs, s) := st.closeTerms around place args; (.call name xs loc, s)
  | .arrayOf head body =>
    let p := st.plan around place [head] body
    let (h, s1) := match p.heads with
      | some g :: _ => st.closeTerm g (head.start?.getD place) head
      | _ => (head, [])
    let (b, s2) := st.closeBody p.around body
    (.arrayOf h (p.arrange b), p.sites ++ s1 ++ s2)
  | .setOf head body =>
    let p := st.plan around place [head] body
    let (h, s1) := match p.heads with
      | some g :: _ => st.closeTerm g (head.start?.getD place) head
      | _ => (head, [])
    let (b, s2) := st.closeBody p.around body
    (.setOf h (p.arrange b), p.sites ++ s1 ++ s2)
  | .objectOf key value body =>
    let p := st.plan around place [key, value] body
    let (k, s1) := match p.heads with
      | some g :: _ => st.closeTerm g (key.start?.getD place) key
      | _ => (key, [])
    let (v, s2) := match p.heads with
      | _ :: some g :: _ => st.closeTerm g (value.start?.getD place) value
      | _ => (value, [])
    let (b, s3) := st.closeBody p.around body
    (.objectOf k v (p.arrange b), p.sites ++ s1 ++ s2 ++ s3)
  | t => (t, [])
def Statics.closeTerms (st : Statics) (around : List String) (place : Loc) :
    List Term → List Term × List (String × Loc)
  | [] => ([], [])
  | t :: ts =>
    let (t, s1) := st.closeTerm around place t
    let (ts, s2) := st.closeTerms around place ts
    (t :: ts, s1 ++ s2)

def Statics.closePairs (st : Statics) (around : List String) (place : Loc) :
    List (Term × Term) → List (Term × Term) × List (String × Loc)
  | [] => ([], [])
  | (k, v) :: ps =>
    let (k, s1) := st.closeTerm around place k
    let (v, s2) := st.closeTerm around place v
    let (ps, s3) := st.closePairs around place ps
    ((k, v) :: ps, s1 ++ s2 ++ s3)

def Statics.closeMods (st : Statics) (around : List String) (place : Loc) :
    List (Term × Term × Loc) → List (Term × Term × Loc) × List (String × Loc)
  | [] => ([], [])
  | (t, v, loc) :: ms =>
    let (v, s1) := st.closeTerm around place v
    let (ms, s2) := st.closeMods around place ms
    ((t, v, loc) :: ms, s1 ++ s2)

/-- An expression with the bodies of its closures in order: the body of `every` sees its key and
value bound, and its domain is read as it stands. -/
def Statics.closeExpr (st : Statics) (around : List String) (place : Loc) :
    Expr → Expr × List (String × Loc)
  | .term t => let (t, s) := st.closeTerm around place t; (.term t, s)
  | .call name args => let (xs, s) := st.closeTerms around place args; (.call name xs, s)
  | .some names => (.some names, [])
  | .someIn key value coll =>
    let (k, s1) := match key with
      | some k => let (k, s) := st.closeTerm around place k; (some k, s)
      | none => (none, [])
    let (v, s2) := st.closeTerm around place value
    let (c, s3) := st.closeTerm around place coll
    (.someIn k v c, s1 ++ s2 ++ s3)
  | .every key value domain body =>
    let p := st.plan (around ++ key.toList ++ [value]) place [] body
    let (b, s) := st.closeBody p.around body
    (.every key value domain (p.arrange b), p.sites ++ s)

def Statics.closeLiteral (st : Statics) (around : List String) :
    Literal → Literal × List (String × Loc)
  | .mk neg e loc text mods =>
    let (e, s1) := st.closeExpr around loc e
    let (ms, s2) := st.closeMods around loc mods
    (.mk neg e loc text ms, s1 ++ s2)

/-- The literals of a body with the bodies of their closures in order, each literal that runs
with the variables bound around it. -/
def Statics.closeBody (st : Statics) :
    List (Option (List String)) → List Literal → List Literal × List (String × Loc)
  | g :: gs, l :: ls =>
    let (l, s1) := match g with
      | some around => st.closeLiteral around l
      | none => (l, [])
    let (ls, s2) := st.closeBody gs ls
    (l :: ls, s1 ++ s2)
  | [], ls => (ls, [])
  | _, [] => ([], [])

end

/-- The faults of unsafe variables: each variable once, at the first place it stands, in the
order of their places. -/
def unsafeFaults (sites : List (String × Loc)) : List RegoError :=
  let firsts := sites.foldl (fun (acc : List (String × Loc)) (v, loc) =>
    if acc.any (·.1 == v) then
      acc.map fun (w, l) => if w == v && !l.atOrBefore loc then (w, loc) else (w, l)
    else acc ++ [(v, loc)]) []
  (firsts.mergeSort fun a b => a.2.atOrBefore b.2).map fun (v, loc) =>
    ⟨"rego_unsafe_var_error", some loc, "var " ++ writtenName v ++ " is unsafe", []⟩

/-- A body in an order in which every literal runs after those that bind what it needs, with the
bodies of its closures in order too, or the faults of its unsafe variables. -/
def Statics.order (st : Statics) (bound : List String) (body : List Literal) :
    Except (List RegoError) (List Literal) :=
  let p := st.plan bound ⟨"", 0, 0⟩ [] body
  let (b, sites) := st.closeBody p.around body
  match p.sites ++ sites with
  | [] => .ok (p.arrange b)
  | all => .error (unsafeFaults all)

end AccessPolicy.Rego
