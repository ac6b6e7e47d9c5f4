import AccessPolicy.Rego.Check
/-!
# The scopes of variables

A variable declared in a body, assigned with `:=`, declared with `some`, bound by an iteration
`some x in xs` or by `every` for its own body, is a variable of its own from its declaration to
the end of the body, the bodies nested in it included. It is distinct from every variable of the
same name elsewhere. A name used where no declaration of it is in scope is a plain variable, one
and the same wherever it is used that way.
-/

namespace AccessPolicy.Rego

structure Scopes where
  /-- The frames of the bodies around the point, the innermost first: each name declared in the
  body so far, with the name it stands under. -/
  frames : List (List (String × String))
  outer : List String
  count : Nat
  stem : String := "__local"
  /-- How many numbered names the declarations so far took: one for each declared variable, and
  for an iteration without a key, one for the key and one more as it is declared. -/
  made : Nat := 0
  deriving Repr, Inhabited

namespace Scopes

/-- The name a variable used at this point stands under: that of the innermost declaration in
scope, or else the plain variable's. -/
def resolve (s : Scopes) (v : String) : String :=
  match s.frames.findSome? fun f => f.lookup v with
  | some w => w
  | none => if s.frames.length > 1 && s.outer.contains v then v ++ "#0" else v

/-- Declares a name in the innermost body: in the outermost body it keeps its name, in a nested
one it gets a fresh one. -/
def declare (s : Scopes) (v : String) : Scopes :=
  if v == "_" then s
  else
    let s := { s with made := s.made + 1 }
    match s.frames with
    | [] => s
    | [top] => { s with frames := [(v, v) :: top] }
    | f :: fs =>
      { s with frames := ((v, v ++ "#" ++ toString (s.count + 1)) :: f) :: fs, count := s.count + 1 }

/-- The numbered name of the key of an iteration that names none, and the scopes after it: the
key takes a number, and one more as it is declared. -/
def freshKey (s : Scopes) : Scopes × String :=
  ({ s with made := s.made + 2 }, s.stem ++ toString s.made ++ "__")
def declareAll (s : Scopes) (vs : List String) : Scopes :=
  vs.foldl declare s

def enter (s : Scopes) : Scopes :=
  { s with frames := [] :: s.frames }

/-- Leaves a nested body: its declarations go out of scope, the fresh and numbered names it made
stay taken. -/
def leave (s inner : Scopes) : Scopes :=
  { s with count := inner.count, made := inner.made }

/-- The scopes at the start of an outermost body: the parameters in scope, the names the body
declares anywhere known, and the numbered names taken before it. -/
def start (params : List String) (body : List Literal) (stem : String) (made : Nat) : Scopes :=
  let declared := body.flatMap fun l => match l.expr with
    | .call "assign" [lhs, _] => (assignTargets lhs).1
    | .some names => names
    | .someIn key value _ => ((key.map fun k => (patternNames k).2).getD []) ++ (patternNames value).2
    | _ => []
  ⟨[params.map fun v => (v, v)], declared.filter (· != "_"), 0, stem, made⟩

end Scopes

mutual

/-- A term renamed at a point: each variable by its scope, and each comprehension with its body
and then its head in a scope of its own. -/
def Scopes.term (s : Scopes) : Term → Scopes × Term
  | .var v => (s, .var (s.resolve v))
  | .ref head path loc =>
    let (s, h) := s.term head
    let (s, p) := s.terms path
    (s, .ref h p loc)
  | .array items => let (s, xs) := s.terms items; (s, .array xs)
  | .set items => let (s, xs) := s.terms items; (s, .set xs)
  | .object pairs => let (s, ps) := s.pairs pairs; (s, .object ps)
  | .call name args loc => let (s, xs) := s.terms args; (s, .call name xs loc)
  | .arrayOf head body =>
    let (inner, b) := s.enter.body body
    let (inner, h) := inner.term head
    (s.leave inner, .arrayOf h b)
  | .setOf head body =>
    let (inner, b) := s.enter.body body
    let (inner, h) := inner.term head
    (s.leave inner, .setOf h b)
  | .objectOf key value body =>
    let (inner, b) := s.enter.body body
    let (inner, k) := inner.term key
    let (inner, v) := inner.term value
    (s.leave inner, .objectOf k v b)
  | t => (s, t)

def Scopes.terms (s : Scopes) : List Term → Scopes × List Term
  | [] => (s, [])
  | t :: ts =>
    let (s, t) := s.term t
    let (s, ts) := s.terms ts
    (s, t :: ts)

def Scopes.pairs (s : Scopes) : List (Term × Term) → Scopes × List (Term × Term)
  | [] => (s, [])
  | (k, v) :: ps =>
    let (s, k) := s.term k
    let (s, v) := s.term v
    let (s, ps) := s.pairs ps
    (s, (k, v) :: ps)

/-- The values of `with` modifiers renamed at a point; their targets name documents and
functions, not variables. -/
def Scopes.mods (s : Scopes) : List (Term × Term × Loc) → Scopes × List (Term × Term × Loc)
  | [] => (s, [])
  | (t, v, loc) :: ms =>
    let (s, v) := s.term v
    let (s, ms) := s.mods ms
    (s, (t, v, loc) :: ms)

def Scopes.uses (s : Scopes) : Expr → Scopes × Expr
  | .term t => let (s, t) := s.term t; (s, .term t)
  | .call name args => let (s, xs) := s.terms args; (s, .call name xs)
  | .someIn key value coll =>
    let (s, k) := match key with
      | some k => let (s, k) := s.term k; (s, some k)
      | none => (s, none)
    let (s, v) := s.term value
    let (s, c) := s.term coll
    (s, .someIn k v c)
  | .some names => (s, .some (names.map s.resolve))
  | .every key value domain body => let (s, d) := s.term domain; (s, .every key value d body)

def Scopes.literal (s : Scopes) : Literal → Scopes × Literal
  | .mk neg (.call "assign" [lhs, rhs]) loc text mods =>
    let (s, r) := s.term rhs
    let (s, ms) := s.mods mods
    let s := s.declareAll (assignTargets lhs).1
    let (s, l) := s.term lhs
    (s, .mk neg (.call "assign" [l, r]) loc text ms)
  | .mk neg (.some names) loc text mods =>
    let s := s.declareAll names
    let (s, ms) := s.mods mods
    (s, .mk neg (.some (names.map s.resolve)) loc text ms)
  | .mk neg (.someIn key value coll) loc text mods =>
    let bound := fun (t : Term) => (patternNames t).2.filter fun v => !(termMentions coll).contains v
    let (s, named) := match key with
      | some k => (s.declareAll (bound k), "_")
      | none => s.freshKey
    let s := s.declareAll (bound value)
    let (s, c) := s.term coll
    let (s, ms) := s.mods mods
    let (s, k) := match key with
      | some k => s.term k
      | none => (s, .var named)
    let (s, v) := s.term value
    (s, .mk neg (.someIn (some k) v c) loc text ms)
  | .mk neg (.every key value domain body) loc text mods =>
    let (s, d) := s.term domain
    let (s, ms) := s.mods mods
    let inner := s.enter.declareAll (key.toList ++ [value])
    let inner := if key.isNone then { inner with made := inner.made + 1 } else inner
    let (after, b) := inner.body body
    (s.leave after, .mk neg (.every (key.map inner.resolve) (inner.resolve value) d b) loc text ms)
  | .mk neg e loc text mods =>
    let (s, e) := s.uses e
    let (s, ms) := s.mods mods
    (s, .mk neg e loc text ms)
def Scopes.body (s : Scopes) : List Literal → Scopes × List Literal
  | [] => (s, [])
  | l :: ls =>
    let (s, l) := s.literal l
    let (s, ls) := s.body ls
    (s, l :: ls)

end

def renameQuery (body : List Literal) : List Literal × Nat :=
  let (s, b) := (Scopes.start [] body "__localq" 0).body body
  (b, s.made)

/-- A rule renamed, given the variables its parameters bind and how many numbered names the
declarations before it took, and how many they take with its own. -/
def Rule.renamed (r : Rule) (params : List String) (made : Nat) : Rule × Nat :=
  let branch := fun (made : Nat) (key value : Option Term) (body : List Literal) =>
    let pre := ((Scopes.start params body "__local" made).terms (key.toList ++ value.toList)).1.made
    let (s, b) := (Scopes.start params body "__local" pre).body body
    let (s2, k) := match key with
      | some k => let (s2, k) := s.term k; (s2, some k)
      | none => (s, none)
    let v := value.map fun t => (s2.term t).2
    (b, k, v, s.made)
  let (body, key, value, made) := branch made r.key r.value r.body
  let (elses, made) := r.elses.foldl (fun (acc : List (Option Term × List Literal) × Nat) (v, b) =>
    let (b, _, v, made) := branch acc.2 none v b
    (acc.1 ++ [(v, b)], made)) ([], made)
  ({ r with body, key, value, elses }, made)

end AccessPolicy.Rego
