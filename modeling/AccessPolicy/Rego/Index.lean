import AccessPolicy.Rego.Program
/-!
# The order in which a document's rules are tried

The rules that define one document are not tried in the order they are written. An index takes
from each rule's body the references it tests and what it wants of them, and lists the rules in
the order of a walk over a trie of these tests.
-/

namespace AccessPolicy.Rego

/-- A reference that a rule's test looks at: the input below some keys, or an argument of a
function by its position. -/
inductive IndexRef where
  | input (keys : List Datum)
  | arg (position : Nat)
  deriving Repr, Inhabited

def IndexRef.same : IndexRef → IndexRef → Bool
  | .input a, .input b => a.length == b.length && (a.zip b).all fun (x, y) => x.same y
  | .arg i, .arg j => i == j
  | _, _ => false

inductive Want where
  | defined
  | value (d : Datum)
  deriving Repr, Inhabited

structure Test where
  ref : IndexRef
  want : Want
  loc : Loc
  deriving Repr, Inhabited

def scalarOf? : Term → Option Datum
  | .null => some .null
  | .bool b => some (.bool b)
  | .number n => some (.number n)
  | .string s => some (.string s)
  | _ => none

/-- The reference a term is for the index: the input below scalar keys, or a parameter of the
function, one of `params`. -/
def indexRef? (params : List Term) (t : Term) : Option IndexRef :=
  match t with
  | .ref (.var "input") path _ => (path.mapM scalarOf?).map .input
  | .var v =>
    (params.findIdx? fun p => match p with
      | .var w => w == v
      | _ => false).map .arg
  | _ => none

/-- What a term compared with a reference wants of it: a scalar its value, a variable or a flat
array of scalars and variables that it be defined. -/
def wantOf? (t : Term) : Option Want :=
  match t with
  | .var _ => some .defined
  | .array items =>
    if items.all fun i => (scalarOf? i).isSome || i matches .var _ then
      match items.mapM scalarOf? with
      | some ds => some (.value (.array ds))
      | none => some .defined
    else none
  | _ => (scalarOf? t).map .value

def Literal.test? (params : List Term) (l : Literal) : Option Test :=
  if l.negated || !l.mods.isEmpty then none
  else
    let pair := fun (a b : Term) => do
      let r ← indexRef? params a
      let w ← wantOf? b
      pure (⟨r, w, l.loc⟩ : Test)
    match l.expr with
    | .call "eq" [a, b] | .call "equal" [a, b] | .call "assign" [a, b] =>
      match pair a b with
      | some t => some t
      | none => pair b a
    | .term t => (indexRef? [] t).map fun r => ⟨r, .defined, l.loc⟩
    | _ => none

def keptTests (made : List Test) : List Test :=
  made.foldl (fun acc t =>
    if acc.any (·.ref.same t.ref) then acc.map fun u => if u.ref.same t.ref then t else u
    else acc ++ [t]) []

def Loc.atOrBefore (a b : Loc) : Bool :=
  a.file < b.file || (a.file == b.file && (a.row < b.row || (a.row == b.row && a.col ≤ b.col)))

/-- The references of some tests ranked: most tested first, then by the place of the first test
of each. -/
def rankRefs (made : List Test) : List IndexRef :=
  let counted := made.foldl (fun (acc : List (IndexRef × Nat × Loc)) t =>
    if acc.any (·.1.same t.ref) then
      acc.map fun (r, n, l) => if r.same t.ref then (r, n + 1, l) else (r, n, l)
    else acc ++ [(t.ref, 1, t.loc)]) []
  let sorted := counted.mergeSort fun a b =>
    a.2.1 > b.2.1 || (a.2.1 == b.2.1 && Loc.atOrBefore a.2.2 b.2.2)
  sorted.map (·.1)

/-- The place of a rule with some tests: its answer at each ranked reference (0 for no test, 1
for a test of definedness, 2 for a test of value), or none when a test fails. -/
def placeOf (resolve : IndexRef → Option Datum) (ranked : List IndexRef) (kept : List Test) :
    Option (List Nat) :=
  ranked.mapM fun r =>
    match kept.find? (·.ref.same r) with
    | none => some 0
    | some t =>
      match resolve r, t.want with
      | none, _ => none
      | some _, .defined => some 1
      | some d, .value w => if d.sameKey w then some 2 else none

def placeBefore : List Nat → List Nat → Bool
  | [], [] => false
  | [], _ :: _ => true
  | _ :: _, [] => false
  | a :: as, b :: bs => a < b || (a == b && placeBefore as bs)

def Rule.bodies (r : Rule) : List (List Literal) :=
  r.body :: r.elses.map (·.2)

/-- The rules in the order they are tried, given how references resolve; a rule the walk does
not reach is left out. -/
def indexOrder (resolve : IndexRef → Option Datum) (entries : List Entry) : List Entry :=
  let paramsOf := fun (e : Entry) => e.rule.params.getD []
  let made := entries.flatMap fun e => e.rule.bodies.flatMap fun b => b.filterMap (Literal.test? (paramsOf e))
  let ranked := rankRefs made
  -- every body in the order it was written, with its rule's position
  let bodies := (entries.zipIdx.flatMap fun (e, i) => e.rule.bodies.map fun b => (i, e, b)).zipIdx
  let hits := bodies.filterMap fun ((i, e, b), k) =>
    (placeOf resolve ranked (keptTests (b.filterMap (Literal.test? (paramsOf e))))).map fun p => (p, k, i)
  let walked := hits.mergeSort fun a b => placeBefore a.1 b.1 || (!placeBefore b.1 a.1 && a.2.1 ≤ b.2.1)
  let order := walked.foldl (fun (acc : List Nat) h => if acc.contains h.2.2 then acc else acc ++ [h.2.2]) []
  order.filterMap fun i => entries[i]?

end AccessPolicy.Rego
