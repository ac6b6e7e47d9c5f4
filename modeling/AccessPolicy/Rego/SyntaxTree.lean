import AccessPolicy.Rego.Comments
import AccessPolicy.Text.Base64
/-!
# The syntax tree of a module as a document

`rego.parse_module(file, source)` reads a module in the newer version of the language and gives
its syntax tree as a document; a module that does not read makes the call undefined.
-/

namespace AccessPolicy.Rego

namespace SyntaxTree

/-! ## Wildcards -/

abbrev Naming := StateM Nat

def fresh : Naming String := do
  let n ← get
  set (n + 1)
  pure ("$" ++ toString n)

def nameVar (v : String) : Naming String :=
  if v == "_" then fresh else pure v

mutual

def nameTerm : Term → Naming Term
  | .var v => Term.var <$> nameVar v
  | .ref head path loc => do
    let h ← nameTerm head
    pure (.ref h (← nameItems path) loc)
  | .array items => Term.array <$> nameItems items
  | .object pairs => Term.object <$> namePairs pairs
  | .set items => Term.set <$> nameItems items
  | .call name args loc => do pure (.call name (← nameItems args) loc)
  | .arrayOf head body => do
    let h ← nameTerm head
    pure (.arrayOf h (← nameBody body))
  | .setOf head body => do
    let h ← nameTerm head
    pure (.setOf h (← nameBody body))
  | .objectOf key value body => do
    let k ← nameTerm key
    let v ← nameTerm value
    pure (.objectOf k v (← nameBody body))
  | t => pure t

def nameItems : List Term → Naming (List Term)
  | [] => pure []
  | t :: ts => do
    let t ← nameTerm t
    pure (t :: (← nameItems ts))

def namePairs : List (Term × Term) → Naming (List (Term × Term))
  | [] => pure []
  | (k, v) :: ps => do
    let k ← nameTerm k
    let v ← nameTerm v
    pure ((k, v) :: (← namePairs ps))

def nameExpr : Expr → Naming Expr
  | .term t => Expr.term <$> nameTerm t
  | .call name args => Expr.call name <$> nameItems args
  | .some names => Expr.some <$> names.mapM nameVar
  | .someIn key value coll => do
    let k ← match key with
      | some k => some <$> nameTerm k
      | none => pure none
    let v ← nameTerm value
    pure (.someIn k v (← nameTerm coll))
  | .every key value domain body => do
    let k ← match key with
      | some k => some <$> nameVar k
      | none => pure none
    let v ← nameVar value
    let d ← nameTerm domain
    pure (.every k v d (← nameBody body))

def nameBody : List Literal → Naming (List Literal)
  | [] => pure []
  | .mk negated e loc text mods :: ls => do
    let e ← nameExpr e
    let mods ← nameMods mods
    pure (.mk negated e loc text mods :: (← nameBody ls))

def nameMods : List (Term × Term × Loc) → Naming (List (Term × Term × Loc))
  | [] => pure []
  | (target, value, loc) :: ms => do
    let t ← nameTerm target
    let v ← nameTerm value
    pure ((t, v, loc) :: (← nameMods ms))

end

/-! ## The order of terms -/
def kindRank : Term → Nat
  | .null => 0
  | .bool _ => 1
  | .number _ => 2
  | .string _ => 3
  | .var _ => 4
  | .ref _ [] _ => 4
  | .ref _ _ _ => 5
  | .array _ => 6
  | .object _ => 7
  | .set _ => 8
  | .arrayOf .. => 9
  | .objectOf .. => 10
  | .setOf .. => 11
  | .call .. => 12
def refTerms : Term → List Term
  | .ref head path _ => head :: path
  | t => [t]

def lexOrder {α : Type} (cmp : α → α → Ordering) : List α → List α → Ordering
  | [], [] => .eq
  | [], _ :: _ => .lt
  | _ :: _, [] => .gt
  | a :: as, b :: bs =>
    match cmp a b with
    | .eq => lexOrder cmp as bs
    | o => o

def insertItem (cmp : Term → Term → Ordering) (t : Term) : List Term → List Term
  | [] => [t]
  | u :: us =>
    match cmp t u with
    | .lt => t :: u :: us
    | .eq => u :: us
    | .gt => u :: insertItem cmp t us

/-- Inserts a pair into pairs in the order of their keys; a pair with an equal key takes the
new value. -/
def insertPair (cmp : Term → Term → Ordering) (p : Term × Term) :
    List (Term × Term) → List (Term × Term)
  | [] => [p]
  | q :: qs =>
    match cmp p.1 q.1 with
    | .lt => p :: q :: qs
    | .eq => (q.1, p.2) :: qs
    | .gt => q :: insertPair cmp p qs

/-- The order of terms, down to `fuel` levels: by kind, numbers by value, strings and variables
by their text, references, arrays and calls term by term, objects and sets by their ordered
members, comprehensions by their heads. -/
def termOrder : Nat → Term → Term → Ordering
  | 0, _, _ => .eq
  | fuel + 1, a, b =>
    let ra := kindRank a
    let rb := kindRank b
    if ra != rb then compare ra rb
    else
      match a, b with
      | .bool x, .bool y => compare x y
      | .number x, .number y => compareNumerals x y
      | .string x, .string y => compareStrings x y
      | .var x, .var y => compareStrings x y
      | .ref x [] _, .ref y [] _ => termOrder fuel x y
      | .ref x [] _, y => termOrder fuel x y
      | x, .ref y [] _ => termOrder fuel x y
      | .ref .., .ref .. => lexOrder (termOrder fuel) (refTerms a) (refTerms b)
      | .array xs, .array ys => lexOrder (termOrder fuel) xs ys
      | .set xs, .set ys =>
        let sort (ts : List Term) := ts.foldl (fun acc t => insertItem (termOrder fuel) t acc) []
        lexOrder (termOrder fuel) (sort xs) (sort ys)
      | .object xs, .object ys =>
        let sort (ps : List (Term × Term)) :=
          ps.foldl (fun acc p => insertPair (termOrder fuel) p acc) []
        lexOrder (fun p q => match termOrder fuel p.1 q.1 with
          | .eq => termOrder fuel p.2 q.2
          | o => o) (sort xs) (sort ys)
      | .call x xs _, .call y ys _ =>
        match compareStrings x y with
        | .eq => lexOrder (termOrder fuel) xs ys
        | o => o
      | .arrayOf x _, .arrayOf y _ => termOrder fuel x y
      | .setOf x _, .setOf y _ => termOrder fuel x y
      | .objectOf x u _, .objectOf y v _ =>
        match termOrder fuel x y with
        | .eq => termOrder fuel u v
        | o => o
      | _, _ => .eq

/-! ## Writing the tree -/

/-- Inserts a term, with what it is written as, in the order of terms. -/
def insertWritten (cmp : Term → Term → Ordering) (isKey : Bool) (x : Term × Datum) :
    List (Term × Datum) → List (Term × Datum)
  | [] => [x]
  | y :: ys =>
    match cmp x.1 y.1 with
    | .lt => x :: y :: ys
    | .eq =>
      if isKey then
        match y.2, x.2 with
        | .array [k, _], .array [_, v] => (y.1, .array [k, v]) :: ys
        | _, _ => y :: ys
      else y :: ys
    | .gt => y :: insertWritten cmp isKey x ys

def node (fields : List (String × Datum)) : Datum :=
  Datum.objectOf (fields.map fun f => (.string f.1, f.2))

def typed (kind : String) (value : Datum) : Datum :=
  node [("type", .string kind), ("value", value)]

/-- Whether a numeral is a number as JSON writes it: an optional minus, an integer part without
leading zeros, an optional fraction and an optional exponent. -/
def isJsonNumber (s : String) : Bool :=
  let digits (cs : List Char) : Nat := (cs.takeWhile isDigit).length
  let cs := match s.toList with
    | '-' :: rest => rest
    | rest => rest
  let afterInt := match cs with
    | '0' :: rest => some rest
    | c :: rest => if isDigit c then some (rest.drop (digits rest)) else none
    | [] => none
  let afterFrac := afterInt.bind fun cs => match cs with
    | '.' :: rest => if digits rest > 0 then some (rest.drop (digits rest)) else none
    | _ => some cs
  let afterExp := afterFrac.bind fun cs => match cs with
    | e :: rest =>
      if e == 'e' || e == 'E' then
        let rest := match rest with
          | '+' :: r => r
          | '-' :: r => r
          | r => r
        if digits rest > 0 then some (rest.drop (digits rest)) else none
      else some cs
    | [] => some []
  afterExp == some []

def nameRef (name : String) : List Term :=
  match name.splitOn "." with
  | v :: keys => .var v :: keys.map Term.string
  | [] => [.var name]

def varDatum (v : String) : Datum := typed "var" (.string v)
def operatorDatum (name : String) : Datum :=
  typed "ref" (.array ((nameRef name).map fun t => match t with
    | .var v => varDatum v
    | .string s => typed "string" (.string s)
    | _ => .null))

mutual

/-- A term as a document, its sets and objects ordered by `fuel` levels of the order of terms;
none when a number has no JSON form. -/
def termDatum (fuel : Nat) : Term → Option Datum
  | .null => some (typed "null" (.object []))
  | .bool b => some (typed "boolean" (.bool b))
  | .number n => if isJsonNumber n then some (typed "number" (.number n)) else none
  | .string s => some (typed "string" (.string s))
  | .var v => some (varDatum v)
  | .ref head [] _ => termDatum fuel head
  | .ref head path _ => do
    let h ← termDatum fuel head
    let ps ← itemsDatum fuel path
    pure (typed "ref" (.array (h :: ps)))
  | .array items => do pure (typed "array" (.array (← itemsDatum fuel items)))
  | .object pairs => do
    let ps ← pairsDatum fuel pairs
    let ordered := (pairs.zip ps).foldl (fun acc p => insertWritten (termOrder fuel) true
      (p.1.1, p.2) acc) []
    pure (typed "object" (.array (ordered.map (·.2))))
  | .set items => do
    let ts ← itemsDatum fuel items
    let ordered := (items.zip ts).foldl (fun acc p => insertWritten (termOrder fuel) false p acc) []
    pure (typed "set" (.array (ordered.map (·.2))))
  | .call name args _ => do
    pure (typed "call" (.array (operatorDatum name :: (← itemsDatum fuel args))))
  | .arrayOf head body => do
    let h ← termDatum fuel head
    pure (typed "arraycomprehension" (node [("term", h), ("body", .array (← bodyDatum fuel 0 body))]))
  | .setOf head body => do
    let h ← termDatum fuel head
    pure (typed "setcomprehension" (node [("term", h), ("body", .array (← bodyDatum fuel 0 body))]))
  | .objectOf key value body => do
    let k ← termDatum fuel key
    let v ← termDatum fuel value
    pure (typed "objectcomprehension"
      (node [("key", k), ("value", v), ("body", .array (← bodyDatum fuel 0 body))]))

def itemsDatum (fuel : Nat) : List Term → Option (List Datum)
  | [] => some []
  | t :: ts => do
    let d ← termDatum fuel t
    pure (d :: (← itemsDatum fuel ts))

def pairsDatum (fuel : Nat) : List (Term × Term) → Option (List Datum)
  | [] => some []
  | (k, v) :: ps => do
    let kd ← termDatum fuel k
    let vd ← termDatum fuel v
    pure (.array [kd, vd] :: (← pairsDatum fuel ps))

def exprDatum (fuel : Nat) : Expr → Option Datum
  | .term t => termDatum fuel t
  | .call name args => do pure (.array (operatorDatum name :: (← itemsDatum fuel args)))
  | .some names => some (node [("symbols", .array (names.map varDatum))])
  | .someIn key value coll => do
    let k ← match key with
      | some k => (some ·) <$> termDatum fuel k
      | none => some none
    let v ← termDatum fuel value
    let c ← termDatum fuel coll
    let member := match k with
      | some kd => [operatorDatum "internal.member_3", kd, v, c]
      | none => [operatorDatum "internal.member_2", v, c]
    pure (node [("symbols", .array [typed "call" (.array member)])])
  | .every key value domain body => do
    let d ← termDatum fuel domain
    let b ← bodyDatum fuel 0 body
    pure (node [("key", (key.map varDatum).getD .null), ("value", varDatum value), ("domain", d),
      ("body", .array b)])

def bodyDatum (fuel : Nat) (index : Nat) : List Literal → Option (List Datum)
  | [] => some []
  | .mk negated e _ _ mods :: ls => do
    let terms ← exprDatum fuel e
    let withs ← modsDatum fuel mods
    let fields := [("index", Datum.number (toString index)), ("terms", terms)] ++
      (if negated then [("negated", Datum.bool true)] else []) ++
      (if withs.isEmpty then [] else [("with", Datum.array withs)])
    pure (node fields :: (← bodyDatum fuel (index + 1) ls))

def modsDatum (fuel : Nat) : List (Term × Term × Loc) → Option (List Datum)
  | [] => some []
  | (target, value, _) :: ms => do
    let t ← termDatum fuel target
    let v ← termDatum fuel value
    pure (node [("target", t), ("value", v)] :: (← modsDatum fuel ms))

end

def ruleBody (fuel : Nat) (body : List Literal) : Option Datum :=
  if body.isEmpty then some (.array [node [("index", .number "0"), ("terms", typed "boolean" (.bool true))]])
  else .array <$> bodyDatum fuel 0 body

/-! ## Rule heads -/

structure Head where
  name : Option String := none
  ref : List Term
  args : Option (List Term) := none
  key : Option Term := none
  value : Option Term := none
  assign : Bool := false
  keyInRef : Bool := false
  deriving Inhabited

mutual

def isGround : Term → Bool
  | .var _ => false
  | .ref _ [] _ => false
  | .ref _ path _ => groundItems path
  | .array items => groundItems items
  | .set items => groundItems items
  | .object pairs => groundPairs pairs
  | .call .. => false
  | .arrayOf .. | .setOf .. | .objectOf .. => false
  | _ => true

def groundItems : List Term → Bool
  | [] => true
  | t :: ts => isGround t && groundItems ts
def groundPairs : List (Term × Term) → Bool
  | [] => true
  | (k, v) :: ps => isGround k && isGround v && groundPairs ps

end

def isRefTerm : Term → Bool
  | .ref _ (_ :: _) _ => true
  | _ => false

/-- The head of a rule. -/
def headOf (r : Rule) : Head :=
  let written := if r.hasValue then r.value else none
  if r.isDefault || r.hasBody || r.hasContains then
    let bracket := if r.hasContains then none else r.key
    let ref := match r.params, bracket with
      | none, some k => nameRef r.name ++ [k]
      | _, _ => nameRef r.name
    let simple := if r.name.contains '.' then none else some r.name
    let name := if r.params.isSome || bracket.isNone then simple else none
    let key := if r.hasContains then r.key else none
    let value := if written.isNone && key.isNone && (bracket.isNone || r.params.isSome) then
        some (.bool true) else written
    let head : Head := { name, ref, args := r.params, key, value, assign := r.assign }
    if r.isDefault then head
    else
      match bracket with
      | some k =>
        if r.hasIf && !r.hasContains then
          if (!isGround k || isRefTerm k) && r.params.isNone then
            if head.value.isNone then { head with value := some (.bool true) }
            else { head with name := simple }
          else head
        else if !r.hasIf && !r.hasContains && r.params.isNone then
          { head with name := simple, key := some k,
                      ref := if head.value.isNone then nameRef r.name else ref,
                      keyInRef := head.value.isSome }
        else head
      | none => head
  else
    match r.params, r.key with
    | some ps, _ =>
      { name := if r.name.contains '.' then none else some r.name, ref := nameRef r.name,
        args := some ps, value := r.value, assign := r.assign }
    | none, some k =>
      if r.hasValue then
        { name := some r.name, ref := [.var r.name, k], key := some k, value := r.value,
          assign := r.assign, keyInRef := true }
      else { name := some r.name, ref := [.var r.name], key := some k }
    | none, none =>
      if r.name.contains '.' then { ref := nameRef r.name, value := r.value, assign := r.assign }
      else { name := some r.name, ref := [.var r.name], value := r.value, assign := r.assign }

def headDatum (fuel : Nat) (h : Head) : Option Datum := do
  let ref ← itemsDatum fuel h.ref
  let args ← match h.args with
    | some (a :: as) => (fun ds => [("args", Datum.array ds)]) <$> itemsDatum fuel (a :: as)
    | _ => some []
  let key ← match h.key with
    | some k => (fun d => [("key", d)]) <$> termDatum fuel k
    | none => some []
  let value ← match h.value with
    | some v => (fun d => [("value", d)]) <$> termDatum fuel v
    | none => some []
  pure (node ([("ref", Datum.array ref)] ++ (h.name.map fun n => ("name", Datum.string n)).toList ++
    args ++ key ++ value ++ (if h.assign then [("assign", Datum.bool true)] else [])))

def renameArgs (args : Option (List Term)) : Naming (Option (List Term)) :=
  match args with
  | some ts => some <$> ts.mapM fun t => match t with
    | .var v => if v.startsWith "$" then Term.var <$> fresh else pure t
    | _ => pure t
  | none => pure none

/-- The `else` branches of a rule, innermost last, with their wildcards named in the order they
are read: each branch a head and a body. -/
def nameBranches (head : Head) (parentAssign : Bool) :
    List ((Option Term × List Literal) × Bool) → Naming (List (Head × List Literal))
  | [] => pure []
  | ((value, body), assign) :: bs => do
    let args ← renameArgs head.args
    let v ← match value with
      | some v => some <$> nameTerm v
      | none => pure none
    let b ← nameBody body
    let branch : Head := { head with args, value := some (v.getD (.bool true)),
                                     assign := if v.isSome then assign else parentAssign }
    pure ((branch, b) :: (← nameBranches head parentAssign bs))

def elseDatum (fuel : Nat) : List (Head × List Literal) → Option (Option Datum)
  | [] => some none
  | (h, b) :: bs => do
    let hd ← headDatum fuel h
    let bd ← ruleBody fuel b
    let rest ← elseDatum fuel bs
    pure (some (node ([("head", hd), ("body", bd)] ++ (rest.map ("else", ·)).toList)))

def ruleDatum (fuel : Nat) (r : Rule) : Naming (Option Datum) := do
  let h := headOf r
  let args ← match h.args with
    | some ts => some <$> nameItems ts
    | none => pure none
  let ref ← nameItems h.ref
  let key ← match h.key with
    | some k => if h.keyInRef then pure (ref.getLast?.orElse fun _ => some k) else some <$> nameTerm k
    | none => pure none
  let value ← match h.value with
    | some v => some <$> nameTerm v
    | none => pure none
  let head := { h with args, ref, key, value }
  let body ← nameBody r.body
  let branches ← nameBranches head r.assign (r.elses.zip (r.elseAssigns ++ r.elses.map fun _ => false))
  pure do
    let hd ← headDatum fuel head
    let bd ← ruleBody fuel body
    let elseD ← elseDatum fuel branches
    pure (node ([("head", hd), ("body", bd)] ++ (if r.isDefault then [("default", Datum.bool true)] else []) ++
      (elseD.map ("else", ·)).toList))

def rulesDatum (fuel : Nat) : List Rule → Naming (Option (List Datum))
  | [] => pure (some [])
  | r :: rs => do
    let d ← ruleDatum fuel r
    let ds ← rulesDatum fuel rs
    pure do
      let d ← d
      let ds ← ds
      pure (d :: ds)

/-! ## Comments -/

/-- A comment as a document: its place in the file, and its `Text`, base64-encoded, or `null`
when it is empty. -/
def commentDatum (file : String) (chars : List Char) (c : String × Nat) : Datum :=
  let (row, col) := lineAndColumn chars c.2
  node [("Location", node [("col", .number (toString col)), ("file", .string file),
      ("row", .number (toString row))]),
    ("Text", if c.1.isEmpty then .null else .string (Base64.encode c.1.toUTF8.toList))]

/-! ## Modules -/

def importDatum (i : Import) : Datum :=
  let path := match i.path with
    | root :: keys => varDatum root :: keys.map fun k => typed "string" (.string k)
    | [] => []
  node ([("path", typed "ref" (.array path))] ++ (i.asName.map fun a => ("alias", Datum.string a)).toList)

def parse? (file source : String) : Option Datum := do
  let m ← (parseModule file source true).toOption
  let fuel := source.length + 2
  let (rules, _) := (rulesDatum fuel m.rules).run 0
  let rules ← rules
  let path := varDatum "data" :: m.package.map fun k => typed "string" (.string k)
  let cs := sourceComments source
  pure (node ([("package", node [("path", .array path)])] ++
    (if m.imports.isEmpty then [] else [("imports", .array (m.imports.map importDatum))]) ++
    (if rules.isEmpty then [] else [("rules", .array rules)]) ++
    (if cs.isEmpty then [] else
      [("comments", .array (cs.map (commentDatum file source.toList)))])))

def apply (name : String) (args : List Datum) : Option Datum :=
  match name, args with
  | "rego.parse_module", [.string file, .string source] => parse? file source
  | _, _ => none

end SyntaxTree

end AccessPolicy.Rego
