import AccessPolicy.Rego.Program
/-!
# Conflicts between imports and between rules

Before the rules of a program are checked one by one, the names its modules import and the
documents its rules define must fit together.
-/

namespace AccessPolicy.Rego

/-! ## Imports -/

def pathText : List String → String
  | root :: keys => (Term.ref (.var root) (keys.map .string) ⟨"", 0, 0⟩).render
  | [] => ""

def Import.render (i : Import) : String :=
  "import " ++ pathText i.path ++ (i.asName.map (" as " ++ ·)).getD ""

/-- The faults of imports binding a name that an earlier import of the module binds: each
stands at the later import and names the earlier one. -/
def shadowedImports (imports : List Import) : List RegoError :=
  (imports.foldl (fun (acc : List Import × List RegoError) i =>
    match acc.1.find? (·.name == i.name) with
    | some earlier =>
      (acc.1, acc.2 ++ [⟨"rego_compile_error", some i.loc, "import must not shadow " ++ earlier.render, []⟩])
    | none => (acc.1 ++ [i], acc.2)) ([], [])).2

/-! ## The tree of rules -/

mutual

def Term.isConstant : Term → Bool
  | .null | .bool _ | .number _ | .string _ => true
  | .array items => constantItems items
  | .set items => constantItems items
  | .object pairs => constantPairs pairs
  | _ => false

def constantItems : List Term → Bool
  | [] => true
  | t :: ts => t.isConstant && constantItems ts
def constantPairs : List (Term × Term) → Bool
  | [] => true
  | (k, v) :: ps => k.isConstant && v.isConstant && constantPairs ps

end

/-- The reference of a rule below `data`: its package and the parts of its name, then the key in
brackets of a rule that gives one value under each key. -/
def Entry.ref (e : Entry) : List Term :=
  let base := (e.package ++ e.rule.name.splitOn ".").map Term.string
  match e.rule.kind with
  | .partialObject => base ++ e.rule.key.toList
  | _ => base

/-- The node of the tree a rule stands at: the constant start of its reference, each term as
written. -/
def Entry.node (e : Entry) : List String :=
  (e.ref.takeWhile Term.isConstant).map Term.render

def Entry.constant (e : Entry) : Bool := e.ref.all Term.isConstant

def refText (ref : List Term) : String :=
  (Term.ref (.var "data") ref ⟨"", 0, 0⟩).render

def pathBefore : List String → List String → Bool
  | [], _ => true
  | _ :: _, [] => false
  | a :: as, b :: bs => if a == b then pathBefore as bs else a < b
def Term.rank : Term → Nat
  | .null => 0
  | .bool _ => 1
  | .number _ => 2
  | .string _ => 3
  | .var _ => 4
  | .ref .. => 5
  | .array _ => 6
  | .object _ => 7
  | .set _ => 8
  | _ => 9

/-- Whether one reference comes before another: term by term, by kind and then as written,
a strings by its text, and a shorter reference first. -/
def refBefore : List Term → List Term → Bool
  | [], _ => true
  | _ :: _, [] => false
  | a :: as, b :: bs =>
    let key := fun (t : Term) => match t with
      | .string s => s
      | t => t.render
    if a.rank != b.rank then a.rank < b.rank
    else if key a == key b then refBefore as bs
    else key a < key b

def shortestRefs (refs : List (List Term)) : List (List Term) :=
  let texts := (refs.map fun r => (r, r.map Term.render)).foldl (fun acc p =>
    if acc.any (·.2 == p.2) then acc else acc ++ [p]) []
  let kept := texts.filter fun (_, t) =>
    !texts.any fun (_, u) => u != t && u.isPrefixOf t
  (kept.map (·.1)).mergeSort refBefore

/-- The faults of the rules at one node of the tree, given the rules at the node and those
below it, and the place of each rule's package. -/
def nodeFaults (packageLoc : Entry → Loc) (here below : List Entry) : List RegoError :=
  match here, here.getLast? with
  | first :: _, some last =>
    let name := refText last.ref
    let single := here.filter (·.rule.kind != .partialSet)
    let kinds := single.length != 0 && single.length != here.length
    let arities := (here.map fun e => (e.rule.params.getD []).length).eraseDups.length > 1
    let whole := single.filter Entry.constant
    let mixed := whole.length != 0 && whole.length != here.length
    let defaults := here.filter (·.rule.isDefault)
    if here.any Entry.constant && !below.isEmpty then
      let names := shortestRefs (below.map Entry.ref)
      [⟨"rego_type_error", some first.rule.loc,
        "rule " ++ name ++ " conflicts with [" ++ " ".intercalate (names.map refText) ++ "]", []⟩]
    else if kinds || arities || mixed then
      [⟨"rego_type_error", some first.rule.loc, "conflicting rules " ++ name ++ " found", []⟩]
    else
      match defaults with
      | d :: _ :: _ =>
        [⟨"rego_type_error", some (packageLoc d), "multiple default rules " ++ name ++ " found at " ++
          ", ".intercalate (defaults.map (·.rule.loc.text)), []⟩]
      | _ => []
  | _, _ => []

/-- The faults of the tree of a program's rules, node by node. -/
def treeFaults (entries : List (Entry × Loc)) : List RegoError :=
  let sorted := entries.mergeSort fun a b => pathBefore a.1.package b.1.package
  let nodes := (sorted.map (·.1.node)).foldl (fun acc n => if acc.contains n then acc else acc ++ [n]) []
  let packageLoc := fun (e : Entry) => ((sorted.find? fun p => p.1.package == e.package).map (·.2)).getD e.rule.loc
  (nodes.mergeSort pathBefore).flatMap fun n =>
    let here := (sorted.filter fun p => p.1.node == n).map (·.1)
    let below := (sorted.filter fun p => n.isPrefixOf p.1.node && n.length < p.1.node.length).map (·.1)
    nodeFaults packageLoc here below

def packageFaults (modules : List Module) : List RegoError :=
  let sorted := modules.mergeSort fun a b => pathBefore a.package b.package
  sorted.flatMap fun m =>
    m.rules.flatMap fun r =>
      let e : Entry := ⟨m.package, r⟩
      if e.constant then
        let headRef := e.ref.drop m.package.length
        let path := e.ref.map Term.render
        (sorted.filter fun c => c.package.map (Term.string · |>.render) == path).map fun c =>
          ⟨"rego_type_error", some m.packageLoc,
            "package " ++ pathText c.package ++ " conflicts with rule " ++
              (match headRef with
                | t :: ts => (Term.ref (.var (match t with
                    | .string s => s
                    | t => t.render)) ts ⟨"", 0, 0⟩).render
                | [] => "") ++ " defined at " ++ r.loc.text, []⟩
      else []

/-- The faults of the rules of some modules: those of the tree of their rules, then those of rules
defining the document of another module's package. -/
def ruleConflicts (modules : List Module) : List RegoError :=
  treeFaults (modules.flatMap fun m => m.rules.map fun r => (⟨m.package, r⟩, m.packageLoc)) ++
    packageFaults modules

end AccessPolicy.Rego
