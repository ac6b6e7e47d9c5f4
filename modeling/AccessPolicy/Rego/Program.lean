import AccessPolicy.Rego.Builtin
import AccessPolicy.Rego.Term
/-!
# Programs

A program is the rules of its modules, each with the package it belongs to, in the order of the
modules' file names and then of the rules in a module. A rule defines the document at its
package's path followed by its name; `data` is the tree of these documents.
-/

namespace AccessPolicy.Rego

structure Entry where
  package : List String
  rule : Rule
  deriving Repr, Inhabited

/-- The path of the document a rule defines: its package, then its name, whose dots separate
the keys of a rule defined below a name. -/
def Entry.path (e : Entry) : List String := e.package ++ e.rule.name.splitOn "."


structure Program where
  entries : List Entry := []
  packages : List (List String) := []
  deriving Repr, Inhabited

namespace Program

def ofModules (modules : List Module) : Program :=
  ⟨modules.flatMap (fun m => m.rules.map fun r => ⟨m.package, r⟩), modules.map (·.package)⟩

def rulesAt (p : Program) (path : List String) : List Entry :=
  p.entries.filter (·.path == path)

def definesDocument (p : Program) (path : List String) : Bool :=
  p.entries.any fun e => e.path == path && e.rule.kind != .function

def definesFunction (p : Program) (path : List String) : Bool :=
  p.entries.any fun e => e.path == path && e.rule.kind == .function

def documentPaths (p : Program) : List (List String) :=
  (p.entries.filter (·.rule.kind != .function)).map Entry.path

def insertName (x : String) : List String → List String
  | [] => [x]
  | y :: ys => if x < y then x :: y :: ys else if x == y then y :: ys else y :: insertName x ys

def children (p : Program) (path : List String) : List String :=
  (p.documentPaths ++ p.packages).foldl (fun acc q =>
    if path.isPrefixOf q ∧ path.length < q.length then
      match q[path.length]? with
      | some c => insertName c acc
      | none => acc
    else acc) []

/-- Whether a path leads to documents: it is the root, or a prefix of a package or of a rule's
path. -/
def isNode (p : Program) (path : List String) : Bool :=
  path.isEmpty || (p.documentPaths ++ p.packages).any path.isPrefixOf
def functionArity? (p : Program) (path : List String) : Option Nat :=
  (p.entries.find? fun e => e.path == path && e.rule.kind == .function).bind
    fun e => e.rule.params.map List.length

end Program

def isRoot (v : String) : Bool := v == "input" || v == "data"

/-- What a function replaced by `with` stands for: a value whatever its arguments, or another
function, by the name it is called by. -/
inductive Stand where
  | value (d : Datum)
  | function (name : String)
  deriving Repr, Inhabited

/-- Where names are looked up while evaluating: the program, the input if there is one, the
package of the rule being evaluated (empty for a query), and what `with` modifiers replaced. -/
structure Scope where
  program : Program
  input : Option Datum
  package : List String := []
  replaced : List (List String × Datum) := []
  stands : List (String × Stand) := []

namespace Scope

def within (sc : Scope) (e : Entry) : Scope := { sc with package := e.package }

/-- Whether a bare name stands for a document of the scope's package: a rule's name starts
with it, as `r` starts `r.a.b := 1`. -/
def isRule (sc : Scope) (v : String) : Bool :=
  !sc.package.isEmpty && (sc.program.documentPaths.any fun p => (sc.package ++ [v]).isPrefixOf p)

def isFunctionName (sc : Scope) (v : String) : Bool :=
  !sc.package.isEmpty && sc.program.definesFunction (sc.package ++ [v])

/-- The path of the function a call names, if it names a function of the program: `data.`
and a path, or, inside a package, a path below it. -/
def functionPath? (sc : Scope) (name : String) : Option (List String) :=
  let parts := name.splitOn "."
  match parts with
  | "data" :: rest => if sc.program.definesFunction rest then some rest else none
  | _ =>
    if !sc.package.isEmpty && sc.program.definesFunction (sc.package ++ parts) then
      some (sc.package ++ parts)
    else none

def arity? (sc : Scope) (name : String) : Option Nat :=
  match sc.functionPath? name with
  | some path => sc.program.functionArity? path
  | none => Builtin.arity? name

end Scope

end AccessPolicy.Rego
