import AccessPolicy.Rego.Token
import AccessPolicy.Text.Quote
/-!
# Rego terms, rules and modules

A Rego module is a package path, imports and rules; a query is a body of literals.
-/

namespace AccessPolicy.Rego

structure Loc where
  file : String
  row : Nat
  col : Nat
  deriving Repr, DecidableEq, Inhabited

def Loc.ofToken (file : String) (t : Token) : Loc := ⟨file, t.place.row, t.place.col⟩

/-- The prefix of a message about a place: the file and line, or the line and column of a
query. -/
def Loc.text (l : Loc) : String :=
  if l.file.isEmpty then toString l.row ++ ":" ++ toString l.col
  else l.file ++ ":" ++ toString l.row

mutual

inductive Term where
  | null
  | bool (b : Bool)
  | number (text : String)
  | string (s : String)
  | var (name : String)
  | ref (head : Term) (path : List Term) (loc : Loc)
  | array (items : List Term)
  | object (pairs : List (Term × Term))
  | set (items : List Term)
  | call (name : String) (args : List Term) (loc : Loc)
  | arrayOf (head : Term) (body : List Literal)
  | setOf (head : Term) (body : List Literal)
  | objectOf (key value : Term) (body : List Literal)
  deriving Repr, Inhabited

inductive Expr where
  | term (t : Term)
  | call (name : String) (args : List Term)
  | some (names : List String)
  | someIn (key : Option Term) (value : Term) (collection : Term)
  /-- A body that must hold for every member of a domain, with the member's value and
  optionally its key bound to variables of the body's own. -/
  | every (key : Option String) (value : String) (domain : Term) (body : List Literal)
  deriving Repr, Inhabited

/-- A literal of a body: an expression, whether it is negated, where it stands, its text, and
the `with` modifiers it runs under, each a target, the value it takes and where it stands. -/
inductive Literal where
  | mk (negated : Bool) (expr : Expr) (loc : Loc) (text : String)
    (mods : List (Term × Term × Loc))
  deriving Repr, Inhabited

end

namespace Literal

def expr : Literal → Expr
  | .mk _ e _ _ _ => e

def negated : Literal → Bool
  | .mk n _ _ _ _ => n

def loc : Literal → Loc
  | .mk _ _ l _ _ => l

def text : Literal → String
  | .mk _ _ _ t _ => t

def mods : Literal → List (Term × Term × Loc)
  | .mk _ _ _ _ m => m

end Literal

def infixFunction : String → Option String
  | "==" => some "equal"
  | "!=" => some "neq"
  | "<" => some "lt"
  | "<=" => some "lte"
  | ">" => some "gt"
  | ">=" => some "gte"
  | "+" => some "plus"
  | "-" => some "minus"
  | "*" => some "mul"
  | "/" => some "div"
  | "%" => some "rem"
  | "&" => some "and"
  | "|" => some "or"
  | _ => none

def isPlainName (s : String) : Bool :=
  match s.toList with
  | c :: cs => nameStart c && cs.all namePart && !(baseKeywords ++ futureKeywords).contains s
  | [] => false

/-- The name a variable was written with: a variable of a nested scope is renamed to its name,
`#` and a number (see the scopes of variables), and shown by its name. -/
def writtenName (v : String) : String :=
  (v.splitOn "#").headD v

mutual

def Term.render : Term → String
  | .null => "null"
  | .bool b => if b then "true" else "false"
  | .number n => n
  | .string s => Quote.string s
  | .var v => writtenName v
  | .ref head path _ => head.render ++ String.join (renderPath path)
  | .array items => "[" ++ ", ".intercalate (renderItems items) ++ "]"
  | .object pairs => "\x7b" ++ ", ".intercalate (renderPairs pairs) ++ "\x7d"
  | .set items => if items.isEmpty then "set()" else "\x7b" ++ ", ".intercalate (renderItems items) ++ "\x7d"
  | .call name args _ => name ++ "(" ++ ", ".intercalate (renderItems args) ++ ")"
  | .arrayOf head body => "[" ++ head.render ++ " | " ++ "; ".intercalate (renderBody body) ++ "]"
  | .setOf head body => "\x7b" ++ head.render ++ " | " ++ "; ".intercalate (renderBody body) ++ "\x7d"
  | .objectOf k v body =>
    "\x7b" ++ k.render ++ ": " ++ v.render ++ " | " ++ "; ".intercalate (renderBody body) ++ "\x7d"

def renderPath : List Term → List String
  | [] => []
  | t :: ts =>
    (match t with
      | .string s => if isPlainName s then "." ++ s else "[" ++ t.render ++ "]"
      | _ => "[" ++ t.render ++ "]") :: renderPath ts

def renderItems : List Term → List String
  | [] => []
  | t :: ts => t.render :: renderItems ts

def renderPairs : List (Term × Term) → List String
  | [] => []
  | (k, v) :: ps => (k.render ++ ": " ++ v.render) :: renderPairs ps

def renderBody : List Literal → List String
  | [] => []
  | .mk _ _ _ text _ :: ls => text :: renderBody ls

end

def Term.kindName : Term → String
  | .null => "null"
  | .bool _ => "boolean"
  | .number _ => "number"
  | .string _ => "string"
  | .var _ => "var"
  | .ref _ [] _ => "var"
  | .ref _ _ _ => "ref"
  | .array _ => "array"
  | .object _ => "object"
  | .set _ => "set"
  | .call .. => "call"
  | .arrayOf .. => "arraycomprehension"
  | .setOf .. => "setcomprehension"
  | .objectOf .. => "objectcomprehension"

structure Rule where
  name : String
  params : Option (List Term) := none
  key : Option Term := none
  value : Option Term := none
  body : List Literal := []
  isDefault : Bool := false
  elses : List (Option Term × List Literal) := []
  loc : Loc
  hasIf : Bool := false
  hasBody : Bool := false
  hasContains : Bool := false
  hasValue : Bool := false
  assign : Bool := false
  elseAssigns : List Bool := []
  elseLocs : List Loc := []
  deriving Repr, Inhabited

inductive RuleKind where
  | complete
  | partialSet
  | partialObject
  | function
  deriving Repr, DecidableEq, Inhabited

def Rule.kind (r : Rule) : RuleKind :=
  if r.params.isSome then .function
  else match r.key, r.value with
    | some _, none => .partialSet
    | some _, some _ => .partialObject
    | none, _ => .complete

structure Import where
  path : List String
  asName : Option String := none
  loc : Loc
  deriving Repr, Inhabited

def Import.name (i : Import) : String :=
  i.asName.getD (i.path.getLastD "")

structure Module where
  file : String
  package : List String
  rules : List Rule
  imports : List Import := []
  packageLoc : Loc := ⟨file, 1, 1⟩
  deriving Repr, Inhabited

/-- An error of reading, checking or evaluating Rego: its code, where it stands, its message
and lines of detail. -/
structure RegoError where
  code : String
  loc : Option Loc
  message : String
  details : List String := []
  deriving Repr, Inhabited

def RegoError.text (e : RegoError) : String :=
  (match e.loc with
    | some l => l.text ++ ": "
    | none => "") ++ e.code ++ ": " ++ e.message ++ String.join (e.details.map ("\n\t" ++ ·))

/-- The text of a list of errors: one after `1 error occurred: `, several on lines of their own
after their count. -/
def errorsText : List RegoError → String
  | [] => "no error(s)"
  | [e] => "1 error occurred: " ++ e.text
  | es => toString es.length ++ " errors occurred:\n" ++ "\n".intercalate (es.map RegoError.text)

end AccessPolicy.Rego
