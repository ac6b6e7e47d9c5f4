import AccessPolicy.Text.Quote
/-!
# Row-filter expressions

An expression compares attributes of a row with literals and joins the comparisons with `AND`,
`OR` and `NOT`. It is written back in a canonical form: every `AND` and `OR` in parentheses,
`NOT x` for a negation, `==` for equality, integers in decimal, and strings double-quoted with
the escapes of `Quote.string`.
-/

namespace AccessPolicy.RowFilter

inductive CmpOp where
  | eq
  | ne
  | lt
  | le
  | gt
  | ge
  deriving Repr, DecidableEq, Inhabited

def CmpOp.symbol : CmpOp → String
  | .eq => "=="
  | .ne => "!="
  | .lt => "<"
  | .le => "<="
  | .gt => ">"
  | .ge => ">="

def CmpOp.ofSymbol? : String → Option CmpOp
  | "==" | "=" => some .eq
  | "!=" => some .ne
  | "<" => some .lt
  | "<=" => some .le
  | ">" => some .gt
  | ">=" => some .ge
  | _ => none

def CmpOp.ordering : CmpOp → Bool
  | .lt | .le | .gt | .ge => true
  | .eq | .ne => false

def CmpOp.holds : CmpOp → Ordering → Bool
  | .eq, o => o == .eq
  | .ne, o => o != .eq
  | .lt, o => o == .lt
  | .le, o => o != .gt
  | .gt, o => o == .gt
  | .ge, o => o != .lt

inductive LiteralKind where
  | integer
  | string
  | boolean
  deriving Repr, DecidableEq, Inhabited

def LiteralKind.name : LiteralKind → String
  | .integer => "integer"
  | .string => "string"
  | .boolean => "boolean"

inductive Literal where
  | int (n : Int)
  | str (s : String)
  | bool (b : Bool)
  deriving Repr, DecidableEq, Inhabited

def Literal.kind : Literal → LiteralKind
  | .int _ => .integer
  | .str _ => .string
  | .bool _ => .boolean

def Literal.render : Literal → String
  | .int n => toString n
  | .str s => Quote.string s
  | .bool b => if b then "true" else "false"

inductive Expr where
  | cmp (attr : String) (op : CmpOp) (lit : Literal)
  | and (l r : Expr)
  | or (l r : Expr)
  | not (e : Expr)
  deriving Repr, DecidableEq, Inhabited

namespace Expr

def render : Expr → String
  | .cmp a op lit => a ++ " " ++ op.symbol ++ " " ++ lit.render
  | .and l r => "(" ++ l.render ++ " AND " ++ r.render ++ ")"
  | .or l r => "(" ++ l.render ++ " OR " ++ r.render ++ ")"
  | .not e => "NOT " ++ e.render
def comparisons : Expr → List (String × CmpOp × Literal)
  | .cmp a op lit => [(a, op, lit)]
  | .and l r => l.comparisons ++ r.comparisons
  | .or l r => l.comparisons ++ r.comparisons
  | .not e => e.comparisons

def attributes (e : Expr) : List String :=
  e.comparisons.foldl (fun acc (a, _, _) => if acc.contains a then acc else acc ++ [a]) []

end Expr

end AccessPolicy.RowFilter
