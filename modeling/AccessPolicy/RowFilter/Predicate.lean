import AccessPolicy.RowFilter.Parse
import AccessPolicy.Value.Text
/-!
# Predicates over rows

A predicate is a parsed row-filter expression together with its source text. Checking it
against a row first reads, for each comparison left to right, the attribute it names and brings
the value to the kind of the comparison's literal (`Operand.ofValue?`):

* for a string literal: a text, bytes read as UTF-8, or a timestamp as its date `YYYY-MM-DD`;
* for a boolean literal: a boolean;
* for an integer literal: an integer of any fixed width (an unsigned one past `2^63 - 1` as a
  64-bit float), a float that is not NaN, or a numeral (as a 64-bit integer when it is one, else
  as a 64-bit float: a special word stands for its value, a finite numeral past the largest
  float is refused).

The first comparison whose attribute is missing or whose value has the wrong kind makes the
check fail with an `UnknownAttribute` error. Otherwise numbers take the exact value of their
shortest decimal text, and an infinite float fails the check, the first by attribute name. The
expression is then evaluated classically: numbers compare by value, strings by code point,
booleans by equality.
-/

namespace AccessPolicy.RowFilter

inductive Operand where
  | int (n : Int)
  | float (x : Binary)
  | str (s : String)
  | bool (b : Bool)
  deriving Repr, DecidableEq, Inhabited

namespace Operand

def ofValue? (kind : LiteralKind) : Value → Option Operand
  | .null => none
  | .text s => if kind = .string then some (.str s) else none
  | .bytes bs => if kind = .string then some (.str (String.ofList (Utf8.decode bs))) else none
  | .time t => if kind = .string then some (.str t.date) else none
  | .bool b => if kind = .boolean then some (.bool b) else none
  | .int w n =>
    if kind = .integer ∧ w ≠ .big then
      if w = .uint64 ∧ n > Int.pow 2 63 - 1 then some (.float (Binary.round .double false n))
      else some (.int n)
    else none
  | .float64 x => if kind = .integer ∧ x ≠ .nan then some (.float x) else none
  | .float32 x => if kind = .integer ∧ x ≠ .nan then some (.float x) else none
  | .numeral s =>
    if kind = .integer then
      match readInt64? s with
      | some n => some (.int n)
      | none => (Binary.read? s).map .float
    else none
  | .list _ | .map _ => none
def shortestValue (neg : Bool) (sig : Nat) (exp : Int) : Rat :=
  if sig = 0 then 0
  else
    let (t, s) := Binary.shortest .double sig exp
    if neg then -decimalRat t s else decimalRat t s

def number? : Operand → Option (Except String Rat)
  | .int n => some (.ok n)
  | .float (.finite neg sig exp) => some (.ok (shortestValue neg sig exp))
  | .float x => some (.error (x.text .double .general))
  | _ => none

end Operand

def compareRat (a b : Rat) : Ordering :=
  if a < b then .lt else if a = b then .eq else .gt

def compareString (a b : String) : Ordering :=
  if a < b then .lt else if a = b then .eq else .gt

/-- Whether a comparison holds of an operand. Operands of another kind than the literal (which
checking rules out) do not satisfy it. -/
def compareHolds (op : CmpOp) (x : Operand) (lit : Literal) : Bool :=
  match x, lit with
  | .str s, .str t => op.holds (compareString s t)
  | .bool b, .bool c => op.holds (if b = c then .eq else if b then .gt else .lt)
  | x, .int k =>
    match x.number? with
    | some (.ok q) => op.holds (compareRat q k)
    | _ => false
  | _, _ => false

def Expr.eval (operand : String → Option Operand) : Expr → Bool
  | .cmp a op lit =>
    match operand a with
    | some x => compareHolds op x lit
    | none => false
  | .and l r => l.eval operand && r.eval operand
  | .or l r => l.eval operand || r.eval operand
  | .not e => !e.eval operand

inductive CheckError where
  | unknownAttribute (attr : String) (reason : String)
  | unsupported (text : String)
  deriving Repr, DecidableEq

def CheckError.message : CheckError → String
  | .unknownAttribute a r => "unknown attribute in predicate: " ++ a ++ " (" ++ r ++ ")"
  | .unsupported t => "json: unsupported value: " ++ t ++ "(code-EVALUATION_ERROR)"

structure Predicate where
  source : String
  expr : Expr
  deriving Repr, DecidableEq, Inhabited

namespace Predicate

def compile (text : String) : Except ParseError Predicate :=
  (parse text).map fun e => ⟨text, e⟩

def attributes (p : Predicate) : List String :=
  p.expr.attributes

/-- The operands of the comparisons, checked left to right: the first failing comparison gives
the error. -/
def operands (row : Row) : List (String × CmpOp × Literal) → Except CheckError (List (String × Operand))
  | [] => .ok []
  | (a, _, lit) :: rest =>
    match row.get? a with
    | none => .error (.unknownAttribute a "not present in row")
    | some v =>
      match Operand.ofValue? lit.kind v with
      | none => .error (.unknownAttribute a (v.typeName ++ " is not comparable with " ++ lit.kind.name))
      | some x => (operands row rest).map ((a, x) :: ·)
def insertByName (x : String × Operand) : List (String × Operand) → List (String × Operand)
  | [] => [x]
  | y :: ys => if x.1 < y.1 then x :: y :: ys else y :: insertByName x ys
def firstInfinite (xs : List (String × Operand)) : Option String :=
  (xs.foldr insertByName []).findSome? fun (_, x) =>
    match x.number? with
    | some (.error t) => some t
    | _ => none

def check (p : Predicate) (row : Row) : Except CheckError Bool :=
  match operands row p.expr.comparisons with
  | .error e => .error e
  | .ok xs =>
    match firstInfinite xs with
    | some t => .error (.unsupported t)
    | none => .ok (p.expr.eval fun a => (xs.find? (·.1 == a)).map (·.2))

def evaluate (p : Predicate) (row : Row) : Bool :=
  match p.check row with
  | .ok b => b
  | .error _ => false

end Predicate

end AccessPolicy.RowFilter
