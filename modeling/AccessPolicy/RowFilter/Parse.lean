import AccessPolicy.RowFilter.Token
import AccessPolicy.RowFilter.Expr
import AccessPolicy.Number.Decimal
/-!
# Parsing row-filter expressions

The grammar, over the tokens of `RowFilter.scan`:

```
or      := and (OR and)*
and     := not (AND not)*
not     := NOT not | primary
primary := "(" or ")" | attribute operator literal
```

`AND` and `OR` group to the left, `NOT` binds tighter than `AND`, and `AND` tighter than `OR`.
An integer literal must fit in 64 bits with sign, and a boolean literal may not follow an
ordering operator. The whole text must be one expression.

Every error names the position of the token it concerns, and the message of a refused text is
`invalid predicate "<text>": position N: …`.

The descent carries fuel; `parse` gives it four steps for every token, which is more than the
descent takes.
-/

namespace AccessPolicy.RowFilter

inductive ParseError where
  | scan (e : ScanError)
  | trailing (pos : Nat) (kind : TokenKind)
  | expectedPrimary (pos : Nat) (kind : TokenKind)
  | expectedClose (pos : Nat) (kind : TokenKind)
  | expectedOperator (pos : Nat) (attr : String) (kind : TokenKind)
  | expectedLiteral (pos : Nat) (attr : String) (op : String) (kind : TokenKind)
  | intRange (pos : Nat) (text : String)
  | boolOrdering (pos : Nat) (op : String)
  | exhausted
  deriving Repr, DecidableEq

def ParseError.detail : ParseError → String
  | .scan e => e.message
  | .trailing pos k => "position " ++ toString pos ++ ": unexpected " ++ k.describe
  | .expectedPrimary pos k =>
    "position " ++ toString pos ++ ": expected attribute or '(', found " ++ k.describe
  | .expectedClose pos k => "position " ++ toString pos ++ ": expected ')', found " ++ k.describe
  | .expectedOperator pos a k =>
    "position " ++ toString pos ++ ": expected comparison operator after '" ++ a ++ "', found " ++
      k.describe
  | .expectedLiteral pos a op k =>
    "position " ++ toString pos ++ ": expected literal after '" ++ a ++ " " ++ op ++ "', found " ++
      k.describe
  | .intRange pos t => "position " ++ toString pos ++ ": integer out of range: " ++ t
  | .boolOrdering pos op =>
    "position " ++ toString pos ++ ": operator " ++ op ++ " is not defined for booleans"
  | .exhausted => "expression too deep"

def ParseError.message (text : String) (e : ParseError) : String :=
  "invalid predicate " ++ Quote.string text ++ ": " ++ e.detail
def peek (ts : List Token) : Token :=
  ts.headD ⟨.eof, "", 0⟩

def advance (ts : List Token) : List Token :=
  match ts with
  | t :: rest => if t.kind = .eof then ts else rest
  | [] => []

def literalOf (attr : Token) (opTok : Token) (op : CmpOp) (t : Token) : Except ParseError Literal :=
  let lit : Except ParseError Literal :=
    match t.kind with
    | .integer =>
      match readInt64? t.text with
      | some n => .ok (.int n)
      | none => .error (.intRange t.pos t.text)
    | .string => .ok (.str t.text)
    | .trueWord => .ok (.bool true)
    | .falseWord => .ok (.bool false)
    | k => .error (.expectedLiteral t.pos attr.text op.symbol k)
  match lit with
  | .ok (.bool b) => if op.ordering then .error (.boolOrdering opTok.pos op.symbol) else .ok (.bool b)
  | r => r

mutual

def parseOr (fuel : Nat) (ts : List Token) : Except ParseError (Expr × List Token) :=
  match fuel with
  | 0 => .error .exhausted
  | fuel + 1 =>
    match parseAnd fuel ts with
    | .ok (l, rest) => orTail fuel l rest
    | .error e => .error e

def orTail (fuel : Nat) (l : Expr) (ts : List Token) : Except ParseError (Expr × List Token) :=
  match fuel with
  | 0 => .error .exhausted
  | fuel + 1 =>
    if (peek ts).kind = .orWord then
      match parseAnd fuel (advance ts) with
      | .ok (r, rest) => orTail fuel (.or l r) rest
      | .error e => .error e
    else .ok (l, ts)

def parseAnd (fuel : Nat) (ts : List Token) : Except ParseError (Expr × List Token) :=
  match fuel with
  | 0 => .error .exhausted
  | fuel + 1 =>
    match parseNot fuel ts with
    | .ok (l, rest) => andTail fuel l rest
    | .error e => .error e

def andTail (fuel : Nat) (l : Expr) (ts : List Token) : Except ParseError (Expr × List Token) :=
  match fuel with
  | 0 => .error .exhausted
  | fuel + 1 =>
    if (peek ts).kind = .andWord then
      match parseNot fuel (advance ts) with
      | .ok (r, rest) => andTail fuel (.and l r) rest
      | .error e => .error e
    else .ok (l, ts)

def parseNot (fuel : Nat) (ts : List Token) : Except ParseError (Expr × List Token) :=
  match fuel with
  | 0 => .error .exhausted
  | fuel + 1 =>
    if (peek ts).kind = .notWord then
      (parseNot fuel (advance ts)).map fun (e, rest) => (.not e, rest)
    else parsePrimary fuel ts

def parsePrimary (fuel : Nat) (ts : List Token) : Except ParseError (Expr × List Token) :=
  match fuel with
  | 0 => .error .exhausted
  | fuel + 1 =>
    let t := peek ts
    let ts := advance ts
    match t.kind with
    | .lparen =>
      match parseOr fuel ts with
      | .ok (e, rest) =>
        let close := peek rest
        if close.kind = .rparen then .ok (e, advance rest)
        else .error (.expectedClose close.pos close.kind)
      | .error e => .error e
    | .attribute =>
      let opTok := peek ts
      match CmpOp.ofSymbol? opTok.text, opTok.kind with
      | some op, .op =>
        let litTok := peek (advance ts)
        (literalOf t opTok op litTok).map fun lit => (.cmp t.text op lit, advance (advance ts))
      | _, k => .error (.expectedOperator opTok.pos t.text k)
    | k => .error (.expectedPrimary t.pos k)

end

def parse (text : String) : Except ParseError Expr :=
  match scan text with
  | .error e => .error (.scan e)
  | .ok ts =>
    match parseOr (4 * ts.length + 4) ts with
    | .error e => .error e
    | .ok (e, rest) =>
      let t := peek rest
      if t.kind = .eof then .ok e else .error (.trailing t.pos t.kind)

end AccessPolicy.RowFilter
