import AccessPolicy.Text.CharClass
import AccessPolicy.Text.Quote
/-!
# Tokens of row-filter expressions

A row filter is a boolean expression over the attributes of a row, such as
`cf1:count >= 10 AND NOT (region = 'eu' || active == false)`. This module splits its text into
tokens; positions count characters from zero.

* Blank characters separate tokens.
* `(` and `)` group; `&&`, `||` and `!` are the words `AND`, `OR` and `NOT`; a single `&` or
  `|` is refused.
* The comparison operators are `==`, `!=`, `<`, `<=`, `>`, `>=`, and `=`, which stands for `==`.
* A string is quoted by `'` or `"`; inside it a backslash takes the next character as it is.
* An integer is a run of decimal digits, of any script, with an optional leading `-`.
* A word starts with a letter or `_` and goes on with letters, digits, `.`, `:` and `-`; the
  words `and`, `or`, `not`, `true` and `false` in any case are keywords, and every other word
  names an attribute.
-/

namespace AccessPolicy.RowFilter

inductive TokenKind where
  | eof
  | attribute
  | integer
  | string
  | trueWord
  | falseWord
  | op
  | andWord
  | orWord
  | notWord
  | lparen
  | rparen
  deriving Repr, DecidableEq, Inhabited

def TokenKind.describe : TokenKind → String
  | .eof => "end of expression"
  | .attribute => "attribute"
  | .integer => "integer"
  | .string => "string"
  | .trueWord | .falseWord => "boolean"
  | .op => "operator"
  | .andWord => "AND"
  | .orWord => "OR"
  | .notWord => "NOT"
  | .lparen => "'('"
  | .rparen => "')'"

/-- A token: its kind, its text (a string's text is its content), and the position of its first
character. -/
structure Token where
  kind : TokenKind
  text : String
  pos : Nat
  deriving Repr, DecidableEq, Inhabited

inductive ScanError where
  | lonePair (pos : Nat) (c : Char)
  | unterminated (pos : Nat)
  | unexpectedChar (pos : Nat) (c : Char)
  deriving Repr, DecidableEq

def ScanError.message : ScanError → String
  | .lonePair pos c => "position " ++ toString pos ++ ": expected '" ++ String.ofList [c, c] ++ "'"
  | .unterminated pos => "position " ++ toString pos ++ ": unterminated string literal"
  | .unexpectedChar pos c => "position " ++ toString pos ++ ": unexpected character " ++ Quote.char c

def wordStart (c : Char) : Bool :=
  c = '_' ∨ CharClass.letter c

def wordPart (c : Char) : Bool :=
  wordStart c ∨ CharClass.decimalDigit c ∨ c = '.' ∨ c = ':' ∨ c = '-'

def wordKind (w : String) : TokenKind :=
  match String.ofList (w.toList.map Char.toLower) with
  | "and" => .andWord
  | "or" => .orWord
  | "not" => .notWord
  | "true" => .trueWord
  | "false" => .falseWord
  | _ => .attribute

/-- The content of a string after its opening quote `q`, and how many characters it takes up to
and including the closing quote; `none` when the text ends first. A backslash takes the next
character as it is. -/
def stringBody (q : Char) : List Char → Option (List Char × Nat)
  | [] => none
  | '\\' :: c :: rest => (stringBody q rest).map fun (body, n) => (c :: body, n + 2)
  | c :: rest =>
    if c = q then some ([], 1)
    else (stringBody q rest).map fun (body, n) => (c :: body, n + 1)

def scanFrom (cs : List Char) (pos : Nat) : Except ScanError (List Token) :=
  match cs with
  | [] => .ok [⟨.eof, "", pos⟩]
  | c :: rest =>
    if CharClass.blank c then scanFrom rest (pos + 1)
    else if c = '(' then (scanFrom rest (pos + 1)).map (⟨.lparen, "(", pos⟩ :: ·)
    else if c = ')' then (scanFrom rest (pos + 1)).map (⟨.rparen, ")", pos⟩ :: ·)
    else if c = '&' ∨ c = '|' then
      match h : rest with
      | d :: rest' =>
        if d = c then
          (scanFrom rest' (pos + 2)).map
            (⟨if c = '&' then .andWord else .orWord, String.ofList [c, c], pos⟩ :: ·)
        else .error (.lonePair pos c)
      | [] => .error (.lonePair pos c)
    else if c = '!' then
      match h : rest with
      | '=' :: rest' => (scanFrom rest' (pos + 2)).map (⟨.op, "!=", pos⟩ :: ·)
      | _ => (scanFrom rest (pos + 1)).map (⟨.notWord, "!", pos⟩ :: ·)
    else if c = '=' ∨ c = '<' ∨ c = '>' then
      match h : rest with
      | '=' :: rest' =>
        (scanFrom rest' (pos + 2)).map (⟨.op, String.ofList [c, '='], pos⟩ :: ·)
      | _ =>
        (scanFrom rest (pos + 1)).map (⟨.op, if c = '=' then "==" else String.singleton c, pos⟩ :: ·)
    else if c = '\'' ∨ c = '"' then
      match stringBody c rest with
      | some (body, n) =>
        (scanFrom (rest.drop n) (pos + 1 + n)).map (⟨.string, String.ofList body, pos⟩ :: ·)
      | none => .error (.unterminated pos)
    else if CharClass.decimalDigit c ∨
        (c = '-' ∧ (rest.head?.map CharClass.decimalDigit).getD false) then
      let digits := rest.takeWhile CharClass.decimalDigit
      (scanFrom (rest.drop digits.length) (pos + 1 + digits.length)).map
        (⟨.integer, String.ofList (c :: digits), pos⟩ :: ·)
    else if wordStart c then
      let word := rest.takeWhile wordPart
      (scanFrom (rest.drop word.length) (pos + 1 + word.length)).map
        (⟨wordKind (String.ofList (c :: word)), String.ofList (c :: word), pos⟩ :: ·)
    else .error (.unexpectedChar pos c)
termination_by cs.length
decreasing_by all_goals simp_wf; all_goals (try subst h); all_goals (try simp); all_goals omega

def scan (s : String) : Except ScanError (List Token) :=
  scanFrom s.toList 0

end AccessPolicy.RowFilter
