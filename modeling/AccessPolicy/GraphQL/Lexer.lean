import AccessPolicy.Text.CharClass
/-!
# Tokens of GraphQL

A GraphQL source is split into tokens.
-/

namespace AccessPolicy.GraphQL

inductive TokenKind where
  | bang
  | dollar
  | amp
  | parenL
  | parenR
  | spread
  | colon
  | equals
  | at
  | bracketL
  | bracketR
  | braceL
  | pipe
  | braceR
  | name
  | int
  | float
  | string
  | blockString
  | eof
  deriving Repr, Inhabited, DecidableEq

structure Token where
  kind : TokenKind
  value : String := ""
  deriving Repr, Inhabited

def punctuator? : Char → Option TokenKind
  | '!' => some .bang
  | '$' => some .dollar
  | '&' => some .amp
  | '(' => some .parenL
  | ')' => some .parenR
  | ':' => some .colon
  | '=' => some .equals
  | '@' => some .at
  | '[' => some .bracketL
  | ']' => some .bracketR
  | '{' => some .braceL
  | '|' => some .pipe
  | '}' => some .braceR
  | _ => none

def nameStart (c : Char) : Bool := c == '_' || ('a' ≤ c && c ≤ 'z') || ('A' ≤ c && c ≤ 'Z')

def namePart (c : Char) : Bool := nameStart c || ('0' ≤ c && c ≤ '9')

def isDigitChar (c : Char) : Bool := '0' ≤ c && c ≤ '9'

def readNumber (cs : List Char) : Except String (TokenKind × Nat) := do
  let sign := if cs.head? == some '-' then 1 else 0
  let rest := cs.drop sign
  let intLen ← match rest with
    | '0' :: more =>
      if (more.head?.map isDigitChar).getD false then .error "Invalid number, unexpected digit after 0"
      else pure 1
    | _ =>
      let n := (rest.takeWhile isDigitChar).length
      if n == 0 then .error "Invalid number, expected digit" else pure n
  let rest := rest.drop intLen
  let (fracLen, isFloat, rest) ← match rest with
    | '.' :: more =>
      let n := (more.takeWhile isDigitChar).length
      if n == 0 then .error "Invalid number, expected digit" else pure (n + 1, true, more.drop n)
    | _ => pure (0, false, rest)
  let (expLen, isFloat) ← match rest with
    | e :: more =>
      if e == 'e' || e == 'E' then
        let s := if more.head? == some '-' || more.head? == some '+' then 1 else 0
        let n := ((more.drop s).takeWhile isDigitChar).length
        if n == 0 then .error "Invalid number, expected digit" else pure (1 + s + n, true)
      else pure (0, isFloat)
    | [] => pure (0, isFloat)
  pure (if isFloat then .float else .int, sign + intLen + fracLen + expLen)

/-- The character of four hexadecimal digits; a surrogate half stands for the replacement
character. -/
def hexChar? (ds : List Char) : Option Char := do
  let vs ← ds.mapM CharClass.hexValue?
  let n := vs.foldl (fun acc v => acc * 16 + v) 0
  if ds.length != 4 then none
  else if 0xD800 ≤ n && n ≤ 0xDFFF then some (Char.ofNat 0xFFFD)
  else some (Char.ofNat n)

/-- Reads the rest of a string after its opening quote: its value and the characters after
the closing quote. -/
def readString : Nat → List Char → List Char → Except String (String × List Char)
  | 0, _, _ => .error "Unterminated string."
  | _ + 1, [], _ => .error "Unterminated string."
  | fuel + 1, c :: rest, acc =>
    if c == '\n' || c == '\r' then .error "Unterminated string."
    else if c.toNat < 0x20 && c != '\t' then .error "Invalid character within String"
    else if c == '"' then .ok (String.ofList acc.reverse, rest)
    else if c == '\\' then
      match rest with
      | [] => .error "Invalid character escape sequence."
      | 'u' :: more =>
        if more.length < 5 then .error "Invalid character escape sequence"
        else
          match hexChar? (more.take 4) with
          | some ch => readString fuel (more.drop 4) (ch :: acc)
          | none => .error "Invalid character escape sequence"
      | e :: more =>
        let plain := match e with
          | '"' => some '"'
          | '/' => some '/'
          | '\\' => some '\\'
          | 'b' => some (Char.ofNat 8)
          | 'f' => some (Char.ofNat 12)
          | 'n' => some '\n'
          | 'r' => some '\r'
          | 't' => some '\t'
          | _ => none
        match plain with
        | some ch => readString fuel more (ch :: acc)
        | none => .error "Invalid character escape sequence"
    else readString fuel rest (c :: acc)

def leadingBlanks (line : List Char) : Option Nat :=
  let n := (line.takeWhile fun c => c == ' ' || c == '\t').length
  if n == line.length then none else some n

/-- The value of a block string from its raw text: the indentation common to its lines after
the first, counting only lines that are not all blanks, is removed from them, and leading and
trailing lines that are all blanks are dropped. -/
def blockValue (raw : List Char) : String :=
  let lines : List (List Char) := raw.splitOn '\n'
  let indents := (lines.drop 1).filterMap leadingBlanks
  let common := indents.foldl min (indents.headD 0)
  let lines := match lines with
    | first :: rest =>
      if indents.isEmpty then first :: rest
      else first :: rest.map fun (l : List Char) => if l.length < common then [] else l.drop common
    | [] => []
  let blank (l : List Char) : Bool := (leadingBlanks l).isNone
  let lines := (lines.dropWhile blank).reverse.dropWhile blank |>.reverse
  "\n".intercalate (lines.map String.ofList)

/-- Reads the rest of a block string after its opening quotes: its raw text, line breaks
written `\r\n` or `\r` made `\n`, and the characters after the closing quotes. -/
def readBlock : Nat → List Char → List Char → Except String (List Char × List Char)
  | 0, _, _ => .error "Unterminated string."
  | _ + 1, [], _ => .error "Unterminated string."
  | fuel + 1, c :: rest, acc =>
    match c, rest with
    | '"', '"' :: '"' :: more => .ok (acc.reverse, more)
    | '\\', '"' :: '"' :: '"' :: more => readBlock fuel more ('"' :: '"' :: '"' :: acc)
    | '\r', '\n' :: more => readBlock fuel more ('\n' :: acc)
    | '\r', _ => readBlock fuel rest ('\n' :: acc)
    | _, _ =>
      if c.toNat < 0x20 && c != '\t' && c != '\n' then .error "Invalid character within String"
      else readBlock fuel rest (c :: acc)

def lexFrom : Nat → List Char → List Token → Except String (List Token)
  | 0, _, acc => .ok (acc.reverse ++ [⟨.eof, ""⟩])
  | _ + 1, [], acc => .ok (acc.reverse ++ [⟨.eof, ""⟩])
  | fuel + 1, c :: rest, acc =>
    if c == ' ' || c == '\t' || c == ',' || c == '\n' || c == '\r' || c.toNat == 0xFEFF then
      lexFrom fuel rest acc
    else if c == '#' then
      lexFrom fuel (rest.dropWhile fun d => d != '\n' && d != '\r') acc
    else
      match punctuator? c with
      | some k => lexFrom fuel rest (⟨k, ""⟩ :: acc)
      | none =>
        if c == '.' then
          match rest with
          | '.' :: '.' :: more => lexFrom fuel more (⟨.spread, ""⟩ :: acc)
          | _ => .error "Cannot parse the unexpected character \".\"."
        else if nameStart c then
          let body := rest.takeWhile namePart
          lexFrom fuel (rest.drop body.length) (⟨.name, String.ofList (c :: body)⟩ :: acc)
        else if c == '-' || isDigitChar c then do
          let (kind, n) ← readNumber (c :: rest)
          let cs := c :: rest
          lexFrom fuel (cs.drop n) (⟨kind, String.ofList (cs.take n)⟩ :: acc)
        else if c == '"' then
          match rest with
          | '"' :: '"' :: more => do
            let (raw, after) ← readBlock (more.length + 1) more []
            lexFrom fuel after (⟨.blockString, blockValue raw⟩ :: acc)
          | _ => do
            let (value, after) ← readString (rest.length + 1) rest []
            lexFrom fuel after (⟨.string, value⟩ :: acc)
        else .error "Cannot parse the unexpected character"

def lex (source : String) : Except String (List Token) :=
  lexFrom (source.length + 1) source.toList []

end AccessPolicy.GraphQL
