import AccessPolicy.Text.CharClass
/-!
# Tokens of Rego

A Rego source is split into tokens, each with the place it starts (its offset, line and column,
counting characters, lines and columns from one) and whether a line break comes before it.
-/

namespace AccessPolicy.Rego

structure Place where
  offset : Nat
  row : Nat
  col : Nat
  deriving Repr, DecidableEq, Inhabited

structure Token where
  kind : String
  text : String
  place : Place
  stop : Nat
  afterBreak : Bool
  unreadable : Bool
  deriving Repr, Inhabited

def baseKeywords : List String :=
  ["package", "import", "as", "default", "else", "not", "some", "with", "null", "true", "false"]
def futureKeywords : List String := ["if", "contains", "in", "every"]

def rawQuote : Char := Char.ofNat 96

def nameStart (c : Char) : Bool := c == '_' || ('a' ≤ c && c ≤ 'z') || ('A' ≤ c && c ≤ 'Z')

def namePart (c : Char) : Bool := nameStart c || ('0' ≤ c && c ≤ '9')

def isDigit (c : Char) : Bool := '0' ≤ c && c ≤ '9'

def pairOperators : List String := [":=", "==", "!=", "<=", ">="]
def singleOperators : List Char :=
  ['=', '<', '>', '+', '-', '*', '/', '%', '&', '|', '.', ',', ';', ':', '(', ')', '[', ']',
    '{', '}']

/-- Decodes the JSON escapes of a string's body up to its closing quote: the characters, and
how many characters were taken with the quote; or why the string is illegal: it does not end on
its line, or an escape is not one of JSON's. -/
def stringBody : List Char → Except String (List Char × Nat)
  | [] => .error "non-terminated string"
  | '"' :: _ => .ok ([], 1)
  | '\n' :: _ => .error "non-terminated string"
  | '\\' :: 'u' :: a :: b :: c :: d :: rest =>
    match CharClass.hexValue? a, CharClass.hexValue? b, CharClass.hexValue? c, CharClass.hexValue? d with
    | some w, some x, some y, some z =>
      (stringBody rest).map fun (body, n) => (Char.ofNat (((w * 16 + x) * 16 + y) * 16 + z) :: body, n + 6)
    | _, _, _, _ => .error "illegal escape sequence"
  | '\\' :: e :: rest =>
    let c := match e with
      | 'n' => some '\n'
      | 't' => some '\t'
      | 'r' => some '\r'
      | 'b' => some (Char.ofNat 8)
      | 'f' => some (Char.ofNat 12)
      | '"' => some '"'
      | '\\' => some '\\'
      | '/' => some '/'
      | _ => none
    match c with
    | some c => (stringBody rest).map fun (body, n) => (c :: body, n + 2)
    | none => .error "illegal escape sequence"
  | c :: rest => (stringBody rest).map fun (body, n) => (c :: body, n + 1)

/-- The number of characters of an expression inside a template string, up to the brace that
closes it: strings and braces inside it are skipped whole. -/
def exprLength : Nat → List Char → Nat → Option Nat
  | 0, _, _ => none
  | fuel + 1, cs, depth =>
    match cs with
    | [] => none
    | c :: rest =>
      if c == '}' then
        if depth = 0 then some 0 else (exprLength fuel rest (depth - 1)).map (· + 1)
      else if c == '{' then (exprLength fuel rest (depth + 1)).map (· + 1)
      else if c == '"' then
        match stringBody rest with
        | .ok (_, n) => (exprLength fuel (rest.drop n) depth).map (· + 1 + n)
        | .error _ => none
      else if c == rawQuote then
        let body := rest.takeWhile (· != rawQuote)
        if body.length == rest.length then none
        else (exprLength fuel (rest.drop (body.length + 1)) depth).map (· + body.length + 2)
      else (exprLength fuel rest depth).map (· + 1)

/-- The number of characters of a template string's body with its closing quote: text, where
a backslash takes the next character unless the template is raw, and expressions between
braces. -/
def templateLength (raw : Bool) : Nat → List Char → Option Nat
  | 0, _ => none
  | fuel + 1, cs =>
    match cs with
    | [] => none
    | c :: rest =>
      if (raw && c == rawQuote) || (!raw && c == '"') then some 1
      else if !raw && c == '\n' then none
      else if !raw && c == '\\' then
        match rest with
        | _ :: more => (templateLength raw fuel more).map (· + 2)
        | [] => none
      else if c == '{' then
        match exprLength (rest.length + 1) rest 0 with
        | some n => (templateLength raw fuel (rest.drop (n + 1))).map (· + n + 2)
        | none => none
      else (templateLength raw fuel rest).map (· + 1)

/-- The faults of reading a character into the scan: a null character anywhere, and a
byte-order mark anywhere but at the very start. -/
def loadFaults (c : Char) : List String :=
  if c.toNat == 0 then ["illegal null character"]
  else if c.toNat == 0xFEFF then ["illegal byte-order mark"]
  else []

/-- A token as the scan first finds it. -/
structure Lexeme where
  kind : String
  text : String
  place : Place
  stop : Nat
  faults : List String
  deriving Repr, Inhabited

/-- Where a scan stands: the characters, the index of the current one (the size at the end),
the offset of the first one in the source, the line and column of the current one (a line
break counts as column zero of the line it opens) and the faults found since the last lexeme. -/
structure Scanner where
  chars : Array Char
  pos : Nat
  base : Nat
  row : Nat
  col : Nat
  faults : List String
  deriving Inhabited

def Scanner.curr (s : Scanner) : Option Char := s.chars[s.pos]?

def Scanner.place (s : Scanner) : Place := ⟨s.base + s.pos, s.row, s.col⟩

/-- Moves to the next character, with the faults of reading it; at the end the line and column
stay those of the last character. -/
def Scanner.next (s : Scanner) : Scanner :=
  if s.pos < s.chars.size then
    let p := s.pos + 1
    match s.chars[p]? with
    | some c =>
      let (row, col) := if c == '\n' then (s.row + 1, 0) else (s.row, s.col + 1)
      { s with pos := p, row, col, faults := s.faults ++ loadFaults c }
    | none => { s with pos := p }
  else s

def Scanner.fault (s : Scanner) (why : String) : Scanner := { s with faults := s.faults ++ [why] }

def Scanner.nextN : Nat → Scanner → Scanner
  | 0, s => s
  | n + 1, s => Scanner.nextN n s.next

def Scanner.skipWhile (test : Char → Bool) : Nat → Scanner → Scanner
  | 0, s => s
  | fuel + 1, s =>
    match s.curr with
    | some c => if test c then Scanner.skipWhile test fuel s.next else s
    | none => s

/-- Reads a number from its first digit: digits, then a point with digits after it ("expected
fraction" when there are none), then `e` or `E` with an optional sign and digits ("expected
exponent" when there are none). -/
def Scanner.number (s : Scanner) : Scanner :=
  let fuel := s.chars.size
  let s := s.skipWhile isDigit fuel
  let s :=
    if s.curr == some '.' then
      let s1 := s.next
      let s2 := s1.skipWhile isDigit fuel
      if s2.pos == s1.pos then s2.fault "expected fraction" else s2
    else s
  let s :=
    if s.curr == some 'e' || s.curr == some 'E' then
      let s1 := s.next
      let s1 := if s1.curr == some '+' || s1.curr == some '-' then s1.next else s1
      let s2 := s1.skipWhile isDigit fuel
      if s2.pos == s1.pos then s2.fault "expected exponent" else s2
    else s
  match s.curr with
  | some c => if nameStart c then (s.skipWhile namePart fuel).fault "illegal number format" else s
  | none => s

/-- Reads the rest of a string after its opening quote, through its closing quote. -/
def Scanner.quoted : Nat → Scanner → Scanner
  | 0, s => s
  | fuel + 1, s =>
    match s.curr with
    | none => s.fault "non-terminated string"
    | some ch =>
      if ch == '\n' then s.fault "non-terminated string"
      else
        let s := s.next
        if ch == '"' then s
        else if ch == '\\' then
          match s.curr with
          | some e =>
            if "\\\"/bfnrt".toList.contains e then Scanner.quoted fuel s.next
            else if e == 'u' then Scanner.quoted fuel (s.nextN 4)
            else Scanner.quoted fuel (s.fault "illegal escape sequence")
          | none => Scanner.quoted fuel s
        else Scanner.quoted fuel s

/-- Reads the rest of a raw string after its opening backquote, through the closing one; the
end first is a "non-terminated string". -/
def Scanner.raw : Nat → Scanner → Scanner
  | 0, s => s
  | fuel + 1, s =>
    match s.curr with
    | none => s.fault "non-terminated string"
    | some ch =>
      let s := s.next
      if ch == rawQuote then s else Scanner.raw fuel s

/-- The kind of a lexeme of one character or two that starts with a character that is no
blank, letter, digit or quote, and how many characters it takes; none when the character is
illegal, with the fault when there is one. -/
def operatorKind (c : Char) (d : Option Char) : Option (String × Nat) ⊕ Option String :=
  let pair := match d with
    | some d => String.ofList [c, d]
    | none => ""
  if pairOperators.contains pair then .inl (some (pair, 2))
  else if singleOperators.contains c then .inl (some (String.singleton c, 1))
  else if c == '!' then .inr (some "illegal ! character")
  else if c == '$' then .inr (some "illegal $ character")
  else .inr none

/-- Reads the lexeme at the current character: its kind and the scan after it, which stands at
the first character of the next one. -/
def Scanner.lexeme (keywords : List String) (s : Scanner) : String × Scanner :=
  let fuel := s.chars.size + 1
  match s.curr with
  | none => ("eof", s)
  | some c =>
    if c == ' ' || c == '\t' || c == '\n' || c == '\r' then ("whitespace", s.next)
    else if nameStart c then
      let s' := s.skipWhile namePart fuel
      let word := String.ofList ((s.chars.extract s.pos s'.pos).toList)
      (if keywords.contains word then word else "ident", s')
    else if isDigit c then ("number", s.number)
    else
      let s1 := s.next
      if c == '#' then ("comment", s1.skipWhile (· != '\n') fuel)
      else if c == '"' then ("string", s1.quoted fuel)
      else if c == rawQuote then ("rawString", s1.raw fuel)
      else if c == '$' && (s1.curr == some '"' || s1.curr == some rawQuote) then
        let raw := s1.curr == some rawQuote
        let rest := (s.chars.extract (s.pos + 2) s.chars.size).toList
        match templateLength raw (rest.length + 1) rest with
        | some n => (if raw then "rawTemplate" else "template", s1.nextN (n + 1))
        | none => ("illegal", s1.fault "non-terminated string")
      else
        match operatorKind c s1.curr with
        | .inl (some (kind, 2)) => (kind, s1.next)
        | .inl (some (kind, _)) => (kind, s1)
        | .inl none => ("illegal", s1)
        | .inr (some why) => ("illegal", s1.fault why)
        | .inr none => ("illegal", s1)

def Scanner.lexemes (keywords : List String) : Nat → Scanner → List Lexeme
  | 0, s => [⟨"eof", "", s.place, s.base + s.pos, s.faults⟩]
  | fuel + 1, s =>
    let place := s.place
    let (kind, s') := s.lexeme keywords
    let text := String.ofList ((s.chars.extract s.pos s'.pos).toList)
    let lex : Lexeme := ⟨kind, text, place, s'.base + s'.pos, s'.faults⟩
    if kind == "eof" then [lex]
    else lex :: Scanner.lexemes keywords fuel { s' with faults := [] }

/-- The characters a quoted string stands for, as JSON reads a string: the escapes decoded, a
surrogate pair joined into its character and a surrogate alone read as U+FFFD; none when the
body holds a control character or an escape JSON does not know. -/
def jsonBody : List Char → Option (List Char)
  | [] => some []
  | '\\' :: 'u' :: a :: b :: c :: d :: rest => do
    let v ← hexQuad a b c d
    if 0xD800 ≤ v ∧ v < 0xDC00 then
      match _hr : rest with
      | '\\' :: 'u' :: e :: f :: g :: h :: more =>
        match hexQuad e f g h with
        | some w =>
          if 0xDC00 ≤ w ∧ w < 0xE000 then
            (Char.ofNat (0x10000 + (v - 0xD800) * 0x400 + (w - 0xDC00)) :: ·) <$> jsonBody more
          else ('\uFFFD' :: ·) <$> jsonBody rest
        | none => none
      | _ => ('\uFFFD' :: ·) <$> jsonBody rest
    else if 0xDC00 ≤ v ∧ v < 0xE000 then ('\uFFFD' :: ·) <$> jsonBody rest
    else (Char.ofNat v :: ·) <$> jsonBody rest
  | '\\' :: e :: rest => do
    let c ← match e with
      | 'n' => some '\n'
      | 't' => some '\t'
      | 'r' => some '\r'
      | 'b' => some (Char.ofNat 8)
      | 'f' => some (Char.ofNat 12)
      | '"' => some '"'
      | '\\' => some '\\'
      | '/' => some '/'
      | _ => none
    (c :: ·) <$> jsonBody rest
  | c :: rest => if c.toNat < 0x20 then none else (c :: ·) <$> jsonBody rest
termination_by cs => cs.length
decreasing_by all_goals (simp_wf; try simp_all) <;> omega
where
  hexQuad (a b c d : Char) : Option Nat := do
    let w ← CharClass.hexValue? a
    let x ← CharClass.hexValue? b
    let y ← CharClass.hexValue? c
    let z ← CharClass.hexValue? d
    pure (((w * 16 + x) * 16 + y) * 16 + z)

/-- The text a string lexeme stands for: a quoted string without a backslash is its characters
as they are; with one, it is read as JSON reads it, and none when that fails. -/
def stringText? (kind text : String) : Option String :=
  let body := ((text.toList.drop 1).take (text.length - 2))
  if kind == "rawString" then some (String.ofList body)
  else if body.contains '\\' then String.ofList <$> jsonBody body
  else some (String.ofList body)

/-- The tokens of lexemes. -/
def tokensOf : List Lexeme → Bool → List Token
  | [], _ => []
  | l :: rest, broke =>
    if !l.faults.isEmpty then
      ⟨"illegal", "\n".intercalate l.faults, l.place, l.stop, broke, false⟩ :: tokensOf rest false
    else if l.kind == "whitespace" then tokensOf rest (broke || l.text == "\n")
    else if l.kind == "comment" then tokensOf rest broke
    else if l.kind == "illegal" then ⟨"illegal", "", l.place, l.stop, broke, false⟩ :: tokensOf rest false
    else if l.kind == "string" || l.kind == "rawString" then
      match stringText? l.kind l.text with
      | some t => ⟨"string", t, l.place, l.stop, broke, false⟩ :: tokensOf rest false
      | none => ⟨"string", l.text, l.place, l.stop, broke, true⟩ :: tokensOf rest false
    else if l.kind == "template" || l.kind == "rawTemplate" then
      ⟨l.kind, String.ofList ((l.text.toList.drop 2).take (l.text.length - 3)), l.place, l.stop, broke,
        false⟩ :: tokensOf rest false
    else ⟨l.kind, l.text, l.place, l.stop, broke, false⟩ :: tokensOf rest false

/-- The tokens of characters that stand at a place of a source, the end token last, with the
keywords given. -/
def scanFrom (keywords : List String) (cs : List Char) (start : Place) : List Token :=
  let chars := cs.toArray
  let s : Scanner := ⟨chars, 0, start.offset, start.row, start.col, []⟩
  tokensOf (s.lexemes keywords (chars.size + 2)) false

/-- The tokens of a source, the end token last, with the keywords given. -/
def scan (keywords : List String) (source : String) : List Token :=
  let chars := source.toList.toArray
  let first : Scanner := match chars[0]? with
    | some c =>
      let (row, col) := if c == '\n' then (2, 0) else (1, 1)
      ⟨chars, 0, 0, row, col, if c.toNat == 0 then ["illegal null character"] else []⟩
    | none => ⟨chars, 0, 0, 1, 0, []⟩
  let s := if first.curr == some (Char.ofNat 0xFEFF) then first.next else first
  tokensOf (s.lexemes keywords (chars.size + 2)) false

end AccessPolicy.Rego
