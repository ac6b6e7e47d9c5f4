import AccessPolicy.Rego.Term
import AccessPolicy.Rego.Builtin
/-!
# Reading Rego

Modules and queries are read by recursive descent over their tokens. Operators bind, from
loosest to tightest: membership `in`; the comparisons `==`, `!=`, `<`, `<=`, `>`, `>=`; `|`;
`&`; `+` and `-`; `*`, `/` and `%`; all of them to the left. A reference goes on with `.name`,
`[term]` or a call's `(args)` only when these follow without a blank.
-/

namespace AccessPolicy.Rego

/-- What a read is against: the file, the source's characters and whether the newer version of
the language applies. -/
structure Source where
  file : String
  chars : Array Char
  v1 : Bool
  keywords : List String
  deriving Inhabited
def allKeywords : List String := baseKeywords ++ futureKeywords

/-- Where a read stands: the tokens still to read, the end of the last one read, and the hints
the next fault will carry. -/
structure Reader where
  tokens : List Token
  stop : Nat
  hints : List String := []
  deriving Inhabited

structure Stop where
  errors : List RegoError
  token : Token
  deriving Inhabited

abbrev Parse := StateT Reader (Except Stop)

def isSpaceChar (c : Char) : Bool :=
  c == ' ' || c == '\t' || c == '\n' || c == '\r' || c.toNat == 11 || c.toNat == 12 ||
    c.toNat == 0x85 || c.toNat == 0xA0

/-- The line a fault stands on, with its leading tabs removed, and a caret under the fault: the
last character that is not blank at or before the offset. -/
def detailAt (chars : Array Char) (offset : Nat) : List String :=
  let n := chars.size
  if n == 0 then ["", "^"]
  else
    let start := if offset ≥ n then n - 1 else offset
    let charAt := fun i => chars.getD i ' '
    let back := (List.range (start + 1)).reverse.find? fun i => i == 0 || !isSpaceChar (charAt i)
    let off := back.getD 0
    let isBreak := fun i => charAt i == '\n' || charAt i == '\r'
    let lineStart := match (List.range (off + 1)).reverse.find? fun i => isBreak i with
      | some i => if i == off && !isBreak off then off else i + 1
      | none => 0
    let lineStart := if isBreak off && lineStart > off then off else lineStart
    let lineEnd := ((List.range (n - off)).find? fun k => isBreak (off + k)).map (off + ·) |>.getD n
    let lineStart := min lineStart lineEnd
    let line := (chars.toList.drop lineStart).take (lineEnd - lineStart)
    let tabs := (line.takeWhile (· == '\t')).length
    let idx := (String.ofList (line.take (off - lineStart))).utf8ByteSize
    [String.ofList (line.drop tabs), String.ofList (List.replicate (idx - tabs) ' ') ++ "^"]

def faultAt (src : Source) (t : Token) (message : String) : RegoError :=
  ⟨"rego_parse_error", some (Loc.ofToken src.file t), message, detailAt src.chars t.place.offset⟩

def isKeywordKind (kind : String) : Bool :=
  (baseKeywords ++ futureKeywords).contains kind

def kindName (kind : String) : String := if kind == "ident" then "identifier" else kind
def unexpected (t : Token) (note : String) : String :=
  if t.kind == "illegal" then "illegal token"
  else "unexpected " ++ kindName t.kind ++ (if isKeywordKind t.kind then " keyword" else " token") ++
    (if note.isEmpty then "" else ": " ++ note)
def Token.faults (t : Token) : List String :=
  if t.kind == "illegal" && !t.text.isEmpty then t.text.splitOn "\n" else []

/-- The faults reported at a token: first why the scan found it illegal, when it says, then a
message. -/
def faultsAt (src : Source) (t : Token) (message : String) : List RegoError :=
  (t.faults.map (faultAt src t ·)) ++ [faultAt src t message]

def unexpectedFaults (src : Source) (t : Token) (note : String) : List RegoError :=
  faultsAt src t (unexpected t note)
def withHints (hints : List String) (message : String) : String :=
  match hints with
  | [] => message
  | [h] => message ++ " (hint: " ++ h ++ ")"
  | hs => message ++ " (hints: " ++ ", ".intercalate hs ++ ")"
def hinted (hints : List String) : List RegoError → List RegoError
  | [] => []
  | e :: es => { e with message := withHints hints e.message } :: es

def illegal {α : Type} (src : Source) (t : Token) (note : String := "") : Parse α := do
  throw ⟨hinted (← get).hints (unexpectedFaults src t note), t⟩

def failAt {α : Type} (src : Source) (t : Token) (message : String) : Parse α := do
  throw ⟨hinted (← get).hints (faultsAt src t message), t⟩

def failWithFaults {α : Type} (src : Source) (t : Token) : Parse α :=
  throw ⟨t.faults.map (faultAt src t ·), t⟩

def Token.faulty (t : Token) : Bool := !t.faults.isEmpty

def addHint (h : String) : Parse Unit :=
  modify fun r => { r with hints := r.hints ++ [h] }

def peek : Parse Token := do
  match (← get).tokens with
  | t :: _ => pure t
  | [] => pure ⟨"eof", "", ⟨0, 1, 0⟩, 0, false, false⟩

def advance : Parse Token := do
  let r ← get
  match r.tokens with
  | t :: rest =>
    if t.kind == "eof" then pure t
    else
      set { r with tokens := rest, stop := t.stop }
      pure t
  | [] => peek

def adjacent : Parse Bool := do
  pure ((← peek).place.offset == (← get).stop)

def Source.slice (src : Source) (start stop : Nat) : String :=
  String.ofList ((src.chars.toList.drop start).take (stop - start))

def tooDeep {α : Type} (src : Source) : Parse α := do
  failAt src (← peek) "expression too deeply nested"

def mkRef (head : Term) (path : List Term) (loc : Loc) : Term :=
  if path.isEmpty then
    match head with
    | .var v => if v == "data" || v == "input" then .ref head [] loc else head
    | _ => head
  else .ref head path loc
def callName (head : Term) (path : List Term) : String :=
  (mkRef head path ⟨"", 0, 0⟩).render

/-- Whether a numeral of digits, an optional point and an optional exponent, with an optional
sign, is too big or too small for a number: its magnitude is `2^100000` or more, or it is not
zero and below `2^-100001`, so that its binary exponent passes `100000` either way. -/
def numberTooBig (text : String) : Bool :=
  let cs := text.toList.dropWhile (· == '-')
  let mantissa := cs.takeWhile fun c => c != 'e' && c != 'E'
  let expPart := (cs.drop (mantissa.length + 1))
  let expNeg := expPart.head? == some '-'
  let expDigits := expPart.dropWhile fun c => c == '+' || c == '-'
  let whole := mantissa.takeWhile (· != '.')
  let frac := mantissa.drop (whole.length + 1)
  let digits := (whole ++ frac).dropWhile (· == '0')
  let d := digitsValue digits
  let e : Int := (if expNeg then -(digitsValue expDigits : Int) else digitsValue expDigits) - frac.length
  let m : Int := digits.length + e
  if d == 0 then false
  else if m - 1 ≥ 30103 then true
  else if m ≤ -30104 then true
  else if m == 30103 then
    if e ≥ 0 then d * Nat.pow 10 e.toNat ≥ Nat.pow 2 100000
    else d ≥ Nat.pow 2 100000 * Nat.pow 10 (-e).toNat
  else if m == -30103 then d * Nat.pow 2 100001 < Nat.pow 10 (-e).toNat
  else false

/-- Reads a number: its digits, after a `-`, a `.` or both when they stand before it. -/
def number (src : Source) : Parse Term := do
  let t ← peek
  let neg := t.kind == "-"
  if neg then discard advance
  let d ← peek
  if neg && d.kind != "number" && d.kind != "." then illegal src d "expected number"
  else
    let dot := d.kind == "."
    if dot then discard advance
    let n ← peek
    if dot && n.kind != "number" then illegal src n "expected number"
    else
      let cs := n.text.toList
      let leadingZero := match cs with
        | '0' :: c :: _ => isDigit c
        | _ => false
      let text := (if neg then "-" else "") ++ (if dot then "." else "") ++ n.text
      if (neg || !dot) && leadingZero then illegal src n "expected number without leading zero"
      else if dot && cs.contains '.' then illegal src n "invalid float"
      else if numberTooBig text then failAt src n "number too big"
      else
        discard advance
        pure (.number text)

/-- A piece of a template string: text, or the characters of an expression with the offset of
the first one in the template's body. -/
inductive TemplatePart where
  | text (cs : List Char)
  | expr (offset : Nat) (cs : List Char)
  deriving Inhabited

/-- Splits the body of a template string into text and expressions; in a template that is not
raw, a backslash takes the next character and an escaped brace is a brace of the text. -/
def splitTemplate (raw : Bool) : Nat → List Char → Nat → List Char → List TemplatePart
  | 0, _, _, acc => [.text acc]
  | fuel + 1, cs, pos, acc =>
    match cs with
    | [] => [.text acc]
    | c :: rest =>
      if !raw && c == '\\' then
        match rest with
        | d :: more =>
          let kept := if d == '{' || d == '}' then [d] else [c, d]
          splitTemplate raw fuel more (pos + 2) (acc ++ kept)
        | [] => [.text (acc ++ [c])]
      else if c == '{' then
        let n := (exprLength (rest.length + 1) rest 0).getD rest.length
        .text acc :: .expr (pos + 1) (rest.take n) :: splitTemplate raw fuel (rest.drop (n + 1)) (pos + n + 2) []
      else splitTemplate raw fuel rest (pos + 1) (acc ++ [c])

mutual

def termIn (src : Source) : Nat → Parse Term
  | 0 => tooDeep src
  | fuel + 1 => do
    let start ← peek
    let lhs ← relation src fuel
    if (← peek).kind == "in" then
      let _ ← advance
      let rhs ← relation src fuel
      pure (.call "internal.member_2" [lhs, rhs] (Loc.ofToken src.file start))
    else pure lhs

def relation (src : Source) : Nat → Parse Term
  | 0 => tooDeep src
  | fuel + 1 => do
    let start ← peek
    let lhs ← orTerm src fuel
    relationTail src fuel start lhs

def relationTail (src : Source) : Nat → Token → Term → Parse Term
  | 0, _, _ => tooDeep src
  | fuel + 1, start, lhs => do
    let t ← peek
    match infixFunction t.kind with
    | some f =>
      if ["==", "!=", "<", ">", "<=", ">="].contains t.kind then
        let _ ← advance
        let rhs ← orTerm src fuel
        relationTail src fuel start (.call f [lhs, rhs] (Loc.ofToken src.file start))
      else pure lhs
    | none => pure lhs

def orTerm (src : Source) : Nat → Parse Term
  | 0 => tooDeep src
  | fuel + 1 => do
    let start ← peek
    let lhs ← andTerm src fuel
    orTail src fuel start lhs

def orTail (src : Source) : Nat → Token → Term → Parse Term
  | 0, _, _ => tooDeep src
  | fuel + 1, start, lhs => do
    if (← peek).kind == "|" then
      let _ ← advance
      let rhs ← andTerm src fuel
      orTail src fuel start (.call "or" [lhs, rhs] (Loc.ofToken src.file start))
    else pure lhs

def andTerm (src : Source) : Nat → Parse Term
  | 0 => tooDeep src
  | fuel + 1 => do
    let start ← peek
    let lhs ← additive src fuel
    andTail src fuel start lhs

def andTail (src : Source) : Nat → Token → Term → Parse Term
  | 0, _, _ => tooDeep src
  | fuel + 1, start, lhs => do
    if (← peek).kind == "&" then
      let _ ← advance
      let rhs ← additive src fuel
      andTail src fuel start (.call "and" [lhs, rhs] (Loc.ofToken src.file start))
    else pure lhs

def additive (src : Source) : Nat → Parse Term
  | 0 => tooDeep src
  | fuel + 1 => do
    let start ← peek
    let lhs ← factor src fuel
    additiveTail src fuel start lhs

def additiveTail (src : Source) : Nat → Token → Term → Parse Term
  | 0, _, _ => tooDeep src
  | fuel + 1, start, lhs => do
    let t ← peek
    if t.kind == "+" || t.kind == "-" then
      let _ ← advance
      let rhs ← factor src fuel
      additiveTail src fuel start
        (.call (if t.kind == "+" then "plus" else "minus") [lhs, rhs] (Loc.ofToken src.file start))
    else pure lhs

def factor (src : Source) : Nat → Parse Term
  | 0 => tooDeep src
  | fuel + 1 => do
    let start ← peek
    let lhs ← primary src fuel
    factorTail src fuel start lhs

def factorTail (src : Source) : Nat → Token → Term → Parse Term
  | 0, _, _ => tooDeep src
  | fuel + 1, start, lhs => do
    let t ← peek
    if t.kind == "*" || t.kind == "/" || t.kind == "%" then
      let _ ← advance
      let rhs ← primary src fuel
      let f := if t.kind == "*" then "mul" else if t.kind == "/" then "div" else "rem"
      factorTail src fuel start (.call f [lhs, rhs] (Loc.ofToken src.file start))
    else pure lhs

/-- A term without infix operators, with the references and calls that follow it. -/
def primary (src : Source) : Nat → Parse Term
  | 0 => tooDeep src
  | fuel + 1 => do
    let t ← peek
    let head ← match t.kind with
      | "null" => do let _ ← advance; pure Term.null
      | "true" => do let _ ← advance; pure (Term.bool true)
      | "false" => do let _ ← advance; pure (Term.bool false)
      | "number" | "-" | "." => number src
      | "string" =>
        if t.unreadable then failAt src t ("illegal string literal: " ++ t.text)
        else do let _ ← advance; pure (Term.string t.text)
      | "ident" | "contains" => do let _ ← advance; pure (Term.var t.text)
      | "template" | "rawTemplate" => do let _ ← advance; template src fuel t
      | "[" => array src fuel
      | "\x7b" => brace src fuel
      | "(" => do
        let _ ← advance
        let inner ← termIn src fuel
        let c ← peek
        if c.kind == ")" then
          let _ ← advance
          pure inner
        else failAt src c "non-terminated expression"
      | _ => illegal src t
    refRest src fuel t head []

def refHead (t : Term) : Bool :=
  match t with
  | .null | .bool _ | .number _ | .string _ => false
  | _ => true

/-- The keys and calls that follow a term without a blank. -/
def refRest (src : Source) : Nat → Token → Term → List Term → Parse Term
  | 0, _, _, _ => tooDeep src
  | fuel + 1, start, head, path => do
    if !(← adjacent) then pure (mkRef head path (Loc.ofToken src.file start))
    else
      let t ← peek
      if (t.kind == "." || t.kind == "[") && !refHead head then
        failAt src start ("illegal ref (head cannot be " ++ head.kindName ++ ")")
      else
      match t.kind with
      | "." => do
        let dot ← advance
        let n ← peek
        if n.place.offset != dot.stop then
          failAt src { dot with place := { dot.place with offset := dot.stop, col := dot.place.col + 1 } }
            "unexpected whitespace token: expected identifier"
        else if n.kind != "ident" then illegal src n "expected identifier"
        else
          let _ ← advance
          refRest src fuel start head (path ++ [.string n.text])
      | "[" => do
        let _ ← advance
        let k ← termIn src fuel
        let c ← peek
        if c.kind != "]" then illegal src c "expected ["
        else
          let _ ← advance
          refRest src fuel start head (path ++ [k])
      | "(" => do
        let _ ← advance
        let args ← termList src fuel ")" []
        let _ ← advance
        match head, path, args with
        | .var "set", [], [] => refRest src fuel start (.set []) []
        | _, _, _ => refRest src fuel start (.call (callName head path) args (Loc.ofToken src.file start)) []
      | _ => pure (mkRef head path (Loc.ofToken src.file start))

/-- A template string: a call that joins its pieces, each expression read from its own
characters as a term and wrapped in a set comprehension, so that it may be undefined. -/
def template (src : Source) : Nat → Token → Parse Term
  | 0, _ => tooDeep src
  | fuel + 1, t => do
    let raw := t.kind == "rawTemplate"
    let keywords := if src.v1 then baseKeywords ++ futureKeywords else baseKeywords
    let pieces := splitTemplate raw (t.text.length + 1) t.text.toList 0 []
    let terms ← pieces.mapM fun p => match p with
      | .text cs =>
        if raw then pure (Term.string (String.ofList cs))
        else
          match stringBody (cs ++ ['"']) with
          | .ok (body, _) => pure (Term.string (String.ofList body))
          | .error why => failAt src t why
      | .expr off cs => do
        let start : Place := ⟨t.place.offset + 2 + off, t.place.row, t.place.col + 2 + off⟩
        let saved ← get
        set ({ saved with tokens := scanFrom keywords cs start } : Reader)
        let first ← peek
        let e ← termIn src fuel
        let c ← peek
        if c.kind != "eof" then illegal src c
        else
          set saved
          pure (Term.setOf e [.mk false (.term (.bool true)) (Loc.ofToken src.file first) "true" []])
    pure (.call "internal.template_string" [.array terms] (Loc.ofToken src.file t))

def termList (src : Source) : Nat → String → List Term → Parse (List Term)
  | 0, _, _ => tooDeep src
  | fuel + 1, stop, acc => do
    if acc.isEmpty && (← peek).kind == stop then pure []
    else
      let t ← termIn src fuel
      let c ← peek
      if c.kind == stop then pure (acc ++ [t])
      else if c.kind == "," then
        let _ ← advance
        if (← peek).kind == stop then pure (acc ++ [t])
        else termList src fuel stop (acc ++ [t])
      else illegal src c ("expected \",\" or \"" ++ stop ++ "\"")

def array (src : Source) : Nat → Parse Term
  | 0 => tooDeep src
  | fuel + 1 => do
    let _ ← advance
    if (← peek).kind == "]" then
      let _ ← advance
      pure (.array [])
    else
      let lead ← if (← peek).kind == "," then do let _ ← advance; pure false else pure true
      let saved ← get
      let head ← primary src fuel
      match (← peek).kind with
      | "]" => do
        let _ ← advance
        pure (.array [head])
      | "," => do
        let _ ← advance
        let items ← termList src fuel "]" [head]
        let _ ← advance
        pure (.array items)
      | "|" =>
        if lead then do
          let _ ← advance
          let b ← body src fuel "]"
          let _ ← advance
          pure (.arrayOf head b)
        else do
          set saved
          let items ← termList src fuel "]" []
          let _ ← advance
          pure (.array items)
      | _ => do
        set saved
        let items ← termList src fuel "]" []
        let _ ← advance
        pure (.array items)
def brace (src : Source) : Nat → Parse Term
  | 0 => tooDeep src
  | fuel + 1 => do
    let _ ← advance
    if (← peek).kind == "\x7d" then
      let _ ← advance
      pure (.object [])
    else
      let lead ← if (← peek).kind == "," then do let _ ← advance; pure false else pure true
      let saved ← get
      let head ← primary src fuel
      match (← peek).kind with
      | "\x7d" => do
        let _ ← advance
        pure (.set [head])
      | "," => do
        let _ ← advance
        let items ← termList src fuel "\x7d" [head]
        let _ ← advance
        pure (.set items)
      | "|" =>
        if lead then do
          let _ ← advance
          let b ← body src fuel "\x7d"
          let _ ← advance
          pure (.setOf head b)
        else do
          set saved
          braceGeneral src fuel
      | ":" => do
        let _ ← advance
        let afterColon ← get
        let value ← primary src fuel
        if (← peek).kind == "|" && lead then
          let _ ← advance
          let b ← body src fuel "\x7d"
          let _ ← advance
          pure (.objectOf head value b)
        else
          set afterColon
          objectRest src fuel head
      | _ => do
        set saved
        braceGeneral src fuel
def braceGeneral (src : Source) : Nat → Parse Term
  | 0 => tooDeep src
  | fuel + 1 => do
    let first ← termIn src fuel
    let c ← peek
    match c.kind with
    | "\x7d" => do
      let _ ← advance
      pure (.set [first])
    | "," => do
      let _ ← advance
      let items ← termList src fuel "\x7d" [first]
      let _ ← advance
      pure (.set items)
    | ":" => do
      let _ ← advance
      objectRest src fuel first
    | _ => illegal src c "non-terminated set"

/-- The rest of an object after its first key and colon: the value, then the other pairs. -/
def objectRest (src : Source) : Nat → Term → Parse Term
  | 0, _ => tooDeep src
  | fuel + 1, key => do
    let saved ← get
    let valueTok ← peek
    let value ← termIn src fuel
    let c ← peek
    if c.kind == "\x7d" || c.kind == "," then
      match ← tryCatch (some <$> objectPairs src fuel [(key, value)]) (fun _ => pure none) with
      | some pairs => pure (.object pairs)
      | none => do
        set saved
        illegal src valueTok "non-terminated object"
    else illegal src c "non-terminated object"

def objectPairs (src : Source) : Nat → List (Term × Term) → Parse (List (Term × Term))
  | 0, _ => tooDeep src
  | fuel + 1, acc => do
    let c ← peek
    if c.kind == "\x7d" then
      let _ ← advance
      pure acc
    else if c.kind == "," then
      let _ ← advance
      if (← peek).kind == "\x7d" then
        let _ ← advance
        pure acc
      else
        let k ← termIn src fuel
        let colon ← peek
        if colon.kind != ":" then illegal src colon "expected \":\""
        else
          let _ ← advance
          let v ← termIn src fuel
          objectPairs src fuel (acc ++ [(k, v)])
    else illegal src c "expected \",\" or \"\x7d\""
def body (src : Source) : Nat → String → Parse (List Literal)
  | 0, _ => tooDeep src
  | fuel + 1, stop => do
    let t ← peek
    if t.kind == stop then failAt src t "found empty body"
    else bodyMore src fuel stop []

def bodyMore (src : Source) : Nat → String → List Literal → Parse (List Literal)
  | 0, _, _ => tooDeep src
  | fuel + 1, stop, acc => do
    let l ← literal src fuel
    let acc := acc ++ [l]
    let t ← peek
    if t.kind == ";" then
      let _ ← advance
      bodyMore src fuel stop acc
    else if t.kind == stop then pure acc
    else if !t.afterBreak then
      if t.faulty then failWithFaults src t else illegal src t ("expected \\n or ; or " ++ stop)
    else bodyMore src fuel stop acc

def literal (src : Source) : Nat → Parse Literal
  | 0 => tooDeep src
  | fuel + 1 => do
    let start ← peek
    let negated ← if start.kind == "not" then do let _ ← advance; pure true else pure false
    let t ← peek
    let (e, mods) ← if t.kind == "some" then
        if negated then illegal src t "illegal negation of 'some'"
        else do pure (← someDecl src fuel, [])
      else if t.kind == "every" then
        if negated then illegal src t "illegal negation of 'every'"
        else do pure (← everyExpr src fuel, [])
      else do
        let e ← expr src fuel
        let mods ← withMods src fuel []
        if let .term (.var "every") := e then
          let after ← get
          set ({ after with tokens := scanFrom allKeywords (src.chars.toList.drop t.place.offset) t.place } : Reader)
          let every? ← tryCatch (some <$> everyExpr { src with keywords := allKeywords } fuel) fun _ => pure none
          set after
          if every?.isSome then addHint "`import future.keywords.every` for `every x in xs \x7b ... \x7d` expressions"
        pure (e, mods)
    pure (.mk negated e (Loc.ofToken src.file start) (src.slice start.place.offset (← get).stop) mods)

/-- The `with` modifiers after an expression, after those read: each a target, a name or a
reference, then `as` and the value it takes. -/
def withMods (src : Source) : Nat → List (Term × Term × Loc) → Parse (List (Term × Term × Loc))
  | 0, _ => tooDeep src
  | fuel + 1, acc => do
    if (← peek).kind != "with" then pure acc
    else
      let _ ← advance
      let t ← peek
      if t.kind != "ident" then illegal src t "expected ident"
      else
        let target ← primary src fuel
        match target with
        | .var _ | .ref _ _ _ => do
          let a ← peek
          if a.kind != "as" then illegal src a "expected as keyword"
          else
            let _ ← advance
            let value ← termIn src fuel
            withMods src fuel (acc ++ [(target, value, Loc.ofToken src.file t)])
        | _ => failAt src t "expected with target path"

def expr (src : Source) : Nat → Parse Expr
  | 0 => tooDeep src
  | fuel + 1 => do
    let lhs ← termIn src fuel
    let t ← peek
    if t.kind == ":=" || t.kind == "=" then
      let _ ← advance
      let rhs ← termIn src fuel
      pure (.call (if t.kind == ":=" then "assign" else "eq") [lhs, rhs])
    else
      match lhs with
      | .call name args _ => pure (.call name args)
      | _ => pure (.term lhs)

def iterationAhead (src : Source) : Nat → Parse Bool
  | 0 => pure false
  | fuel + 1 => do
    let first? ← tryCatch (some <$> relation src fuel) fun _ => pure none
    match first? with
    | none => pure false
    | some _ =>
      if (← peek).kind == "in" then pure true
      else if (← peek).kind == "," then
        let _ ← advance
        let second? ← tryCatch (some <$> relation src fuel) fun _ => pure none
        pure (second?.isSome && (← peek).kind == "in")
      else pure false

/-- A `some` declaration or iteration. -/
def someDecl (src : Source) : Nat → Parse Expr
  | 0 => tooDeep src
  | fuel + 1 => do
    let _ ← advance
    let afterSome ← get
    let first ← relation src fuel
    let second? ← match (← peek).kind with
      | "in" => pure (some none)
      | "," => do
        let saved ← get
        let _ ← advance
        let second? ← tryCatch (some <$> relation src fuel) fun _ => pure none
        match second? with
        | some second => if (← peek).kind == "in" then pure (some (some second)) else do set saved; pure none
        | none => do set saved; pure none
      | _ => pure none
    match second? with
    | some second => do
      let _ ← advance
      let coll ← relation src fuel
      match second with
      | some v => pure (.someIn (some first) v coll)
      | none => pure (.someIn none first coll)
    | none =>
      match first with
      | .call .. => illegal src (← peek) "expected `x in xs` or `x, y in xs` expression"
      | _ => do
        set afterSome
        if !src.keywords.contains "in" then
          let t ← peek
          set ({ afterSome with tokens := scanFrom allKeywords (src.chars.toList.drop t.place.offset) t.place } : Reader)
          let hint ← iterationAhead { src with keywords := allKeywords } fuel
          set afterSome
          if hint then addHint "`import future.keywords.in` for `some x in xs` expressions"
        someNames src fuel []

/-- An `every` expression: a variable, or a key and a value variable, `in` a domain, then a
body in braces. -/
def everyExpr (src : Source) : Nat → Parse Expr
  | 0 => tooDeep src
  | fuel + 1 => do
    let _ ← advance
    let shape := "expected `x[, y] in xs \x7b ... \x7d` expression"
    let first ← relation src fuel
    let t ← peek
    let (key, value) ← match t.kind with
      | "in" => pure (none, first)
      | "," => do
        let saved ← get
        let _ ← advance
        let second ← tryCatch (some <$> relation src fuel) fun _ => pure none
        match second with
        | some s =>
          if (← peek).kind == "in" then pure (some first, s)
          else do set saved; illegal src t shape
        | none => do set saved; illegal src t shape
      | _ => illegal src t shape
    let _ ← advance
    let domain ← relation src fuel
    let key ← match key with
      | some (.var k) => pure (some k)
      | some _ => illegal src (← peek) "expected key to be a variable"
      | none => pure none
    let value ← match value with
      | .var v => pure v
      | _ => illegal src (← peek) "expected value to be a variable"
    let open_ ← peek
    if open_.kind != "\x7b" then illegal src open_ "missing body"
    else
      let _ ← advance
      let b ← body src fuel "\x7d"
      let _ ← advance
      pure (.every key value domain b)

def someNames (src : Source) : Nat → List String → Parse Expr
  | 0, _ => tooDeep src
  | fuel + 1, acc => do
    let t ← peek
    if t.kind != "ident" then illegal src t "expected var"
    else
      let _ ← advance
      if (← peek).kind == "," then
        let _ ← advance
        someNames src fuel (acc ++ [t.text])
      else pure (.some (acc ++ [t.text]))

end

def fuelFor (tokens : List Token) : Nat := 16 * (tokens.length + 4)

/-- Reads a term of a rule's head after `:=`, `=` or `contains`; when that fails, a second
fault at the token the read stopped at says what was expected. -/
def headTerm (src : Source) (fuel : Nat) (hint : String) : Parse Term :=
  tryCatch (termIn src fuel) fun stop =>
    throw ⟨stop.errors ++ [faultAt src stop.token (unexpected stop.token hint)], stop.token⟩

def ifBody (src : Source) (fuel : Nat) : Parse (List Literal) := do
  let saved ← get
  let single ← try
      let l ← literal src fuel
      match l.expr with
      | .term (.set _) => pure none
      | _ => pure (some l)
    catch _ => pure none
  match single with
  | some l => pure [l]
  | none =>
    set saved
    let _ ← advance
    let b ← body src fuel "\x7d"
    let _ ← advance
    pure b

/-- The `else` branches of a rule. -/
def elseBranches (src : Source) (fuel : Nat) :
    Nat → List (Option Term × List Literal × Bool × Loc) →
      Parse (List (Option Term × List Literal × Bool × Loc))
  | 0, acc => pure acc
  | n + 1, acc => do
    let e ← peek
    if e.kind != "else" then pure acc
    else
      let _ ← advance
      let t ← peek
      let value ← if t.kind == "=" || t.kind == ":=" then do
          let _ ← advance
          some <$> termIn src fuel
        else if t.kind == "if" || t.kind == "\x7b" then pure none
        else illegal src t "expected else value term or rule body"
      let t' ← peek
      let b ← if t'.kind == "if" then do
          let _ ← advance
          ifBody src fuel
        else if t'.kind == "\x7b" then do
          let _ ← advance
          let b ← body src fuel "\x7d"
          let _ ← advance
          pure b
        else pure []
      elseBranches src fuel n (acc ++ [(value, b, t.kind == ":=", Loc.ofToken src.file e)])

mutual

def dynamicParts : Term → List String
  | .var _ => ["var"]
  | .ref _ [] _ => ["var"]
  | .ref _ _ _ => ["ref"]
  | .call .. => ["call"]
  | .array items => dynamicItems items
  | .set items => dynamicItems items
  | .object pairs => dynamicPairs pairs
  | _ => []

def dynamicItems : List Term → List String
  | [] => []
  | t :: ts => dynamicParts t ++ dynamicItems ts

def dynamicPairs : List (Term × Term) → List String
  | [] => []
  | (k, v) :: ps => dynamicParts k ++ dynamicParts v ++ dynamicPairs ps

end

/-- The keys after a rule's name, each right after the last: `.` and a name, or a term in
brackets. -/
def headKeys (src : Source) (fuel : Nat) : Nat → List Term → Parse (List Term)
  | 0, acc => pure acc
  | n + 1, acc => do
    if !(← adjacent) then pure acc
    else
      let t ← peek
      if t.kind == "." then
        let dot ← advance
        let i ← peek
        if i.place.offset != dot.stop then
          failAt src { dot with place := { dot.place with offset := dot.stop, col := dot.place.col + 1 } }
            "unexpected whitespace token: expected identifier"
        else if i.kind != "ident" then illegal src i "expected identifier"
        else
          let _ ← advance
          headKeys src fuel n (acc ++ [.string i.text])
      else if t.kind == "[" then
        let _ ← advance
        let k ← termIn src fuel
        let c ← peek
        if c.kind != "]" then illegal src c "expected ["
        else
          let _ ← advance
          headKeys src fuel n (acc ++ [k])
      else pure acc

/-- The name and key a rule's head defines from its name and the keys after it: one key is the
key; more keys that are all strings extend the name, and a last one that is not a string is the
key below that name. -/
def headNameKey (name : String) (keys : List Term) : Option (String × Option Term) :=
  match keys with
  | [] => some (name, none)
  | [k] => some (name, some k)
  | _ =>
    let strings := keys.filterMap fun k => match k with
      | .string s => some s
      | _ => none
    if strings.length == keys.length then some (".".intercalate (name :: strings), none)
    else if strings.length + 1 == keys.length && strings == (keys.dropLast.filterMap fun k => match k with
        | .string s => some s
        | _ => none) then
      (keys.getLast?).map fun k => (".".intercalate (name :: strings), some k)
    else none

def defaultArgFaults (args : List Term) : List String :=
  (args.foldl (fun (acc : List String × List String) a =>
    match a with
    | .var v =>
      if v != "_" && acc.1.contains v then (acc.1, acc.2 ++ ["illegal default rule (arguments cannot be repeated " ++ v ++ ")"])
      else (acc.1 ++ [v], acc.2)
    | t => (acc.1, acc.2 ++ ["illegal default rule (arguments cannot contain " ++ t.kindName ++ ")"])) ([], [])).2

/-- Reads a rule that has a body, a `contains` key or is a default. -/
def rule? (src : Source) (fuel : Nat) : Parse (Option Rule) := do
  let start ← peek
  let isDefault ← if start.kind == "default" then do let _ ← advance; pure true else pure false
  let nameTok ← peek
  if nameTok.kind != "ident" then pure none
  else
    let _ ← advance
    let loc := Loc.ofToken src.file start
    let keys ← tryCatch (headKeys src fuel 64 []) fun stop =>
      throw ⟨stop.errors ++ [faultAt src stop.token (unexpected stop.token "expected rule head name")], stop.token⟩
    let n ← peek
    let close := n.place.offset == (← get).stop
    let params ← if close && n.kind == "(" then do
        let _ ← advance
        let ps ← termList src fuel ")" []
        let _ ← advance
        pure (some ps)
      else pure none
    let shown := nameTok.text ++ String.join (keys.map fun k => match k with
      | .string s => "." ++ s
      | k => "[" ++ k.render ++ "]")
    let t ← peek
    if params.isSome && t.kind == "contains" then
      illegal src t ("the contains keyword can only be used with multi-value rule definitions (e.g., " ++
        nameTok.text ++ " contains <VALUE> \x7b ... \x7d)")
    else
    let head := if t.kind == "contains" then
        if keys.all (fun k => match k with
          | .string _ => true
          | _ => false) then headNameKey nameTok.text keys |>.map fun _ =>
            (".".intercalate (nameTok.text :: keys.filterMap fun k => match k with
              | .string s => some s
              | _ => none), none)
        else none
      else headNameKey nameTok.text keys
    match head with
    | none => pure none
    | some (name, key) =>
    let groundKeys := keys.all fun k => (dynamicParts k).isEmpty
    let assign := t.kind == ":="
    let (key, value, hasContains) ← match t.kind with
      | "contains" => do
        let _ ← advance
        let k ← headTerm src fuel
          ("expected rule key term (e.g., " ++ shown ++ " contains <VALUE> \x7b ... \x7d)")
        pure (some k, none, true)
      | ":=" => do
        let _ ← advance
        let hint := if params.isSome then
            "expected function value term (e.g., " ++ shown ++ "(...) := <VALUE> \x7b ... \x7d)"
          else if isDefault then "expected default rule value term (e.g., default " ++ shown ++ " := <VALUE>)"
          else "expected rule value term (e.g., " ++ shown ++ " := <VALUE> \x7b ... \x7d)"
        let v ← headTerm src fuel hint
        pure (key, some v, false)
      | "=" => do
        let _ ← advance
        let v ← headTerm src fuel
          ("expected rule value term (e.g., " ++ shown ++ "[<nil>] = <VALUE> \x7b ... \x7d)")
        pure (key, some v, false)
      | _ => pure (key, none, false)
    let written := value.isSome
    if isDefault then
      match value with
      | none => failAt src start "illegal default rule (must have a value)"
      | some v =>
        match dynamicParts v with
        | [] =>
          match defaultArgFaults (params.getD []) with
          | [] => pure (some { name, params, key, value, isDefault := true, loc, hasValue := true, assign })
          | faults => throw ⟨faults.map (faultAt src start ·), start⟩
        | kinds =>
          throw ⟨kinds.map (fun k => faultAt src start ("illegal default rule (value cannot contain " ++ k ++ ")")), start⟩
    else
      let t ← peek
      let hasIf := t.kind == "if"
      let value := match key, value with
        | some _, none => if hasIf && !hasContains then some (.bool true) else none
        | none, none => some (.bool true)
        | _, v => v
      let multiValue := hasContains || (!hasIf && key.isSome && params.isNone)
      let branchesAfter : Parse (List (Option Term × List Literal × Bool × Loc)) := do
        let e ← peek
        if e.kind == "else" && !groundKeys then
          failAt src e "else keyword cannot be used on rules with variables in head"
        else if e.kind == "else" && multiValue then
          failAt src e "else keyword cannot be used on multi-value rules"
        else
          let branches ← elseBranches src fuel 64 []
          let c ← peek
          if !branches.isEmpty && c.kind == "\x7b" then failAt src c "expected else keyword"
          else pure branches
      if hasIf then
        let _ ← advance
        let b ← ifBody src fuel
        let branches ← branchesAfter
        pure (some { name, params, key, value, body := b, elses := branches.map (fun e => (e.1, e.2.1)),
                     loc, hasIf := true, hasBody := true, hasContains, hasValue := written, assign,
                     elseAssigns := branches.map (·.2.2.1), elseLocs := branches.map (·.2.2.2) })
      else if t.kind == "\x7b" then
        let _ ← advance
        let b ← body src fuel "\x7d"
        let _ ← advance
        let branches ← branchesAfter
        pure (some { name, params, key, value, body := b, elses := branches.map (fun e => (e.1, e.2.1)),
                     loc, hasBody := true, hasContains, hasValue := written, assign,
                     elseAssigns := branches.map (·.2.2.1), elseLocs := branches.map (·.2.2.2) })
      else if hasContains then pure (some { name, params, key, value, loc, hasContains })
      else pure none

def dottedName (v : String) (path : List Term) : Option String :=
  (path.mapM fun (k : Term) => match k with
    | .string s => some s
    | _ => none).map fun keys => ".".intercalate (v :: keys)

/-- The rule a unification or assignment written as a statement defines: a function of a call,
a partial object of a reference with one key or of a dotted name and a last key that is not a
name, a complete rule of a name or a dotted name. -/
def ruleOfEquation (loc : Loc) (assign : Bool) (lhs rhs : Term) : Except String Rule :=
  match lhs with
  | .call name args _ => .ok { name, params := some args, value := some rhs, loc, hasValue := true, assign }
  | .var v => .ok { name := v, value := some rhs, loc, hasValue := true, assign }
  | .ref (.var v) [] _ => .ok { name := v, value := some rhs, loc, hasValue := true, assign }
  | .ref (.var v) [k] _ => .ok { name := v, key := some k, value := some rhs, loc, hasValue := true, assign }
  | .ref (.var v) path _ =>
    match dottedName v path, dottedName v path.dropLast, path.getLast? with
    | some name, _, _ => .ok { name, value := some rhs, loc, hasValue := true, assign }
    | none, some name, some k => .ok { name, key := some k, value := some rhs, loc, hasValue := true, assign }
    | _, _, _ => .error "ref not ground"
  | .ref _ _ _ => .error ("invalid rule head: " ++ lhs.render)
  | t => .error (t.kindName ++ " cannot be used for rule name")

def ruleOfLiteral (l : Literal) : Except String Rule :=
  let loc := l.loc
  if !l.mods.isEmpty then .error "expressions using with keyword cannot be used for rule head"
  else if l.negated then .error "negated expressions cannot be used for rule head"
  else
    match l.expr with
    | .some _ => .error "'some' declarations cannot be used for rule head"
    | .someIn .. => .error "'some' declarations cannot be used for rule head"
    | .every .. => .error "expression cannot be used for rule head"
    | .term (.ref (.var v) [k] _) => .ok { name := v, key := some k, loc }
    | .term (.ref (.var v) (k :: ks) _) =>
      match dottedName v (k :: ks) with
      | some name => .ok { name, value := some (.bool true), loc }
      | none => .error "ref not ground"
    | .term t => .error (t.kindName ++ " cannot be used for rule name")
    | .call "eq" [lhs, rhs] => ruleOfEquation loc false lhs rhs
    | .call "assign" [lhs, rhs] => ruleOfEquation loc true lhs rhs
    | .call name args =>
      if (Builtin.arity? name).isSome then .error "rule name conflicts with built-in function"
      else if args.isEmpty then .error "rule argument list must take at least one argument"
      else .ok { name, params := some args, value := some (.bool true), loc }

def ruleOfBody : List Literal → Except String Rule
  | [l] => ruleOfLiteral l
  | _ => .error "multiple expressions cannot be used for rule head"

/-- The path of a package or import: names joined by dots, or keys in brackets, which must be
strings. -/
def dottedPath (src : Source) (fuel : Nat) : Nat → List String → Parse (List String)
  | 0, acc => pure acc
  | n + 1, acc => do
    let t ← peek
    if !(← adjacent) then pure acc
    else if t.kind == "." then
      let _ ← advance
      let i ← peek
      if i.kind != "ident" && !futureKeywords.contains i.kind then illegal src i "expected identifier"
      else
        let _ ← advance
        dottedPath src fuel n (acc ++ [i.text])
    else if t.kind == "[" then
      let _ ← advance
      let keyTok ← peek
      let key ← termIn src fuel
      let c ← peek
      if c.kind != "]" then illegal src c "expected ]"
      else
        let _ ← advance
        match key with
        | .string k => dottedPath src fuel n (acc ++ [k])
        | k => failAt src keyTok ("unexpected " ++ k.kindName ++ " token: expecting string")
    else pure acc

inductive Statement where
  | package (path : List String) (loc : Loc)
  | imports (path : List String) (aliasName : Option String) (loc : Loc)
  | rule (r : Rule)
  | body (lits : List Literal) (loc : Loc)
  deriving Repr, Inhabited

def Statement.loc : Statement → Loc
  | .package _ l => l
  | .imports _ _ l => l
  | .rule r => r.loc
  | .body _ l => l

def bodyStatement (src : Source) (fuel : Nat) : Nat → List Literal → Parse (List Literal)
  | 0, acc => pure acc
  | n + 1, acc => do
    let l ← literal src fuel
    if (← peek).kind == ";" then
      let _ ← advance
      bodyStatement src fuel n (acc ++ [l])
    else pure (acc ++ [l])

def importableKeywords : List String := ["contains", "every", "if", "in"]

/-- Why an import of `future` or `rego` is refused, if it is: `future` imports are of
`future.keywords` or one of its keywords, and `rego` imports are of `rego.v1`; neither is
aliased. -/
def importFault (path : List String) (aliased : Bool) : Option String :=
  match path with
  | "future" :: rest =>
    if rest.head? != some "keywords" then some "invalid import, must be `future.keywords`"
    else if aliased then some "`future` imports cannot be aliased"
    else
      match rest with
      | [_] => none
      | [_, k] =>
        if importableKeywords.contains k then none
        else some ("unexpected keyword, must be one of [" ++ " ".intercalate importableKeywords ++ "]")
      | _ => some "invalid import, must be `future.keywords.x`, e.g. `import future.keywords.in`"
  | "rego" :: rest =>
    if rest != ["v1"] then some ("invalid import `" ++ ".".intercalate path ++ "`, must be `rego.v1`")
    else if aliased then some "`rego` imports cannot be aliased"
    else none
  | _ => none

/-- Reads an import after its keyword: a path that starts at a root document, `future` or
`rego`, then optionally `as` and a name. -/
def importStatement (src : Source) (fuel : Nat) (loc : Loc) : Parse Statement := do
  let i ← peek
  if i.kind != "ident" then illegal src i
  else
    let _ ← advance
    let path ← dottedPath src fuel 64 [i.text]
    if !(["data", "input", "future", "rego"].contains i.text) then
      addHint "if this is unexpected, try updating OPA"
      failAt src i ("unexpected import path, must begin with one of: [data future input rego], got: " ++ i.text)
    else
      let aliasName ← if (← peek).kind == "as" then do
          let _ ← advance
          let a ← peek
          if a.kind != "ident" then illegal src a "expected var"
          else
            let aliasTerm ← primary src fuel
            match aliasTerm with
            | .var v => pure (some v)
            | _ => illegal src (← peek) "expected var"
        else pure none
      match importFault path aliasName.isSome with
      | some why => failAt src i why
      | none => pure (.imports path aliasName loc)

/-- Reads the statements of a module: packages, imports, rules and bodies. -/
def statements (src : Source) (fuel : Nat) : Nat → List Statement → Parse (List Statement)
  | 0, acc => pure acc
  | n + 1, acc => do
    let t ← peek
    let loc := Loc.ofToken src.file t
    if t.kind == "eof" then pure acc
    else if t.faulty then failWithFaults src t
    else if t.kind == "package" then
      let _ ← advance
      let i ← peek
      if i.kind != "ident" then illegal src i
      else
        let _ ← advance
        let path ← dottedPath src fuel 64 [i.text]
        statements src fuel n (acc ++ [.package path loc])
    else if t.kind == "import" then
      let _ ← advance
      let st ← importStatement src fuel loc
      statements src fuel n (acc ++ [st])
    else
      let saved ← get
      match ← rule? src fuel with
      | some r => statements src fuel n (acc ++ [.rule r])
      | none =>
        set saved
        let lits ← bodyStatement src fuel fuel []
        statements src fuel n (acc ++ [.body lits loc])

/-- The keywords of a module: the newer version's, or those its imports of `future.keywords` or
`rego.v1` add. -/
def moduleKeywords (v1 : Bool) (source : String) : List String :=
  if v1 then baseKeywords ++ futureKeywords
  else
    let words := (scan baseKeywords source).map (·.text)
    let imported := (List.range words.length).flatMap fun i =>
      match (words.drop i).take 6 with
      | "import" :: "rego" :: "." :: "v1" :: _ => futureKeywords
      | "import" :: "future" :: "." :: "keywords" :: "." :: k :: _ => [k]
      | "import" :: "future" :: "." :: "keywords" :: _ => futureKeywords
      | _ => []
    baseKeywords ++ futureKeywords.filter imported.contains

/-- The faults of the newer version in rules that read well otherwise: a rule with neither a
value nor a body, a body without `if`, a partial set without `contains`. -/
def versionFaults (rules : List Rule) : List RegoError :=
  rules.flatMap fun r =>
    let kind := if r.params.isSome then "function" else "rule"
    (if !r.hasBody && !r.hasValue && r.value.isSome && !r.isDefault && !r.hasContains then
      [⟨"rego_parse_error", some r.loc, kind ++ " must have value assignment and/or body declaration", []⟩]
    else []) ++
    (if r.hasBody && !r.hasIf && !r.isDefault then
      [⟨"rego_parse_error", some r.loc, "`if` keyword is required before " ++ kind ++ " body", []⟩]
    else []) ++
    (if r.kind == .partialSet && !r.hasContains then
      [⟨"rego_parse_error", some r.loc, "`contains` keyword is required for partial set rules", []⟩]
    else [])

inductive ReadFault where
  | errors (es : List RegoError)
  | empty
  deriving Repr, Inhabited

/-- Reads a module of a file, in the newer version of the language or the older. -/
def parseModule (file source : String) (v1 : Bool) : Except ReadFault Module := do
  let tokens := scan (moduleKeywords v1 source) source
  let src : Source := ⟨file, source.toList.toArray, v1, moduleKeywords v1 source⟩
  let fuel := fuelFor tokens
  let stmts ← match (statements src fuel (tokens.length + 1) []).run { tokens, stop := 0 } with
    | .ok (ss, _) => pure ss
    | .error stop => throw (.errors stop.errors)
  match stmts with
  | [] => throw .empty
  | first :: rest =>
    let (package, packageLoc, errs) : List String × Loc × List RegoError := match first with
      | .package path loc => (path, loc, [])
      | s => ([], s.loc, [⟨"rego_parse_error", some s.loc, "package expected", []⟩])
    let (rules, errs) := rest.foldl (fun (acc : List Rule × List RegoError) s =>
      match s with
      | .rule r => (acc.1 ++ [r], acc.2)
      | .body lits loc =>
        match ruleOfBody lits with
        | .ok r => (acc.1 ++ [r], acc.2)
        | .error msg => (acc.1, acc.2 ++ [⟨"rego_parse_error", some loc, msg, []⟩])
      | .package _ loc => (acc.1, acc.2 ++ [⟨"rego_parse_error", some loc, "unexpected package", []⟩])
      | .imports _ _ _ => acc) ([], errs)
    let compat := v1 || rest.any fun s => match s with
      | .imports ["rego", "v1"] _ _ => true
      | _ => false
    let errs := errs ++ (if compat then versionFaults rules else [])
    let imports := rest.filterMap fun s => match s with
      | .imports path asName loc => some ⟨path, asName, loc⟩
      | _ => none
    if errs.isEmpty then pure ⟨file, package, rules, imports, packageLoc⟩ else throw (.errors errs)

/-- The literals of a query after those read, up to its end: each literal is a statement of
its own, and literals joined by `;` go on. -/
def queryLiterals (src : Source) (fuel : Nat) : Nat → Bool → List Literal → Parse (List Literal)
  | 0, _, acc => pure acc
  | n + 1, fresh, acc => do
    let t ← peek
    if fresh && t.faulty then failWithFaults src t
    else
      let l ← literal src fuel
      let t ← peek
      if t.kind == ";" then
        let _ ← advance
        queryLiterals src fuel n false (acc ++ [l])
      else if t.kind == "eof" then pure (acc ++ [l])
      else queryLiterals src fuel n true (acc ++ [l])

/-- Reads a query, always in the newer version of the language; an empty query has no
literals. -/
def parseQuery (source : String) : Except (List RegoError) (List Literal) :=
  let tokens := scan (baseKeywords ++ futureKeywords) source
  let src : Source := ⟨"", source.toList.toArray, true, allKeywords⟩
  match tokens with
  | [t] => if t.kind == "eof" then .ok [] else .error (unexpectedFaults src t "")
  | _ =>
    match (queryLiterals src (fuelFor tokens) (tokens.length + 1) true []).run { tokens, stop := 0 } with
    | .ok (b, _) => .ok b
    | .error stop => .error stop.errors

end AccessPolicy.Rego
