import AccessPolicy.Regex.Classes
/-!
# Regular expressions: syntax

Patterns are read in the RE2 syntax with its Perl extensions, and refused where that syntax
refuses them.
-/

namespace AccessPolicy.Regex
structure Flags where
  fold : Bool := false
  dotAll : Bool := false
  multiLine : Bool := false
  lazy : Bool := false
  deriving Repr, DecidableEq, Inhabited
inductive Assertion where
  | lineStart
  | lineEnd
  | textStart
  | textEnd
  | wordBoundary
  | notWordBoundary
  deriving Repr, DecidableEq, Inhabited

/-- A regular expression as read. -/
inductive Regex where
  | empty
  | literal (c : Nat) (fold : Bool)
  | chars (s : CharSet)
  | anyChar
  | anyButNewline
  | assert (a : Assertion)
  | capture (index : Nat) (sub : Regex)
  | star (sub : Regex) (greedy : Bool)
  | plus (sub : Regex) (greedy : Bool)
  | quest (sub : Regex) (greedy : Bool)
  | bounded (sub : Regex) (min : Nat) (max : Option Nat) (greedy : Bool)
  | concat (subs : List Regex)
  | alternate (subs : List Regex)
  deriving Repr, Inhabited

inductive ErrorCode where
  | invalidCharRange
  | invalidEscape
  | invalidNamedCapture
  | invalidPerlOp
  | invalidRepeatOp
  | invalidRepeatSize
  | missingBracket
  | missingParen
  | missingRepeatArgument
  | trailingBackslash
  | unexpectedParen
  | nestsTooDeeply
  deriving Repr, DecidableEq, Inhabited

def ErrorCode.text : ErrorCode → String
  | .invalidCharRange => "invalid character class range"
  | .invalidEscape => "invalid escape sequence"
  | .invalidNamedCapture => "invalid named capture"
  | .invalidPerlOp => "invalid or unsupported Perl syntax"
  | .invalidRepeatOp => "invalid nested repetition operator"
  | .invalidRepeatSize => "invalid repeat count"
  | .missingBracket => "missing closing ]"
  | .missingParen => "missing closing )"
  | .missingRepeatArgument => "missing argument to repetition operator"
  | .trailingBackslash => "trailing backslash at end of expression"
  | .unexpectedParen => "unexpected )"
  | .nestsTooDeeply => "expression nests too deeply"

structure SyntaxError where
  code : ErrorCode
  expr : String
  deriving Repr, Inhabited
def SyntaxError.message (e : SyntaxError) : String :=
  "error parsing regexp: " ++ e.code.text ++ ": `" ++ e.expr ++ "`"

/-- A pattern read: its expression, how many groups capture, and the name of each (the empty
name for an unnamed group, and for the whole match at index zero). -/
structure Pattern where
  root : Regex
  groups : Nat
  names : Array String
  deriving Repr, Inhabited

/-! ## Reading pieces -/
def isAlnum (c : Char) : Bool :=
  ('0' ≤ c ∧ c ≤ '9') ∨ ('A' ≤ c ∧ c ≤ 'Z') ∨ ('a' ≤ c ∧ c ≤ 'z')

def hexDigit? (c : Char) : Option Nat :=
  if '0' ≤ c ∧ c ≤ '9' then some (c.toNat - '0'.toNat)
  else if 'a' ≤ c ∧ c ≤ 'f' then some (c.toNat - 'a'.toNat + 10)
  else if 'A' ≤ c ∧ c ≤ 'F' then some (c.toNat - 'A'.toNat + 10)
  else none

def isOctal (c : Char) : Bool := '0' ≤ c ∧ c ≤ '7'

def readPart (s rest : List Char) : String :=
  String.ofList (s.take (s.length - rest.length))

def octalTail : Nat → Nat → List Char → Nat × List Char
  | 0, acc, t => (acc, t)
  | k + 1, acc, c :: t => if isOctal c then octalTail k (acc * 8 + (c.toNat - '0'.toNat)) t
    else (acc, c :: t)
  | _ + 1, acc, [] => (acc, [])

/-- Reads the hexadecimal digits of `\x{…}` up to the closing brace: the code point, or none
when a digit is missing, wrong, or the value passes the last code point. -/
def hexBraced : List Char → Nat → Nat → Option (Nat × List Char)
  | [], _, _ => none
  | '}' :: t, acc, count => if count = 0 then none else some (acc, t)
  | c :: t, acc, count =>
    match hexDigit? c with
    | some v =>
      let acc := acc * 16 + v
      if acc > 0x10FFFF then none else hexBraced t acc (count + 1)
    | none => none

/-- Reads a single-character escape at the start of `s` (which starts with a backslash): the
code point and what follows. -/
def readEscapedChar (s : List Char) : Except SyntaxError (Nat × List Char) :=
  match s with
  | _ :: [] | [] => throw ⟨.trailingBackslash, ""⟩
  | _ :: c :: t =>
    let refuse : List Char → Except SyntaxError (Nat × List Char) :=
      fun rest => throw ⟨.invalidEscape, readPart s rest⟩
    if c.toNat < 0x80 ∧ !isAlnum c then pure (c.toNat, t)
    else if c = '0' ∨ ('1' ≤ c ∧ c ≤ '7' ∧ (t.head?.map isOctal).getD false) then
      pure (octalTail 2 (c.toNat - '0'.toNat) t)
    else
      match c with
      | 'x' =>
        match t with
        | [] => refuse t
        | '{' :: u =>
          match hexBraced u 0 0 with
          | some r => pure r
          | none => refuse []
        | a :: u =>
          match hexDigit? a, u with
          | some x, b :: v =>
            match hexDigit? b with
            | some y => pure (x * 16 + y, v)
            | none => refuse v
          | _, _ => refuse (u.drop 1)
      | 'a' => pure (7, t)
      | 'f' => pure (12, t)
      | 'n' => pure (10, t)
      | 'r' => pure (13, t)
      | 't' => pure (9, t)
      | 'v' => pure (11, t)
      | _ => refuse t

def perlGroup? : List Char → Option (ClassItem × List Char)
  | '\\' :: 'd' :: t => some (.group .digit false, t)
  | '\\' :: 'D' :: t => some (.group .digit true, t)
  | '\\' :: 's' :: t => some (.group .perlSpace false, t)
  | '\\' :: 'S' :: t => some (.group .perlSpace true, t)
  | '\\' :: 'w' :: t => some (.group .word false, t)
  | '\\' :: 'W' :: t => some (.group .word true, t)
  | _ => none

/-- Reads a Unicode escape `\pL`, `\p{Name}`, `\PL`, `\P{Name}` (a `^` before the name negates
it) at the start of `s`; none when `s` does not start with one. -/
def readUnicodeGroup (s : List Char) : Except SyntaxError (Option (ClassItem × List Char)) :=
  match s with
  | '\\' :: p :: t =>
    if p ≠ 'p' ∧ p ≠ 'P' then pure none
    else do
      let (seq, name, rest) ← match t with
        | '{' :: _ =>
          match s.findIdx? (· = '}') with
          | some e => pure (s.take (e + 1), (s.take e).drop 3, s.drop (e + 1))
          | none => throw ⟨.invalidCharRange, String.ofList s⟩
        | c :: u => pure (['\\', p, c], [c], u)
        | [] => pure (['\\', p], [], [])
      let (negated, name) := match name with
        | '^' :: n => (p == 'p', n)
        | n => (p == 'P', n)
      match UnicodeSet.ofName? (String.ofList name) with
      | some set => pure (some (.group (.unicode set) negated, rest))
      | none => throw ⟨.invalidCharRange, String.ofList seq⟩
  | _ => pure none

/-- Reads a POSIX group `[:name:]` or `[:^name:]` at the start of `s`; none when no `:]`
follows. -/
def readPosixGroup (s : List Char) : Except SyntaxError (Option (ClassItem × List Char)) :=
  match s with
  | '[' :: ':' :: t =>
    let close := (List.range t.length).find? fun i => (t.drop i).take 2 == [':', ']']
    match close with
    | none => pure none
    | some i =>
      let whole := String.ofList (s.take (i + 4))
      let (negated, name) := match t.take i with
        | '^' :: n => (true, n)
        | n => (false, n)
      match CharGroup.posix? (String.ofList name) with
      | some g => pure (some (.group g negated, t.drop (i + 2)))
      | none => throw ⟨.invalidCharRange, whole⟩
  | _ => pure none

def readClassChar (s whole : List Char) : Except SyntaxError (Nat × List Char) :=
  match s with
  | [] => throw ⟨.missingBracket, String.ofList whole⟩
  | '\\' :: _ => readEscapedChar s
  | c :: t => pure (c.toNat, t)

/-- Reads the items of a class up to its closing bracket; `first` allows a `]` as the first
item. -/
def readClassItems (whole : List Char) :
    Nat → Bool → List Char → List ClassItem → Except SyntaxError (List ClassItem × List Char)
  | 0, _, t, acc => pure (acc, t)
  | fuel + 1, first, t, acc => do
    match t with
    | ']' :: u => if !first then return (acc, u)
    | _ => pure ()
    if let some (item, u) ← readPosixGroup t then
      return ← readClassItems whole fuel false u (item :: acc)
    if let some (item, u) ← readUnicodeGroup t then
      return ← readClassItems whole fuel false u (item :: acc)
    if let some (item, u) := perlGroup? t then
      return ← readClassItems whole fuel false u (item :: acc)
    let (lo, u) ← readClassChar t whole
    match u with
    | '-' :: v =>
      if v.head? = some ']' ∨ v = [] then
        readClassItems whole fuel false u (.range lo lo :: acc)
      else
        let (hi, w) ← readClassChar v whole
        if hi < lo then throw ⟨.invalidCharRange, readPart t w⟩
        readClassItems whole fuel false w (.range lo hi :: acc)
    | _ => readClassItems whole fuel false u (.range lo lo :: acc)

/-- Reads a count `{n}`, `{n,}` or `{n,m}` at the start of `s`: the bounds (a number too large
becomes none) and what follows. -/
def readCount (s : List Char) : Option (Option Nat × Option (Option Nat) × List Char) :=
  let number : List Char → Option (Option Nat × List Char) := fun t =>
    let digits := t.takeWhile fun c => '0' ≤ c ∧ c ≤ '9'
    match digits with
    | [] => none
    | '0' :: _ :: _ => none
    | _ =>
      let value := digits.foldl (fun n c => n * 10 + (c.toNat - '0'.toNat)) 0
      some (if digits.length > 8 then none else some value, t.drop digits.length)
  match s with
  | '{' :: t => do
    let (lo, t) ← number t
    match t with
    | '}' :: u => some (lo, some lo, u)
    | ',' :: '}' :: u => some (lo, none, u)
    | ',' :: t => do
      let (hi, t) ← number t
      match t with
      | '}' :: u => some (lo, some hi, u)
      | _ => none
    | _ => none
  | _ => none

mutual

def repeatIsValid : Regex → Nat → Bool
  | .bounded sub lo hi _, n =>
    if hi = some 0 then true
    else
      let m := hi.getD lo
      if m > n then false else repeatIsValid sub (if m > 0 then n / m else n)
  | .capture _ sub, n => repeatIsValid sub n
  | .star sub _, n => repeatIsValid sub n
  | .plus sub _, n => repeatIsValid sub n
  | .quest sub _, n => repeatIsValid sub n
  | .concat subs, n => repeatsValid subs n
  | .alternate subs, n => repeatsValid subs n
  | _, _ => true

def repeatsValid : List Regex → Nat → Bool
  | [], _ => true
  | r :: rs, n => repeatIsValid r n && repeatsValid rs n

end

def Regex.single : Regex → Bool
  | .literal .. | .chars _ | .anyChar | .anyButNewline => true
  | _ => false

def Regex.isLiteral : Regex → Bool
  | .literal .. => true
  | _ => false

def literalRuns : List Regex → Nat
  | [] => 0
  | [_] => 1
  | a :: b :: rest => (if a.isLiteral && b.isLiteral then 0 else 1) + literalRuns (b :: rest)

mutual

/-- The height of an expression's tree as the engine builds it, where a run of literal characters
in a sequence is one node and an alternation of single characters is one class. -/
def Regex.height : Regex → Nat
  | .capture _ sub => sub.height + 1
  | .star sub _ => sub.height + 1
  | .plus sub _ => sub.height + 1
  | .quest sub _ => sub.height + 1
  | .bounded sub _ _ _ => sub.height + 1
  | .concat subs => if literalRuns subs ≤ 1 then Regex.tallest subs else Regex.tallest subs + 1
  | .alternate subs => if subs.all Regex.single then 1 else Regex.tallest subs + 1
  | _ => 1

def Regex.tallest : List Regex → Nat
  | [] => 0
  | r :: rs => max r.height (Regex.tallest rs)

end

/-! ## Reading a pattern -/

structure Frame where
  branches : List Regex := []
  pieces : List Regex := []
  capture : Option Nat := none
  saved : Flags := {}
  deriving Inhabited
def Frame.branch (f : Frame) : Regex :=
  match f.pieces.reverse with
  | [] => .empty
  | [x] => x
  | xs => .concat xs

def Frame.close (f : Frame) : Regex :=
  match (f.branch :: f.branches).reverse with
  | [x] => x
  | xs => .alternate xs

structure Reader where
  rest : List Char
  flags : Flags := {}
  groups : Nat := 0
  names : List (Nat × String) := []
  frame : Frame := {}
  outer : List Frame := []
  repeated : Option (List Char) := none
  whole : String
  deriving Inhabited

def Reader.push (r : Reader) (piece : Regex) (rest : List Char) : Reader :=
  { r with rest, frame := { r.frame with pieces := piece :: r.frame.pieces }, repeated := none }

/-- Applies a repetition to the piece before it. -/
def Reader.applyRepeat (r : Reader) (start after : List Char) (counted : Option (Nat × Option Nat))
    (make : Regex → Bool → Regex) : Except SyntaxError Reader := do
  let (mark, after) := match after with
    | '?' :: t => (true, t)
    | t => (false, t)
  let greedy := r.flags.lazy == mark
  if let some last := r.repeated then throw ⟨.invalidRepeatOp, readPart last after⟩
  match r.frame.pieces with
  | [] => throw ⟨.missingRepeatArgument, readPart start after⟩
  | p :: ps =>
    let node := make p greedy
    if let some (lo, hi) := counted then
      if (lo ≥ 2 ∨ hi.getD 0 ≥ 2) ∧ !repeatIsValid node 1000 then
        throw ⟨.invalidRepeatSize, readPart start after⟩
    pure { r with rest := after, frame := { r.frame with pieces := node :: ps },
                  repeated := some start }

/-- Reads the letters of a flag group after `(?`: the flags, whether a group opens (`:`) or
not (`)`), and what follows. -/
def readFlagLetters (s : List Char) :
    List Char → Flags → Bool → Bool → Except SyntaxError (Flags × Bool × List Char)
  | [], _, _, _ => throw ⟨.invalidPerlOp, String.ofList s⟩
  | c :: t, flags, negative, saw =>
    match c with
    | 'i' => readFlagLetters s t { flags with fold := !negative } negative true
    | 'm' => readFlagLetters s t { flags with multiLine := !negative } negative true
    | 's' => readFlagLetters s t { flags with dotAll := !negative } negative true
    | 'U' => readFlagLetters s t { flags with lazy := !negative } negative true
    | '-' => if negative then throw ⟨.invalidPerlOp, readPart s t⟩
      else readFlagLetters s t flags true false
    | ':' | ')' => if negative ∧ !saw then throw ⟨.invalidPerlOp, readPart s t⟩
      else pure (flags, c = ':', t)
    | _ => throw ⟨.invalidPerlOp, readPart s t⟩

def validGroupName (name : List Char) : Bool :=
  !name.isEmpty && name.all fun c => c = '_' ∨ isAlnum c

def Reader.readSpecialGroup (r : Reader) : Except SyntaxError Reader :=
  let t := r.rest
  let withP := t.length > 4 ∧ (t.drop 2).take 2 = ['P', '<']
  let withName := t.length > 3 ∧ (t.drop 2).take 1 = ['<']
  if withP ∨ withName then
    let start := if withName then 3 else 4
    match t.findIdx? (· = '>') with
    | none => throw ⟨.invalidNamedCapture, String.ofList t⟩
    | some e =>
      let name := (t.take e).drop start
      if !validGroupName name then throw ⟨.invalidNamedCapture, String.ofList (t.take (e + 1))⟩
      else
        let n := r.groups + 1
        pure { r with rest := t.drop (e + 1), groups := n,
                      names := (n, String.ofList name) :: r.names,
                      frame := { capture := some n, saved := r.flags },
                      outer := r.frame :: r.outer, repeated := none }
  else do
    let (flags, opens, rest) ← readFlagLetters t (t.drop 2) r.flags false false
    if opens then
      pure { r with rest, flags, frame := { saved := r.flags }, outer := r.frame :: r.outer,
                    repeated := none }
    else pure { r with rest, flags, repeated := none }

def Reader.readEscape (r : Reader) : Except SyntaxError Reader := do
  let s := r.rest
  match s with
  | _ :: 'A' :: t => return r.push (.assert .textStart) t
  | _ :: 'b' :: t => return r.push (.assert .wordBoundary) t
  | _ :: 'B' :: t => return r.push (.assert .notWordBoundary) t
  | _ :: 'z' :: t => return r.push (.assert .textEnd) t
  | _ :: 'C' :: _ => throw ⟨.invalidEscape, "\\C"⟩
  | _ :: 'Q' :: t =>
    let stop := (List.range t.length).find? fun i => (t.drop i).take 2 == ['\\', 'E']
    let (lit, rest) := match stop with
      | some i => (t.take i, t.drop (i + 2))
      | none => (t, [])
    return lit.foldl (fun r c => r.push (.literal c.toNat r.flags.fold) rest)
      { r with rest, repeated := none }
  | _ => pure ()
  if let some (item, t) ← readUnicodeGroup s then
    return r.push (.chars ⟨[item], r.flags.fold, false⟩) t
  if let some (item, t) := perlGroup? s then
    return r.push (.chars ⟨[item], r.flags.fold, false⟩) t
  let (c, t) ← readEscapedChar s
  return r.push (.literal c r.flags.fold) t

def Reader.readToken (r : Reader) : Except SyntaxError Reader :=
  match r.rest with
  | [] => pure r
  | '(' :: '?' :: _ => r.readSpecialGroup
  | '(' :: t =>
    let n := r.groups + 1
    pure { r with rest := t, groups := n, frame := { capture := some n, saved := r.flags },
                  outer := r.frame :: r.outer, repeated := none }
  | '|' :: t =>
    pure { r with rest := t, repeated := none,
                  frame := { r.frame with branches := r.frame.branch :: r.frame.branches,
                                          pieces := [] } }
  | ')' :: t =>
    match r.outer with
    | [] => throw ⟨.unexpectedParen, r.whole⟩
    | parent :: outer =>
      let body := r.frame.close
      let node := match r.frame.capture with
        | some n => Regex.capture n body
        | none => body
      pure { r with rest := t, flags := r.frame.saved, outer, repeated := none,
                    frame := { parent with pieces := node :: parent.pieces } }
  | '^' :: t => pure (r.push (.assert (if r.flags.multiLine then .lineStart else .textStart)) t)
  | '$' :: t => pure (r.push (.assert (if r.flags.multiLine then .lineEnd else .textEnd)) t)
  | '.' :: t => pure (r.push (if r.flags.dotAll then .anyChar else .anyButNewline) t)
  | '[' :: t => do
    let (negated, t) := match t with
      | '^' :: u => (true, u)
      | u => (false, u)
    let (items, rest) ← readClassItems r.rest (t.length + 1) true t []
    pure (r.push (.chars ⟨items.reverse, r.flags.fold, negated⟩) rest)
  | '*' :: t => r.applyRepeat r.rest t none fun p g => .star p g
  | '+' :: t => r.applyRepeat r.rest t none fun p g => .plus p g
  | '?' :: t => r.applyRepeat r.rest t none fun p g => .quest p g
  | '{' :: t =>
    match readCount r.rest with
    | none => pure (r.push (.literal '{'.toNat r.flags.fold) t)
    | some (lo, hi, after) =>
      match lo, hi with
      | some lo, some none =>
        if lo > 1000 then throw ⟨.invalidRepeatSize, readPart r.rest after⟩
        else r.applyRepeat r.rest after (some (lo, none)) fun p g => .bounded p lo none g
      | some lo, some (some hi) =>
        if lo > 1000 ∨ hi > 1000 ∨ lo > hi then
          throw ⟨.invalidRepeatSize, readPart r.rest after⟩
        else r.applyRepeat r.rest after (some (lo, some hi)) fun p g => .bounded p lo (some hi) g
      | _, _ => throw ⟨.invalidRepeatSize, readPart r.rest after⟩
  | '\\' :: _ => r.readEscape
  | c :: t => pure (r.push (.literal c.toNat r.flags.fold) t)

def Reader.readAll : Nat → Reader → Except SyntaxError Reader
  | 0, r => pure r
  | fuel + 1, r =>
    if r.rest.isEmpty then pure r
    else do
      let r' ← r.readToken
      if r'.rest.length < r.rest.length then Reader.readAll fuel r' else pure r'

def Pattern.read (pattern : String) : Except SyntaxError Pattern := do
  let chars := pattern.toList
  let r ← Reader.readAll (chars.length + 1) { rest := chars, whole := pattern }
  if !r.outer.isEmpty then throw ⟨.missingParen, pattern⟩
  if r.frame.close.height > 1000 then throw ⟨.nestsTooDeeply, pattern⟩
  let names := (List.range (r.groups + 1)).map fun i => (r.names.lookup i).getD ""
  pure { root := r.frame.close, groups := r.groups, names := names.toArray }

end AccessPolicy.Regex
