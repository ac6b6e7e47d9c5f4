import AccessPolicy.Rego.Networks
import AccessPolicy.Text.Base64
/-!
# Mail addresses
-/

namespace AccessPolicy.MailAddress

def isVchar (c : Char) : Bool := ('!' ≤ c && c ≤ '~') || c.toNat ≥ 0x80

def isAtext (dot : Bool) (c : Char) : Bool :=
  if c = '.' then dot
  else if "()<>[]:;@\\,\"".toList.contains c then false
  else isVchar c

def isQtext (c : Char) : Bool := c ≠ '\\' && c ≠ '"' && isVchar c
def isWsp (c : Char) : Bool := c = ' ' || c = '\t'
def isDtext (c : Char) : Bool := c ≠ '[' && c ≠ ']' && c ≠ '\\' && isVchar c

/-- Whether a character stands for a byte that is no UTF-8: the text is read with each raw byte
as the marker alone. -/
def badByte (c : Char) : Bool := c == Utf8.marker

def skipSpace (cs : List Char) : List Char := cs.dropWhile isWsp

/-- A quoted string after its opening quote: its characters, and what follows the closing quote;
none when it is not closed or holds a character it may not. -/
def quoted : List Char → Bool → List Char → Option (List Char × List Char)
  | [], _, _ => none
  | c :: rest, escaped, acc =>
    if badByte c then none
    else if escaped then
      if isVchar c || isWsp c then quoted rest false (acc ++ [c]) else none
    else if isQtext c || isWsp c then quoted rest false (acc ++ [c])
    else if c = '"' then some (acc, rest)
    else if c = '\\' then quoted rest true acc
    else none

/-- An atom at the head of a text, and what follows it; with `dot` it may hold dots, and unless
`lenient` no dot may start or end it or follow another. -/
def atom (dot lenient : Bool) (cs : List Char) : Option (List Char × List Char) :=
  let a := cs.takeWhile (isAtext dot)
  if a.isEmpty || a.any badByte then none
  else if !lenient && (a.head? == some '.' || a.getLast? == some '.' ||
      (a.zip a.tail).any fun (x, y) => x = '.' && y = '.') then none
  else some (a, cs.drop a.length)

/-- A comment after its opening parenthesis, at a depth of nesting: its text and what follows
it, and whether it was closed. -/
def comment : List Char → Nat → List Char → List Char × List Char × Bool
  | cs, 0, acc => (acc, cs, true)
  | [], _ + 1, acc => (acc, [], false)
  | '\\' :: c :: rest, d + 1, acc => comment rest (d + 1) (acc ++ [c])
  | '(' :: rest, d + 1, acc => comment rest (d + 2) (acc ++ ['('])
  | ')' :: rest, d + 1, acc => comment rest d (if d > 0 then acc ++ [')'] else acc)
  | c :: rest, d + 1, acc => comment rest (d + 1) (acc ++ [c])

def skipComments : Nat → List Char → Option (List Char)
  | 0, cs => some (skipSpace cs)
  | fuel + 1, cs =>
    match skipSpace cs with
    | '(' :: rest =>
      let (_, after, closed) := comment rest 1 []
      if closed then skipComments fuel after else none
    | cs => some cs

/-- Whether a text is the encoded text of a `Q` encoded word: printable ASCII, tabs and line
breaks, and `=` with two hexadecimal digits. -/
def qDecodes : List Char → Bool
  | [] => true
  | '=' :: a :: b :: rest =>
    (CharClass.hexValue? a).isSome && (CharClass.hexValue? b).isSome && qDecodes rest
  | '=' :: _ => false
  | c :: rest => ((' ' ≤ c && c ≤ '~') || c = '\n' || c = '\r' || c = '\t') && qDecodes rest

/-- Whether a word is an encoded word whose text decodes but whose charset no converter is
known for. -/
def unknownCharset (word : String) : Bool :=
  let cs := word.toList
  if cs.length < 8 || !word.startsWith "=?" || !word.endsWith "?=" ||
      (cs.filter (· = '?')).length != 4 then false
  else
    match (String.ofList ((cs.drop 2).take (cs.length - 4))).splitOn "?" with
    | [charset, encoding, text] =>
      let decodes := match encoding with
        | "B" | "b" => (Base64.decode text).toOption.isSome
        | "Q" | "q" => qDecodes text.toList
        | _ => false
      !charset.isEmpty && decodes &&
        !(["utf-8", "iso-8859-1", "us-ascii"].contains (CharClass.lowerText charset))
    | _ => false

/-- One word of a display name at the head of a text: what follows it, or where reading stopped
when it fails. -/
def word (cs : List Char) : Except (List Char) (List Char) :=
  match cs with
  | '"' :: rest =>
    match quoted rest false [] with
    | some (_, after) => .ok after
    | none => .error cs
  | _ =>
    match atom true true cs with
    | some (w, rest) => if unknownCharset (String.ofList w) then .error rest else .ok rest
    | none => .error cs

/-- The words of a display name, and what follows them; none when it has no word, or a comment
between its words is not closed. -/
def phrase : Nat → Bool → List Char → Option (List Char)
  | 0, _, cs => some cs
  | fuel + 1, started, cs => do
    let cs ← if started then skipComments cs.length cs else some cs
    let cs := skipSpace cs
    if cs.isEmpty then return cs
    match word cs with
    | .ok rest => phrase fuel true rest
    | .error stop => if started then some stop else none

/-- A domain literal after its opening bracket: what follows its closing bracket, when it holds
an IP address. -/
def domainLiteral (cs : List Char) : Option (List Char) :=
  let inner := cs.takeWhile (· ≠ ']')
  match cs.drop inner.length with
  | ']' :: rest =>
    if inner.all (fun c => !badByte c && isDtext c) &&
        (Rego.Networks.parseIP (String.ofList inner)).isSome then some rest
    else none
  | _ => none

def addrSpec (cs : List Char) : Option (List Char) := do
  let cs := skipSpace cs
  let afterLocal ← match cs with
    | [] => none
    | '"' :: rest => do
      let (body, after) ← quoted rest false []
      if body.isEmpty then none else some after
    | _ => (atom true false cs).map (·.2)
  match afterLocal with
  | '@' :: rest =>
    match skipSpace rest with
    | [] => none
    | '[' :: lit => domainLiteral lit
    | d => (atom true false d).map (·.2)
  | _ => none

/-- A comment after an addr-spec naming its owner, after its opening parenthesis: what follows
it, when it is closed and none of its words names an unknown charset. -/
def nameComment (cs : List Char) : Option (List Char) :=
  let (text, after, closed) := comment cs 1 []
  let words := (String.ofList text).split (fun c => c = ' ' || c = '\t') |>.toList
  if closed && !words.any (fun w => unknownCharset w.toString) then some after else none

/-- A mailbox at the head of a text, and what follows it: an addr-spec with perhaps a comment, or
a display name and an addr-spec between angle brackets. -/
def mailbox (cs : List Char) : Option (List Char) :=
  let cs := skipSpace cs
  if cs.isEmpty then none
  else
    match addrSpec cs with
    | some rest =>
      match skipSpace rest with
      | '(' :: more => nameComment more
      | _ => some rest
    | none => do
      let afterName ← if cs.head? == some '<' then some cs else phrase (cs.length + 1) false cs
      match skipSpace afterName with
      | '<' :: rest =>
        match addrSpec rest with
        | some ('>' :: after) => some after
        | _ => none
      | _ => none

def groupList : Nat → List Char → Option (List Char)
  | 0, _ => none
  | fuel + 1, cs => do
    let rest ← mailbox cs
    match ← skipComments rest.length rest with
    | ';' :: after => skipComments after.length after
    | ',' :: after => groupList fuel after
    | _ => none

def address (cs : List Char) : Option (List Char) :=
  match mailbox cs with
  | some rest => some rest
  | none =>
    let cs := skipSpace cs
    if cs.isEmpty || (addrSpec cs).isSome then none
    else do
      let afterName ← if cs.head? == some '<' then some cs else phrase (cs.length + 1) false cs
      match skipSpace afterName with
      | ':' :: rest =>
        match skipSpace rest with
        | ';' :: after => skipComments after.length after
        | _ => groupList (rest.length + 1) rest
      | _ => none

def valid (s : String) : Bool :=
  match address (Utf8.marked s) with
  | some rest =>
    match skipComments rest.length rest with
    | some [] => true
    | _ => false
  | none => false

end AccessPolicy.MailAddress
