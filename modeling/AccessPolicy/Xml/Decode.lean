import AccessPolicy.Text.Utf8
import AccessPolicy.Text.CharClass
/-!
# Reading XML

An XML document is read byte by byte into tokens: the start of an element with its name, the
end of an element, character data, and the markup that carries nothing for binding (comments,
processing instructions and declarations such as `<!DOCTYPE …>`). An element written `<a/>` gives
its start and then its end.
-/

namespace AccessPolicy.Xml

inductive XmlError where
  | eof
  | malformed (line : Nat) (message : String)
  | other (message : String)
  deriving Repr, Inhabited

def XmlError.message : XmlError → String
  | .eof => "EOF"
  | .malformed line msg => "XML syntax error on line " ++ toString line ++ ": " ++ msg
  | .other msg => msg

structure XmlName where
  space : String
  part : String
  deriving Repr, Inhabited, BEq

inductive XmlToken where
  | start (name : XmlName)
  | finish (name : XmlName)
  | text (bytes : List UInt8)
  | markup
  deriving Repr, Inhabited

/-- Where reading stands: the bytes left, the line, the elements open (innermost first), and the
end of a self-closed element still to be given. -/
structure Reader where
  rest : List UInt8
  line : Nat
  opened : List XmlName
  pending : Option XmlName
  deriving Inhabited

namespace Reader

def ofText (s : String) : Reader := ⟨Utf8.encode s, 1, [], none⟩

def step (r : Reader) (b : UInt8) (rest : List UInt8) : Reader :=
  { r with rest, line := if b == 10 then r.line + 1 else r.line }

def fault {α : Type} (r : Reader) (msg : String) : Except XmlError α :=
  .error (.malformed r.line msg)

def must (r : Reader) : Except XmlError (UInt8 × Reader) :=
  match r.rest with
  | b :: rest => .ok (b, r.step b rest)
  | [] => r.fault "unexpected EOF"

def skipSpace (r : Reader) : Reader :=
  let blank := r.rest.takeWhile fun b => b == 32 || b == 13 || b == 10 || b == 9
  { r with rest := r.rest.drop blank.length, line := r.line + (blank.filter (· == 10)).length }

end Reader

def nameByte (b : UInt8) : Bool :=
  b ≥ 0x80 || (65 ≤ b && b ≤ 90) || (97 ≤ b && b ≤ 122) || (48 ≤ b && b ≤ 57) ||
    b == 95 || b == 58 || b == 46 || b == 45

def nameStart (c : Char) : Bool :=
  c.isAlpha || c == '_' || c == ':' || (c.toNat ≥ 0xC0 && CharClass.letter c)

def nameRest (c : Char) : Bool :=
  nameStart c || c.isDigit || c == '-' || c == '.' || c.toNat == 0xB7 ||
    (c.toNat ≥ 0x300 && c.toNat < 0x370) || (c.toNat ≥ 0x80 && !CharClass.blank c)

def isName (bs : List UInt8) : Bool :=
  match Utf8.decode bs with
  | [] => false
  | c :: cs => Utf8.encode (String.ofList (c :: cs)) == bs && nameStart c && cs.all nameRest

/-- Reads the bytes of a name: none, reading nothing, when the next byte cannot start one. -/
def readNameBytes (r : Reader) : Except XmlError (Option (List UInt8) × Reader) :=
  match r.rest with
  | [] => r.fault "unexpected EOF"
  | b :: _ =>
    if b < 0x80 && !nameByte b then .ok (none, r)
    else
      let bytes := r.rest.takeWhile nameByte
      let r' := { r with rest := r.rest.drop bytes.length }
      if r'.rest.isEmpty then r'.fault "unexpected EOF" else .ok (some bytes, r')

def readName (r : Reader) : Except XmlError (Option String × Reader) := do
  let (bytes, r) ← readNameBytes r
  match bytes with
  | none => pure (none, r)
  | some bs =>
    if isName bs then pure (some (String.ofList (Utf8.decode bs)), r)
    else r.fault ("invalid XML name: " ++ String.ofList (Utf8.decode bs))

def readXmlName (r : Reader) : Except XmlError (Option XmlName × Reader) := do
  let (s, r) ← readName r
  match s with
  | none => pure (none, r)
  | some s =>
    match s.splitOn ":" with
    | [_] => pure (some ⟨"", s⟩, r)
    | [space, part] =>
      if space.isEmpty || part.isEmpty then pure (some ⟨"", s⟩, r) else pure (some ⟨space, part⟩, r)
    | _ => pure (none, r)

def entityText? (name : String) : Option Char :=
  match name with
  | "lt" => some '<'
  | "gt" => some '>'
  | "amp" => some '&'
  | "apos" => some '\''
  | "quot" => some '"'
  | _ => none
def allowedChar (n : Nat) : Bool :=
  n == 0x09 || n == 0x0A || n == 0x0D || (0x20 ≤ n && n ≤ 0xD7FF) || (0xE000 ≤ n && n ≤ 0xFFFD) ||
    (0x10000 ≤ n && n ≤ 0x10FFFF)

def checkData (r : Reader) (data : List UInt8) : Except XmlError (List UInt8 × Reader) :=
  let cs := Utf8.decode data
  if Utf8.encode (String.ofList cs) != data then r.fault "invalid UTF-8"
  else
    match cs.find? fun c => !allowedChar c.toNat with
    | some c =>
      let hex := String.ofList (Nat.toDigits 16 c.toNat) |>.toUpper
      r.fault ("illegal character code U+" ++ String.ofList (List.replicate (4 - hex.length) '0') ++ hex)
    | none => .ok (data, r)
def refDigit (hex : Bool) (b : UInt8) : Bool :=
  (48 ≤ b && b ≤ 57) || (hex && ((97 ≤ b && b ≤ 102) || (65 ≤ b && b ≤ 70)))

def digitsValue (hex : Bool) (ds : List UInt8) : Nat :=
  ds.foldl (fun acc b =>
    let d := if b ≤ 57 then b.toNat - 48 else if b ≥ 97 then b.toNat - 87 else b.toNat - 55
    acc * (if hex then 16 else 10) + d) 0

def runeBytes (n : Nat) : List UInt8 :=
  if 0xD800 ≤ n && n ≤ 0xDFFF then Utf8.encode (String.singleton Utf8.replacement)
  else Utf8.encode (String.singleton (Char.ofNat n))

def readEntity (r : Reader) : Except XmlError (List UInt8 × Reader) := do
  let (b, r1) ← r.must
  if b == 35 then
    let (b2, r2) ← r1.must
    let hex := b2 == 120
    let r3 := if hex then r2 else r1
    let ds := r3.rest.takeWhile (refDigit hex)
    let r4 : Reader := { r3 with rest := r3.rest.drop ds.length }
    let (b5, r5) ← r4.must
    let written := "&#" ++ (if hex then "x" else "") ++ String.ofList (ds.map fun d => Char.ofNat d.toNat)
    if b5 != 59 then r4.fault ("invalid character entity " ++ written ++ " (no semicolon)")
    else
      let n := digitsValue hex ds
      if !ds.isEmpty && n ≤ 0x10FFFF then pure (runeBytes n, r5)
      else r5.fault ("invalid character entity " ++ written ++ ";")
  else
    let (bytes, r1) ← readNameBytes r
    let nameBs := bytes.getD []
    let (b2, r2) ← r1.must
    let written := "&" ++ String.ofList (Utf8.decode nameBs)
    if b2 != 59 then r1.fault ("invalid character entity " ++ written ++ " (no semicolon)")
    else
      match (if isName nameBs then entityText? (String.ofList (Utf8.decode nameBs)) else none) with
      | some c => pure (Utf8.encode (String.singleton c), r2)
      | none => r2.fault ("invalid character entity " ++ written ++ ";")

/-- Reads character data, bytes gathered backwards in `acc`, the last two bytes read being
`b0` and `b1`: up to a `<` (left unread), up to the quote `quote` (read), or up to the end of a
CDATA section. -/
def readText (quote : Option UInt8) (cdata : Bool) : Nat → Reader → List UInt8 → UInt8 → UInt8 →
    Except XmlError (List UInt8 × Reader)
  | 0, r, acc, _, _ => checkData r acc.reverse
  | fuel + 1, r, acc, b0, b1 =>
    match r.rest with
    | [] => if cdata then r.fault "unexpected EOF in CDATA section" else checkData r acc.reverse
    | b :: rest =>
      let r1 := r.step b rest
      if quote.isNone && b0 == 93 && b1 == 93 && b == 62 then
        if cdata then checkData r1 (acc.drop 2).reverse
        else r1.fault "unescaped ]]> not in CDATA section"
      else if b == 60 && !cdata then
        if quote.isSome then r1.fault "unescaped < inside quoted string"
        else checkData r acc.reverse
      else if quote == some b then checkData r1 acc.reverse
      else if b == 38 && !cdata then
        match readEntity r1 with
        | .error e => .error e
        | .ok (bytes, r2) => readText quote cdata fuel r2 (bytes.reverse ++ acc) 0 0
      else
        let acc := if b == 13 then 10 :: acc else if b1 == 13 && b == 10 then acc else b :: acc
        readText quote cdata fuel r1 acc b1 b

def text (quote : Option UInt8) (cdata : Bool) (r : Reader) : Except XmlError (List UInt8 × Reader) :=
  readText quote cdata (r.rest.length + 1) r [] 0 0

def untilTerminator (term : List UInt8) : Nat → Reader → List UInt8 → Except XmlError (List UInt8 × Reader)
  | 0, r, acc => .ok (acc.reverse, r)
  | fuel + 1, r, acc => do
    let (b, r) ← r.must
    let acc := b :: acc
    if term.reverse.isPrefixOf acc then pure ((acc.drop term.length).reverse, r)
    else untilTerminator term fuel r acc

def declParam (param : String) (content : String) : String :=
  match content.splitOn (param ++ "=") with
  | _ :: after :: _ =>
    match after.toList with
    | q :: rest => if q == '"' || q == '\'' then String.ofList (rest.takeWhile (· ≠ q)) else ""
    | [] => ""
  | _ => ""

def readComment : Nat → Reader → UInt8 → UInt8 → Except XmlError Reader
  | 0, r, _, _ => .ok r
  | fuel + 1, r, b0, b1 => do
    let (b, r) ← r.must
    if b0 == 45 && b1 == 45 then
      if b != 62 then r.fault "invalid sequence \"--\" not allowed in comments" else pure r
    else readComment fuel r b1 b

/-- Reads the rest of a declaration such as `<!DOCTYPE …>` after its first character: quoted
text is passed over, angle brackets nest, and comments inside are dropped. -/
def readDirective : Nat → Reader → Option UInt8 → Nat → Except XmlError Reader
  | 0, r, _, _ => .ok r
  | fuel + 1, r, quote, depth => do
    let (b, r) ← r.must
    match quote with
    | some q => readDirective fuel r (if b == q then none else some q) depth
    | none =>
      if b == 62 then (if depth == 0 then pure r else readDirective fuel r none (depth - 1))
      else if b == 39 || b == 34 then readDirective fuel r (some b) depth
      else if b == 60 then
        if [33, 45, 45].isPrefixOf r.rest then
          let r' : Reader := { r with rest := r.rest.drop 3 }
          let (_, r'') ← untilTerminator [45, 45, 62] fuel r' []
          readDirective fuel r'' none depth
        else readDirective fuel r none (depth + 1)
      else readDirective fuel r none depth

/-- Reads the attributes of a start tag and its end: whether it closes itself. -/
def readAttributes : Nat → Reader → Except XmlError (Bool × Reader)
  | 0, r => .ok (false, r)
  | fuel + 1, r => do
    let r := r.skipSpace
    let (b, r1) ← r.must
    if b == 47 then
      let (b2, r2) ← r1.must
      if b2 != 62 then r2.fault "expected /> in element" else pure (true, r2)
    else if b == 62 then pure (false, r1)
    else
      let (name, r2) ← readXmlName r
      match name with
      | none => r2.fault "expected attribute name in element"
      | some _ =>
        let (b3, r3) ← r2.skipSpace.must
        if b3 != 61 then r3.fault "attribute name without = in element"
        else
          let (q, r4) ← r3.skipSpace.must
          if q != 34 && q != 39 then r4.fault "unquoted or missing attribute value in element"
          else
            let (_, r5) ← text (some q) false r4
            readAttributes fuel r5

/-- Reads the next token as it is written, before matching ends to starts; none at the end of
the text. -/
def rawToken (r : Reader) : Except XmlError (Option XmlToken × Reader) :=
  match r.pending with
  | some name => .ok (some (.finish name), { r with pending := none })
  | none =>
    match r.rest with
    | [] => .ok (none, r)
    | b :: rest =>
      if b != 60 then
        (text none false r).map fun (data, r) => (some (.text data), r)
      else
        let r1 := r.step b rest
        let fuel := r.rest.length + 1
        match r1.must with
        | .error e => .error e
        | .ok (c, r2) =>
          if c == 47 then do
            let (name, r3) ← readXmlName r2
            match name with
            | none => r3.fault "expected element name after </"
            | some name =>
              let (d, r4) ← r3.skipSpace.must
              if d != 62 then r4.fault ("invalid characters between </" ++ name.part ++ " and >")
              else pure (some (.finish name), r4)
          else if c == 63 then do
            let (target, r3) ← readName r2
            match target with
            | none => r3.fault "expected target name after <?"
            | some target =>
              let (content, r4) ← untilTerminator [63, 62] fuel r3.skipSpace []
              if target == "xml" then
                let body := String.ofList (Utf8.decode content)
                let version := declParam "version" body
                let encoding := declParam "encoding" body
                if version != "" && version != "1.0" then
                  .error (.other ("xml: unsupported version \"" ++ version ++ "\"; only version 1.0 is supported"))
                else if encoding != "" && CharClass.lowerText encoding != "utf-8" then
                  .error (.other ("xml: encoding \"" ++ encoding ++ "\" declared but Decoder.CharsetReader is nil"))
                else pure (some .markup, r4)
              else pure (some .markup, r4)
          else if c == 33 then do
            let (d, r3) ← r2.must
            if d == 45 then
              let (e, r4) ← r3.must
              if e != 45 then r4.fault "invalid sequence <!- not part of <!--"
              else
                let r5 ← readComment fuel r4 0 0
                pure (some .markup, r5)
            else if d == 91 then
              let rec cdataStart : List UInt8 → Reader → Except XmlError Reader
                | [], r => .ok r
                | x :: xs, r => do
                  let (y, r') ← r.must
                  if y != x then r'.fault "invalid <![ sequence" else cdataStart xs r'
              let r4 ← cdataStart [67, 68, 65, 84, 65, 91] r3
              let (data, r5) ← text none true r4
              pure (some (.text data), r5)
            else
              let r4 ← readDirective fuel r3 none 0
              pure (some .markup, r4)
          else do
            let (name, r3) ← readXmlName r1
            match name with
            | none => r3.fault "expected element name after <"
            | some name =>
              let (closes, r4) ← readAttributes fuel r3
              pure (some (.start name), if closes then { r4 with pending := some name } else r4)

/-- Reads the next token, matching each end to the element open last: the end of the text is
`unexpected EOF` inside an element and `EOF` outside. -/
def nextToken (r : Reader) : Except XmlError (XmlToken × Reader) := do
  let (tok, r) ← rawToken r
  match tok with
  | none => if r.opened.isEmpty then .error .eof else r.fault "unexpected EOF"
  | some (.start name) => pure (.start name, { r with opened := name :: r.opened })
  | some (.finish name) =>
    match r.opened with
    | [] => r.fault ("unexpected end element </" ++ name.part ++ ">")
    | top :: rest =>
      if top.part != name.part then
        r.fault ("element <" ++ top.part ++ "> closed by </" ++ name.part ++ ">")
      else if top.space != name.space then
        r.fault ("element <" ++ top.part ++ "> in space " ++ top.space ++ " closed by </" ++
          name.part ++ "> in space " ++ (if name.space.isEmpty then "\"\"" else name.space))
      else pure (.finish name, { r with opened := rest })
  | some t => pure (t, r)

end AccessPolicy.Xml
