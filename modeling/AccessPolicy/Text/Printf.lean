import AccessPolicy.Value.Text
import AccessPolicy.Number.Fixed
import AccessPolicy.Text.Quote
/-!
# Formatting values with verbs

A format text holds literal text and directives `%[flags][width][.precision]verb`; each
directive formats the next value. Flags are `-` (pad on the right), `+` (always a sign), ` ` (a
space for the sign of a non-negative number), `0` (pad numbers with zeros) and `#` (alternate
form); width and precision are numbers or `*`, which takes them from the next value. The verbs:

* `v` the value's own text, and with `#` the literal of its type; `T` its kind; `%%` a percent
  sign;
* `t` booleans; `d` `b` `o` `O` `x` `X` `c` `q` `U` integers;
* `e` `E` `f` `F` `g` `G` floating-point numbers;
* `s` `q` `x` `X` texts and bytes.

A directive takes the next value, or the value `[n]` names (counting from one) before its
width, precision or verb. Lists and maps apply the verb to each item. A verb that does not fit a
value writes `%!verb(kind=value)`; a directive without a value writes `%!verb(MISSING)`, and one
whose index names no value `%!verb(BADINDEX)`; values left over are listed at the end as
`%!(EXTRA kind=value, …)`, unless a directive chose its value by index.

Joining values without a format puts a space between two neighbours when neither is a text.
-/

namespace AccessPolicy.Printf
structure Directive where
  minus : Bool := false
  plus : Bool := false
  sharp : Bool := false
  sharpV : Bool := false
  plusV : Bool := false
  space : Bool := false
  zero : Bool := false
  width : Option Nat := none
  prec : Option Nat := none
  deriving Repr, Inhabited

def pad (d : Directive) (s : String) : String :=
  match d.width with
  | none => s
  | some w =>
    let n := Utf8.runeCount s
    if n ≥ w then s
    else
      let fill := String.ofList (List.replicate (w - n) (if d.zero ∧ !d.minus then '0' else ' '))
      if d.minus then s ++ fill else fill ++ s

def padNumber (d : Directive) (sign digits : String) : String :=
  match d.width with
  | some w =>
    if d.zero ∧ !d.minus ∧ d.prec.isNone ∧ w > sign.length + digits.length then
      sign ++ String.ofList (List.replicate (w - sign.length - digits.length) '0') ++ digits
    else pad { d with zero := false } (sign ++ digits)
  | none => sign ++ digits

def digitsIn (base : Nat) (upper : Bool) (n : Nat) : String :=
  let ds := Nat.toDigits base n
  String.ofList (if upper then ds.map Char.toUpper else ds)

def signOf (d : Directive) (neg : Bool) : String :=
  if neg then "-" else if d.plus then "+" else if d.space then " " else ""

/-- The character an integer stands for: itself when it is a Unicode scalar value, the
replacement character U+FFFD otherwise. -/
def runeOf (n : Int) : Char :=
  if 0 ≤ n ∧ n ≤ 0x10FFFF ∧ ¬(0xD800 ≤ n ∧ n ≤ 0xDFFF) then Char.ofNat n.toNat else '\uFFFD'

def unsignedBits (n : Int) : Nat :=
  if n < 0 then (n + Int.pow 2 64).toNat else n.toNat

def formatInt (d : Directive) (verb : Char) (n : Int) : String :=
  let neg := n < 0
  let m := n.natAbs
  match verb with
  | 'c' => pad d (String.singleton (runeOf n))
  | 'q' => pad d (if d.plus then Quote.asciiChar (runeOf n) else Quote.char (runeOf n))
  | 'U' =>
    let u := unsignedBits n
    let hex := digitsIn 16 true u
    let body := "U+" ++ String.ofList (List.replicate (max 4 (d.prec.getD 0) - hex.length) '0') ++ hex
    let c := runeOf n
    let shown := d.sharp ∧ u ≤ 0x10FFFF ∧ c.toNat = u ∧ CharClass.printable c
    pad { d with zero := false } (if shown then body ++ " '" ++ String.singleton c ++ "'" else body)
  | _ =>
    let (base, upper) := match verb with
      | 'b' => (2, false)
      | 'o' | 'O' => (8, false)
      | 'x' => (16, false)
      | 'X' => (16, true)
      | _ => (10, false)
    if d.prec = some 0 ∧ m = 0 then pad { d with zero := false } ""
    else
      -- zeros for the precision, or for the width when padding with zeros
      let least := match d.prec with
        | some p => p
        | none =>
          match d.width with
          | some w => if d.zero ∧ !d.minus then w - (if neg ∨ d.plus ∨ d.space then 1 else 0) else 0
          | none => 0
      let raw := digitsIn base upper m
      let ds := String.ofList (List.replicate (least - raw.length) '0') ++ raw
      let pfx := if !d.sharp then ""
        else match base with
          | 2 => "0b"
          | 8 => if ds.startsWith "0" then "" else "0"
          | 16 => if upper then "0X" else "0x"
          | _ => ""
      let pfx := if verb = 'O' then "0o" ++ pfx else pfx
      pad { d with zero := false } (signOf d neg ++ pfx ++ ds)

/-- Formats an integer of any size as it formats itself: in base 2, 8, 10 or 16 for the verbs
`b`, `o` and `O`, `d` `s` and `v`, `x` and `X`, with the sign, the prefix of the base, the zeros of
the precision and the padding of the width in that order; any other verb writes the complaint
without flags. -/
def formatBig (d : Directive) (verb : Char) (n : Int) : String :=
  let base := match verb with
    | 'b' => 2
    | 'o' | 'O' => 8
    | 'd' | 's' | 'v' => 10
    | 'x' | 'X' => 16
    | _ => 0
  if base = 0 then "%!" ++ String.singleton verb ++ "(big.Int=" ++ toString n ++ ")"
  else
    let sign := if n < 0 then "-" else if d.plus ∨ d.plusV then "+" else if d.space then " " else ""
    let pfx := if verb = 'O' then "0o"
      else if d.sharp ∨ d.sharpV then
        match verb with
        | 'b' => "0b"
        | 'o' => "0"
        | 'x' => "0x"
        | 'X' => "0X"
        | _ => ""
      else ""
    let digits := digitsIn base (verb = 'X') n.natAbs
    if d.prec = some 0 ∧ n = 0 then ""
    else
      let zeros := match d.prec with
        | some p => p - digits.length
        | none => 0
      let length := sign.length + pfx.length + zeros + digits.length
      let room := (d.width.getD 0) - length
      let (left, zeros, right) :=
        if d.minus then (0, zeros, room)
        else if d.zero ∧ d.prec.isNone then (0, zeros + room, 0)
        else (room, zeros, 0)
      String.ofList (List.replicate left ' ') ++ sign ++ pfx ++ String.ofList (List.replicate zeros '0') ++
        digits ++ String.ofList (List.replicate right ' ')

def absBinary : Binary → Binary
  | .finite _ s e => .finite false s e
  | x => x

/-- The significand and exponent of a finite value as its format stores them: the value is
`m · 2^e` with `m` of `precision` bits, or `e` the least exponent below the normal range and for
zero. -/
def storedParts (f : BinaryFormat) (sig : Nat) (exp : Int) : Nat × Int :=
  if sig = 0 then (0, f.leastExp) else Binary.normalize f sig exp

/-- The binary text of a non-negative finite value: the stored significand in decimal, `p`, and
the exponent of its last bit (`7205759403792794p-56`). -/
def binaryText (f : BinaryFormat) (sig : Nat) (exp : Int) : String :=
  let (m, e) := storedParts f sig exp
  toString m ++ "p" ++ (if e ≥ 0 then "+" else "") ++ toString e

/-- The hexadecimal text of a non-negative finite value: `0x`, the leading binary digit, the
fraction in hexadecimal digits (all of them without trailing zeros, or rounded to the precision,
a tie going to the even one), `p` and the binary exponent with at least two digits
(`0x1.8p+00`). Zero is `0x0p+00`. -/
def hexFloatText (f : BinaryFormat) (upper : Bool) (prec : Option Nat) (sig : Nat) (exp : Int) :
    String :=
  let (m, e) := storedParts f sig exp
  -- the leading one at bit 60, the exponent being that of the leading digit
  let (mant, x) : Nat × Int := if m = 0 then (0, 0) else (m * Nat.pow 2 (60 - m.log2), e + (m.log2 : Int))
  let (mant, x) := match prec with
    | some p =>
      if p < 15 then
        let shift := 4 * p
        let extra := mant * Nat.pow 2 shift % Nat.pow 2 60
        let top := mant / Nat.pow 2 (60 - shift)
        let top := if (extra ||| top % 2) > Nat.pow 2 59 then top + 1 else top
        let mant := top * Nat.pow 2 (60 - shift)
        if mant ≥ Nat.pow 2 61 then (mant / 2, x + 1) else (mant, x)
      else (mant, x)
    | none => (mant, x)
  let digit (k : Nat) : Char := (if upper then "0123456789ABCDEF" else "0123456789abcdef").toList.getD k '0'
  let frac := mant % Nat.pow 2 60
  let ds := (List.range 15).map fun k => digit (frac / Nat.pow 16 (14 - k) % 16)
  let fraction := match prec with
    | none =>
      let kept := (ds.reverse.dropWhile (· = '0')).reverse
      if kept.isEmpty then "" else "." ++ String.ofList kept
    | some 0 => ""
    | some p => "." ++ String.ofList ((ds ++ List.replicate (p - 15) '0').take p)
  (if upper then "0X" else "0x") ++ String.singleton (digit (mant / Nat.pow 2 60 % 2)) ++ fraction ++
    (if upper then "P" else "p") ++ (if x < 0 then "-" else "+") ++ padDigits 2 x.natAbs

/-- The alternate form of a number's text: a decimal point always, and for the general and
hexadecimal verbs trailing zeros up to the precision (six when none is given) in significant
digits; an exponent stays at the end. -/
def sharpen (verb : Char) (prec : Option Nat) (body : String) : String :=
  let digits : Int := if verb = 'v' ∨ verb = 'g' ∨ verb = 'G' ∨ verb = 'x' then prec.getD 6 else 0
  let isTail (c : Char) : Bool :=
    c = 'p' ∨ c = 'P' ∨ ((c = 'e' ∨ c = 'E') ∧ verb ≠ 'x' ∧ verb ≠ 'X')
  let cs := body.toList
  let num := cs.takeWhile (!isTail ·)
  let tail := cs.drop num.length
  let hasPoint := num.contains '.'
  let significant := (num.filter (· ≠ '.')).dropWhile (· = '0')
  let digits := digits - significant.length
  let (num, digits) := if hasPoint then (num, digits)
    else if num = ['0'] then (num ++ ['.'], digits - 1) else (num ++ ['.'], digits)
  String.ofList (num ++ List.replicate digits.toNat '0' ++ tail)

def floatBody (d : Directive) (f : BinaryFormat) (verb : Char) (x : Binary) : Bool × String :=
  match x with
  | .finite neg sig exp =>
    let q : Rat := (sig : Rat) * pow2 exp
    let body := match verb with
      | 'b' => binaryText f sig exp
      | 'x' => hexFloatText f false d.prec sig exp
      | 'X' => hexFloatText f true d.prec sig exp
      | 'e' => scientificOf 'e' q (d.prec.getD 6)
      | 'E' => scientificOf 'E' q (d.prec.getD 6)
      | 'f' | 'F' => positionalOf q (d.prec.getD 6)
      | 'G' =>
        match d.prec with
        | some p => generalOf 'E' q p false
        | none => String.map Char.toUpper ((absBinary x).text f .general)
      | _ =>
        match d.prec with
        | some p => generalOf 'e' q p false
        | none => (absBinary x).text f .general
    (neg, if d.sharp ∧ verb ≠ 'b' then sharpen verb d.prec body else body)
  | _ => (false, x.specialText)

def formatFloat (d : Directive) (f : BinaryFormat) (verb : Char) (x : Binary) : String :=
  match x with
  | .nan => pad { d with zero := false } (if d.plus then "+NaN" else if d.space then " NaN" else "NaN")
  | .infinity neg =>
    pad { d with zero := false } (if neg then "-Inf" else if d.space ∧ !d.plus then " Inf" else "+Inf")
  | _ =>
    let (neg, body) := floatBody d f verb x
    padNumber { d with prec := none } (signOf d neg) body

def hexBytes (d : Directive) (upper : Bool) (bs : List UInt8) : String :=
  let one := fun (b : UInt8) =>
    let h := digitsIn 16 upper b.toNat
    (if h.length < 2 then "0" ++ h else h)
  let pfx := if d.sharp then (if upper then "0X" else "0x") else ""
  if d.space then " ".intercalate (bs.map fun b => pfx ++ one b)
  else pfx ++ String.join (bs.map one)

def formatText (d : Directive) (verb : Char) (s : String) : String :=
  let cut := match d.prec with
    | some p => Utf8.takeRunes p s
    | none => s
  match verb with
  | 'q' =>
    pad d (if d.sharp ∧ Quote.canBackquote cut then "\x60" ++ cut ++ "\x60"
      else if d.plus then Quote.asciiString cut else Quote.string cut)
  | 'x' => pad d (hexBytes d false (Utf8.bytesOf cut))
  | 'X' => pad d (hexBytes d true (Utf8.bytesOf cut))
  | _ => pad d cut

def intVerb (c : Char) : Bool := "bcdoOqxXUv".toList.contains c
def floatVerb (c : Char) : Bool := "beEfFgGxXv".toList.contains c

def textVerb (c : Char) : Bool := "svqxX".toList.contains c
def monthNames : List String :=
  ["January", "February", "March", "April", "May", "June", "July", "August", "September",
    "October", "November", "December"]

/-- A timestamp written as the call that makes it: date and time in its own offset, the zone
being UTC at offset zero and an unnamed location otherwise. -/
def timeSyntax (t : Timestamp) : String :=
  let month := if 1 ≤ t.month ∧ t.month ≤ 12 then "time." ++ monthNames.getD (t.month - 1) ""
    else toString t.month
  "time.Date(" ++ ", ".intercalate [toString t.year, month, toString t.day, toString t.hour,
    toString t.minute, toString t.second, toString t.nanos,
    if t.offset = 0 then "time.UTC" else "time.Location(\"\")"] ++ ")"

def hexLiteral (n : Nat) : String := "0x" ++ digitsIn 16 false n

mutual

/-- A value written as a literal of its type, for `#v`. At the top a missing value is
`<nil>`; inside a list or map it is a nil interface. -/
def literalOf (top : Bool) : Value → String
  | .null => if top then "<nil>" else "interface \x7b\x7d(nil)"
  | .bool b => if b then "true" else "false"
  | .int w n =>
    if w = .uint64 ∨ w = .uint8 then hexLiteral n.natAbs else toString n
  | .float64 x => x.text .double .general
  | .float32 x => x.text .single .general
  | .text s => Quote.string s
  | .numeral s => Quote.string s
  | .time t => timeSyntax t
  | .bytes bs =>
    (if top then "[]byte" else "[]uint8") ++ "\x7b" ++ ", ".intercalate (bs.map fun b => hexLiteral b.toNat) ++
      "\x7d"
  | .list xs => "[]interface \x7b\x7d\x7b" ++ ", ".intercalate (literalItems xs) ++ "\x7d"
  | .map fs =>
    "map[string]interface \x7b\x7d\x7b" ++ ", ".intercalate ((literalFields fs).foldr Value.insertByName []
      |>.map fun (k, v) => Quote.string k ++ ":" ++ v) ++ "\x7d"

def literalItems : List Value → List String
  | [] => []
  | x :: xs => literalOf false x :: literalItems xs

def literalFields : List (String × Value) → List (String × String)
  | [] => []
  | (k, v) :: fs => (k, literalOf false v) :: literalFields fs

end

/-- A timestamp under a verb that is not for texts, written as the record that holds it: the
nanoseconds, the seconds since the first of January of year 1 at UTC, and the location, which
is no location at UTC. Each field takes the verb as a number would, or is complained about. -/
def timeRecord (d : Directive) (verb : Char) (t : Timestamp) : String :=
  let ext : Int := Timestamp.daysFromCivil t.year t.month t.day * 86400 +
    ((t.hour * 3600 + t.minute * 60 + t.second : Nat) : Int) - t.offset + 62135596800
  let field := fun (v : Value) =>
    if intVerb verb then formatInt d verb (match v with | .int _ n => n | _ => 0)
    else "%!" ++ String.singleton verb ++ "(" ++ v.typeName ++ "=" ++ formatInt d 'v'
      (match v with | .int _ n => n | _ => 0) ++ ")"
  let loc :=
    if "bodxX".toList.contains verb then formatInt d verb 0
    else if verb = 'p' then formatInt { d with sharp := !d.sharp } 'x' 0
    else "%!" ++ String.singleton verb ++ "(*time.Location=" ++ pad d "<nil>" ++ ")"
  "\x7b" ++ field (.int .uint64 t.nanos) ++ " " ++ field (.int .int64 ext) ++ " " ++ loc ++ "\x7d"

/-- A value that does not fit a verb, written with `v` under the same flags, width and
precision. -/
def scalarText (d : Directive) : Value → String
  | .null => "<nil>"
  | .bool b => pad d (if b then "true" else "false")
  | .int _ n => formatInt d 'v' n
  | .float64 x => formatFloat d .double 'v' x
  | .float32 x => formatFloat d .single 'v' x
  | .text s | .numeral s => formatText d 'v' s
  | .time t => formatText d 'v' t.long
  | v => v.display

def complaint (d : Directive) (verb : Char) (v : Value) : String :=
  match v with
  | .null => "%!" ++ String.singleton verb ++ "(<nil>)"
  | _ => "%!" ++ String.singleton verb ++ "(" ++ v.typeName ++ "=" ++ scalarText d v ++ ")"

def keyText (d : Directive) (verb : Char) (k : String) : String :=
  if textVerb verb then formatText d verb k else complaint d verb (.text k)

mutual

def formatValue? (d : Directive) (verb : Char) : Value → Option String
  | .null => if verb = 'v' then some (pad d "<nil>") else none
  | .bool b => if verb = 't' ∨ verb = 'v' then some (pad d (if b then "true" else "false")) else none
  | .int .big n => some (formatBig d verb n)
  | .int _ n => if intVerb verb then some (formatInt d verb n) else none
  | .float64 x => if floatVerb verb then some (formatFloat d .double verb x) else none
  | .float32 x => if floatVerb verb then some (formatFloat d .single verb x) else none
  | .text s => if textVerb verb then some (formatText d verb s) else none
  | .numeral s => if textVerb verb then some (formatText d verb s) else none
  | .time t => some (if textVerb verb then formatText d verb t.long else timeRecord d verb t)
  | .bytes bs =>
    if verb = 's' ∨ verb = 'q' ∨ verb = 'x' ∨ verb = 'X' then
      some (formatText d verb (String.ofList (Utf8.decode bs)))
    else
      some ("[" ++ " ".intercalate (bs.map fun b =>
        if intVerb verb then formatInt d verb b.toNat else complaint d verb (.int .uint8 b.toNat)) ++ "]")
  | .list xs => some ("[" ++ " ".intercalate (formatItems d verb xs) ++ "]")
  | .map fs => some ("map[" ++ " ".intercalate ((formatFields d verb fs).foldr Value.insertByName []
      |>.map fun (k, v) => keyText d verb k ++ ":" ++ v) ++ "]")

def formatItems (d : Directive) (verb : Char) : List Value → List String
  | [] => []
  | .null :: xs => "<nil>" :: formatItems d verb xs
  | x :: xs => formatOrComplain d verb x :: formatItems d verb xs

/-- Formats the fields of a map, each value with the verb; a missing value is `<nil>` as it
is. -/
def formatFields (d : Directive) (verb : Char) : List (String × Value) → List (String × String)
  | [] => []
  | (k, .null) :: fs => (k, "<nil>") :: formatFields d verb fs
  | (k, v) :: fs => (k, formatOrComplain d verb v) :: formatFields d verb fs

def formatOrComplain (d : Directive) (verb : Char) (v : Value) : String :=
  match formatValue? d verb v with
  | some s => s
  | none => complaint d verb v

end

def formatArg (d : Directive) (verb : Char) (v : Value) : String :=
  if verb = 'T' then pad d v.typeName
  else if let .int .big n := v then formatBig d verb n
  else if verb = 'v' ∧ d.sharpV then
    match v with
    | .list _ | .map _ | .bytes _ => literalOf true v
    | _ => pad d (literalOf true v)
  else formatOrComplain d verb v

def describe (v : Value) : String :=
  match v with
  | .null => "<nil>"
  | _ => v.typeName ++ "=" ++ v.display
def readNumber (cs : List Char) : Option Nat × List Char :=
  let ds := cs.takeWhile Char.isDigit
  if ds.isEmpty then (none, cs)
  else (some (ds.foldl (fun n c => 10 * n + (c.toNat - '0'.toNat)) 0), cs.drop ds.length)

def readFlags (d : Directive) : List Char → Directive × List Char
  | '-' :: cs => readFlags { d with minus := true, zero := false } cs
  | '+' :: cs => readFlags { d with plus := true } cs
  | '#' :: cs => readFlags { d with sharp := true } cs
  | ' ' :: cs => readFlags { d with space := true } cs
  | '0' :: cs => readFlags { d with zero := !d.minus } cs
  | cs => (d, cs)
def countOf? : Value → Option Int
  | .int _ n => some n
  | _ => none

/-- A value index `[n]` at the front of a directive, counted from one. Without a bracket there
is none; otherwise it gives the number when the brackets hold only digits, and the characters
after the closing bracket, or after the opening one when there is no closing bracket or fewer
than three characters. -/
def readIndex : List Char → Option (Option Nat × List Char)
  | '[' :: rest =>
    if rest.length < 2 then some (none, rest)
    else
      match rest.idxOf? ']' with
      | none => some (none, rest)
      | some j =>
        let inner := rest.take j
        let number := if !inner.isEmpty ∧ inner.all Char.isDigit then (readNumber inner).1 else none
        some (number, rest.drop (j + 1))
  | _ => none

structure Progress where
  out : String
  next : Nat
  reordered : Bool := false

/-- The choice of value within one directive: whether every index read named a value, and
whether the last thing read was an index. -/
structure Choice where
  good : Bool := true
  afterIndex : Bool := false

/-- Reads a value index where one may stand: it moves the next value to the one it names, or
marks the choice bad when it names none. -/
def chooseValue (count : Nat) (cs : List Char) (p : Progress) (c : Choice) :
    List Char × Progress × Choice :=
  match readIndex cs with
  | none => (cs, p, { c with afterIndex := false })
  | some (n, rest) =>
    let p := { p with reordered := true }
    match n with
    | some k =>
      if 1 ≤ k ∧ k - 1 < count then (rest, { p with next := k - 1 }, { c with afterIndex := true })
      else (rest, p, { good := false, afterIndex := true })
    | none => (rest, p, { good := false, afterIndex := false })

def countFrom (args : List Value) (p : Progress) : Option Int × Progress :=
  match args[p.next]? with
  | none => (none, p)
  | some a =>
    let p := { p with next := p.next + 1 }
    match countOf? a with
    | some n => if n.natAbs > 1000000 then (none, p) else (some n, p)
    | none => (none, p)

/-- Formats the characters of a format text with its values; the fuel bounds the directives
read. -/
def run (args : List Value) (fuel : Nat) (cs : List Char) (p : Progress) : Progress :=
  match fuel with
  | 0 => p
  | fuel + 1 =>
    match cs with
    | [] => p
    | '%' :: rest =>
      let count := args.length
      let (d, rest) := readFlags {} rest
      let (rest, p, c) := chooseValue count rest p {}
      -- the width, from the text or a value
      let (d, rest, p, c) := match rest with
        | '*' :: r =>
          match countFrom args p with
          | (some n, p) =>
            if n < 0 then ({ d with width := some n.natAbs, minus := true, zero := false }, r, p,
              { c with afterIndex := false })
            else ({ d with width := some n.toNat }, r, p, { c with afterIndex := false })
          | (none, p) => (d, r, { p with out := p.out ++ "%!(BADWIDTH)" }, { c with afterIndex := false })
        | r =>
          let (w, r) := readNumber r
          ({ d with width := w }, r, p, if c.afterIndex ∧ w.isSome then { c with good := false } else c)
      -- the precision
      let (d, rest, p, c) := match rest with
        | '.' :: r@(_ :: _) =>
          let c := if c.afterIndex then { c with good := false } else c
          let (r, p, c) := chooseValue count r p c
          match r with
          | '*' :: r =>
            match countFrom args p with
            | (some n, p) =>
              if n < 0 then ({ d with prec := none }, r, { p with out := p.out ++ "%!(BADPREC)" },
                { c with afterIndex := false })
              else ({ d with prec := some n.toNat }, r, p, { c with afterIndex := false })
            | (none, p) => ({ d with prec := none }, r, { p with out := p.out ++ "%!(BADPREC)" },
                { c with afterIndex := false })
          | r =>
            let (n, r) := readNumber r
            ({ d with prec := some (n.getD 0) }, r, p, c)
        | r => (d, r, p, c)
      let (rest, p, c) := if c.afterIndex then (rest, p, c) else chooseValue count rest p c
      match rest with
      | [] => { p with out := p.out ++ "%!(NOVERB)" }
      | '%' :: r => run args fuel r { p with out := p.out ++ "%" }
      | verb :: r =>
        if !c.good then
          run args fuel r { p with out := p.out ++ "%!" ++ String.singleton verb ++ "(BADINDEX)" }
        else
          match args[p.next]? with
          | none => run args fuel r { p with out := p.out ++ "%!" ++ String.singleton verb ++ "(MISSING)" }
          | some a =>
            let d := if verb = 'v' then { d with sharpV := d.sharp, sharp := false, plusV := d.plus, plus := false }
              else d
            run args fuel r { p with out := p.out ++ formatArg d verb a, next := p.next + 1 }
    | c :: rest =>
      let lit := (c :: rest).takeWhile (· ≠ '%')
      run args fuel ((c :: rest).drop lit.length) { p with out := p.out ++ String.ofList lit }

/-- Formats values by a format text. Values no directive took are listed at the end, unless a
directive chose its value by index. -/
def format (fmt : String) (args : List Value) : String :=
  let p := run args (fmt.length + 1) fmt.toList ⟨"", 0, false⟩
  let extra := args.drop p.next
  if p.reordered ∨ extra.isEmpty then p.out
  else p.out ++ "%!(EXTRA " ++ ", ".intercalate (extra.map describe) ++ ")"

def isTextValue : Value → Bool
  | .text _ | .numeral _ => true
  | _ => false

def join (args : List Value) : String :=
  let rec go (prev : Option Value) : List Value → String
    | [] => ""
    | a :: rest =>
      let sep := match prev with
        | some b => if !isTextValue b ∧ !isTextValue a then " " else ""
        | none => ""
      sep ++ formatArg {} 'v' a ++ go (some a) rest
  go none args

end AccessPolicy.Printf
