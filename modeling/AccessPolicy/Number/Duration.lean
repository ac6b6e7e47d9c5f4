import AccessPolicy.Number.Binary
/-!
# Durations

A duration is a whole number of nanoseconds. Its text is the shortest of the form
`72h3m0.5s`: hours, minutes and seconds with a decimal fraction, leaving out leading zero units;
below one second it is written in the largest of `ms`, `µs` and `ns` that is at most its size
(`1.5ms`), and zero is `0s`.

A duration is read from a sequence of decimal numbers, each with a unit (`ns`, `us` or `µs`,
`ms`, `s`, `m`, `h`), with an optional sign in front: `1h30m`, `-1.5s`, `.5ms`. The lone text
`0` reads as zero. The fraction of a term is worked out in 64-bit floating point: its digits
(as many as keep their number within `2^63`) as a double, times the double nearest to the unit
over ten to the number of those digits, the product rounded to a double and cut off at whole
nanoseconds. So `0.3333333333333333m` is twenty seconds. A whole part, a term or the sum past
`2^63` nanoseconds, or a positive sum past `2^63 - 1`, does not read.
-/

namespace AccessPolicy.Duration

def second : Nat := 1000000000

/-- The digits of a fraction `v / 10^prec` after the point, trailing zeros left out; nothing
when it is zero. -/
def fractionText (v prec : Nat) : String :=
  let digits := (Nat.toDigits 10 (v % Nat.pow 10 prec))
  let padded := List.replicate (prec - digits.length) '0' ++ digits
  let trimmed := (padded.reverse.dropWhile (· == '0')).reverse
  if trimmed.isEmpty then "" else "." ++ String.ofList trimmed

def text (d : Int) : String :=
  let u := d.natAbs
  let sign := if d < 0 then "-" else ""
  if u = 0 then "0s"
  else if u < second then
    let (prec, unit) :=
      if u < 1000 then (0, "ns") else if u < 1000000 then (3, "µs") else (6, "ms")
    sign ++ toString (u / Nat.pow 10 prec) ++ fractionText u prec ++ unit
  else
    let secs := u / second
    let frac := fractionText u 9
    let s := toString (secs % 60) ++ frac ++ "s"
    let mins := secs / 60
    let hours := mins / 60
    if mins = 0 then sign ++ s
    else if hours = 0 then sign ++ toString (mins % 60) ++ "m" ++ s
    else sign ++ toString hours ++ "h" ++ toString (mins % 60) ++ "m" ++ s

def unitOf? (u : String) : Option Nat :=
  match u with
  | "ns" => some 1
  | "us" | "µs" | "μs" => some 1000
  | "ms" => some 1000000
  | "s" => some second
  | "m" => some (60 * second)
  | "h" => some (3600 * second)
  | _ => none

def numberChar (c : Char) : Bool := c == '.' || ('0' ≤ c && c ≤ '9')

def limit : Nat := Nat.pow 2 63

/-- A duration's text in quotes for a message: a quote or backslash escaped, and each byte of a
character that is not printable ASCII written `\x` and two hexadecimal digits. -/
def quote (s : String) : String :=
  let hex := "0123456789abcdef".toList
  let byteText := fun (b : UInt8) =>
    "\\x" ++ String.ofList [hex.getD (b.toNat / 16) '0', hex.getD (b.toNat % 16) '0']
  "\"" ++ String.join (s.toList.map fun c =>
    if c.toNat ≥ 0x80 ∨ c.toNat < 0x20 then
      String.join ((String.singleton c).toUTF8.toList.map byteText)
    else if c == '"' ∨ c == '\\' then "\\" ++ String.singleton c
    else String.singleton c) ++ "\""

def leadingWhole (ds : List Char) : Option Nat :=
  ds.foldlM (fun (x : Nat) (c : Char) =>
    if x > limit / 10 then none
    else
      let y := x * 10 + (c.toNat - '0'.toNat)
      if y > limit then none else some y) 0

/-- The leading digits of a fraction as they are kept: digits are taken while their number stays
within `2^63`, the rest passed over; gives that number and how many digits it has. -/
def leadingFraction (ds : List Char) : Nat × Nat :=
  let (x, count, _) := ds.foldl (fun (acc : Nat × Nat × Bool) (c : Char) =>
    let (x, count, overflowed) := acc
    if overflowed then acc
    else if x > (limit - 1) / 10 then (x, count, true)
    else
      let y := x * 10 + (c.toNat - '0'.toNat)
      if y > limit then (x, count, true) else (y, count + 1, false)) (0, 0, false)
  (x, count)

def nearestDouble (q : Rat) : Rat :=
  ((Binary.round .double false q).toRat?).getD 0

/-- The nanoseconds a fraction adds to a term of a unit: the fraction's kept digits as a double,
times the double nearest to the unit over ten to their number, rounded and cut off. -/
def fractionPart (digits : List Char) (scale : Nat) : Nat :=
  let (f, count) := leadingFraction digits
  if f = 0 then 0
  else
    let ratio := nearestDouble ((scale : Rat) / ((Nat.pow 10 count : Nat) : Rat))
    (nearestDouble (nearestDouble (f : Rat) * ratio)).floor.toNat

/-- Reads the numbers and units of a duration, adding them up; the error names the problem.
Each term takes at least one character, so `fuel` as long as the text is enough. -/
def readTerms (orig : String) : Nat → List Char → Nat → Except String Nat
  | _, [], total => .ok total
  | 0, _, _ => .error ("time: invalid duration " ++ quote orig)
  | fuel + 1, cs@(c :: _), total =>
    let invalid := "time: invalid duration " ++ quote orig
    if !numberChar c then .error invalid
    else
      let whole := cs.takeWhile fun c => '0' ≤ c && c ≤ '9'
      let rest := cs.drop whole.length
      let (fraction, rest) := match rest with
        | '.' :: more =>
          let f := more.takeWhile fun c => '0' ≤ c && c ≤ '9'
          (some f, more.drop f.length)
        | _ => (none, rest)
      match leadingWhole whole with
      | none => .error invalid
      | some v =>
        if whole.isEmpty && (fraction.getD []).isEmpty then .error invalid
        else
          let unit := rest.takeWhile fun c => !numberChar c
          let after := rest.drop unit.length
          if unit.isEmpty then .error ("time: missing unit in duration " ++ quote orig)
          else
            match unitOf? (String.ofList unit) with
            | none =>
              .error ("time: unknown unit " ++ quote (String.ofList unit) ++ " in duration " ++
                quote orig)
            | some scale =>
              if v > limit / scale then .error invalid
              else
                let part := v * scale + fractionPart (fraction.getD []) scale
                if part > limit || total + part > limit then .error invalid
                else readTerms orig fuel after (total + part)

def parse (s : String) : Except String Int :=
  let invalid := "time: invalid duration " ++ quote s
  let (neg, body) := match s.toList with
    | '-' :: rest => (true, rest)
    | '+' :: rest => (false, rest)
    | cs => (false, cs)
  if body == ['0'] then .ok 0
  else if body.isEmpty then .error invalid
  else do
    let total ← readTerms s (body.length + 1) body 0
    if neg then pure (-(total : Int))
    else if total > Nat.pow 2 63 - 1 then .error invalid
    else pure total

end AccessPolicy.Duration
