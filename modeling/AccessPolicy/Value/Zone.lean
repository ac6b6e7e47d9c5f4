import AccessPolicy.Value.ZoneData
import AccessPolicy.Value.Timestamp
/-!
# Time zones

A zone of the time zone database gives, for each moment, the local time in force: an offset
from UTC, an abbreviation and whether it is daylight saving time. It lists the moments at which
the local time changes, and a rule in the form of the POSIX `TZ` variable for the moments after
the last of them.

* **Before the first transition** the zone's first type of standard time is in force: when the
  first type is used by no transition, that one; otherwise, when the first transition goes to
  daylight saving time, the nearest type of standard time listed before the one it goes to;
  otherwise the first type of standard time listed.
* **From a transition on** its type is in force until the next one. From the last transition
  on, the rule decides, when there is one and it reads.
* **The rule** names standard time and its offset west of UTC, and may name daylight saving
  time, with its offset (one hour less west by default) and the moments it starts and ends in
  each year (by default the second Sunday of March and the first Sunday of November, at 2:00).
  A moment is a day (`Jn`, the `n`th day not counting February 29; `n`, counting from 0; or
  `Mm.w.d`, weekday `d` of week `w` of month `m`, week 5 being the last) and an optional time
  of day. The year is the year of the moment in UTC, counted from its first second in UTC; when
  daylight saving time ends before it starts in the year, as south of the equator, the two are
  swapped.

A name reads as a zone when it is a name of the database; a name with `..` in it or starting
with a slash never does.
-/

namespace AccessPolicy

/-- A type of local time: its offset east of UTC in seconds, whether it is daylight saving time,
and its abbreviation. -/
structure LocalType where
  offset : Int
  dst : Bool
  abbreviation : String
  deriving Repr, Inhabited, DecidableEq

/-- A zone: its types of local time, its transitions (each a moment in seconds since
1970-01-01T00:00:00Z and the type in force from it), in increasing order, and the rule for the
moments after the last transition. -/
structure Zone where
  types : List LocalType
  transitions : List (Int × Nat)
  rule : String
  deriving Repr, Inhabited

/-- The local time in force over a span of moments: its abbreviation, offset and kind, and the
span `[start, stop)` over which it is known to be in force. -/
structure Period where
  abbreviation : String
  offset : Int
  start : Int
  stop : Int
  dst : Bool
  deriving Repr, Inhabited

namespace Zone

def alpha : Int := -(Int.pow 2 63)

def omega : Int := Int.pow 2 63 - 1

def digitValue (c : Char) : Nat :=
  ZoneData.digits.toList.idxOf c

/-- Reads transitions: each a time in base 60, the first with a sign and the others counted from
the one before, followed by its type as an upper-case letter. -/
def readTransitions : List Char → Option Int → Bool → Nat → List (Int × Nat) → List (Int × Nat)
  | [], _, _, _, acc => acc.reverse
  | c :: cs, prev, neg, n, acc =>
    if c = '-' then readTransitions cs prev true n acc
    else if 'A' ≤ c ∧ c ≤ 'Z' then
      let v : Int := if neg then -(n : Int) else n
      let t := match prev with
        | some p => p + v
        | none => v
      readTransitions cs (some t) false 0 ((t, c.toNat - 'A'.toNat) :: acc)
    else readTransitions cs prev neg (n * 60 + digitValue c) acc

/-- A type as written out: a single letter names one of `ZoneData.sharedTypes`. -/
def typeText (s : String) : String :=
  match s.toList with
  | [c] =>
    let i := if c.isUpper then c.toNat - 'A'.toNat else c.toNat - 'a'.toNat + 26
    (ZoneData.sharedTypes[i]?).getD s
  | _ => s

def readType (s : String) : Option LocalType :=
  match (typeText s).splitOn "," with
  | [off, dst, abbreviation] => do
    let offset ← off.toInt?
    pure ⟨offset, dst == "1", abbreviation⟩
  | _ => none

def pieces (cs : List Char) : List (List Char) :=
  let (done, current) := cs.foldl (fun (acc : List (List Char) × List Char) c =>
    if c.isUpper then (acc.1 ++ [acc.2 ++ [c]], []) else (acc.1, acc.2 ++ [c])) ([], [])
  if current.isEmpty then done else done ++ [current]

/-- The transitions of a zone written as the pieces they are: each character of the order names
a piece by its place in `ZoneData.pieceNames`. -/
def unpack (pieceText order : String) : Option (List Char) :=
  let ps := pieces pieceText.toList
  (order.toList.mapM fun c => ps[ZoneData.pieceNames.idxOf c]?).map List.flatten

def read? (line : String) : Option Zone :=
  match line.splitOn "|" with
  | [types, pieceText, order, rule] => do
    let types ← (types.splitOn ";").mapM readType
    let transitions ← unpack pieceText order
    pure ⟨types, readTransitions transitions none false 0 [], rule⟩
  | _ => none

def hasDotDot : List Char → Bool
  | '.' :: '.' :: _ => true
  | _ :: rest => hasDotDot rest
  | [] => false

def named? (name : String) : Option Zone := do
  if name.isEmpty || hasDotDot name.toList || name.startsWith "/" || name.startsWith "\\" then none
  let entry ← ZoneData.names.find? (·.startsWith (name ++ " "))
  let index ← (String.ofList (entry.toList.drop (name.length + 1))).toNat?
  let record ← ZoneData.zones[index]?
  read? record

def steps (z : Zone) : List (Int × Nat) :=
  if z.transitions.isEmpty then [(alpha, 0)] else z.transitions

def firstType (z : Zone) : Nat :=
  let std := fun (i : Nat) => match z.types[i]? with
    | some t => !t.dst
    | none => false
  if !(z.transitions.any (·.2 == 0)) then 0
  else
    let fromFirst : Option Nat := match z.transitions.head? with
      | some (_, i) =>
        if !(std i) && i < z.types.length then
          ((List.range i).reverse.find? std)
        else none
      | none => none
    match fromFirst with
    | some i => i
    | none => ((List.range z.types.length).find? std).getD 0

/-! ## Rules -/

/-- A day of a rule: the `n`th day not counting February 29, the `n`th day counting from 0,
or weekday `d` of week `w` of month `m`. -/
inductive RuleDay where
  | julian (n : Nat)
  | ordinal (n : Nat)
  | weekday (m w d : Nat)
  deriving Repr, Inhabited
structure RuleMoment where
  day : RuleDay
  time : Int
  deriving Repr, Inhabited

def ruleNumber (lo hi : Nat) (cs : List Char) : Option (Nat × List Char) :=
  let digits := cs.takeWhile Char.isDigit
  if digits.isEmpty then none
  else
    -- digits are read while the value stays within `hi`
    let (value, count) := digits.foldl (fun (acc : Nat × Nat) d =>
      if acc.1 > hi then acc else (acc.1 * 10 + (d.toNat - '0'.toNat), acc.2 + 1)) (0, 0)
    if value > hi || value < lo || count < digits.length then none
    else some (value, cs.drop digits.length)

def ruleOffset (cs : List Char) : Option (Int × List Char) := do
  let (neg, cs) := match cs with
    | '+' :: r => (false, r)
    | '-' :: r => (true, r)
    | r => (false, r)
  let (h, cs) ← ruleNumber 0 (24 * 7) cs
  let (m, cs) ← match cs with
    | ':' :: r => ruleNumber 0 59 r
    | r => some (0, r)
  let (s, cs) ← match cs with
    | ':' :: r => ruleNumber 0 59 r
    | r => some (0, r)
  let v : Int := (h * 3600 + m * 60 + s : Nat)
  pure (if neg then -v else v, cs)

/-- A name of a rule: three or more characters up to a digit, a sign or a comma, or any between
`<` and `>`. -/
def ruleName (cs : List Char) : Option (String × List Char) :=
  match cs with
  | [] => none
  | '<' :: rest =>
    let name := rest.takeWhile (· ≠ '>')
    match rest.drop name.length with
    | '>' :: after => some (String.ofList name, after)
    | _ => none
  | _ =>
    let name := cs.takeWhile fun c => !(c.isDigit || c = ',' || c = '-' || c = '+')
    if name.length < 3 then none else some (String.ofList name, cs.drop name.length)

def ruleMoment (cs : List Char) : Option (RuleMoment × List Char) := do
  let (day, cs) ← match cs with
    | 'J' :: r => do let (n, r) ← ruleNumber 1 365 r; pure (RuleDay.julian n, r)
    | 'M' :: r => do
      let (m, r) ← ruleNumber 1 12 r
      let r ← match r with
        | '.' :: r => some r
        | _ => none
      let (w, r) ← ruleNumber 1 5 r
      let r ← match r with
        | '.' :: r => some r
        | _ => none
      let (d, r) ← ruleNumber 0 6 r
      pure (RuleDay.weekday m w d, r)
    | r => do let (n, r) ← ruleNumber 0 365 r; pure (RuleDay.ordinal n, r)
  match cs with
  | '/' :: r => do let (t, r) ← ruleOffset r; pure (⟨day, t⟩, r)
  | r => pure (⟨day, 7200⟩, r)

def leap (y : Int) : Bool := y % 4 = 0 && (y % 100 ≠ 0 || y % 400 = 0)

def daysBefore : List Nat := [0, 31, 59, 90, 120, 151, 181, 212, 243, 273, 304, 334, 365]

def monthDays (m : Nat) (y : Int) : Nat :=
  if m = 2 && leap y then 29 else daysBefore.getD m 0 - daysBefore.getD (m - 1) 0

def momentSeconds (year : Int) (r : RuleMoment) (off : Int) : Int :=
  let s : Int := match r.day with
    | .julian n => ((n : Int) - 1) * 86400 + (if leap year && n ≥ 60 then 86400 else 0)
    | .ordinal n => (n : Int) * 86400
    | .weekday m w d =>
      let m1 : Int := ((m : Int) + 9) % 12 + 1
      let yy0 := if m ≤ 2 then year - 1 else year
      let yy1 := yy0.tdiv 100
      let yy2 := yy0.tmod 100
      let dow := ((26 * m1 - 2).tdiv 10 + 1 + yy2 + yy2.tdiv 4 + yy1.tdiv 4 - 2 * yy1).tmod 7
      let dow := if dow < 0 then dow + 7 else dow
      let d0 := (d : Int) - dow
      let d0 := if d0 < 0 then d0 + 7 else d0
      let d1 := (List.range (w - 1)).foldl (fun (acc : Int × Bool) _ =>
        if acc.2 then acc
        else if acc.1 + 7 ≥ monthDays m year then (acc.1, true) else (acc.1 + 7, false)) (d0, false)
      let dd := d1.1 + daysBefore.getD (m - 1) 0 + (if leap year && m > 2 then 1 else 0)
      dd * 86400
  s + r.time - off

/-- The local time a rule puts in force at a moment after the last transition, at `lastTx`; none
when the rule does not read. -/
def ruleAt (rule : String) (lastTx sec : Int) : Option Period := do
  let (stdName, cs) ← ruleName rule.toList
  let (stdOff, cs) ← ruleOffset cs
  let stdOff := -stdOff
  if cs.isEmpty || cs.head? == some ',' then
    return ⟨stdName, stdOff, lastTx, omega, false⟩
  let (dstName, cs) ← ruleName cs
  let (dstOff, cs) ← if cs.isEmpty || cs.head? == some ',' then some (stdOff + 3600, cs)
    else do let (o, r) ← ruleOffset cs; pure (-o, r)
  let cs := if cs.isEmpty then ",M3.2.0,M11.1.0".toList else cs
  let cs ← match cs with
    | ',' :: r | ';' :: r => some r
    | _ => none
  let (startRule, cs) ← ruleMoment cs
  let cs ← match cs with
    | ',' :: r => some r
    | _ => none
  let (endRule, cs) ← ruleMoment cs
  if !cs.isEmpty then none
  let t := Timestamp.ofUnixNanos (sec * 1000000000)
  let year : Int := t.year
  let yday := Timestamp.daysFromCivil t.year t.month t.day - Timestamp.daysFromCivil t.year 1 1 + 1
  let ysec := (yday - 1) * 86400 + sec.tmod 86400
  let ystart := sec - ysec
  let startSec := momentSeconds year startRule stdOff
  let endSec := momentSeconds year endRule dstOff
  let (startSec, endSec, stdName, dstName, stdOff, dstOff, stdDst, dstDst) :=
    if endSec < startSec then (endSec, startSec, dstName, stdName, dstOff, stdOff, true, false)
    else (startSec, endSec, stdName, dstName, stdOff, dstOff, false, true)
  if ysec < startSec then
    return ⟨stdName, stdOff, ystart, startSec + ystart, stdDst⟩
  else if ysec ≥ endSec then
    return ⟨stdName, stdOff, endSec + ystart, ystart + 365 * 86400, stdDst⟩
  else
    return ⟨dstName, dstOff, startSec + ystart, endSec + ystart, dstDst⟩

/-! ## Lookup -/

def lookup (z : Zone) (sec : Int) : Period :=
  let tx := z.steps
  let typeAt := fun (i : Nat) => z.types.getD i ⟨0, false, "UTC"⟩
  match tx.head? with
  | none => ⟨"UTC", 0, alpha, omega, false⟩
  | some (first, _) =>
    if sec < first then
      let t := typeAt z.firstType
      ⟨t.abbreviation, t.offset, alpha, first, t.dst⟩
    else
      let before := tx.filter (·.1 ≤ sec)
      let after := tx.drop before.length
      let (start, i) := before.getLastD (first, 0)
      let stop := match after.head? with
        | some (t, _) => t
        | none => omega
      let t := typeAt i
      let here : Period := ⟨t.abbreviation, t.offset, start, stop, t.dst⟩
      if after.isEmpty && !z.rule.isEmpty then (ruleAt z.rule start sec).getD here else here

/-- The moment at which a local time, in seconds since 1970-01-01T00:00:00 local time, stands:
the offset in force at the moment taken as UTC is tried first, and when the moment it gives
falls outside that offset's span, the offset in force there is used. -/
def toUnix (z : Zone) (localSec : Int) : Int :=
  let p := z.lookup localSec
  if p.offset = 0 then localSec
  else
    let utc := localSec - p.offset
    let off := if utc < p.start || utc ≥ p.stop then (z.lookup utc).offset else p.offset
    localSec - off

end Zone

/-- The local time of a count of nanoseconds since 1970-01-01T00:00:00Z in a zone, UTC when
there is none. -/
def Timestamp.inZone (ns : Int) : Option Zone → Timestamp
  | none => Timestamp.ofUnixNanos ns
  | some z =>
    let p := z.lookup (ns / 1000000000)
    { Timestamp.ofUnixNanos (ns + p.offset * 1000000000) with
      offset := p.offset, abbreviation := p.abbreviation }

end AccessPolicy
