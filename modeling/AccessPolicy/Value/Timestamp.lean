import AccessPolicy.Number.Decimal
/-!
# Timestamps

A timestamp of a row is a civil date and time together with the offset from UTC it was written
in. Nothing here converts between offsets: a timestamp is always shown in its own offset.

Timestamps are read from the RFC 3339 form `YYYY-MM-DDTHH:MM:SS[.fraction](Z|±HH:MM)`, the
hour of one or two digits, the fraction having any number of digits of which the first nine
count, and an offset of up to 24 hours and 60 minutes taken as written. They are shown as RFC 3339
(`2023-07-08T09:10:11+02:00`, seconds whole), RFC 3339 with the fraction's significant digits
(`2023-07-08T09:10:11.5+02:00`), a bare date (`2023-07-08`), or the long form
`2023-07-08 09:10:11.5 +0200 +0200` whose last field names the zone: `UTC` at offset zero,
the offset again otherwise.
-/

namespace AccessPolicy
structure Timestamp where
  year : Nat
  month : Nat
  day : Nat
  hour : Nat
  minute : Nat
  second : Nat
  nanos : Nat
  offset : Int
  abbreviation : String := "UTC"
  deriving Repr, DecidableEq, Inhabited

namespace Timestamp

def leapYear (y : Nat) : Bool :=
  y % 4 = 0 ∧ (y % 100 ≠ 0 ∨ y % 400 = 0)

def daysIn (year month : Nat) : Nat :=
  if month = 2 then (if leapYear year then 29 else 28)
  else if month = 4 ∨ month = 6 ∨ month = 9 ∨ month = 11 then 30
  else 31

def fixedDigits (n : Nat) (cs : List Char) : Option (Nat × List Char) :=
  if (cs.take n).length = n then (readDigits? (cs.take n)).map (·, cs.drop n) else none

def readFraction (cs : List Char) : Nat × List Char :=
  let ds := cs.takeWhile (fun c => '0' ≤ c ∧ c ≤ '9')
  let nine := (ds.take 9) ++ List.replicate (9 - ds.length) '0'
  ((readDigits? nine).getD 0, cs.drop ds.length)

/-- Reads the zone: `Z`, or a sign with two-digit hours and minutes; an offset of up to 24
hours and 60 minutes is taken as written. -/
def readZone (cs : List Char) : Option Int :=
  match cs with
  | ['Z'] => some 0
  | s :: rest =>
    if s = '+' ∨ s = '-' then
      match fixedDigits 2 rest with
      | some (h, ':' :: rest') =>
        match fixedDigits 2 rest' with
        | some (m, []) =>
          if h ≤ 24 ∧ m ≤ 60 then
            let secs : Int := ((h * 60 + m) * 60 : Nat)
            some (if s = '-' then -secs else secs)
          else none
        | _ => none
      | _ => none
    else none
  | [] => none

def shortDigits (cs : List Char) : Option (Nat × List Char) :=
  match fixedDigits 2 cs with
  | some r => some r
  | none => fixedDigits 1 cs

/-- Reads an RFC 3339 timestamp `YYYY-MM-DDTHH:MM:SS[.fraction](Z|±HH:MM)`. The hour may
have one digit, every other field has its fixed width; the fraction has any number of digits
after a point or a comma. -/
def read? (s : String) : Option Timestamp := do
  let cs := s.toList
  let (year, cs) ← fixedDigits 4 cs
  let cs ← match cs with | '-' :: r => some r | _ => none
  let (month, cs) ← fixedDigits 2 cs
  let cs ← match cs with | '-' :: r => some r | _ => none
  let (day, cs) ← fixedDigits 2 cs
  let cs ← match cs with | 'T' :: r => some r | _ => none
  let (hour, cs) ← shortDigits cs
  let cs ← match cs with | ':' :: r => some r | _ => none
  let (minute, cs) ← fixedDigits 2 cs
  let cs ← match cs with | ':' :: r => some r | _ => none
  let (second, cs) ← fixedDigits 2 cs
  let (nanos, cs) := match cs with
    | p :: d :: r => if (p = '.' ∨ p = ',') ∧ '0' ≤ d ∧ d ≤ '9' then readFraction (d :: r) else (0, cs)
    | _ => (0, cs)
  let offset ← readZone cs
  if 1 ≤ month ∧ month ≤ 12 ∧ 1 ≤ day ∧ day ≤ daysIn year month ∧ hour < 24 ∧ minute < 60 ∧
      second < 60 then
    some { year, month, day, hour, minute, second, nanos, offset }
  else none

def pad (width n : Nat) : String :=
  let ds := Nat.toDigits 10 n
  String.ofList (List.replicate (width - ds.length) '0' ++ ds)

def date (t : Timestamp) : String :=
  pad 4 t.year ++ "-" ++ pad 2 t.month ++ "-" ++ pad 2 t.day

def clock (t : Timestamp) : String :=
  pad 2 t.hour ++ ":" ++ pad 2 t.minute ++ ":" ++ pad 2 t.second

/-- The significant digits of the fraction of a second, after a point; empty for a whole
second. -/
def fraction (t : Timestamp) : String :=
  if t.nanos = 0 then ""
  else "." ++ String.ofList (((Nat.toDigits 10 t.nanos).reverse.dropWhile (· = '0')).reverse |>
    fun ds => List.replicate (9 - (Nat.toDigits 10 t.nanos).length) '0' ++ ds)

def offsetText (sep : String) (t : Timestamp) : String :=
  let m := t.offset.natAbs / 60
  (if t.offset < 0 then "-" else "+") ++ pad 2 (m / 60) ++ sep ++ pad 2 (m % 60)

def zone (t : Timestamp) : String :=
  if t.offset = 0 then "Z" else offsetText ":" t

def rfc3339 (t : Timestamp) : String :=
  t.date ++ "T" ++ t.clock ++ t.zone

def rfc3339Nano (t : Timestamp) : String :=
  t.date ++ "T" ++ t.clock ++ t.fraction ++ t.zone

/-- The UTC time a count of nanoseconds since 1970-01-01T00:00:00Z names. Days are counted
in eras of 400 years, 146097 days each, whose years start on the first of March, so that the
leap day ends a year; the months then follow a fixed pattern of 153 days per five months. -/
def ofUnixNanos (n : Int) : Timestamp :=
  let secs := n / 1000000000
  let rest := (secs % 86400).toNat
  let z := secs / 86400 + 719468
  let era := z / 146097
  let doe := z - era * 146097
  let yoe := (doe - doe / 1460 + doe / 36524 - doe / 146096) / 365
  let doy := doe - (365 * yoe + yoe / 4 - yoe / 100)
  let mp := (5 * doy + 2) / 153
  let day := doy - (153 * mp + 2) / 5 + 1
  let month := if mp < 10 then mp + 3 else mp - 9
  let year := yoe + era * 400 + (if month ≤ 2 then 1 else 0)
  { year := year.toNat, month := month.toNat, day := day.toNat, hour := rest / 3600,
    minute := rest % 3600 / 60, second := rest % 60, nanos := (n % 1000000000).toNat, offset := 0 }

/-- The number of days from 1970-01-01 to a date of the Gregorian calendar, counted in the
eras of 400 years that `ofUnixNanos` counts back in. -/
def daysFromCivil (year : Int) (month day : Nat) : Int :=
  let y := if month ≤ 2 then year - 1 else year
  let era := y / 400
  let yoe := y - era * 400
  let mp : Int := if month > 2 then (month : Int) - 3 else (month : Int) + 9
  let doy := (153 * mp + 2) / 5 + (day : Int) - 1
  let doe := yoe * 365 + yoe / 4 - yoe / 100 + doy
  era * 146097 + doe - 719468

/-- The nanoseconds since 1970-01-01T00:00:00Z at which a timestamp stands, its offset taken
into account. -/
def unixNanos (t : Timestamp) : Int :=
  let secs := daysFromCivil t.year t.month t.day * 86400 +
    ((t.hour * 3600 + t.minute * 60 + t.second : Nat) : Int) - t.offset
  secs * 1000000000 + t.nanos

def weekdayOfDays (days : Int) : Nat := ((days + 4) % 7).toNat

def long (t : Timestamp) : String :=
  t.date ++ " " ++ t.clock ++ t.fraction ++ " " ++ offsetText "" t ++ " " ++
    (if t.offset = 0 then "UTC" else offsetText "" t)

end Timestamp

end AccessPolicy
