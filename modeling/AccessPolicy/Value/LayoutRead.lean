import AccessPolicy.Value.Layout
/-!
# Times read by a reference layout

A layout is read against a text field by field, the fields found as `Timestamp.format` finds
them. The text between two fields must be the same as in the layout, except that a run of
spaces in the layout matches any run of spaces, or none at the end of the text. After the last
field the text must end.

Each field takes what it can:
* numbers of one or two digits, or exactly two for the zero-padded fields, and of one to three
  digits for the day of the year (exactly three when zero-padded); a space-padded field may
  start with its spaces;
* names of months and days of the week in any case, the day of the week only checked;
* `AM`/`PM` (or `am`/`pm`) in the case of the layout;
* offsets in the shape of the layout, with `Z` for zero where the layout has `Z`; hours up to
  24 and minutes and seconds up to 60 are taken as written;
* a zone name: `UTC`, or three to five upper-case letters (four or five ending in `T`), `ChST`,
  `MeST`, `WITA`, `GMT` with an optional signed hour, or a signed hour alone;
* a fraction after a point or a comma: exactly as many digits as the layout has `0`s, or any
  number of digits, or none, for `9`s. A fraction after the seconds is taken even when the
  layout has none, unless the layout's next field is a fraction.

Missing fields are the first of January of year zero at midnight. The day of the year, when
read, gives the month and day, and must agree with them when those are read too. The day must
exist in its month. A named zone other than `UTC` counts as offset zero: there is no zone
database, and a named zone whose offset is unknown is taken at offset zero. An offset read as
exactly one second west of UTC is the value that stands for "no offset read" and so counts as
zero as well.
-/

namespace AccessPolicy

namespace Timestamp

def nextChunk : List Char → List Char × Option (LayoutField × List Char)
  | [] => ([], none)
  | c :: cs =>
    match LayoutField.atHead (c :: cs) with
    | some (some f, rest) => ([], some (f, rest))
    | _ =>
      let (text, field) := nextChunk cs
      (c :: text, field)
def digitAt (cs : List Char) (i : Nat) : Bool :=
  match cs[i]? with
  | some c => '0' ≤ c && c ≤ '9'
  | none => false

def digitValue (c : Char) : Nat := c.toNat - '0'.toNat

def signedNumber? (cs : List Char) : Option Int :=
  let (neg, ds) := match cs with
    | '-' :: r => (true, r)
    | '+' :: r => (false, r)
    | r => (false, r)
  if ds.all fun c => '0' ≤ c && c ≤ '9' then
    let n : Int := ds.foldl (fun n c => n * 10 + digitValue c) 0
    some (if neg then -n else n)
  else none

def twoDigits? (cs : List Char) (fixed : Bool) : Option (Nat × List Char) :=
  match cs with
  | a :: rest =>
    if !digitAt cs 0 then none
    else if !digitAt cs 1 then (if fixed then none else some (digitValue a, rest))
    else
      match rest with
      | b :: rest' => some (digitValue a * 10 + digitValue b, rest')
      | [] => none
  | [] => none

def threeDigits? (cs : List Char) (fixed : Bool) : Option (Nat × List Char) :=
  let ds := (cs.take 3).takeWhile fun c => '0' ≤ c && c ≤ '9'
  if ds.isEmpty || (fixed && ds.length ≠ 3) then none
  else some (ds.foldl (fun n c => n * 10 + digitValue c) 0, cs.drop ds.length)

def sameUpToCase (a b : List Char) : Bool :=
  (a.zip b).all fun (x, y) =>
    x == y ||
      (let lx := x.toNat ||| 0x20
       let ly := y.toNat ||| 0x20
       lx == ly && 'a'.toNat ≤ lx && lx ≤ 'z'.toNat)

/-- The first name of a table that the text starts with, in any case: its place and what
follows it. -/
def lookupName (names : List String) (cs : List Char) : Option (Nat × List Char) :=
  names.zipIdx.findSome? fun (name, i) =>
    let n := name.toList
    if cs.length ≥ n.length && sameUpToCase (cs.take n.length) n then some (i, cs.drop n.length)
    else none

def dropSpaces (cs : List Char) : List Char := cs.dropWhile (· = ' ')

/-- The text with the layout's text before a field taken off its head; a run of spaces in the
layout takes any run of spaces of the text. -/
def skipText : List Char → List Char → Option (List Char)
  | [], v => some v
  | ' ' :: p, v =>
    match v with
    | c :: _ => if c ≠ ' ' then none else skipText (dropSpaces p) (dropSpaces v)
    | [] => skipText (dropSpaces p) []
  | c :: p, v =>
    match v with
    | d :: v' => if c = d then skipText p v' else none
    | [] => none
termination_by p => p.length
decreasing_by
  all_goals simp only [dropSpaces, List.length_cons]
  all_goals
    have := (List.dropWhile_suffix (fun c : Char => decide (c = ' ')) (l := p)).length_le
    omega

/-- Nanoseconds from a separator and the digits after it, `width` characters in all of which
the first ten count. -/
def nanosOf (cs : List Char) (width : Nat) : Option Nat :=
  match cs with
  | sep :: _ =>
    if sep ≠ '.' ∧ sep ≠ ',' then none
    else
      let width := min width 10
      match signedNumber? ((cs.take width).drop 1) with
      | some n => if n < 0 then none else some (n.toNat * Nat.pow 10 (10 - width))
      | none => none
  | [] => none

def signedHourLength (cs : List Char) : Nat :=
  match cs with
  | s :: rest =>
    if s ≠ '+' ∧ s ≠ '-' then 0
    else
      let ds := rest.takeWhile fun c => '0' ≤ c && c ≤ '9'
      if ds.isEmpty then 0
      else if ds.foldl (fun n c => n * 10 + digitValue c) 0 > 23 then 0
      else ds.length + 1
  | [] => 0

def zoneNameLength (cs : List Char) : Option Nat :=
  if cs.length < 3 then none
  else if cs.take 4 = "ChST".toList ∨ cs.take 4 = "MeST".toList then some 4
  else if cs.take 3 = "GMT".toList then some (3 + signedHourLength (cs.drop 3))
  else if cs.head? = some '+' ∨ cs.head? = some '-' then
    let n := signedHourLength cs
    if n > 0 then some n else none
  else
    let upper := ((cs.take 6).takeWhile fun c => 'A' ≤ c && c ≤ 'Z').length
    if upper = 3 then some 3
    else if upper = 4 ∧ (cs[3]? = some 'T' ∨ cs.take 4 = "WITA".toList) then some 4
    else if upper = 5 ∧ cs[4]? = some 'T' then some 5
    else none

/-- What has been read of a time. The month, day and day of the year are `-1` until read; the
offset is `-1` until read, so that an offset of one second west reads as none. -/
structure Reading where
  year : Int := 0
  month : Int := -1
  day : Int := -1
  yearDay : Int := -1
  hour : Nat := 0
  minute : Nat := 0
  second : Nat := 0
  nanos : Nat := 0
  utc : Bool := false
  offset : Int := -1
  am : Bool := false
  pm : Bool := false
  deriving Repr, Inhabited

/-- Reads an offset in the shape of a layout field: a sign, then two-digit hours, minutes and
seconds as the field has them. -/
def readOffset (colon : Bool) (parts : Nat) (cs : List Char) : Option (Int × List Char) := do
  let (sign, h, m, s, rest) ← match colon, parts with
    | true, 3 =>
      if cs.length < 9 ∨ cs[3]? ≠ some ':' ∨ cs[6]? ≠ some ':' then none
      else some (cs.take 1, (cs.drop 1).take 2, (cs.drop 4).take 2, (cs.drop 7).take 2, cs.drop 9)
    | true, _ =>
      if cs.length < 6 ∨ cs[3]? ≠ some ':' then none
      else some (cs.take 1, (cs.drop 1).take 2, (cs.drop 4).take 2, ['0', '0'], cs.drop 6)
    | false, 1 =>
      if cs.length < 3 then none
      else some (cs.take 1, (cs.drop 1).take 2, ['0', '0'], ['0', '0'], cs.drop 3)
    | false, 3 =>
      if cs.length < 7 then none
      else some (cs.take 1, (cs.drop 1).take 2, (cs.drop 3).take 2, (cs.drop 5).take 2, cs.drop 7)
    | false, _ =>
      if cs.length < 5 then none
      else some (cs.take 1, (cs.drop 1).take 2, (cs.drop 3).take 2, ['0', '0'], cs.drop 5)
  let (hr, _) ← twoDigits? h true
  let (mm, _) ← twoDigits? m true
  let (ss, _) ← twoDigits? s true
  if hr > 24 ∨ mm > 60 ∨ ss > 60 then none
  let secs : Int := ((hr * 60 + mm) * 60 + ss : Nat)
  match sign with
  | ['+'] => some (secs, rest)
  | ['-'] => some (-secs, rest)
  | _ => none

def boundedDigits? (v : List Char) (fixed : Bool) (limit : Nat) : Option (Nat × List Char) := do
  let (n, rest) ← twoDigits? v fixed
  if n < limit then some (n, rest) else none

/-- The fraction a text has after the seconds when the layout has no fraction next: the
nanoseconds and what follows, or none when no fraction starts there. -/
def trailingFraction (after v : List Char) : Option (Option (Nat × List Char)) :=
  match v with
  | sep :: d :: _ =>
    let nextIsFraction := match (nextChunk after).2 with
      | some (.fraction .., _) => true
      | _ => false
    if (sep = '.' ∨ sep = ',') ∧ '0' ≤ d ∧ d ≤ '9' ∧ !nextIsFraction then
      let n := 1 + ((v.drop 1).takeWhile fun c => '0' ≤ c && c ≤ '9').length
      some ((nanosOf v n).map (·, v.drop n))
    else none
  | _ => none

def readSeconds (r : Reading) (after v : List Char) (fixed : Bool) :
    Option (Reading × List Char) := do
  let (s, rest) ← boundedDigits? v fixed 60
  let r := { r with second := s }
  match trailingFraction after rest with
  | some found => found.map fun (ns, rest') => ({ r with nanos := ns }, rest')
  | none => some (r, rest)

def readField (r : Reading) (after : List Char) (v : List Char) :
    LayoutField → Option (Reading × List Char)
  | .shortYear => do
    if v.length < 2 then none
    let y ← signedNumber? (v.take 2)
    some ({ r with year := if y ≥ 69 then y + 1900 else y + 2000 }, v.drop 2)
  | .longYear => do
    if v.length < 4 ∨ !digitAt v 0 then none
    let y ← signedNumber? (v.take 4)
    some ({ r with year := y }, v.drop 4)
  | .shortMonth =>
    (lookupName (monthNames.map fun m => String.ofList (m.toList.take 3)) v).map fun (i, rest) =>
      ({ r with month := i + 1 }, rest)
  | .longMonth => (lookupName monthNames v).map fun (i, rest) => ({ r with month := i + 1 }, rest)
  | .numMonth => (boundedDigits? v false 13).bind fun (m, rest) =>
    if m = 0 then none else some ({ r with month := m }, rest)
  | .zeroMonth => (boundedDigits? v true 13).bind fun (m, rest) =>
    if m = 0 then none else some ({ r with month := m }, rest)
  | .shortWeekday =>
    (lookupName (weekdayNames.map fun d => String.ofList (d.toList.take 3)) v).map fun (_, rest) =>
      (r, rest)
  | .longWeekday => (lookupName weekdayNames v).map fun (_, rest) => (r, rest)
  | .day => (twoDigits? v false).map fun (d, rest) => ({ r with day := d }, rest)
  | .underDay =>
    let v := match v with | ' ' :: w => w | w => w
    (twoDigits? v false).map fun (d, rest) => ({ r with day := d }, rest)
  | .zeroDay => (twoDigits? v true).map fun (d, rest) => ({ r with day := d }, rest)
  | .underYearDay =>
    let v := match v with | ' ' :: ' ' :: w => w | ' ' :: w => w | w => w
    (threeDigits? v false).map fun (d, rest) => ({ r with yearDay := d }, rest)
  | .zeroYearDay => (threeDigits? v true).map fun (d, rest) => ({ r with yearDay := d }, rest)
  | .hour => (boundedDigits? v false 24).map fun (h, rest) => ({ r with hour := h }, rest)
  | .hour12 => (boundedDigits? v false 13).map fun (h, rest) => ({ r with hour := h }, rest)
  | .zeroHour12 => (boundedDigits? v true 13).map fun (h, rest) => ({ r with hour := h }, rest)
  | .minute => (boundedDigits? v false 60).map fun (m, rest) => ({ r with minute := m }, rest)
  | .zeroMinute => (boundedDigits? v true 60).map fun (m, rest) => ({ r with minute := m }, rest)
  | .second => readSeconds r after v false
  | .zeroSecond => readSeconds r after v true
  | .half upper => do
    if v.length < 2 then none
    let p := v.take 2
    let (pm, am) := if upper then ("PM".toList, "AM".toList) else ("pm".toList, "am".toList)
    if p = pm then some ({ r with pm := true }, v.drop 2)
    else if p = am then some ({ r with am := true }, v.drop 2)
    else none
  | .zoneName =>
    if v.take 3 = "UTC".toList then some ({ r with utc := true }, v.drop 3)
    else (zoneNameLength v).map fun n => (r, v.drop n)
  | .offset iso colon parts =>
    match iso, v with
    | true, 'Z' :: rest => some ({ r with utc := true }, rest)
    | _, _ => (readOffset colon parts v).map fun (o, rest) => ({ r with offset := o }, rest)
  | .fraction _ digits trim =>
    if trim then
      match v with
      | sep :: d :: _ =>
        if (sep = '.' ∨ sep = ',') ∧ '0' ≤ d ∧ d ≤ '9' then
          let n := 1 + ((v.drop 1).takeWhile fun c => '0' ≤ c && c ≤ '9').length
          (nanosOf v n).map fun ns => ({ r with nanos := ns }, v.drop n)
        else some (r, v)
      | _ => some (r, v)
    else
      let n := 1 + digits
      if v.length < n then none
      else (nanosOf v n).map fun ns => ({ r with nanos := ns }, v.drop n)

def readFields : Nat → Reading → List Char → List Char → Option Reading
  | 0, _, _, _ => none
  | fuel + 1, r, layout, v => do
    let (text, field) := nextChunk layout
    let v ← skipText text v
    match field with
    | none => if v.isEmpty then some r else none
    | some (f, after) =>
      let (r, v) ← readField r after v f
      readFields fuel r after v

def daysBefore : List Nat := [0, 31, 59, 90, 120, 151, 181, 212, 243, 273, 304, 334, 365]

def fromYearDay (year : Nat) (yearDay month day : Int) : Option (Nat × Nat) := do
  let leap := leapYear year
  let (yd, fixed) : Int × Option (Nat × Nat) :=
    if leap ∧ yearDay = 31 + 29 then (yearDay, some (2, 29))
    else if leap ∧ yearDay > 31 + 29 then (yearDay - 1, none)
    else (yearDay, none)
  if yd < 1 ∨ yd > 365 then none
  let (m, d) := match fixed with
    | some md => md
    | none =>
      let yd := yd.toNat
      let m := (yd - 1) / 31 + 1
      let m := if daysBefore.getD m 0 < yd then m + 1 else m
      (m, yd - daysBefore.getD (m - 1) 0)
  if month ≥ 0 ∧ month ≠ m then none
  if day ≥ 0 ∧ day ≠ d then none
  some (m, d)
def readLayout (layout value : String) : Option Timestamp := do
  let chars := layout.toList
  let r ← readFields (chars.length + 1) {} chars value.toList
  let hour := if r.pm ∧ r.hour < 12 then r.hour + 12 else if r.am ∧ r.hour = 12 then 0 else r.hour
  let year := r.year.toNat
  let (month, day) ← if r.yearDay ≥ 0 then fromYearDay year r.yearDay r.month r.day
    else some ((if r.month < 0 then 1 else r.month.toNat), (if r.day < 0 then 1 else r.day.toNat))
  if day < 1 ∨ day > daysIn year month then none
  let offset := if r.utc ∨ r.offset = -1 then 0 else r.offset
  some { year, month, day, hour, minute := r.minute, second := r.second, nanos := r.nanos, offset }

end Timestamp

end AccessPolicy
