import AccessPolicy.Value.Timestamp
/-!
# Times written by a reference layout

A layout shows how the reference time, Monday, January 2, 2006 at 15:04:05 in the zone `MST`
seven hours west of UTC, would be written. Each field of the reference time that the layout
contains stands for that field of the time being written, and every other character is
written as it is.

The fields are found by reading the layout from the left. At each position the first field
that matches is taken:
* `January` and `Jan` for the month's name, `Monday` and `Mon` for the day of the week's name
  (the short names only when no lower-case letter follows), `MST` for the zone's name;
* `01`, `02`, `03`, `04`, `05`, `06` for the zero-padded month, day, hour on the 12-hour clock,
  minute, second and two-digit year, and `002` for the zero-padded day of the year;
* `15` for the hour, `1` for the month, `2006` for the year, `2` for the day, `_2` for the
  day padded with a space, `__2` for the day of the year padded with spaces, `3`, `4` and `5`
  for the hour on the 12-hour clock, the minute and the second;
* `PM` and `pm` for the half of the day;
* `-0700`, `-07:00`, `-07`, `-070000` and `-07:00:00` for the offset, and the same with `Z` in
  place of `-` for the offset written `Z` when it is zero;
* a point or a comma followed by a run of `0`s or of `9`s, and no further digit, for the
  fraction of the second with that many digits, trailing zeros dropped for the `9`s.

Only times at offset zero are written here, so the zone's name is `UTC`.
-/

namespace AccessPolicy

inductive LayoutField where
  | longMonth
  | shortMonth
  | numMonth
  | zeroMonth
  | longWeekday
  | shortWeekday
  | day
  | underDay
  | zeroDay
  | underYearDay
  | zeroYearDay
  | hour
  | hour12
  | zeroHour12
  | minute
  | zeroMinute
  | second
  | zeroSecond
  | longYear
  | shortYear
  | half (upper : Bool)
  | zoneName
  /-- The offset: `Z` at zero when `iso`; hours, then minutes when `parts ≥ 2`, then seconds
  when `parts = 3`, the parts joined by colons when `colon`. -/
  | offset (iso colon : Bool) (parts : Nat)
  /-- The fraction of the second after a separator, in `digits` digits, trailing zeros dropped
  when `trim`. -/
  | fraction (sep : Char) (digits : Nat) (trim : Bool)
  deriving Repr, DecidableEq, Inhabited

namespace LayoutField
def startsLower : List Char → Bool
  | c :: _ => 'a' ≤ c && c ≤ 'z'
  | [] => false

def startsDigit : List Char → Bool
  | c :: _ => '0' ≤ c && c ≤ '9'
  | [] => false

/-- The field at the head of a layout and what follows it, or, when a `_` is followed by
`2006`, the `_` alone as text; none when no field starts there. -/
def atHead (cs : List Char) : Option (Option LayoutField × List Char) :=
  let after (p : String) : Option (List Char) :=
    if p.toList.isPrefixOf cs then some (cs.drop p.length) else none
  let field (f : LayoutField) (p : String) : Option (Option LayoutField × List Char) :=
    (after p).map (some f, ·)
  match cs with
  | 'J' :: _ =>
    match field .longMonth "January" with
    | some r => some r
    | none => (after "Jan").bind fun rest => if startsLower rest then none else some (some .shortMonth, rest)
  | 'M' :: _ =>
    match field .longWeekday "Monday" with
    | some r => some r
    | none =>
      match (after "Mon").bind fun rest => if startsLower rest then none else some (some .shortWeekday, rest) with
      | some r => some r
      | none => field .zoneName "MST"
  | '0' :: d :: rest =>
    if '1' ≤ d && d ≤ '6' then
      let f := match d with
        | '1' => LayoutField.zeroMonth
        | '2' => .zeroDay
        | '3' => .zeroHour12
        | '4' => .zeroMinute
        | '5' => .zeroSecond
        | _ => .shortYear
      some (some f, rest)
    else field .zeroYearDay "002"
  | '1' :: rest =>
    match rest with
    | '5' :: rest' => some (some .hour, rest')
    | _ => some (some .numMonth, rest)
  | '2' :: rest =>
    match field .longYear "2006" with
    | some r => some r
    | none => some (some .day, rest)
  | '_' :: rest =>
    match rest with
    | '2' :: rest' =>
      if "2006".toList.isPrefixOf rest then some (none, rest) else some (some .underDay, rest')
    | '_' :: '2' :: rest' => some (some .underYearDay, rest')
    | _ => none
  | '3' :: rest => some (some .hour12, rest)
  | '4' :: rest => some (some .minute, rest)
  | '5' :: rest => some (some .second, rest)
  | 'P' :: 'M' :: rest => some (some (.half true), rest)
  | 'p' :: 'm' :: rest => some (some (.half false), rest)
  | '-' :: _ =>
    [("-070000", LayoutField.offset false false 3), ("-07:00:00", .offset false true 3),
      ("-0700", .offset false false 2), ("-07:00", .offset false true 2),
      ("-07", .offset false false 1)].findSome? fun (p, f) => field f p
  | 'Z' :: _ =>
    [("Z070000", LayoutField.offset true false 3), ("Z07:00:00", .offset true true 3),
      ("Z0700", .offset true false 2), ("Z07:00", .offset true true 2),
      ("Z07", .offset true false 1)].findSome? fun (p, f) => field f p
  | sep :: d :: rest =>
    if (sep = '.' ∨ sep = ',') ∧ (d = '0' ∨ d = '9') then
      let run := (d :: rest).takeWhile (· = d)
      let rest' := (d :: rest).drop run.length
      if startsDigit rest' then none else some (some (.fraction sep run.length (d = '9')), rest')
    else none
  | _ => none

end LayoutField

namespace Timestamp

def monthNames : List String :=
  ["January", "February", "March", "April", "May", "June", "July", "August", "September",
    "October", "November", "December"]
def weekdayNames : List String :=
  ["Sunday", "Monday", "Tuesday", "Wednesday", "Thursday", "Friday", "Saturday"]

def epochDay (t : Timestamp) : Int := daysFromCivil t.year t.month t.day

def yearDay (t : Timestamp) : Nat := (t.epochDay - daysFromCivil t.year 1 1).toNat + 1

def weekdayName (t : Timestamp) : String := weekdayNames.getD (weekdayOfDays t.epochDay) ""

def hour12 (t : Timestamp) : Nat := if t.hour % 12 = 0 then 12 else t.hour % 12

def offsetField (iso colon : Bool) (parts : Nat) (offset : Int) : String :=
  if iso && offset = 0 then "Z"
  else
    let abs := offset.natAbs
    let zone := abs / 60
    (if offset < 0 then "-" else "+") ++ pad 2 (zone / 60) ++
      (if parts ≥ 2 then (if colon then ":" else "") ++ pad 2 (zone % 60) else "") ++
      (if parts = 3 then (if colon then ":" else "") ++ pad 2 (abs % 60) else "")

def fractionField (sep : Char) (digits : Nat) (trim : Bool) (nanos : Nat) : String :=
  if trim && (digits = 0 || nanos = 0) then ""
  else
    let ds := (pad 9 nanos).toList.take (min digits 9)
    let ds := if trim then (ds.reverse.dropWhile (· = '0')).reverse else ds
    if ds.isEmpty then "" else String.ofList (sep :: ds)
def field (t : Timestamp) : LayoutField → String
  | .longMonth => monthNames.getD (t.month - 1) ""
  | .shortMonth => String.ofList ((monthNames.getD (t.month - 1) "").toList.take 3)
  | .numMonth => toString t.month
  | .zeroMonth => pad 2 t.month
  | .longWeekday => t.weekdayName
  | .shortWeekday => String.ofList (t.weekdayName.toList.take 3)
  | .day => toString t.day
  | .underDay => (if t.day < 10 then " " else "") ++ toString t.day
  | .zeroDay => pad 2 t.day
  | .underYearDay =>
    (if t.yearDay < 10 then "  " else if t.yearDay < 100 then " " else "") ++ toString t.yearDay
  | .zeroYearDay => pad 3 t.yearDay
  | .hour => pad 2 t.hour
  | .hour12 => toString t.hour12
  | .zeroHour12 => pad 2 t.hour12
  | .minute => toString t.minute
  | .zeroMinute => pad 2 t.minute
  | .second => toString t.second
  | .zeroSecond => pad 2 t.second
  | .longYear => pad 4 t.year
  | .shortYear => pad 2 (t.year % 100)
  | .half upper =>
    if t.hour ≥ 12 then (if upper then "PM" else "pm") else (if upper then "AM" else "am")
  | .zoneName => t.abbreviation
  | .offset iso colon parts => offsetField iso colon parts t.offset
  | .fraction sep digits trim => fractionField sep digits trim t.nanos
def layoutText (t : Timestamp) : List Char → String
  | [] => ""
  | c :: cs =>
    match LayoutField.atHead (c :: cs) with
    | some (some f, rest) =>
      if _h : rest.length < (c :: cs).length then t.field f ++ layoutText t rest
      else String.singleton c ++ layoutText t cs
    | some (none, _) => String.singleton c ++ layoutText t cs
    | none => String.singleton c ++ layoutText t cs
termination_by cs => cs.length
decreasing_by
  all_goals simp only [List.length_cons] at *
  all_goals omega

def format (t : Timestamp) (layout : String) : String :=
  t.layoutText layout.toList

end Timestamp

end AccessPolicy
