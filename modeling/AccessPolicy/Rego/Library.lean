import AccessPolicy.Rego.Builtin
import AccessPolicy.Glob.Compile
import AccessPolicy.Text.Semver
import AccessPolicy.Text.Hex
import AccessPolicy.Text.Base64
import AccessPolicy.Value.LayoutRead
import AccessPolicy.Value.Zone
import AccessPolicy.Number.Duration
import AccessPolicy.Rego.Patterns
import AccessPolicy.Rego.Digests
import AccessPolicy.Rego.Documents
import AccessPolicy.Rego.Networks
import AccessPolicy.Rego.Uuid
import AccessPolicy.Rego.Jwt
import AccessPolicy.Rego.Certificates
import AccessPolicy.Rego.YamlText
import AccessPolicy.Rego.Schemas
import AccessPolicy.Rego.SyntaxTree
import AccessPolicy.Rego.GraphQL
import AccessPolicy.Rego.Templates
import AccessPolicy.Rego.Units
/-!
# The built-in functions of the wider library

Beyond arithmetic, comparison and the plain string and collection functions, policies call
functions for globs, semantic versions, times, encodings, objects, bits, units, graphs and URL
queries. `Library.call` answers a call of any built-in: one of these here, any other through
`Builtin.apply`. As there, no answer means the call fails and the expression is undefined.
-/

namespace AccessPolicy.Rego

namespace Library

def textsOf : Datum → Option (List String)
  | .string s => some [s]
  | .array xs => stringsOf xs
  | .set xs => stringsOf xs
  | _ => none

/-! ## Strings -/

def anyPrefix (texts prefixes : List String) : Bool :=
  texts.any fun s => prefixes.any fun p => startsWithText s p

def anySuffix (texts suffixes : List String) : Bool :=
  texts.any fun s => suffixes.any fun p => endsWithText s p

def positionsOf (s sub : List Char) : List Nat :=
  (List.range s.length).filter fun i => sub.isPrefixOf (s.drop i)

def replaceKeys (pairs : List (Datum × Datum)) (s : String) : Option String := do
  let pats ← pairs.mapM fun (k, v) => match k, v with
    | .string old, .string new => some (Utf8.bytesOf old, Utf8.bytesOf new)
    | _, _ => none
  let bytes := Utf8.bytesOf s
  some (Utf8.textOfBytes (replacePatterns pats (2 * bytes.length + 2) false bytes))

/-! ## Globs and versions -/

/-- The separators of a glob: none for `null`, the one-character strings of an array, a point
for an empty array. -/
def separatorsOf : Datum → Option (List Char)
  | .null => some []
  | .array ds => do
    let cs ← ds.mapM fun d => match d with
      | .string s => match s.toList with
        | [c] => some c
        | _ => none
      | _ => none
    some (if cs.isEmpty then ['.'] else cs)
  | _ => none

def orderNumber : Ordering → Datum
  | .lt => intNumber (-1)
  | .eq => intNumber 0
  | .gt => intNumber 1

/-! ## Times -/
def minNanos : Int := -Int.pow 2 63
def maxNanos : Int := Int.pow 2 63 - 1

def nanosNumber (n : Int) : Option Datum :=
  if minNanos ≤ n ∧ n ≤ maxNanos then some (intNumber n) else none

/-- The integer a numeral stands for after rounding to the wide format, if it is an integer
that 64 bits hold. -/
def exactInt64? (n : String) : Option Int :=
  match wideValue? n with
  | some (.finite neg sig exp) =>
    let r := exactValue (.finite neg sig exp)
    if r.den = 1 ∧ minNanos ≤ r.num ∧ r.num ≤ maxNanos then some r.num else none
  | _ => none

def layoutNamed (name : String) : String :=
  match name with
  | "ANSIC" => "Mon Jan _2 15:04:05 2006"
  | "UnixDate" => "Mon Jan _2 15:04:05 MST 2006"
  | "RubyDate" => "Mon Jan 02 15:04:05 -0700 2006"
  | "RFC822" => "02 Jan 06 15:04 MST"
  | "RFC822Z" => "02 Jan 06 15:04 -0700"
  | "RFC850" => "Monday, 02-Jan-06 15:04:05 MST"
  | "RFC1123" => "Mon, 02 Jan 2006 15:04:05 MST"
  | "RFC1123Z" => "Mon, 02 Jan 2006 15:04:05 -0700"
  | "RFC3339" => "2006-01-02T15:04:05Z07:00"
  | "RFC3339Nano" => "2006-01-02T15:04:05.999999999Z07:00"
  | other => other

def defaultLayout : String := "2006-01-02T15:04:05.999999999Z07:00"

/-- Whether a zone's name names UTC: the empty name, `UTC`, and `Local`, the zone of the
machine, which is UTC. -/
def utcZone (name : String) : Bool :=
  name == "" || name == "UTC" || name == "Local"

/-- The zone a name names: none for UTC, or a zone of the database; nothing when the name
names no zone. -/
def zoneNamed? (name : String) : Option (Option Zone) :=
  if utcZone name then some none else (Zone.named? name).map some

/-- A time argument: a number of nanoseconds, or an array of such a number, a zone and a layout,
the last two optional; its nanoseconds, zone and layout. -/
def timeArg? : Datum → Option (Int × Option Zone × String)
  | .number n => (exactInt64? n).map fun ns => (ns, none, defaultLayout)
  | .array (.number n :: rest) => do
    if rest.length > 2 then none
    let zone ← match rest with
      | [] => some none
      | .string name :: _ => zoneNamed? name
      | _ => none
    let layout ← match rest with
      | _ :: .string l :: _ => some (layoutNamed l)
      | _ :: _ :: _ => none
      | _ => some defaultLayout
    let ns ← exactInt64? n
    some (ns, zone, layout)
  | _ => none

/-- A local time moved by years, months and days in a zone, the month and then the day carried
over into the next unit when out of range; the nanoseconds since 1970-01-01T00:00:00Z at which
the moved local time stands. -/
def addDate (t : Timestamp) (zone : Option Zone) (years months days : Int) : Int :=
  let m0 := (t.month : Int) - 1 + months
  let year := (t.year : Int) + years + m0 / 12
  let month := (m0 % 12).toNat + 1
  let day := Timestamp.daysFromCivil year month 1 + (t.day : Int) - 1 + days
  let localSec := day * 86400 + ((t.hour * 3600 + t.minute * 60 + t.second : Nat) : Int)
  let sec := match zone with
    | some z => z.toUnix localSec
    | none => localSec
  sec * 1000000000 + t.nanos

/-- The years, months, days, hours, minutes and seconds from one time to a later one, each
field the difference of the two times' fields, borrowing from the next larger when negative;
a month borrowed is as long as the earlier time's month. -/
def difference (a b : Timestamp) : List Int :=
  let sec : Int := (b.second : Int) - a.second
  let (sec, minute) := if sec < 0 then (sec + 60, (b.minute : Int) - a.minute - 1) else (sec, (b.minute : Int) - a.minute)
  let (minute, hour) := if minute < 0 then (minute + 60, (b.hour : Int) - a.hour - 1) else (minute, (b.hour : Int) - a.hour)
  let (hour, day) := if hour < 0 then (hour + 24, (b.day : Int) - a.day - 1) else (hour, (b.day : Int) - a.day)
  let (day, month) := if day < 0 then (day + Timestamp.daysIn a.year a.month, (b.month : Int) - a.month - 1)
    else (day, (b.month : Int) - a.month)
  let (month, year) := if month < 0 then (month + 12, (b.year : Int) - a.year - 1) else (month, (b.year : Int) - a.year)
  [year, month, day, hour, minute, sec]

/-! ## Objects -/

/-- Whether one array occurs in another as a run of consecutive items, tried from each start
in turn. -/
def arraySubset (sup sub : List Datum) : Bool :=
  sub.isEmpty || (List.range sup.length).any fun i =>
    let rest := sup.drop i
    sub.length ≤ rest.length && (rest.zip sub).all fun (x, y) => x.same y

/-- Whether the pairs of one object are found in another: each key is there, with a value that
the other's value is a subset of when both are objects, both sets or both arrays, and an equal
value otherwise. -/
def objectSubset : Nat → List (Datum × Datum) → List (Datum × Datum) → Bool
  | 0, _, _ => false
  | fuel + 1, sup, sub => sub.all fun (k, v) =>
    match Datum.lookup k sup with
    | none => false
    | some w =>
      match w, v with
      | .object ws, .object vs => objectSubset fuel ws vs
      | .set ws, .set vs => vs.all (·.memberOf ws)
      | .array ws, .array vs => arraySubset ws vs
      | _, _ => v.same w

/-- Whether an array covers a set: its items are counted off against the set's members until the
count reaches zero, so an item that occurs twice counts twice; an empty array covers nothing. -/
def arrayCoversSet (sup : List Datum) (sub : List Datum) : Bool :=
  let hits := sup.map fun x => x.memberOf sub
  (List.range sup.length).any fun i => sub.length ≤ ((hits.take (i + 1)).filter id).length

def subset : Datum → Datum → Option Bool
  | .object sup, .object sub => some (objectSubset 100000 sup sub)
  | .set sup, .set sub => some (sub.all (·.memberOf sup))
  | .array sup, .array sub => some (arraySubset sup sub)
  | .array sup, .set sub => some (arrayCoversSet sup sub)
  | _, _ => none

/-! ## Numbers and bits -/

def rangeStep (x y : Int) (step : Nat) : List Datum :=
  let count := (if x ≤ y then y - x else x - y).toNat / step + 1
  (List.range count).map fun (k : Nat) => intNumber (if x ≤ y then x + k * step else x - k * step)

def complement (n : Int) : Int := -n - 1
def bitsAnd (a b : Int) : Int :=
  match a, b with
  | .ofNat x, .ofNat y => .ofNat (x &&& y)
  | .ofNat x, .negSucc m => .ofNat (x ^^^ (x &&& m))
  | .negSucc m, .ofNat y => .ofNat (y ^^^ (y &&& m))
  | .negSucc m, .negSucc n => complement (.ofNat (m ||| n))
def bitsOr (a b : Int) : Int :=
  match a, b with
  | .ofNat x, .ofNat y => .ofNat (x ||| y)
  | .ofNat x, .negSucc m => complement (.ofNat (m ^^^ (m &&& x)))
  | .negSucc m, .ofNat y => complement (.ofNat (m ^^^ (m &&& y)))
  | .negSucc m, .negSucc n => complement (.ofNat (m &&& n))
def bitsXor (a b : Int) : Int :=
  match a, b with
  | .ofNat x, .ofNat y => .ofNat (x ^^^ y)
  | .ofNat x, .negSucc m => complement (.ofNat (x ^^^ m))
  | .negSucc m, .ofNat y => complement (.ofNat (y ^^^ m))
  | .negSucc m, .negSucc n => .ofNat (m ^^^ n)

def shiftRight (a : Int) (s : Nat) : Int := a / (Nat.pow 2 s : Nat)

/-! ## Graphs -/

def neighbours (graph : List (Datum × Datum)) (node : Datum) : List Datum :=
  match Datum.lookup node graph with
  | some (.array xs) => xs
  | some (.set xs) => xs
  | _ => []

def reach (graph : List (Datum × Datum)) : Nat → List Datum → List Datum → List Datum
  | 0, _, reached => reached
  | fuel + 1, frontier, reached =>
    let fresh := frontier.filter fun n => (Datum.lookup n graph).isSome && !n.memberOf reached
    if fresh.isEmpty then reached
    else
      let reached := fresh.foldl (fun acc n => if n.memberOf acc then acc else acc ++ [n]) reached
      reach graph fuel (fresh.flatMap (neighbours graph)) reached

/-- The paths of a graph from a node, found depth first and added to those found before. -/
def walkPaths (graph : List (Datum × Datum)) :
    Nat → Datum → List Datum → List Datum × List Datum → List Datum × List Datum
  | 0, _, path, (found, passed) => (Datum.insertMember (.array path) found, passed)
  | fuel + 1, node, path, (found, passed) =>
    match Datum.lookup node graph with
    | none => (Datum.insertMember (.array path) found, passed)
    | some _ =>
      let path := path ++ [node]
      let next := neighbours graph node
      let found := if next.isEmpty then Datum.insertMember (.array path) found else found
      next.foldl (fun (found, passed) n =>
        if n.memberOf passed then (Datum.insertMember (.array path) found, passed)
        else walkPaths graph fuel n path (found, Datum.insertMember node passed))
        (found, passed)

/-! ## URL queries -/
def unreserved (b : UInt8) : Bool :=
  (65 ≤ b && b ≤ 90) || (97 ≤ b && b ≤ 122) || (48 ≤ b && b ≤ 57) || b == 45 || b == 46 ||
    b == 95 || b == 126

def upperHex (n : Nat) : Char := "0123456789ABCDEF".toList.getD n '0'

/-- A text escaped for a query: a space as `+`, unreserved bytes as they are, every other byte
as `%` and two hexadecimal digits. -/
def queryEscape (s : String) : String :=
  String.ofList ((Utf8.bytesOf s).flatMap fun b =>
    if unreserved b then [Char.ofNat b.toNat]
    else if b == 32 then ['+']
    else ['%', upperHex (b.toNat / 16), upperHex (b.toNat % 16)])

/-- The bytes of an escaped query text: `+` is a space and `%` with two hexadecimal digits a
byte; a `%` without them is an error. -/
def queryUnescapeBytes : List Char → Option (List UInt8)
  | [] => some []
  | '+' :: rest => (queryUnescapeBytes rest).map (32 :: ·)
  | '%' :: a :: b :: rest => do
    let x ← CharClass.hexValue? a
    let y ← CharClass.hexValue? b
    (queryUnescapeBytes rest).map (UInt8.ofNat (x * 16 + y) :: ·)
  | '%' :: _ => none
  | c :: rest =>
    match rest with
    | r :: more =>
      if c == Utf8.marker && Utf8.isRawChar r then
        (queryUnescapeBytes more).map ((r.toNat - Utf8.rawBase).toUInt8 :: ·)
      else (queryUnescapeBytes (r :: more)).map (Utf8.bytesOf (String.singleton c) ++ ·)
    | [] => some (Utf8.bytesOf (String.singleton c))

def queryUnescape (s : String) : Option String :=
  (queryUnescapeBytes s.toList).map Utf8.textOfBytes

def queryValues : Datum → Option (List String)
  | .string s => some [s]
  | .array xs => stringsOf xs
  | .set xs => stringsOf xs
  | _ => none

def encodeQueryObject (pairs : List (Datum × Datum)) : Option String := do
  let parts ← pairs.mapM fun (k, v) => do
    let key ← match k with
      | .string s => some s
      | _ => none
    let values ← queryValues v
    some (values.map fun x => queryEscape key ++ "=" ++ queryEscape x)
  some ("&".intercalate parts.flatten)

/-- The object of a query: each key with the array of its values in order. -/
def decodeQueryObject (s : String) : Option Datum := do
  if s.toList.contains ';' then none
  else
    let parts := (s.splitOn "&").filter (!·.isEmpty)
    let pairs ← parts.mapM fun part => do
      let (k, v) := match part.splitOn "=" with
        | k :: rest => (k, "=".intercalate rest)
        | [] => ("", "")
      let k ← queryUnescape k
      let v ← queryUnescape v
      some (k, v)
    let keys := pairs.foldl (fun acc (k, _) => if acc.contains k then acc else acc ++ [k]) []
    some (Datum.objectOf (keys.map fun k =>
      (.string k, .array ((pairs.filter (·.1 == k)).map fun p => .string p.2))))

/-! ## The calls -/

/-- The value of a call of a built-in here, or none when the call fails or the function is not
one of these. -/
def apply (name : String) (args : List Datum) : Option Datum :=
  match name, args with
  | "glob.match", [.string pattern, delims, .string text] => do
    let seps ← separatorsOf delims
    match Glob.compileWithSeparators pattern seps with
    | .ok m => some (.bool (m.acceptsText text))
    | .error _ => none
  | "glob.quote_meta", [.string s] => some (.string (Glob.quoteMeta s))
  | "semver.compare", [.string a, .string b] => do
    let x ← Semver.read? a
    let y ← Semver.read? b
    some (orderNumber (Semver.compare x y))
  | "semver.is_valid", [v] =>
    match v with
    | .string s => some (.bool (Semver.read? s).isSome)
    | _ => some (.bool false)
  | "time.parse_rfc3339_ns", [.string s] => (Timestamp.read? s).bind fun t => nanosNumber t.unixNanos
  | "time.parse_ns", [.string layout, .string s] =>
    (Timestamp.readLayout layout s).bind fun t => nanosNumber t.unixNanos
  | "time.parse_duration_ns", [.string s] =>
    match Duration.parse s with
    | .ok d => some (intNumber d)
    | .error _ => none
  | "time.date", [x] => (timeArg? x).map fun (ns, z, _) =>
    let t := Timestamp.inZone ns z
    .array [intNumber t.year, intNumber t.month, intNumber t.day]
  | "time.clock", [x] => (timeArg? x).map fun (ns, z, _) =>
    let t := Timestamp.inZone ns z
    .array [intNumber t.hour, intNumber t.minute, intNumber t.second]
  | "time.weekday", [x] => (timeArg? x).map fun (ns, z, _) => .string (Timestamp.inZone ns z).weekdayName
  | "time.add_date", [x, .number y, .number m, .number d] => do
    let (ns, z, _) ← timeArg? x
    let years ← integer? y
    let months ← integer? m
    let days ← integer? d
    nanosNumber (addDate (Timestamp.inZone ns z) z years months days)
  | "time.diff", [x, y] => do
    let (na, za, _) ← timeArg? x
    let (nb, _, _) ← timeArg? y
    let (na, nb) := if na > nb then (nb, na) else (na, nb)
    some (.array ((difference (Timestamp.inZone na za) (Timestamp.inZone nb za)).map intNumber))
  | "time.format", [x] => (timeArg? x).map fun (ns, z, layout) => .string ((Timestamp.inZone ns z).format layout)
  | "strings.any_prefix_match", [a, b] => do
    let texts ← textsOf a
    let prefixes ← textsOf b
    some (.bool (anyPrefix texts prefixes))
  | "strings.any_suffix_match", [a, b] => do
    let texts ← textsOf a
    let suffixes ← textsOf b
    some (.bool (anySuffix texts suffixes))
  | "indexof_n", [.string s, .string sub] =>
    if sub.isEmpty then none
    else some (.array ((positionsOf (Utf8.shown s).toList (Utf8.shown sub).toList).map fun (i : Nat) => intNumber i))
  | "strings.replace_n", [.object pairs, .string s] => (replaceKeys pairs s).map .string
  | "hex.encode", [.string s] => some (.string (Hex.encode (Utf8.bytesOf s)))
  | "hex.decode", [.string s] => (Hex.decode? s).map fun bs => .string (Utf8.textOfBytes bs)
  | "base64url.encode", [.string s] =>
    some (.string (String.map (fun c => if c = '+' then '-' else if c = '/' then '_' else c)
      (Base64.encode (Utf8.bytesOf s))))
  | "base64url.encode_no_pad", [.string s] => some (.string (base64UrlText (Utf8.bytesOf s)))
  | "base64url.decode", [.string s] =>
    (base64UrlBytes? s).map fun bs => .string (Utf8.textOfBytes bs)
  | "base64.is_valid", [.string s] =>
    match Base64.decode s with
    | .ok _ => some (.bool true)
    | .error _ => some (.bool false)
  | "object.subset", [a, b] => (subset a b).map .bool
  | "object.union_n", [.array objects] =>
    (objects.foldlM (fun (acc : List (Datum × Datum)) (o : Datum) => match o with
      | .object ps => some (mergeObjects ((Datum.object acc).depth + 1) acc ps)
      | _ => none) []).map Datum.object
  | "numbers.range_step", [.number a, .number b, .number s] => do
    let x ← integralValue? a
    let y ← integralValue? b
    let step ← integralValue? s
    if step ≤ 0 then none else some (.array (rangeStep x y step.toNat))
  | "bits.and", [.number a, .number b] => do
    some (intNumber (bitsAnd (← integralValue? a) (← integralValue? b)))
  | "bits.or", [.number a, .number b] => do
    some (intNumber (bitsOr (← integralValue? a) (← integralValue? b)))
  | "bits.xor", [.number a, .number b] => do
    some (intNumber (bitsXor (← integralValue? a) (← integralValue? b)))
  | "bits.negate", [.number a] => (integralValue? a).map fun x => intNumber (complement x)
  | "bits.lsh", [.number a, .number b] => do
    let x ← integralValue? a
    let s ← integralValue? b
    if s < 0 then none else some (intNumber (x * (Nat.pow 2 s.toNat : Nat)))
  | "bits.rsh", [.number a, .number b] => do
    let x ← integralValue? a
    let s ← integralValue? b
    if s < 0 then none else some (intNumber (shiftRight x s.toNat))
  | "graph.reachable", [.object graph, initial] => do
    let start ← match initial with
      | .array xs => some xs
      | .set xs => some xs
      | _ => none
    some (Datum.setOf (reach graph (graph.length + 1) start []))
  | "graph.reachable_paths", [.object graph, initial] => do
    let start ← match initial with
      | .array xs => some xs
      | .set xs => some xs
      | _ => none
    let walk := fun (acc : List Datum × List Datum) n =>
      walkPaths graph (graph.length + 2) n [] (acc.1, [])
    some (.set (start.foldl walk ([], [])).1)
  | "urlquery.encode", [.string s] => some (.string (queryEscape s))
  | "urlquery.decode", [.string s] => (queryUnescape s).map .string
  | "urlquery.encode_object", [.object pairs] => (encodeQueryObject pairs).map .string
  | "urlquery.decode_object", [.string s] => decodeQueryObject s
  | _, _ => none

/-- The value of a call of any built-in, or none when the call fails. -/
def call (name : String) (args : List Datum) : Option Datum :=
  let families := [apply, Patterns.apply, Digests.apply, Documents.apply, Networks.apply,
    Uuid.apply, Units.apply, Jwt.apply, Certificates.apply, YamlText.apply, Schemas.apply,
    SyntaxTree.apply, GraphQLTrees.apply, Templates.apply, Builtin.apply]
  families.findSome? fun f => f name args

/-- All the values of a call of any built-in: those of a built-in that gives several, such as
`walk`, or else the one value of the call, or none when it fails. -/
def callAll (name : String) (args : List Datum) : List Datum :=
  match Documents.applyAll name args with
  | some ds => ds
  | none => (call name args).toList

end Library

end AccessPolicy.Rego
