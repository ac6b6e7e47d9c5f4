import AccessPolicy.Rego.Datum
/-!
# Types of values and the signatures of built-in functions

A type describes the values a term may take. Scalars have one type each. An array type gives
the types of its first items and, optionally, one type for any further items; an object type
gives the types under known keys and, optionally, one type for any other key and its value. A
set type gives the type of its members. A union lists several types, and the empty union is
`any`, the type of every value. A variable not yet bound has no type, written `???`.
-/

namespace AccessPolicy.Rego

inductive RegoType where
  | unset
  | null
  | boolean
  | number
  | string
  | array (static : List RegoType) (dynamic : Option RegoType)
  /-- Objects: the types under known keys, ascending, then the type of any other key and its
  value. -/
  | object (static : List (Datum × RegoType)) (dynamic : Option (RegoType × RegoType))
  | set (of : RegoType)
  | any (of : List RegoType)
  deriving Repr, Inhabited

namespace RegoType

def top : RegoType := .any []

def arrayOf (t : RegoType) : RegoType := .array [] (some t)

def objectOf (k v : RegoType) : RegoType := .object [] (some (k, v))

def anyObject : RegoType := objectOf top top

def anySet : RegoType := .set top

def anyArray : RegoType := arrayOf top

/-- The depth to which types are compared, joined and written; types are never deeper than the
terms they come from. -/
def depth : Nat := 200
def rank : RegoType → Nat
  | .unset => 0
  | .null => 1
  | .boolean => 2
  | .number => 3
  | .string => 4
  | .array .. => 5
  | .object .. => 6
  | .set _ => 7
  | .any _ => 8

mutual

/-- The text of an object key in a type, as the value it stands for prints: a string as it is,
a number by its numeral, `<nil>` for null, and arrays (sets among them) and objects in brackets
with their parts apart, an object as `map[k:v]`. -/
def keyText : Datum → String
  | .string s => s
  | .number n => n
  | .bool b => if b then "true" else "false"
  | .null => "<nil>"
  | .array xs => "[" ++ " ".intercalate (keyTexts xs) ++ "]"
  | .set xs => "[" ++ " ".intercalate (keyTexts xs) ++ "]"
  | .object ps => "map[" ++ " ".intercalate (keyPairTexts ps) ++ "]"

def keyTexts : List Datum → List String
  | [] => []
  | d :: ds => keyText d :: keyTexts ds

def keyPairTexts : List (Datum × Datum) → List String
  | [] => []
  | (k, v) :: ps => (keyText k ++ ":" ++ keyText v) :: keyPairTexts ps

end

def renderTo : Nat → RegoType → String
  | 0, _ => "any"
  | n + 1, t =>
    match t with
    | .unset => "???"
    | .null => "null"
    | .boolean => "boolean"
    | .number => "number"
    | .string => "string"
    | .array st dyn =>
      "array" ++ (if st.isEmpty then "" else "<" ++ ", ".intercalate (st.map (renderTo n)) ++ ">") ++
        ((dyn.map fun d => "[" ++ renderTo n d ++ "]").getD "")
    | .object st dyn =>
      "object" ++
        (if st.isEmpty then "" else
          "<" ++ ", ".intercalate (st.map fun (k, v) => keyText k ++ ": " ++ renderTo n v) ++ ">") ++
        ((dyn.map fun (k, v) => "[" ++ renderTo n k ++ ": " ++ renderTo n v ++ "]").getD "")
    | .set t => "set[" ++ renderTo n t ++ "]"
    | .any [] => "any"
    | .any ts => "any<" ++ ", ".intercalate (ts.map (renderTo n)) ++ ">"

def render (t : RegoType) : String := renderTo depth t

def lexCompare {α : Type} (cmp : α → α → Ordering) : List α → List α → Ordering
  | [], [] => .eq
  | [], _ :: _ => .lt
  | _ :: _, [] => .gt
  | a :: as, b :: bs =>
    match cmp a b with
    | .eq => lexCompare cmp as bs
    | o => o

/-- The order of two types, down to some depth: by kind, then by parts; an array or object type
with a type for further items comes after one without. -/
def compareTo : Nat → RegoType → RegoType → Ordering
  | 0, _, _ => .eq
  | n + 1, a, b =>
    if rank a ≠ rank b then Ord.compare (rank a) (rank b)
    else
      match a, b with
      | .array sa da, .array sb db =>
        let byDynamic : Ordering := match da, db with
          | some _, none => .gt
          | none, some _ => .lt
          | some x, some y => compareTo n x y
          | none, none => .eq
        byDynamic.then (lexCompare (compareTo n) sa sb)
      | .object sa da, .object sb db =>
        let byDynamic : Ordering := match da, db with
          | some _, none => .gt
          | none, some _ => .lt
          | some (k, v), some (k', v') => (compareTo n k k').then (compareTo n v v')
          | none, none => .eq
        byDynamic.then (lexCompare (fun (p q : Datum × RegoType) =>
          (p.1.compare q.1).then (compareTo n p.2 q.2)) sa sb)
      | .set x, .set y => compareTo n x y
      | .any xs, .any ys => lexCompare (compareTo n) xs ys
      | _, _ => .eq

def compare (a b : RegoType) : Ordering := compareTo depth a b

def same (a b : RegoType) : Bool := compare a b == .eq

def sorted (ts : List RegoType) : List RegoType :=
  ts.mergeSort fun a b => compare a b != .gt

def union (ts : List RegoType) : RegoType := .any (sorted ts)

def merge (us : List RegoType) (t : RegoType) : List RegoType :=
  if us.isEmpty || us.any (same · t) then us else sorted (us ++ [t])

/-- The type of values of either of two types: a missing type gives way to the other, unions
join, and two different types make a union. -/
def or (a b : RegoType) : RegoType :=
  match a, b with
  | .unset, _ => b
  | _, .unset => a
  | .any xs, .any ys =>
    if xs.isEmpty || ys.isEmpty then top
    else .any (sorted (ys.foldl (fun acc y => if acc.any (same · y) then acc else acc ++ [y]) xs))
  | .any xs, _ => .any (merge xs b)
  | _, .any ys => .any (merge ys a)
  | _, _ => if same a b then a else union [a, b]

def hasUnset : Nat → RegoType → Bool
  | 0, _ => false
  | n + 1, t =>
    match t with
    | .unset => true
    | .array st dyn => st.any (hasUnset n) || (dyn.map (hasUnset n)).getD false
    | .object st dyn =>
      st.any (fun p => hasUnset n p.2) || (dyn.map fun (k, v) => hasUnset n k || hasUnset n v).getD false
    | .set t => hasUnset n t
    | _ => false

/-- The type of an array's item at a position: the type given for it, else the type of further
items; none when there is neither. -/
def selectItem (st : List RegoType) (dyn : Option RegoType) (i : Nat) : RegoType :=
  match st[i]? with
  | some t => t
  | none => dyn.getD .unset

/-- The type of an object's value under a key: the type given for it, else the type of other
values; none when there is neither. -/
def selectKey (st : List (Datum × RegoType)) (dyn : Option (RegoType × RegoType)) (k : Datum) :
    RegoType :=
  match st.find? (·.1.same k) with
  | some (_, t) => t
  | none => (dyn.map (·.2)).getD .unset

def values : RegoType → RegoType
  | .set t => t
  | .array st dyn => st.foldl or (dyn.getD .unset)
  | .any [] => top
  | _ => .unset

mutual

/-- The type of a value read as JSON: scalars by kind, arrays (and sets, which JSON writes as
arrays) by their items, objects by their keys. -/
def ofDatum : Datum → RegoType
  | .null => .null
  | .bool _ => .boolean
  | .number _ => .number
  | .string _ => .string
  | .array xs => .array (ofData xs) none
  | .set xs => .array (ofData xs) none
  | .object ps => .object (ofPairs ps) none

def ofData : List Datum → List RegoType
  | [] => []
  | d :: ds => ofDatum d :: ofData ds
def ofPairs : List (Datum × Datum) → List (Datum × RegoType)
  | [] => []
  | (k, v) :: ps => (k, ofDatum v) :: ofPairs ps

end

/-- Whether a type takes in another: a union holds each of its members (the empty union holds
every type); any other type holds itself. -/
def holds (a b : RegoType) : Bool :=
  match a with
  | .any [] => true
  | .any ms => ms.any (same · b)
  | _ => same a b

/-- The type of what a value selects in a value of a type: the item at an index of an array, the
value under a key of an object (a key not listed falls to the type of other keys when that takes
the key's type), a member of a set; none when nothing can be selected. -/
def select (t : RegoType) (x : Datum) : RegoType :=
  match t with
  | .array st dyn =>
    match x with
    | .number n =>
      match readInt64? n with
      | some i => if i < 0 then .unset else selectItem st dyn i.toNat
      | none => .unset
    | _ => .unset
  | .object st dyn =>
    match st.find? (·.1.same x) with
    | some (_, v) => v
    | none =>
      match dyn with
      | some (k, v) => if holds k (ofDatum x) then v else .unset
      | none => .unset
  | .set m =>
    let tx := ofDatum x
    if same m tx then m
    else
      match m with
      | .any (_ :: _) => if holds m tx then tx else .unset
      | _ => .unset
  | .any [] => top
  | .any ms => ms.foldl (fun acc m => or (selectOne m x) acc) .unset
  | _ => .unset
where
  selectOne (m : RegoType) (x : Datum) : RegoType :=
    match m with
    | .array st dyn =>
      match x with
      | .number n =>
        match readInt64? n with
        | some i => if i < 0 then .unset else selectItem st dyn i.toNat
        | none => .unset
      | _ => .unset
    | .object st dyn =>
      match st.find? (·.1.same x) with
      | some (_, v) => v
      | none =>
        match dyn with
        | some (k, v) => if holds k (ofDatum x) then v else .unset
        | none => .unset
    | .set s => if same s (ofDatum x) then s else .unset
    | _ => .unset

/-- The type of what iterating over a value of a type gives: the items of an array, the values
of an object, the members of a set; none for a scalar. -/
def valuesOf : RegoType → RegoType
  | .array st dyn => or (st.foldl or .unset) (dyn.getD .unset)
  | .object st dyn => or (st.foldl (fun acc p => or acc p.2) .unset) ((dyn.map (·.2)).getD .unset)
  | .set m => m
  | .any [] => top
  | .any ms => ms.foldl (fun acc m => or (memberValues m) acc) .unset
  | _ => .unset
where
  memberValues : RegoType → RegoType
    | .array st dyn => or (st.foldl or .unset) (dyn.getD .unset)
    | .object st dyn => or (st.foldl (fun acc p => or acc p.2) .unset) ((dyn.map (·.2)).getD .unset)
    | .set m => m
    | _ => .unset

/-- The type of the keys iterating over a value of a type gives: numbers for an array, the keys
of an object, the members of a set; none for a scalar. -/
def keysOf : RegoType → RegoType
  | .array .. => .number
  | .object st dyn => or (st.foldl (fun acc p => or acc (ofDatum p.1)) .unset) ((dyn.map (·.1)).getD .unset)
  | .set m => m
  | .any [] => top
  | .any ms => ms.foldl (fun acc m => or (memberKeys m) acc) .unset
  | _ => .unset
where
  memberKeys : RegoType → RegoType
    | .array .. => .number
    | .object st dyn =>
      or (st.foldl (fun acc p => or acc (ofDatum p.1)) .unset) ((dyn.map (·.1)).getD .unset)
    | .set m => m
    | _ => .unset

def ascendingOnce (ds : List Datum) : List Datum :=
  (Datum.sorted ds).foldr (fun d acc => match acc with
    | e :: _ => if d.same e then acc else d :: acc
    | [] => [d]) []

def listedKeys : RegoType → List Datum
  | .object st _ => ascendingOnce (st.map (·.1))
  | .any ms => ascendingOnce (ms.flatMap fun m => match m with
    | .object st _ => st.map (·.1)
    | _ => [])
  | _ => []

def unifiesTo : Nat → RegoType → RegoType → Bool
  | 0, _, _ => true
  | n + 1, a, b =>
    match a, b with
    | .unset, _ => false
    | _, .unset => false
    | .any xs, .any ys =>
      xs.isEmpty || xs.any (unifiesTo n · b) || ys.isEmpty || ys.any (unifiesTo n · a)
    | .any xs, _ => xs.isEmpty || xs.any (unifiesTo n · b)
    | _, .any ys => ys.isEmpty || ys.any (unifiesTo n · a)
    | .null, .null => true
    | .boolean, .boolean => true
    | .number, .number => true
    | .string, .string => true
    | .array sa da, .array sb db =>
      (sa.zipIdx.all fun (t, i) => unifiesTo n t (selectItem sb db i)) &&
      (sb.zipIdx.all fun (t, i) => unifiesTo n (selectItem sa da i) t) &&
      (match da, db with
        | some x, some y => unifiesTo n x y
        | _, _ => true)
    | .object sa da, .object sb db =>
      (sa.all fun (k, t) => unifiesTo n t (selectKey sb db k)) &&
      (sb.all fun (k, t) => unifiesTo n (selectKey sa da k) t) &&
      (match da, db with
        | some (_, x), some (_, y) => unifiesTo n x y
        | _, _ => true)
    | .set x, .set y => unifiesTo n x y
    | _, _ => false

def unifies (a b : RegoType) : Bool := unifiesTo depth a b

end RegoType
structure Param where
  name : String
  type : RegoType
  deriving Repr, Inhabited

structure Signature where
  params : List Param
  result : Param
  deriving Repr, Inhabited

/-- A signature's parameters and result as they are written: `(x: number, y: number, z: number)`,
a part without a name by its type alone. -/
def Signature.render (s : Signature) : String :=
  "(" ++ ", ".intercalate ((s.params ++ [s.result]).map fun p =>
    if p.name.isEmpty then p.type.render else p.name ++ ": " ++ p.type.render) ++ ")"

namespace Signature

open RegoType

def of (params : List (String × RegoType)) (result : String × RegoType) : Signature :=
  ⟨params.map fun (n, t) => ⟨n, t⟩, ⟨result.1, result.2⟩⟩

def timeArg : RegoType := union [.number, .array [.number, .string] none]

def collection : RegoType := union [anyArray, anySet]

def texts : RegoType := union [.string, arrayOf .string, .set .string]

def keys : RegoType := union [anyArray, anySet, anyObject]

def paths : RegoType :=
  let path := union [.string, anyArray]
  union [arrayOf path, .set path]

def lookup? (name : String) : Option Signature :=
  let n := RegoType.number
  let s := RegoType.string
  let b := RegoType.boolean
  let x2 := fun (r : String) (t : RegoType) => of [("x", t), ("y", t)] (r, t)
  match name with
  | "plus" | "mul" | "rem" => some (x2 "z" n)
  | "minus" => some (x2 "z" (union [n, anySet]))
  | "div" => some (of [("x", n), ("y", n)] ("z", n))
  | "round" | "ceil" | "floor" | "abs" => some (of [("x", n)] ("y", n))
  | "numbers.range" => some (of [("a", n), ("b", n)] ("range", arrayOf n))
  | "numbers.range_step" => some (of [("a", n), ("b", n), ("step", n)] ("range", arrayOf n))
  | "bits.or" | "bits.and" | "bits.xor" => some (x2 "z" n)
  | "bits.negate" => some (of [("x", n)] ("z", n))
  | "bits.lsh" | "bits.rsh" => some (of [("x", n), ("s", n)] ("z", n))
  | "and" | "or" => some (x2 "z" anySet)
  | "internal.member_2" => some (of [("", top), ("", top)] ("", b))
  | "internal.member_3" => some (of [("", top), ("", top), ("", top)] ("", b))
  | "internal.template_string" => some (of [("", anyArray)] ("", s))
  | "intersection" | "union" => some (of [("xs", .set anySet)] ("y", anySet))
  | "count" => some (of [("collection", union [s, anyArray, anyObject, anySet])] ("n", n))
  | "sum" | "product" => some (of [("collection", union [arrayOf n, .set n])] ("n", n))
  | "max" | "min" => some (of [("collection", collection)] ("n", top))
  | "sort" => some (of [("collection", collection)] ("n", anyArray))
  | "array.concat" => some (of [("x", anyArray), ("y", anyArray)] ("z", anyArray))
  | "array.slice" => some (of [("arr", anyArray), ("start", n), ("stop", n)] ("slice", anyArray))
  | "array.reverse" => some (of [("arr", anyArray)] ("rev", anyArray))
  | "concat" => some (of [("delimiter", s), ("collection", union [arrayOf s, .set s])] ("output", s))
  | "startswith" | "endswith" => some (of [("search", s), ("base", s)] ("result", b))
  | "contains" => some (of [("haystack", s), ("needle", s)] ("result", b))
  | "lower" | "upper" | "strings.reverse" => some (of [("x", s)] ("y", s))
  | "trim_space" => some (of [("value", s)] ("output", s))
  | "trim" | "trim_left" | "trim_right" => some (of [("value", s), ("cutset", s)] ("output", s))
  | "trim_prefix" => some (of [("value", s), ("prefix", s)] ("output", s))
  | "trim_suffix" => some (of [("value", s), ("suffix", s)] ("output", s))
  | "split" => some (of [("x", s), ("delimiter", s)] ("ys", arrayOf s))
  | "replace" => some (of [("x", s), ("old", s), ("new", s)] ("y", s))
  | "indexof" => some (of [("haystack", s), ("needle", s)] ("output", n))
  | "indexof_n" => some (of [("haystack", s), ("needle", s)] ("output", arrayOf n))
  | "substring" => some (of [("value", s), ("offset", n), ("length", n)] ("output", s))
  | "format_int" => some (of [("number", n), ("base", n)] ("output", s))
  | "sprintf" => some (of [("format", s), ("values", anyArray)] ("output", s))
  | "strings.count" => some (of [("search", s), ("substring", s)] ("output", n))
  | "strings.any_prefix_match" | "strings.any_suffix_match" =>
    some (of [("search", texts), ("base", texts)] ("result", b))
  | "strings.replace_n" => some (of [("patterns", objectOf s s), ("value", s)] ("output", s))
  | "to_number" => some (of [("x", union [.null, b, n, s])] ("num", n))
  | "is_number" | "is_string" | "is_boolean" | "is_array" | "is_set" | "is_object" | "is_null" =>
    some (of [("x", top)] ("result", b))
  | "type_name" => some (of [("x", top)] ("type", s))
  | "any" | "all" => some (of [("", collection)] ("", b))
  | "set_diff" => some (of [("", anySet), ("", anySet)] ("", anySet))
  | "re_match" | "net.cidr_overlap" => some (of [("", s), ("", s)] ("", b))
  | "cast_array" => some (of [("", top)] ("", anyArray))
  | "cast_set" => some (of [("", top)] ("", anySet))
  | "cast_string" => some (of [("", top)] ("", s))
  | "cast_boolean" => some (of [("", top)] ("", b))
  | "cast_null" => some (of [("", top)] ("", .null))
  | "cast_object" => some (of [("", top)] ("", anyObject))
  | "object.get" => some (of [("object", anyObject), ("key", top), ("default", top)] ("value", top))
  | "object.keys" => some (of [("object", anyObject)] ("value", anySet))
  | "object.remove" => some (of [("object", anyObject), ("keys", keys)] ("output", top))
  | "object.filter" => some (of [("object", anyObject), ("keys", keys)] ("filtered", top))
  | "object.union" => some (of [("a", anyObject), ("b", anyObject)] ("output", top))
  | "object.union_n" => some (of [("objects", arrayOf anyObject)] ("output", top))
  | "object.subset" =>
    some (of [("super", union [anyArray, anyObject, anySet]), ("sub", union [anyArray, anyObject, anySet])]
      ("result", top))
  | "json.marshal" | "yaml.marshal" => some (of [("x", top)] ("y", s))
  | "json.unmarshal" | "yaml.unmarshal" => some (of [("x", s)] ("y", top))
  | "json.is_valid" | "base64.is_valid" | "yaml.is_valid" => some (of [("x", s)] ("result", b))
  | "base64.encode" | "base64.decode" | "base64url.encode" | "base64url.encode_no_pad"
  | "base64url.decode" | "hex.encode" | "hex.decode" | "urlquery.encode" | "urlquery.decode"
  | "crypto.md5" | "crypto.sha1" | "crypto.sha256" => some (of [("x", s)] ("y", s))
  | "urlquery.encode_object" => some (of [("object", objectOf s texts)] ("y", s))
  | "urlquery.decode_object" => some (of [("x", s)] ("object", objectOf s (arrayOf s)))
  | "glob.match" =>
    some (of [("pattern", s), ("delimiters", union [.null, arrayOf s]), ("match", s)] ("result", b))
  | "glob.quote_meta" => some (of [("pattern", s)] ("output", s))
  | "semver.compare" => some (of [("a", s), ("b", s)] ("result", n))
  | "semver.is_valid" => some (of [("vsn", top)] ("result", b))
  | "time.parse_rfc3339_ns" => some (of [("value", s)] ("ns", n))
  | "time.parse_duration_ns" => some (of [("duration", s)] ("ns", n))
  | "time.parse_ns" => some (of [("layout", s), ("value", s)] ("ns", n))
  | "time.date" => some (of [("x", timeArg)] ("date", .array [n, n, n] none))
  | "time.clock" => some (of [("x", timeArg)] ("output", .array [n, n, n] none))
  | "time.weekday" => some (of [("x", timeArg)] ("day", s))
  | "time.add_date" => some (of [("ns", n), ("years", n), ("months", n), ("days", n)] ("output", n))
  | "time.diff" => some (of [("ns1", timeArg), ("ns2", timeArg)] ("output", .array [n, n, n, n, n, n] none))
  | "time.format" =>
    some (of [("x", union [n, .array [n, s] none, .array [n, s, s] none])] ("formatted timestamp", s))
  | "units.parse" | "units.parse_bytes" => some (of [("x", s)] ("y", n))
  | "graph.reachable" =>
    some (of [("graph", objectOf top collection), ("initial", collection)] ("output", anySet))
  | "regex.match" => some (of [("pattern", s), ("value", s)] ("result", b))
  | "regex.split" => some (of [("pattern", s), ("value", s)] ("output", arrayOf s))
  | "regex.find_n" => some (of [("pattern", s), ("value", s), ("number", n)] ("output", arrayOf s))
  | "regex.replace" => some (of [("s", s), ("pattern", s), ("value", s)] ("output", s))
  | "trace" => some (of [("note", s)] ("result", b))
  | "uuid.rfc4122" => some (of [("k", s)] ("output", s))
  | "net.cidr_contains" => some (of [("cidr", s), ("cidr_or_ip", s)] ("result", b))
  | "net.cidr_intersects" => some (of [("cidr1", s), ("cidr2", s)] ("result", b))
  | "net.cidr_is_valid" => some (of [("cidr", top)] ("result", b))
  | "net.cidr_expand" => some (of [("cidr", s)] ("hosts", .set s))
  | "net.cidr_contains_matches" =>
    let item := union [s, anyArray]
    let operand := union [s, arrayOf item, .set item, objectOf s item]
    some (of [("cidrs", operand), ("cidrs_or_ips", operand)] ("output", .set (.array [top, top] none)))
  | "regex.is_valid" => some (of [("pattern", top)] ("result", b))
  | "regex.globs_match" => some (of [("glob1", s), ("glob2", s)] ("result", b))
  | "regex.find_all_string_submatch_n" =>
    some (of [("pattern", s), ("value", s), ("number", n)] ("output", arrayOf (arrayOf s)))
  | "regex.template_match" =>
    some (of [("template", s), ("value", s), ("delimiter_start", s), ("delimiter_end", s)]
      ("result", b))
  | "crypto.hmac.md5" | "crypto.hmac.sha1" | "crypto.hmac.sha256" | "crypto.hmac.sha512" =>
    some (of [("x", s), ("key", s)] ("y", s))
  | "crypto.hmac.equal" => some (of [("mac1", s), ("mac2", s)] ("result", b))
  | "json.filter" => some (of [("object", anyObject), ("paths", paths)] ("filtered", top))
  | "json.remove" => some (of [("object", anyObject), ("paths", paths)] ("output", top))
  | "json.patch" =>
    some (of [("object", top),
      ("patches", arrayOf (.object [(.string "op", s), (.string "path", top)] (some (top, top))))]
      ("output", top))
  | "json.marshal_with_options" =>
    some (of [("x", top),
      ("opts", .object [(.string "indent", s), (.string "prefix", s), (.string "pretty", b)]
        (some (s, top)))] ("y", s))
  | "walk" => some (of [("x", top)] ("output", .array [anyArray, top] none))
  | "net.cidr_merge" => some (of [("addrs", union [arrayOf s, .set s])] ("output", .set s))
  | "io.jwt.decode" => some (of [("jwt", s)] ("output", .array [anyObject, anyObject, s] none))
  | "io.jwt.encode_sign_raw" =>
    some (of [("headers", s), ("payload", s), ("key", s)] ("output", s))
  | "io.jwt.encode_sign" =>
    some (of [("headers", objectOf s top), ("payload", objectOf s top), ("key", objectOf s top)]
      ("output", s))
  | "io.jwt.verify_hs256" | "io.jwt.verify_hs384" | "io.jwt.verify_hs512" =>
    some (of [("jwt", s), ("secret", s)] ("result", b))
  | "io.jwt.verify_rs256" | "io.jwt.verify_rs384" | "io.jwt.verify_rs512"
  | "io.jwt.verify_ps256" | "io.jwt.verify_ps384" | "io.jwt.verify_ps512"
  | "io.jwt.verify_es256" | "io.jwt.verify_es384" | "io.jwt.verify_es512"
  | "io.jwt.verify_eddsa" =>
    some (of [("jwt", s), ("certificate", s)] ("result", b))
  | "io.jwt.decode_verify" =>
    some (of [("jwt", s), ("constraints", objectOf s top)]
      ("output", .array [b, anyObject, anyObject] none))
  | "crypto.x509.parse_certificates" =>
    some (of [("certs", s)] ("output", arrayOf (objectOf s top)))
  | "crypto.parse_private_keys" => some (of [("keys", s)] ("output", arrayOf (objectOf s top)))
  | "crypto.x509.parse_and_verify_certificates" =>
    some (of [("certs", s)] ("output", .array [b, arrayOf (objectOf s top)] none))
  | "crypto.x509.parse_and_verify_certificates_with_options" =>
    some (of [("certs", s), ("options", objectOf s top)]
      ("output", .array [b, arrayOf (objectOf s top)] none))
  | "crypto.x509.parse_certificate_request" => some (of [("csr", s)] ("output", objectOf s top))
  | "crypto.x509.parse_keypair" => some (of [("cert", s), ("pem", s)] ("output", objectOf s top))
  | "crypto.x509.parse_rsa_private_key" => some (of [("pem", s)] ("output", objectOf s top))
  | "strings.render_template" => some (of [("value", s), ("vars", objectOf s top)] ("result", s))
  | "opa.runtime" => some (of [] ("output", objectOf s top))
  | "time.now_ns" => some (of [] ("now", n))
  | "rand.intn" => some (of [("str", s), ("n", n)] ("y", n))
  | "net.lookup_ip_addr" => some (of [("name", s)] ("addrs", .set s))
  | "http.send" => some (of [("request", objectOf s top)] ("response", anyObject))
  | "rego.metadata.chain" => some (of [] ("chain", arrayOf top))
  | "rego.metadata.rule" => some (of [] ("output", top))
  | "providers.aws.sign_req" =>
    some (of [("request", objectOf s top), ("aws_config", objectOf s top), ("time_ns", n)]
      ("signed_request", anyObject))
  | "json.verify_schema" =>
    some (of [("schema", union [s, anyObject])] ("output", .array [b, union [s, .null]] none))
  | "json.match_schema" =>
    some (of [("document", union [s, anyObject]), ("schema", union [s, anyObject])]
      ("output", .array [b, arrayOf (objectOf s top)] none))
  | "uuid.parse" => some (of [("uuid", s)] ("result", objectOf s top))
  | "rego.parse_module" => some (of [("filename", s), ("rego", s)] ("output", objectOf s top))
  | "graphql.parse_query" => some (of [("query", s)] ("output", anyObject))
  | "graphql.parse_schema" => some (of [("schema", s)] ("output", anyObject))
  | "graphql.schema_is_valid" => some (of [("schema", union [s, anyObject])] ("output", b))
  | "graphql.is_valid" =>
    some (of [("query", union [s, anyObject]), ("schema", union [s, anyObject])] ("output", b))
  | "graphql.parse" =>
    some (of [("query", union [s, anyObject]), ("schema", union [s, anyObject])]
      ("output", .array [anyObject, anyObject] none))
  | "graphql.parse_and_verify" =>
    some (of [("query", union [s, anyObject]), ("schema", union [s, anyObject])]
      ("output", .array [b, anyObject, anyObject] none))
  | "graph.reachable_paths" =>
    some (of [("graph", objectOf top collection), ("initial", collection)] ("output", .set anyArray))
  | _ => none

end Signature

end AccessPolicy.Rego
