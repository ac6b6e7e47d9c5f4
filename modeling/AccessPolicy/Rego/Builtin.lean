import AccessPolicy.Rego.Datum
import AccessPolicy.Text.CharClass
import AccessPolicy.Text.Utf8
import AccessPolicy.Text.Printf
import AccessPolicy.Value.Json
import AccessPolicy.Json.Write
import AccessPolicy.Json.Read
/-!
# Built-in functions

The functions every Rego program may call, each with the number of its arguments, and what
they compute. A built-in that gets arguments it cannot take fails, and a failing call has no
value: the expression that made it is undefined.
-/

namespace AccessPolicy.Rego

inductive ArithOp where
  | plus
  | minus
  | mul
  | div
  deriving Repr, DecidableEq

/-- The numeral of a number of the wide format: an integer in positional digits, any other value
in the general layout, each with the fewest digits that read back. -/
def wideNumeral (b : Binary) : String :=
  match b with
  | .finite neg sig exp =>
    if sig = 0 then (if neg then "-0" else "0")
    else if exp ≥ 0 ∨ sig % Nat.pow 2 (-exp).toNat = 0 then
      let (t, s) := Binary.shortest wideFormat sig exp
      (if neg then "-" else "") ++ toString t ++ String.ofList (List.replicate s.toNat '0')
    else b.text wideFormat .general
  | _ => b.text wideFormat .general
def ratNumeral (r : Rat) : String :=
  wideNumeral (Binary.round wideFormat (r < 0) (if r < 0 then -r else r))

/-- The numbers two numerals stand for, as arithmetic takes them: exactly when both are
integers of 64 bits, rounded to the wide format otherwise; none for an infinite one. -/
def operandPair (a b : String) : Option (Rat × Rat) :=
  match integer? a, integer? b with
  | some x, some y => some ((x : Rat), (y : Rat))
  | _, _ => do
    let x ← wideValue? a
    let y ← wideValue? b
    if x.isFinite ∧ y.isFinite then some (exactValue x, exactValue y) else none

def arith (op : ArithOp) (a b : String) : Option String := do
  let (x, y) ← operandPair a b
  let r ← match op with
    | .plus => some (x + y)
    | .minus => some (x - y)
    | .mul => some (x * y)
    | .div => if y = 0 then none else some (x / y)
  some (ratNumeral r)

/-- The remainder of two integral numerals, with the sign of the dividend; none for a zero
divisor or a number that is not integral. -/
def remainder (a b : String) : Option String :=
  match integer? a, integer? b with
  | some x, some y => if y = 0 then none else some (toString (x.tmod y))
  | _, _ => do
    let (p, q) ← operandPair a b
    if p.den = 1 ∧ q.den = 1 ∧ q ≠ 0 then some (toString (p.num.tmod q.num)) else none
def numberValue? (a : String) : Option Rat :=
  (operandPair a "0").map (·.1)

def wideRound (r : Rat) : Rat :=
  exactValue (Binary.round wideFormat (r < 0) (if r < 0 then -r else r))

def integralValue? (a : String) : Option Int :=
  (numberValue? a).bind fun r => if r.den = 1 then some r.num else none

def wrapInt64 (n : Int) : Int :=
  let m := n % Int.pow 2 64
  if m ≥ Int.pow 2 63 then m - Int.pow 2 64 else m

/-- The sum of numerals: of integers of 64 bits as machine integers, wrapping around, and of
any other numbers rounding each partial sum to the wide format. -/
def sumOf (ns : List String) : Option String :=
  match ns.mapM integer? with
  | some is => some (toString (wrapInt64 (is.foldl (· + ·) 0)))
  | none => do
    let vs ← ns.mapM numberValue?
    some (ratNumeral (vs.foldl (fun acc v => wideRound (acc + v)) 0))

def productOf (ns : List String) : Option String := do
  let vs ← ns.mapM numberValue?
  some (ratNumeral (vs.foldl (fun acc v => wideRound (acc * v)) 1))
def truncate (r : Rat) : Int := r.num.tdiv r.den

/-- The ceiling as the built-in computes it: the integer part, one up unless it is negative. -/
def ceilOf (r : Rat) : Int :=
  let t := truncate r
  if (t : Rat) = r then t else if t ≥ 0 then t + 1 else t

/-- The floor as the built-in computes it: the integer part, one down when it is negative. -/
def floorOf (r : Rat) : Int :=
  let t := truncate r
  if (t : Rat) = r then t else if t < 0 then t - 1 else t

def decimalInteger? (s : String) : Option Int :=
  let (neg, ds) := match s.toList with
    | '-' :: ds => (true, ds)
    | '+' :: ds => (false, ds)
    | ds => (false, ds)
  if ds.isEmpty ∨ !ds.all Char.isDigit then none
  else
    let m : Nat := ds.foldl (fun n c => 10 * n + (c.toNat - '0'.toNat)) 0
    some (if neg then -(m : Int) else m)
def roundHalfAway (r : Rat) : Int :=
  if r < 0 then -((-r + 1 / 2).floor) else (r + 1 / 2).floor

def indexOfText (s sub : String) : Int :=
  let cs := s.toList
  let ss := sub.toList
  match (List.range (cs.length + 1)).find? fun i => ss.isPrefixOf (cs.drop i) with
  | some i => if i + ss.length ≤ cs.length then i else -1
  | none => -1

def splitChars {α : Type} [BEq α] (sep : List α) (fuel : Nat) (cs : List α) (acc : List α) :
    List (List α) :=
  match fuel with
  | 0 => [acc ++ cs]
  | fuel + 1 =>
    match cs with
    | [] => [acc]
    | c :: rest =>
      if sep.isPrefixOf cs then acc :: splitChars sep fuel (cs.drop sep.length) []
      else splitChars sep fuel rest (acc ++ [c])

/-- Whether a text or another holds a raw byte; when neither does, comparing their characters
is comparing their bytes. -/
def eitherRaw (s t : String) : Bool := Utf8.hasRaw s || Utf8.hasRaw t

/-- Splits a text at each occurrence of a separator, byte for byte; an empty separator splits it
into its characters, each raw byte one of them. -/
def splitText (s sep : String) : List String :=
  if sep.isEmpty then (Utf8.pieces s).map fun p => Utf8.ofPieces [p]
  else if eitherRaw s sep then
    let bytes := Utf8.bytesOf s
    (splitChars (Utf8.bytesOf sep) (bytes.length + 1) bytes []).map Utf8.textOfBytes
  else (splitChars sep.toList (s.length + 1) s.toList []).map String.ofList
def startsWithText (s p : String) : Bool :=
  if eitherRaw s p then (Utf8.bytesOf p).isPrefixOf (Utf8.bytesOf s) else p.toList.isPrefixOf s.toList
def endsWithText (s p : String) : Bool :=
  if eitherRaw s p then (Utf8.bytesOf p).reverse.isPrefixOf (Utf8.bytesOf s).reverse
  else p.toList.reverse.isPrefixOf s.toList.reverse

def holdsText (s p : String) : Bool :=
  if eitherRaw s p then
    let bs := Utf8.bytesOf s
    let ps := Utf8.bytesOf p
    (List.range (bs.length + 1)).any fun i => ps.isPrefixOf (bs.drop i)
  else p.isEmpty || indexOfText s p ≥ 0
def dropPrefixText (s p : String) : String :=
  if !startsWithText s p then s
  else if eitherRaw s p then Utf8.textOfBytes ((Utf8.bytesOf s).drop (Utf8.bytesOf p).length)
  else String.ofList (s.toList.drop p.length)
def dropSuffixText (s p : String) : String :=
  if !endsWithText s p then s
  else if eitherRaw s p then
    let bs := Utf8.bytesOf s
    Utf8.textOfBytes (bs.take (bs.length - (Utf8.bytesOf p).length))
  else String.ofList (s.toList.take (s.length - p.length))

/-- Replaces patterns in bytes from the left. -/
def replacePatterns (pats : List (List UInt8 × List UInt8)) : Nat → Bool → List UInt8 → List UInt8
  | 0, _, s => s
  | fuel + 1, afterEmpty, s =>
    match pats.find? fun (old, _) => old.isPrefixOf s && !(afterEmpty && old.isEmpty) with
    | some (old, new) =>
      if old.isEmpty then new ++ replacePatterns pats fuel true s
      else new ++ replacePatterns pats fuel false (s.drop old.length)
    | none =>
      match s with
      | [] => []
      | b :: rest => b :: replacePatterns pats fuel false rest

/-- Replaces each occurrence of a text, in the bytes of the texts. -/
def replaceText (s old new : String) : String :=
  let bytes := Utf8.bytesOf s
  Utf8.textOfBytes
    (replacePatterns [(Utf8.bytesOf old, Utf8.bytesOf new)] (2 * bytes.length + 2) false bytes)

/-- The bytes of a base64url text. -/
def base64UrlBytes? (s : String) : Option (List UInt8) := do
  let size := (Utf8.encode s).length
  let padded ← if s.endsWith "=" then some s
    else match size % 4 with
      | 0 => some s
      | 2 => some (s ++ "==")
      | 3 => some (s ++ "=")
      | _ => none
  let std := String.map (fun c => if c = '+' ∨ c = '/' then '!' else if c = '-' then '+'
    else if c = '_' then '/' else c) padded
  match Base64.decode std with
  | .ok bs => some bs
  | .error _ => none

def base64UrlText (bs : List UInt8) : String :=
  String.ofList ((Base64.encode bs).toList.filterMap fun c =>
    if c = '=' then none else if c = '+' then some '-' else if c = '/' then some '_' else some c)

def trimStart (cut : List Char) (cs : List Char) : List Char := cs.dropWhile cut.contains

/-- Whether a piece of a text reads as the replacement character U+FFFD: it is that character,
or a raw byte, which reads as it. -/
def readsAsReplacement (p : Utf8.Piece) : Bool := p.shown == '\uFFFD'

/-- Whether a cut set holds a piece as a text's pieces are looked up in it: one that reads as
U+FFFD matches any piece of the set that reads so too. -/
def cutHas (cut : List Utf8.Piece) (p : Utf8.Piece) : Bool :=
  if readsAsReplacement p then cut.any readsAsReplacement else cut.contains p

def trimCut (cut : List Utf8.Piece) (ps : List Utf8.Piece) : List Utf8.Piece :=
  ps.dropWhile (cutHas cut)

def intNumber (n : Int) : Datum := .number (toString n)

def stringsOf : List Datum → Option (List String)
  | [] => some []
  | .string s :: rest => (stringsOf rest).map (s :: ·)
  | _ :: _ => none

def numeralsOf : List Datum → Option (List String)
  | [] => some []
  | .number n :: rest => (numeralsOf rest).map (n :: ·)
  | _ :: _ => none

def itemsOf : Datum → Option (List Datum)
  | .array xs => some xs
  | .set xs => some xs
  | _ => none

def Datum.kindName : Datum → String
  | .null => "null"
  | .bool _ => "boolean"
  | .number _ => "number"
  | .string _ => "string"
  | .array _ => "array"
  | .object _ => "object"
  | .set _ => "set"

/-- The dynamic value a formatting directive gets for a Rego value: a machine integer, an
integer of any size, a 64-bit float, or else a text: the numeral of a number no float holds, or
the value as Rego writes it. -/
def formatArgument : Datum → Value
  | .number n =>
    match integer? n with
    | some i => .int .int i
    | none =>
      match decimalInteger? n with
      | some i => .int .big i
      | none =>
        match Numeral.read? n with
        | some (.finite neg digits exp) =>
          match Binary.ofNumeral .double (.finite neg digits exp) with
          | .infinity _ => .text n
          | x => .float64 x
        | some num => .float64 (Binary.ofNumeral .double num)
        | none => .text n
  | .string s => .text s
  | d => .text d.render

/-- Merges two objects: the second's values win, and two objects under one key merge. -/
def mergeObjects (fuel : Nat) (a b : List (Datum × Datum)) : List (Datum × Datum) :=
  match fuel with
  | 0 => b
  | fuel + 1 =>
    let fromA := a.map fun (k, v) =>
      match Datum.lookup k b with
      | some (.object w) =>
        match v with
        | .object u => (k, .object (mergeObjects fuel u w))
        | _ => (k, .object w)
      | some w => (k, w)
      | none => (k, v)
    match Datum.objectOf (fromA ++ b) with
    | .object ps => ps
    | _ => []

def lookupPath : Datum → List Datum → Option Datum
  | d, [] => some d
  | .object ps, k :: ks => (Datum.lookup k ps).bind (lookupPath · ks)
  | .array xs, .number n :: ks =>
    match integer? n with
    | some i => if 0 ≤ i ∧ i.toNat < xs.length then (xs[i.toNat]?).bind (lookupPath · ks) else none
    | none => none
  | .set xs, k :: ks => if k.memberOf xs then lookupPath k ks else none
  | _, _ => none

namespace Builtin

def arities : List (String × Nat) :=
  [("eq", 2), ("assign", 2), ("equal", 2), ("neq", 2), ("lt", 2), ("lte", 2), ("gt", 2),
   ("gte", 2), ("plus", 2), ("minus", 2), ("mul", 2), ("div", 2), ("rem", 2), ("abs", 1),
   ("round", 1), ("ceil", 1), ("floor", 1), ("and", 2), ("or", 2), ("intersection", 1),
   ("union", 1), ("count", 1), ("sum", 1), ("product", 1), ("max", 1), ("min", 1),
   ("sort", 1), ("concat", 2), ("startswith", 2), ("endswith", 2), ("contains", 2),
   ("lower", 1), ("upper", 1), ("trim_space", 1), ("trim", 2), ("trim_left", 2),
   ("trim_right", 2), ("trim_prefix", 2), ("trim_suffix", 2), ("split", 2), ("replace", 3),
   ("indexof", 2), ("substring", 3), ("format_int", 2), ("to_number", 1), ("sprintf", 2),
   ("is_number", 1), ("is_string", 1), ("is_boolean", 1), ("is_array", 1), ("is_set", 1),
   ("is_object", 1), ("is_null", 1), ("type_name", 1), ("array.concat", 2),
   ("array.slice", 3), ("array.reverse", 1), ("object.get", 3), ("object.keys", 1),
   ("object.remove", 2), ("object.union", 2), ("numbers.range", 2),
   ("internal.member_2", 2), ("internal.member_3", 3), ("strings.reverse", 1),
   ("http.send", 1), ("time.now_ns", 0), ("regex.match", 2), ("json.marshal", 1),
   ("json.unmarshal", 1), ("base64.encode", 1), ("base64.decode", 1), ("opa.runtime", 0),
   ("trace", 1), ("uuid.rfc4122", 1), ("rand.intn", 2), ("net.lookup_ip_addr", 1),
   ("crypto.sha256", 1), ("crypto.md5", 1), ("io.jwt.decode", 1), ("glob.match", 3),
   ("units.parse", 1), ("units.parse_bytes", 1), ("time.parse_rfc3339_ns", 1),
   ("time.date", 1), ("time.clock", 1), ("time.add_date", 4), ("walk", 1),
   ("regex.split", 2), ("regex.find_n", 3), ("regex.replace", 3), ("strings.count", 2),
   ("strings.replace_n", 2), ("object.filter", 2), ("json.filter", 2), ("json.remove", 2),
   ("json.patch", 2), ("json.is_valid", 1), ("yaml.marshal", 1), ("yaml.unmarshal", 1),
   ("urlquery.encode", 1), ("urlquery.decode", 1), ("net.cidr_contains", 2),
   ("semver.compare", 2), ("semver.is_valid", 1), ("graph.reachable", 2),
   ("print", 1), ("internal.template_string", 1), ("any", 1), ("all", 1), ("set_diff", 2),
   ("re_match", 2), ("net.cidr_overlap", 2), ("cast_array", 1), ("cast_set", 1),
   ("cast_string", 1), ("cast_boolean", 1), ("cast_null", 1), ("cast_object", 1),
   ("glob.quote_meta", 1), ("time.parse_duration_ns", 1), ("time.weekday", 1), ("time.diff", 2),
   ("time.format", 1), ("strings.any_prefix_match", 2), ("strings.any_suffix_match", 2),
   ("indexof_n", 2), ("hex.encode", 1), ("hex.decode", 1), ("base64url.encode", 1),
   ("base64url.encode_no_pad", 1), ("base64url.decode", 1), ("base64.is_valid", 1),
   ("object.subset", 2), ("object.union_n", 1), ("numbers.range_step", 3), ("bits.and", 2),
   ("bits.or", 2), ("bits.xor", 2), ("bits.negate", 1), ("bits.lsh", 2), ("bits.rsh", 2),
   ("urlquery.encode_object", 1), ("urlquery.decode_object", 1), ("regex.is_valid", 1),
   ("regex.find_all_string_submatch_n", 3), ("regex.template_match", 4),
   ("regex.globs_match", 2), ("crypto.sha1", 1), ("crypto.hmac.md5", 2),
   ("crypto.hmac.sha1", 2), ("crypto.hmac.sha256", 2), ("crypto.hmac.sha512", 2),
   ("crypto.hmac.equal", 2), ("crypto.parse_private_keys", 1),
   ("crypto.x509.parse_certificates", 1), ("crypto.x509.parse_and_verify_certificates", 1),
   ("crypto.x509.parse_and_verify_certificates_with_options", 2),
   ("crypto.x509.parse_certificate_request", 1), ("crypto.x509.parse_keypair", 2),
   ("crypto.x509.parse_rsa_private_key", 1), ("json.marshal_with_options", 2),
   ("json.verify_schema", 1), ("json.match_schema", 2), ("yaml.is_valid", 1),
   ("uuid.parse", 1), ("time.parse_ns", 2), ("net.cidr_intersects", 2),
   ("net.cidr_is_valid", 1), ("net.cidr_expand", 1), ("net.cidr_merge", 1),
   ("net.cidr_contains_matches", 2), ("graph.reachable_paths", 2),
   ("strings.render_template", 2), ("io.jwt.decode_verify", 2), ("io.jwt.encode_sign", 3),
   ("io.jwt.encode_sign_raw", 3), ("io.jwt.verify_eddsa", 2), ("io.jwt.verify_es256", 2),
   ("io.jwt.verify_es384", 2), ("io.jwt.verify_es512", 2), ("io.jwt.verify_hs256", 2),
   ("io.jwt.verify_hs384", 2), ("io.jwt.verify_hs512", 2), ("io.jwt.verify_ps256", 2),
   ("io.jwt.verify_ps384", 2), ("io.jwt.verify_ps512", 2), ("io.jwt.verify_rs256", 2),
   ("io.jwt.verify_rs384", 2), ("io.jwt.verify_rs512", 2), ("rego.parse_module", 2),
   ("rego.metadata.chain", 0), ("rego.metadata.rule", 0), ("providers.aws.sign_req", 3),
   ("graphql.is_valid", 2), ("graphql.parse", 2), ("graphql.parse_and_verify", 2),
   ("graphql.parse_query", 1), ("graphql.parse_schema", 1), ("graphql.schema_is_valid", 1)]

def arity? (name : String) : Option Nat :=
  (arities.find? (·.1 == name)).map (·.2)

def compareBy (holds : Ordering → Bool) (a b : Datum) : Datum :=
  .bool (holds (a.compare b))

mutual

/-- The Rego value of a JSON document; numbers keep their numerals, and of members with one
key the last counts. -/
def Datum.ofJson : Json → Datum
  | .null => .null
  | .bool b => .bool b
  | .number n => .number n
  | .string s => .string s
  | .array items => .array (Datum.ofJsonItems items)
  | .object members => Datum.objectOf (Datum.ofJsonMembers members).reverse

def Datum.ofJsonItems : List Json → List Datum
  | [] => []
  | j :: js => Datum.ofJson j :: Datum.ofJsonItems js

def Datum.ofJsonMembers : List (String × Json) → List (Datum × Datum)
  | [] => []
  | (k, j) :: ms => (.string k, Datum.ofJson j) :: Datum.ofJsonMembers ms

end

def filterKeys : Datum → Option (List Datum)
  | .array xs => some xs
  | .set xs => some xs
  | .object ps => some (ps.map Prod.fst)
  | _ => none

def apply (name : String) (args : List Datum) : Option Datum :=
  match name, args with
  | "equal", [a, b] => some (.bool (a.same b))
  | "neq", [a, b] => some (.bool !(a.same b))
  | "lt", [a, b] => some (compareBy (· == .lt) a b)
  | "lte", [a, b] => some (compareBy (· != .gt) a b)
  | "gt", [a, b] => some (compareBy (· == .gt) a b)
  | "gte", [a, b] => some (compareBy (· != .lt) a b)
  | "plus", [.number a, .number b] => (arith .plus a b).map .number
  | "minus", [.number a, .number b] => (arith .minus a b).map .number
  | "minus", [.set a, .set b] => some (.set (a.filter fun x => !x.memberOf b))
  | "mul", [.number a, .number b] => (arith .mul a b).map .number
  | "div", [.number a, .number b] => (arith .div a b).map .number
  | "rem", [.number a, .number b] => (remainder a b).map .number
  | "abs", [.number a] =>
    match integer? a with
    | some x => some (intNumber x.natAbs)
    | none => (numberValue? a).map fun r => .number (ratNumeral (if r < 0 then -r else r))
  | "round", [.number a] => (numberValue? a).map fun r => intNumber (roundHalfAway r)
  | "ceil", [.number a] => (numberValue? a).map fun r => intNumber (ceilOf r)
  | "floor", [.number a] => (numberValue? a).map fun r => intNumber (floorOf r)
  | "and", [.set a, .set b] => some (.set (a.filter (·.memberOf b)))
  | "or", [.set a, .set b] => some (Datum.setOf (a ++ b))
  | "intersection", [.set sets] =>
    match sets with
    | [] => some (.set [])
    | .set first :: rest =>
      rest.foldlM (fun acc s => match acc, s with
        | .set xs, .set ys => some (.set (xs.filter (·.memberOf ys)))
        | _, _ => none) (.set first)
    | _ => none
  | "union", [.set sets] =>
    sets.foldlM (fun acc s => match acc, s with
      | .set xs, .set ys => some (Datum.setOf (xs ++ ys))
      | _, _ => none) (.set [])
  | "count", [.string s] => some (intNumber (Utf8.runeCount s))
  | "count", [.array xs] => some (intNumber xs.length)
  | "count", [.set xs] => some (intNumber xs.length)
  | "count", [.object ps] => some (intNumber ps.length)
  | "sum", [c] => (itemsOf c).bind numeralsOf |>.bind sumOf |>.map .number
  | "product", [c] => (itemsOf c).bind numeralsOf |>.bind productOf |>.map .number
  | "max", [c] => (itemsOf c).bind fun xs =>
      xs.foldl (fun acc x => match acc with
        | some m => if m.compare x != .gt then some x else some m
        | none => some x) none
  | "min", [c] => (itemsOf c).bind fun xs =>
      xs.foldl (fun acc x => match acc with
        | some m => if m.compare x != .lt then some x else some m
        | none => some x) none
  | "sort", [.set xs] => some (.array xs)
  | "sort", [c] => (itemsOf c).map fun xs => .array (Datum.sorted xs)
  | "concat", [.string sep, c] => (itemsOf c).bind stringsOf |>.map fun ss => .string (Utf8.rejoin (sep.intercalate ss))
  | "startswith", [.string s, .string p] => some (.bool (startsWithText s p))
  | "endswith", [.string s, .string p] => some (.bool (endsWithText s p))
  | "contains", [.string s, .string p] => some (.bool (holdsText s p))
  | "lower", [.string s] => some (.string (CharClass.lowerText (Utf8.shown s)))
  | "upper", [.string s] => some (.string (CharClass.upperText (Utf8.shown s)))
  | "trim_space", [.string s] => some (.string (CharClass.trimBlank s))
  | "trim", [.string s, .string cut] =>
    some (.string (Utf8.ofPieces
      (trimCut (Utf8.pieces cut) (trimCut (Utf8.pieces cut) (Utf8.pieces s)).reverse).reverse))
  | "trim_left", [.string s, .string cut] =>
    some (.string (Utf8.ofPieces (trimCut (Utf8.pieces cut) (Utf8.pieces s))))
  | "trim_right", [.string s, .string cut] =>
    some (.string (Utf8.ofPieces (trimCut (Utf8.pieces cut) (Utf8.pieces s).reverse).reverse))
  | "trim_prefix", [.string s, .string p] => some (.string (dropPrefixText s p))
  | "trim_suffix", [.string s, .string p] => some (.string (dropSuffixText s p))
  | "split", [.string s, .string sep] => some (.array ((splitText s sep).map .string))
  | "replace", [.string s, .string old, .string new] => some (.string (replaceText s old new))
  | "indexof", [.string s, .string sub] =>
    if sub.isEmpty then none else some (intNumber (indexOfText (Utf8.shown s) (Utf8.shown sub)))
  | "substring", [.string s, .number start, .number len] =>
    match integer? start, integer? len with
    | some i, some n =>
      if i < 0 then none
      else if i.toNat ≥ Utf8.runeCount s then some (.string "")
      else
        let rest := (Utf8.shown s).toList.drop i.toNat
        some (.string (String.ofList (if n < 0 then rest else rest.take n.toNat)))
    | _, _ => none
  | "strings.reverse", [.string s] => some (.string (String.ofList (Utf8.shown s).toList.reverse))
  | "strings.count", [.string s, .string sub] =>
    some (.number (toString
      (if sub.isEmpty then Utf8.runeCount s + 1 else (splitText s sub).length - 1)))
  | "json.marshal", [d] => some (.string (Json.compact true (Value.toJson d.toValue)))
  | "json.unmarshal", [.string s] =>
    match Json.read s with
    | .ok j => some (Datum.ofJson j)
    | .error _ => none
  | "json.is_valid", [.string s] =>
    match Json.read s with
    | .ok _ => some (.bool true)
    | .error _ => some (.bool false)
  | "base64.encode", [.string s] => some (.string (Base64.encode (Utf8.bytesOf s)))
  | "base64.decode", [.string s] =>
    match Base64.decode s with
    | .ok bs => some (.string (Utf8.textOfBytes bs))
    | .error _ => none
  | "object.filter", [.object ps, keys] => do
    let ks ← filterKeys keys
    some (.object (ps.filter fun (k, _) => Datum.memberOf k ks))
  | "trace", [.string _] => some (.bool true)
  | "format_int", [.number n, .number base] =>
    match numberValue? n, integer? base with
    | some r, some b =>
      if b = 2 ∨ b = 8 ∨ b = 10 ∨ b = 16 then
        let i := r.num.tdiv r.den
        let digits := String.ofList (Nat.toDigits b.toNat i.natAbs)
        some (.string ((if i < 0 then "-" else "") ++ digits))
      else none
    | _, _ => none
  | "to_number", [.null] => some (intNumber 0)
  | "to_number", [.bool b] => some (intNumber (if b then 1 else 0))
  | "to_number", [.number n] => some (.number n)
  | "to_number", [.string s] =>
    match Numeral.read? s with
    | some (.finite neg digits exp) =>
      match Binary.ofNumeral .double (.finite neg digits exp) with
      | .infinity _ => none
      | _ => some (.number s)
    | _ => none
  | "sprintf", [.string fmt, .array items] => some (.string (Utf8.rejoin (Printf.format fmt (items.map formatArgument))))
  | "is_number", [x] => some (.bool (x.kindName == "number"))
  | "is_string", [x] => some (.bool (x.kindName == "string"))
  | "is_boolean", [x] => some (.bool (x.kindName == "boolean"))
  | "is_array", [x] => some (.bool (x.kindName == "array"))
  | "is_set", [x] => some (.bool (x.kindName == "set"))
  | "is_object", [x] => some (.bool (x.kindName == "object"))
  | "is_null", [x] => some (.bool (x.kindName == "null"))
  | "type_name", [x] => some (.string x.kindName)
  | "any", [.array xs] | "any", [.set xs] => some (.bool ((Datum.bool true).memberOf xs))
  | "all", [.array xs] | "all", [.set xs] => some (.bool (xs.all (Datum.bool true).sameKey))
  | "set_diff", [.set a, .set b] => some (.set (a.filter fun x => !x.memberOf b))
  | "cast_array", [.array xs] => some (.array xs)
  | "cast_array", [.set xs] => some (.array xs)
  | "cast_set", [.array xs] => some (Datum.setOf xs)
  | "cast_set", [.set xs] => some (.set xs)
  | "cast_string", [.string s] => some (.string s)
  | "cast_boolean", [.bool b] => some (.bool b)
  | "cast_null", [.null] => some .null
  | "cast_object", [.object ps] => some (.object ps)
  | "array.concat", [.array a, .array b] => some (.array (a ++ b))
  | "array.slice", [.array a, .number start, .number stop] =>
    match integer? start, integer? stop with
    | some i, some j =>
      let i := max i 0
      let j := min j a.length
      if i ≥ j then some (.array []) else some (.array ((a.drop i.toNat).take (j - i).toNat))
    | _, _ => none
  | "array.reverse", [.array a] => some (.array a.reverse)
  | "object.get", [.object ps, key, dflt] =>
    match key with
    | .array path => some ((lookupPath (.object ps) path).getD dflt)
    | k => some ((Datum.lookup k ps).getD dflt)
  | "object.keys", [.object ps] => some (Datum.setOf (ps.map (·.1)))
  | "object.remove", [.object ps, keys] =>
    let drop : Option (List Datum) := match keys with
      | .array ks => some ks
      | .set ks => some ks
      | .object qs => some (qs.map Prod.fst)
      | _ => none
    drop.map fun ks => .object (ps.filter fun p => !p.1.memberOf ks)
  | "object.union", [.object a, .object b] =>
    some (.object (mergeObjects ((Datum.object a).depth + 1) a b))
  | "numbers.range", [.number a, .number b] =>
    match integralValue? a, integralValue? b with
    | some x, some y =>
      if x ≤ y then some (.array ((List.range (y - x + 1).toNat).map fun (k : Nat) => intNumber (x + k)))
      else some (.array ((List.range (x - y + 1).toNat).map fun (k : Nat) => intNumber (x - k)))
    | _, _ => none
  | "internal.member_2", [x, c] =>
    match c with
    | .array xs => some (.bool (x.amongItems xs))
    | .set xs => some (.bool (x.memberOf xs))
    | .object ps => some (.bool (x.amongItems (ps.map (·.2))))
    | _ => some (.bool false)
  | "internal.member_3", [k, v, c] =>
    match c with
    | .array _ => some (.bool (((lookupPath c [k]).map v.same).getD false))
    | .object ps => some (.bool (((Datum.lookup k ps).map v.same).getD false))
    | _ => some (.bool false)
  | "opa.runtime", [] => some (.object [])
  | "internal.template_string", [.array parts] =>
    (parts.mapM fun (p : Datum) => match p with
      | .string s => some s
      | .set [] => some "<undefined>"
      | .set [.string s] => some s
      | .set [d] => some d.render
      | _ => none).map fun texts => .string (String.join texts)
  | _, _ => none

end Builtin

end AccessPolicy.Rego
