import AccessPolicy.Value.Basic
import AccessPolicy.Value.Timestamp
import AccessPolicy.Text.Base64
import AccessPolicy.Text.Quote
import AccessPolicy.Number.Binary
import AccessPolicy.Order.Stable
/-!
# Rego values

A Rego value is a JSON value or a set. Numbers keep the numeral they were written or computed
with, so that `1.0` stays `1.0`; they compare by the number they stand for.
-/

namespace AccessPolicy.Rego

inductive Datum where
  | null
  | bool (b : Bool)
  | number (numeral : String)
  | string (s : String)
  | array (items : List Datum)
  | object (pairs : List (Datum × Datum))
  | set (items : List Datum)
  deriving Repr, Inhabited

/-- The binary format arithmetic rounds to: 64 significand bits, and an exponent range no
numeral reaches. -/
def wideFormat : BinaryFormat := ⟨64, -Int.pow 2 40, Int.pow 2 40⟩

def integer? (n : String) : Option Int := readInt64? n

/-- The value of a numeral rounded to the wide format. -/
def wideValue? (n : String) : Option Binary :=
  (Numeral.read? n).map fun num =>
    match num with
    | .finite neg digits exp =>
      if digits = 0 then .finite neg 0 0
      else
        let magnitude := (decimalLength digits : Int) + exp
        if magnitude > 100000 then .infinity neg
        else if magnitude < -100000 then .finite neg 0 0
        else Binary.round wideFormat neg (decimalRat digits exp)
    | _ => Binary.ofNumeral wideFormat num

def exactValue (b : Binary) : Rat :=
  match b with
  | .infinity neg => if neg then -(pow10 100002) else pow10 100002
  | .nan => 0
  | _ => b.toRat?.getD 0

/-- The text of a numeral with a point, less the zeros and points at its end: `2.50` gives `2.5`
and `10.0` gives `1`. -/
def trimmedNumeral (n : String) : String :=
  if n.contains '.' then
    String.ofList (n.toList.reverse.dropWhile fun c => c = '0' || c = '.').reverse
  else n

def digitsValue (ds : List Char) : Nat :=
  ds.foldl (fun n c => n * 10 + (c.toNat - '0'.toNat)) 0

/-- The integer a numeral spells when it is decimal digits with an optional minus sign, of any
size. -/
def wholeNumeral? (n : String) : Option Int :=
  match n.toList with
  | '-' :: ds => if !ds.isEmpty && ds.all Char.isDigit then some (-(digitsValue ds : Int)) else none
  | ds => if !ds.isEmpty && ds.all Char.isDigit then some (digitsValue ds) else none

/-- The value of a numeral as a finite double, when it has one: a numeral past the largest
double has none. -/
def doubleValue? (n : String) : Option Rat :=
  (Numeral.read? n).bind fun num => (Binary.ofNumeral .double num).toRat?

def compareRats (p q : Rat) : Ordering :=
  if p < q then .lt else if p == q then .eq else .gt
def byteAt (n : String) (i : Nat) : UInt8 :=
  if h : (⟨i⟩ : String.Pos.Raw) < n.rawEndPos then n.getUTF8Byte ⟨i⟩ h else 0

def digitsFrom (n : String) : Nat → Nat → Bool
  | 0, _ => true
  | k + 1, i => let b := byteAt n i; 48 ≤ b && b ≤ 57 && digitsFrom n k (i + 1)

/-- Whether a numeral is a whole number written without a leading zero and without a sign on
zero, so that its text alone decides its value. -/
def plainWhole (n : String) : Bool :=
  let size := n.utf8ByteSize
  let start := if byteAt n 0 == 45 then 1 else 0
  start < size && digitsFrom n (size - start) start &&
    (byteAt n start != 48 || (start == 0 && size == 1))

/-- The order of two plain whole numerals by their text: a negative one first; among two of one
sign, the longer one further from zero, and of one length, digit by digit. -/
def comparePlainWholes (a b : String) : Ordering :=
  let negA := a.startsWith "-"
  let negB := b.startsWith "-"
  if negA && !negB then .lt
  else if negB && !negA then .gt
  else
    let o := if a.length != b.length then Ord.compare a.length b.length
      else if a < b then .lt else if a == b then .eq else .gt
    if negA then o.swap else o

/-- The order of two numerals by the numbers they stand for, in the steps the module header
lists; two plain whole numerals compare by their text, which gives the same order. -/
def compareNumerals (a b : String) : Ordering :=
  if a == b then .eq else
  if plainWhole a && plainWhole b then comparePlainWholes a b else
  match integer? a, integer? b with
  | some x, some y => compare x y
  | _, _ =>
    if trimmedNumeral a == trimmedNumeral b then .eq
    else
      match wholeNumeral? a, wholeNumeral? b with
      | some x, some y => compare x y
      | _, _ =>
        match doubleValue? a, doubleValue? b with
        | some p, some q => compareRats p q
        | _, _ =>
          match wideValue? a, wideValue? b with
          | some x, some y => compareRats (exactValue x) (exactValue y)
          | _, _ => compare a b

/-- The bucket of a numeral: the whole part of its double value, toward zero, where a part
outside 64 bits becomes the least 64-bit integer as a machine conversion makes it; none for a
numeral without a finite double value. -/
def numberBucket? (n : String) : Option Int :=
  (doubleValue? n).map fun q =>
    let whole := if q < 0 then -((-q).floor) else q.floor
    if whole < -Int.pow 2 63 ∨ whole ≥ Int.pow 2 63 then -Int.pow 2 63 else whole

/-- Whether two numerals fall in one bucket: one whole part, or one text when neither has a
double value. -/
def sameBucket (a b : String) : Bool :=
  match numberBucket? a, numberBucket? b with
  | some x, some y => x == y
  | none, none => a == b
  | _, _ => false

def compareBools (a b : Bool) : Ordering :=
  match a, b with
  | false, true => .lt
  | true, false => .gt
  | _, _ => .eq

def compareBytes : List UInt8 → List UInt8 → Ordering
  | [], [] => .eq
  | [], _ => .lt
  | _, [] => .gt
  | a :: as, b :: bs => if a < b then .lt else if b < a then .gt else compareBytes as bs

/-- The order of two strings by their bytes; for UTF-8 text that is the order of their code
points. -/
def compareStrings (a b : String) : Ordering :=
  if Utf8.hasRaw a || Utf8.hasRaw b then compareBytes (Utf8.bytesOf a) (Utf8.bytesOf b)
  else if a < b then .lt else if a == b then .eq else .gt

namespace Datum
def rank : Datum → Nat
  | .null => 0
  | .bool _ => 1
  | .number _ => 2
  | .string _ => 3
  | .array _ => 4
  | .object _ => 5
  | .set _ => 6

mutual

def compare : Datum → Datum → Ordering
  | .null, .null => .eq
  | .bool a, .bool b => compareBools a b
  | .number a, .number b => compareNumerals a b
  | .string a, .string b => compareStrings a b
  | .array a, .array b => compareItems a b
  | .object a, .object b => comparePairs a b
  | .set a, .set b => compareItems a b
  | a, b => Ord.compare a.rank b.rank

def compareItems : List Datum → List Datum → Ordering
  | [], [] => .eq
  | [], _ :: _ => .lt
  | _ :: _, [] => .gt
  | x :: xs, y :: ys =>
    match compare x y with
    | .eq => compareItems xs ys
    | o => o

def comparePairs : List (Datum × Datum) → List (Datum × Datum) → Ordering
  | [], [] => .eq
  | [], _ :: _ => .lt
  | _ :: _, [] => .gt
  | (k, v) :: ps, (k', v') :: qs =>
    match compare k k' with
    | .eq =>
      match compare v v' with
      | .eq => comparePairs ps qs
      | o => o
    | o => o

end

def same (a b : Datum) : Bool := a.compare b == .eq

mutual

/-- Whether two values that compare as equal also fall in one bucket: their numbers, place by
place, share buckets. -/
def bucketsAgree : Datum → Datum → Bool
  | .number a, .number b => sameBucket a b
  | .array xs, .array ys => itemBucketsAgree xs ys
  | .set xs, .set ys => itemBucketsAgree xs ys
  | .object ps, .object qs => pairBucketsAgree ps qs
  | _, _ => true

def itemBucketsAgree : List Datum → List Datum → Bool
  | x :: xs, y :: ys => bucketsAgree x y && itemBucketsAgree xs ys
  | _, _ => true

def pairBucketsAgree : List (Datum × Datum) → List (Datum × Datum) → Bool
  | (k, v) :: ps, (k', v') :: qs =>
    bucketsAgree k k' && bucketsAgree v v' && pairBucketsAgree ps qs
  | _, _ => true

end

/-- Whether two values are one member of a set or one key of an object: they compare as equal
and fall in one bucket. -/
def sameKey (a b : Datum) : Bool := a.same b && bucketsAgree a b

def before (a b : Datum) : Bool := a.compare b == .lt

/-- Inserts a value into a set's members, unless it is one of them: the new member moves left
from the end past the members it is less than. -/
def insertMember (x : Datum) (xs : List Datum) : List Datum :=
  if xs.any x.sameKey then xs
  else (Order.insertReversed before x xs.reverse).reverse

/-- Inserts a pair into an object's pairs; a key already there keeps its value. -/
def insertPair (p : Datum × Datum) (ps : List (Datum × Datum)) : List (Datum × Datum) :=
  if ps.any fun q => p.1.sameKey q.1 then ps
  else (Order.insertReversed (fun a b => before a.1 b.1) p ps.reverse).reverse

/-- Puts a pair into an object's pairs; a key already there keeps its place and takes the new
value. -/
def putPair (p : Datum × Datum) (ps : List (Datum × Datum)) : List (Datum × Datum) :=
  if ps.any fun q => p.1.sameKey q.1 then ps.map fun q => if p.1.sameKey q.1 then (q.1, p.2) else q
  else insertPair p ps
def sorted (xs : List Datum) : List Datum := Order.insertionSort before xs

def setOf (xs : List Datum) : Datum :=
  .set (xs.foldl (fun acc x => insertMember x acc) [])

def objectOf (ps : List (Datum × Datum)) : Datum :=
  .object (ps.foldl (fun acc p => insertPair p acc) [])

/-- The object an object literal writes: of pairs with one key, the first key stays and the last
value counts. -/
def objectWritten (ps : List (Datum × Datum)) : Datum :=
  .object (ps.foldl (fun acc p => putPair p acc) [])

def lookup (key : Datum) : List (Datum × Datum) → Option Datum
  | [] => none
  | (k, v) :: ps => if key.sameKey k then some v else lookup key ps
def memberOf (x : Datum) (xs : List Datum) : Bool := xs.any x.sameKey
def amongItems (x : Datum) (xs : List Datum) : Bool := xs.any x.same

def holds : Datum → Bool
  | .bool false => false
  | _ => true

mutual

def render : Datum → String
  | .null => "null"
  | .bool b => if b then "true" else "false"
  | .number n => n
  | .string s => Quote.string s
  | .array items => "[" ++ ", ".intercalate (renderItems items) ++ "]"
  | .object pairs => "\x7b" ++ ", ".intercalate (renderPairs pairs) ++ "\x7d"
  | .set items => if items.isEmpty then "set()" else "\x7b" ++ ", ".intercalate (renderItems items) ++ "\x7d"

def renderItems : List Datum → List String
  | [] => []
  | x :: xs => x.render :: renderItems xs

def renderPairs : List (Datum × Datum) → List String
  | [] => []
  | (k, v) :: ps => (k.render ++ ": " ++ v.render) :: renderPairs ps

end

mutual

/-- How deeply collections nest in a value: zero for a scalar, one more than its deepest part
for a collection. -/
def depth : Datum → Nat
  | .array xs => itemsDepth xs + 1
  | .set xs => itemsDepth xs + 1
  | .object ps => pairsDepth ps + 1
  | _ => 0
def itemsDepth : List Datum → Nat
  | [] => 0
  | x :: xs => max x.depth (itemsDepth xs)

def pairsDepth : List (Datum × Datum) → Nat
  | [] => 0
  | (k, v) :: ps => max (max k.depth v.depth) (pairsDepth ps)

end

mutual

/-- The Rego value of a dynamic value: numbers by their numerals (a float by its shortest
general form), lists as arrays, maps as objects, bytes as base64 text and times as their long
text. -/
def ofValue : Value → Datum
  | .null => .null
  | .bool b => .bool b
  | .text s => .string s
  | .bytes bs => .string (Base64.encode bs)
  | .int _ n => .number (toString n)
  | .float64 x => .number (x.text .double .general)
  | .float32 x => .number (x.text .single .general)
  | .numeral s => .number s
  | .time t => .string t.rfc3339Nano
  | .list items => .array (ofValues items)
  | .map fields => objectOf (ofFields fields)

def ofValues : List Value → List Datum
  | [] => []
  | v :: vs => ofValue v :: ofValues vs

def ofFields : List (String × Value) → List (Datum × Datum)
  | [] => []
  | (k, v) :: fs => (.string k, ofValue v) :: ofFields fs

end

/-- The name of an object key as a map keeps it: a string as it is, anything else as Rego
writes it. -/
def keyName : Datum → String
  | .string s => s
  | k => k.render

mutual

/-- The dynamic value a Rego value is handed back as: numbers as numerals, arrays and sets as
lists, objects as maps. -/
def toValue : Datum → Value
  | .null => .null
  | .bool b => .bool b
  | .number n => .numeral n
  | .string s => .text (Utf8.shown s)
  | .array items => .list (toValues items)
  | .object pairs => .map (toFields pairs)
  | .set items => .list (toValues items)

def toValues : List Datum → List Value
  | [] => []
  | x :: xs => toValue x :: toValues xs

def toFields : List (Datum × Datum) → List (String × Value)
  | [] => []
  | (k, v) :: ps => (keyName k, toValue v) :: toFields ps

end

end Datum

end AccessPolicy.Rego
