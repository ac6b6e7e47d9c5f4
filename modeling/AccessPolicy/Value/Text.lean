import AccessPolicy.Value.Basic
import AccessPolicy.Text.Utf8
/-!
# The text of a value

Two texts of a value are used:

* `Value.display`, the text of a value standing inside other text: numbers in the general layout,
  `true` and `false`, numerals as written, `<nil>` for nothing, bytes as the list of their
  decimal values, timestamps in the long form, lists as `[a b]` and maps as `map[k:v k2:v2]`
  with names in ascending order;
* `Value.maskText`, the text a mask works on: texts, bytes and timestamps by their own text
  (bytes read as UTF-8, a timestamp as RFC 3339), and everything else by `Value.display`.
-/

namespace AccessPolicy

namespace Value
def insertByName (kv : String × String) : List (String × String) → List (String × String)
  | [] => [kv]
  | x :: xs => if kv.1 < x.1 then kv :: x :: xs else x :: insertByName kv xs

mutual
def display : Value → String
  | .null => "<nil>"
  | .bool b => if b then "true" else "false"
  | .text s => s
  | .bytes bs => "[" ++ " ".intercalate (bs.map (fun b => toString b.toNat)) ++ "]"
  | .int _ n => toString n
  | .float64 x => x.text .double .general
  | .float32 x => x.text .single .general
  | .numeral s => s
  | .time t => t.long
  | .list xs => "[" ++ " ".intercalate (displayItems xs) ++ "]"
  | .map fs =>
    "map[" ++ " ".intercalate ((displayFields fs).foldr insertByName [] |>.map
      (fun (k, v) => k ++ ":" ++ v)) ++ "]"

def displayItems : List Value → List String
  | [] => []
  | x :: xs => display x :: displayItems xs
def displayFields : List (String × Value) → List (String × String)
  | [] => []
  | (k, v) :: fs => (k, display v) :: displayFields fs

end

def maskBytes : Value → List UInt8
  | .text s => Utf8.encode s
  | .bytes bs => bs
  | .time t => Utf8.encode t.rfc3339
  | v => Utf8.encode v.display

def maskChars : Value → List Char
  | .text s => s.toList
  | .bytes bs => Utf8.decode bs
  | .time t => t.rfc3339.toList
  | v => v.display.toList

end Value

end AccessPolicy
