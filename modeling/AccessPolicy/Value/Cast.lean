import AccessPolicy.Value.Text
import AccessPolicy.Json.Read
import AccessPolicy.Text.CharClass
import AccessPolicy.Number.Duration
/-!
# Reading values as texts

Settings come as values of any kind and are read as the kind a caller wants:

* a *text*: a text as it is, a boolean as `true`/`false`, a number in positional decimal with
  the shortest digits that read back, a numeral as written, bytes as UTF-8, a timestamp in its
  long form, nothing as the empty text; lists and maps have no text;
* a *list of texts*: a list item by item, or the empty list when an item has no text; a text
  split at blanks; anything else with a text as the list of that one text; nothing or a value
  without a text as the empty list;
* a *map of texts*: a map entry by entry, a text as a JSON object whose members map to their
  texts (a member of another kind to the empty text), anything else as the empty map;
* a *truth*: a boolean as it is, a text written as a boolean (`true`, `t`, `1`, `false`, …),
  a number other than zero; anything else is false;
* a *duration*: a text as a duration (nanoseconds when it has no unit), an integer as
  nanoseconds, a float cut to whole nanoseconds; anything else is zero.
-/

namespace AccessPolicy

def NumberLayout.positional : NumberLayout := ⟨-400, 400, 1⟩

namespace Value

def asText? : Value → Option String
  | .null => some ""
  | .bool b => some (if b then "true" else "false")
  | .text s => some s
  | .bytes bs => some (String.ofList (Utf8.decode bs))
  | .int _ n => some (toString n)
  | .float64 x => some (x.text .double .positional)
  | .float32 x => some (x.text .single .positional)
  | .numeral s => some s
  | .time t => some t.long
  | .list _ | .map _ => none
def asText (v : Value) : String :=
  v.asText?.getD ""
def words (s : String) : List String :=
  ((s.toList.splitBy fun a b => CharClass.blank a == CharClass.blank b).filter
    fun run => !run.any CharClass.blank).map String.ofList

def asTexts : Value → List String
  | .null => []
  | .list items => (items.mapM asText?).getD []
  | .text s => words s
  | v => match v.asText? with
    | some s => [s]
    | none => []

def asTextMap : Value → List (String × String)
  | .map fields => fields.foldl (fun m (k, v) => setText m k v.asText) []
  | .text s => match Json.read s with
    | .ok (.object members) => members.foldl (fun m (k, j) => match j with
        | .string t => setText m k t
        | _ => setText m k "") []
    | _ => []
  | _ => []
where
  setText (m : List (String × String)) (k v : String) : List (String × String) :=
    if m.any (·.1 == k) then m.map fun e => if e.1 == k then (k, v) else e else m ++ [(k, v)]

def boolWord? (s : String) : Option Bool :=
  if s ∈ ["1", "t", "T", "TRUE", "true", "True"] then some true
  else if s ∈ ["0", "f", "F", "FALSE", "false", "False"] then some false
  else none

def asBool : Value → Bool
  | .bool b => b
  | .text s => (boolWord? s).getD false
  | .int _ n => n != 0
  | .float64 x | .float32 x => match x.toRat? with
    | some q => q != 0
    | none => true
  | _ => false
def asDuration : Value → Int
  | .text s =>
    let text := if s.toList.any (fun c => "nsuµmh".toList.contains c) then s else s ++ "ns"
    match Duration.parse text with
    | .ok d => d
    | .error _ => 0
  | .int _ n => n
  | .float64 x | .float32 x => match x.toRat? with
    | some q => if q < 0 then -((-q).floor) else q.floor
    | none => 0
  | _ => 0

end Value

end AccessPolicy
