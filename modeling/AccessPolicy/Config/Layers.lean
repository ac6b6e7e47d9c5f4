import AccessPolicy.Value.Cast
/-!
# Layered settings

A setting is named by a dotted key such as `tags.cache.size`, read in any case. Its value comes
from the first of three layers that has one:

1. the **environment**: the variable named by the prefix, `_`, and the key in upper case with
   its dots as `_` (`DG_TAGS_CACHE_SIZE`), when it is set and not empty. Its value is a text;
2. the **settings file**: its nested maps followed key part by key part. A part may also be a
   dotted run of parts naming one entry, the longest run first, and a number picks an item
   of a list;
3. the **defaults**, nested maps followed part by part.

A layer that has a plain value where a key needs a map *shadows* the key: the key then has no
value, and the layers below are not asked. In the environment, a set variable of a key's
parent (`DG_TAGS` for `tags.source`) shadows the key likewise.
-/

namespace AccessPolicy.Config

abbrev Environment := List (String × String)

def isNothing : Value → Bool
  | .null => true
  | _ => false

/-- The value at a path of nested maps; nothing when a part is missing or a plain value stands
where a map is needed. -/
def searchMap (fields : List (String × Value)) : List String → Value
  | [] => .map fields
  | [k] => (fields.lookup k).getD .null
  | k :: ks =>
    match fields.lookup k with
    | some (.map inner) => searchMap inner ks
    | _ => .null

def shadowedIn (fields : List (String × Value)) (path : List String) : Bool :=
  let parents := (List.range path.length).filter (· > 0)
  match parents.find? fun i => !(match searchMap fields (path.take i) with
      | .map _ => true
      | _ => false) with
  | none => false
  | some i => !isNothing (searchMap fields (path.take i))

/-- The list index a key part spells, if it is a decimal number with an optional sign that
picks an item. -/
def indexOf? (part : String) (length : Nat) : Option Nat :=
  match readInt64? part with
  | some i => if 0 ≤ i ∧ i.toNat < length then some i.toNat else none
  | none => none

/-- The value at a path of nested maps and lists, where a dotted run of parts may name one entry
and longer runs are tried first. `fuel` bounds the nesting; the path's length is enough. -/
def searchNested : Nat → Value → List String → Value
  | _, source, [] => source
  | 0, _, _ => .null
  | fuel + 1, source, path =>
    let runs := (List.range path.length).reverse.map (· + 1)
    let found := runs.findSome? fun i =>
      let key := ".".intercalate (path.take i)
      let rest := path.drop i
      let next := match source with
        | .list items => (indexOf? key items.length).bind fun j => items[j]?
        | .map fields => fields.lookup key
        | _ => none
      let v := match next with
        | none => Value.null
        | some nv =>
          if rest.isEmpty then nv
          else match nv with
            | .map _ | .list _ => searchNested fuel nv rest
            | _ => .null
      if isNothing v then none else some v
    found.getD .null

structure Layers where
  env : Environment
  envPrefix : String
  file : List (String × Value) := []
  defaults : List (String × Value) := []
  deriving Repr, Inhabited

namespace Layers

def variableOf (L : Layers) (key : String) : String :=
  String.map (fun c => if c == '.' then '_' else c) (CharClass.upperText (L.envPrefix ++ "_" ++ key))

def envValue? (L : Layers) (key : String) : Option String :=
  match L.env.lookup (L.variableOf key) with
  | some v => if v.isEmpty then none else some v
  | none => none

def shadowedInEnv (L : Layers) (path : List String) : Bool :=
  ((List.range path.length).filter (· > 0)).any fun i =>
    (L.envValue? (".".intercalate (path.take i))).isSome

def get (L : Layers) (key : String) : Value :=
  let lkey := CharClass.lowerText key
  let path := lkey.splitOn "."
  let nested := path.length > 1
  match L.envValue? lkey with
  | some v => .text v
  | none =>
    if nested && L.shadowedInEnv path then .null
    else
      let fromFile := searchNested path.length (.map L.file) path
      if !isNothing fromFile then fromFile
      else if nested && shadowedIn L.file path then .null
      else searchMap L.defaults path

def getText (L : Layers) (key : String) : String := (L.get key).asText

def getTexts (L : Layers) (key : String) : List String := (L.get key).asTexts

def getTextMap (L : Layers) (key : String) : List (String × String) := (L.get key).asTextMap

def setDefault (L : Layers) (key : String) (v : Value) : Layers :=
  { L with defaults := put L.defaults (key.splitOn ".") }
where
  put (fields : List (String × Value)) : List String → List (String × Value)
    | [] => fields
    | [k] => Row.set fields (CharClass.lowerText k) v
    | k :: ks =>
      let inner := match fields.lookup k with
        | some (.map m) => m
        | _ => []
      Row.set fields k (.map (put inner ks))

end Layers

end AccessPolicy.Config
