import AccessPolicy.Resource.Path
import AccessPolicy.Glob.Compile
import AccessPolicy.Number.Decimal
/-!
# Resource patterns

A policy names the resources it covers by a pattern: a service and one segment per level, from
the root down. A segment is

* `*`, the wildcard, which matches any one segment;
* a glob (a segment holding any of `*`, `?`, `[` or `{`), which matches the segments it accepts;
* otherwise a literal, which matches the equal segment only.

A pattern shorter than a resource covers everything below the resource its segments match. In a
recursive hierarchy the one segment is a path: a literal covers itself and every path below it.

Patterns are ranked by `Specificity`: deeper first, then more literal segments; a recursive
pattern counts the non-empty parts of its path.
-/

namespace AccessPolicy

inductive SegmentKind where
  | literal
  | wildcard
  | glob (m : Glob.Matcher)
  deriving Inhabited
structure Segment where
  raw : String
  kind : SegmentKind
  deriving Inhabited

def isGlobText (s : String) : Bool :=
  s.any fun c => c = '*' ∨ c = '?' ∨ c = '[' ∨ c = '{'

namespace Segment

def isLiteral (s : Segment) : Bool :=
  match s.kind with
  | .literal => true
  | _ => false
def accepts (s : Segment) (v : String) : Bool :=
  match s.kind with
  | .literal => s.raw = v
  | .wildcard => true
  | .glob m => m.acceptsText v

/-- Whether a path segment matches a path: a literal path covers itself and everything below it,
with or without a final `/`. -/
def acceptsPath (s : Segment) (path : String) : Bool :=
  match s.kind with
  | .literal =>
    path = s.raw ∨ path.startsWith ((s.raw.dropSuffix "/").toString ++ "/")
  | _ => s.accepts path

end Segment

structure Pattern where
  service : String
  segments : List Segment
  recursive : Bool
  deriving Inhabited

inductive PatternError where
  | empty
  | tooDeep (segments levels : Nat)
  | emptySegment (level : String)
  | badGlob (raw level reason : String)
  deriving Repr, DecidableEq

def PatternError.message : PatternError → String
  | .empty => "empty resource pattern"
  | .tooDeep n m =>
    "resource pattern has " ++ toString n ++ " segments, hierarchy allows " ++ toString m
  | .emptySegment l => "empty segment for '" ++ l ++ "'"
  | .badGlob raw l why => "invalid pattern '" ++ raw ++ "' for '" ++ l ++ "': " ++ why

structure Specificity where
  depth : Nat
  literals : Nat
  deriving Repr, DecidableEq, Inhabited

namespace Specificity

def compare (s o : Specificity) : Int :=
  if s.depth ≠ o.depth then (s.depth : Int) - o.depth
  else (s.literals : Int) - o.literals

def text (s : Specificity) : String :=
  "(" ++ toString s.depth ++ "," ++ toString s.literals ++ ")"

end Specificity

namespace Pattern

def compileSegment (level raw : String) : Except PatternError Segment :=
  if raw.isEmpty then .error (.emptySegment level)
  else if raw = "*" then .ok ⟨raw, .wildcard⟩
  else if isGlobText raw then
    match Glob.compile raw with
    | .ok m => .ok ⟨raw, .glob m⟩
    | .error why => .error (.badGlob raw level why)
  else .ok ⟨raw, .literal⟩

def compile (service : String) (h : Hierarchy) (raws : List String) :
    Except PatternError Pattern :=
  if raws.isEmpty then .error .empty
  else if raws.length > h.depth then .error (.tooDeep raws.length h.depth)
  else
    (raws.zip h.levels).mapM (fun (raw, level) => compileSegment level raw) |>.map
      fun segs => ⟨service, segs, h.recursive⟩

def covers (p : Pattern) (r : ResourcePath) : Bool :=
  r.service = p.service ∧ p.segments.length ≤ r.segments.length ∧
    if p.recursive then
      match p.segments, r.segments with
      | s :: _, v :: _ => s.acceptsPath v
      | _, _ => true
    else (p.segments.zip r.segments).all fun (s, v) => s.accepts v

def specificity (p : Pattern) : Specificity :=
  match p.recursive, p.segments with
  | true, s :: _ =>
    let parts := (s.raw.toList.splitOn '/').filter (· ≠ [])
    ⟨parts.length, (parts.filter fun t => !isGlobText (String.ofList t)).length⟩
  | _, segs => ⟨segs.length, (segs.filter Segment.isLiteral).length⟩

def text (p : Pattern) : String :=
  p.service ++ "/" ++ "/".intercalate (p.segments.map Segment.raw)

end Pattern

def compareIds (a b : String) : Ordering :=
  match readInt64? a, readInt64? b with
  | some x, some y => Ord.compare x y
  | _, _ => Ord.compare a b

end AccessPolicy
