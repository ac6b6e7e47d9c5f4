import AccessPolicy.Number.Decimal
/-!
# Semantic versions

A version is `MAJOR.MINOR.PATCH`, then optionally `-` and a pre-release, then optionally `+` and
build metadata. The metadata is split off at the first `+`, then the pre-release at the first `-`
of what is left; the rest splits at its first two dots into three decimal integers of 64 bits
(leading zeros allowed). A pre-release or metadata that is there must be identifiers of letters,
digits and `-`, separated by single dots.

Versions are ordered by major, minor and patch numbers, then by pre-release: a version without
one comes after a version with one. Two pre-releases are compared identifier by identifier:
* an identifier that reads as an integer comes before one that does not;
* two integers compare by value, and when equal by their text;
* other identifiers compare by their text.
A pre-release that runs out first comes first. Metadata plays no part.
-/

namespace AccessPolicy

structure Semver where
  major : Int
  minor : Int
  patch : Int
  preRelease : String
  metadata : String
  deriving Repr, DecidableEq, Inhabited

namespace Semver

/-- Splits a text at the first occurrence of a character: what comes before it, and what comes
after it (empty when it does not occur). -/
def splitOff (s : String) (c : Char) : String × String :=
  match s.toList.idxOf? c with
  | some i => (String.ofList (s.toList.take i), String.ofList (s.toList.drop (i + 1)))
  | none => (s, "")

def validIdentifiers (s : String) : Bool :=
  s.isEmpty || (s.splitOn ".").all fun part =>
    !part.isEmpty && part.toList.all fun c => c.isAlphanum || c == '-'

def splitDots (s : String) : List String :=
  match s.splitOn "." with
  | a :: b :: c :: rest => [a, b, ".".intercalate (c :: rest)]
  | parts => parts

def read? (s : String) : Option Semver := do
  let (rest, metadata) := splitOff s '+'
  let (core, preRelease) := splitOff rest '-'
  let parts := splitDots core
  if parts.length != 3 || !validIdentifiers preRelease || !validIdentifiers metadata then none
  else
    let nums ← parts.mapM readInt64?
    match nums with
    | [major, minor, patch] => some { major, minor, patch, preRelease, metadata }
    | _ => none

def compareText (a b : String) : Ordering :=
  if a < b then .lt else if a == b then .eq else .gt

def comparePre : List String → List String → Ordering
  | [], [] => .eq
  | [], _ :: _ => .lt
  | _ :: _, [] => .gt
  | a :: as, b :: bs =>
    let byKind : Ordering := match readInt64? a, readInt64? b with
      | some _, none => .lt
      | none, some _ => .gt
      | some x, some y => if x < y then .lt else if x > y then .gt else compareText a b
      | none, none => compareText a b
    match byKind with
    | .eq => comparePre as bs
    | o => o

def compare (a b : Semver) : Ordering :=
  match Ord.compare a.major b.major, Ord.compare a.minor b.minor, Ord.compare a.patch b.patch with
  | .eq, .eq, .eq =>
    if a.preRelease.isEmpty && !b.preRelease.isEmpty then .gt
    else if b.preRelease.isEmpty && !a.preRelease.isEmpty then .lt
    else
      let ids := fun (s : String) => if s.isEmpty then [] else s.splitOn "."
      comparePre (ids a.preRelease) (ids b.preRelease)
  | .eq, .eq, o => o
  | .eq, o, _ => o
  | o, _, _ => o

end Semver

end AccessPolicy
