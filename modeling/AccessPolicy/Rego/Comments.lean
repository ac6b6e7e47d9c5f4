import AccessPolicy.Rego.Parse
/-!
# Comments

A comment runs from `#` to the end of its line, a carriage return before the line break
dropped. Only the stretches between tokens hold comments: a `#` inside a string is part of the
string. Each comment is found with the offset of its `#`, from which its line and column follow,
both counted from one.
-/

namespace AccessPolicy.Rego

/-- The comments in a stretch of characters between tokens that starts at offset `start` of the
source, each with the offset of its `#`: a comment runs from `#` to the end of its line, a
carriage return before the line break dropped. -/
def gapComments : Nat → Nat → List Char → List (String × Nat)
  | 0, _, _ => []
  | _ + 1, _, [] => []
  | fuel + 1, start, c :: rest =>
    if c == '#' then
      let line := rest.takeWhile (· != '\n')
      let text := if line.getLast? == some '\r' then line.dropLast else line
      (String.ofList text, start) :: gapComments fuel (start + 1 + line.length) (rest.drop line.length)
    else gapComments fuel (start + 1) rest

def sourceComments (source : String) : List (String × Nat) :=
  let chars := source.toList
  let tokens := scan (baseKeywords ++ futureKeywords) source
  let (found, _) := tokens.foldl (fun (acc : List (String × Nat) × Nat) t =>
    let gap := (chars.drop acc.2).take (t.place.offset - acc.2)
    (acc.1 ++ gapComments (gap.length + 1) acc.2 gap, t.stop)) ([], 0)
  found

def lineAndColumn (chars : List Char) (offset : Nat) : Nat × Nat :=
  let before := chars.take offset
  (before.count '\n' + 1, (before.reverse.takeWhile (· != '\n')).length + 1)

end AccessPolicy.Rego
