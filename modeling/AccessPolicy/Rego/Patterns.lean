import AccessPolicy.Rego.Builtin
import AccessPolicy.Regex.Search
import AccessPolicy.Regex.Overlap
/-!
# The regular-expression built-ins

Policies match strings against regular expressions with `regex.match`, and split, search and
rewrite strings with `regex.split`, `regex.find_n`, `regex.find_all_string_submatch_n` and
`regex.replace`. A pattern that does not read is a failed call, except for `regex.is_valid`,
which answers false for it and for anything that is not a string.
-/

namespace AccessPolicy.Rego

namespace Patterns

open Regex

def metaChars : List Char := "\\.+*?()|[]\x7b\x7d^$".toList
def quoteMeta (s : String) : String :=
  String.ofList (s.toList.flatMap fun c => if metaChars.contains c then ['\\', c] else [c])

/-- The spans `[start, end)` of the outermost delimited parts of a template, or none when the
delimiters do not balance. -/
def delimitedSpans (open_ close : Char) (s : List Char) : Option (List (Nat × Nat)) :=
  let step := fun (acc : Option (Int × Nat × List (Nat × Nat))) ((c, i) : Char × Nat) =>
    acc.bind fun (level, start, spans) =>
      if c = open_ then
        some (level + 1, (if level = 0 then i else start), spans)
      else if c = close then
        if level - 1 = 0 then some (0, start, spans ++ [(start, i + 1)])
        else if level - 1 < 0 then none
        else some (level - 1, start, spans)
      else some (level, start, spans)
  match s.zipIdx.foldl step (some (0, 0, [])) with
  | some (0, _, spans) => some spans
  | _ => none

/-- The pattern of a template: its literal parts quoted, its delimited parts as groups, the
whole anchored. -/
def templatePattern (template : String) (open_ close : Char) : Option String := do
  let s := template.toList
  let spans ← delimitedSpans open_ close s
  let (body, last) ← spans.foldlM (fun (acc : String × Nat) (a, b) => do
    let (out, from_) := acc
    let raw := String.ofList ((s.drop from_).take (a - from_))
    let part := String.ofList ((s.drop (a + 1)).take (b - 1 - (a + 1)))
    match Program.read ("^" ++ part ++ "$") with
    | .ok _ => some (out ++ quoteMeta raw ++ "(" ++ part ++ ")", b)
    | .error _ => none) ("", 0)
  some ("^" ++ body ++ quoteMeta (String.ofList (s.drop last)) ++ "$")

def compiled? (pattern : String) : Option Program :=
  match Program.read pattern with
  | .ok p => some p
  | .error _ => none

def limitOf (n : Int) : Option Nat :=
  if n < 0 then none else some n.toNat

/-- The value of a call of a regular-expression built-in; none when the call fails or the
function is not one of these. -/
def apply (name : String) (args : List Datum) : Option Datum :=
  match name, args with
  | "regex.globs_match", [.string a, .string b] => (Overlap.overlap? a b).map .bool
  | "regex.is_valid", [.string p] => some (.bool (compiled? p).isSome)
  | "regex.is_valid", [_] => some (.bool false)
  | "regex.match", [.string p, .string s] | "re_match", [.string p, .string s] => do
    let prog ← compiled? p
    some (.bool (prog.matches s))
  | "regex.split", [.string p, .string s] => do
    let prog ← compiled? p
    some (.array ((prog.split p s).map Datum.string))
  | "regex.find_n", [.string p, .string s, .number n] => do
    let prog ← compiled? p
    let n ← integer? n
    some (.array ((prog.findTexts s (limitOf n)).map Datum.string))
  | "regex.find_all_string_submatch_n", [.string p, .string s, .number n] => do
    let prog ← compiled? p
    let n ← integer? n
    some (.array ((prog.submatches s (limitOf n)).map fun m => .array (m.map Datum.string)))
  | "regex.replace", [.string s, .string p, .string template] => do
    let prog ← compiled? p
    some (.string (prog.replaceAll s template))
  | "regex.template_match", [.string t, .string s, .string a, .string b] =>
    match a.toList, b.toList with
    | [open_], [close] => do
      let pattern ← templatePattern t open_ close
      let prog ← compiled? pattern
      some (.bool (prog.matches s))
    | _, _ => none
  | _, _ => none

end Patterns

end AccessPolicy.Rego
