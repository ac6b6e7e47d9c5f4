/-!
# Slash-separated paths

Paths are texts of names separated by `/`; a path starting with `/` is rooted. Cleaning a path
rewrites it lexically to the shortest equivalent: empty names and `.` are dropped, and `..`
removes the name before it, except that a rooted path cannot go above the root and a relative
one keeps the `..` it cannot resolve. The clean form of the empty path is `.`.
-/

namespace AccessPolicy.FilePath

def pushName (rooted : Bool) (acc : List String) (name : String) : List String :=
  if name.isEmpty || name == "." then acc
  else if name == ".." then
    match acc with
    | top :: rest => if top == ".." then ".." :: acc else rest
    | [] => if rooted then [] else [".."]
  else name :: acc

def clean (p : String) : String :=
  let rooted := p.startsWith "/"
  let names := ((p.splitOn "/").foldl (pushName rooted) []).reverse
  let body := "/".intercalate names
  if rooted then "/" ++ body
  else if body.isEmpty then "." else body

def join (a b : String) : String :=
  if a.isEmpty then (if b.isEmpty then "" else clean b)
  else if b.isEmpty then clean a
  else clean (a ++ "/" ++ b)

def dir (p : String) : String :=
  let cs := p.toList
  let kept := (cs.reverse.dropWhile (· != '/')).reverse
  clean (String.ofList kept)

def isAbsolute (p : String) : Bool := p.startsWith "/"

def baseName (p : String) : String :=
  ((p.splitOn "/").getLast?).getD p

def extension (p : String) : String :=
  let name := baseName p
  match (name.splitOn ".") with
  | [_] => ""
  | parts => "." ++ (parts.getLast?).getD ""

def names (p : String) : List String :=
  if p == "." then [] else p.splitOn "/"

end AccessPolicy.FilePath
