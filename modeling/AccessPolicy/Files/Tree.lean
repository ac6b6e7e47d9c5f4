import AccessPolicy.Files.Path
/-!
# Trees of files

A file tree holds text files and directories under one working directory, by clean relative
path. The working directory may have an absolute name, its root; then an absolute path under the
root, or a relative path that leaves the working directory and comes back into it, names the same
entry as the relative path inside, and a place outside the root is held by its clean absolute
path. A directory exists when it was made or when something lies under it. Looking a path up answers as a file system does:

* a path under a file fails with `not a directory`;
* a path that is neither a file nor a directory fails with `no such file or directory`;
* listing a directory gives its entries in ascending order of name.

Error texts name the operation and the path as given: `stat p: …`, `open p: …`, `read p: …`.
-/

namespace AccessPolicy

inductive FileKind where
  | file
  | directory
  deriving Repr, DecidableEq, Inhabited

structure DirEntry where
  name : String
  isDir : Bool
  deriving Repr, DecidableEq, Inhabited
structure FileTree where
  files : List (String × String) := []
  dirs : List String := []
  root : String := ""
  deriving Repr, DecidableEq, Inhabited

namespace FileTree
def isUnder (dir p : String) : Bool :=
  dir == "." || p.startsWith (dir ++ "/")

def isFile (t : FileTree) (p : String) : Bool :=
  (t.files.lookup p).isSome

def isDir (t : FileTree) (p : String) : Bool :=
  p == "." || t.dirs.contains p || t.files.any (fun f => isUnder p f.1) ||
    t.dirs.any (isUnder p)

def inside? (p : String) : Option String :=
  let c := FilePath.clean p
  if c.startsWith "/" || c == ".." || c.startsWith "../" then none else some c

/-- The key a path has in the tree. Without a root, only places inside the working directory
have one, their clean relative path. With a root, a path is read against it: a place inside
has its clean relative path, and one outside its clean absolute path. -/
def locate? (t : FileTree) (p : String) : Option String :=
  if t.root.isEmpty then inside? p
  else
    let abs := FilePath.clean (if p.startsWith "/" then p else t.root ++ "/" ++ p)
    if abs == t.root then some "."
    else if abs.startsWith (t.root ++ "/") then some (abs.drop (t.root.length + 1)).toString
    else some abs
def underFile (t : FileTree) (p : String) : Bool :=
  let ns := FilePath.names p
  (List.range ns.length).any fun i => i > 0 && t.isFile ("/".intercalate (ns.take i))

def stat (t : FileTree) (given : String) : Except String FileKind :=
  match t.locate? given with
  | none => .error ("stat " ++ given ++ ": no such file or directory")
  | some p =>
    if t.underFile p then .error ("stat " ++ given ++ ": not a directory")
    else if t.isFile p then .ok .file
    else if t.isDir p then .ok .directory
    else .error ("stat " ++ given ++ ": no such file or directory")
def readDir (t : FileTree) (given : String) : Except String (List DirEntry) :=
  match t.locate? given with
  | none => .error ("open " ++ given ++ ": no such file or directory")
  | some p =>
    if !t.isDir p then .error ("open " ++ given ++ ": no such file or directory")
    else
      let rests := (t.files.map (·.1) ++ t.dirs).filterMap fun q =>
        if isUnder p q then
          let rest := if p == "." then q else q.drop (p.length + 1) |>.toString
          match rest.splitOn "/" with
          | [name] => some (name, t.isDir (FilePath.join p name))
          | name :: _ => some (name, true)
          | [] => none
        else none
      let names := ((rests.map (·.1)).mergeSort fun a b => decide (a ≤ b)).eraseDups
      .ok (names.map fun n => ⟨n, (rests.lookup n).getD false⟩)

def readFile (t : FileTree) (given : String) : Except String String :=
  match t.locate? given with
  | none => .error ("open " ++ given ++ ": no such file or directory")
  | some p =>
    match t.files.lookup p with
    | some content => .ok content
    | none =>
      if t.underFile p then .error ("open " ++ given ++ ": not a directory")
      else if t.isDir p then .error ("read " ++ given ++ ": is a directory")
      else .error ("open " ++ given ++ ": no such file or directory")
def write (t : FileTree) (p content : String) : FileTree :=
  if t.isFile p then { t with files := t.files.map fun f => if f.1 == p then (p, content) else f }
  else { t with files := t.files ++ [(p, content)] }
def remove (t : FileTree) (p : String) : FileTree :=
  { t with files := t.files.filter (·.1 != p), dirs := t.dirs.filter (· != p) }

def makeDir (t : FileTree) (p : String) : FileTree :=
  if t.dirs.contains p then t else { t with dirs := t.dirs ++ [p] }

end FileTree

end AccessPolicy
