import AccessPolicy.Decision.Encode
import AccessPolicy.Files.Tree
/-!
# Access logs

Every decision that is not a probe sends its access record to the engine's access log. A log
is one of:

* a *channel*, which holds the records until a reader takes them;
* a *writer*, which writes each record as a JSON document and a line feed, on one line or
  indented by two spaces, with `<`, `>` and `&` escaped;
* the *console*, a writer on the process's standard output, which is not kept here;
* a *discard*, which drops every record;
* a *table*, which stores each record with its subject and resource and answers queries newest
  first.

A table lives in memory (`:memory:`) or in a database file; the file's directory must exist and
the path must not be a directory, or the table cannot be opened.
-/

namespace AccessPolicy

structure StoredRecord where
  subject : String
  resource : String
  document : Json
  deriving Repr, Inhabited

inductive AccessLog where
  | channel (held : List AccessRecord)
  | writer (indented : Bool) (written : List String)
  | console
  | discard
  | table (rows : List StoredRecord)
  deriving Repr, Inhabited

namespace AccessLog

def unopenable : String :=
  "migrate access log: unable to open database file: out of memory (14)"

/-- Opens an access table at a path of a file tree: in memory, or in a file whose directory
exists and that is not itself a directory. -/
def openTable (tree : FileTree) (path : String) : Except String AccessLog :=
  if path == ":memory:" then .ok (.table [])
  else
    match tree.stat (FilePath.dir path), tree.stat path with
    | .ok .directory, .ok .directory => .error unopenable
    | .ok .directory, _ => .ok (.table [])
    | _, _ => .error unopenable

def send (log : AccessLog) (stamp : RecordStamp) (r : AccessRecord) : AccessLog :=
  match log with
  | .channel held => .channel (held ++ [r])
  | .writer indented written =>
    let doc := r.toJson stamp
    .writer indented (written ++ [(if indented then Json.pretty doc else Json.line doc) ++ "\n"])
  | .console => .console
  | .discard => .discard
  | .table rows => .table (rows ++ [⟨r.subject, r.resource, r.toJson stamp⟩])

def take (log : AccessLog) : (List AccessRecord × List String) × AccessLog :=
  match log with
  | .channel held => ((held, []), .channel [])
  | .writer indented written => (([], written), .writer indented [])
  | other => (([], []), other)

/-- The stored records with a subject and a resource (any when empty), newest first, at most
`limit` of them, or a hundred when `limit` is not positive; nothing for a log that is not a
table. -/
def query (log : AccessLog) (subject resource : String) (limit : Int) : Option (List Json) :=
  match log with
  | .table rows =>
    let found := rows.reverse.filter fun row =>
      (subject.isEmpty || row.subject == subject) && (resource.isEmpty || row.resource == resource)
    some ((found.take (if limit > 0 then limit.toNat else 100)).map (·.document))
  | _ => none

end AccessLog

end AccessPolicy
