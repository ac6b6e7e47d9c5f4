import AccessPolicy.Decision.Evaluate
import AccessPolicy.Files.Tree
/-!
# The decision engine

An engine holds where its policy documents come from, an optional outside tag source, and the
snapshot decisions read. Documents come either from memory, by name, read in ascending order of
name; or from policy paths in a file tree, where a path names a file, or a directory whose
files with extension `.yml` or `.yaml` (in any case) count, in ascending order, without
descending further.

Loading reads the documents into a snapshot whose version is one more than the last published;
a load that fails publishes nothing and leaves the version as it was. Changing a document takes
effect at the next load.
-/

namespace AccessPolicy

inductive EngineError where
  | create (cause : LoadError)
  | reload (cause : LoadError)
  deriving Repr, Inhabited

namespace EngineError

def cause : EngineError → LoadError
  | .create e => e
  | .reload e => e

def message : EngineError → String
  | .create e => "error creating policy engine: " ++ e.message
  | .reload e => "reload failed; previous snapshot kept: " ++ e.message

end EngineError

inductive DocumentSource where
  | named (documents : List (String × String))
  | files (paths : List String) (tree : FileTree)
  deriving Repr, Inhabited

def isPolicyFileName (name : String) : Bool :=
  let ext := CharClass.lowerText (FilePath.extension name)
  ext == ".yml" || ext == ".yaml"

/-- The policy files that paths name, in order: a file as given, and of a directory its files
with a policy file's extension, in ascending order. -/
def FileTree.policyFiles (t : FileTree) (paths : List String) : Except String (List String) :=
  paths.flatMapM fun p => do
    match ← t.stat p with
    | .file => pure [p]
    | .directory =>
      let entries ← t.readDir p
      pure ((entries.filter fun e => !e.isDir && isPolicyFileName e.name).map fun e =>
        FilePath.join p e.name)

/-- Reads the documents of a source as domains; the first that does not read is reported under
its own name. -/
def DocumentSource.read : DocumentSource → Except LoadError (List Domain)
  | .named docs => docs.mapM fun (name, text) =>
    (Domain.read name text).mapError (LoadError.unreadable name)
  | .files paths tree => do
    let found ← (tree.policyFiles paths).mapError LoadError.unavailable
    found.mapM fun f => do
      let text ← (tree.readFile f).mapError (LoadError.unreadable f)
      (Domain.read f text).mapError (LoadError.unreadable f)

structure Engine where
  documents : DocumentSource
  tagSource : Option TagSource
  snapshot : Snapshot
  deriving Inhabited

def insertDocument (doc : String × String) : List (String × String) → List (String × String)
  | [] => [doc]
  | d :: ds =>
    if doc.1 == d.1 then doc :: ds
    else if doc.1 < d.1 then doc :: d :: ds
    else d :: insertDocument doc ds

namespace Engine

def version (e : Engine) : Nat := e.snapshot.version

def load (documents : DocumentSource) (source : Option TagSource) (version : Nat) :
    Except LoadError Snapshot := do
  Snapshot.ofDomains version (← documents.read) source

def create (documents : DocumentSource) (source : Option TagSource) : Except EngineError Engine :=
  match load documents source 1 with
  | .ok snap => .ok ⟨documents, source, snap⟩
  | .error err => .error (.create err)

def ofDocuments (documents : List (String × String)) (source : Option TagSource) :
    Except EngineError Engine :=
  create (.named (documents.foldl (fun acc d => insertDocument d acc) [])) source

/-- Adds or replaces a document in memory; it takes effect at the next load. Nothing for an
engine over files. -/
def put (e : Engine) (name content : String) : Option Engine :=
  match e.documents with
  | .named docs => some { e with documents := .named (insertDocument (name, content) docs) }
  | .files .. => none

def updateFiles (e : Engine) (f : FileTree → FileTree) : Option Engine :=
  match e.documents with
  | .files paths tree => some { e with documents := .files paths (f tree) }
  | .named _ => none

def reload (e : Engine) : Except EngineError Engine :=
  match load e.documents e.tagSource (e.version + 1) with
  | .ok snap => .ok { e with snapshot := snap }
  | .error err => .error (.reload err)
def evaluate (e : Engine) (req : AccessRequest) : Except RequestError (Decision × AccessRecord) :=
  e.snapshot.evaluate req

def tagsFor (e : Engine) (path : ResourcePath) : List String :=
  e.snapshot.tagsFor path

def updateStore (e : Engine) (f : String → SetStore → Except String SetStore) :
    Option (Except String Engine) :=
  match e.tagSource with
  | some (.store keyPrefix sets) =>
    some ((f keyPrefix sets).map fun s => { e with tagSource := some (.store keyPrefix s) })
  | _ => none
def bindTag (e : Engine) (resource tag : String) : Option (Except String Engine) :=
  e.updateStore fun keyPrefix sets => TagSource.bind keyPrefix sets resource tag

def store? (e : Engine) : Option SetStore :=
  match e.tagSource with
  | some (.store _ sets) => some sets
  | _ => none

end Engine

end AccessPolicy
