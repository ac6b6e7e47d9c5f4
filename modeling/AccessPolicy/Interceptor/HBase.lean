import AccessPolicy.Interceptor.Guard
/-!
# Guarding hbase operations

An hbase interceptor guards the operations of one hbase service: resources are tables, column
families (`table/family`) and columns (`table/family/qualifier`; a cell without a qualifier
stands for its family).

* Creating and dropping a table need `create` and `drop` on it.
* A get of some families goes ahead with the families that may be read; it fails only when
  none may, with the first refusal. A get of no family needs `read` on the table.
* Puts and deletes need `write` on every cell or family named, or on the table when none is;
  the first failure stops them.
* A scan's results keep the cells that may be read (each family and qualifier judged once) and
  drop rows left empty.
* Listing tables keeps the tables that may be read, judged as probes.

A failure other than a refusal stops every operation.
-/

namespace AccessPolicy

structure Cell where
  family : String
  qualifier : String
  value : List UInt8
  deriving Repr, DecidableEq, Inhabited

structure ScanRow where
  key : String
  cells : List Cell
  deriving Repr, DecidableEq, Inhabited

structure HBaseGuard where
  service : String
  deriving Repr, DecidableEq, Inhabited

namespace HBaseGuard

variable {m : Type → Type} [Monad m]

def path (h : HBaseGuard) (segments : List String) : ResourcePath := ⟨h.service, segments⟩

def cellPath (h : HBaseGuard) (table : String) (c : Cell) : ResourcePath :=
  if c.qualifier.isEmpty then h.path [table, c.family] else h.path [table, c.family, c.qualifier]

def preCreateTable (h : HBaseGuard) (eval : Evaluator m) (p : Principal) (table : String) :
    m (Except GuardError Unit) :=
  guardAll eval p .create [h.path [table]]

def preDropTable (h : HBaseGuard) (eval : Evaluator m) (p : Principal) (table : String) :
    m (Except GuardError Unit) :=
  guardAll eval p .drop [h.path [table]]

/-- The families of a get that may be read, from the first; refusals are collected, any other
failure stops. -/
def readableFamilies (h : HBaseGuard) (eval : Evaluator m) (p : Principal) (table : String) :
    List String → m (Except GuardError (List String × List GuardError))
  | [] => pure (.ok ([], []))
  | f :: fs => do
    let r ← guard eval p .read (h.path [table, f]) false
    match r with
    | .error e =>
      if e.isDenial then
        match ← readableFamilies h eval p table fs with
        | .ok (ok, denied) => pure (.ok (ok, e :: denied))
        | .error e2 => pure (.error e2)
      else pure (.error e)
    | .ok _ =>
      match ← readableFamilies h eval p table fs with
      | .ok (ok, denied) => pure (.ok (f :: ok, denied))
      | .error e2 => pure (.error e2)

def preGet (h : HBaseGuard) (eval : Evaluator m) (p : Principal) (table : String)
    (families : List String) : m (Except GuardError (Option (List String))) := do
  if families.isEmpty then
    return (← guardAll eval p .read [h.path [table]]).map fun _ => none
  match ← readableFamilies h eval p table families with
  | .error e => pure (.error e)
  | .ok ([], e :: _) => pure (.error e)
  | .ok (ok, _) => pure (.ok (some ok))

def prePut (h : HBaseGuard) (eval : Evaluator m) (p : Principal) (table : String)
    (cells : List Cell) : m (Except GuardError Unit) :=
  guardAll eval p .write
    (if cells.isEmpty then [h.path [table]] else cells.map (h.cellPath table))

def preDelete (h : HBaseGuard) (eval : Evaluator m) (p : Principal) (table : String)
    (families : List String) : m (Except GuardError Unit) :=
  guardAll eval p .write
    (if families.isEmpty then [h.path [table]] else families.map fun f => h.path [table, f])

def cellReadable (h : HBaseGuard) (eval : Evaluator m) (p : Principal) (table : String)
    (seen : List (String × Bool)) (c : Cell) : m (Except GuardError (Bool × List (String × Bool))) := do
  let key := c.family ++ ":" ++ c.qualifier
  match seen.lookup key with
  | some ok => pure (.ok (ok, seen))
  | none =>
    match ← guard eval p .read (h.cellPath table c) false with
    | .ok _ => pure (.ok (true, seen ++ [(key, true)]))
    | .error e => if e.isDenial then pure (.ok (false, seen ++ [(key, false)])) else pure (.error e)

def readableCells (h : HBaseGuard) (eval : Evaluator m) (p : Principal) (table : String) :
    List (String × Bool) → List Cell → m (Except GuardError (List Cell × List (String × Bool)))
  | seen, [] => pure (.ok ([], seen))
  | seen, c :: cs => do
    match ← h.cellReadable eval p table seen c with
    | .error e => pure (.error e)
    | .ok (ok, seen) =>
      match ← readableCells h eval p table seen cs with
      | .error e => pure (.error e)
      | .ok (kept, seen) => pure (.ok (if ok then c :: kept else kept, seen))

def scanRows (h : HBaseGuard) (eval : Evaluator m) (p : Principal) (table : String) :
    List (String × Bool) → List ScanRow → m (Except GuardError (List ScanRow))
  | _, [] => pure (.ok [])
  | seen, r :: rs => do
    match ← h.readableCells eval p table seen r.cells with
    | .error e => pure (.error e)
    | .ok (kept, seen) =>
      match ← scanRows h eval p table seen rs with
      | .error e => pure (.error e)
      | .ok rest => pure (.ok (if kept.isEmpty then rest else ⟨r.key, kept⟩ :: rest))

def postScan (h : HBaseGuard) (eval : Evaluator m) (p : Principal) (table : String)
    (rows : List ScanRow) : m (Except GuardError (List ScanRow)) :=
  h.scanRows eval p table [] rows
def listTables (h : HBaseGuard) (eval : Evaluator m) (p : Principal) :
    List String → m (Except GuardError (List String))
  | [] => pure (.ok [])
  | t :: ts => do
    let r ← guard eval p .read (h.path [t]) true
    match r with
    | .error e =>
      if e.isDenial then listTables h eval p ts else pure (.error e)
    | .ok _ =>
      match ← listTables h eval p ts with
      | .error e => pure (.error e)
      | .ok rest => pure (.ok (t :: rest))

end HBaseGuard

end AccessPolicy
