import AccessPolicy.Interceptor.Guard
import AccessPolicy.Interceptor.HiveOperation
/-!
# Guarding hive operations

A hive interceptor guards the statements of one hive service: resources are databases, tables
(`database/table`) and columns (`database/table/column`).

* Checking privileges for an operation on objects needs the operation's action on each object:
  a database, a table, or each listed column of a table. The operation name must be exact, and
  at least one object named; the first failure stops.
* Row policies need `read` on the table; the rows that pass the decision's row filter are
  kept, with masked columns masked.
-/

namespace AccessPolicy

structure HiveObject where
  database : String
  table : String := ""
  columns : List String := []
  deriving Repr, DecidableEq, Inhabited

structure HiveGuard where
  service : String
  deriving Repr, DecidableEq, Inhabited

namespace HiveGuard

variable {m : Type → Type} [Monad m]

def paths (h : HiveGuard) (o : HiveObject) : List ResourcePath :=
  if o.table.isEmpty then [⟨h.service, [o.database]⟩]
  else if o.columns.isEmpty then [⟨h.service, [o.database, o.table]⟩]
  else o.columns.map fun c => ⟨h.service, [o.database, o.table, c]⟩

def checkPrivileges (h : HiveGuard) (eval : Evaluator m) (p : Principal) (operation : String)
    (objects : List HiveObject) : m (Except GuardError Unit) :=
  match HiveOperation.ofName? operation with
  | none => pure (.error (.unsupported operation))
  | some op =>
    if objects.isEmpty then pure (.error (.noObjects operation))
    else guardAll eval p op.action (objects.flatMap h.paths)
def applyRowPolicies (h : HiveGuard) (eval : Evaluator m) (p : Principal)
    (database table : String) (rows : List Row) : m (Except GuardError (List Row)) := do
  match ← guard eval p .read ⟨h.service, [database, table]⟩ false with
  | .error e => pure (.error e)
  | .ok d => pure (.ok (d.applyToRows rows))

end HiveGuard

end AccessPolicy
