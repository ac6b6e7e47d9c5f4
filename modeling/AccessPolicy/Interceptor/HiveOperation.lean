import AccessPolicy.Resource.Action
/-!
# Hive operations

A hive statement is classified by its operation, and each operation asks for one action. An
operation name is read after trimming blanks and folding to upper case; a name such as
`ALTERTABLE_ADDCOLS` that is not known itself is read as the part before its first `_`.
-/

namespace AccessPolicy

inductive HiveOperation where
  | query
  | select
  | insert
  | load
  | createDatabase
  | dropDatabase
  | createTable
  | dropTable
  | alterTable
  deriving Repr, DecidableEq, Inhabited

namespace HiveOperation

def all : List HiveOperation :=
  [.query, .select, .insert, .load, .createDatabase, .dropDatabase, .createTable, .dropTable,
    .alterTable]

def name : HiveOperation → String
  | .query => "QUERY"
  | .select => "SELECT"
  | .insert => "INSERT"
  | .load => "LOAD"
  | .createDatabase => "CREATEDATABASE"
  | .dropDatabase => "DROPDATABASE"
  | .createTable => "CREATETABLE"
  | .dropTable => "DROPTABLE"
  | .alterTable => "ALTERTABLE"

def action : HiveOperation → Action
  | .query | .select => .read
  | .insert | .load => .write
  | .createDatabase | .createTable => .create
  | .dropDatabase | .dropTable => .drop
  | .alterTable => .alter

def ofName? (s : String) : Option HiveOperation :=
  all.find? (·.name = s)

def parse (s : String) : Except String HiveOperation :=
  let op := CharClass.upperText (CharClass.trimBlank s)
  match ofName? op with
  | some o => .ok o
  | none =>
    let base := (op.splitOn "_").headD op
    match (if op.contains '_' then ofName? base else none) with
    | some o => .ok o
    | none => .error ("unsupported hive operation '" ++ s ++ "'")

end HiveOperation

end AccessPolicy
