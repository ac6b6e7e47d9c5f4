/-!
# Resources and their hierarchies

A resource lives in a service and is named by segments down the service's hierarchy: an hbase
table, column family and column; a hive database, table and column; an hdfs path. The hdfs
hierarchy is recursive: its one segment is a whole path, and its ancestors are the directories
above it.

A resource is written `service/segment/…`. Reading splits at `/` into at most `depth + 1`
parts, so the last segment keeps any further `/`.
-/

namespace AccessPolicy
inductive ServiceType where
  | hbase
  | hive
  | hdfs
  deriving Repr, DecidableEq, Inhabited

namespace ServiceType

def name : ServiceType → String
  | .hbase => "hbase"
  | .hive => "hive"
  | .hdfs => "hdfs"

def ofName? : String → Option ServiceType
  | "hbase" => some .hbase
  | "hive" => some .hive
  | "hdfs" => some .hdfs
  | _ => none
def names : List String := ["hbase", "hdfs", "hive"]

end ServiceType

structure Hierarchy where
  levels : List String
  recursive : Bool := false
  deriving Repr, DecidableEq, Inhabited

def ServiceType.hierarchy : ServiceType → Hierarchy
  | .hbase => { levels := ["table", "column-family", "column"] }
  | .hive => { levels := ["database", "table", "column"] }
  | .hdfs => { levels := ["path"], recursive := true }

def Hierarchy.depth (h : Hierarchy) : Nat := h.levels.length

structure ResourcePath where
  service : String
  segments : List String
  deriving Repr, DecidableEq, Inhabited

inductive PathError where
  | badDepth (depth : Int)
  | malformed (text : String)
  deriving Repr, DecidableEq

def PathError.message : PathError → String
  | .badDepth d => "invalid hierarchy depth " ++ toString d
  | .malformed s => "resource '" ++ s ++ "' must have the form service/segment[/segment...]"

namespace ResourcePath

def text (p : ResourcePath) : String :=
  p.service ++ "/" ++ "/".intercalate p.segments

def splitAtMost (s : String) (n : Nat) : List String :=
  let parts := (s.toList.splitOn '/').map String.ofList
  if parts.length ≤ n then parts
  else parts.take (n - 1) ++ ["/".intercalate (parts.drop (n - 1))]

def parse (s : String) (depth : Int) : Except PathError ResourcePath :=
  if depth < 1 then .error (.badDepth depth)
  else
    match splitAtMost s (depth.toNat + 1) with
    | service :: first :: rest =>
      if service.isEmpty ∨ first.isEmpty then .error (.malformed s)
      else .ok ⟨service, first :: rest⟩
    | _ => .error (.malformed s)

def prefixOf (p : ResourcePath) (n : Nat) : ResourcePath :=
  ⟨p.service, p.segments.take n⟩

def directories (p : ResourcePath) (seg : String) : List ResourcePath :=
  let cs := seg.toList
  let cuts := (List.range cs.length).filter fun i => i ≥ 1 ∧ cs.getD i ' ' = '/'
  let dirs := cuts.map fun i => ResourcePath.mk p.service [String.ofList (cs.take i)]
  let root := if seg.startsWith "/" ∧ seg ≠ "/" then [ResourcePath.mk p.service ["/"]] else []
  root ++ dirs ++ [p]

/-- The ancestors of a resource, itself included, outermost first: the prefixes of its segments,
or for a recursive hierarchy the directories of its path. -/
def ancestors (p : ResourcePath) (h : Hierarchy) : List ResourcePath :=
  match h.recursive, p.segments with
  | true, [seg] => p.directories seg
  | _, _ => (List.range p.segments.length).map fun i => p.prefixOf (i + 1)

end ResourcePath

end AccessPolicy
