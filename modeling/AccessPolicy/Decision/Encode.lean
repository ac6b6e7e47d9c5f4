import AccessPolicy.Decision.Basic
import AccessPolicy.Json.Write
/-!
# Decisions and access records as JSON

The program writes decisions and access records as JSON objects whose members come in a fixed
order. A member marked optional below is left out when it is empty (no text, no items, no
value):

* a decision: `id`, `outcome`, `appliedPolicyIds`, `rowFilter` (optional, the filter's text),
  `columnMasks` (optional, by column in ascending order), `snapshotVersion`, `state`,
  `rowMatch` (optional);
* a mask: `function`, `args` (optional), `policyId` (optional);
* an access record: `metadata` (`id`, `timestamp`, `env` optional), `principal` (`subject`,
  `groups` optional), `action`, `resource`, `tags` (optional), `decision`, `references`
  (optional; each `id`, `origin`, `tag` optional, `decision`), `rowFilter` (optional),
  `maskedColumns` (optional), `snapshotVersion`, `duration`.

The stamp of a record, its id, time and duration, and the environment it names come from where
it is written, not from the decision.
-/

namespace AccessPolicy
def optionalMember (name : String) (empty : Bool) (value : Json) : List (String × Json) :=
  if empty then [] else [(name, value)]
def insertMember (kv : String × Json) : List (String × Json) → List (String × Json)
  | [] => [kv]
  | x :: xs => if kv.1 < x.1 then kv :: x :: xs else x :: insertMember kv xs

def sortMembers (ms : List (String × Json)) : List (String × Json) :=
  ms.foldr insertMember []

def MaskSpec.toJson (m : MaskSpec) : Json :=
  .object ([("function", .string m.function)] ++
    optionalMember "args" m.args.isEmpty (Json.strs m.args) ++
    optionalMember "policyId" m.policyId.isEmpty (.string m.policyId))

def Decision.toJson (d : Decision) (id : String) : Json :=
  .object ([("id", .string id), ("outcome", .string d.outcome.text),
      ("appliedPolicyIds", Json.strs d.appliedPolicyIds)] ++
    (match d.rowFilter with
      | some f => [("rowFilter", .string f.text)]
      | none => []) ++
    optionalMember "columnMasks" d.columnMasks.isEmpty
      (.object (sortMembers (d.columnMasks.map fun (c, ms) => (c, .array (ms.map MaskSpec.toJson))))) ++
    [("snapshotVersion", Json.nat d.snapshotVersion), ("state", .string d.phase.text)] ++
    (match d.rowMatch with
      | some b => [("rowMatch", .bool b)]
      | none => []))

/-- Where and when a record is written: its id, its time, the environment it names, and how
long the decision took, in nanoseconds. -/
structure RecordStamp where
  id : String
  timestamp : String
  env : List (String × String) := []
  duration : Nat := 0
  deriving Repr, Inhabited

def Reference.toJson (r : Reference) : Json :=
  .object ([("id", .string r.id), ("origin", .string r.origin.text)] ++
    optionalMember "tag" r.tag.isEmpty (.string r.tag) ++
    [("decision", .string r.outcome.text)])

def AccessRecord.toJson (r : AccessRecord) (stamp : RecordStamp) : Json :=
  .object ([
      ("metadata", .object ([("id", .string stamp.id), ("timestamp", .string stamp.timestamp)] ++
        optionalMember "env" stamp.env.isEmpty
          (.object (sortMembers (stamp.env.map fun (k, v) => (k, .string v)))))),
      ("principal", .object ([("subject", .string r.subject)] ++
        optionalMember "groups" r.groups.isEmpty (Json.strs r.groups))),
      ("action", .string r.action), ("resource", .string r.resource)] ++
    optionalMember "tags" r.tags.isEmpty (Json.strs r.tags) ++
    [("decision", .string r.outcome.text)] ++
    optionalMember "references" r.references.isEmpty (.array (r.references.map Reference.toJson)) ++
    optionalMember "rowFilter" r.rowFilter.isEmpty (.string r.rowFilter) ++
    optionalMember "maskedColumns" r.maskedColumns.isEmpty (Json.strs r.maskedColumns) ++
    [("snapshotVersion", Json.nat r.snapshotVersion), ("duration", Json.nat stamp.duration)])

def Json.line (j : Json) : String := Json.compact true j

def Json.pretty (j : Json) : String := Json.indented true 0 j

end AccessPolicy
