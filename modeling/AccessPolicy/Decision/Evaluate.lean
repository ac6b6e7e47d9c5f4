import AccessPolicy.Decision.Basic
import AccessPolicy.Snapshot.Basic
/-!
# Judging a request

A request is first checked: a user, a known action, a declared service, one to `depth`
segments, each non-empty and concrete (no `*`, `?` or `[`), and without `/` unless the service's
one level is a path, which is then made absolute. Then:

* **Collecting.** The enabled resource rules of the service whose patterns cover the resource
  are grouped by the specificity of their patterns, most specific group first. The rules of
  each tag of the resource or an ancestor follow, a rule with a service only on that service,
  each rule once.
* **Judging the principal.** A rule is a deny hit when one of its deny clauses covers the
  principal and action, and an allow hit when one of its allow clauses does. Allow hits come
  from the most specific group with any, deny hits likewise, so a narrower allow never hides a
  broader deny; tag hits always count. Hits are ordered by id. Any deny hit gives DENY,
  otherwise any allow hit gives ALLOW, otherwise DENY with no policy.
* **Judging conditions** (ALLOW only). The row filter is the conjunction of the row filters of
  the allowing rules that are for the principal; the masks of each column are gathered in hit
  order; a given row is judged against the filter.
-/

namespace AccessPolicy

structure Candidate where
  rule : Rule
  origin : Origin
  tag : String
  deriving Inhabited

def Candidate.reference (c : Candidate) (outcome : Outcome) : Reference :=
  ⟨c.rule.id, c.origin, c.tag, outcome⟩

structure CheckedRequest where
  path : ResourcePath
  action : Action
  deriving DecidableEq
def hasAnyOf (s chars : String) : Bool :=
  s.toList.any fun c => chars.toList.contains c

/-- Checks the segment at a level of a hierarchy; the level is one the hierarchy has. -/
def checkSegment (h : Hierarchy) (i : Fin h.levels.length) (seg : String) :
    Except RequestError Unit :=
  let bad := fun reason => Except.error (RequestError.invalid "resource.segments" reason)
  if seg.isEmpty then bad ("segment " ++ toString i ++ " (" ++ h.levels[i] ++ ") is empty")
  else if hasAnyOf seg "*?[" then bad ("segment " ++ toString i ++ " ('" ++ seg ++ "') must be concrete")
  else if !h.recursive && hasAnyOf seg "/" then
    bad ("segment " ++ toString i ++ " ('" ++ seg ++ "') contains '/'")
  else .ok ()

namespace Snapshot

def checkRequest (s : Snapshot) (req : AccessRequest) : Except RequestError CheckedRequest := do
  if req.principal.user.isEmpty then throw (.invalid "principal.user" "required")
  let action ← (Action.parse req.action).mapError (RequestError.invalid "action")
  let svc := req.resource.service
  let some h := s.hierarchy? svc
    | throw (.invalid "resource.service" ("unknown service '" ++ svc ++ "'"))
  let n := req.resource.segments.length
  if hn : n = 0 ∨ n > h.depth then
    throw (.invalid "resource.segments" (svc ++ " resources have 1 to " ++ toString h.depth ++
      " segments (" ++ "/".intercalate h.levels ++ "), got " ++ toString n))
  else
    -- the count check bounds the index of every segment by the depth
    req.resource.segments.zipIdx.attach.forM fun ⟨(seg, i), hi⟩ =>
      checkSegment h ⟨i, by have := (List.mem_zipIdx hi).2.1; simp only [Hierarchy.depth] at hn; omega⟩ seg
    let segments := match h.recursive, req.resource.segments with
      | true, first :: rest => if first.startsWith "/" then first :: rest else ("/" ++ first) :: rest
      | _, segs => segs
    pure ⟨⟨svc, segments⟩, action⟩

def placeInGroup (groups : List (Specificity × List Candidate)) (spec : Specificity)
    (c : Candidate) : List (Specificity × List Candidate) :=
  if groups.any fun g => g.1.compare spec == 0 then
    groups.map fun g => if g.1.compare spec == 0 then (g.1, g.2 ++ [c]) else g
  else groups ++ [(spec, [c])]

def resourceGroups (s : Snapshot) (path : ResourcePath) : List (Specificity × List Candidate) :=
  let groups := (s.resourceRulesOf path.service).foldl (fun groups r =>
    match r.pattern with
    | some p => if p.covers path then placeInGroup groups p.specificity ⟨r, .resource, ""⟩ else groups
    | none => groups) []
  Order.stableSort (fun a b => a.1.compare b.1 > 0) groups

def tagCandidates (s : Snapshot) (service : String) (tags : List String) : List Candidate :=
  (tags.foldl (fun (acc : List Candidate × List String) tag =>
    (s.rulesForTag tag).foldl (fun (acc : List Candidate × List String) r =>
      if !r.appliesToService service || acc.2.contains r.id then acc
      else (acc.1 ++ [⟨r, .tag, tag⟩], acc.2 ++ [r.id])) acc) ([], [])).1

end Snapshot

def clauseHits (cs : List Candidate) (p : Principal) (a : Action) : List Candidate × List Candidate :=
  (cs.filter fun c => c.rule.allow.any (·.applies p a),
    cs.filter fun c => c.rule.deny.any (·.applies p a))

/-- A group that governs the allow hits or the deny hits: its specificity, whether it governs
the deny hits, and how many hits it gives. -/
structure Governing where
  specificity : Specificity
  denies : Bool
  hits : Nat

/-- Hits from the first group with allow hits and the first group with deny hits, with the
governing groups in the order they were found (within one group, allows first). -/
def governingHits (p : Principal) (a : Action) :
    List (Specificity × List Candidate) → Option (List Candidate) → Option (List Candidate) →
      List Governing → List Candidate × List Candidate × List Governing
  | [], allows, denies, found => (allows.getD [], denies.getD [], found)
  | (spec, g) :: gs, allows, denies, found =>
    match allows, denies with
    | some al, some de => (al, de, found)
    | _, _ =>
      let (al, de) := clauseHits g p a
      let takeAllows := allows.isNone && !al.isEmpty
      let takeDenies := denies.isNone && !de.isEmpty
      let found := found ++ (if takeAllows then [⟨spec, false, al.length⟩] else []) ++
        (if takeDenies then [⟨spec, true, de.length⟩] else [])
      governingHits p a gs (if takeAllows then some al else allows)
        (if takeDenies then some de else denies) found

def sortHits (hs : List Candidate) : List Candidate :=
  Order.stableSort (fun a b => compareIds a.rule.id b.rule.id == .lt) hs
def hitIds (hs : List Candidate) : List String :=
  hs.foldl (fun ids h => if ids.getLast? == some h.rule.id then ids else ids ++ [h.rule.id]) []

def conditions (p : Principal) (allows : List Candidate) :
    Option RowFilter.Filter × List (String × List MaskSpec) :=
  let predicates := allows.flatMap fun h =>
    (h.rule.rowFilters.filter (·.principals.admits p)).map (·.predicate)
  let masks := allows.foldl (fun m h =>
    (h.rule.columnMasks.filter (·.principals.admits p)).foldl
      (fun m cm => appendAt cm.column cm.mask m) m) []
  (if predicates.isEmpty then none else some ⟨predicates⟩, masks)

structure Evaluation where
  request : AccessRequest
  path : ResourcePath
  action : Action
  groups : List (Specificity × List Candidate)
  tags : List String
  tagged : List Candidate
  governing : List Governing
  allows : List Candidate
  denies : List Candidate
  decision : Decision
  record : AccessRecord

namespace Snapshot

def judge (s : Snapshot) (req : AccessRequest) : Except RequestError Evaluation := do
  let ⟨path, action⟩ ← s.checkRequest req
  let p := req.principal
  let tags := s.tagsFor path
  let groups := s.resourceGroups path
  let tagged := s.tagCandidates path.service tags
  let (resAllows, resDenies, governing) := governingHits p action groups none none []
  let (tagAllows, tagDenies) := clauseHits tagged p action
  let allows := sortHits (resAllows ++ tagAllows)
  let denies := sortHits (resDenies ++ tagDenies)
  let base : Decision := {
    outcome := .deny
    appliedPolicyIds := []
    rowFilter := none
    columnMasks := []
    snapshotVersion := s.version
    phase := .decided
    rowMatch := none }
  let decision :=
    if !denies.isEmpty then { base with appliedPolicyIds := hitIds denies }
    else if !allows.isEmpty then
      let (filter, masks) := conditions p allows
      { base with
        outcome := .allow
        appliedPolicyIds := hitIds allows
        rowFilter := filter
        columnMasks := masks
        rowMatch := req.rowContext.map (RowFilter.passes filter) }
    else base
  let record : AccessRecord := {
    subject := p.user
    groups := p.groups
    action := action.name
    resource := path.text
    tags := tags
    outcome := decision.outcome
    references := denies.map (·.reference .deny) ++ allows.map (·.reference .allow)
    rowFilter := if decision.allowed then decision.rowFilterText else ""
    maskedColumns := if decision.allowed then decision.maskedColumns else []
    snapshotVersion := s.version }
  pure ⟨req, path, action, groups, tags, tagged, governing, allows, denies, decision, record⟩

def evaluate (s : Snapshot) (req : AccessRequest) : Except RequestError (Decision × AccessRecord) :=
  (s.judge req).map fun e => (e.decision, e.record)

end Snapshot

end AccessPolicy
