import AccessPolicy.Snapshot.Basic
import AccessPolicy.Proofs.Order.Permutation
import Mathlib.Data.List.Forall2
/-!
# What loading guarantees of a snapshot

A snapshot that `Snapshot.ofDomains` returns was validated and compiled; this module turns that
history into facts about the snapshot itself, gathered in `Snapshot.WellFormed`:

* rule ids are distinct, since validation rejects an empty id (`checkPolicy_id`) and an id seen
  before (`nodup_ids_of_checkPolicyIds`), and compiling keeps each policy's id
  (`Policy.compile_fields`, `Snapshot.compileAll_eq_ok`);
* the resource rules of a declared service are exactly its enabled resource-anchored rules,
  ordered by id (`Snapshot.lookup_resourceRules`);
* the rules of a tag are exactly the enabled rules anchored on it, ordered by id
  (`TagIndex.rulesFor_build`).

The association lists the builder keeps (`appendAt`, a `filterMap` keyed by name) are read
through `List.lookup`; their lemmas come first.
-/

namespace AccessPolicy

/-- Ordering rules by id only reorders them. -/
theorem sortRulesById_perm (rs : List Rule) : (sortRulesById rs).Perm rs :=
  Order.stableSort_perm _ rs

/-! ## Lists under a key -/

section Keyed

variable {α : Type}

theorem lookup_cons_of_ne {β : Type} {k j : String} (v : β) (l : List (String × β)) (hk : k ≠ j) :
    ((j, v) :: l).lookup k = l.lookup k := by
  simp [List.lookup_cons, beq_eq_false_iff_ne.mpr hk]

/-- Updating the value under a key changes the lookup of that key only. -/
theorem lookup_map_update {β : Type} (key k : String) (g : β → β) (m : List (String × β)) :
    (m.map fun (k', v) => if k' == key then (k', g v) else (k', v)).lookup k =
      (m.lookup k).map fun v => if k = key then g v else v := by
  induction m with
  | nil => rfl
  | cons e rest ih =>
    obtain ⟨k', v⟩ := e
    by_cases hk : k = k'
    · subst hk
      by_cases hkey : k = key <;> simp [hkey]
    · simp only [List.map_cons]
      split <;> simp only [lookup_cons_of_ne _ _ hk, ih]

/-- Updating the entry of a key in place when there is one, and adding one last when there is
none, changes the lookup of that key only. -/
theorem lookup_upsert {β : Type} (key k : String) (g : β → β) (new : β) (m : List (String × β)) :
    (if (m.lookup key).isSome then m.map (fun (k', v) => if k' == key then (k', g v) else (k', v))
      else m ++ [(key, new)]).lookup k =
      if k = key then some ((m.lookup key).elim new g) else m.lookup k := by
  split
  case isTrue hsome =>
    obtain ⟨v, hv⟩ := Option.isSome_iff_exists.mp hsome
    rw [lookup_map_update]
    by_cases hk : k = key
    · subst hk
      simp [hv]
    · simp [hk]
  case isFalse hnone =>
    have hkey : m.lookup key = none := Option.not_isSome_iff_eq_none.mp hnone
    rw [List.lookup_append]
    by_cases hk : k = key
    · subst hk
      simp [hkey]
    · simp [hk, lookup_cons_of_ne _ _ hk]

/-- Appending under a key adds the value at the end of that key's list and nowhere else. -/
theorem lookup_appendAt (key k : String) (x : α) (m : List (String × List α)) :
    ((appendAt key x m).lookup k).getD [] =
      (m.lookup k).getD [] ++ if k = key then [x] else [] := by
  rw [appendAt, lookup_upsert key k (· ++ [x]) [x]]
  by_cases hk : k = key
  · subst hk
    cases m.lookup k <;> simp
  · simp [hk]

/-- Appending values one after another under their keys: each key's list gains, in order, the
values of the items with that key. -/
theorem lookup_foldl_appendAt {β : Type} (key : β → String) (val : β → α) (xs : List β)
    (m : List (String × List α)) (k : String) :
    ((xs.foldl (fun m y => appendAt (key y) (val y) m) m).lookup k).getD [] =
      (m.lookup k).getD [] ++ (xs.filter fun y => key y == k).map val := by
  induction xs generalizing m with
  | nil => simp
  | cons y ys ih =>
    rw [List.foldl_cons, ih, lookup_appendAt]
    by_cases hk : k = key y
    · subst hk
      simp only [List.filter_cons, beq_self_eq_true, List.map_cons, List.append_assoc,
        List.singleton_append, if_true]
    · have hne : (key y == k) = false := by simpa using Ne.symm hk
      simp [hk, hne]

/-- A list built by naming some of a list of keys holds, under a key of the list, what was named
for it, and nothing under any other key. -/
theorem lookup_filterMap_keyed (F : String → Option (String × List α))
    (hF : ∀ name e, F name = some e → e.1 = name) (names : List String) (k : String) :
    ((names.filterMap F).lookup k).getD [] =
      if k ∈ names then ((F k).map (·.2)).getD [] else [] := by
  induction names with
  | nil => simp
  | cons name rest ih =>
    rw [List.filterMap_cons]
    by_cases hk : k = name
    · subst hk
      cases hf : F k with
      | none => simp [ih, hf]
      | some e =>
        obtain ⟨k', v⟩ := e
        obtain rfl : k' = k := hF k _ hf
        simp
    · cases hf : F name with
      | none => simp [hk, ih]
      | some e =>
        obtain ⟨k', v⟩ := e
        obtain rfl : k' = name := hF name _ hf
        simp [hk, ih, lookup_cons_of_ne _ _ hk]

theorem lookup_map_value {β : Type} (g : List α → List β) (m : List (String × List α))
    (k : String) : (m.map fun (k', v) => (k', g v)).lookup k = (m.lookup k).map g := by
  induction m with
  | nil => rfl
  | cons e rest ih =>
    obtain ⟨k', v⟩ := e
    by_cases hk : k = k'
    · subst hk
      simp
    · simp only [List.map_cons, lookup_cons_of_ne _ _ hk, ih]

end Keyed

/-! ## Unique policy ids -/

section PolicyIds

theorem noteId_errs_extend (domain : String) (acc : List ValidationError × List (String × String))
    (p : Policy) : acc.1 <+: (noteId domain acc p).1 := by
  obtain ⟨errs, seen⟩ := acc
  simp only [noteId]
  split
  · exact List.prefix_refl _
  · split
    · exact List.prefix_append _ _
    · exact List.prefix_refl _

/-- A policy noted without a report had an empty id or a new one, and only a new one is
remembered. -/
theorem noteId_of_nil {domain : String} {acc : List ValidationError × List (String × String)}
    {p : Policy} (h : (noteId domain acc p).1 = []) :
    (noteId domain acc p).2.map (·.1) = acc.2.map (·.1) ++ [p.id].filter (!·.isEmpty) ∧
      (p.id.isEmpty = false → p.id ∉ acc.2.map (·.1)) := by
  obtain ⟨errs, seen⟩ := acc
  simp only [noteId] at h ⊢
  by_cases hid : p.id.isEmpty
  · simp [hid]
  · rw [if_neg hid] at h ⊢
    cases hl : seen.lookup p.id with
    | some other => simp [hl] at h
    | none =>
      have hnot : p.id ∉ seen.map (·.1) := by
        intro hmem
        obtain ⟨e, he, hk⟩ := List.mem_map.mp hmem
        have := List.lookup_eq_none_iff.mp hl e he
        simp [hk] at this
      simp [hid, hnot]

/-- A fold whose steps only ever add failures never takes one back. -/
theorem foldl_fst_prefix {α ε σ : Type} {step : List ε × σ → α → List ε × σ}
    (hstep : ∀ acc x, acc.1 <+: (step acc x).1) (xs : List α) (acc : List ε × σ) :
    acc.1 <+: (xs.foldl step acc).1 := by
  induction xs generalizing acc with
  | nil => exact List.prefix_refl _
  | cons x xs ih => exact (hstep acc x).trans (ih _)

/-- So a fold of such steps that ends without failures started without any. -/
theorem fst_eq_nil_of_foldl {α ε σ : Type} {step : List ε × σ → α → List ε × σ}
    (hstep : ∀ acc x, acc.1 <+: (step acc x).1) {xs : List α} {acc : List ε × σ}
    (h : (xs.foldl step acc).1 = []) : acc.1 = [] := by
  have hprefix := foldl_fst_prefix hstep xs acc
  rw [h] at hprefix
  exact List.prefix_nil.mp hprefix

/-- Noting policies without a report: the ids remembered before, followed by the non-empty ids
noted, are distinct. -/
theorem foldl_noteId_nodup (qs : List (String × Policy))
    (acc : List ValidationError × List (String × String))
    (h : (qs.foldl (fun acc q => noteId q.1 acc q.2) acc).1 = [])
    (hacc : (acc.2.map (·.1)).Nodup) :
    (acc.2.map (·.1) ++ (qs.map (·.2.id)).filter (!·.isEmpty)).Nodup := by
  induction qs generalizing acc with
  | nil => simpa using hacc
  | cons q qs ih =>
    rw [List.foldl_cons] at h
    -- reports are never taken back, so the first step reported nothing either
    have hstep : (noteId q.1 acc q.2).1 = [] :=
      fst_eq_nil_of_foldl (fun acc (q : String × Policy) => noteId_errs_extend q.1 acc q.2) h
    obtain ⟨hkeys, hnew⟩ := noteId_of_nil hstep
    have hrest := ih _ h
    rw [hkeys] at hrest
    by_cases hid : q.2.id.isEmpty
    · simpa [hid, List.filter_cons] using hrest (by simpa [hid] using hacc)
    · have hfilter : [q.2.id].filter (!·.isEmpty) = [q.2.id] := by simp [hid]
      have hacc' : (acc.2.map (·.1) ++ [q.2.id].filter (!·.isEmpty)).Nodup := by
        rw [hfilter, List.nodup_append]
        refine ⟨hacc, List.nodup_cons.mpr ⟨List.not_mem_nil, List.nodup_nil⟩, fun a ha b hb => ?_⟩
        rw [List.mem_singleton] at hb
        subst hb
        exact fun hab => hnew (by simpa using hid) (hab ▸ ha)
      simpa [hid, List.filter_cons] using hrest hacc'

theorem checkPolicyIds_eq (ds : List Domain) :
    checkPolicyIds ds = ((ds.flatMap fun d => d.policies.map (d.name, ·)).foldl
      (fun acc q => noteId q.1 acc q.2) ([], [])).1 := by
  rw [checkPolicyIds, List.foldl_flatMap]
  simp only [List.foldl_map]

/-- When the id check reports nothing, the non-empty policy ids of the domains are distinct. -/
theorem nodup_ids_of_checkPolicyIds {ds : List Domain} (h : checkPolicyIds ds = []) :
    (((ds.flatMap (·.policies)).map (·.id)).filter (!·.isEmpty)).Nodup := by
  rw [checkPolicyIds_eq] at h
  have hids : (ds.flatMap fun d => d.policies.map (d.name, ·)).map (·.2.id) =
      (ds.flatMap (·.policies)).map (·.id) := by
    simp [List.map_flatMap, Function.comp_def]
  simpa [hids] using foldl_noteId_nodup _ ([], []) h List.nodup_nil

/-- A policy that passes its checks has an id. -/
theorem checkPolicy_id {domain : String} {services : List (String × Service × String)}
    {p : Policy} (h : checkPolicy domain services p = []) : p.id.isEmpty = false := by
  unfold checkPolicy at h
  simp only [List.append_assoc, List.append_eq_nil_iff] at h
  cases hempty : p.id.isEmpty with
  | false => rfl
  | true => simp [hempty] at h

theorem validateDomains_eq_nil {ds : List Domain} (h : validateDomains ds = []) :
    checkPolicyIds ds = [] ∧
      ∀ d ∈ ds, ∀ p ∈ d.policies, checkPolicy d.name (checkServices ds).2 p = [] := by
  unfold validateDomains at h
  simp only [List.append_eq_nil_iff, List.flatMap_eq_nil_iff] at h
  refine ⟨h.1.2, fun d hd p hp => ?_⟩
  have hd := h.2 d hd
  unfold checkDomain at hd
  simp only [List.append_eq_nil_iff, List.flatMap_eq_nil_iff] at hd
  exact hd.1.1.2 p hp

/-- Valid domains give every policy an id of its own. -/
theorem nodup_ids_of_validateDomains {ds : List Domain} (h : validateDomains ds = []) :
    ((ds.flatMap (·.policies)).map (·.id)).Nodup := by
  obtain ⟨hids, hpolicies⟩ := validateDomains_eq_nil h
  have hall : ∀ p ∈ ds.flatMap (·.policies), p.id.isEmpty = false := by
    intro p hp
    obtain ⟨d, hd, hp⟩ := List.mem_flatMap.mp hp
    exact checkPolicy_id (hpolicies d hd p hp)
  have hkeep : ((ds.flatMap (·.policies)).map (·.id)).filter (!·.isEmpty) =
      (ds.flatMap (·.policies)).map (·.id) :=
    List.filter_eq_self.mpr fun i hi => by
      obtain ⟨p, hp, rfl⟩ := List.mem_map.mp hi
      simp [hall p hp]
  simpa [hkeep] using nodup_ids_of_checkPolicyIds hids

end PolicyIds

/-! ## Compiling -/

theorem Except.bind_eq_ok {ε α β : Type} {x : Except ε α} {f : α → Except ε β} {b : β}
    (h : x >>= f = .ok b) : ∃ a, x = .ok a ∧ f a = .ok b := by
  cases x with
  | error e => cases h
  | ok a => exact ⟨a, rfl, h⟩

/-- Compiling keeps a policy's id, service, state, tag and column masks. -/
theorem Policy.compile_fields {svc : Service} {p : Policy} {r : Rule}
    (h : p.compile svc = .ok r) :
    r.id = p.id ∧ r.service = p.service ∧ r.enabled = p.enabled ∧ r.tag = p.tag ∧
      r.columnMasks = p.columnMasks := by
  obtain ⟨allow, -, h⟩ := Except.bind_eq_ok h
  obtain ⟨deny, -, h⟩ := Except.bind_eq_ok h
  simp only at h
  -- the pattern is read only for a resource-anchored policy; both ways end alike
  split at h
  all_goals
    obtain ⟨pattern, -, h⟩ := Except.bind_eq_ok h
    obtain ⟨rowFilters, -, h⟩ := Except.bind_eq_ok h
    cases h
    exact ⟨rfl, rfl, rfl, rfl, rfl⟩

namespace Snapshot

/-- Compiling the domains succeeds only when every policy compiles, and then gives their rules,
one for each policy, in order. -/
theorem compileAll_eq_ok {services : List (String × Service)} {ds : List Domain}
    {rules : List Rule} (h : compileAll services ds = .ok rules) :
    List.Forall₂ (fun p r => p.compile ((services.lookup p.service).getD ⟨"", ""⟩) = .ok r)
      (ds.flatMap (·.policies)) rules := by
  unfold compileAll at h
  have hres : (ds.flatMap fun d => d.policies.map fun p =>
      (p.compile ((services.lookup p.service).getD ⟨"", ""⟩)).mapError
        fun e => ValidationError.predicate d.name p.id e) =
      (ds.flatMap fun d => d.policies.map (d.name, ·)).map fun q =>
        (q.2.compile ((services.lookup q.2.service).getD ⟨"", ""⟩)).mapError
          fun e => ValidationError.predicate q.1 q.2.id e := by
    simp [List.map_flatMap, Function.comp_def]
  simp only at h
  rw [hres] at h
  split at h
  case isFalse => cases h
  case isTrue herrs =>
    cases h
    have hpolicies : (ds.flatMap fun d => d.policies.map (d.name, ·)).map (·.2) =
        ds.flatMap (·.policies) := by
      simp [List.map_flatMap, Function.comp_def]
    rw [← hpolicies]
    -- every result is a rule, since none is a failure
    generalize (ds.flatMap fun d => d.policies.map (d.name, ·)) = qs at herrs ⊢
    induction qs with
    | nil => exact .nil
    | cons q qs ih =>
      cases hc : q.2.compile ((services.lookup q.2.service).getD ⟨"", ""⟩) with
      | error e => simp [hc, Except.mapError] at herrs
      | ok r =>
        simp only [List.map_cons, List.filterMap_cons, hc, Except.mapError] at herrs ⊢
        exact .cons hc (ih herrs)

/-- Compiled rules carry the ids of their policies. -/
theorem compileAll_ids {services : List (String × Service)} {ds : List Domain}
    {rules : List Rule} (h : compileAll services ds = .ok rules) :
    rules.map (·.id) = (ds.flatMap (·.policies)).map (·.id) := by
  have hrel := compileAll_eq_ok h
  clear h
  generalize ds.flatMap (·.policies) = ps at hrel
  induction hrel with
  | nil => rfl
  | cons hpr _ ih => simp [ih, (Policy.compile_fields hpr).1]

/-! ## The snapshot -/

/-- The resource rules the builder files under a declared service are its enabled
resource-anchored rules, ordered by id. -/
theorem lookup_resourceRules (rules : List Rule) (services : List (String × Service))
    (name : String) :
    (((services.map (·.1)).filterMap (fun name =>
        match rules.filter (·.onResourcesOf name) with
        | [] => none
        | rs => some (name, sortRulesById rs))).lookup name).getD [] =
      if name ∈ services.map (·.1) then sortRulesById (rules.filter (·.onResourcesOf name))
      else [] := by
  rw [lookup_filterMap_keyed]
  · by_cases hmem : name ∈ services.map (·.1)
    · rw [if_pos hmem, if_pos hmem]
      cases hf : rules.filter (·.onResourcesOf name) with
      | nil => exact (sortRulesById_perm []).eq_nil.symm
      | cons r rs => rfl
    · rw [if_neg hmem, if_neg hmem]
  · intro n e he
    cases hf : rules.filter (·.onResourcesOf n) with
    | nil => simp [hf] at he
    | cons r rs =>
      simp only [hf, Option.some.injEq] at he
      rw [← he]

/-- What a successful build is made of: its version, the compiled rules of the merged
services, the resource rules filed by service, and a tag index over some bindings and the
rules. -/
theorem build_eq_ok {v : Nat} {ds : List Domain} {src : Option TagSource} {s : Snapshot}
    (h : build v ds src = .ok s) :
    s.version = v ∧ s.services = (ds.flatMap (·.services)).foldl declareService [] ∧
    compileAll s.services ds = .ok s.rules ∧
    (∀ name, s.resourceRulesOf name =
      if name ∈ s.services.map (·.1) then sortRulesById (s.rules.filter (·.onResourcesOf name))
      else []) ∧
    ∃ bs, s.tags = TagIndex.build bs s.rules := by
  unfold build at h
  cases hc : compileAll ((ds.flatMap (·.services)).foldl declareService []) ds with
  | error e => simp [hc, Except.mapError, bind, Except.bind] at h
  | ok rules =>
    simp only [hc, Except.mapError, bind, Except.bind] at h
    cases src with
    | none =>
      cases (Except.ok.inj h : _ = s)
      exact ⟨rfl, rfl, hc, fun name => lookup_resourceRules rules _ name, _, rfl⟩
    | some src =>
      simp only at h
      split at h
      · simp at h
      · cases (Except.ok.inj h : _ = s)
        exact ⟨rfl, rfl, hc, fun name => lookup_resourceRules rules _ name, _, rfl⟩

end Snapshot

/-- The rules the index files under a tag are the enabled rules anchored on it, ordered by id. -/
theorem TagIndex.rulesFor_build (bs : List TagBinding) (rules : List Rule) (t : String) :
    (TagIndex.build bs rules).rulesFor t =
      sortRulesById ((rules.filter fun r => r.enabled && r.tagAnchored).filter (·.tag == t)) := by
  simp only [TagIndex.build, TagIndex.rulesFor]
  rw [lookup_map_value]
  have hfold := lookup_foldl_appendAt (·.tag) id
    (rules.filter fun r => r.enabled && r.tagAnchored) [] t
  simp only [List.lookup_nil, Option.getD_none, List.nil_append, List.map_id_fun, id_eq]
    at hfold
  revert hfold
  cases List.lookup t (List.foldl (fun m r => appendAt r.tag r m) []
    (rules.filter fun r => r.enabled && r.tagAnchored)) with
  | none =>
    intro hfold
    rw [Option.map_none, Option.getD_none, ← hfold]
    exact (sortRulesById_perm []).eq_nil.symm
  | some v =>
    intro hfold
    rw [Option.map_some, Option.getD_some, ← hfold]
    rfl

/-! ## Loaded snapshots -/

/-- What loading guarantees of a snapshot: every rule has an id of its own, and each declared
service files exactly its enabled resource-anchored rules and each tag exactly the enabled rules
anchored on it, both ordered by id. -/
structure Snapshot.WellFormed (s : Snapshot) : Prop where
  /-- No two rules share an id. -/
  ids_nodup : (s.rules.map (·.id)).Nodup
  /-- The resource rules of a declared service. -/
  resourceRulesOf_eq : ∀ name ∈ s.services.map (·.1),
    s.resourceRulesOf name = sortRulesById (s.rules.filter (·.onResourcesOf name))
  /-- The rules of a tag. -/
  rulesForTag_eq : ∀ t, s.rulesForTag t =
    sortRulesById ((s.rules.filter fun r => r.enabled && r.tagAnchored).filter (·.tag == t))

/-- Every snapshot loaded from domains is well formed. -/
theorem Snapshot.ofDomains_wellFormed {v : Nat} {ds : List Domain} {src : Option TagSource}
    {s : Snapshot} (h : ofDomains v ds src = .ok s) : s.WellFormed := by
  unfold ofDomains at h
  split at h
  case h_1 hvalid =>
    obtain ⟨-, -, hc, hres, bs, htags⟩ := build_eq_ok h
    refine ⟨?_, fun name hname => by rw [hres, if_pos hname], fun t => ?_⟩
    · rw [compileAll_ids hc]
      exact nodup_ids_of_validateDomains hvalid
    · rw [rulesForTag, htags, TagIndex.rulesFor_build]
  case h_2 => cases h

end AccessPolicy
