import AccessPolicy.Proofs.Decision.Candidates
import AccessPolicy.Proofs.RowFilter.Conjunction
import AccessPolicy.Proofs.Tags.Binding
/-!
# Valid domains load

Validation and the builder read the services of the domains each in its own way. Validation
notes the declarations one by one (`noteService`): a name keeps the type it was first declared
with, and a declaration of another type is reported. The builder merges the declarations itself,
the last one of a name winning (`lookup_foldl_declareService`). For domains as documents give
them, each service filed once under its own name (`ServicesByName`), the two agree on every name
validation knows (`lookup_merged_of_checkServices`), so every check the builder makes was made
by validation first.

The main theorem, `Snapshot.build_of_validated`: valid domains load with any tag source that
does not fail; every clause's actions read; the resource pattern of every policy that no tag
anchors compiles against the services the builder merged, to a pattern of the policy's own
service; and each such policy that is enabled is filed under its service with that pattern.
-/

namespace AccessPolicy

/-! ## Service maps filed by name -/

section ByName

/-- A service map as a document gives it: every service filed once, under its own name. -/
structure ServicesByName (services : List (String × Service)) : Prop where
  /-- No name is filed twice. -/
  keys_nodup : (services.map (·.1)).Nodup
  /-- Each service is filed under its own name. -/
  name_eq : ∀ kv ∈ services, kv.2.name = kv.1

theorem servicesOf_byName (entries : List ServiceEntry) : ServicesByName (servicesOf entries) := by
  -- each entry drops the service filed under its name and files itself last
  suffices h : ∀ acc : List (String × Service), ServicesByName acc →
      ServicesByName (entries.foldl (fun acc s =>
        (acc.filter (·.1 ≠ s.name)) ++ [(s.name, ⟨s.name, s.type⟩)]) acc) from
    h [] ⟨List.nodup_nil, by simp⟩
  induction entries with
  | nil => exact fun acc h => h
  | cons s rest ih =>
    intro acc hacc
    apply ih
    refine ⟨?_, fun kv hkv => ?_⟩
    · rw [List.map_append, List.nodup_append]
      refine ⟨hacc.keys_nodup.sublist ((List.filter_sublist).map _), by simp, ?_⟩
      simp
    · rcases List.mem_append.mp hkv with h | h
      · exact hacc.name_eq kv (List.mem_filter.mp h).1
      · rw [List.mem_singleton.mp h]

/-- The services of a domain read from a document are filed by name. -/
theorem DomainDocument.toDomain_byName (source : String) (doc : DomainDocument) :
    ServicesByName (doc.toDomain source).services :=
  servicesOf_byName doc.spec.services

/-- Domains read from documents have their services filed by name. -/
theorem Domain.read_byName {source text : String} {d : Domain}
    (h : Domain.read source text = .ok d) : ServicesByName d.services := by
  unfold Domain.read at h
  obtain ⟨head, -, h⟩ := Except.bind_eq_ok h
  -- a head of another kind or version is refused before the document is read
  by_cases hk : head.kind = "PolicyDomain" <;> by_cases hv : head.apiVersion = domainApiVersion <;>
    simp [hk, hv, throw, throwThe, MonadExceptOf.throw, bind, Except.bind] at h
  obtain ⟨doc, -, rfl⟩ := Except.map_eq_ok h
  exact DomainDocument.toDomain_byName source doc

variable {β : Type}

theorem mem_of_lookup_eq_some {l : List (String × β)} {k : String} {v : β}
    (h : l.lookup k = some v) : (k, v) ∈ l := by
  obtain ⟨l₁, l₂, rfl, -⟩ := List.lookup_eq_some_iff.mp h
  simp

theorem lookup_eq_some_of_mem {l : List (String × β)} (hnd : (l.map (·.1)).Nodup)
    {k : String} {v : β} (h : (k, v) ∈ l) : l.lookup k = some v := by
  induction l with
  | nil => cases h
  | cons e l ih =>
    obtain ⟨k', v'⟩ := e
    rw [List.map_cons, List.nodup_cons] at hnd
    rcases List.mem_cons.mp h with h | h
    · cases h
      simp
    · have hk : k ≠ k' := fun hk => hnd.1 (hk ▸ List.mem_map_of_mem (f := (·.1)) h)
      rw [lookup_cons_of_ne _ _ hk]
      exact ih hnd.2 h

theorem lookup_pair (n k : String) (v : β) :
    [(k, v)].lookup n = if n = k then some v else none := by
  by_cases hn : n = k
  · subst hn
    simp
  · simp [lookup_cons_of_ne _ _ hn, hn]

/-- Validation reads a domain's services by the sorted names; filed by name, the service it
reads under a name is the one declared. -/
theorem ServicesByName.read_eq {services : List (String × Service)} (h : ServicesByName services)
    {kv : String × Service} (hkv : kv ∈ services) :
    (services.lookup kv.1).getD ⟨kv.1, ""⟩ = kv.2 := by
  rw [lookup_eq_some_of_mem h.keys_nodup hkv, Option.getD_some]

theorem Domain.mem_serviceNames {d : Domain} {name : String} :
    name ∈ d.serviceNames ↔ name ∈ d.services.map (·.1) := by
  simp [Domain.serviceNames, List.mem_mergeSort]

end ByName

/-! ## The builder's services -/

theorem lookup_declareService (m : List (String × Service)) (kv : String × Service) (n : String) :
    (declareService m kv).lookup n = if n = kv.1 then some kv.2 else m.lookup n := by
  obtain ⟨k, v⟩ := kv
  -- the declaration replaces the entry of its name in place, or comes last
  have hmap : (m.map fun e => if e.1 == k then (k, v) else e) =
      m.map fun (k', v') => if k' == k then (k', v) else (k', v') :=
    List.map_congr_left fun ⟨k', v'⟩ _ => by by_cases hk : k' = k <;> simp [hk]
  rw [declareService, hmap, lookup_upsert k n (fun _ => v) v]
  by_cases hn : n = k
  · subst hn
    cases m.lookup n <;> simp
  · simp [hn]

/-- The builder's services give every name its last declaration. -/
theorem lookup_foldl_declareService (xs m : List (String × Service)) (n : String) :
    (xs.foldl declareService m).lookup n = (xs.reverse.lookup n).or (m.lookup n) := by
  induction xs generalizing m with
  | nil => simp
  | cons kv xs ih =>
    obtain ⟨k, v⟩ := kv
    rw [List.foldl_cons, ih, lookup_declareService, List.reverse_cons, List.lookup_append,
      Option.or_assoc, lookup_pair]
    by_cases hn : n = k <;> simp [hn]

/-! ## The services validation knows -/

section Known

/-- Validation's record of services after noting some declarations: every service is filed under
its own name and is one of the declarations noted, and every declaration noted is found under its
name as itself. -/
structure KnownServices (noted : List Service) (known : List (String × Service × String)) :
    Prop where
  /-- What is filed under a name is a declaration of that name. -/
  filed : ∀ n s o, known.lookup n = some (s, o) → s.name = n ∧ s ∈ noted
  /-- Every declaration noted is filed under its name. -/
  noted_filed : ∀ svc ∈ noted, ∃ o, known.lookup svc.name = some (svc, o)

theorem KnownServices.congr {noted noted' : List Service} {known : List (String × Service × String)}
    (h : KnownServices noted known) (hmem : ∀ s, s ∈ noted ↔ s ∈ noted') :
    KnownServices noted' known :=
  ⟨fun n s o hn => (h.filed n s o hn).imp_right (hmem s).mp,
    fun svc hsvc => h.noted_filed svc ((hmem svc).mpr hsvc)⟩

theorem noteService_errs_extend (domain : String)
    (acc : List ValidationError × List (String × Service × String)) (svc : Service) :
    acc.1 <+: (noteService domain acc svc).1 := by
  obtain ⟨errs, known⟩ := acc
  simp only [noteService]
  split
  · exact List.prefix_append _ _
  · split
    · exact List.prefix_append _ _
    · split
      · split
        · exact List.prefix_append _ _
        · exact List.prefix_refl _
      · exact List.prefix_refl _

/-- A service noted without a report agrees in type with the service filed under its name, and
is then filed under its name itself. -/
theorem noteService_of_quiet {domain : String} {errs : List ValidationError}
    {known : List (String × Service × String)} {svc : Service}
    (h : (noteService domain (errs, known) svc).1 = errs) :
    (∀ prev o, known.lookup svc.name = some (prev, o) → prev.type = svc.type) ∧
      ∀ n, (noteService domain (errs, known) svc).2.lookup n =
        if n = svc.name then some (svc, domain) else known.lookup n := by
  -- a report would make the failures grow
  have hgrow : ∀ e, errs ++ [e] ≠ errs := fun e he => by simpa using congrArg List.length he
  have hname : svc.name.isEmpty = false := by
    cases hn : svc.name.isEmpty with
    | false => rfl
    | true => simp [noteService, hn] at h
  have htype : (ServiceType.ofName? svc.type).isNone = false := by
    cases ht : (ServiceType.ofName? svc.type).isNone with
    | false => rfl
    | true => simp [noteService, hname, ht] at h
  simp only [noteService, hname, htype, Bool.false_eq_true, if_false] at h ⊢
  cases hk : known.lookup svc.name with
  | none =>
    refine ⟨by simp, fun n => ?_⟩
    rw [List.lookup_append, lookup_pair]
    by_cases hn : n = svc.name
    · subst hn
      simp [hk]
    · simp [hn]
  | some po =>
    obtain ⟨prev, owner⟩ := po
    simp only [hk] at h ⊢
    by_cases ht : prev.type = svc.type
    · simp only [ht, ne_eq, not_true_eq_false, if_false] at h ⊢
      have hfilter : (known.filter fun x => decide (x.1 ≠ svc.name)) =
          known.filter (·.1 != svc.name) := by
        congr 1
        funext x
        by_cases hx : x.1 = svc.name <;> simp [hx]
      refine ⟨fun _ _ hp => by simp at hp; rw [← hp.1, ht], fun n => ?_⟩
      rw [hfilter, List.lookup_append, TagCache.lookup_filter_ne, lookup_pair]
      by_cases hn : n = svc.name <;> simp [hn]
    · simp only [ht, ne_eq, not_false_eq_true, if_true] at h
      exact absurd h (hgrow _)

/-- Noting a declaration without a report keeps the record of services sound. -/
theorem KnownServices.note {noted : List Service} {known : List (String × Service × String)}
    {domain : String} {svc : Service} (hk : KnownServices noted known)
    (h : (noteService domain ([], known) svc).1 = []) :
    KnownServices (noted ++ [svc]) (noteService domain ([], known) svc).2 := by
  obtain ⟨hagree, hlookup⟩ := noteService_of_quiet h
  refine ⟨fun n s o hn => ?_, fun s hs => ?_⟩
  · rw [hlookup] at hn
    split at hn
    case isTrue hsvc =>
      cases hn
      exact ⟨hsvc.symm, by simp⟩
    case isFalse =>
      exact (hk.filed n s o hn).imp_right fun hs => List.mem_append_left _ hs
  · rw [hlookup]
    rcases List.mem_append.mp hs with hs | hs
    · obtain ⟨o, ho⟩ := hk.noted_filed s hs
      by_cases hname : s.name = svc.name
      · -- a declaration of the same name was filed with the same type: it is the same service
        have htype := hagree s o (hname ▸ ho)
        have hsame : s = svc := by
          cases s
          cases svc
          simp_all
        exact ⟨domain, by rw [if_pos hname, hsame]⟩
      · exact ⟨o, by rw [if_neg hname, ho]⟩
    · rw [List.mem_singleton.mp hs]
      exact ⟨domain, by simp⟩

/-- Noting declarations without a report keeps the record of services sound, with every
declaration noted. -/
theorem foldl_noteService_known (qs : List (String × Service)) {noted : List Service}
    {known : List (String × Service × String)} (hk : KnownServices noted known)
    (h : (qs.foldl (fun acc q => noteService q.1 acc q.2) ([], known)).1 = []) :
    KnownServices (noted ++ qs.map (·.2))
      (qs.foldl (fun acc q => noteService q.1 acc q.2) ([], known)).2 := by
  induction qs generalizing noted known with
  | nil => simpa using hk
  | cons q qs ih =>
    rw [List.foldl_cons] at h ⊢
    -- reports are never taken back, so the first step reported nothing either
    have hstep : (noteService q.1 ([], known) q.2).1 = [] :=
      fst_eq_nil_of_foldl (fun acc (q : String × Service) => noteService_errs_extend q.1 acc q.2) h
    have hpair : noteService q.1 ([], known) q.2 = ([], (noteService q.1 ([], known) q.2).2) :=
      Prod.ext hstep rfl
    rw [hpair] at h ⊢
    simpa using ih (hk.note hstep) h

theorem checkServices_eq (ds : List Domain) :
    checkServices ds = (ds.flatMap fun d => d.serviceNames.map fun name =>
      (d.name, (d.services.lookup name).getD ⟨name, ""⟩)).foldl
        (fun acc q => noteService q.1 acc q.2) ([], []) := by
  rw [checkServices, List.foldl_flatMap]
  simp only [List.foldl_map]

/-- On domains filed by name whose services pass their check, validation files exactly the
declared services, each under its name. -/
theorem checkServices_known {ds : List Domain} (hnames : ∀ d ∈ ds, ServicesByName d.services)
    (h : (checkServices ds).1 = []) :
    KnownServices ((ds.flatMap (·.services)).map (·.2)) (checkServices ds).2 := by
  rw [checkServices_eq] at h ⊢
  refine (foldl_noteService_known _ (show KnownServices [] [] from ⟨by simp, by simp⟩) h).congr
    fun s => ?_
  simp only [List.nil_append, List.map_flatMap, List.map_map, List.mem_flatMap, List.mem_map,
    Function.comp_apply]
  constructor
  · rintro ⟨d, hd, name, hname, rfl⟩
    obtain ⟨kv, hkv, rfl⟩ := List.mem_map.mp (Domain.mem_serviceNames.mp hname)
    exact ⟨d, hd, kv, hkv, ((hnames d hd).read_eq hkv).symm⟩
  · rintro ⟨d, hd, kv, hkv, rfl⟩
    exact ⟨d, hd, kv.1, Domain.mem_serviceNames.mpr (List.mem_map_of_mem hkv),
      (hnames d hd).read_eq hkv⟩

/-- On domains filed by name whose services pass their check, the builder merges a name
validation knows to the very service validation filed under it. -/
theorem lookup_merged_of_checkServices {ds : List Domain}
    (hnames : ∀ d ∈ ds, ServicesByName d.services) (h : (checkServices ds).1 = [])
    {n : String} {s : Service} {o : String} (hn : (checkServices ds).2.lookup n = some (s, o)) :
    ((ds.flatMap (·.services)).foldl declareService []).lookup n = some s := by
  have hknown := checkServices_known hnames h
  -- the service validation filed is declared under its name
  obtain ⟨hsn, hs⟩ := hknown.filed n s o hn
  obtain ⟨kv, hkv, rfl⟩ := List.mem_map.mp hs
  have hkey : kv.1 = n := by
    obtain ⟨d, hd, hkv'⟩ := List.mem_flatMap.mp hkv
    rw [← (hnames d hd).name_eq kv hkv', hsn]
  -- so the builder merges some declaration of that name, which validation filed too
  rw [lookup_foldl_declareService, List.lookup_nil, Option.or_none]
  obtain ⟨v, hv⟩ : ∃ v, (ds.flatMap (·.services)).reverse.lookup n = some v :=
    Option.isSome_iff_exists.mp (List.lookup_isSome_iff.mpr ⟨kv, List.mem_reverse.mpr hkv,
      by simp [hkey]⟩)
  have hvmem := List.mem_reverse.mp (mem_of_lookup_eq_some hv)
  obtain ⟨o', ho'⟩ := hknown.noted_filed v (List.mem_map.mpr ⟨(n, v), hvmem, rfl⟩)
  obtain ⟨d, hd, hvd⟩ := List.mem_flatMap.mp hvmem
  rw [(hnames d hd).name_eq (n, v) hvd, hn] at ho'
  rw [hv, (Prod.mk.inj (Option.some.inj ho')).1]

end Known

/-! ## Policies that pass their checks -/

theorem exists_of_flatMap_zipIdx_eq_nil {α γ : Type} {f : α × Nat → List γ} {xs : List α}
    (h : xs.zipIdx.flatMap f = []) {x : α} (hx : x ∈ xs) : ∃ i, f (x, i) = [] := by
  obtain ⟨⟨y, i⟩, hy, rfl⟩ := List.mem_map.mp (show x ∈ xs.zipIdx.map Prod.fst by simpa using hx)
  exact ⟨i, List.flatMap_eq_nil_iff.mp h _ hy⟩

/-- Clauses that pass their checks have actions that read. -/
theorem checkClauses_eq_nil {domain id kind : String} {cs : List Clause}
    (h : checkClauses domain id kind cs = []) {c : Clause} (hc : c ∈ cs) :
    ∃ a, ActionSet.parse c.actions = .ok a := by
  obtain ⟨i, hi⟩ := exists_of_flatMap_zipIdx_eq_nil h hc
  simp only at hi
  split at hi
  · simp at hi
  · split at hi
    · exact ⟨_, ‹_›⟩
    · simp at hi

/-- What a policy that passes its checks gives the compiler: clauses whose actions read, row
filters whose predicates parse, and, unless a tag anchors it, a named service that validation
files under the policy's service, against which its resource pattern compiles if the service
has a name. -/
theorem checkPolicy_eq_nil {domain : String} {services : List (String × Service × String)}
    {p : Policy} (h : checkPolicy domain services p = []) :
    (∀ c ∈ p.allow ++ p.deny, ∃ a, ActionSet.parse c.actions = .ok a) ∧
    (∀ f ∈ p.rowFilters, ∃ e, RowFilter.parse f.expression = .ok e) ∧
    (p.tagAnchored = false → p.service ≠ "" ∧ ∃ s o, services.lookup p.service = some (s, o) ∧
      (s.name ≠ "" → ∃ pat, resourcePattern s p.resource = .ok pat)) := by
  unfold checkPolicy at h
  simp only [List.append_assoc, List.append_eq_nil_iff] at h
  obtain ⟨-, hanchor, hservice, hpattern, -, hallow, hdeny, -, -, hfilters, -⟩ := h
  refine ⟨fun c hc => ?_, fun f hf => ?_, fun ht => ?_⟩
  · rcases List.mem_append.mp hc with hc | hc
    · exact checkClauses_eq_nil hallow hc
    · exact checkClauses_eq_nil hdeny hc
  · obtain ⟨i, hi⟩ := exists_of_flatMap_zipIdx_eq_nil hfilters hf
    obtain ⟨-, hparse⟩ := List.append_eq_nil_iff.mp hi
    split at hparse
    · exact ⟨_, ‹_›⟩
    · cases hparse
  · -- a policy no tag anchors has a resource, so a service, which validation must know
    have hres : p.resource.isEmpty = false := by
      cases hr : p.resource.isEmpty with
      | false => rfl
      | true => simp [hr, ht] at hanchor
    have hsvc : p.service.isEmpty = false := by
      cases hs : p.service.isEmpty with
      | false => rfl
      | true => simp [hs, hres] at hservice
    cases hl : services.lookup p.service with
    | none => simp [hl, hsvc] at hservice
    | some so =>
      obtain ⟨s, o⟩ := so
      refine ⟨by simpa using hsvc, s, o, rfl, fun hname => ?_⟩
      have hn : s.name.isEmpty = false := by simpa using hname
      simp only [hl, hsvc, hres, hn, Bool.false_eq_true, if_false, Option.map_some,
        Bool.not_false, and_self, if_true] at hpattern
      split at hpattern
      · exact ⟨_, ‹_›⟩
      · cases hpattern

theorem checkServices_of_validateDomains {ds : List Domain} (h : validateDomains ds = []) :
    (checkServices ds).1 = [] := by
  unfold validateDomains at h
  simp only [List.append_eq_nil_iff] at h
  exact h.1.1

/-- A policy of valid domains filed by name that no tag anchors reads its resource pattern,
without failure, against the service the builder merges under the policy's service, a service of
that name. -/
theorem resourcePattern_merged {ds : List Domain} (hvalid : validateDomains ds = [])
    (hnames : ∀ d ∈ ds, ServicesByName d.services) {d : Domain} (hd : d ∈ ds) {p : Policy}
    (hp : p ∈ d.policies) (ht : p.tagAnchored = false) :
    ∃ svc, ((ds.flatMap (·.services)).foldl declareService []).lookup p.service = some svc ∧
      svc.name = p.service ∧ ∃ pat, resourcePattern svc p.resource = .ok pat := by
  obtain ⟨-, hpolicies⟩ := validateDomains_eq_nil hvalid
  have hservices := checkServices_of_validateDomains hvalid
  obtain ⟨-, -, hanchored⟩ := checkPolicy_eq_nil (hpolicies d hd p hp)
  obtain ⟨hsvc, s, o, hl, hpat⟩ := hanchored ht
  have hsn : s.name = p.service := ((checkServices_known hnames hservices).filed _ s o hl).1
  exact ⟨s, lookup_merged_of_checkServices hnames hservices hl, hsn, hpat (hsn ▸ hsvc)⟩

/-! ## Compiling and building -/

theorem mapM_ok_of_forall {ε α γ : Type} {f : α → Except ε γ} {xs : List α}
    (h : ∀ x ∈ xs, ∃ y, f x = .ok y) : ∃ ys, xs.mapM f = .ok ys := by
  induction xs with
  | nil => exact ⟨[], rfl⟩
  | cons x xs ih =>
    obtain ⟨y, hy⟩ := h x List.mem_cons_self
    obtain ⟨ys, hys⟩ := ih fun x hx => h x (List.mem_cons_of_mem _ hx)
    exact ⟨y :: ys, by rw [List.mapM_cons, hy, hys]; rfl⟩

theorem exists_mem_of_forall₂ {α γ : Type} {R : α → γ → Prop} {xs : List α} {ys : List γ}
    (h : List.Forall₂ R xs ys) {x : α} (hx : x ∈ xs) : ∃ y ∈ ys, R x y := by
  induction h with
  | nil => cases hx
  | cons hr _ ih =>
    rcases List.mem_cons.mp hx with rfl | hx
    · exact ⟨_, List.mem_cons_self, hr⟩
    · obtain ⟨y, hy, hxy⟩ := ih hx
      exact ⟨y, List.mem_cons_of_mem _ hy, hxy⟩

/-- A resource pattern that reads is one that compiling gives for the service's name: the type
is known, every level is one of its levels and no level is skipped. -/
theorem resourcePattern_eq_ok {svc : Service} {resource : List (String × String)}
    {pat : Pattern} (h : resourcePattern svc resource = .ok pat) :
    ∃ hier raws, Pattern.compile svc.name hier raws = .ok pat := by
  unfold resourcePattern at h
  split at h
  · cases h
  · dsimp only at h
    split at h
    · cases h
    · split at h
      · cases h
      · exact ⟨_, _, Except.mapError_eq_ok.mp h⟩

/-- A resource pattern read for a service is a pattern of that service. -/
theorem resourcePattern_service {svc : Service} {resource : List (String × String)}
    {pat : Pattern} (h : resourcePattern svc resource = .ok pat) : pat.service = svc.name := by
  obtain ⟨_, _, hc⟩ := resourcePattern_eq_ok h
  exact Pattern.service_of_compile hc

/-- A policy compiles once its clauses' actions read, its row filters' predicates parse and,
unless a tag anchors it, its resource pattern compiles. -/
theorem Policy.compile_ok {svc : Service} {p : Policy}
    (hclauses : ∀ c ∈ p.allow ++ p.deny, ∃ a, ActionSet.parse c.actions = .ok a)
    (hfilters : ∀ f ∈ p.rowFilters, ∃ e, RowFilter.parse f.expression = .ok e)
    (hpattern : p.tagAnchored = false → ∃ pat, resourcePattern svc p.resource = .ok pat) :
    ∃ r, p.compile svc = .ok r := by
  have hclause : ∀ c ∈ p.allow ++ p.deny, ∃ g, c.compile = .ok g := fun c hc => by
    obtain ⟨a, ha⟩ := hclauses c hc
    exact ⟨_, by rw [Clause.compile, ha]; rfl⟩
  obtain ⟨allow, hallow⟩ := mapM_ok_of_forall fun c hc => hclause c (List.mem_append_left _ hc)
  obtain ⟨deny, hdeny⟩ := mapM_ok_of_forall fun c hc => hclause c (List.mem_append_right _ hc)
  obtain ⟨filters, hfilt⟩ := mapM_ok_of_forall (f := FilterRule.compile) fun f hf => by
    obtain ⟨e, he⟩ := hfilters f hf
    exact ⟨_, by rw [FilterRule.compile, RowFilter.Predicate.compile, he]; rfl⟩
  cases ht : p.tagAnchored with
  | true => simp [Policy.compile, hallow, hdeny, hfilt, ht, bind, Except.bind, pure, Except.pure]
  | false =>
    obtain ⟨pat, hpat⟩ := hpattern ht
    simp [Policy.compile, hallow, hdeny, hfilt, ht, hpat, bind, Except.bind, pure, Except.pure,
      Functor.map, Except.map]

/-- The pattern of a rule compiled from a policy that no tag anchors is its resource pattern. -/
theorem Policy.compile_pattern {svc : Service} {p : Policy} {r : Rule}
    (h : p.compile svc = .ok r) (ht : p.tagAnchored = false) :
    ∃ pat, resourcePattern svc p.resource = .ok pat ∧ r.pattern = some pat := by
  obtain ⟨allow, -, h⟩ := Except.bind_eq_ok h
  obtain ⟨deny, -, h⟩ := Except.bind_eq_ok h
  simp only [ht, Bool.false_eq_true, if_false] at h
  obtain ⟨pattern, hpattern, h⟩ := Except.bind_eq_ok h
  obtain ⟨rowFilters, -, h⟩ := Except.bind_eq_ok h
  cases h
  obtain ⟨pat, hpat, rfl⟩ := Except.map_eq_ok hpattern
  exact ⟨pat, hpat, rfl⟩

/-- The rule of an enabled policy that no tag anchors decides on the resources of its service. -/
theorem Policy.compile_onResourcesOf {svc : Service} {p : Policy} {r : Rule}
    (h : p.compile svc = .ok r) (hen : p.enabled = true) (ht : p.tagAnchored = false) :
    r.onResourcesOf p.service = true := by
  obtain ⟨-, hsvc, hen', htag, -⟩ := Policy.compile_fields h
  have hanchor : r.tagAnchored = false := by
    rw [Rule.tagAnchored, htag]
    exact ht
  simp [Rule.onResourcesOf, hanchor, hsvc, hen', hen]

namespace Snapshot

/-- Compiling the domains succeeds once every policy compiles against the service its service
is merged to. -/
theorem compileAll_ok {services : List (String × Service)} {ds : List Domain}
    (h : ∀ p ∈ ds.flatMap (·.policies),
      ∃ r, p.compile ((services.lookup p.service).getD ⟨"", ""⟩) = .ok r) :
    ∃ rules, compileAll services ds = .ok rules := by
  unfold compileAll
  simp only
  rw [if_pos]
  · exact ⟨_, rfl⟩
  · rw [List.isEmpty_iff, List.filterMap_eq_nil_iff]
    intro res hres
    obtain ⟨d, hd, hres⟩ := List.mem_flatMap.mp hres
    obtain ⟨p, hp, rfl⟩ := List.mem_map.mp hres
    obtain ⟨r, hr⟩ := h p (List.mem_flatMap.mpr ⟨d, hd, hp⟩)
    simp [hr, Except.mapError]

/-- The builder succeeds once the policies compile, with a tag source that does not fail. -/
theorem build_ok {v : Nat} {ds : List Domain} {src : Option TagSource} {rules : List Rule}
    (hc : compileAll ((ds.flatMap (·.services)).foldl declareService []) ds = .ok rules)
    (hsrc : ∀ t ∈ src, ∀ resolve, ∃ bs, t.fetch resolve = .ok bs) :
    ∃ s, build v ds src = .ok s := by
  unfold build
  simp only [hc, Except.mapError, bind, Except.bind]
  cases src with
  | none => exact ⟨_, rfl⟩
  | some t =>
    have hfetch : ∀ resolve e, t.fetch resolve ≠ .error e := fun resolve e he => by
      obtain ⟨bs, hbs⟩ := hsrc t rfl resolve
      rw [hbs] at he
      cases he
    simp only
    split
    · rename_i e he
      split at he
      · exact absurd ‹_› (hfetch _ _)
      · cases he
    · exact ⟨_, rfl⟩

/-- Valid domains, filed by name as documents give them, load with any tag source that does not
fail: every clause's actions read, and the resource pattern of every policy that no tag anchors
compiles against the service the snapshot merged under the policy's service, to a pattern of that
service, with which an enabled policy's rule is filed under the service. -/
theorem build_of_validated {v : Nat} {ds : List Domain} {src : Option TagSource}
    (hvalid : validateDomains ds = []) (hnames : ∀ d ∈ ds, ServicesByName d.services)
    (hsrc : ∀ t ∈ src, ∀ resolve, ∃ bs, t.fetch resolve = .ok bs) :
    ∃ s, build v ds src = .ok s ∧ ∀ d ∈ ds, ∀ p ∈ d.policies,
      (∀ c ∈ p.allow ++ p.deny, ∃ a, ActionSet.parse c.actions = .ok a) ∧
      (p.tagAnchored = false → ∃ pat,
        resourcePattern ((s.services.lookup p.service).getD ⟨"", ""⟩) p.resource = .ok pat ∧
        pat.service = p.service ∧
        (p.enabled = true →
          ∃ r ∈ s.resourceRulesOf p.service, r.id = p.id ∧ r.pattern = some pat)) := by
  obtain ⟨-, hpolicies⟩ := validateDomains_eq_nil hvalid
  -- every policy compiles against the services the builder merges
  have hcompile : ∀ p ∈ ds.flatMap (·.policies), ∃ r, p.compile
      ((((ds.flatMap (·.services)).foldl declareService []).lookup p.service).getD ⟨"", ""⟩) =
        .ok r := by
    intro p hp
    obtain ⟨d, hd, hp⟩ := List.mem_flatMap.mp hp
    obtain ⟨hclauses, hfilters, -⟩ := checkPolicy_eq_nil (hpolicies d hd p hp)
    refine Policy.compile_ok hclauses hfilters fun ht => ?_
    obtain ⟨svc, hl, -, hpat⟩ := resourcePattern_merged hvalid hnames hd hp ht
    rw [hl]
    exact hpat
  obtain ⟨rules, hrules⟩ := compileAll_ok hcompile
  obtain ⟨s, hs⟩ := build_ok (v := v) hrules hsrc
  obtain ⟨-, hsvcs, hc, -, -⟩ := build_eq_ok hs
  have hw : s.WellFormed := ofDomains_wellFormed (by rw [ofDomains, hvalid]; exact hs)
  refine ⟨s, hs, fun d hd p hp => ⟨(checkPolicy_eq_nil (hpolicies d hd p hp)).1, fun ht => ?_⟩⟩
  obtain ⟨svc, hl, hname, pat, hpat⟩ := resourcePattern_merged hvalid hnames hd hp ht
  rw [← hsvcs] at hl
  refine ⟨pat, by rw [hl]; exact hpat, (resourcePattern_service hpat).trans hname, fun hen => ?_⟩
  -- the policy's rule is among the snapshot's rules, and it is filed under the service
  obtain ⟨r, hr, hcomp⟩ :=
    exists_mem_of_forall₂ (compileAll_eq_ok hc) (List.mem_flatMap.mpr ⟨d, hd, hp⟩)
  rw [hl, Option.getD_some] at hcomp
  obtain ⟨pat', hpat', hrpat⟩ := Policy.compile_pattern hcomp ht
  have hdeclared : p.service ∈ s.services.map (·.1) :=
    List.mem_map.mpr ⟨(p.service, svc), mem_of_lookup_eq_some hl, rfl⟩
  refine ⟨r, (mem_resourceRulesOf hw hdeclared).mpr ⟨hr, Policy.compile_onResourcesOf hcomp hen ht⟩,
    (Policy.compile_fields hcomp).1, by rw [hrpat, Except.ok.inj (hpat'.symm.trans hpat)]⟩

/-- An hdfs service `fs` with two policies: `p1` lets alice read everything in it and `p2`,
anchored by the tag `pii`, denies bob writing. -/
def fsReaderDomains : List Domain :=
  [⟨"d", "d.yaml", [("fs", ⟨"fs", "hdfs"⟩)],
    [⟨"p1", "fs", "", true, [("path", "*")], "", [], [⟨⟨["alice"], []⟩, ["read"]⟩], [], [], []⟩,
     ⟨"p2", "fs", "", true, [], "pii", [], [], [⟨⟨["bob"], []⟩, ["write"]⟩], [], []⟩], [], []⟩]

theorem build_of_validated_sample :
    validateDomains fsReaderDomains = [] ∧ (∀ d ∈ fsReaderDomains, ServicesByName d.services) ∧
      ∃ s, build 1 fsReaderDomains (some (.static [])) = .ok s ∧
        ∀ d ∈ fsReaderDomains, ∀ p ∈ d.policies,
          (∀ c ∈ p.allow ++ p.deny, ∃ a, ActionSet.parse c.actions = .ok a) ∧
          (p.tagAnchored = false → ∃ pat,
            resourcePattern ((s.services.lookup p.service).getD ⟨"", ""⟩) p.resource = .ok pat ∧
            pat.service = p.service ∧
            (p.enabled = true →
              ∃ r ∈ s.resourceRulesOf p.service, r.id = p.id ∧ r.pattern = some pat)) := by
  have hvalid : validateDomains fsReaderDomains = [] := by decide +kernel
  have hnames : ∀ d ∈ fsReaderDomains, ServicesByName d.services := by
    intro d hd
    rw [fsReaderDomains, List.mem_singleton] at hd
    subst hd
    exact ⟨by decide, by simp⟩
  refine ⟨hvalid, hnames, build_of_validated hvalid hnames fun t ht resolve => ?_⟩
  rw [Option.mem_some_iff] at ht
  subst ht
  exact ⟨_, rfl⟩

end Snapshot

end AccessPolicy
