import AccessPolicy.Proofs.Snapshot.Inheritance
/-!
# Where bound tags are found

A tag reaches a snapshot's index by two routes. Binding through the set store records the
resource as the text it was given, and the next load reads that text back with the hierarchy of
its service (`TagSource.bind`, `TagSource.fetchStore`). A binding in a domain document reads its
resource with the hierarchy the document declares for its service (`tagBindingsOf`). Requests
read a resource with `Snapshot.parsePath`, which in a recursive hierarchy also makes the path
absolute; neither route does.

So a tag bound through the store is found under the path the load read, and `parsePath` gives
that path made absolute (`Snapshot.mem_tagsFor_of_bind`); a domain's binding is keyed under the
path `parsePath` gives made relative in the same way. Outside a recursive hierarchy, or for a
path that starts with `/`, the two paths are one. An hdfs path bound without its leading `/` is
keyed apart from the path requests ask for (`Snapshot.tagsFor_misses_relative_bind`).
-/

namespace AccessPolicy

@[simp] theorem Except.mapError_eq_ok {ε ε' α : Type} {x : Except ε α} {f : ε → ε'} {a : α} :
    x.mapError f = .ok a ↔ x = .ok a := by
  cases x <;> simp [Except.mapError]

/-- A path of a recursive hierarchy made absolute, as reading a requested resource does. -/
def ResourcePath.absolute (p : ResourcePath) (h : Hierarchy) : ResourcePath :=
  match h.recursive, p.segments with
  | true, first :: rest =>
    if first.startsWith "/" then p else { p with segments := ("/" ++ first) :: rest }
  | _, _ => p

theorem ResourcePath.absolute_of_not_recursive (p : ResourcePath) {h : Hierarchy}
    (hr : h.recursive = false) : p.absolute h = p := by
  simp [absolute, hr]

/-! ## Reading resources -/

namespace ResourcePath

/-- Splitting into at least two parts keeps the first part. -/
theorem head?_splitAtMost (s : String) {n : Nat} (hn : 2 ≤ n) :
    (splitAtMost s n).head? = ((s.toList.splitOn '/').map String.ofList).head? := by
  unfold splitAtMost
  dsimp only
  split
  · rfl
  · rename_i hlen
    obtain ⟨a, rest, hparts⟩ := List.exists_cons_of_ne_nil
      (List.ne_nil_of_length_pos (by omega : 0 < ((s.toList.splitOn '/').map String.ofList).length))
    simp [hparts, List.take_cons (by omega : 0 < n - 1)]

/-- The service of a resource is the text before its first \x60/\x60, whatever the depth. -/
theorem service_of_parse {s : String} {d : Int} {p : ResourcePath} (h : parse s d = .ok p) :
    ((s.toList.splitOn '/').map String.ofList).head? = some p.service := by
  unfold parse at h
  split at h
  · cases h
  · rw [← head?_splitAtMost s (by omega : 2 ≤ d.toNat + 1)]
    split at h
    · split at h
      · cases h
      · cases h
        simp_all
    · cases h

theorem splitAtMost_eq {s : String} {ps : List String}
    (hps : (s.toList.splitOn '/').map String.ofList = ps) (n : Nat) :
    splitAtMost s n = if ps.length ≤ n then ps else ps.take (n - 1) ++ ["/".intercalate (ps.drop (n - 1))] := by
  simp only [splitAtMost, hps]

/-- A text that reads as a resource at some depth reads as one at depth one. -/
theorem parse_one_of_parse {s : String} {d : Int} {p : ResourcePath} (h : parse s d = .ok p) :
    ∃ q, parse s 1 = .ok q := by
  unfold parse at h ⊢
  split at h
  · cases h
  · rename_i hd
    obtain ⟨service, first, rest, hsplit, hs, hf⟩ : ∃ service first rest,
        splitAtMost s (d.toNat + 1) = service :: first :: rest ∧ service ≠ "" ∧ first ≠ "" := by
      split at h
      · split at h
        · cases h
        · rename_i service first rest hsplit hne
          simp only [not_or, String.isEmpty_iff] at hne
          exact ⟨service, first, rest, hsplit, hne⟩
      · cases h
    have hhead := head?_splitAtMost s (by omega : 2 ≤ d.toNat + 1)
    rw [hsplit] at hhead
    obtain ⟨ps, hps⟩ : ∃ ps, (s.toList.splitOn '/').map String.ofList = ps := ⟨_, rfl⟩
    rw [splitAtMost_eq hps] at hsplit ⊢
    rw [hps] at hhead
    simp only [Int.reduceLT, if_false, Int.toNat_one, Nat.reduceAdd, Nat.add_one_sub_one]
    -- two parts are read as they are; more are the first and the rest joined
    match ps, hhead, hsplit with
    | [], hhead, _ => simp at hhead
    | [_], _, hsplit => simp at hsplit
    | [a, b], _, hsplit =>
      simp only [List.length_cons, List.length_nil] at hsplit
      rw [if_pos (by omega)] at hsplit
      cases hsplit
      exact ⟨⟨service, [first]⟩, by simp [String.isEmpty_iff, hs, hf]⟩
    | a :: b :: c :: more, hhead, _ =>
      cases hhead
      exact ⟨⟨service, ["/".intercalate (b :: c :: more)]⟩, by simp [String.isEmpty_iff, hs]⟩

theorem segments_ne_nil_of_parse {s : String} {d : Int} {p : ResourcePath}
    (h : parse s d = .ok p) : p.segments ≠ [] := by
  unfold parse at h
  split at h
  · cases h
  · split at h
    · split at h
      · cases h
      · cases h
        simp
    · cases h

/-- A resource is the last of its own ancestors. -/
theorem self_mem_ancestors {p : ResourcePath} (h : Hierarchy) (hne : p.segments ≠ []) :
    p ∈ p.ancestors h := by
  unfold ancestors
  split
  · simp [directories]
  · have hlen : p.segments.length - 1 + 1 = p.segments.length :=
      Nat.sub_add_cancel (List.length_pos_iff.mpr hne)
    simp only [List.mem_map, List.mem_range]
    exact ⟨p.segments.length - 1, by omega, by simp [prefixOf, hlen]⟩

end ResourcePath

/-- Reading a requested resource: its service's hierarchy, then its path at that depth, made
absolute. -/
theorem Snapshot.parsePath_eq_ok {s : Snapshot} {text : String} {P : ResourcePath} :
    s.parsePath text = .ok P ↔ ∃ head h path, ResourcePath.parse text 1 = .ok head ∧
      s.hierarchy? head.service = some h ∧ ResourcePath.parse text h.depth = .ok path ∧
      P = path.absolute h := by
  unfold Snapshot.parsePath
  cases h₁ : ResourcePath.parse text 1 with
  | error e => simp [Except.mapError, bind, Except.bind]
  | ok head =>
    cases h₂ : s.hierarchy? head.service with
    | none => simp [Except.mapError, bind, Except.bind, h₂]
    | some h =>
      cases h₃ : ResourcePath.parse text h.depth with
      | error e => simp [Except.mapError, bind, Except.bind, h₂, h₃]
      | ok path =>
        simp only [Except.mapError, bind, Except.bind, h₂, h₃, Except.ok.injEq, Option.some.injEq,
          exists_and_left, exists_eq_left']
        rw [@eq_comm _ P]
        -- the last step of reading is `absolute`, branch by branch
        unfold ResourcePath.absolute
        split
        · split <;> simp_all [pure, Except.pure]
        · simp_all [pure, Except.pure]

theorem TagSource.readMember_eq_some {resolve : String → Option Hierarchy} {member : String}
    {head path : ResourcePath} {h : Hierarchy} (h₁ : ResourcePath.parse member 1 = .ok head)
    (h₂ : resolve head.service = some h) (h₃ : ResourcePath.parse member h.depth = .ok path) :
    TagSource.readMember resolve member = some path := by
  simp [TagSource.readMember, h₁, h₂, h₃]

/-! ## Binding through the store -/

namespace SetStore

variable {s s' : SetStore} {key m : String}

/-- Adding a member: the key was served, and only its set changes, gaining the member. -/
theorem add_eq_ok (h : s.add key m = .ok s') :
    s.unavailable.contains key = false ∧ s'.unavailable = s.unavailable ∧
      ∀ k, (s'.sets.lookup k).getD [] = if k = key then
        (if ((s.sets.lookup key).getD []).contains m then (s.sets.lookup key).getD []
          else (s.sets.lookup key).getD [] ++ [m])
        else (s.sets.lookup k).getD [] := by
  unfold add at h
  split at h
  · cases h
  · rename_i hav
    -- the key's set is replaced in place when it is there and added last when it is not
    rw [← apply_ite Except.ok] at h
    cases h
    refine ⟨by simpa using hav, by split <;> rfl, fun k => ?_⟩
    rw [apply_ite SetStore.sets, lookup_upsert key k (fun _ => _) _]
    by_cases hk : k = key
    · subst hk
      cases s.sets.lookup k <;> simp
    · simp [hk]

theorem members_eq_ok (h : s.add key m = .ok s') (k : String) :
    s'.members k = if s.unavailable.contains k then .error ("injected failure reading " ++ k)
      else .ok ((s'.sets.lookup k).getD []) := by
  rw [members, (add_eq_ok h).2.1]

/-- A member added under a key is read back from it. -/
theorem mem_members_add (h : s.add key m = .ok s') : ∃ l, s'.members key = .ok l ∧ m ∈ l := by
  obtain ⟨hav, -, hlook⟩ := add_eq_ok h
  refine ⟨_, by rw [members_eq_ok h, hav, if_neg Bool.false_ne_true], ?_⟩
  rw [hlook key, if_pos rfl]
  split <;> simp_all

/-- Adding under a key leaves every other key as it was. -/
theorem members_add_of_ne {key' : String} (h : s.add key m = .ok s') (hk : key' ≠ key) :
    s'.members key' = s.members key' := by
  rw [members_eq_ok h, members, (add_eq_ok h).2.2 key', if_neg hk]

end SetStore

namespace TagSource

theorem indexKey_ne_tagsKey (p member : String) : indexKey p ≠ tagsKey p member := by
  intro h
  have := congrArg String.toList h
  simp [indexKey, tagsKey] at this

/-- Binding puts the resource in the index set and the tag in the resource's set. -/
theorem bind_members {p r t : String} {sets sets' : SetStore} (h : bind p sets r t = .ok sets') :
    (∃ l, sets'.members (indexKey p) = .ok l ∧ r ∈ l) ∧
      ∃ l, sets'.members (tagsKey p r) = .ok l ∧ t ∈ l := by
  obtain ⟨mid, hmid, hadd⟩ := Except.bind_eq_ok h
  refine ⟨?_, SetStore.mem_members_add hadd⟩
  rw [SetStore.members_add_of_ne hadd (indexKey_ne_tagsKey p r)]
  exact SetStore.mem_members_add hmid

theorem mem_sortedUnique {x : String} {xs : List String} : x ∈ sortedUnique xs ↔ x ∈ xs := by
  simp [sortedUnique, List.mem_eraseDups, List.mem_mergeSort]

/-- What a partial map over a list keeps: the value of every item mapped to one. -/
theorem mem_filterMapM {α β ε : Type} {f : α → Except ε (Option β)} {xs : List α} {ys : List β}
    (h : xs.filterMapM f = .ok ys) {x : α} {y : β} (hx : x ∈ xs) (hf : f x = .ok (some y)) :
    y ∈ ys := by
  induction xs generalizing ys with
  | nil => cases hx
  | cons a as ih =>
    rw [List.filterMapM_cons] at h
    obtain ⟨o, ho, h⟩ := Except.bind_eq_ok h
    cases hrest : as.filterMapM f with
    | error e => cases o <;> simp [hrest] at h
    | ok zs =>
      rcases List.mem_cons.mp hx with rfl | hx
      · rw [hf] at ho
        cases ho
        simp only [hrest] at h
        cases h
        exact List.mem_cons_self
      · cases o <;> simp only [hrest] at h <;> cases h
        · exact ih hrest hx
        · exact List.mem_cons_of_mem _ (ih hrest hx)

/-- A store's fetch gives a binding for every tag of every listed resource that reads as a path. -/
theorem mem_fetchStore {resolve : String → Option Hierarchy} {p : String} {sets : SetStore}
    {bs : List TagBinding} (h : fetchStore resolve p sets = .ok bs) {member t : String}
    {path : ResourcePath} {l l' : List String} (hl : sets.members (indexKey p) = .ok l)
    (hm : member ∈ l) (hr : readMember resolve member = some path)
    (hl' : sets.members (tagsKey p member) = .ok l') (ht : t ∈ l') : ⟨path, t⟩ ∈ bs := by
  unfold fetchStore at h
  obtain ⟨members, hmembers, h⟩ := Except.bind_eq_ok h
  have hmembers := Except.mapError_eq_ok.mp hmembers
  rw [hl] at hmembers
  cases hmembers
  obtain ⟨per, hper, h⟩ := Except.bind_eq_ok h
  cases h
  refine List.mem_flatten.mpr ⟨_, mem_filterMapM hper (mem_sortedUnique.mpr hm)
    (y := (sortedUnique l').map fun t => TagBinding.mk path t) ?_, ?_⟩
  · simp only [hr, hl', Except.mapError]
    rfl
  · simpa using mem_sortedUnique.mpr ht

end TagSource

/-! ## Loading what was bound -/

/-- A build with an outside source indexes the domains' own bindings, then those the source gives
for the snapshot's services. -/
theorem Snapshot.build_tags {v : Nat} {ds : List Domain} {src : TagSource} {s : Snapshot}
    (h : build v ds (some src) = .ok s) :
    ∃ extra, src.fetch s.hierarchy? = .ok extra ∧
      s.tags = TagIndex.build (ds.flatMap (·.tags) ++ extra) s.rules := by
  unfold build at h
  cases hc : compileAll ((ds.flatMap (·.services)).foldl declareService []) ds with
  | error e => simp [hc, Except.mapError, bind, Except.bind] at h
  | ok rules =>
    simp only [hc, Except.mapError, bind, Except.bind] at h
    split at h
    · simp at h
    · rename_i extra hextra
      cases (Except.ok.inj h : _ = s)
      exact ⟨extra, Except.mapError_eq_ok.mp hextra, rfl⟩

/-- A tag bound through the store to a resource that a request can name is found, once the store
has been loaded again, under the path the load reads the resource as; the request names that
path made absolute. -/
theorem Snapshot.mem_tagsFor_of_bind {p r t : String} {sets sets' : SetStore} {v : Nat}
    {ds : List Domain} {s : Snapshot} {P : ResourcePath}
    (hbind : TagSource.bind p sets r t = .ok sets')
    (hload : build v ds (some (.store p sets')) = .ok s) (hpath : s.parsePath r = .ok P) :
    ∃ path h, TagSource.readMember s.hierarchy? r = some path ∧
      s.hierarchy? path.service = some h ∧ P = path.absolute h ∧ t ∈ s.tagsFor path := by
  obtain ⟨head, h, path, h₁, h₂, h₃, rfl⟩ := parsePath_eq_ok.mp hpath
  have hread := TagSource.readMember_eq_some h₁ h₂ h₃
  -- the service is the text before the first `/` at either depth
  have hsvc : path.service = head.service := Option.some.inj
    ((ResourcePath.service_of_parse h₃).symm.trans (ResourcePath.service_of_parse h₁))
  obtain ⟨⟨l, hl, hr⟩, l', hl', ht⟩ := TagSource.bind_members hbind
  obtain ⟨extra, hfetch, htags⟩ := build_tags hload
  have hmem := TagSource.mem_fetchStore hfetch hl hr hread hl' ht
  refine ⟨path, h, hread, hsvc ▸ h₂, rfl, ?_⟩
  -- found under the path itself, the last of its ancestors
  rw [tagsFor, TagIndex.mem_tagsFor]
  refine ⟨h, hsvc ▸ h₂, path,
    path.self_mem_ancestors h (ResourcePath.segments_ne_nil_of_parse h₃), ?_⟩
  rw [htags, TagIndex.mem_lookup_build]
  exact ⟨_, List.mem_append_right _ hmem, rfl, rfl⟩

/-! ## Bindings in domain documents -/

/-- A fold ends in a state with property `P` when it starts in one or passes an item that
makes one, and every step keeps it. -/
theorem foldl_holds {α σ : Type} {step : σ → α → σ} {P : σ → Prop}
    (hkeep : ∀ acc y, P acc → P (step acc y)) {x : α} (hstep : ∀ acc, P (step acc x)) :
    ∀ (L : List α) (acc : σ), P acc ∨ x ∈ L → P (L.foldl step acc)
  | [], _, h => h.resolve_right List.not_mem_nil
  | y :: ys, acc, h => by
    apply foldl_holds hkeep hstep ys
    rcases h with h | h
    · exact .inl (hkeep acc y h)
    · rcases List.mem_cons.mp h with rfl | h
      · exact .inl (hstep acc)
      · exact .inr h

/-- An entry of a declared service of a known type whose resource reads with the type's hierarchy
is among the document's bindings. -/
theorem mem_tagBindingsOf {entries : List TagEntry} {services : List (String × Service)}
    {e : TagEntry} {svc : Service} {st : ServiceType} {path : ResourcePath} (he : e ∈ entries)
    (hsvc : services.lookup e.service = some svc) (hst : ServiceType.ofName? svc.type = some st)
    (hpath : ResourcePath.parse (e.service ++ "/" ++ e.resource) st.hierarchy.depth = .ok path) :
    ⟨path, e.tag⟩ ∈ (tagBindingsOf entries services).1 := by
  obtain ⟨x, hx, rfl⟩ := List.mem_map.mp (show e ∈ entries.zipIdx.map Prod.fst by simpa using he)
  unfold tagBindingsOf
  dsimp only
  refine foldl_holds
    (P := fun (acc : List TagBinding × List String) => (⟨path, x.1.tag⟩ : TagBinding) ∈ acc.1)
    ?_ ?_ _ _ (.inr hx)
  · -- a step only appends
    rintro ⟨bs, ps⟩ y h
    dsimp only
    split <;> (try split) <;> (try split) <;> simp_all
  · rintro ⟨bs, ps⟩
    simp [hsvc, hst, hpath]

/-- A request for the text of a domain's binding, on a snapshot that gives the binding's service
the hierarchy its document declares, reads the binding's path made absolute. -/
theorem Snapshot.parsePath_tagEntry {s : Snapshot} {e : TagEntry} {st : ServiceType}
    {path : ResourcePath}
    (hpath : ResourcePath.parse (e.service ++ "/" ++ e.resource) st.hierarchy.depth = .ok path)
    (hh : s.hierarchy? path.service = some st.hierarchy) :
    s.parsePath (e.service ++ "/" ++ e.resource) = .ok (path.absolute st.hierarchy) := by
  obtain ⟨head, hhead⟩ := ResourcePath.parse_one_of_parse hpath
  have hsvc : head.service = path.service := Option.some.inj
    ((ResourcePath.service_of_parse hhead).symm.trans (ResourcePath.service_of_parse hpath))
  exact parsePath_eq_ok.mpr ⟨head, _, path, hhead, hsvc ▸ hh, hpath, rfl⟩

/-! ## Where each route keys a tag -/

/-- Where each route keys a bound tag, against the path a request reads from the same text. A
tag bound through the store is found, once the store is loaded again, under the path the load
reads the resource as; a domain's binding is keyed under the path its resource reads as with the
hierarchy the document declares. Either way a request for the text reads that path made absolute,
which is the path itself outside a recursive hierarchy. -/
theorem Snapshot.tag_bindings_keyed (s : Snapshot) (p r t : String) (sets sets' : SetStore)
    (v : Nat) (ds : List Domain) (P : ResourcePath) (doc : DomainDocument) (e : TagEntry)
    (svc : Service) (st : ServiceType) (path : ResourcePath) (src : String) :
    (TagSource.bind p sets r t = .ok sets' → build v ds (some (.store p sets')) = .ok s →
        s.parsePath r = .ok P →
        ∃ read h, TagSource.readMember s.hierarchy? r = some read ∧
          s.hierarchy? read.service = some h ∧ P = read.absolute h ∧ t ∈ s.tagsFor read) ∧
    (e ∈ doc.spec.tags → (servicesOf doc.spec.services).lookup e.service = some svc →
        ServiceType.ofName? svc.type = some st →
        ResourcePath.parse (e.service ++ "/" ++ e.resource) st.hierarchy.depth = .ok path →
        ⟨path, e.tag⟩ ∈ (doc.toDomain src).tags ∧
          (s.hierarchy? path.service = some st.hierarchy →
            s.parsePath (e.service ++ "/" ++ e.resource) = .ok (path.absolute st.hierarchy))) :=
  ⟨mem_tagsFor_of_bind, fun he hsvc hst hpath =>
    ⟨mem_tagBindingsOf he hsvc hst hpath, parsePath_tagEntry hpath⟩⟩

/-- One domain declaring the hdfs service `fs`. -/
def hdfsDomains : List Domain :=
  [⟨"d", "d.yaml", [("fs", ⟨"fs", "hdfs"⟩)], [], [], []⟩]

/-- The store after binding the tag `T` to the text `fs/data`. -/
def dataBoundStore : SetStore :=
  ⟨[("dataguard:tagged", ["fs/data"]), ("dataguard:tags:fs/data", ["T"])], []⟩

/-- The snapshot loading the hdfs domain with that store builds. -/
def dataBoundSnapshot : Snapshot :=
  ⟨2, ["d"], [("fs", ⟨"fs", "hdfs"⟩)], [], [], TagIndex.build [⟨⟨"fs", ["data"]⟩, "T"⟩] [],
    ["redis"]⟩

theorem Snapshot.dataBoundStore_load :
    build 2 hdfsDomains (some (.store "dataguard" dataBoundStore)) = .ok dataBoundSnapshot := by
  -- the fetch reads only the snapshot's services
  have hfetch : ∀ b : Snapshot, b.services = [("fs", ⟨"fs", "hdfs"⟩)] →
      TagSource.fetch b.hierarchy? (.store "dataguard" dataBoundStore) =
        .ok [⟨⟨"fs", ["data"]⟩, "T"⟩] := by
    intro b hb
    have hres : b.hierarchy? = dataBoundSnapshot.hierarchy? := by
      funext n
      simp [hierarchy?, service?, hb, dataBoundSnapshot]
    rw [hres]
    decide +kernel
  have hs : (hdfsDomains.flatMap (·.services)).foldl declareService [] =
      [("fs", ⟨"fs", "hdfs"⟩)] := rfl
  have hc : compileAll [("fs", ⟨"fs", "hdfs"⟩)] hdfsDomains = .ok [] := rfl
  unfold build
  simp only [hs, hc, Except.mapError, bind, Except.bind]
  rw [hfetch _ rfl]
  rfl

/-- A document declaring the hdfs service `fs` and binding `T` to its resource `data`. -/
def hdfsDocument : DomainDocument :=
  { name := "d"
    spec := { services := [{ name := "fs", type := "hdfs" }]
              tags := [{ service := "fs", resource := "data", tag := "T" }] } }

/-- Binding a tag to the hdfs resource `fs/data`, through the store or in a document, keys it
under the path `data`, while requests for `fs/data` read the path `/data`. -/
theorem Snapshot.tag_bindings_keyed_sample :
    (∃ path h, TagSource.readMember dataBoundSnapshot.hierarchy? "fs/data" = some path ∧
      dataBoundSnapshot.hierarchy? path.service = some h ∧
      (⟨"fs", ["/data"]⟩ : ResourcePath) = path.absolute h ∧
      "T" ∈ dataBoundSnapshot.tagsFor path) ∧
    (⟨⟨"fs", ["data"]⟩, "T"⟩ ∈ (hdfsDocument.toDomain "d.yaml").tags ∧
      (dataBoundSnapshot.hierarchy? "fs" = some ServiceType.hdfs.hierarchy →
        dataBoundSnapshot.parsePath "fs/data" =
          .ok ((⟨"fs", ["data"]⟩ : ResourcePath).absolute ServiceType.hdfs.hierarchy))) :=
  have h := tag_bindings_keyed dataBoundSnapshot "dataguard" "fs/data" "T" {} dataBoundStore 2
    hdfsDomains ⟨"fs", ["/data"]⟩ hdfsDocument { service := "fs", resource := "data", tag := "T" }
    ⟨"fs", "hdfs"⟩ .hdfs ⟨"fs", ["data"]⟩ "d.yaml"
  ⟨h.1 (by decide +kernel) dataBoundStore_load (by decide +kernel),
    h.2 (List.mem_singleton.mpr rfl) rfl rfl (by decide +kernel)⟩

/-- A tag bound to an hdfs path written without its leading `/` is not found for the path a
request for the same text reads. -/
theorem Snapshot.tagsFor_misses_relative_bind :
    TagSource.bind "dataguard" {} "fs/data" "T" = .ok dataBoundStore ∧
      build 2 hdfsDomains (some (.store "dataguard" dataBoundStore)) = .ok dataBoundSnapshot ∧
      dataBoundSnapshot.parsePath "fs/data" = .ok ⟨"fs", ["/data"]⟩ ∧
      dataBoundSnapshot.tagsFor ⟨"fs", ["/data"]⟩ = [] :=
  ⟨by decide +kernel, dataBoundStore_load, by decide +kernel, by decide +kernel⟩

end AccessPolicy
