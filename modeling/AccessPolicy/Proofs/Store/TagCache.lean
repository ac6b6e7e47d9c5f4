import AccessPolicy.Proofs.Store.Reload
import Mathlib.Data.List.Nodup
/-!
# The tag cache

A cache keeps each answer under the key `version|service/segment/…` of its query, and the key
gives back both the version and the resource text (`TagCache.key_inj`). A cache that has kept
only answers of the index, each under its own query's key, therefore answers every query as the
index does, as long as no two snapshots queried share a version and no two resources queried
share a text (`Store.run_tags_eq_index`). Along a run of a store from a new one both hold when
every snapshot queried is one the run published, since published snapshots carry distinct
versions, and the resources queried differ in their texts (`Store.tagsFor_eq_index`).

Neither condition can be dropped. A snapshot that a load built and did not publish shares its
version with the one the next reload publishes (`Store.tagsFor_stale_after_load`), and the
resource `a/b` of a service shares its text with the resource `a`, `b` (`Store.tagsFor_collides`):
in each case the cache gives one query the answer of the other.
-/

namespace AccessPolicy

/-! ## Keys -/

/-- Two lists that each run up to a first separator agree when their concatenations with what
follows do. -/
theorem append_cons_inj_of_not_mem {α : Type} [DecidableEq α] {a : α} {xs ys l l' : List α}
    (hx : a ∉ xs) (hy : a ∉ ys) (h : xs ++ a :: l = ys ++ a :: l') : xs = ys ∧ l = l' := by
  have hlen : xs.length = ys.length := by
    have := congrArg (List.idxOf a) h
    simpa [List.idxOf_append_of_notMem hx, List.idxOf_append_of_notMem hy] using this
  obtain ⟨hxy, hl⟩ := List.append_inj h hlen
  exact ⟨hxy, (List.cons.inj hl).2⟩

theorem toList_toString_nat (n : Nat) : (toString n).toList = Nat.toDigits 10 n := by
  simp [Nat.repr]

namespace TagCache

/-- A key gives back the version and the resource text it was made of: the version is written
in digits, which the separator `|` is not. -/
theorem key_inj {v v' : Nat} {p p' : ResourcePath} (h : key v p = key v' p') :
    v = v' ∧ p.text = p'.text := by
  have hl := congrArg String.toList h
  simp only [key, String.toList_append, toList_toString_nat, List.append_assoc] at hl
  have hbar : ∀ n : Nat, '|' ∉ Nat.toDigits 10 n := fun n hm => by
    simpa using Nat.isDigit_of_mem_toDigits (by decide) (by decide) hm
  obtain ⟨hv, ht⟩ := append_cons_inj_of_not_mem (hbar v) (hbar v') hl
  refine ⟨?_, String.toList_inj.mp ht⟩
  rw [← Nat.ofDigitChars_ten_toDigits (n := v), hv, Nat.ofDigitChars_ten_toDigits]

/-! ## Lookups -/

theorem lookup_filter_ne {β : Type} (l : List (String × β)) (k k' : String) :
    (l.filter (·.1 != k)).lookup k' = if k' = k then none else l.lookup k' := by
  induction l with
  | nil => simp
  | cons e l ih =>
    obtain ⟨j, t⟩ := e
    by_cases hj : j = k
    · -- the entry under `k` is filtered out
      subst hj
      rw [List.filter_cons_of_neg (by simp), ih]
      by_cases hk : k' = j
      · simp [hk]
      · simp [hk, lookup_cons_of_ne _ _ hk]
    · rw [List.filter_cons_of_pos (by simpa using hj), List.lookup_cons, List.lookup_cons, ih]
      by_cases hk : k' = j
      · subst hk
        simp [hj]
      · simp [beq_eq_false_iff_ne.mpr hk]

@[simp] theorem get?_set (c : TagCache) (k k' : String) (tags : List String) :
    (c.set k tags).get? k' = if k' = k then some tags else c.get? k' := by
  by_cases hk : k' = k
  · simp [set, get?, hk]
  · simp [set, get?, hk, lookup_cons_of_ne _ _ hk, lookup_filter_ne]

@[simp] theorem get?_drop (c : TagCache) (k k' : String) :
    (c.drop k).get? k' = if k' = k then none else c.get? k' := by
  simp [drop, get?, lookup_filter_ne]

/-- Every answer the cache keeps is the index's answer to a query of one of `snaps` for one of
`paths`, kept under that query's key. -/
def KeepsIndex (snaps : Snapshot → Prop) (paths : ResourcePath → Prop) (c : TagCache) : Prop :=
  ∀ k tags, c.get? k = some tags →
    ∃ snap p, snaps snap ∧ paths p ∧ k = key snap.version p ∧ tags = snap.tagsFor p

theorem KeepsIndex.empty (snaps : Snapshot → Prop) (paths : ResourcePath → Prop) :
    KeepsIndex snaps paths {} := by
  intro k tags h
  simp [get?] at h

theorem KeepsIndex.drop {snaps : Snapshot → Prop} {paths : ResourcePath → Prop} {c : TagCache}
    (hc : KeepsIndex snaps paths c) (k : String) : KeepsIndex snaps paths (c.drop k) := by
  intro k' tags h
  rw [get?_drop] at h
  split at h
  · cases h
  · exact hc k' tags h

end TagCache

/-! ## Queries through the cache -/

/-- Queries the keys of a cache tell apart: no two snapshots share a version and no two
resources share a text. -/
structure Separated (snaps : Snapshot → Prop) (paths : ResourcePath → Prop) : Prop where
  version_inj : ∀ a b, snaps a → snaps b → a.version = b.version → a = b
  text_inj : ∀ p q, paths p → paths q → p.text = q.text → p = q

/-- A cache that keeps only index answers to separated queries answers such a query as the
index does, and keeps only index answers after it. -/
theorem Snapshot.tagsThrough_eq_index {snaps : Snapshot → Prop} {paths : ResourcePath → Prop}
    (hsep : Separated snaps paths) {cache : Option TagCache}
    (hc : ∀ c ∈ cache, c.KeepsIndex snaps paths) {snap : Snapshot} {p : ResourcePath}
    (hsnap : snaps snap) (hp : paths p) :
    (snap.tagsThrough cache p).1 = snap.tagsFor p ∧
      ∀ c ∈ (snap.tagsThrough cache p).2, c.KeepsIndex snaps paths := by
  cases cache with
  | none => simp [tagsThrough]
  | some c =>
    have hkeep := hc c rfl
    simp only [tagsThrough]
    cases hk : c.get? (TagCache.key snap.version p) with
    | some tags =>
      -- a hit was kept for a query with the same key, which is this very query
      obtain ⟨snap', p', hsnap', hp', hkey, htags⟩ := hkeep _ _ hk
      obtain ⟨hv, ht⟩ := TagCache.key_inj hkey
      have hs := hsep.version_inj _ _ hsnap hsnap' hv
      have hq := hsep.text_inj _ _ hp hp' ht
      subst hs hq
      exact ⟨htags, fun c' hc' => by cases hc'; exact hkeep⟩
    | none =>
      refine ⟨rfl, fun c' hc' => ?_⟩
      cases hc'
      intro k tags h
      rw [TagCache.get?_set] at h
      split at h
      · rename_i hkk
        cases h
        exact ⟨snap, p, hsnap, hp, hkk, rfl⟩
      · exact hkeep k tags h

namespace Store

/-- Only a query or a dropped entry changes the cache. -/
theorem step_cache_of_not_query (s : Store) (c : Call) (hq : ∀ snap p, c ≠ .tagsFor snap p)
    (hd : ∀ k, c ≠ .drop k) : (s.step c).1.cache = s.cache := by
  cases c with
  | reload domains source =>
    simp only [step, reload_eq]
    cases s.load domains source <;> rfl
  | load => rfl
  | observe => rfl
  | tagsFor snap p => exact absurd rfl (hq snap p)
  | drop k => exact absurd rfl (hd k)

/-- Along a run whose queries are separated and made of `snaps` and `paths`, from a cache that
keeps only index answers to them, every query is answered as the index does. -/
theorem run_tags_eq_index {snaps : Snapshot → Prop} {paths : ResourcePath → Prop}
    (hsep : Separated snaps paths) (s : Store) (cs : List Call)
    (hcs : ∀ snap p, Call.tagsFor snap p ∈ cs → snaps snap ∧ paths p)
    (hc : ∀ c ∈ s.cache, c.KeepsIndex snaps paths) :
    ∀ snap p tags, (Call.tagsFor snap p, Answer.tags tags) ∈ cs.zip (s.run cs).2 →
      tags = snap.tagsFor p := by
  induction cs generalizing s with
  | nil => simp
  | cons c cs ih =>
    -- the invariant after the first call, and its answer if it is a query
    have hnext : (∀ c' ∈ (s.step c).1.cache, c'.KeepsIndex snaps paths) ∧
        ∀ snap p tags, c = .tagsFor snap p → (s.step c).2 = .tags tags → tags = snap.tagsFor p := by
      cases c with
      | tagsFor snap p =>
        obtain ⟨hsnap, hp⟩ := hcs snap p List.mem_cons_self
        obtain ⟨htags, hkeep⟩ := Snapshot.tagsThrough_eq_index hsep hc hsnap hp
        refine ⟨hkeep, fun snap' p' tags heq hans => ?_⟩
        obtain ⟨rfl, rfl⟩ := Call.tagsFor.inj heq
        simp only [step, tagsFor, Answer.tags.injEq] at hans
        rw [← hans, htags]
      | drop k =>
        refine ⟨fun c' hc' => ?_, fun _ _ _ heq => by cases heq⟩
        simp only [step, Option.mem_def, Option.map_eq_some_iff] at hc'
        obtain ⟨c₀, hc₀, rfl⟩ := hc'
        exact (hc c₀ hc₀).drop k
      | reload domains source =>
        refine ⟨?_, fun _ _ _ heq => by cases heq⟩
        rw [step_cache_of_not_query s _ (fun _ _ => by simp) (fun _ => by simp)]
        exact hc
      | load domains source => exact ⟨hc, fun _ _ _ heq => by cases heq⟩
      | observe => exact ⟨hc, fun _ _ _ heq => by cases heq⟩
    intro snap p tags hmem
    rw [run_cons, List.zip_cons_cons, List.mem_cons] at hmem
    rcases hmem with hhead | htail
    · obtain ⟨hc', ha⟩ := Prod.mk.inj hhead
      exact hnext.2 snap p tags hc'.symm ha.symm
    · exact ih (s.step c).1 (fun snap p h => hcs snap p (List.mem_cons_of_mem _ h)) hnext.1
        snap p tags htail

/-- The snapshots a run from a new store publishes carry distinct versions. -/
theorem published_version_inj (observers : List (List ReloadNotice)) (cache : Option TagCache)
    (cs : List Call) :
    ∀ a ∈ (({ observers := observers, cache := cache } : Store).run cs).2.filterMap
        Answer.published?,
      ∀ b ∈ (({ observers := observers, cache := cache } : Store).run cs).2.filterMap
        Answer.published?, a.version = b.version → a = b := by
  have hvers := (run_published ({ observers := observers, cache := cache } : Store) cs).2.2
  have hnodup : ((({ observers := observers, cache := cache } : Store).run cs).2.filterMap
      Answer.published?).map (·.version) |>.Nodup := by
    rw [hvers]
    exact List.nodup_range'
  exact fun a ha b hb hv => List.inj_on_of_nodup_map hnodup ha hb hv

/-- The tag cache is transparent for published snapshots and resources of distinct texts. Along
any run of calls from a new store with an empty cache, in which every snapshot queried is one
the run publishes and no two resources queried share a text, every query is answered as the
queried snapshot's own index answers it, whatever the cache kept for earlier snapshots. -/
theorem tagsFor_eq_index (observers : List (List ReloadNotice)) (cs : List Call)
    (hpub : ∀ snap p, Call.tagsFor snap p ∈ cs →
      snap ∈ (({ observers := observers, cache := some {} } : Store).run cs).2.filterMap
        Answer.published?)
    (htext : ∀ snap p snap' q, Call.tagsFor snap p ∈ cs → Call.tagsFor snap' q ∈ cs →
      p.text = q.text → p = q) :
    ∀ snap p tags, (Call.tagsFor snap p, Answer.tags tags) ∈
        cs.zip (({ observers := observers, cache := some {} } : Store).run cs).2 →
      tags = snap.tagsFor p := by
  have hsep : Separated
      (· ∈ (({ observers := observers, cache := some {} } : Store).run cs).2.filterMap
        Answer.published?)
      (fun p => ∃ snap, Call.tagsFor snap p ∈ cs) := by
    refine ⟨fun a b ha hb hv => published_version_inj observers (some {}) cs a ha b hb hv, ?_⟩
    rintro p q ⟨snap, hp⟩ ⟨snap', hq⟩ ht
    exact htext snap p snap' q hp hq ht
  refine run_tags_eq_index hsep _ cs (fun snap p h => ⟨hpub snap p h, snap, h⟩) ?_
  intro c hc
  cases hc
  exact TagCache.KeepsIndex.empty _ _

end Store

/-! ## Collisions -/

/-- A tag on the hbase table `a`. -/
def tableTag : TagBinding := ⟨⟨"hbase", ["a"]⟩, "T"⟩

/-- One domain declaring an hbase service, with a tag on table `a` when `tagged`. -/
def tableDomains (tagged : Bool) : List Domain :=
  [⟨"d", "d.yaml", [("hbase", ⟨"hbase", "hbase"⟩)], [], if tagged then [tableTag] else [], []⟩]

/-- The snapshot of a version the table domains load into. -/
def tableSnapshot (version : Nat) (tagged : Bool) : Snapshot :=
  ⟨version, ["d"], [("hbase", ⟨"hbase", "hbase"⟩)], [], [],
    TagIndex.build (if tagged then [tableTag] else []) [], []⟩

theorem tableDomains_load (version : Nat) (tagged : Bool) :
    Snapshot.ofDomains version (tableDomains tagged) none = .ok (tableSnapshot version tagged) := by
  cases tagged <;>
  · rw [Snapshot.ofDomains, (by decide +kernel : validateDomains (tableDomains _) = [])]
    rfl

/-- A store builds the table snapshot at the version after its own. -/
theorem Store.load_tableDomains (s : Store) (tagged : Bool) :
    s.load (.ok (tableDomains tagged)) none = .ok (tableSnapshot (s.version + 1) tagged) := by
  simp [Store.load, bind, Except.bind, tableDomains_load]

/-- Resources of one text share a cache entry. After a reload publishes the tagged table
snapshot, a query for the resource `a`, `b` keeps the tag of `a`; a later query for the resource
`a/b`, which has the same text, is answered with that tag, though the index gives `a/b` none. -/
theorem Store.tagsFor_collides :
    ({ cache := some {} } : Store).step (.reload (.ok (tableDomains true)) none) =
        ({ current := some (tableSnapshot 1 true), version := 1, cache := some {} },
          .reloaded (.ok (tableSnapshot 1 true))) ∧
      ((({ current := some (tableSnapshot 1 true), version := 1, cache := some {} } :
          Store).tagsFor (tableSnapshot 1 true) ⟨"hbase", ["a", "b"]⟩).1.tagsFor
          (tableSnapshot 1 true) ⟨"hbase", ["a/b"]⟩).2 = ["T"] ∧
      (tableSnapshot 1 true).tagsFor ⟨"hbase", ["a/b"]⟩ = [] := by
  refine ⟨?_, by decide +kernel, by decide +kernel⟩
  simp [Store.step, Store.reload_eq, Store.load_tableDomains, Store.notify]

/-- A snapshot a load built shares its version with the one the next reload publishes. After a
load builds the tagged table snapshot and a query on it keeps the tag of `a`, a reload publishes
the untagged one at the same version; a query on it for `a` is answered with the tag, though its
index gives none. -/
theorem Store.tagsFor_stale_after_load :
    ({ cache := some {} } : Store).load (.ok (tableDomains true)) none =
        .ok (tableSnapshot 1 true) ∧
      (({ cache := some {} } : Store).tagsFor (tableSnapshot 1 true) ⟨"hbase", ["a"]⟩).1.reload
          (.ok (tableDomains false)) none =
        ({ current := some (tableSnapshot 1 false)
           version := 1
           cache := some ⟨[("1|hbase/a", ["T"])]⟩ }, .ok (tableSnapshot 1 false)) ∧
      (({ current := some (tableSnapshot 1 false)
          version := 1
          cache := some ⟨[("1|hbase/a", ["T"])]⟩ } : Store).tagsFor (tableSnapshot 1 false)
          ⟨"hbase", ["a"]⟩).2 = ["T"] ∧
      (tableSnapshot 1 false).tagsFor ⟨"hbase", ["a"]⟩ = [] := by
  have hkept : (({ cache := some {} } : Store).tagsFor (tableSnapshot 1 true)
      ⟨"hbase", ["a"]⟩).1.cache = some ⟨[("1|hbase/a", ["T"])]⟩ := by
    decide +kernel
  refine ⟨Store.load_tableDomains {} true, ?_, by decide +kernel, by decide +kernel⟩
  rw [Store.reload_eq, Store.load_tableDomains]
  simp only [Store.notify]
  rw [hkept]
  rfl

/-- Two reloads publish the tagged table snapshot at version 1 and the untagged one at version 2;
each is queried for the table `a`, and then the older one again. -/
def tableCalls : List Store.Call :=
  [.reload (.ok (tableDomains true)) none, .tagsFor (tableSnapshot 1 true) ⟨"hbase", ["a"]⟩,
    .reload (.ok (tableDomains false)) none, .tagsFor (tableSnapshot 2 false) ⟨"hbase", ["a"]⟩,
    .tagsFor (tableSnapshot 1 true) ⟨"hbase", ["a"]⟩]

/-- The table calls query only published snapshots, for one resource, so each answer is its
snapshot's own, the cache holding answers of both versions. -/
theorem Store.tagsFor_eq_index_sample :
    (∀ snap p, Store.Call.tagsFor snap p ∈ tableCalls →
      snap ∈ (({ observers := [], cache := some {} } : Store).run tableCalls).2.filterMap
        Store.Answer.published?) ∧
    (∀ snap p snap' q, Store.Call.tagsFor snap p ∈ tableCalls →
      Store.Call.tagsFor snap' q ∈ tableCalls → p.text = q.text → p = q) ∧
    ∀ snap p tags, (Store.Call.tagsFor snap p, Store.Answer.tags tags) ∈
        tableCalls.zip (({ observers := [], cache := some {} } : Store).run tableCalls).2 →
      tags = snap.tagsFor p := by
  have hpub : ∀ snap p, Store.Call.tagsFor snap p ∈ tableCalls →
      snap ∈ (({ observers := [], cache := some {} } : Store).run tableCalls).2.filterMap
        Store.Answer.published? := by
    intro snap p h
    have hrun : (({ observers := [], cache := some {} } : Store).run tableCalls).2.filterMap
        Store.Answer.published? = [tableSnapshot 1 true, tableSnapshot 2 false] := by
      simp [tableCalls, Store.run, Store.step, Store.reload_eq, Store.load_tableDomains,
        Store.tagsFor, Store.Answer.published?, Except.toOption, List.filterMap_cons]
    rw [hrun]
    simp [tableCalls] at h
    rcases h with ⟨rfl, -⟩ | ⟨rfl, -⟩ | ⟨rfl, -⟩ <;> simp
  have htext : ∀ snap p snap' q, Store.Call.tagsFor snap p ∈ tableCalls →
      Store.Call.tagsFor snap' q ∈ tableCalls → p.text = q.text → p = q := by
    intro snap p snap' q h h' _
    simp only [tableCalls, List.mem_cons, Store.Call.tagsFor.injEq, reduceCtorEq, false_or,
      List.not_mem_nil, or_false] at h h'
    obtain ⟨-, rfl⟩ | ⟨-, rfl⟩ | ⟨-, rfl⟩ := h <;> obtain ⟨-, rfl⟩ | ⟨-, rfl⟩ | ⟨-, rfl⟩ := h' <;> rfl
  exact ⟨hpub, htext, Store.tagsFor_eq_index [] tableCalls hpub htext⟩

end AccessPolicy
