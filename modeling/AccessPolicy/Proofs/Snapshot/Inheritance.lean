import AccessPolicy.Proofs.Store.TagCache
import AccessPolicy.Decision.Evaluate
/-!
# Inherited tags and covering patterns

A resource carries the tags bound to it and to its ancestors, which the index finds by the text
`service/segment/…` of each ancestor (`TagIndex.tagsFor`). A pattern covers a resource by
comparing segments (`Pattern.covers`). The two are computed by unrelated code; this module shows
where they agree.

Both sides are first read as relations between two resources: a binding's resource is an
ancestor of a path by text (`TagIndex.mem_tagsFor`, `TagIndex.mem_lookup_build`), and its
literal pattern covers the path (`Pattern.compile_literal`). Texts of services without `/`
determine the service and the joined segments (`ResourcePath.text_eq_iff`); segments without `/`
are read back from the join (`ResourcePath.intercalate_slash_inj`). So outside a recursive
hierarchy an ancestor by text is a prefix of the segments (`ResourcePath.exists_prefix_iff`), and
in a recursive one a directory by text is a path that the covered path equals or continues past
a `/` (`ResourcePath.exists_directory_iff`).

For a path that passed a request's checks and a binding written literally
(`ResourcePath.Literal`) the tag is inherited exactly when the binding's pattern covers the path
(`Snapshot.mem_tagsFor_iff_covers`). A path bound with a final `/` shows why the literal form
is needed: its pattern covers the paths below it, which do not inherit its tags
(`Snapshot.tagsFor_misses_slash_ended`).
-/

namespace AccessPolicy

/-! ## The index -/

namespace TagIndex

theorem mem_lookup_bind (idx : TagIndex) (b : TagBinding) (k t : String) :
    t ∈ ((idx.bind b).bindings.lookup k).getD [] ↔
      t ∈ (idx.bindings.lookup k).getD [] ∨ b.resource.text = k ∧ b.tag = t := by
  unfold bind
  dsimp only
  split
  case isTrue hin =>
    -- a tag already on the resource is skipped, and it is there already
    refine ⟨Or.inl, ?_⟩
    rintro (h | ⟨rfl, rfl⟩)
    · exact h
    · exact List.contains_iff_mem.mp hin
  case isFalse =>
    rw [lookup_appendAt, List.mem_append]
    by_cases hk : k = b.resource.text
    · subst hk
      simp [eq_comm]
    · simp [hk, Ne.symm hk]

theorem mem_lookup_foldl_bind (bs : List TagBinding) (idx : TagIndex) (k t : String) :
    t ∈ ((bs.foldl bind idx).bindings.lookup k).getD [] ↔
      t ∈ (idx.bindings.lookup k).getD [] ∨ ∃ b ∈ bs, b.resource.text = k ∧ b.tag = t := by
  induction bs generalizing idx with
  | nil => simp
  | cons b bs ih =>
    rw [List.foldl_cons, ih, mem_lookup_bind]
    simp only [List.mem_cons, exists_eq_or_imp]
    tauto

/-- The tags an index keeps under a resource text are those of the bindings on that text. -/
theorem mem_lookup_build (bs : List TagBinding) (rules : List Rule) (k t : String) :
    t ∈ ((build bs rules).bindings.lookup k).getD [] ↔
      ∃ b ∈ bs, b.resource.text = k ∧ b.tag = t := by
  have hidx : (build bs rules).bindings = (bs.foldl bind {}).bindings := rfl
  simpa [hidx] using mem_lookup_foldl_bind bs {} k t

theorem mem_tagsFor (idx : TagIndex) (resolve : String → Option Hierarchy) (path : ResourcePath)
    (t : String) :
    t ∈ idx.tagsFor resolve path ↔ ∃ h, resolve path.service = some h ∧
      ∃ a ∈ path.ancestors h, t ∈ (idx.bindings.lookup a.text).getD [] := by
  unfold tagsFor
  cases resolve path.service <;> simp

end TagIndex

/-! ## Resource texts -/

namespace ResourcePath

theorem toList_text (p : ResourcePath) :
    p.text.toList =
      p.service.toList ++ '/' :: ['/'].intercalate (p.segments.map String.toList) := by
  simp [text, String.toList_intercalate]

/-- The text of a resource whose service holds no `/` gives back the service and the joined
segments. -/
theorem text_eq_iff {p q : ResourcePath} (hp : '/' ∉ p.service.toList)
    (hq : '/' ∉ q.service.toList) :
    p.text = q.text ↔
      p.service = q.service ∧ "/".intercalate p.segments = "/".intercalate q.segments := by
  constructor
  · intro h
    have hl := congrArg String.toList h
    rw [toList_text, toList_text] at hl
    obtain ⟨hs, hsegs⟩ := append_cons_inj_of_not_mem hp hq hl
    refine ⟨String.toList_inj.mp hs, String.toList_inj.mp ?_⟩
    simpa [String.toList_intercalate] using hsegs
  · rintro ⟨hs, hsegs⟩
    rw [text, text, hs, hsegs]

theorem intercalate_slash_inj {xs ys : List String} (hx : ∀ s ∈ xs, '/' ∉ s.toList)
    (hy : ∀ s ∈ ys, '/' ∉ s.toList) (hxne : xs ≠ []) (hyne : ys ≠ [])
    (h : "/".intercalate xs = "/".intercalate ys) : xs = ys := by
  have hl := congrArg (fun s => s.toList.splitOn '/') h
  simp only [String.toList_intercalate] at hl
  rw [show "/".toList = ['/'] from rfl, List.splitOn_intercalate _ (by simpa using hx)
    (by simpa using hxne), List.splitOn_intercalate _ (by simpa using hy) (by simpa using hyne)]
    at hl
  exact List.map_injective_iff.mpr (fun a b h => String.toList_inj.mp h) hl

theorem text_eq_single_iff {R : ResourcePath} {service r x : String}
    (hR : '/' ∉ R.service.toList) (hs : '/' ∉ service.toList) (hRseg : R.segments = [r]) :
    R.text = (⟨service, [x]⟩ : ResourcePath).text ↔ R.service = service ∧ r = x := by
  rw [text_eq_iff hR hs, hRseg]
  simp [String.intercalate_singleton]

/-! ## Ancestors -/

theorem ancestors_of_not_recursive {p : ResourcePath} {h : Hierarchy}
    (hrec : h.recursive = false) :
    p.ancestors h = (List.range p.segments.length).map fun i => p.prefixOf (i + 1) := by
  unfold ancestors
  split
  · simp_all
  · rfl

/-- Outside a recursive hierarchy a resource is an ancestor of another by text exactly when it
names the same service and a prefix of its segments, all segments being free of `/`. -/
theorem exists_prefix_iff {p R : ResourcePath} {h : Hierarchy} (hrec : h.recursive = false)
    (hp : '/' ∉ p.service.toList) (hR : '/' ∉ R.service.toList)
    (hpseg : ∀ s ∈ p.segments, '/' ∉ s.toList) (hRseg : ∀ s ∈ R.segments, '/' ∉ s.toList)
    (hRne : R.segments ≠ []) :
    (∃ a ∈ p.ancestors h, R.text = a.text) ↔
      R.service = p.service ∧ R.segments <+: p.segments := by
  rw [ancestors_of_not_recursive hrec]
  constructor
  · rintro ⟨a, ha, htext⟩
    obtain ⟨i, hi, rfl⟩ := List.mem_map.mp ha
    obtain ⟨hs, hj⟩ := (text_eq_iff (q := p.prefixOf (i + 1)) hR hp).mp htext
    have hne : p.segments.take (i + 1) ≠ [] := by
      refine List.ne_nil_of_length_pos ?_
      rw [List.length_take]
      simp only [List.mem_range] at hi
      omega
    have hsegs := intercalate_slash_inj hRseg (fun s hs => hpseg s (List.mem_of_mem_take hs))
      hRne hne hj
    exact ⟨hs, hsegs ▸ List.take_prefix _ _⟩
  · rintro ⟨hs, hpre⟩
    have hlen := hpre.length_le
    have hpos := List.length_pos_iff.mpr hRne
    refine ⟨p.prefixOf R.segments.length, List.mem_map.mpr ⟨R.segments.length - 1, ?_, ?_⟩, ?_⟩
    · simp only [List.mem_range]
      omega
    · rw [Nat.sub_add_cancel hpos]
    · rw [text_eq_iff (q := p.prefixOf R.segments.length) hR hp]
      exact ⟨hs, by rw [prefixOf, ← List.prefix_iff_eq_take.mp hpre]⟩

/-- A cut of a path before one of its `/` gives a non-empty directory exactly when the directory
followed by `/` starts the path. -/
theorem exists_cut_iff (rs cs : List Char) :
    (∃ i < cs.length, 1 ≤ i ∧ cs.getD i ' ' = '/' ∧ rs = cs.take i) ↔
      rs ≠ [] ∧ rs ++ ['/'] <+: cs := by
  constructor
  · rintro ⟨i, hi, h1, hc, rfl⟩
    have hget : cs[i] = '/' := by
      simpa [List.getD_eq_getElem?_getD, List.getElem?_eq_getElem hi] using hc
    have htake : cs.take (i + 1) = cs.take i ++ ['/'] := by
      rw [List.take_add_one, List.getElem?_eq_getElem hi, hget]
      rfl
    refine ⟨List.ne_nil_of_length_pos ?_, htake ▸ List.take_prefix (i + 1) cs⟩
    rw [List.length_take]
    omega
  · rintro ⟨hne, u, rfl⟩
    exact ⟨rs.length, by simp, List.length_pos_iff.mpr hne, by simp, by simp⟩

theorem exists_mem_directories {p : ResourcePath} {seg : String} {Q : ResourcePath → Prop} :
    (∃ a ∈ p.directories seg, Q a) ↔
      (seg.startsWith "/" ∧ seg ≠ "/" ∧ Q ⟨p.service, ["/"]⟩) ∨
      (∃ i < seg.toList.length, 1 ≤ i ∧ seg.toList.getD i ' ' = '/' ∧
        Q ⟨p.service, [String.ofList (seg.toList.take i)]⟩) ∨ Q p := by
  simp only [directories, List.mem_append, List.mem_map, List.mem_filter, List.mem_range,
    List.mem_cons]
  split <;> simp_all <;> grind

theorem service_of_mem_ancestors {p a : ResourcePath} {h : Hierarchy} (ha : a ∈ p.ancestors h) :
    a.service = p.service := by
  unfold ancestors at ha
  split at ha
  · -- the root, each cut and the path itself all name the path's service
    obtain ⟨-, -, rfl⟩ | ⟨i, -, -, -, rfl⟩ | rfl :=
      (exists_mem_directories (Q := fun b => b = a)).mp ⟨a, ha, rfl⟩ <;> rfl
  · obtain ⟨i, -, rfl⟩ := List.mem_map.mp ha
    rfl

theorem dropSuffix_slash {r : String} (h : r.endsWith "/" = false) :
    (r.dropSuffix "/").toString = r := by
  have hn : r.dropSuffix? "/" = none := by
    rw [String.dropSuffix?_eq_dropSuffix?_toSlice, String.Slice.dropSuffix?_eq_none_iff]
    exact h
  simp [String.dropSuffix, String.Slice.dropSuffix, hn]

/-- In a recursive hierarchy a path `r`, the root or one without a final `/`, is by text one of
the directories of `seg` or `seg` itself exactly when `seg` is `r` or continues it past a `/`:
the relation a literal path pattern tests. -/
theorem exists_directory_iff {p R : ResourcePath} {seg r : String}
    (hp : '/' ∉ p.service.toList) (hR : '/' ∉ R.service.toList) (hpseg : p.segments = [seg])
    (hRseg : R.segments = [r]) (hr : r ≠ "") (hslash : r = "/" ∨ r.endsWith "/" = false) :
    (∃ a ∈ p.directories seg, R.text = a.text) ↔
      R.service = p.service ∧
        (seg = r ∨ seg.startsWith ((r.dropSuffix "/").toString ++ "/")) := by
  have hself : p = ⟨p.service, [seg]⟩ := by rw [← hpseg]
  rw [exists_mem_directories]
  nth_rewrite 3 [hself]
  simp only [text_eq_single_iff hR hp hRseg]
  have hcut : (∃ i < seg.toList.length, 1 ≤ i ∧ seg.toList.getD i ' ' = '/' ∧
      R.service = p.service ∧ r = String.ofList (seg.toList.take i)) ↔
      R.service = p.service ∧ r.toList ++ ['/'] <+: seg.toList := by
    constructor
    · rintro ⟨i, hi, h1, hc, hs, rfl⟩
      exact ⟨hs, ((exists_cut_iff _ _).mp ⟨i, hi, h1, hc, by simp⟩).2⟩
    · rintro ⟨hs, hpre⟩
      obtain ⟨i, hi, h1, hc, heq⟩ := (exists_cut_iff _ _).mpr ⟨by simpa using hr, hpre⟩
      exact ⟨i, hi, h1, hc, hs, by rw [← heq, String.ofList_toList]⟩
  rw [hcut]
  rcases hslash with rfl | hend
  · -- the root is a directory of exactly the absolute paths other than itself
    rw [show (("/" : String).dropSuffix "/").toString = "" by decide +kernel,
      String.startsWith_string_iff, String.startsWith_string_iff]
    constructor
    · rintro (⟨hpre, -, hs, -⟩ | ⟨hs, hpre⟩ | ⟨hs, heq⟩)
      · exact ⟨hs, Or.inr (by simpa using hpre)⟩
      · exact ⟨hs, Or.inr ((List.prefix_append _ _).trans hpre)⟩
      · exact ⟨hs, Or.inl heq.symm⟩
    · rintro ⟨hs, heq | hpre⟩
      · exact Or.inr (Or.inr ⟨hs, heq.symm⟩)
      · by_cases hseg : seg = "/"
        · exact Or.inr (Or.inr ⟨hs, hseg.symm⟩)
        · exact Or.inl ⟨by simpa using hpre, hseg, hs, rfl⟩
  · have hne : r ≠ "/" := by
      rintro rfl
      exact absurd hend (by decide +kernel)
    rw [dropSuffix_slash hend]
    simp only [hne, and_false, false_or, String.startsWith_string_iff, String.toList_append]
    constructor
    · rintro (⟨hs, hpre⟩ | ⟨hs, heq⟩)
      · exact ⟨hs, Or.inr hpre⟩
      · exact ⟨hs, Or.inl heq.symm⟩
    · rintro ⟨hs, heq | hpre⟩
      · exact Or.inr ⟨hs, heq.symm⟩
      · exact Or.inl ⟨hs, hpre⟩

end ResourcePath

/-! ## Literal patterns -/

theorem isGlobText_eq_any (s : String) :
    isGlobText s = s.toList.any fun c => c = '*' ∨ c = '?' ∨ c = '[' ∨ c = '{' := by
  simp [isGlobText, String.any, String.contains_prop_eq]

namespace Pattern

theorem compileSegment_literal {level raw : String} (hne : raw ≠ "")
    (hg : isGlobText raw = false) : compileSegment level raw = .ok ⟨raw, .literal⟩ := by
  have hstar : raw ≠ "*" := by
    rintro rfl
    simp [isGlobText_eq_any] at hg
  simp [compileSegment, hne, hstar, hg]

theorem mapM_compileSegment_literal {raws levels : List String}
    (hlen : raws.length ≤ levels.length) (hraw : ∀ r ∈ raws, r ≠ "" ∧ isGlobText r = false) :
    (raws.zip levels).mapM (fun (raw, level) => compileSegment level raw) =
      .ok (raws.map (⟨·, .literal⟩)) := by
  induction raws generalizing levels with
  | nil => rfl
  | cons r rs ih =>
    cases levels with
    | nil => simp at hlen
    | cons l ls =>
      have hr := hraw r (by simp)
      simp only [List.zip_cons_cons, List.mapM_cons, compileSegment_literal hr.1 hr.2,
        ih (by simpa using hlen) (fun x hx => hraw x (by simp [hx])), List.map_cons]
      rfl

/-- Segments that are neither empty nor globs, no more than the levels, compile to the pattern
of literal segments. -/
theorem compile_literal {service : String} {h : Hierarchy} {raws : List String} (hne : raws ≠ [])
    (hlen : raws.length ≤ h.depth) (hraw : ∀ r ∈ raws, r ≠ "" ∧ isGlobText r = false) :
    compile service h raws = .ok ⟨service, raws.map (⟨·, .literal⟩), h.recursive⟩ := by
  have hlen' : ¬ raws.length > h.depth := by omega
  simp only [compile, List.isEmpty_iff, hne, hlen', if_false,
    mapM_compileSegment_literal hlen hraw]
  rfl

theorem service_of_compile {service : String} {h : Hierarchy} {raws : List String}
    {pat : Pattern} (hc : compile service h raws = .ok pat) : pat.service = service := by
  unfold compile at hc
  split at hc
  · cases hc
  split at hc
  · cases hc
  cases hm : (raws.zip h.levels).mapM (fun (raw, level) => compileSegment level raw) with
  | error e => simp [hm, Except.map] at hc
  | ok segs =>
    simp only [hm, Except.map, Except.ok.injEq] at hc
    rw [← hc]

theorem service_of_covers {p : Pattern} {r : ResourcePath} (hc : p.covers r = true) :
    r.service = p.service := by
  simp only [covers, Bool.decide_and, Bool.and_eq_true, decide_eq_true_eq] at hc
  exact hc.1

theorem all_accepts_literal_iff (raws vs : List String) :
    (((raws.map (⟨·, .literal⟩ : String → Segment)).zip vs).all fun (s, v) => s.accepts v) = true ∧
      raws.length ≤ vs.length ↔ raws <+: vs := by
  induction raws generalizing vs with
  | nil => simp
  | cons r rs ih =>
    cases vs with
    | nil => simp
    | cons v vs =>
      simp only [List.map_cons, List.zip_cons_cons, List.all_cons, Bool.and_eq_true,
        List.length_cons, Nat.add_le_add_iff_right, List.cons_prefix_cons, ← ih]
      simp [Segment.accepts]
      tauto

theorem covers_literal_iff (service : String) (raws : List String) (P : ResourcePath) :
    (⟨service, raws.map (⟨·, .literal⟩), false⟩ : Pattern).covers P = true ↔
      P.service = service ∧ raws <+: P.segments := by
  rw [← all_accepts_literal_iff]
  simp [covers]
  tauto

theorem covers_path_iff (service r : String) {P : ResourcePath} {seg : String}
    (hP : P.segments = [seg]) :
    (⟨service, [⟨r, .literal⟩], true⟩ : Pattern).covers P = true ↔
      P.service = service ∧ (seg = r ∨ seg.startsWith ((r.dropSuffix "/").toString ++ "/")) := by
  simp [covers, hP, Segment.acceptsPath]

end Pattern

/-! ## Checked requests and literal bindings -/

/-- A resource as a request's checks leave it under a hierarchy: one to `depth` non-empty
segments, which hold no `/` unless the hierarchy is recursive. -/
structure ResourcePath.Concrete (h : Hierarchy) (p : ResourcePath) : Prop where
  ne_nil : p.segments ≠ []
  length_le : p.segments.length ≤ h.depth
  ne_empty : ∀ seg ∈ p.segments, seg ≠ ""
  no_slash : h.recursive = false → ∀ seg ∈ p.segments, '/' ∉ seg.toList

/-- A resource written literally: concrete, with no glob in its segments, and in a recursive
hierarchy a path that ends in `/` only when it is the root. -/
structure ResourcePath.Literal (h : Hierarchy) (r : ResourcePath) : Prop
    extends r.Concrete h where
  no_glob : ∀ seg ∈ r.segments, isGlobText seg = false
  no_trailing : h.recursive = true → ∀ seg ∈ r.segments, seg = "/" ∨ seg.endsWith "/" = false

theorem forM_eq_ok {ε α : Type} {f : α → Except ε Unit} :
    ∀ {l : List α}, l.forM f = .ok () → ∀ x ∈ l, f x = .ok ()
  | [], _ => by simp
  | x :: xs, h => by
    dsimp only [List.forM] at h
    obtain ⟨⟨⟩, hx, hxs⟩ := Except.bind_eq_ok h
    intro y hy
    rcases List.mem_cons.mp hy with rfl | hy
    · exact hx
    · exact forM_eq_ok hxs y hy

theorem checkSegment_eq_ok {h : Hierarchy} {i : Fin h.levels.length} {seg : String}
    (hc : checkSegment h i seg = .ok ()) :
    seg ≠ "" ∧ (h.recursive = false → '/' ∉ seg.toList) := by
  unfold checkSegment at hc
  split at hc
  · cases hc
  split at hc
  · cases hc
  split at hc
  · cases hc
  rename_i hempty _ hslash
  refine ⟨by simpa using hempty, fun hrec => ?_⟩
  simpa [hrec, hasAnyOf] using hslash

namespace Snapshot

/-- A request that passes its checks names a declared service and a concrete resource of it. -/
theorem checkRequest_concrete {s : Snapshot} {req : AccessRequest} {c : CheckedRequest}
    (hc : s.checkRequest req = .ok c) :
    ∃ h, s.hierarchy? c.path.service = some h ∧ c.path.Concrete h := by
  unfold checkRequest at hc
  split at hc
  · cases hc
  simp only at hc
  obtain ⟨action, -, hc⟩ := Except.bind_eq_ok hc
  split at hc
  · rename_i h hh
    split at hc
    · cases hc
    rename_i hn
    obtain ⟨⟨⟩, hsegs, hc⟩ := Except.bind_eq_ok hc
    have hseg : ∀ seg ∈ req.resource.segments,
        seg ≠ "" ∧ (h.recursive = false → '/' ∉ seg.toList) := by
      intro seg hmem
      rw [← List.zipIdx_map_fst 0 req.resource.segments] at hmem
      obtain ⟨⟨seg, i⟩, hpair, rfl⟩ := List.mem_map.mp hmem
      exact checkSegment_eq_ok (forM_eq_ok hsegs ⟨_, hpair⟩ (List.mem_attach _ _))
    cases hc
    refine ⟨h, hh, ?_⟩
    obtain ⟨hne, hle⟩ : req.resource.segments ≠ [] ∧ req.resource.segments.length ≤ h.depth := by
      simpa [List.length_eq_zero_iff] using hn
    -- only a recursive hierarchy rewrites the segments, making the path absolute
    cases hrec : h.recursive with
    | false =>
      simp only
      exact ⟨hne, hle, fun seg hs => (hseg seg hs).1, fun _ seg hs => (hseg seg hs).2 hrec⟩
    | true =>
      obtain ⟨first, rest, hfr⟩ := List.exists_cons_of_ne_nil hne
      simp only [hfr] at hle hseg ⊢
      split
      · exact ⟨by simp, hle, fun seg hs => (hseg seg hs).1, by simp [hrec]⟩
      · refine ⟨by simp, by simpa using hle, ?_, by simp [hrec]⟩
        intro seg hs
        rcases List.mem_cons.mp hs with rfl | hs
        · simp
        · exact (hseg seg (List.mem_cons_of_mem _ hs)).1
  · cases hc

/-- The one recursive hierarchy, of hdfs paths, has one level. -/
theorem depth_of_recursive {s : Snapshot} {name : String} {h : Hierarchy}
    (hh : s.hierarchy? name = some h) (hrec : h.recursive = true) : h.depth = 1 := by
  obtain ⟨t, rfl⟩ : ∃ t : ServiceType, t.hierarchy = h := by
    simp only [hierarchy?, service?] at hh
    split at hh
    · cases hh
    · simp only [Option.map_map, Option.map_eq_some_iff] at hh
      obtain ⟨t, -, ht⟩ := hh
      exact ⟨t, ht⟩
  cases t <;> simp_all [ServiceType.hierarchy, Hierarchy.depth]

/-! ## Tags and coverage -/

/-- A binding's resource is an ancestor of a checked path by text exactly when its pattern
covers the path. -/
theorem ancestor_iff_covers {s : Snapshot} {P R : ResourcePath} {h : Hierarchy}
    (hP : s.hierarchy? P.service = some h) (hPs : '/' ∉ P.service.toList) (hPc : P.Concrete h)
    (hRs : '/' ∉ R.service.toList) (hR : ∀ hb, s.hierarchy? R.service = some hb → R.Literal hb) :
    (∃ a ∈ P.ancestors h, R.text = a.text) ↔
      ∃ hb pat, s.hierarchy? R.service = some hb ∧
        Pattern.compile R.service hb R.segments = .ok pat ∧ pat.covers P = true := by
  by_cases hs : R.service = P.service
  · have hRl := hR h (hs ▸ hP)
    have hcomp : Pattern.compile R.service h R.segments =
        .ok ⟨R.service, R.segments.map (⟨·, .literal⟩), h.recursive⟩ :=
      Pattern.compile_literal hRl.ne_nil hRl.length_le
        fun r hr => ⟨hRl.ne_empty r hr, hRl.no_glob r hr⟩
    -- the binding's service is the path's, so its pattern is the literal one of that hierarchy
    have hcov : (∃ hb pat, s.hierarchy? R.service = some hb ∧
        Pattern.compile R.service hb R.segments = .ok pat ∧ pat.covers P = true) ↔
        (⟨R.service, R.segments.map (⟨·, .literal⟩), h.recursive⟩ : Pattern).covers P = true := by
      rw [show s.hierarchy? R.service = some h from hs ▸ hP]
      constructor
      · rintro ⟨hb, pat, hhb, hc, hpat⟩
        cases hhb
        rw [hcomp] at hc
        cases hc
        exact hpat
      · intro hpat
        exact ⟨h, _, rfl, hcomp, hpat⟩
    rw [hcov]
    cases hrec : h.recursive with
    | false =>
      rw [ResourcePath.exists_prefix_iff hrec hPs hRs (hPc.no_slash hrec) (hRl.no_slash hrec)
        hRl.ne_nil, Pattern.covers_literal_iff]
      simp [hs]
    | true =>
      -- a recursive hierarchy has one level, so both resources are single paths
      have hd := depth_of_recursive hP hrec
      obtain ⟨seg, hseg⟩ := List.length_eq_one_iff.mp
        (Nat.le_antisymm (hd ▸ hPc.length_le) (List.length_pos_iff.mpr hPc.ne_nil))
      obtain ⟨r, hr⟩ := List.length_eq_one_iff.mp
        (Nat.le_antisymm (hd ▸ hRl.length_le) (List.length_pos_iff.mpr hRl.ne_nil))
      have hanc : P.ancestors h = P.directories seg := by
        simp only [ResourcePath.ancestors, hrec, hseg]
      rw [hanc, ResourcePath.exists_directory_iff hPs hRs hseg hr
        (hRl.ne_empty r (by simp [hr])) (hRl.no_trailing hrec r (by simp [hr])), hr,
        List.map_singleton, Pattern.covers_path_iff _ _ hseg]
      simp [hs]
  · -- a binding of another service is neither an ancestor nor covers the path
    constructor
    · rintro ⟨a, ha, htext⟩
      have has := ResourcePath.service_of_mem_ancestors ha
      exact absurd (((ResourcePath.text_eq_iff hRs (has ▸ hPs)).mp htext).1.trans has) hs
    · rintro ⟨hb, pat, -, hc, hpat⟩
      exact absurd
        ((Pattern.service_of_compile hc).symm.trans (Pattern.service_of_covers hpat).symm) hs

/-- Tag inheritance agrees with coverage. Take a snapshot whose index holds some bindings, and
a request that passes its checks, on a service without `/`. A tag is inherited by the request's
resource exactly when a binding of the tag, written literally, compiles to a pattern that covers
the resource. -/
theorem mem_tagsFor_iff_covers {s : Snapshot} {bs : List TagBinding} {req : AccessRequest}
    {c : CheckedRequest} {t : String} (hidx : s.tags = TagIndex.build bs s.rules)
    (hreq : s.checkRequest req = .ok c) (hsvc : '/' ∉ c.path.service.toList)
    (hbs : ∀ b ∈ bs, b.tag = t → '/' ∉ b.resource.service.toList ∧
      ∀ hb, s.hierarchy? b.resource.service = some hb → b.resource.Literal hb) :
    t ∈ s.tagsFor c.path ↔ ∃ b ∈ bs, b.tag = t ∧ ∃ hb pat,
      s.hierarchy? b.resource.service = some hb ∧
        Pattern.compile b.resource.service hb b.resource.segments = .ok pat ∧
        pat.covers c.path = true := by
  obtain ⟨h, hP, hPc⟩ := checkRequest_concrete hreq
  rw [tagsFor, hidx, TagIndex.mem_tagsFor, hP]
  simp only [Option.some.injEq, exists_eq_left', TagIndex.mem_lookup_build]
  constructor
  · rintro ⟨a, ha, b, hb, htext, rfl⟩
    obtain ⟨hRs, hR⟩ := hbs b hb rfl
    exact ⟨b, hb, rfl, (ancestor_iff_covers hP hsvc hPc hRs hR).mp ⟨a, ha, htext⟩⟩
  · rintro ⟨b, hb, rfl, hcov⟩
    obtain ⟨hRs, hR⟩ := hbs b hb rfl
    obtain ⟨a, ha, htext⟩ := (ancestor_iff_covers hP hsvc hPc hRs hR).mpr hcov
    exact ⟨a, ha, b, hb, htext, rfl⟩

/-- A snapshot of one hdfs service `fs` whose index holds the given bindings. -/
def pathSnapshot (bs : List TagBinding) : Snapshot :=
  ⟨1, ["d"], [("fs", ⟨"fs", "hdfs"⟩)], [], [], TagIndex.build bs [], []⟩

def dataTag : TagBinding := ⟨⟨"fs", ["/data"]⟩, "T"⟩

def pathRequest (path : String) : AccessRequest :=
  ⟨⟨"alice", []⟩, ⟨"fs", [path]⟩, "read", none⟩

theorem pathRequest_check :
    (pathSnapshot [dataTag]).checkRequest (pathRequest "/data/x") =
      .ok ⟨⟨"fs", ["/data/x"]⟩, .read⟩ := by
  decide +kernel

/-- The tag of `/data` is inherited by `/data/x` as its pattern covers it. -/
theorem mem_tagsFor_iff_covers_sample :
    (pathSnapshot [dataTag]).tags = TagIndex.build [dataTag] (pathSnapshot [dataTag]).rules ∧
      (pathSnapshot [dataTag]).checkRequest (pathRequest "/data/x") =
        .ok ⟨⟨"fs", ["/data/x"]⟩, .read⟩ ∧
      (∀ b ∈ [dataTag], b.tag = "T" → '/' ∉ b.resource.service.toList ∧
        ∀ hb, (pathSnapshot [dataTag]).hierarchy? b.resource.service = some hb →
          b.resource.Literal hb) ∧
      ("T" ∈ (pathSnapshot [dataTag]).tagsFor ⟨"fs", ["/data/x"]⟩ ↔
        ∃ b ∈ [dataTag], b.tag = "T" ∧ ∃ hb pat,
          (pathSnapshot [dataTag]).hierarchy? b.resource.service = some hb ∧
          Pattern.compile b.resource.service hb b.resource.segments = .ok pat ∧
          pat.covers ⟨"fs", ["/data/x"]⟩ = true) := by
  refine ⟨rfl, pathRequest_check, ?hbs,
    mem_tagsFor_iff_covers rfl pathRequest_check (by decide) ?hbs⟩
  case hbs =>
    intro b hb _
    rw [List.mem_singleton] at hb
    subst hb
    refine ⟨by decide, fun hb hh => ?_⟩
    cases (hh.symm.trans (rfl : _ = some ServiceType.hdfs.hierarchy) : some hb = _)
    refine ⟨⟨by simp [dataTag], by decide, by simp [dataTag], fun h => absurd h (by decide)⟩,
      ?_, fun _ => by decide +kernel⟩
    simp [dataTag, isGlobText_eq_any]

/-- A path bound with a final `/` is not inherited by the paths below it, though its pattern
covers them. -/
theorem tagsFor_misses_slash_ended :
    "T" ∉ (pathSnapshot [⟨⟨"fs", ["/data/"]⟩, "T"⟩]).tagsFor ⟨"fs", ["/data/x"]⟩ ∧
      ∃ pat, Pattern.compile "fs" ServiceType.hdfs.hierarchy ["/data/"] = .ok pat ∧
        pat.covers ⟨"fs", ["/data/x"]⟩ = true := by
  refine ⟨by decide +kernel, _, Pattern.compile_literal (by simp) (by decide) ?_, by decide +kernel⟩
  simp [isGlobText_eq_any]

end Snapshot

end AccessPolicy
