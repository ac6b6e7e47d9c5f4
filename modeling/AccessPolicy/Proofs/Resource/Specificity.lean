import AccessPolicy.Proofs.Snapshot.Inheritance
import AccessPolicy.Proofs.RowFilter.Conjunction
/-!
# Ranking patterns by what they cover

`Specificity` ranks patterns by their text: deeper first, then more literal segments, and in a
recursive hierarchy by the non-empty `/`-separated parts of the one path. This module relates the
ranking to coverage, the set of resources a pattern covers, for patterns of literal and `*`
segments (`Pattern.Plain`).

Outside a recursive hierarchy coverage is decided segment by segment: a pattern covers all that
another covers exactly when each of its segments is `*` or the other's segment at its place
(`Pattern.narrower_flat_iff`). A count over the segments then shows that a pattern covering a
proper part of another's resources is deeper, or as deep with more literals.

In a recursive hierarchy a literal path covers itself and the paths that continue it past a `/`,
its own final `/` dropped. A narrower path that does not end in `/` continues the broader one by
a part that is not empty, so it has more parts (`Pattern.parts_lt_of_acceptsPath`). A final `/`
breaks this: `/data/` covers less than `/data` and has the same one part
(`Pattern.narrower_path_ends_in_slash`).

Main theorem: `Pattern.compare_pos_of_narrower`.
-/

namespace AccessPolicy

theorem Specificity.compare_pos_iff (s o : Specificity) :
    0 < s.compare o ↔ o.depth < s.depth ∨ s.depth = o.depth ∧ o.literals < s.literals := by
  unfold Specificity.compare
  split <;> omega

namespace Pattern

/-! ## Plain patterns -/

/-- A raw segment that is the wildcard `*` or holds no glob character. -/
def Plain (raw : String) : Prop := raw = "*" ∨ isGlobText raw = false

/-- The segment a plain raw segment compiles to. -/
def plainSegment (raw : String) : Segment :=
  ⟨raw, if raw = "*" then .wildcard else .literal⟩

/-- The resources `q` covers are a proper part of those `p` covers. -/
def Narrower (q p : Pattern) : Prop :=
  (∀ r, q.covers r → p.covers r) ∧ ∃ r, p.covers r ∧ ¬ q.covers r

theorem Narrower.ne {q p : Pattern} (h : q.Narrower p) : q ≠ p := by
  rintro rfl
  obtain ⟨r, hp, hq⟩ := h.2
  exact hq hp

theorem compileSegment_plain {level raw : String} (hne : raw ≠ "") (hp : Plain raw) :
    compileSegment level raw = .ok (plainSegment raw) := by
  by_cases hs : raw = "*"
  · subst hs
    simp [compileSegment, plainSegment]
  · rw [compileSegment_literal hne (hp.resolve_left hs)]
    simp [plainSegment, hs]

theorem mapM_compileSegment_plain {raws levels : List String} {segs : List Segment}
    (hlen : raws.length ≤ levels.length) (hplain : ∀ r ∈ raws, Plain r) :
    (raws.zip levels).mapM (fun (raw, level) => compileSegment level raw) = .ok segs ↔
      segs = raws.map plainSegment ∧ ∀ r ∈ raws, r ≠ "" := by
  induction raws generalizing levels segs with
  | nil => exact ⟨fun h => ⟨(Except.ok.inj h).symm, by simp⟩, fun ⟨h, _⟩ => by rw [h]; rfl⟩
  | cons r rs ih =>
    cases levels with
    | nil => simp at hlen
    | cons l ls =>
      have hrs := fun segs => @ih ls segs (by simpa using hlen)
        (fun x hx => hplain x (by simp [hx]))
      simp only [List.zip_cons_cons, List.mapM_cons]
      constructor
      · intro h
        obtain ⟨s, hs, h⟩ := Except.bind_eq_ok h
        obtain ⟨ss, hss, h⟩ := Except.bind_eq_ok h
        obtain rfl : s :: ss = segs := Except.ok.inj h
        -- an empty segment is refused, a plain one compiles to its plain segment
        have hr : r ≠ "" := by
          rintro rfl
          simp [compileSegment] at hs
        rw [compileSegment_plain hr (hplain r (by simp))] at hs
        obtain rfl := (Except.ok.inj hs).symm
        obtain ⟨rfl, hne⟩ := (hrs ss).mp hss
        exact ⟨rfl, by simpa [hr] using hne⟩
      · rintro ⟨rfl, hne⟩
        rw [compileSegment_plain (hne r (by simp)) (hplain r (by simp)),
          (hrs _).mpr ⟨rfl, fun x hx => hne x (by simp [hx])⟩]
        rfl

/-- Plain raw segments compile exactly when there are some, no more than the levels, and none is
empty; they compile to their plain segments. -/
theorem compile_plain_iff {service : String} {h : Hierarchy} {raws : List String} {P : Pattern}
    (hplain : ∀ r ∈ raws, Plain r) :
    compile service h raws = .ok P ↔
      P = ⟨service, raws.map plainSegment, h.recursive⟩ ∧ raws ≠ [] ∧ raws.length ≤ h.depth ∧
        ∀ r ∈ raws, r ≠ "" := by
  unfold compile
  by_cases hne : raws.isEmpty
  · simp_all
  by_cases hlen : raws.length > h.depth
  · simp only [hne, hlen, if_true, Bool.false_eq_true, if_false]
    exact ⟨(fun h => by cases h), fun ⟨_, _, hle, _⟩ => absurd hle (by omega)⟩
  have hz : raws.length ≤ h.levels.length := by simp only [Hierarchy.depth] at hlen; omega
  simp only [hne, hlen, if_false, Bool.false_eq_true]
  cases hm : (raws.zip h.levels).mapM (fun (raw, level) => compileSegment level raw) with
  | error e =>
    have := (@mapM_compileSegment_plain raws h.levels (raws.map plainSegment) hz hplain).not.mp
      (by simp [hm])
    simp only [Except.map]
    exact ⟨(fun h => by cases h), fun ⟨_, _, _, hr⟩ => (this ⟨rfl, hr⟩).elim⟩
  | ok segs =>
    obtain ⟨rfl, hr⟩ := (mapM_compileSegment_plain hz hplain).mp hm
    simp only [Except.map]
    refine ⟨fun h => ⟨(Except.ok.inj h).symm, by simpa using hne, by omega, hr⟩, ?_⟩
    rintro ⟨rfl, -⟩
    rfl

/-! ## Coverage outside a recursive hierarchy -/

/-- The raw segments `ps` admit the segments `vs` from the root: each is `*` or the segment at
its place, and `vs` may go on below them. -/
inductive Admits : List String → List String → Prop
  | nil (vs : List String) : Admits [] vs
  | cons {p v : String} {ps vs : List String} :
      (p = "*" ∨ p = v) → Admits ps vs → Admits (p :: ps) (v :: vs)

@[simp] theorem admits_cons_cons {p v : String} {ps vs : List String} :
    Admits (p :: ps) (v :: vs) ↔ (p = "*" ∨ p = v) ∧ Admits ps vs :=
  ⟨fun h => by cases h with | cons hp h => exact ⟨hp, h⟩, fun ⟨hp, h⟩ => .cons hp h⟩

@[simp] theorem not_admits_cons_nil {p : String} {ps : List String} : ¬ Admits (p :: ps) [] := by
  intro h
  cases h

instance decAdmits : (ps vs : List String) → Decidable (Admits ps vs)
  | [], vs => isTrue (.nil vs)
  | _ :: _, [] => isFalse not_admits_cons_nil
  | _ :: ps, _ :: vs =>
    haveI := decAdmits ps vs
    decidable_of_iff _ admits_cons_cons.symm

theorem Admits.refl : ∀ ps : List String, Admits ps ps
  | [] => .nil []
  | _ :: ps => .cons (.inr rfl) (Admits.refl ps)

theorem Admits.trans {ps qs vs : List String} (h₁ : Admits ps qs) (h₂ : Admits qs vs) :
    Admits ps vs := by
  induction h₁ generalizing vs with
  | nil => exact .nil vs
  | cons hp _ ih =>
    cases h₂ with
    | cons hq h₂ =>
      -- a wildcard admits anything; a literal admits what the segment it equals admits
      refine .cons ?_ (ih h₂)
      rcases hp with hp | rfl
      · exact .inl hp
      · exact hq

theorem Admits.length_le {ps vs : List String} (h : Admits ps vs) : ps.length ≤ vs.length := by
  induction h with
  | nil => simp
  | cons _ _ ih => simpa using ih

theorem plainSegment_accepts (raw v : String) :
    (plainSegment raw).accepts v = true ↔ raw = "*" ∨ raw = v := by
  by_cases hs : raw = "*" <;> simp [plainSegment, Segment.accepts, hs]

theorem admits_iff (ps vs : List String) :
    Admits ps vs ↔ ps.length ≤ vs.length ∧
      ((ps.map plainSegment).zip vs).all (fun (s, v) => s.accepts v) = true := by
  induction ps generalizing vs with
  | nil => simp [Admits.nil]
  | cons p ps ih =>
    cases vs with
    | nil => simp
    | cons v vs => simp [ih, plainSegment_accepts, and_left_comm]

/-- A flat pattern of plain segments covers a resource of its service exactly when its raw
segments admit the resource's. -/
theorem covers_flat_iff (service : String) (raws : List String) (r : ResourcePath) :
    (⟨service, raws.map plainSegment, false⟩ : Pattern).covers r = true ↔
      r.service = service ∧ Admits raws r.segments := by
  simp [covers, admits_iff]

/-- Outside a recursive hierarchy one plain pattern covers a proper part of what another covers
exactly when the other's segments admit its own but not the other way. -/
theorem narrower_flat_iff {service : String} {ps qs : List String} :
    (⟨service, qs.map plainSegment, false⟩ : Pattern).Narrower
        ⟨service, ps.map plainSegment, false⟩ ↔ Admits ps qs ∧ ¬ Admits qs ps := by
  simp only [Narrower, covers_flat_iff]
  constructor
  · rintro ⟨hsub, r, ⟨hs, hp⟩, hq⟩
    -- the resource named by the narrower pattern's own segments is covered by both
    have hpq : Admits ps qs := (hsub ⟨service, qs⟩ ⟨rfl, Admits.refl qs⟩).2
    exact ⟨hpq, fun hqp => hq ⟨hs, hqp.trans hp⟩⟩
  · rintro ⟨hpq, hqp⟩
    exact ⟨fun r ⟨hs, hq⟩ => ⟨hs, hpq.trans hq⟩, ⟨service, ps⟩, ⟨rfl, Admits.refl ps⟩,
      fun h => hqp h.2⟩

/-- The literal segments among raw ones. -/
def literalCount (raws : List String) : Nat := (raws.filter (· ≠ "*")).length

@[simp] theorem literalCount_nil : literalCount [] = 0 := rfl

@[simp] theorem literalCount_cons (r : String) (raws : List String) :
    literalCount (r :: raws) = literalCount raws + if r = "*" then 0 else 1 := by
  by_cases hr : r = "*" <;> simp [literalCount, hr]

/-- Of two equally deep segment lists, the admitted one has at least the literals of the
admitting one, and as many only when it admits it back. -/
theorem literalCount_le_of_admits {ps qs : List String} (h : Admits ps qs)
    (hlen : qs.length = ps.length) :
    literalCount ps ≤ literalCount qs ∧ (literalCount ps = literalCount qs → Admits qs ps) := by
  induction h with
  | nil vs =>
    rw [List.length_eq_zero_iff.mp hlen]
    exact ⟨Nat.le_refl _, fun _ => .nil []⟩
  | @cons p v ps vs hp _ ih =>
    obtain ⟨hle, hback⟩ := ih (by simpa using hlen)
    rcases hp with rfl | rfl
    · -- a wildcard against a literal adds a literal to the admitted side only
      by_cases hv : v = "*"
      · subst hv
        simp only [literalCount_cons, if_true, admits_cons_cons, true_or, true_and]
        exact ⟨by omega, fun he => hback (by omega)⟩
      · simp only [literalCount_cons, if_true, hv, if_false]
        exact ⟨by omega, fun he => absurd he (by omega)⟩
    · simp only [literalCount_cons, admits_cons_cons, or_true, true_and]
      exact ⟨by omega, fun he => hback (by omega)⟩

theorem specificity_flat (service : String) (raws : List String) :
    (⟨service, raws.map plainSegment, false⟩ : Pattern).specificity =
      ⟨raws.length, literalCount raws⟩ := by
  have hlit : ∀ r, (plainSegment r).isLiteral = decide (r ≠ "*") := fun r => by
    by_cases hr : r = "*" <;> simp [plainSegment, Segment.isLiteral, hr]
  simp [specificity, List.filter_map, Function.comp_def, hlit, literalCount]

/-- Segments admitting others but not admitted back rank below them. -/
theorem compare_pos_of_admits {ps qs : List String} (h : Admits ps qs) (hn : ¬ Admits qs ps) :
    0 < Specificity.compare ⟨qs.length, literalCount qs⟩ ⟨ps.length, literalCount ps⟩ := by
  rw [Specificity.compare_pos_iff]
  rcases Nat.lt_or_eq_of_le h.length_le with hlt | heq
  · exact .inl hlt
  · obtain ⟨hle, hback⟩ := literalCount_le_of_admits h heq.symm
    exact .inr ⟨heq.symm, Nat.lt_of_le_of_ne hle fun he => hn (hback he)⟩

/-! ## Coverage in a recursive hierarchy -/

/-- The non-empty `/`-separated parts of a path. -/
def parts (cs : List Char) : List (List Char) := (cs.splitOn '/').filter (· ≠ [])

@[simp] theorem parts_nil : parts [] = [] := rfl

theorem parts_append_slash (xs ys : List Char) :
    parts (xs ++ '/' :: ys) = parts xs ++ parts ys := by
  simp only [parts, List.splitOn_append_cons_self, List.filter_append]

theorem parts_ne_nil {cs : List Char} {c : Char} (hc : c ∈ cs) (hslash : c ≠ '/') :
    parts cs ≠ [] := by
  induction cs with
  | nil => cases hc
  | cons x xs ih =>
    by_cases hx : x = '/'
    · -- a slash closes a part; the character is further on
      subst hx
      have hc' : c ∈ xs := (List.mem_cons.mp hc).resolve_left hslash
      simpa [parts, List.splitOn_cons_eq_if_modifyHead] using ih hc'
    · obtain ⟨p, ps, hps⟩ := List.exists_cons_of_ne_nil (List.splitOn_ne_nil '/' xs)
      simp [parts, List.splitOn_cons_eq_if_modifyHead, hx, hps]

theorem mem_of_mem_splitOn {cs t : List Char} {c : Char} (ht : t ∈ cs.splitOn '/')
    (hc : c ∈ t) : c ∈ cs := by
  induction cs generalizing t with
  | nil => simp_all
  | cons x xs ih =>
    by_cases hx : x = '/'
    · subst hx
      simp only [List.splitOn_cons_eq_if_modifyHead, beq_self_eq_true, if_true,
        List.mem_cons] at ht
      rcases ht with rfl | ht
      · cases hc
      · exact List.mem_cons_of_mem _ (ih ht hc)
    · obtain ⟨p, ps, hps⟩ := List.exists_cons_of_ne_nil (List.splitOn_ne_nil '/' xs)
      simp only [List.splitOn_cons_eq_if_modifyHead, beq_iff_eq, hx, if_false, hps,
        List.modifyHead_cons, List.mem_cons] at ht
      rcases ht with rfl | ht
      · rcases List.mem_cons.mp hc with rfl | hc
        · exact List.mem_cons_self
        · exact List.mem_cons_of_mem _ (ih (by simp [hps]) hc)
      · exact List.mem_cons_of_mem _ (ih (by simp [hps, ht]) hc)

/-- Every part of a path without glob characters is a literal. -/
theorem parts_filter_literal {raw : String} (hg : isGlobText raw = false) :
    (parts raw.toList).filter (fun t => !isGlobText (String.ofList t)) = parts raw.toList := by
  refine List.filter_eq_self.mpr fun t ht => ?_
  have hsplit : t ∈ raw.toList.splitOn '/' := (List.mem_filter.mp ht).1
  simp only [isGlobText_eq_any, List.any_eq_false, String.toList_ofList] at hg ⊢
  simpa using fun c hc => hg c (mem_of_mem_splitOn hsplit hc)

/-- A path, with one final `/` dropped or nothing dropped. -/
theorem toList_dropSuffix_slash (s : String) :
    s.toList = (s.dropSuffix "/").toString.toList ∨
      s.toList = (s.dropSuffix "/").toString.toList ++ ['/'] := by
  have hd : (s.dropSuffix "/").toString = ((s.toSlice.dropSuffix? "/").getD s.toSlice).copy := rfl
  rw [hd]
  cases h : s.toSlice.dropSuffix? "/" with
  | none => exact .inl (by simp)
  | some res =>
    have hs := String.Slice.eq_append_of_dropSuffix?_string_eq_some h
    rw [String.copy_toSlice] at hs
    exact .inr (by simp [hs])

theorem parts_dropSuffix (s : String) :
    parts (s.dropSuffix "/").toString.toList = parts s.toList := by
  rcases toList_dropSuffix_slash s with h | h
  · rw [h]
  · rw [h, parts_append_slash, parts_nil, List.append_nil]

theorem acceptsPath_plain {raw v : String} (hs : raw ≠ "*") :
    (plainSegment raw).acceptsPath v = true ↔
      v = raw ∨ (raw.dropSuffix "/").toString.toList ++ ['/'] <+: v.toList := by
  have hseg : plainSegment raw = ⟨raw, .literal⟩ := by simp [plainSegment, hs]
  rw [hseg]
  simp only [Segment.acceptsPath, decide_eq_true_eq]
  rw [String.startsWith_string_iff, String.toList_append]
  rfl

theorem covers_path (service raw v : String) (vs : List String) :
    (⟨service, [plainSegment raw], true⟩ : Pattern).covers ⟨service, v :: vs⟩ =
      (plainSegment raw).acceptsPath v := by
  simp [covers]

theorem specificity_path (service raw : String) :
    (⟨service, [plainSegment raw], true⟩ : Pattern).specificity =
      ⟨(parts raw.toList).length,
        ((parts raw.toList).filter fun t => !isGlobText (String.ofList t)).length⟩ := by
  simp only [specificity, parts, plainSegment]

/-- A path that a literal path covers, other than itself and not ending in `/`, has more parts. -/
theorem parts_lt_of_acceptsPath {lp lq : String} (hp : lp ≠ "*") (hne : lq ≠ lp)
    (hend : lq.toList.getLast? ≠ some '/') (h : (plainSegment lp).acceptsPath lq = true) :
    (parts lp.toList).length < (parts lq.toList).length := by
  obtain ⟨w, hw⟩ := ((acceptsPath_plain hp).mp h).resolve_left hne
  -- `lq` continues `lp`, its final `/` dropped, past a `/` by `w`, and ends where `w` does
  have hq : lq.toList = (lp.dropSuffix "/").toString.toList ++ '/' :: w := by
    rw [← hw, List.append_assoc, List.singleton_append]
  rcases List.eq_nil_or_concat w with rfl | ⟨w', c, rfl⟩
  · exact absurd (by simp [hq]) hend
  · rw [List.concat_eq_append] at hq
    have hlast : lq.toList.getLast? = some c := by
      rw [hq, ← List.cons_append, ← List.append_assoc, List.getLast?_append]
      rfl
    have hc : c ≠ '/' := fun hc => hend (hc ▸ hlast)
    have hpos := List.length_pos_of_ne_nil
      (parts_ne_nil (List.mem_append_right w' (List.mem_singleton_self c)) hc)
    rw [hq, parts_append_slash, parts_dropSuffix, List.length_append]
    omega

/-- A path pattern that does not end in `/` and covers a proper part of what another covers
ranks above it. -/
theorem compare_pos_of_narrower_path {service lp lq : String} (hp : Plain lp) (hq : Plain lq)
    (hpne : lp ≠ "") (hqne : lq ≠ "") (hend : lq.toList.getLast? ≠ some '/')
    (hn : (⟨service, [plainSegment lq], true⟩ : Pattern).Narrower
      ⟨service, [plainSegment lp], true⟩) :
    0 < (Pattern.specificity ⟨service, [plainSegment lq], true⟩).compare
      (Pattern.specificity ⟨service, [plainSegment lp], true⟩) := by
  have hcov := fun v => hn.1 ⟨service, [v]⟩
  simp only [covers_path] at hcov
  have hpq : lp ≠ lq := fun h => hn.ne (by rw [h])
  by_cases hqs : lq = "*"
  · -- the wildcard covers the empty path, which only the wildcard covers
    exfalso
    have hempty := hcov "" (by simp [hqs, plainSegment, Segment.acceptsPath, Segment.accepts])
    by_cases hps : lp = "*"
    · exact hpq (hps.trans hqs.symm)
    · rcases (acceptsPath_plain hps).mp hempty with h | h
      · exact hpne h.symm
      · simpa using h.length_le
  have hgq : isGlobText lq = false := hq.resolve_left hqs
  -- `lq` has a last character, which is not `/`, so it has a part
  obtain ⟨c, hc⟩ : ∃ c, lq.toList.getLast? = some c := by
    cases hl : lq.toList.getLast? with
    | none => exact absurd (String.toList_eq_nil_iff.mp (List.getLast?_eq_none_iff.mp hl)) hqne
    | some c => exact ⟨c, rfl⟩
  have hqparts := List.length_pos_of_ne_nil
    (parts_ne_nil (List.mem_of_getLast? hc) fun h => hend (h ▸ hc))
  rw [specificity_path, specificity_path, parts_filter_literal hgq, Specificity.compare_pos_iff]
  by_cases hps : lp = "*"
  · -- the wildcard is one part, which is a glob
    subst hps
    have hstar : parts "*".toList = [['*']] := by decide
    have hglob : ([['*']].filter fun t => !isGlobText (String.ofList t)) = [] := by
      simp [isGlobText_eq_any]
    simp only [hstar, hglob, List.length_singleton, List.length_nil]
    omega
  · have hlt := parts_lt_of_acceptsPath hps hpq.symm hend
      (hcov lq (by simp [acceptsPath_plain hqs]))
    rw [parts_filter_literal (hp.resolve_left hps)]
    exact .inl hlt

/-! ## The ranking -/

/-- For two patterns of literal and `*` segments that compile for one service of a type, if the
resources one covers are a proper part of those the other covers, the narrower ranks strictly
above the broader; in a recursive hierarchy this needs the narrower path not to end in `/`. -/
theorem compare_pos_of_narrower {t : ServiceType} {service : String} {ps qs : List String}
    {P Q : Pattern} (hP : compile service t.hierarchy ps = .ok P)
    (hQ : compile service t.hierarchy qs = .ok Q) (hps : ∀ r ∈ ps, Plain r)
    (hqs : ∀ r ∈ qs, Plain r)
    (hend : t.hierarchy.recursive = true → ∀ r ∈ qs, r.toList.getLast? ≠ some '/')
    (hn : Q.Narrower P) : 0 < Q.specificity.compare P.specificity := by
  obtain ⟨rfl, hpne, hplen, hpr⟩ := (compile_plain_iff hps).mp hP
  obtain ⟨rfl, hqne, hqlen, hqr⟩ := (compile_plain_iff hqs).mp hQ
  cases hrec : t.hierarchy.recursive with
  | false =>
    rw [hrec] at hn
    rw [specificity_flat, specificity_flat]
    obtain ⟨hpq, hqp⟩ := narrower_flat_iff.mp hn
    exact compare_pos_of_admits hpq hqp
  | true =>
    -- the recursive hierarchy has one level, so each pattern is one path
    have hdepth : t.hierarchy.depth = 1 := by
      cases t <;> simp_all [ServiceType.hierarchy, Hierarchy.depth]
    obtain ⟨lp, rfl⟩ := List.length_eq_one_iff.mp
      (Nat.le_antisymm (hdepth ▸ hplen) (List.length_pos_iff.mpr hpne))
    obtain ⟨lq, rfl⟩ := List.length_eq_one_iff.mp
      (Nat.le_antisymm (hdepth ▸ hqlen) (List.length_pos_iff.mpr hqne))
    rw [hrec] at hn
    exact compare_pos_of_narrower_path (hps lp (by simp)) (hqs lq (by simp)) (hpr lp (by simp))
      (hqr lq (by simp)) (hend hrec lq (by simp)) hn

/-- A database pattern and one of its tables: the table's pattern covers a proper part of the
database's and ranks above it. -/
theorem compare_pos_of_narrower_table :
    compile "warehouse" ServiceType.hive.hierarchy ["sales", "*"] =
        .ok ⟨"warehouse", ["sales", "*"].map plainSegment, false⟩ ∧
      compile "warehouse" ServiceType.hive.hierarchy ["sales", "orders"] =
        .ok ⟨"warehouse", ["sales", "orders"].map plainSegment, false⟩ ∧
      (⟨"warehouse", ["sales", "orders"].map plainSegment, false⟩ : Pattern).Narrower
        ⟨"warehouse", ["sales", "*"].map plainSegment, false⟩ ∧
      0 < (Pattern.specificity ⟨"warehouse", ["sales", "orders"].map plainSegment, false⟩).compare
        (Pattern.specificity ⟨"warehouse", ["sales", "*"].map plainSegment, false⟩) := by
  have hplain : ∀ raws : List String, (∀ r ∈ raws, r = "*" ∨ (r.toList.all fun c =>
      !(c = '*' ∨ c = '?' ∨ c = '[' ∨ c = '{'))) → ∀ r ∈ raws, Plain r := by
    intro raws h r hr
    simpa [Plain, isGlobText_eq_any] using h r hr
  have hP : compile "warehouse" ServiceType.hive.hierarchy ["sales", "*"] =
      .ok ⟨"warehouse", ["sales", "*"].map plainSegment, false⟩ :=
    (compile_plain_iff (hplain _ (by decide))).mpr ⟨rfl, by decide, by decide, by decide⟩
  have hQ : compile "warehouse" ServiceType.hive.hierarchy ["sales", "orders"] =
      .ok ⟨"warehouse", ["sales", "orders"].map plainSegment, false⟩ :=
    (compile_plain_iff (hplain _ (by decide))).mpr ⟨rfl, by decide, by decide, by decide⟩
  have hn : (⟨"warehouse", ["sales", "orders"].map plainSegment, false⟩ : Pattern).Narrower
      ⟨"warehouse", ["sales", "*"].map plainSegment, false⟩ :=
    narrower_flat_iff.mpr ⟨by decide, by decide⟩
  exact ⟨hP, hQ, hn, compare_pos_of_narrower hP hQ (hplain _ (by decide)) (hplain _ (by decide))
    (fun h => absurd h (by decide)) hn⟩

/-- `/data/` covers the paths below `/data` but not `/data` itself, a proper part of what `/data`
covers, and ranks the same: one part, a literal. -/
theorem narrower_path_ends_in_slash :
    compile "fs" ServiceType.hdfs.hierarchy ["/data"] = .ok ⟨"fs", [⟨"/data", .literal⟩], true⟩ ∧
      compile "fs" ServiceType.hdfs.hierarchy ["/data/"] =
        .ok ⟨"fs", [⟨"/data/", .literal⟩], true⟩ ∧
      (⟨"fs", [⟨"/data/", .literal⟩], true⟩ : Pattern).Narrower ⟨"fs", [⟨"/data", .literal⟩], true⟩ ∧
      (Pattern.specificity ⟨"fs", [⟨"/data/", .literal⟩], true⟩).compare
        (Pattern.specificity ⟨"fs", [⟨"/data", .literal⟩], true⟩) = 0 := by
  have hlit : ∀ raw, raw ≠ "*" → plainSegment raw = ⟨raw, .literal⟩ := fun raw h => by
    simp [plainSegment, h]
  refine ⟨compile_literal (by simp) (by decide) (by simp [isGlobText_eq_any]),
    compile_literal (by simp) (by decide) (by simp [isGlobText_eq_any]), ⟨?_, ?_⟩, ?_⟩
  · -- whatever continues `/data/` continues `/data` past a `/`
    rintro ⟨svc, _ | ⟨v, vs⟩⟩ h
    · simp [covers] at h
    · have hsvc : svc = "fs" := service_of_covers h
      subst hsvc
      rw [← hlit "/data/" (by decide), covers_path, acceptsPath_plain (by decide)] at h
      rw [← hlit "/data" (by decide), covers_path, acceptsPath_plain (by decide)]
      have hd : ("/data/".dropSuffix "/").toString = "/data" := by decide +kernel
      have hd' : ("/data".dropSuffix "/").toString = "/data" := by decide +kernel
      rw [hd] at h
      rw [hd']
      rcases h with rfl | h
      · exact .inr (by simp)
      · exact .inr h
  · exact ⟨⟨"fs", ["/data"]⟩, by decide +kernel, by decide +kernel⟩
  · -- both paths are the one literal part `data`
    rw [← hlit "/data/" (by decide), ← hlit "/data" (by decide), specificity_path,
      specificity_path, parts_filter_literal (by simp [isGlobText_eq_any]),
      parts_filter_literal (by simp [isGlobText_eq_any])]
    decide

end Pattern

end AccessPolicy
