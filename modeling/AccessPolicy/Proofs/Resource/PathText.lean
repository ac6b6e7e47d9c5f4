import AccessPolicy.Resource.Path
/-!
# Writing and reading resource paths

A resource path is written `service/segment/…` and read back by cutting the text at `/` into at
most `depth + 1` pieces, the last piece keeping any further `/`. Reading and writing are inverse
(`ResourcePath.parse_eq_ok_iff`): reading succeeds exactly on the written form of a path that is
readable at the depth, and gives that path back. A path is readable when its service is non-empty
and has no `/`, it has one to `depth` segments, the first of them non-empty, and no segment holds
a `/` except the last segment of a path of full depth. So the written form is an injective key on
readable paths, also for the one-level hdfs hierarchy, whose single segment is a whole path.
-/

namespace AccessPolicy

/-- No piece of a split holds the character split on. -/
theorem not_mem_of_mem_splitOn {c : Char} {cs t : List Char} (ht : t ∈ cs.splitOn c) : c ∉ t := by
  induction cs generalizing t with
  | nil => simp_all
  | cons x xs ih =>
    obtain ⟨r, rs, hr⟩ := List.exists_cons_of_ne_nil (List.splitOn_ne_nil c xs)
    rw [List.splitOn_cons_eq_if_modifyHead, hr] at ht
    split at ht
    · -- `x` is a separator: it closes the empty piece and is in none
      rcases List.mem_cons.mp ht with rfl | ht
      · simp
      · exact ih (hr ▸ ht)
    · rename_i hx
      rw [List.modifyHead_cons] at ht
      rcases List.mem_cons.mp ht with rfl | ht
      · have hr' : c ∉ r := ih (by simp [hr])
        simp only [beq_iff_eq] at hx
        simp [Ne.symm hx, hr']
      · exact ih (by simp [hr, ht])

namespace ResourcePath

/-- The `/`-separated pieces of a text, as reading cuts it before it joins the surplus. -/
def pieces (s : String) : List String := (s.toList.splitOn '/').map String.ofList

theorem splitAtMost_eq_pieces (s : String) (n : Nat) :
    splitAtMost s n = if (pieces s).length ≤ n then pieces s
      else (pieces s).take (n - 1) ++ ["/".intercalate ((pieces s).drop (n - 1))] := rfl

theorem pieces_ne_nil (s : String) : pieces s ≠ [] := by
  simp [pieces, List.splitOn_ne_nil]

theorem intercalate_pieces (s : String) : "/".intercalate (pieces s) = s := by
  rw [String.ext_iff, pieces, String.toList_intercalate, List.map_map]
  simp

theorem slash_not_mem_of_mem_pieces {s t : String} (ht : t ∈ pieces s) : '/' ∉ t.toList := by
  obtain ⟨cs, hcs, rfl⟩ := List.mem_map.mp ht
  simpa using not_mem_of_mem_splitOn hcs

theorem pieces_of_slash_not_mem {y : String} (hy : '/' ∉ y.toList) : pieces y = [y] := by
  simp [pieces, List.splitOn_eq_singleton hy]

/-- Joining texts without `/` before a last text keeps them as pieces. -/
theorem pieces_intercalate {xs : List String} (hxs : ∀ x ∈ xs, '/' ∉ x.toList) (y : String) :
    pieces ("/".intercalate (xs ++ [y])) = xs ++ pieces y := by
  induction xs with
  | nil => simp
  | cons x xs ih =>
    have hx : '/' ∉ x.toList := hxs x List.mem_cons_self
    have hrest := ih fun z hz => hxs z (List.mem_cons_of_mem x hz)
    rw [List.cons_append, String.intercalate_cons_of_ne_nil (by simp)] at *
    simp only [pieces, String.toList_append] at hrest ⊢
    rw [show "/".toList = ['/'] from rfl, List.append_assoc, List.singleton_append,
      List.splitOn_append_cons_self_of_not_mem hx, List.map_cons, hrest]
    simp

/-- Joining the pieces from position `k` on and putting them after the first `k` gives the
text back. -/
theorem intercalate_take_append (ps : List String) {k : Nat} (hk : k < ps.length) :
    "/".intercalate (ps.take k ++ ["/".intercalate (ps.drop k)]) = "/".intercalate ps := by
  rcases Nat.eq_zero_or_pos k with rfl | hpos
  · simp
  · have htake : ps.take k ≠ [] := by
      rw [Ne, List.take_eq_nil_iff, not_or]
      exact ⟨by omega, List.ne_nil_of_length_pos (by omega)⟩
    have hdrop : ps.drop k ≠ [] := by rw [Ne, List.drop_eq_nil_iff]; omega
    rw [String.intercalate_append_of_ne_nil htake (by simp), String.intercalate_singleton,
      ← String.intercalate_append_of_ne_nil htake hdrop, List.take_append_drop]

/-! ## Reading cuts a text into at most `n` pieces -/

section
variable (s : String) {n : Nat}

theorem intercalate_splitAtMost (hn : 1 ≤ n) : "/".intercalate (splitAtMost s n) = s := by
  rw [splitAtMost_eq_pieces]
  split
  · exact intercalate_pieces s
  · rw [intercalate_take_append _ (by omega), intercalate_pieces]

theorem length_splitAtMost_le (hn : 1 ≤ n) : (splitAtMost s n).length ≤ n := by
  rw [splitAtMost_eq_pieces]
  split
  · assumption
  · simp; omega

/-- Only the last piece can hold a `/`, and only when there are `n` pieces. -/
theorem slash_splitAtMost :
    (∀ t ∈ (splitAtMost s n).dropLast, '/' ∉ t.toList) ∧
      ((splitAtMost s n).length < n → ∀ t ∈ splitAtMost s n, '/' ∉ t.toList) := by
  rw [splitAtMost_eq_pieces]
  split
  · exact ⟨fun t ht => slash_not_mem_of_mem_pieces (List.dropLast_subset _ ht),
      fun _ t ht => slash_not_mem_of_mem_pieces ht⟩
  · rename_i hlong
    refine ⟨fun t ht => ?_, fun hlt => ?_⟩
    · rw [List.dropLast_concat] at ht
      exact slash_not_mem_of_mem_pieces (List.mem_of_mem_take ht)
    · simp at hlt; omega

end

/-- Reading a text joined from texts without `/` and a last text gives them back when there
are at most `n` of them, and the last one holds no `/` unless there are exactly `n`. -/
theorem splitAtMost_intercalate {xs : List String} (hxs : ∀ x ∈ xs, '/' ∉ x.toList)
    {y : String} {n : Nat} (hlen : xs.length + 1 ≤ n) (hy : '/' ∉ y.toList ∨ xs.length + 1 = n) :
    splitAtMost ("/".intercalate (xs ++ [y])) n = xs ++ [y] := by
  have hys := pieces_ne_nil y
  rw [splitAtMost_eq_pieces, pieces_intercalate hxs]
  split
  · rename_i hshort
    -- the pieces of `y` fit in one place, so `y` is its own only piece
    obtain ⟨t, ht⟩ : ∃ t, pieces y = [t] := by
      rcases hy with hy | hy
      · exact ⟨y, pieces_of_slash_not_mem hy⟩
      · have hpos := List.length_pos_iff.mpr hys
        simp only [List.length_append] at hshort
        exact List.length_eq_one_iff.mp (by omega)
    have hyt : y = t := by simpa [ht] using (intercalate_pieces y).symm
    rw [ht, hyt]
  · rename_i hlong
    have hn : xs.length = n - 1 := by
      rcases hy with hy | hy
      · simp [pieces_of_slash_not_mem hy] at hlong; omega
      · omega
    rw [← hn, List.take_left, List.drop_left, intercalate_pieces]

/-! ## Readable paths -/

/-- A path that reading gives back from its written form at a hierarchy depth. -/
structure Readable (p : ResourcePath) (depth : Int) : Prop where
  service_ne : p.service ≠ ""
  slash_service : '/' ∉ p.service.toList
  segments_ne : p.segments ≠ []
  length_le : (p.segments.length : Int) ≤ depth
  head_ne : p.segments.head? ≠ some ""
  slash_inner : ∀ t ∈ p.segments.dropLast, '/' ∉ t.toList
  slash_last : (p.segments.length : Int) < depth → ∀ t ∈ p.segments, '/' ∉ t.toList

theorem text_eq_intercalate {p : ResourcePath} (h : p.segments ≠ []) :
    p.text = "/".intercalate (p.service :: p.segments) :=
  (String.intercalate_cons_of_ne_nil h).symm

/-- Reading gives back every readable path from its written form. -/
theorem parse_text {p : ResourcePath} {depth : Int} (hp : p.Readable depth) :
    parse p.text depth = .ok p := by
  have hlen : 1 ≤ p.segments.length := List.length_pos_iff.mpr hp.segments_ne
  have hdepth := hp.length_le
  have hsplit : splitAtMost p.text (depth.toNat + 1) = p.service :: p.segments := by
    -- the service and every segment but the last are the pieces before the last one
    have hcut := List.dropLast_concat_getLast hp.segments_ne
    rw [text_eq_intercalate hp.segments_ne, ← hcut, ← List.cons_append]
    have hlast : '/' ∉ (p.segments.getLast hp.segments_ne).toList ∨
        (p.service :: p.segments.dropLast).length + 1 = depth.toNat + 1 := by
      by_cases hfull : (p.segments.length : Int) < depth
      · exact .inl (hp.slash_last hfull _ (List.getLast_mem _))
      · right; simp; omega
    refine splitAtMost_intercalate (fun x hx => ?_) ?_ hlast
    · rcases List.mem_cons.mp hx with rfl | hx
      · exact hp.slash_service
      · exact hp.slash_inner x hx
    · simp; omega
  obtain ⟨first, rest, hfr⟩ := List.exists_cons_of_ne_nil hp.segments_ne
  have hd : ¬ depth < 1 := by omega
  have hfirst : first ≠ "" := fun h => hp.head_ne (by simp [hfr, h])
  simp only [parse, if_neg hd, hsplit, hfr]
  rw [if_neg (by simp [String.isEmpty_iff, hp.service_ne, hfirst]), ← hfr]

/-- What reading accepts is a readable path, written as the text read. -/
theorem readable_of_parse {s : String} {depth : Int} {p : ResourcePath}
    (h : parse s depth = .ok p) : p.Readable depth ∧ p.text = s := by
  unfold parse at h
  split at h
  · cases h
  rename_i hd
  have hn : 1 ≤ depth.toNat + 1 := by omega
  have hjoin := intercalate_splitAtMost s hn
  have hlen := length_splitAtMost_le s hn
  obtain ⟨hinner, hlast⟩ := slash_splitAtMost (n := depth.toNat + 1) s
  split at h
  · rename_i service first rest hsplit
    split at h
    · cases h
    · rename_i hne
      cases h
      rw [hsplit] at hjoin hlen hinner hlast
      simp only [List.length_cons] at hlen hlast
      simp only [String.isEmpty_iff, not_or] at hne
      refine ⟨⟨hne.1, hinner service (by simp), by simp, by simp only [List.length_cons]; omega,
        by simpa using hne.2, fun t ht => hinner t (by simp [ht]),
        fun hlt t ht => hlast (by simp only [List.length_cons] at hlt; omega) t (by simp [ht])⟩, ?_⟩
      rw [text_eq_intercalate (by simp), hjoin]
  · cases h

/-- Reading succeeds exactly on the written form of a readable path, and gives that path: the
written form is an injective key on readable paths. -/
theorem parse_eq_ok_iff (s : String) (depth : Int) (p : ResourcePath) :
    parse s depth = .ok p ↔ p.Readable depth ∧ p.text = s := by
  constructor
  · exact readable_of_parse
  · rintro ⟨hp, rfl⟩
    exact parse_text hp

end ResourcePath

end AccessPolicy
