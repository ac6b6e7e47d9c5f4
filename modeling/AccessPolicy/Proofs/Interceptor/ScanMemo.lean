import AccessPolicy.Proofs.Interceptor.Enforcement
import AccessPolicy.Proofs.Store.TagCache
/-!
# The memo of a scan

A scan judges each column once per call and remembers the answer under the text
`family:qualifier` of the column (`HBaseGuard.memoKey`). Where that text names one column among
the cells scanned (`KeysFaithful`, as when no family holds `:`), the memo changes nothing: every
answer it holds is the engine's decision on every scanned cell that bears its text (`MemoSound`,
which each step keeps: `cellReadable_run`), and the scan answers as judging every cell on its
own does (`postScan_eq_scanAnswer`): the first failure to decide on a cell, or each row with the
cells the principal may read, rows left without cells dropped. Where the text is shared, a
family holding `:` as in `a:b` with qualifier `c` against `a` with qualifier `b:c`, the second
column is given the first one's answer.
-/

namespace AccessPolicy

namespace HBaseGuard

/-- The text under which a scan remembers the answer for a cell's column. -/
def memoKey (c : Cell) : String := c.family ++ ":" ++ c.qualifier

/-- The texts tell the columns of `cells` apart: two of them that share a text are one column. -/
def KeysFaithful (cells : List Cell) : Prop :=
  ∀ c ∈ cells, ∀ c' ∈ cells, memoKey c = memoKey c' →
    c.family = c'.family ∧ c.qualifier = c'.qualifier

variable (judge : AccessRequest → Except RequestError Decision) (h : HBaseGuard) (p : Principal)
  (table : String)

/-- What a scan answers when every cell is judged on its own: the first failure to decide on a
cell, in row and cell order, or else each row with the cells the engine lets `p` read, in order,
dropping the rows left without cells. -/
def scanAnswer (rows : List ScanRow) : Except GuardError (List ScanRow) :=
  match (rows.flatMap (·.cells)).findSome? fun c => failure judge p .read (h.cellPath table c) with
  | some e => .error e
  | none => .ok (rows.filterMap fun r =>
      match r.cells.filter (fun c => (refusal judge p .read (h.cellPath table c)).isNone) with
      | [] => none
      | kept => some ⟨r.key, kept⟩)

/-- A memo is sound for `cells` when each answer it holds under a text is the engine's decision
on every one of those cells that bears the text: decided, and readable as remembered. -/
def MemoSound (cells : List Cell) (seen : List (String × Bool)) : Prop :=
  ∀ k b, seen.lookup k = some b → ∀ c ∈ cells, memoKey c = k →
    failure judge p .read (h.cellPath table c) = none ∧
      (refusal judge p .read (h.cellPath table c)).isNone = b

variable {judge h p table} {cells : List Cell}

theorem MemoSound.nil : MemoSound judge h p table cells [] := by
  intro k b hk
  cases hk

/-- Remembering a decided cell's answer keeps a memo sound, when its text names its column. -/
theorem MemoSound.extend {seen : List (String × Bool)}
    (hsound : MemoSound judge h p table cells seen)
    (hkeys : KeysFaithful cells)
    {c : Cell} (hc : c ∈ cells) (hfail : failure judge p .read (h.cellPath table c) = none) :
    MemoSound judge h p table cells
      (seen ++ [(memoKey c, (refusal judge p .read (h.cellPath table c)).isNone)]) := by
  intro k b hk c' hc' hkey
  rw [List.lookup_append] at hk
  cases hl : seen.lookup k with
  | some b' =>
    rw [hl, Option.some_or, Option.some.injEq] at hk
    exact hk ▸ hsound k b' hl c' hc' hkey
  | none =>
    -- the new entry: `c'` bears the text of `c`, so it is the same column
    rw [hl, Option.none_or, List.lookup_cons] at hk
    split at hk
    · rename_i hk'
      obtain ⟨hfam, hqual⟩ := hkeys c' hc' c hc (hkey.trans (beq_iff_eq.mp hk'))
      have hpath : h.cellPath table c' = h.cellPath table c := by
        simp [cellPath, hfam, hqual]
      rw [hpath, ← Option.some.inj hk]
      exact ⟨hfail, rfl⟩
    · cases hk

section Fixed

variable {σ : Type} {eval : Evaluator (StateM σ)} {inv : σ → Prop}

/-- One cell of a scan, found in a sound memo or judged and remembered: its answer is the
engine's decision on it, and the memo stays sound. -/
theorem cellReadable_run (hf : eval.Fixed inv judge)
    (hkeys : KeysFaithful cells)
    {c : Cell} (hc : c ∈ cells) {seen : List (String × Bool)}
    (hsound : MemoSound judge h p table cells seen) {s : σ} (hs : inv s) :
    inv ((h.cellReadable eval p table seen c).run s).2 ∧
      match ((h.cellReadable eval p table seen c).run s).1 with
      | .error e => failure judge p .read (h.cellPath table c) = some e
      | .ok (ok, seen') => failure judge p .read (h.cellPath table c) = none ∧
          ok = (refusal judge p .read (h.cellPath table c)).isNone ∧
          MemoSound judge h p table cells seen' := by
  simp only [cellReadable, show c.family ++ ":" ++ c.qualifier = memoKey c from rfl]
  cases hl : seen.lookup (memoKey c) with
  | some b =>
    obtain ⟨hfail, hread⟩ := hsound _ b hl c hc rfl
    exact ⟨hs, hfail, hread.symm, hsound⟩
  | none =>
    have hk := hf.keeps ⟨p, h.cellPath table c, Action.read.name, none⟩ false s hs
    simp only [StateT.run_bind_eq, guard_run hf hs]
    rcases hv : verdict judge p .read (h.cellPath table c) with e | d
    · obtain ⟨hr, hfl⟩ := refusal_of_verdict_error hv
      by_cases hd : e.isDenial
      · -- a refused column is remembered as unreadable
        have hfail : failure judge p .read (h.cellPath table c) = none := by
          simp [hfl, hd]
        have hext := hsound.extend hkeys hc hfail
        simp only [hr, Option.isNone_some] at hext
        simp only [hd, if_true]
        exact ⟨hk, hfail, by simp [hr], hext⟩
      · rw [Bool.not_eq_true] at hd
        simp only [hd, Bool.false_eq_true, if_false]
        refine ⟨hk, ?_⟩
        show failure judge p .read (h.cellPath table c) = some e
        simp [hfl, hd]
    · obtain ⟨hr, hfail⟩ := refusal_of_verdict_ok hv
      have hext := hsound.extend hkeys hc hfail
      simp only [hr, Option.isNone_none] at hext
      exact ⟨hk, hfail, by simp [hr], hext⟩

/-- The cells of a row, judged in turn through a sound memo: the first failure to decide on one,
or the cells that may be read, in order, with the memo still sound. -/
theorem readableCells_run (hf : eval.Fixed inv judge)
    (hkeys : KeysFaithful cells) :
    ∀ (cs : List Cell), (∀ c ∈ cs, c ∈ cells) → ∀ (seen : List (String × Bool)) (s : σ),
      MemoSound judge h p table cells seen → inv s →
      inv ((h.readableCells eval p table seen cs).run s).2 ∧
        match ((h.readableCells eval p table seen cs).run s).1 with
        | .error e => cs.findSome? (fun c => failure judge p .read (h.cellPath table c)) = some e
        | .ok (kept, seen') =>
          cs.findSome? (fun c => failure judge p .read (h.cellPath table c)) = none ∧
            kept = cs.filter (fun c => (refusal judge p .read (h.cellPath table c)).isNone) ∧
            MemoSound judge h p table cells seen'
  | [], _, _, _, hsound, hs => ⟨hs, rfl, rfl, hsound⟩
  | c :: cs, hcs, seen, s, hsound, hs => by
    obtain ⟨hk, hstep⟩ := cellReadable_run hf hkeys (hcs c List.mem_cons_self) hsound hs
    simp only [readableCells, StateT.run_bind_eq]
    rcases hrun : (h.cellReadable eval p table seen c).run s with ⟨res, s'⟩
    simp only [hrun] at hk hstep ⊢
    rcases res with e | ⟨ok, seen'⟩
    · -- the first cell's failure stops the row
      have hfail : failure judge p .read (h.cellPath table c) = some e := hstep
      refine ⟨hk, ?_⟩
      show (c :: cs).findSome? (fun c => failure judge p .read (h.cellPath table c)) = some e
      simp only [List.findSome?_cons, hfail]
    · obtain ⟨hfail, hok, hsound'⟩ := hstep
      obtain ⟨ihk, ih⟩ := readableCells_run hf hkeys cs
        (fun c' hc' => hcs c' (List.mem_cons_of_mem _ hc')) seen' s' hsound' hk
      simp only [StateT.run_bind_eq]
      rcases hrest : (h.readableCells eval p table seen' cs).run s' with ⟨res', s''⟩
      simp only [hrest] at ihk ih ⊢
      rcases res' with e | ⟨kept, seen''⟩
      · have hrest : cs.findSome? (fun c => failure judge p .read (h.cellPath table c)) = some e :=
          ih
        refine ⟨ihk, ?_⟩
        show (c :: cs).findSome? (fun c => failure judge p .read (h.cellPath table c)) = some e
        simp only [List.findSome?_cons, hfail, hrest]
      · obtain ⟨hnone, hkept, hsound''⟩ := ih
        refine ⟨ihk, ?_, ?_, hsound''⟩
        · show (c :: cs).findSome? (fun c => failure judge p .read (h.cellPath table c)) = none
          simp only [List.findSome?_cons, hfail, hnone]
        · show (if ok then c :: kept else kept) = _
          rw [List.filter_cons, ← hok, hkept]

/-- Row by row through a sound memo, a scan answers as judging every cell on its own does. -/
theorem scanRows_run (hf : eval.Fixed inv judge)
    (hkeys : KeysFaithful cells) :
    ∀ (rows : List ScanRow), (∀ c ∈ rows.flatMap (·.cells), c ∈ cells) →
      ∀ (seen : List (String × Bool)) (s : σ), MemoSound judge h p table cells seen → inv s →
      ((h.scanRows eval p table seen rows).run s).1 = scanAnswer judge h p table rows ∧
        inv ((h.scanRows eval p table seen rows).run s).2
  | [], _, _, _, _, hs => ⟨rfl, hs⟩
  | r :: rs, hrows, seen, s, hsound, hs => by
    rw [List.flatMap_cons] at hrows
    obtain ⟨hk, hcells⟩ := readableCells_run hf hkeys r.cells
      (fun c hc => hrows c (List.mem_append_left _ hc)) seen s hsound hs
    simp only [scanRows, StateT.run_bind_eq]
    rcases hrun : (h.readableCells eval p table seen r.cells).run s with ⟨res, s'⟩
    simp only [hrun] at hk hcells ⊢
    unfold scanAnswer
    rw [List.flatMap_cons, List.findSome?_append]
    rcases res with e | ⟨kept, seen'⟩
    · -- a failure in the row stops the scan
      have hfail : r.cells.findSome? (fun c => failure judge p .read (h.cellPath table c)) =
        some e := hcells
      rw [hfail]
      exact ⟨rfl, hk⟩
    · obtain ⟨hnone, hkept, hsound'⟩ := hcells
      obtain ⟨ih, ihk⟩ := scanRows_run hf hkeys rs
        (fun c hc => hrows c (List.mem_append_right _ hc)) seen' s' hsound' hk
      simp only [StateT.run_bind_eq]
      rcases hrest : (h.scanRows eval p table seen' rs).run s' with ⟨res', s''⟩
      simp only [hrest] at ih ihk ⊢
      refine ⟨?_, by split <;> exact ihk⟩
      rw [hnone, Option.none_or, ih]
      unfold scanAnswer
      cases (rs.flatMap (·.cells)).findSome? (fun c => failure judge p .read (h.cellPath table c))
      · -- the row is kept with its readable cells, or dropped when none is
        rw [List.filterMap_cons, ← hkept]
        cases kept <;> rfl
      · rfl

end Fixed

/-! ## Scans of a deployed engine -/

/-- The text names the column when the family holds no `:`, as hbase requires of families. -/
theorem memoKey_inj {c c' : Cell} (hc : ':' ∉ c.family.toList) (hc' : ':' ∉ c'.family.toList)
    (hkey : memoKey c = memoKey c') : c.family = c'.family ∧ c.qualifier = c'.qualifier := by
  have hchars := congrArg String.toList hkey
  simp only [memoKey, String.toList_append, List.append_assoc] at hchars
  obtain ⟨hfam, hqual⟩ := append_cons_inj_of_not_mem hc hc' hchars
  exact ⟨String.toList_inj.mp hfam, String.toList_inj.mp hqual⟩

theorem keysFaithful_of_families {cells : List Cell}
    (hfam : ∀ c ∈ cells, ':' ∉ c.family.toList) : KeysFaithful cells :=
  fun c hc c' hc' => memoKey_inj (hfam c hc) (hfam c' hc')

/-- When the memo's text names one column among the scanned cells, a scan of a deployed engine
answers as judging every cell on its own does: the first failure to decide on a cell, or each
row with the cells the principal may read, in order, rows left without cells dropped. -/
theorem postScan_eq_scanAnswer (d : Deployment) (h : HBaseGuard) (p : Principal) (table : String)
    (rows : List ScanRow)
    (hkeys : KeysFaithful (rows.flatMap (·.cells))) :
    ((h.postScan Deployment.evaluator p table rows).run d).1 =
      scanAnswer d.engine.decision h p table rows :=
  (scanRows_run (Deployment.evaluator_fixed d.engine) hkeys rows (fun _ hc => hc) [] d
    MemoSound.nil rfl).1

/-- A row whose family holds no `:`, its column read twice and the family read whole, scanned
for `bob`. -/
theorem postScan_eq_scanAnswer_sample :
    KeysFaithful
        ([ScanRow.mk "r1" [⟨"f", "a", []⟩, ⟨"f", "", []⟩, ⟨"f", "a", []⟩]].flatMap (·.cells)) ∧
      (((HBaseGuard.mk "hbase").postScan Deployment.evaluator ⟨"bob", []⟩ "t"
          [ScanRow.mk "r1" [⟨"f", "a", []⟩, ⟨"f", "", []⟩, ⟨"f", "a", []⟩]]).run default).1 =
        scanAnswer (default : Deployment).engine.decision (HBaseGuard.mk "hbase") ⟨"bob", []⟩ "t"
          [ScanRow.mk "r1" [⟨"f", "a", []⟩, ⟨"f", "", []⟩, ⟨"f", "a", []⟩]] := by
  have hkeys : KeysFaithful
      ([ScanRow.mk "r1" [⟨"f", "a", []⟩, ⟨"f", "", []⟩, ⟨"f", "a", []⟩]].flatMap (·.cells)) :=
    keysFaithful_of_families (by decide)
  exact ⟨hkeys, postScan_eq_scanAnswer default _ _ _ _ hkeys⟩

end HBaseGuard

end AccessPolicy
