import AccessPolicy.Order.Stable
import Mathlib.Data.List.Perm.Basic
/-!
# The stable sort only reorders

`stableSort` sorts blocks of twenty by insertion and then merges neighbouring runs in place,
by binary searches and rotations, doubling the run length each pass. Whatever the comparison,
and in particular for the comparison of ids, which is no order on some sets of ids, each step
only moves elements around, so the result is a permutation of the input
(`Order.stableSort_perm`). The decision engine relies on nothing more: a sorted list of hits has
the hits it was given, no more and no fewer.
-/

namespace AccessPolicy.Order

variable {α : Type} {lt : α → α → Bool}

/-! ## Insertion sort in blocks -/

theorem insertReversed_perm (x : α) (l : List α) : (insertReversed lt x l).Perm (x :: l) := by
  induction l with
  | nil => exact .refl _
  | cons y ys ih =>
    rw [insertReversed]
    split
    · exact (ih.cons y).trans (.swap x y ys)
    · exact .refl _

theorem foldl_insertReversed_perm (xs acc : List α) :
    (xs.foldl (fun acc x => insertReversed lt x acc) acc).Perm (xs.reverse ++ acc) := by
  induction xs generalizing acc with
  | nil => exact .refl _
  | cons x xs ih =>
    rw [List.foldl_cons, List.reverse_cons, List.append_assoc, List.singleton_append]
    exact (ih _).trans (.append_left _ (insertReversed_perm x acc))

theorem insertionSort_perm (xs : List α) : (insertionSort lt xs).Perm xs := by
  have h : (xs.foldl (fun acc x => insertReversed lt x acc) []).Perm xs.reverse := by
    simpa using foldl_insertReversed_perm xs []
  exact (List.reverse_perm _).trans (h.trans (List.reverse_perm xs))

theorem sortBlocks_perm (size : Nat) (xs : List α) : (sortBlocks lt size xs).Perm xs := by
  induction xs using sortBlocks.induct size with
  | case1 xs h =>
    rw [sortBlocks, if_pos h]
    exact insertionSort_perm xs
  | case2 xs h ih =>
    rw [sortBlocks, if_neg h]
    exact ((insertionSort_perm _).append ih).trans (.of_eq (List.take_append_drop _ _))

/-! ## Merging in place -/

theorem le_searchFirst (g : Nat → Bool) (lo hi : Nat) : lo ≤ searchFirst g lo hi := by
  fun_induction searchFirst g lo hi <;> omega

theorem searchFirst_le (g : Nat → Bool) {lo hi : Nat} (h : lo ≤ hi) :
    searchFirst g lo hi ≤ hi := by
  fun_induction searchFirst g lo hi <;> omega

theorem extract_append_drop (l : List α) {i j : Nat} (hij : i ≤ j) :
    l.extract i j ++ l.drop j = l.drop i := by
  simp only [List.extract_eq_take_drop]
  have h : l.drop j = (l.drop i).drop (j - i) := by
    rw [List.drop_drop]
    congr 1
    omega
  rw [h, List.take_append_drop]

/-- Rotating a segment into place only reorders the array. -/
theorem rotate_perm (xs : Array α) {s m t : Nat} (hsm : s ≤ m) (hmt : m ≤ t) :
    (rotate xs s m t).toList.Perm xs.toList := by
  -- the array is its prefix, the two rotated parts and its suffix; rotation swaps the middle two
  have hsplit : xs.toList = xs.toList.take s ++
      (xs.toList.extract s m ++ (xs.toList.extract m t ++ xs.toList.drop t)) := by
    rw [extract_append_drop _ hmt, extract_append_drop _ hsm, List.take_append_drop]
  have hend : xs.toList.extract t xs.size = xs.toList.drop t := by
    simp only [List.extract_eq_take_drop]
    exact List.take_of_length_le (by simp)
  simp only [rotate, Array.toList_append, Array.toList_extract, hend, List.append_assoc]
  conv => rhs; rw [hsplit]
  simpa using List.perm_append_comm_assoc _ _ _ |>.append_left (xs.toList.take s)

theorem perm_dite_self {p : Prop} [Decidable p] {xs : Array α} {f : p → Array α}
    (h : ∀ hp, (f hp).toList.Perm xs.toList) :
    (if hp : p then f hp else xs).toList.Perm xs.toList := by
  split
  · exact h ‹p›
  · exact .refl _

theorem symMerge_perm [Inhabited α] (lt : α → α → Bool) (xs : Array α) {a m b : Nat}
    (h : a ≤ m) : (symMerge lt xs a m b).toList.Perm xs.toList := by
  -- one rotation when a run has one element; otherwise a rotation and two recursive merges
  fun_induction symMerge lt xs a m b with
  | case1 xs a b => exact rotate_perm xs (by omega) (le_searchFirst _ _ _)
  | case2 xs a m _ => exact rotate_perm xs (searchFirst_le _ h) (by omega)
  | case3 xs a m b _ _ start stop ys zs hstop ih₁ _ ih₂ =>
    have hys : ys.toList.Perm xs.toList :=
      perm_dite_self fun hp => rotate_perm xs (Nat.le_of_lt hp.1) (Nat.le_of_lt hp.2)
    have hzs : zs.toList.Perm ys.toList := perm_dite_self fun hp => ih₁ hp (Nat.le_of_lt hp.1)
    exact (ih₂ (Nat.le_of_lt hstop.1)).trans (hzs.trans hys)
  | case4 xs a m b _ _ start stop ys zs _ ih =>
    have hys : ys.toList.Perm xs.toList :=
      perm_dite_self fun hp => rotate_perm xs (Nat.le_of_lt hp.1) (Nat.le_of_lt hp.2)
    have hzs : zs.toList.Perm ys.toList := perm_dite_self fun hp => ih hp (Nat.le_of_lt hp.1)
    exact hzs.trans hys

theorem mergePass_perm [Inhabited α] (lt : α → α → Bool) (size n : Nat) (xs : Array α)
    (a : Nat) : (mergePass lt size n xs a).toList.Perm xs.toList := by
  fun_induction mergePass lt size n xs a with
  | case1 => exact .refl _
  | case2 xs a _ _ ih => exact ih.trans (symMerge_perm lt xs (by omega))
  | case3 xs a _ _ _ => exact symMerge_perm lt xs (by omega)
  | case4 => exact .refl _

theorem mergeRuns_perm [Inhabited α] (lt : α → α → Bool) (size n : Nat) (xs : Array α) :
    (mergeRuns lt size n xs).toList.Perm xs.toList := by
  fun_induction mergeRuns lt size n xs with
  | case1 => exact .refl _
  | case2 size xs _ ih => exact ih.trans (mergePass_perm lt size n xs 0)

/-- The stable sort returns a permutation of its input, whatever the comparison. -/
theorem stableSort_perm [Inhabited α] (lt : α → α → Bool) (xs : List α) :
    (stableSort lt xs).Perm xs := by
  have h := mergeRuns_perm lt blockSize xs.length (sortBlocks lt blockSize xs).toArray
  rw [List.toList_toArray] at h
  exact h.trans (sortBlocks_perm blockSize xs)

end AccessPolicy.Order
