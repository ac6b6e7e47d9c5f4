import AccessPolicy.Resource.Pattern
/-!
# The order of policy ids

Two policy ids compare by value when both read as 64-bit integers, and by their bytes otherwise
(`compareIds`). Each of the two is an order, so the comparison is antisymmetric
(`compareIds_swap`) and ties exactly the equal ids and the ids that read as the same integer,
such as `1`, `01` and `+1` (`compareIds_eq_eq_iff`). Its strict part is transitive on any three
ids of which the number that read as integers is not two (`compareIds_lt_trans`). With two, the
pair of integers compares by value and each of them with the third by bytes, and the orders
disagree: `10 < 1a` and `1a < 2`, but `10 > 2` (`compareIds_cycle`).
-/

namespace AccessPolicy

theorem compareIds_of_some {a b : String} {x y : Int} (ha : readInt64? a = some x)
    (hb : readInt64? b = some y) : compareIds a b = compare x y := by
  simp [compareIds, ha, hb]

/-- Two ids compare by their bytes unless both read as integers. -/
theorem compareIds_of_none {a b : String} (h : readInt64? a = none ∨ readInt64? b = none) :
    compareIds a b = compare a b := by
  rcases h with h | h <;> simp [compareIds, h]

theorem compareIds_swap (a b : String) : compareIds b a = (compareIds a b).swap := by
  cases ha : readInt64? a with
  | some x =>
    cases hb : readInt64? b with
    | some y =>
      rw [compareIds_of_some hb ha, compareIds_of_some ha hb]
      exact Std.OrientedCmp.eq_swap
    | none =>
      rw [compareIds_of_none (.inl hb), compareIds_of_none (.inr hb)]
      exact Std.OrientedCmp.eq_swap
  | none =>
    rw [compareIds_of_none (.inr ha), compareIds_of_none (.inl ha)]
    exact Std.OrientedCmp.eq_swap

/-- Ids tie exactly when they are equal or read as the same integer. -/
theorem compareIds_eq_eq_iff {a b : String} :
    compareIds a b = .eq ↔ a = b ∨ ∃ n, readInt64? a = some n ∧ readInt64? b = some n := by
  cases ha : readInt64? a with
  | some x =>
    cases hb : readInt64? b with
    | some y =>
      rw [compareIds_of_some ha hb, Std.LawfulEqCmp.compare_eq_iff_eq]
      -- equal ids read as the same integer
      have hsame : a = b → x = y := fun h => Option.some.inj (ha.symm.trans (h ▸ hb))
      constructor
      · exact fun h => .inr ⟨x, rfl, h ▸ rfl⟩
      · rintro (h | ⟨n, hx, hy⟩)
        · exact hsame h
        · exact (Option.some.inj hx).trans (Option.some.inj hy).symm
    | none => simp [compareIds_of_none (.inr hb), Std.LawfulEqCmp.compare_eq_iff_eq]
  | none => simp [compareIds_of_none (.inl ha), Std.LawfulEqCmp.compare_eq_iff_eq]

/-- The strict part is transitive on three ids unless exactly two of them read as integers. -/
theorem compareIds_lt_trans {a b c : String}
    (hint : [a, b, c].countP (fun s => (readInt64? s).isSome) ≠ 2)
    (hab : compareIds a b = .lt) (hbc : compareIds b c = .lt) : compareIds a c = .lt := by
  -- either all three read as integers and compare by value, or at most one does and every pair
  -- compares by bytes
  cases ha : readInt64? a <;> cases hb : readInt64? b <;> cases hc : readInt64? c <;>
    simp only [compareIds, ha, hb, hc] at hab hbc ⊢ <;> simp [ha, hb, hc] at hint <;>
    exact Std.TransCmp.lt_trans hab hbc

/-- Policy ids are compared antisymmetrically, tie exactly when equal or equal as integers, and
compare transitively on three ids unless exactly two of them read as integers. -/
theorem compareIds_laws :
    (∀ a b, compareIds b a = (compareIds a b).swap) ∧
      (∀ a b, compareIds a b = .eq ↔ a = b ∨ ∃ n, readInt64? a = some n ∧ readInt64? b = some n) ∧
      (∀ a b c, [a, b, c].countP (fun s => (readInt64? s).isSome) ≠ 2 →
        compareIds a b = .lt → compareIds b c = .lt → compareIds a c = .lt) :=
  ⟨compareIds_swap, fun _ _ => compareIds_eq_eq_iff, fun _ _ _ => compareIds_lt_trans⟩

/-- Two integers and an id that is none: `10 < 1a < 2` by bytes, but `10 > 2` by value; and the
distinct ids `1` and `01` tie. -/
theorem compareIds_cycle : compareIds "10" "1a" = .lt ∧ compareIds "1a" "2" = .lt ∧
    compareIds "10" "2" = .gt ∧ compareIds "1" "01" = .eq := by
  decide

end AccessPolicy
