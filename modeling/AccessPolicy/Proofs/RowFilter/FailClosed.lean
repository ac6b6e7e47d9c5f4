import AccessPolicy.Proofs.RowFilter.Check
/-!
# Checks fail closed

A comparison reads an operand from a row when its attribute is present and its value is of a
kind the literal admits (`LiteralKind.Admits`, `Operand.ofValue?_isSome_iff`): a text, bytes or
a timestamp for a string; a boolean for a boolean; for an integer, an integer of a fixed width, a
float other than NaN, or a numeral that reads as a 64-bit integer or as a float. Checking a
predicate fails at the first comparison of its tree, left to right, that reads no operand, with
an error naming its attribute and why (`Predicate.operands_eq_error_iff`), whatever that
comparison stands under: a negation, or a disjunction the other side would decide. A failed
check lets no row through (`Predicate.check_fails_closed`).

A numeral is read as a float the way a float parser reads it, so the word `NaN` is the float NaN
and, unlike a float NaN, is admitted for an integer literal; the check then fails on it as a
number it cannot take, not as an unknown attribute (`Predicate.check_nan_numeral`).
-/

namespace AccessPolicy.RowFilter

/-- The values a literal's kind admits. -/
def LiteralKind.Admits : LiteralKind → Value → Prop
  | .string, .text _ | .string, .bytes _ | .string, .time _ | .boolean, .bool _ => True
  | .integer, .int w _ => w ≠ .big
  | .integer, .float64 x | .integer, .float32 x => x ≠ .nan
  | .integer, .numeral s => (readInt64? s).isSome ∨ (Binary.read? s).isSome
  | _, _ => False

theorem Operand.ofValue?_isSome_iff {k : LiteralKind} {v : Value} :
    (ofValue? k v).isSome ↔ k.Admits v := by
  cases k <;> cases v <;> simp [ofValue?, LiteralKind.Admits] <;> split <;> simp_all
  -- what is left is an integer of a fixed width, read as a float past `2^63 - 1`
  split <;> rfl

/-- A comparison reads an operand from a row: its attribute is present with a value its literal
admits. -/
def ReadsOperand (row : Row) (c : String × CmpOp × Literal) : Prop :=
  ∃ v, row.get? c.1 = some v ∧ c.2.2.kind.Admits v

theorem operandOf_isSome_iff {row : Row} {c : String × CmpOp × Literal} :
    (operandOf row c).isSome ↔ ReadsOperand row c := by
  simp only [operandOf, ReadsOperand, ← Operand.ofValue?_isSome_iff]
  cases row.get? c.1 <;> simp

/-- The error of a comparison that reads no operand: its attribute is missing from the row, or
its value is of a kind the literal does not admit. -/
def unreadable (row : Row) (c : String × CmpOp × Literal) : CheckError :=
  .unknownAttribute c.1 <|
    match row.get? c.1 with
    | none => "not present in row"
    | some v => v.typeName ++ " is not comparable with " ++ c.2.2.kind.name

namespace Predicate

variable {row : Row}

/-- One comparison's step of `operands`. -/
theorem operands_cons (c : String × CmpOp × Literal) (cs : List (String × CmpOp × Literal)) :
    operands row (c :: cs) =
      match operandOf row c with
      | none => .error (unreadable row c)
      | some x => (operands row cs).map ((c.1, x) :: ·) := by
  obtain ⟨a, op, lit⟩ := c
  simp only [operands, operandOf, unreadable]
  cases row.get? a with
  | none => rfl
  | some v => cases Operand.ofValue? lit.kind v <;> rfl

/-- The operands fail exactly at the first comparison that reads no operand, with its error. -/
theorem operands_eq_error_iff {cs : List (String × CmpOp × Literal)} {e : CheckError} :
    operands row cs = .error e ↔ ∃ pre c post, cs = pre ++ c :: post ∧
      (∀ c' ∈ pre, ReadsOperand row c') ∧ ¬ ReadsOperand row c ∧ e = unreadable row c := by
  induction cs with
  | nil => simp [operands]
  | cons c cs ih =>
    rw [operands_cons]
    cases hc : operandOf row c with
    | none =>
      have hnot : ¬ ReadsOperand row c := by simp [← operandOf_isSome_iff, hc]
      constructor
      · rintro ⟨⟩
        exact ⟨[], c, cs, rfl, by simp, hnot, rfl⟩
      · rintro ⟨_ | ⟨c', pre⟩, c'', post, hcs, hpre, -, rfl⟩
        · cases hcs
          rfl
        · cases hcs
          exact absurd (hpre c List.mem_cons_self) hnot
    | some x =>
      have hread : ReadsOperand row c := operandOf_isSome_iff.mp (by simp [hc])
      rw [show ((operands row cs).map ((c.1, x) :: ·) = .error e) ↔ operands row cs = .error e by
        cases operands row cs <;> simp [Except.map], ih]
      constructor
      · rintro ⟨pre, c', post, rfl, hpre, hnot, rfl⟩
        exact ⟨c :: pre, c', post, rfl, by simpa [hread] using hpre, hnot, rfl⟩
      · rintro ⟨_ | ⟨c₀, pre⟩, c', post, hcs, hpre, hnot, rfl⟩
        · cases hcs
          exact absurd hread hnot
        · cases hcs
          exact ⟨pre, c', post, rfl, fun c hc => hpre c (List.mem_cons_of_mem _ hc), hnot, rfl⟩

theorem check_of_operands_error {p : Predicate} {e : CheckError}
    (h : operands row p.expr.comparisons = .error e) : p.check row = .error e := by
  simp [check, h]

theorem evaluate_of_check_error {p : Predicate} {e : CheckError} (h : p.check row = .error e) :
    p.evaluate row = false := by
  simp [evaluate, h]

/-- A predicate fails closed: the first comparison of its tree, left to right, whose attribute is
missing or whose value its literal does not admit makes the check fail naming that attribute,
and the row is not let through; a value is admitted as `LiteralKind.Admits` says; and every
failed check lets no row through. -/
theorem check_fails_closed (p : Predicate) (row : Row) :
    (∀ pre c post, p.expr.comparisons = pre ++ c :: post → (∀ c' ∈ pre, ReadsOperand row c') →
        ¬ ReadsOperand row c → p.check row = .error (unreadable row c) ∧ p.evaluate row = false) ∧
      (∀ k v, (Operand.ofValue? k v).isSome ↔ k.Admits v) ∧
      (∀ e, p.check row = .error e → p.evaluate row = false) := by
  refine ⟨fun pre c post hcs hpre hnot => ?_, fun _ _ => Operand.ofValue?_isSome_iff,
    fun _ => evaluate_of_check_error⟩
  have hcheck := check_of_operands_error
    (operands_eq_error_iff.mpr ⟨pre, c, post, hcs, hpre, hnot, rfl⟩)
  exact ⟨hcheck, evaluate_of_check_error hcheck⟩

-- a missing attribute under a negation, in a disjunction the other side would decide
example : (Predicate.mk "x == 1 OR NOT y == 1" (.or (.cmp "x" .eq (.int 1))
    (.not (.cmp "y" .eq (.int 1))))).check [("x", .int .int 1)] =
      .error (.unknownAttribute "y" "not present in row") := by
  decide

/-- The numeral `NaN` is admitted for an integer literal, and a check reading it fails as on a
number it cannot take. -/
theorem check_nan_numeral :
    LiteralKind.integer.Admits (.numeral "NaN") ∧
      (Predicate.mk "x == 1" (.cmp "x" .eq (.int 1))).check [("x", .numeral "NaN")] =
        .error (.unsupported "NaN") :=
  ⟨Or.inr (by decide), by decide⟩

end Predicate

end AccessPolicy.RowFilter
