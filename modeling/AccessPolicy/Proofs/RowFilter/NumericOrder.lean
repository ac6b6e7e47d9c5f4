import AccessPolicy.RowFilter.Predicate
import Mathlib.Algebra.Order.Field.Rat
/-!
# Where a number stands against an integer literal

A comparison with an integer literal first brings the row's value to an operand
(`RowFilter.Operand.ofValue?`). Except for one kind of value, the operand stands against every
64-bit integer exactly where the value does, lower, equal or higher
(`RowFilter.Operand.orderAgainst_ofValue?`):

* integers of every width keep their value, at both ends of their range;
* an unsigned 64-bit integer past `2^63 - 1` becomes the nearest float, which is at least `2^63`,
  so it stays above every 64-bit integer (`Binary.round_double_above`);
* floats other than NaN are kept as they are;
* a numeral that reads as a 64-bit integer reads as the number its text spells
  (`Numeral.read?_of_readInt64?`).

The exception is a numeral that does not read as a 64-bit integer: it is rounded to the nearest
float, and that can move it onto the literal. `1.0000000000000000001` is above 1, but its float
is 1 (`RowFilter.Operand.numeral_rounds_onto_literal`).
-/

namespace AccessPolicy

/-- Where a float stands against an integer; NaN stands nowhere. -/
def Binary.orderAgainst (x : Binary) (k : Int) : Option Ordering :=
  match x with
  | .nan => none
  | .infinity neg => some (if neg then .lt else .gt)
  | .finite .. => x.toRat?.map (RowFilter.compareRat · k)

/-- Where the number a numeral spells stands against an integer. -/
def Numeral.orderAgainst (n : Numeral) (k : Int) : Option Ordering :=
  match n with
  | .nan => none
  | .infinity neg => some (if neg then .lt else .gt)
  | .finite neg digits exp =>
    some (RowFilter.compareRat (if neg then -decimalRat digits exp else decimalRat digits exp) k)

/-- Where the exact value of a row value stands against an integer: an integer's value, a float's
value, or the number a numeral spells. -/
def Value.orderAgainst (v : Value) (k : Int) : Option Ordering :=
  match v with
  | .int _ n => some (RowFilter.compareRat n k)
  | .float64 x | .float32 x => x.orderAgainst k
  | .numeral s => (Numeral.read? s).bind (·.orderAgainst k)
  | _ => none

/-- Where a comparison operand stands against an integer: an integer by its value, a float by its
exact value. -/
def RowFilter.Operand.orderAgainst (x : RowFilter.Operand) (k : Int) : Option Ordering :=
  match x with
  | .int n => some (RowFilter.compareRat n k)
  | .float y => y.orderAgainst k
  | _ => none

theorem RowFilter.compareRat_of_lt {a b : Rat} (h : b < a) : RowFilter.compareRat a b = .gt := by
  simp [RowFilter.compareRat, not_lt.mpr h.le, h.ne']

/-! ## Rounding a large integer -/

theorem floorLog2_natCast {n : Nat} (hn : n ≠ 0) : floorLog2 (n : Rat) = n.log2 := by
  have h1 : Nat.log2 1 = 0 := @Nat.log2_two_pow 0
  have hle : pow2 n.log2 ≤ n := by
    simp only [pow2, Int.natCast_nonneg, if_true, Int.toNat_natCast]
    exact_mod_cast Nat.log2_self_le hn
  simp [floorLog2, h1, hle]

theorem pow2_of_nonneg {e : Int} (he : 0 ≤ e) : pow2 e = ((2 ^ e.toNat : Nat) : Rat) := by
  simp [pow2, he]

/-- The nearest 64-bit float to an integer of at least `2^63` is infinite or at least `2^63`: its
exponent is that of the integer's leading bit less 52, and its significand at least `2^52`. -/
theorem Binary.round_double_above {n : Nat} (hn : 2 ^ 63 ≤ n) :
    Binary.round .double false n = .infinity false ∨
      ∃ t e, Binary.round .double false n = .finite false t e ∧ 2 ^ 52 ≤ t ∧ 11 ≤ e := by
  have hn0 : n ≠ 0 := by intro h; subst h; simp at hn
  have hlog : 63 ≤ n.log2 := (Nat.le_log2 hn0).mpr hn
  have hq : ¬ (n : Rat) ≤ 0 := not_le.mpr (by exact_mod_cast Nat.pos_of_ne_zero hn0)
  unfold Binary.round
  simp only [hq, if_false, BinaryFormat.double, floorLog2_natCast hn0]
  generalize hE : max ((n.log2 : Int) - ((53 : Nat) - 1)) (-1074) = E
  have hE' : E = (n.log2 - 52 : Nat) := by omega
  -- the significand before rounding is the integer's leading 53 bits
  have ht0 : 2 ^ 52 ≤ ((n : Rat) / pow2 E).floor.toNat := by
    have hpow : (0 : Rat) < pow2 E := by
      rw [pow2_of_nonneg (by omega)]
      exact_mod_cast Nat.two_pow_pos E.toNat
    have hlead : ((2 ^ 52 : Nat) : Rat) * pow2 E ≤ n := by
      rw [pow2_of_nonneg (by omega), hE', Int.toNat_natCast]
      have : 2 ^ 52 * 2 ^ (n.log2 - 52) ≤ n := by
        rw [← Nat.pow_add, show 52 + (n.log2 - 52) = n.log2 by omega]
        exact Nat.log2_self_le hn0
      exact_mod_cast this
    have hfloor : ((2 ^ 52 : Nat) : Int) ≤ ((n : Rat) / pow2 E).floor :=
      Rat.le_floor_iff.mpr (by simpa using (le_div_iff₀ hpow).mpr hlead)
    omega
  generalize ((n : Rat) / pow2 E).floor.toNat = t0 at ht0 ⊢
  -- rounding adds at most one unit, and a carry out of 53 bits moves the exponent up
  obtain ⟨t1, ht1, hround⟩ : ∃ t1, t0 ≤ t1 ∧ (if (n : Rat) / pow2 E - t0 > 1 / 2 ∨
      ((n : Rat) / pow2 E - t0 = 1 / 2 ∧ t0 % 2 = 1) then t0 + 1 else t0) = t1 :=
    ⟨_, by split <;> omega, rfl⟩
  rw [hround]
  by_cases hcarry : t1 = Nat.pow 2 53
  · simp only [hcarry, if_true]
    split
    · exact .inl rfl
    · exact .inr ⟨_, _, rfl, by decide, by omega⟩
  · simp only [hcarry, if_false]
    split
    · exact .inl rfl
    · exact .inr ⟨_, _, rfl, by omega, by omega⟩

/-- Every float the rounding of an integer of at least `2^63` can give stands above every 64-bit
integer. -/
theorem Binary.round_double_orderAgainst {n : Nat} (hn : 2 ^ 63 ≤ n) {k : Int}
    (hk : k < 2 ^ 63) : (Binary.round .double false n).orderAgainst k = some .gt := by
  rcases Binary.round_double_above hn with h | ⟨t, e, h, ht, he⟩
  · rw [h]
    rfl
  · rw [h]
    have hval : ((2 ^ 63 : Nat) : Rat) ≤ (t : Rat) * pow2 e := by
      rw [pow2_of_nonneg (by omega)]
      have : 2 ^ 52 * 2 ^ 11 ≤ t * 2 ^ e.toNat :=
        Nat.mul_le_mul ht (Nat.pow_le_pow_right (by decide) (by omega))
      exact_mod_cast this
    have hk' : (k : Rat) < ((2 ^ 63 : Nat) : Rat) := by exact_mod_cast hk
    simp only [Binary.orderAgainst, Binary.toRat?, Bool.false_eq_true, if_false, Option.map_some]
    rw [RowFilter.compareRat_of_lt (lt_of_lt_of_le hk' hval)]

/-! ## Numerals of integers -/

/-- Digits read as a number: every character is a digit, and the number is their value. -/
theorem foldlM_digitValue_eq_some {cs : List Char} {acc m : Nat}
    (h : cs.foldlM (fun n c => (digitValue? c).map (n * 10 + ·)) acc = some m) :
    (∀ c ∈ cs, '0' ≤ c ∧ c ≤ '9') ∧ m = cs.foldl (fun n c => n * 10 + (c.toNat - '0'.toNat)) acc := by
  induction cs generalizing acc with
  | nil => simpa using h.symm
  | cons c cs ih =>
    simp only [List.foldlM_cons, digitValue?] at h
    split at h
    case isTrue hc =>
      obtain ⟨hall, rfl⟩ := ih h
      exact ⟨fun x hx => (List.mem_cons.mp hx).elim (· ▸ hc) (hall x), rfl⟩
    case isFalse => simp at h

theorem readDigits?_eq_some {cs : List Char} {m : Nat} (h : readDigits? cs = some m) :
    cs ≠ [] ∧ (∀ c ∈ cs, '0' ≤ c ∧ c ≤ '9') ∧
      m = cs.foldl (fun n c => n * 10 + (c.toNat - '0'.toNat)) 0 := by
  unfold readDigits? at h
  split at h
  · simp at h
  · rename_i hne
    exact ⟨by simpa using hne, foldlM_digitValue_eq_some h⟩

/-- Reading the significand of a run of decimal digits: everything is read, there is no point and
no underscore, and the value is the digits' number. A leading zero moves the point and leaves the
value at zero. -/
theorem readSignificand_digits {cs : List Char} (hcs : ∀ c ∈ cs, '0' ≤ c ∧ c ≤ '9')
    (m : Significand) (hdot : m.sawDot = false) (hu : m.underscores = false)
    (hz : m.count = 0 → m.value = 0) :
    (readSignificand false cs m).2 = [] ∧ (readSignificand false cs m).1.sawDot = false ∧
      (readSignificand false cs m).1.underscores = false ∧
      (m.sawDigits = true ∨ cs ≠ [] → (readSignificand false cs m).1.sawDigits = true) ∧
      (readSignificand false cs m).1.value =
        cs.foldl (fun n c => n * 10 + (c.toNat - '0'.toNat)) m.value := by
  induction cs generalizing m with
  | nil => simp [readSignificand, hdot, hu]
  | cons c cs ih =>
    have hc := hcs c List.mem_cons_self
    have hrest := fun x hx => hcs x (List.mem_cons_of_mem c hx)
    simp only [readSignificand, hc, and_self, if_true]
    split
    case isTrue hlead =>
      -- a leading zero: the value stays zero
      obtain ⟨h1, h2, h3, h4, h5⟩ := ih hrest { m with point := m.point - 1, sawDigits := true }
        hdot hu (fun _ => hz hlead.2)
      refine ⟨h1, h2, h3, fun _ => h4 (.inl rfl), ?_⟩
      rw [h5, List.foldl_cons, hz hlead.2, hlead.1]
    case isFalse =>
      obtain ⟨h1, h2, h3, h4, h5⟩ := ih hrest
        { m with value := m.value * 10 + (c.toNat - '0'.toNat), count := m.count + 1,
                 sawDigits := true } hdot hu (by simp)
      exact ⟨h1, h2, h3, fun _ => h4 (.inl rfl), h5⟩

/-- A digit has no lower-case form of its own. -/
theorem toLower_of_digit {c : Char} (h : '0' ≤ c ∧ c ≤ '9') : c.toLower = c := by
  -- the digits lie below `A`, where lowering changes nothing
  delta Char.toLower
  rw [dif_neg]
  simp [Char.le_def, UInt32.le_iff_toNat_le] at h ⊢
  omega

/-- `cs` is `body` after at most one sign, and the sign is `-` exactly when `neg`. -/
def SignedBody (cs : List Char) (neg : Bool) (body : List Char) : Prop :=
  cs = body ∧ neg = false ∨ cs = '-' :: body ∧ neg = true ∨ cs = '+' :: body ∧ neg = false

/-- A sign and digits spell no special word. -/
theorem specialNumeral?_of_digit {cs body : List Char} {neg : Bool} {c : Char}
    (hc : '0' ≤ c ∧ c ≤ '9') (hcs : SignedBody cs neg (c :: body)) :
    specialNumeral? cs = none := by
  -- each special word starts with a letter, and the word here with a digit
  have hword : ∀ w : String, w.toList.head? ≠ some c → String.ofList ((c :: body).map Char.toLower) ≠ w := by
    rintro w hw rfl
    simp [toLower_of_digit hc] at hw
  have hinf := hword "inf" (by intro h; simp at h; subst h; simp [Char.le_def] at hc)
  have hinfty := hword "infinity" (by intro h; simp at h; subst h; simp [Char.le_def] at hc)
  have hnan := hword "nan" (by intro h; simp at h; subst h; simp [Char.le_def] at hc)
  rcases hcs with ⟨rfl, -⟩ | ⟨rfl, -⟩ | ⟨rfl, -⟩
  · -- unsigned: the whole list is the word
    unfold specialNumeral?
    split
    rename_i heq
    split at heq
    · obtain ⟨rfl, -⟩ := List.cons.inj (by assumption)
      simp [Char.le_def] at hc
    · obtain ⟨rfl, -⟩ := List.cons.inj (by assumption)
      simp [Char.le_def] at hc
    · simp only [Prod.mk.injEq] at heq
      obtain ⟨-, -, rfl⟩ := heq
      simp_all
  · simp_all [specialNumeral?]
  · simp_all [specialNumeral?]

/-- A text that reads as an integer in a range is digits after at most one sign. -/
theorem readInt?_eq_some {lo hi n : Int} {s : String} (h : readInt? lo hi s = some n) :
    ∃ neg c body m, SignedBody s.toList neg (c :: body) ∧ readDigits? (c :: body) = some m ∧
      n = if neg then -(m : Int) else m := by
  have hne : ∀ {cs m}, readDigits? cs = some m → ∃ c body, cs = c :: body := by
    intro cs m h
    cases cs with
    | nil => simp [readDigits?] at h
    | cons c body => exact ⟨c, body, rfl⟩
  unfold readInt? at h
  rcases hcs : s.toList with _ | ⟨c, cs⟩
  · simp [hcs, readDigits?] at h
  · rw [hcs] at h
    by_cases hm : c = '-'
    · subst hm
      cases hr : readDigits? cs with
      | none => simp [hr] at h
      | some m =>
        obtain ⟨-, rfl⟩ : _ ∧ -(m : Int) = n := by simpa [hr] using h
        obtain ⟨d, body, rfl⟩ := hne hr
        exact ⟨true, d, body, m, .inr (.inl ⟨rfl, rfl⟩), hr, rfl⟩
    by_cases hp : c = '+'
    · subst hp
      cases hr : readDigits? cs with
      | none => simp [hr] at h
      | some m =>
        obtain ⟨-, rfl⟩ : _ ∧ (m : Int) = n := by simpa [hr] using h
        obtain ⟨d, body, rfl⟩ := hne hr
        exact ⟨false, d, body, m, .inr (.inr ⟨rfl, rfl⟩), hr, rfl⟩
    · cases hr : readDigits? (c :: cs) with
      | none => simp [hm, hp, hr] at h
      | some m =>
        obtain ⟨-, rfl⟩ : _ ∧ (m : Int) = n := by simpa [hm, hp, hr] using h
        exact ⟨false, c, cs, m, .inl ⟨rfl, rfl⟩, hr, rfl⟩

theorem Numeral.read?_digits {s : String} {neg : Bool} {c : Char} {body : List Char} {m : Nat}
    (hshape : SignedBody s.toList neg (c :: body)) (hd : readDigits? (c :: body) = some m) :
    Numeral.read? s = some (.finite neg m 0) := by
  obtain ⟨-, hdig, rfl⟩ := readDigits?_eq_some hd
  have hc := hdig c List.mem_cons_self
  have hminus : c ≠ '-' := by rintro rfl; simp [Char.le_def] at hc
  have hplus : c ≠ '+' := by rintro rfl; simp [Char.le_def] at hc
  have hspecial := specialNumeral?_of_digit hc hshape
  obtain ⟨h1, h2, h3, h4, h5⟩ := readSignificand_digits hdig {} rfl rfl (fun _ => rfl)
  have hnotx : ∀ x ∈ c :: body, x.toLower ≠ 'x' := fun x hx h => by
    rw [toLower_of_digit (hdig x hx)] at h
    exact absurd (h ▸ hdig x hx) (by decide)
  rcases hshape with ⟨hs, rfl⟩ | ⟨hs, rfl⟩ | ⟨hs, rfl⟩ <;> rw [hs] at hspecial <;>
    simp [Numeral.read?, hs, hspecial, hminus, hplus] <;> split
  all_goals
    -- a zero and a digit are no hexadecimal prefix
    try (rename_i x d r heq; rw [if_neg (hnotx x (by rw [heq]; simp))])
    -- past the sign and the prefix check the digits read as themselves; at value zero too
    simp [h1, h2, h3, h4, h5]
    exact fun h => h.symm

/-- A numeral that reads as a 64-bit integer spells that integer. -/
theorem Numeral.read?_of_readInt64? {s : String} {n : Int} (h : readInt64? s = some n) (k : Int) :
    (Numeral.read? s).bind (·.orderAgainst k) = some (RowFilter.compareRat n k) := by
  obtain ⟨neg, c, body, m, hshape, hd, rfl⟩ := readInt?_eq_some h
  rw [Numeral.read?_digits hshape hd]
  have hdec : decimalRat m 0 = m := by simp [decimalRat]
  cases neg <;> simp [Numeral.orderAgainst, hdec]

/-! ## The operand of a value -/

/-- An integer becomes an integer operand, unless it is an unsigned one past the signed range,
which becomes its nearest float. -/
theorem RowFilter.Operand.ofValue?_int {w : IntWidth} {n : Int} {x : RowFilter.Operand}
    (hx : RowFilter.Operand.ofValue? .integer (.int w n) = some x) :
    x = .int n ∨ ∃ m : Nat, n = m ∧ 2 ^ 63 ≤ m ∧ x = .float (Binary.round .double false m) := by
  have h63 : Int.pow 2 63 = 2 ^ 63 := rfl
  by_cases hbig : w = .uint64 ∧ n > 2 ^ 63 - 1
  · obtain ⟨hw, hn⟩ := hbig
    obtain ⟨m, rfl⟩ : ∃ m : Nat, n = m := ⟨n.toNat, by omega⟩
    simp only [ofValue?, hw, h63, hn, and_self, if_true, ne_eq, reduceCtorEq, not_false_eq_true,
      Option.some.injEq, Int.cast_natCast] at hx
    exact .inr ⟨m, rfl, by omega, hx.symm⟩
  · simp only [ofValue?, h63, hbig, if_false] at hx
    split at hx <;> simp_all

/-- For every value an integer literal admits, other than a numeral that does not read as a 64-bit
integer, the operand stands against every integer below `2^63` exactly where the value does. -/
theorem RowFilter.Operand.orderAgainst_ofValue? {v : Value} {x : RowFilter.Operand} {k : Int}
    (hx : RowFilter.Operand.ofValue? .integer v = some x) (hk : k < 2 ^ 63)
    (hnum : ∀ s, v = .numeral s → (readInt64? s).isSome) :
    x.orderAgainst k = v.orderAgainst k := by
  cases v with
  | int w n =>
    rcases ofValue?_int hx with rfl | ⟨m, rfl, hm, rfl⟩
    · rfl
    · -- the unsigned integers past the signed range become floats, all above the literal
      rw [orderAgainst, Binary.round_double_orderAgainst hm hk, Value.orderAgainst,
        RowFilter.compareRat_of_lt (by exact_mod_cast (show k < m by omega))]
  | float64 y | float32 y =>
    have hfloat : x = .float y := by
      simp only [ofValue?, true_and] at hx
      split at hx <;> simp_all
    subst hfloat
    rfl
  | numeral s =>
    obtain ⟨n, hn⟩ := Option.isSome_iff_exists.mp (hnum s rfl)
    simp only [ofValue?, if_true, hn, Option.some.injEq] at hx
    subst hx
    simp [orderAgainst, Value.orderAgainst, Numeral.read?_of_readInt64? hn]
  | null | bool | text | bytes | time | list | map => simp [ofValue?] at hx

/-- The largest unsigned 64-bit integer stands above 7 as its float does. -/
theorem RowFilter.Operand.orderAgainst_ofValue?_uint64Max :
    RowFilter.Operand.ofValue? .integer (.int .uint64 18446744073709551615) =
        some (.float (Binary.round .double false ((18446744073709551615 : Int) : Rat))) ∧
      (7 : Int) < 2 ^ 63 ∧
      (∀ s, Value.int .uint64 18446744073709551615 = .numeral s → (readInt64? s).isSome) ∧
      (RowFilter.Operand.float (Binary.round .double false ((18446744073709551615 : Int) : Rat))).orderAgainst 7 =
        (Value.int .uint64 18446744073709551615).orderAgainst 7 :=
  have hx : RowFilter.Operand.ofValue? .integer (.int .uint64 18446744073709551615) =
      some (.float (Binary.round .double false ((18446744073709551615 : Int) : Rat))) := rfl
  have hnum : ∀ s, Value.int .uint64 18446744073709551615 = .numeral s → (readInt64? s).isSome :=
    fun _ h => nomatch h
  ⟨hx, by decide, hnum, RowFilter.Operand.orderAgainst_ofValue? hx (by decide) hnum⟩

/-- A numeral just above 1 becomes the float 1, which no longer compares above the literal 1. -/
theorem RowFilter.Operand.numeral_rounds_onto_literal :
    RowFilter.Operand.ofValue? .integer (.numeral "1.0000000000000000001") =
        some (.float (.finite false (2 ^ 52) (-52))) ∧
      RowFilter.compareHolds .gt (.float (.finite false (2 ^ 52) (-52))) (.int 1) = false ∧
      (Value.numeral "1.0000000000000000001").orderAgainst 1 = some .gt := by
  refine ⟨by decide +kernel, by decide +kernel, by decide +kernel⟩

end AccessPolicy
