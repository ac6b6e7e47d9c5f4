import AccessPolicy.Mask.Basic
/-!
# What a mask leaves of each rune

A mask works on the runes of a value's text and writes one rune for each of them, so nothing is
ever read or written outside the text.

* `show_last n` keeps the last `n` runes and `show_first n` the first `n`; every other letter or
  decimal digit becomes `x`. The count is the spec's own when it reads and 0 when it does not,
  whether or not the spec passed its check, and a count past the length keeps every rune
  (`MaskSpec.apply_show`).
* `redact` writes `X`, `x` and `n` for upper-case letters, lower-case letters and decimal digits
  and keeps every other rune (`MaskSpec.apply_redact`). The letters it keeps are the letters of
  neither case, all beyond ASCII: titlecase digraphs such as `ǅ`, modifier letters, and the
  letters of scripts without case (`CharClass.caseless_iff`).
-/

namespace AccessPolicy

/-- A rune as the show functions hide it: `x` for a letter or a decimal digit. -/
def hideChar (c : Char) : Char :=
  if CharClass.letter c ∨ CharClass.decimalDigit c then 'x' else c

/-- `out` is `s` rune for rune, with the runes at positions from `lo` to below `hi` hidden. -/
def HidesBetween (lo hi : Int) (s out : List Char) : Prop :=
  out.length = s.length ∧ ∀ i : Nat, out[i]? = s[i]?.map fun c => if lo ≤ i ∧ i < hi then hideChar c else c

theorem hideRange_hidesBetween (cs : List Char) (lo hi : Int) :
    HidesBetween lo hi cs (MaskSpec.hideRange cs lo hi) := by
  refine ⟨by simp [MaskSpec.hideRange], fun i => ?_⟩
  rw [MaskSpec.hideRange, List.getElem?_mapIdx]
  congr 1
  funext c
  by_cases hlo : lo ≤ i <;> by_cases hhi : (i : Int) < hi <;> simp [hlo, hhi, hideChar]

/-- The letters that are neither upper nor lower case are the letters beyond ASCII of the
titlecase, modifier and other letter categories. -/
theorem CharClass.caseless_iff (c : Char) :
    (CharClass.letter c ∧ CharClass.upper c = false ∧ CharClass.lower c = false) ↔
      0x80 ≤ c.toNat ∧ CharClass.generalCategory c ∈ [.lt, .lm, .lo] := by
  unfold CharClass.letter CharClass.upper CharClass.lower
  by_cases hascii : c.toNat < 0x80
  · -- an ASCII letter has a case
    simp only [hascii, if_true]
    constructor
    · rintro ⟨hl, hu, hlo⟩
      simp only [decide_eq_true_eq, decide_eq_false_iff_not] at hl hu hlo
      rcases hl with hl | hl
      · exact absurd hl hlo
      · exact absurd hl hu
    · rintro ⟨hge, -⟩
      omega
  · simp only [hascii, if_false, Nat.le_of_not_lt hascii, true_and]
    cases CharClass.generalCategory c <;> decide

/-- No decimal digit is a letter. -/
theorem CharClass.not_letter_of_decimalDigit {c : Char} (h : CharClass.decimalDigit c = true) :
    CharClass.letter c = false := by
  unfold CharClass.decimalDigit at h
  unfold CharClass.letter
  by_cases hascii : c.toNat < 0x80
  · simp [hascii, Char.le_def, UInt32.le_iff_toNat_le] at h ⊢
    omega
  · simp only [hascii, if_false, beq_iff_eq] at h ⊢
    rw [h]
    decide

namespace MaskSpec

/-- The count a show function works with: the spec's own when it reads, else 0. -/
def shownCount (spec : MaskSpec) : Int :=
  match spec.showCount with
  | .ok n => n
  | .error _ => 0

/-- The rune `redact` writes for a rune. -/
def redactChar (c : Char) : Char :=
  if CharClass.upper c then 'X' else if CharClass.lower c then 'x'
  else if CharClass.decimalDigit c then 'n' else c

theorem redactChars_eq_map (cs : List Char) : redactChars cs = cs.map redactChar := rfl

/-- A letter or digit that `redact` writes no placeholder for is a letter of neither case. -/
theorem redactChar_unmasked_iff (c : Char) :
    ((CharClass.letter c ∨ CharClass.decimalDigit c) ∧ redactChar c ∉ ['X', 'x', 'n']) ↔
      0x80 ≤ c.toNat ∧ CharClass.generalCategory c ∈ [.lt, .lm, .lo] := by
  rw [← CharClass.caseless_iff]
  unfold redactChar
  cases hu : CharClass.upper c
  · cases hl : CharClass.lower c
    · cases hd : CharClass.decimalDigit c
      · -- the rune stays, and it is no placeholder, since every placeholder has a case
        have hX : c ≠ 'X' := by rintro rfl; exact absurd hu (by decide)
        have hx : c ≠ 'x' := by rintro rfl; exact absurd hl (by decide)
        have hn : c ≠ 'n' := by rintro rfl; exact absurd hl (by decide)
        simp [hX, hx, hn]
      · simp [CharClass.not_letter_of_decimalDigit hd]
    · simp
  · simp

variable {spec : MaskSpec} {v : Value}

/-- Below nothing, a mask applies the function its spec names. -/
theorem apply_of_ne_null (hv : v ≠ .null) :
    spec.apply v = match MaskFunction.ofName? spec.function with
      | some .keep => v
      | some .nullify => .null
      | some .redact => .text (String.ofList (redactChars v.maskChars))
      | some .hash => .text (Md5.hexDigest v.maskBytes)
      | some .showLast =>
        .text (String.ofList (hideRange v.maskChars 0 (v.maskChars.length - spec.shownCount)))
      | some .showFirst => .text (String.ofList (hideRange v.maskChars spec.shownCount v.maskChars.length))
      | some .dateShowYear => yearOnly v
      | none => .null := by
  unfold apply
  split
  · contradiction
  · rfl

/-- For every value but nothing and every spec, checked or not, with `n` the spec's count or 0,
`show_last n` hides every letter and digit before the last `n` runes and `show_first n` every one
after the first `n`, and both keep the number of runes. -/
theorem apply_show (hv : v ≠ .null) :
    (spec.function = "show_last" → ∃ out, spec.apply v = .text (String.ofList out) ∧
      HidesBetween 0 (v.maskChars.length - spec.shownCount) v.maskChars out) ∧
    (spec.function = "show_first" → ∃ out, spec.apply v = .text (String.ofList out) ∧
      HidesBetween spec.shownCount v.maskChars.length v.maskChars out) := by
  rw [apply_of_ne_null hv]
  constructor
  · intro hf
    rw [hf]
    exact ⟨_, rfl, hideRange_hidesBetween _ _ _⟩
  · intro hf
    rw [hf]
    exact ⟨_, rfl, hideRange_hidesBetween _ _ _⟩

/-- The sample card number keeps its last four runes under `show_last` without a count. -/
theorem apply_show_card :
    Value.text "4111-1111-1111-1234" ≠ .null ∧ ∃ out,
      (⟨"show_last", [], ""⟩ : MaskSpec).apply (.text "4111-1111-1111-1234") =
        .text (String.ofList out) ∧ HidesBetween 0 15 "4111-1111-1111-1234".toList out :=
  ⟨by simp, (@apply_show ⟨"show_last", [], ""⟩ (.text "4111-1111-1111-1234") (by simp)).1 rfl⟩

/-- For every value but nothing, `redact` keeps the number of runes and writes each rune as
`redactChar` does; so a letter or digit is left without a placeholder exactly when it is a letter
of neither case. -/
theorem apply_redact (args : List String) (policyId : String) (hv : v ≠ .null) :
    ∃ out, (⟨"redact", args, policyId⟩ : MaskSpec).apply v = .text (String.ofList out) ∧
      out.length = v.maskChars.length ∧ ∀ (i : Nat) c, v.maskChars[i]? = some c →
        out[i]? = some (redactChar c) ∧
        ((CharClass.letter c ∨ CharClass.decimalDigit c) ∧ redactChar c ∉ ['X', 'x', 'n'] ↔
          0x80 ≤ c.toNat ∧ CharClass.generalCategory c ∈ [.lt, .lm, .lo]) := by
  refine ⟨v.maskChars.map redactChar, by rw [apply_of_ne_null hv]; rfl, by simp,
    fun i c hc => ⟨by simp [hc], redactChar_unmasked_iff c⟩⟩

/-- A name with a number keeps its twelve runes under `redact`, and its first becomes `X`. -/
theorem apply_redact_name :
    Value.text "Mr. Smith 42" ≠ .null ∧ ∃ out,
      (⟨"redact", [], ""⟩ : MaskSpec).apply (.text "Mr. Smith 42") = .text (String.ofList out) ∧
        out.length = 12 ∧ out[0]? = some 'X' :=
  have hv : Value.text "Mr. Smith 42" ≠ .null := by simp
  have ⟨out, happ, hlen, hall⟩ := @apply_redact (.text "Mr. Smith 42") [] "" hv
  ⟨hv, out, happ, hlen.trans rfl, (hall 0 'M' rfl).1.trans (by decide)⟩

end MaskSpec

end AccessPolicy
