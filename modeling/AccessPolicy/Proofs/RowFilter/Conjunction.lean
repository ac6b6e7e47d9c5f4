import AccessPolicy.RowFilter.Filter
import AccessPolicy.Proofs.RowFilter.Check
import AccessPolicy.Proofs.Snapshot.Build
/-!
# The text of a filter

A filter prints as the text `(s₁) AND … AND (sₖ)` of its predicates' sources. That text is
itself a predicate: it compiles, to the conjunction of the predicates' expressions grouped to the
left, and the predicate passes exactly the rows the filter passes (`Filter.compile_text`).

Two facts carry the proof. The tokens of a source alone, ending in its end-of-text token, agree
with the tokens of the same source read before a `)` (`scanFrom_append_close`, by induction
along the scanner); and every parsing function reads agreeing tokens as it reads the source alone,
because where the source ends the longer text has `)`, which no parsing function takes as the
start of more input (`simulates`, by induction on the fuel). On the evaluation side, a predicate
passes a row exactly when the row lets it be decided and its classical value holds
(`Predicate.evaluate_eq_true_iff`), and both sides of the conjunction read the same operands.
-/

namespace AccessPolicy

/-- A mapped result is a result. -/
theorem Except.map_eq_ok {ε α β : Type} {x : Except ε α} {f : α → β} {b : β}
    (h : x.map f = .ok b) : ∃ a, x = .ok a ∧ f a = b := by
  cases x with
  | error e => cases h
  | ok a => exact ⟨a, rfl, by simpa [Except.map] using h⟩

namespace RowFilter

/-! ## Scanning a source before a closing parenthesis -/

/-- The tokens of a source alone and the tokens of the same source read before more text, which
scans as `tail`: the same kinds and texts, the end-of-text token replaced by `tail`. -/
inductive Agree (tail : List Token) : List Token → List Token → Prop where
  | eof {t : Token} : t.kind = .eof → Agree tail [t] tail
  | cons {t t' : Token} {ts ts' : List Token} : t.kind = t'.kind → t.text = t'.text →
      t.kind ≠ .eof → Agree tail ts ts' → Agree tail (t :: ts) (t' :: ts')

theorem stringBody_append {q : Char} (hq : q ≠ '\\') {cs body : List Char} {n : Nat}
    (h : stringBody q cs = some (body, n)) (ds : List Char) :
    stringBody q (cs ++ ds) = some (body, n) ∧ n ≤ cs.length := by
  fun_induction stringBody q cs generalizing body n with
  | case1 => cases h
  | case2 c rest ih =>
    obtain ⟨⟨body', n'⟩, h', hb⟩ := Option.map_eq_some_iff.mp h
    obtain ⟨hs, hn⟩ := ih h'
    simp only [Prod.mk.injEq] at hb
    obtain ⟨rfl, rfl⟩ := hb
    simp [stringBody, hs]
    omega
  | case3 rest _ =>
    simp only [Option.some.injEq, Prod.mk.injEq] at h
    obtain ⟨rfl, rfl⟩ := h
    simp [stringBody, hq]
  | case4 c rest hc hcq ih =>
    obtain ⟨⟨body', n'⟩, h', hb⟩ := Option.map_eq_some_iff.mp h
    obtain ⟨hs, hn⟩ := ih h'
    simp only [Prod.mk.injEq] at hb
    obtain ⟨rfl, rfl⟩ := hb
    -- a backslash alone at the end leaves the string open, so `c` is no backslash
    have hc' : c ≠ '\\' := by
      rintro rfl
      cases rest with
      | nil => cases h'
      | cons d r => exact hc d r rfl rfl
    simp [stringBody, hc', hcq, hs]
    omega

theorem takeWhile_append_stop {p : Char → Bool} {y : Char} (hy : p y = false)
    (xs ys : List Char) : (xs ++ y :: ys).takeWhile p = xs.takeWhile p := by
  induction xs with
  | nil => simp [hy]
  | cons x xs ih => by_cases hx : p x <;> simp [hx, ih]

theorem Agree.step {T ts us : List Token} {x : Except ScanError (List Token)} {t t' : Token}
    (hx : x = .ok (us ++ T)) (hag : Agree T ts (us ++ T)) (hk : t.kind = t'.kind)
    (htext : t.text = t'.text) (he : t.kind ≠ .eof) :
    ∃ us', x.map (t' :: ·) = .ok (us' ++ T) ∧ Agree T (t :: ts) (us' ++ T) :=
  ⟨t' :: us, by simp [hx, Except.map], .cons hk htext he hag⟩

theorem wordKind_ne_eof (w : String) : wordKind w ≠ .eof := by
  unfold wordKind
  split <;> simp

/-- A source that scans, read before a `)`, scans to agreeing tokens followed by the tokens of
the rest; positions move by the offset, which tokens do not compare. -/
theorem scanFrom_append_close {cs ds : List Char} {p q : Nat} {ts T : List Token}
    (h : scanFrom cs p = .ok ts) (hT : scanFrom (')' :: ds) (q + cs.length) = .ok T) :
    ∃ us, scanFrom (cs ++ ')' :: ds) q = .ok (us ++ T) ∧ Agree T ts (us ++ T) := by
  fun_induction scanFrom cs p generalizing ts q with
  | case1 pos =>
    cases h
    exact ⟨[], hT, .eof rfl⟩
  | case2 pos c rest hb ih =>
    obtain ⟨us, hus, hag⟩ := ih h (q := q + 1) (by simpa [Nat.add_assoc, Nat.add_comm 1] using hT)
    refine ⟨us, ?_, hag⟩
    rw [List.cons_append, scanFrom.eq_def]
    simp [hb, hus]
  | case3 pos rest hb ih =>
    obtain ⟨ts0, h0, rfl⟩ := Except.map_eq_ok h
    obtain ⟨us, hus, hag⟩ := ih h0 (q := q + 1) (by simpa [Nat.add_assoc, Nat.add_comm 1] using hT)
    rw [List.cons_append, scanFrom.eq_def]
    simp [hb]
    exact Agree.step hus hag rfl rfl (by simp)
  | case4 pos rest hb hl ih =>
    obtain ⟨ts0, h0, rfl⟩ := Except.map_eq_ok h
    obtain ⟨us, hus, hag⟩ := ih h0 (q := q + 1) (by simpa [Nat.add_assoc, Nat.add_comm 1] using hT)
    rw [List.cons_append, scanFrom.eq_def]
    simp [hb]
    exact Agree.step hus hag rfl rfl (by simp)
  | case5 pos d rest hb hl hr hd ih =>
    obtain ⟨ts0, h0, rfl⟩ := Except.map_eq_ok h
    obtain ⟨us, hus, hag⟩ := ih h0 (q := q + 2) (by simpa [Nat.add_assoc, Nat.add_comm 2] using hT)
    rw [List.cons_append, List.cons_append, scanFrom.eq_def]
    simp [hb, hl, hr, hd]
    exact Agree.step hus hag rfl rfl (by split <;> simp)
  | case6 | case7 | case13 | case16 => cases h
  | case8 pos rest hb hl hr ha ih =>
    obtain ⟨ts0, h0, rfl⟩ := Except.map_eq_ok h
    obtain ⟨us, hus, hag⟩ := ih h0 (q := q + 2) (by simpa [Nat.add_assoc, Nat.add_comm 2] using hT)
    rw [List.cons_append, List.cons_append, scanFrom.eq_def]
    simp [hb]
    exact Agree.step hus hag rfl rfl (by simp)
  | case9 pos rest hne hb hl hr ha ih =>
    obtain ⟨ts0, h0, rfl⟩ := Except.map_eq_ok h
    obtain ⟨us, hus, hag⟩ := ih h0 (q := q + 1) (by simpa [Nat.add_assoc, Nat.add_comm 1] using hT)
    rw [List.cons_append, scanFrom.eq_def]
    -- the character after `!` is no `=`, in the longer text as well
    cases rest with
    | nil =>
      simp [hb]
      exact Agree.step hus hag rfl rfl (by simp)
    | cons x xs =>
      have hx : x ≠ '=' := fun hx => hne xs (by rw [hx])
      simp [hb, hx]
      exact Agree.step hus hag rfl rfl (by simp)
  | case10 pos c hb hl hr ha hn hc rest ih =>
    obtain ⟨ts0, h0, rfl⟩ := Except.map_eq_ok h
    obtain ⟨us, hus, hag⟩ := ih h0 (q := q + 2) (by simpa [Nat.add_assoc, Nat.add_comm 2] using hT)
    rw [List.cons_append, List.cons_append, scanFrom.eq_def]
    simp [hb, hl, hr, ha, hn, hc]
    exact Agree.step hus hag rfl rfl (by simp)
  | case11 pos c rest hb hl hr ha hn hc hne ih =>
    obtain ⟨ts0, h0, rfl⟩ := Except.map_eq_ok h
    obtain ⟨us, hus, hag⟩ := ih h0 (q := q + 1) (by simpa [Nat.add_assoc, Nat.add_comm 1] using hT)
    rw [List.cons_append, scanFrom.eq_def]
    cases rest with
    | nil =>
      simp [hb, hl, hr, ha, hn, hc]
      exact Agree.step hus hag rfl rfl (by simp)
    | cons x xs =>
      have hx : x ≠ '=' := fun hx => hne xs (by rw [hx])
      simp [hb, hl, hr, ha, hn, hc, hx]
      exact Agree.step hus hag rfl rfl (by simp)
  | case12 pos c rest hb hl hr ha hn hc hq body n hs ih =>
    obtain ⟨ts0, h0, rfl⟩ := Except.map_eq_ok h
    obtain ⟨hs', hn'⟩ := stringBody_append (by rcases hq with rfl | rfl <;> decide) hs (')' :: ds)
    have hpos : q + 1 + n + (rest.drop n).length = q + (c :: rest).length := by
      simp only [List.length_drop, List.length_cons]; omega
    obtain ⟨us, hus, hag⟩ := ih h0 (q := q + 1 + n) (by rw [hpos]; exact hT)
    rw [List.cons_append, scanFrom.eq_def]
    simp [hb, hl, hr, ha, hn, hc, hq, hs', List.drop_append_of_le_length hn']
    exact Agree.step hus hag rfl rfl (by simp)
  | case14 pos c rest hb hl hr ha hn hc hq hd digits =>
    rename_i ih
    simp only [digits] at ih h
    obtain ⟨ts0, h0, rfl⟩ := Except.map_eq_ok h
    have hlen : (rest.takeWhile CharClass.decimalDigit).length ≤ rest.length := (List.takeWhile_prefix _).length_le
    have hpos : q + 1 + (rest.takeWhile CharClass.decimalDigit).length + (rest.drop (rest.takeWhile CharClass.decimalDigit).length).length =
        q + (c :: rest).length := by
      simp only [List.length_drop, List.length_cons]; omega
    obtain ⟨us, hus, hag⟩ := ih h0 (q := q + 1 + (rest.takeWhile CharClass.decimalDigit).length) (by rw [hpos]; exact hT)
    -- a `-` starts a number in the longer text too, since `)` is no digit
    have hd' : CharClass.decimalDigit c = true ∨ c = '-' ∧
        (((rest ++ ')' :: ds).head?).map CharClass.decimalDigit).getD false = true := by
      rcases hd with hd | ⟨rfl, hh⟩
      · exact .inl hd
      · cases rest with
        | nil => simp at hh
        | cons x xs => exact .inr ⟨rfl, by simpa using hh⟩
    rw [List.cons_append, scanFrom.eq_def]
    simp only [hb, hl, hr, ha, hn, hc, hq, hd', if_true, if_false, Bool.false_eq_true,
      takeWhile_append_stop (by decide : CharClass.decimalDigit ')' = false),
      List.drop_append_of_le_length hlen]
    exact Agree.step hus hag rfl rfl (by simp)
  | case15 pos c rest hb hl hr ha hn hc hq hd hw word =>
    rename_i ih
    simp only [word] at ih h
    obtain ⟨ts0, h0, rfl⟩ := Except.map_eq_ok h
    have hlen : (rest.takeWhile wordPart).length ≤ rest.length := (List.takeWhile_prefix _).length_le
    have hpos : q + 1 + (rest.takeWhile wordPart).length + (rest.drop (rest.takeWhile wordPart).length).length =
        q + (c :: rest).length := by
      simp only [List.length_drop, List.length_cons]; omega
    obtain ⟨us, hus, hag⟩ := ih h0 (q := q + 1 + (rest.takeWhile wordPart).length) (by rw [hpos]; exact hT)
    have hm : c ≠ '-' := by rintro rfl; exact absurd hw (by decide)
    have hdd : ¬CharClass.decimalDigit c = true := (not_or.mp hd).1
    rw [List.cons_append, scanFrom.eq_def]
    simp only [hb, hl, hr, ha, hn, hc, hq, hdd, hw, hm, if_true, if_false, Bool.false_eq_true,
      false_and, or_false, takeWhile_append_stop (by decide : wordPart ')' = false),
      List.drop_append_of_le_length hlen]
    -- the kind is read off the token first, so that `wordKind` is never unfolded
    exact Agree.step hus hag rfl rfl (by dsimp only; exact wordKind_ne_eof _)


/-! ## Parsing tokens that agree -/

section Parse

variable {T : List Token}

theorem Agree.eq_tail {ts ts' : List Token} (h : Agree T ts ts') (he : (peek ts).kind = .eof) :
    ts' = T := by
  cases h with
  | eof => rfl
  | cons _ _ hne _ => exact absurd he hne

theorem Agree.peek_advance {ts ts' : List Token} (h : Agree T ts ts') (he : (peek ts).kind ≠ .eof) :
    (peek ts').kind = (peek ts).kind ∧ (peek ts').text = (peek ts).text ∧
      Agree T (advance ts) (advance ts') := by
  cases h with
  | eof hk => exact absurd hk he
  | cons hk htext hne hrest =>
    have hne' : ¬_ = TokenKind.eof := hk ▸ hne
    simp only [peek, List.headD_cons, advance, hne, hne', if_false]
    exact ⟨hk.symm, htext.symm, hrest⟩

theorem Agree.length_eq {ts ts' : List Token} (h : Agree T ts ts') :
    ts'.length + 1 = ts.length + T.length := by
  induction h with
  | eof => simp only [List.length_singleton]; omega
  | cons _ _ _ _ ih => simp only [List.length_cons]; omega

theorem literalOf_kind {a o t : Token} {op : CmpOp} {lit : Literal}
    (h : literalOf a o op t = .ok lit) : t.kind ≠ .eof := by
  intro he
  simp [literalOf, he] at h

theorem literalOf_congr {a o t b c u : Token} {op : CmpOp} {lit : Literal}
    (h : literalOf a o op t = .ok lit) (hk : u.kind = t.kind) (htext : u.text = t.text) :
    literalOf b c op u = .ok lit := by
  simp only [literalOf, hk, htext] at h ⊢
  cases hkind : t.kind <;> cases hr : readInt64? t.text <;> cases hord : op.ordering <;>
    simp_all


/-- A parsing function reads tokens that agree as it reads the tokens of the text alone, given
at least as much fuel. -/
def Simulates (T : List Token) (P : Nat → List Token → Except ParseError (Expr × List Token))
    (f : Nat) : Prop :=
  ∀ {ts ts' : List Token} {e : Expr} {rest : List Token} {m : Nat},
    P f ts = .ok (e, rest) → Agree T ts ts' → f ≤ m →
      ∃ rest', P m ts' = .ok (e, rest') ∧ Agree T rest rest'

theorem simulates_parsePrimary {f : Nat} (hOr : Simulates T parseOr f) :
    Simulates T parsePrimary (f + 1) := by
  intro ts ts' e rest m h hag hf
  obtain ⟨g, rfl⟩ : ∃ g, m = g + 1 := ⟨m - 1, by omega⟩
  rw [parsePrimary] at h ⊢
  dsimp only at h ⊢
  by_cases he : (peek ts).kind = .eof
  · simp [he] at h
  obtain ⟨hk, htext, hadv⟩ := hag.peek_advance he
  rw [hk, htext]
  split at h
  · -- a group: the expression inside, then its `)`
    rename_i hkind
    split at h
    · rename_i e0 r0 hpo
      split at h
      · rename_i hclose
        cases h
        obtain ⟨r0', hpo', hag0⟩ := hOr (m := g) hpo hadv (by omega)
        obtain ⟨hk0, -, hadv0⟩ := hag0.peek_advance (by rw [hclose]; decide)
        refine ⟨advance r0', ?_, hadv0⟩
        simp [hpo', hk0, hclose]
      · cases h
    · cases h
  · -- a comparison: attribute, operator and literal
    rename_i hkind
    by_cases he1 : (peek (advance ts)).kind = .eof
    · simp [he1] at h
    obtain ⟨hk1, htext1, hadv1⟩ := hadv.peek_advance he1
    rw [hk1, htext1]
    split at h
    · rename_i op hop hkop
      obtain ⟨lit, hlit, hpair⟩ := Except.map_eq_ok h
      cases hpair
      obtain ⟨hk2, htext2, hadv2⟩ := hadv1.peek_advance (literalOf_kind hlit)
      refine ⟨_, ?_, hadv2⟩
      simp [literalOf_congr (b := peek ts') (c := peek (advance ts')) hlit hk2 htext2,
        Except.map]
    · cases h
  · cases h


/-- Where a text alone has its end, the longer text has `)`: a keyword test reads the same. -/
theorem Agree.kind_eq_iff (hT : (peek T).kind = .rparen) {ts ts' : List Token} (h : Agree T ts ts')
    {k : TokenKind} (hke : k ≠ .eof) (hkr : k ≠ .rparen) :
    (peek ts').kind = k ↔ (peek ts).kind = k := by
  by_cases he : (peek ts).kind = .eof
  · rw [h.eq_tail he, hT, he]
    exact ⟨fun h' => absurd h'.symm hkr, fun h' => absurd h'.symm hke⟩
  · rw [(h.peek_advance he).1]

variable (hT : (peek T).kind = .rparen)
include hT

theorem simulates_parseNot {f : Nat} (hNot : Simulates T parseNot f)
    (hPrim : Simulates T parsePrimary f) : Simulates T parseNot (f + 1) := by
  intro ts ts' e rest m h hag hf
  obtain ⟨g, rfl⟩ : ∃ g, m = g + 1 := ⟨m - 1, by omega⟩
  rw [parseNot] at h ⊢
  simp only [hag.kind_eq_iff hT (k := .notWord) (by decide) (by decide)]
  split at h
  · rename_i hnot
    obtain ⟨⟨e0, r0⟩, h0, hpair⟩ := Except.map_eq_ok h
    cases hpair
    obtain ⟨-, -, hadv⟩ := hag.peek_advance (by rw [hnot]; decide)
    obtain ⟨r0', h0', hag0⟩ := hNot (m := g) h0 hadv (by omega)
    exact ⟨r0', by simp [hnot, h0', Except.map], hag0⟩
  · rename_i hnot
    simpa [hnot] using hPrim (m := g) h hag (by omega)

theorem simulates_andTail {f : Nat} (hNot : Simulates T parseNot f)
    (hTail : ∀ l, Simulates T (andTail · l) f) (l : Expr) : Simulates T (andTail · l) (f + 1) := by
  intro ts ts' e rest m h hag hf
  obtain ⟨g, rfl⟩ : ∃ g, m = g + 1 := ⟨m - 1, by omega⟩
  simp only [andTail, hag.kind_eq_iff hT (k := .andWord) (by decide) (by decide)] at h ⊢
  split at h
  · rename_i hand
    split at h
    · rename_i r0 rest0 h0
      obtain ⟨-, -, hadv⟩ := hag.peek_advance (by rw [hand]; decide)
      obtain ⟨r0', h0', hag0⟩ := hNot (m := g) h0 hadv (by omega)
      obtain ⟨rest', h1', hag1⟩ := hTail (.and l r0) (m := g) h hag0 (by omega)
      exact ⟨rest', by simp [hand, h0', h1'], hag1⟩
    · cases h
  · rename_i hand
    cases h
    exact ⟨ts', by simp [hand], hag⟩

omit hT in
theorem simulates_parseAnd {f : Nat} (hNot : Simulates T parseNot f)
    (hTail : ∀ l, Simulates T (andTail · l) f) : Simulates T parseAnd (f + 1) := by
  intro ts ts' e rest m h hag hf
  obtain ⟨g, rfl⟩ : ∃ g, m = g + 1 := ⟨m - 1, by omega⟩
  rw [parseAnd] at h ⊢
  split at h
  · rename_i l r0 h0
    obtain ⟨r0', h0', hag0⟩ := hNot (m := g) h0 hag (by omega)
    obtain ⟨rest', h1', hag1⟩ := hTail l (m := g) h hag0 (by omega)
    exact ⟨rest', by simp [h0', h1'], hag1⟩
  · cases h

theorem simulates_orTail {f : Nat} (hAnd : Simulates T parseAnd f)
    (hTail : ∀ l, Simulates T (orTail · l) f) (l : Expr) : Simulates T (orTail · l) (f + 1) := by
  intro ts ts' e rest m h hag hf
  obtain ⟨g, rfl⟩ : ∃ g, m = g + 1 := ⟨m - 1, by omega⟩
  simp only [orTail, hag.kind_eq_iff hT (k := .orWord) (by decide) (by decide)] at h ⊢
  split at h
  · rename_i hor
    split at h
    · rename_i r0 rest0 h0
      obtain ⟨-, -, hadv⟩ := hag.peek_advance (by rw [hor]; decide)
      obtain ⟨r0', h0', hag0⟩ := hAnd (m := g) h0 hadv (by omega)
      obtain ⟨rest', h1', hag1⟩ := hTail (.or l r0) (m := g) h hag0 (by omega)
      exact ⟨rest', by simp [hor, h0', h1'], hag1⟩
    · cases h
  · rename_i hor
    cases h
    exact ⟨ts', by simp [hor], hag⟩

omit hT in
theorem simulates_parseOr {f : Nat} (hAnd : Simulates T parseAnd f)
    (hTail : ∀ l, Simulates T (orTail · l) f) : Simulates T parseOr (f + 1) := by
  intro ts ts' e rest m h hag hf
  obtain ⟨g, rfl⟩ : ∃ g, m = g + 1 := ⟨m - 1, by omega⟩
  rw [parseOr] at h ⊢
  split at h
  · rename_i l r0 h0
    obtain ⟨r0', h0', hag0⟩ := hAnd (m := g) h0 hag (by omega)
    obtain ⟨rest', h1', hag1⟩ := hTail l (m := g) h hag0 (by omega)
    exact ⟨rest', by simp [h0', h1'], hag1⟩
  · cases h

/-- Every parsing function reads tokens that agree as it reads the text alone. -/
theorem simulates (f : Nat) :
    Simulates T parseOr f ∧ (∀ l, Simulates T (orTail · l) f) ∧ Simulates T parseAnd f ∧
      (∀ l, Simulates T (andTail · l) f) ∧ Simulates T parseNot f ∧
      Simulates T parsePrimary f := by
  induction f with
  | zero =>
    refine ⟨?_, fun l => ?_, ?_, fun l => ?_, ?_, ?_⟩ <;>
      intro ts ts' e rest m h <;> simp [parseOr, orTail, parseAnd, andTail, parseNot, parsePrimary] at h
  | succ f ih =>
    obtain ⟨hOr, hOrT, hAnd, hAndT, hNot, hPrim⟩ := ih
    exact ⟨simulates_parseOr hAnd hOrT, simulates_orTail hT hAnd hOrT,
      simulates_parseAnd hNot hAndT, simulates_andTail hT hNot hAndT,
      simulates_parseNot hT hNot hPrim, simulates_parsePrimary hOr⟩

end Parse

/-! ## The text of a filter -/

theorem parse_eq_ok {text : String} {e : Expr} (h : parse text = .ok e) :
    ∃ ts rest, scan text = .ok ts ∧ parseOr (4 * ts.length + 4) ts = .ok (e, rest) ∧
      (peek rest).kind = .eof := by
  unfold parse at h
  split at h
  · cases h
  · rename_i ts hts
    split at h
    · cases h
    · rename_i e0 rest hpo
      dsimp only at h
      split at h
      · rename_i hend
        cases h
        exact ⟨ts, rest, hts, hpo, hend⟩
      · cases h

theorem scanFrom_close (xs : List Char) (q : Nat) :
    scanFrom (')' :: xs) q = (scanFrom xs (q + 1)).map (⟨.rparen, ")", q⟩ :: ·) := by
  rw [scanFrom.eq_def]
  simp +decide

/-- The separator ` AND (` is read as `AND` and `(`. -/
theorem scanFrom_andOpen (xs : List Char) (q : Nat) :
    scanFrom (" AND (".toList ++ xs) q =
      (scanFrom xs (q + 6)).map (⟨.andWord, "AND", q + 1⟩ :: ⟨.lparen, "(", q + 5⟩ :: ·) := by
  have hand : wordKind "AND" = .andWord := by decide
  change scanFrom (' ' :: 'A' :: 'N' :: 'D' :: ' ' :: '(' :: xs) q = _
  rw [scanFrom.eq_def]
  simp +decide only
  rw [scanFrom.eq_def]
  simp +decide
  rw [scanFrom.eq_def]
  simp +decide
  rw [scanFrom.eq_def]
  simp +decide [hand]
  rw [show q + 1 + 1 + 2 + 1 + 1 = q + 6 by omega, show q + 1 + 1 + 2 + 1 = q + 5 by omega]
  cases scanFrom xs (q + 6) <;> rfl

/-- A predicate's tokens in parentheses, inside a longer text, read as its expression. -/
theorem parseNot_group {ts us R rest : List Token} {e : Expr} {f q q' : Nat}
    (hpo : parseOr (4 * ts.length + 4) ts = .ok (e, rest)) (hrest : (peek rest).kind = .eof)
    (hag : Agree (⟨.rparen, ")", q'⟩ :: R) ts (us ++ ⟨.rparen, ")", q'⟩ :: R))
    (hf : 4 * us.length + 10 ≤ f) :
    parseNot f (⟨.lparen, "(", q⟩ :: (us ++ ⟨.rparen, ")", q'⟩ :: R)) = .ok (e, R) := by
  obtain ⟨g, rfl⟩ : ∃ g, f = g + 2 := ⟨f - 2, by omega⟩
  have hlen := hag.length_eq
  simp only [List.length_append, List.length_cons] at hlen
  have hfuel : 4 * ts.length + 4 ≤ g := by omega
  obtain ⟨rest', hpo', hag'⟩ :=
    (simulates (T := ⟨.rparen, ")", q'⟩ :: R) rfl _).1 hpo hag hfuel
  rw [hag'.eq_tail hrest] at hpo'
  rw [parseNot, parsePrimary]
  simp [peek, advance, hpo']


/-- The predicates after the first, each read as ` AND (source)`, parse as a chain of `AND`s
onto whatever came before. -/
theorem scanFrom_conjuncts {ps : List Predicate} (hps : ∀ p ∈ ps, parse p.source = .ok p.expr)
    (q : Nat) :
    ∃ R, scanFrom (ps.flatMap fun p => " AND (".toList ++ p.source.toList ++ [')']) q = .ok R ∧
      ∀ f l, 4 * R.length ≤ f → ∃ rest,
        andTail f l R = .ok (ps.foldl (fun acc p => .and acc p.expr) l, rest) ∧
          (peek rest).kind = .eof := by
  induction ps generalizing q with
  | nil =>
    refine ⟨[⟨.eof, "", q⟩], by simp [scanFrom], fun f l hf => ⟨[⟨.eof, "", q⟩], ?_, rfl⟩⟩
    obtain ⟨g, rfl⟩ : ∃ g, f = g + 1 := ⟨f - 1, by simp at hf; omega⟩
    simp [andTail, peek]
  | cons p ps ih =>
    obtain ⟨ts, rest, hscan, hpo, hrest⟩ := parse_eq_ok (hps p List.mem_cons_self)
    obtain ⟨R', hR', hchain⟩ := ih (fun p hp => hps p (List.mem_cons_of_mem _ hp))
      (q + 6 + p.source.toList.length + 1)
    obtain ⟨us, hus, hag⟩ := scanFrom_append_close hscan (q := q + 6)
      (by rw [scanFrom_close, hR']; rfl)
    dsimp only at hus hag
    refine ⟨⟨.andWord, "AND", q + 1⟩ :: ⟨.lparen, "(", q + 5⟩ ::
      (us ++ ⟨.rparen, ")", q + 6 + p.source.toList.length⟩ :: R'), ?_, fun f l hf => ?_⟩
    · rw [List.flatMap_cons, List.append_assoc, List.append_assoc, List.singleton_append,
        scanFrom_andOpen, hus]
      rfl
    · simp only [List.length_cons, List.length_append] at hf
      obtain ⟨g, rfl⟩ : ∃ g, f = g + 1 := ⟨f - 1, by omega⟩
      obtain ⟨rest', hrest', hend⟩ := hchain g (.and l p.expr) (by omega)
      refine ⟨rest', ?_, hend⟩
      rw [andTail]
      simp only [peek, advance, List.headD, if_true, if_false, reduceCtorEq]
      rw [parseNot_group hpo hrest hag (by omega)]
      exact hrest'


theorem intercalate_cons_eq {α : Type} (sep x : List α) (xs : List (List α)) :
    sep.intercalate (x :: xs) = x ++ xs.flatMap (sep ++ ·) := by
  induction xs generalizing x with
  | nil => simp
  | cons y ys ih => simp [List.intercalate_cons_cons, ih]

theorem Filter.text_toList (p₀ : Predicate) (ps : List Predicate) :
    (Filter.text ⟨p₀ :: ps⟩).toList = '(' :: (p₀.source.toList ++
      ')' :: ps.flatMap fun p => " AND (".toList ++ p.source.toList ++ [')']) := by
  simp [Filter.text, String.toList_intercalate, intercalate_cons_eq, List.flatMap_map]

theorem scanFrom_open (xs : List Char) (q : Nat) :
    scanFrom ('(' :: xs) q = (scanFrom xs (q + 1)).map (⟨.lparen, "(", q⟩ :: ·) := by
  rw [scanFrom.eq_def]
  simp +decide


/-- The text of a filter of parsed predicates parses as the conjunction of their expressions,
grouped to the left. -/
theorem parse_text {p₀ : Predicate} {ps : List Predicate}
    (hps : ∀ p ∈ p₀ :: ps, parse p.source = .ok p.expr) :
    parse (Filter.text ⟨p₀ :: ps⟩) = .ok (ps.foldl (fun acc p => .and acc p.expr) p₀.expr) := by
  obtain ⟨ts, rest, hscan, hpo, hrest⟩ := parse_eq_ok (hps p₀ List.mem_cons_self)
  obtain ⟨R, hR, hchain⟩ := scanFrom_conjuncts (fun p hp => hps p (List.mem_cons_of_mem _ hp))
    (1 + p₀.source.toList.length + 1)
  obtain ⟨us, hus, hag⟩ := scanFrom_append_close hscan (q := 1)
    (by rw [scanFrom_close, hR]; rfl)
  dsimp only at hus hag
  have htoks : scan (Filter.text ⟨p₀ :: ps⟩) =
      .ok (⟨.lparen, "(", 0⟩ :: (us ++ ⟨.rparen, ")", 1 + p₀.source.toList.length⟩ :: R)) := by
    rw [scan, Filter.text_toList, scanFrom_open, hus]
    rfl
  obtain ⟨rest', hE, hend⟩ := hchain (4 * (us.length + R.length) + 10) p₀.expr (by omega)
  have hfuel : 4 * (⟨.lparen, "(", 0⟩ :: (us ++ ⟨.rparen, ")", 1 + p₀.source.toList.length⟩ :: R)).length + 4 =
      (4 * (us.length + R.length) + 10) + 1 + 1 := by
    simp only [List.length_cons, List.length_append]; omega
  rw [parse, htoks]
  dsimp only
  rw [hfuel, parseOr, parseAnd,
    parseNot_group (f := 4 * (us.length + R.length) + 10) hpo hrest hag (by omega)]
  dsimp only
  rw [hE]
  dsimp only
  rw [orTail]
  simp [hend]


/-! ## Evaluating the conjunction -/

/-- Whether a row lets an expression be decided: every comparison reads a finite operand. -/
def Expr.Decides (row : Row) (e : Expr) : Prop :=
  ∀ c ∈ e.comparisons, ∃ x, operandOf row c = some x ∧ x.finite

namespace Predicate

variable {row : Row}

theorem operands_isSome {cs : List (String × CmpOp × Literal)} {xs : List (String × Operand)}
    (h : operands row cs = .ok xs) : ∀ c ∈ cs, (operandOf row c).isSome := by
  induction cs generalizing xs with
  | nil => simp
  | cons c cs ih =>
    obtain ⟨a, op, lit⟩ := c
    rw [operands] at h
    split at h
    · cases h
    · rename_i v hv
      split at h
      · cases h
      · rename_i x hx
        obtain ⟨xs', h', -⟩ := Except.map_eq_ok h
        intro c hc
        rcases List.mem_cons.mp hc with rfl | hc
        · simp [operandOf, hv, hx]
        · exact ih h' c hc

theorem finite_of_firstInfinite_eq_none {xs : List (String × Operand)}
    (h : firstInfinite xs = none) : ∀ p ∈ xs, p.2.finite := by
  rw [firstInfinite, List.findSome?_eq_none_iff] at h
  rintro ⟨a, x⟩ hp
  have hx := h (a, x) ((foldr_insertByName_perm xs).mem_iff.mpr hp)
  simp only [Operand.finite]
  cases hn : x.number? with
  | none => rfl
  | some r => cases r <;> simp_all

/-- A row that lets the expression be decided is decided by its classical value. -/
theorem check_eq_holds {p : Predicate} (h : p.expr.Decides row) :
    p.check row = .ok (p.expr.holds row) := by
  have hsome : ∀ c ∈ p.expr.comparisons, (operandOf row c).isSome := fun c hc => by
    obtain ⟨x, hx, -⟩ := h c hc
    simp [hx]
  have hfin : ∀ q ∈ p.expr.comparisons.filterMap (fun c => (operandOf row c).map (c.1, ·)),
      q.2.finite := by
    intro q hq
    obtain ⟨c, hc, hcq⟩ := List.mem_filterMap.mp hq
    obtain ⟨x, hx, hxf⟩ := h c hc
    rw [hx, Option.map_some, Option.some.injEq] at hcq
    exact hcq ▸ hxf
  simp only [check, operands_eq_ok hsome, firstInfinite_eq_none hfin]
  exact congrArg Except.ok (Expr.eval_eq_holds p.expr fun c hc => find?_operands hsome hc)

/-- A row passes a predicate exactly when it lets the expression be decided and the classical
value holds; a missing or mistyped attribute, or an infinite number, fails it. -/
theorem evaluate_eq_true_iff {p : Predicate} :
    p.evaluate row = true ↔ p.expr.Decides row ∧ p.expr.holds row = true := by
  constructor
  · intro h
    unfold evaluate check at h
    split at h
    · rename_i r hr
      split at hr
      · cases hr
      · rename_i xs hxs
        split at hr
        · cases hr
        · rename_i hinf
          cases hr
          have hsome := operands_isSome hxs
          rw [operands_eq_ok hsome] at hxs
          cases hxs
          have hfin := finite_of_firstInfinite_eq_none hinf
          refine ⟨fun c hc => ?_, ?_⟩
          · obtain ⟨x, hx⟩ := Option.isSome_iff_exists.mp (hsome c hc)
            exact ⟨x, hx, hfin (c.1, x) (List.mem_filterMap.mpr ⟨c, hc, by simp [hx]⟩)⟩
          · rwa [Expr.eval_eq_holds p.expr fun c hc => find?_operands hsome hc] at h
    · cases h
  · rintro ⟨hd, hh⟩
    simp [evaluate, check_eq_holds hd, hh]

end Predicate

theorem Expr.comparisons_foldl_and (ps : List Predicate) (e : Expr) :
    (ps.foldl (fun acc p => .and acc p.expr) e).comparisons =
      e.comparisons ++ ps.flatMap (·.expr.comparisons) := by
  induction ps generalizing e with
  | nil => simp
  | cons p ps ih => simp [ih, comparisons]

theorem Expr.holds_foldl_and (row : Row) (ps : List Predicate) (e : Expr) :
    (ps.foldl (fun acc p => .and acc p.expr) e).holds row =
      (e.holds row && ps.all (·.expr.holds row)) := by
  induction ps generalizing e with
  | nil => simp
  | cons p ps ih => simp [ih, holds, Bool.and_assoc]


/-- Evaluating the conjunction of parsed predicates is evaluating each. -/
theorem evaluate_conjunction (row : Row) (text : String) (p₀ : Predicate) (ps : List Predicate) :
    (Predicate.mk text (ps.foldl (fun acc p => .and acc p.expr) p₀.expr)).evaluate row =
      (Filter.mk (p₀ :: ps)).evaluate row := by
  apply Bool.eq_iff_iff.mpr
  simp only [Predicate.evaluate_eq_true_iff, Filter.evaluate, List.all_eq_true, List.mem_cons,
    forall_eq_or_imp, Expr.holds_foldl_and, Bool.and_eq_true, Expr.Decides,
    Expr.comparisons_foldl_and, List.mem_append, List.mem_flatMap]
  constructor
  · rintro ⟨hd, hh₀, hh⟩
    exact ⟨⟨fun c hc => hd c (.inl hc), hh₀⟩, fun p hp =>
      ⟨fun c hc => hd c (.inr ⟨p, hp, hc⟩), hh p hp⟩⟩
  · rintro ⟨⟨hd₀, hh₀⟩, hps⟩
    refine ⟨fun c hc => ?_, hh₀, fun p hp => (hps p hp).2⟩
    rcases hc with hc | ⟨p, hp, hc⟩
    · exact hd₀ c hc
    · exact (hps p hp).1 c hc

theorem mapM_compile {texts : List String} {ps : List Predicate}
    (h : texts.mapM (fun t => (Predicate.compile t).mapError (t, ·)) = .ok ps) :
    ps.map (·.source) = texts ∧ ∀ p ∈ ps, parse p.source = .ok p.expr := by
  induction texts generalizing ps with
  | nil => cases h; simp
  | cons t texts ih =>
    rw [List.mapM_cons] at h
    obtain ⟨p, hp, h⟩ := Except.bind_eq_ok h
    obtain ⟨ps', hps', h⟩ := Except.bind_eq_ok h
    cases h
    obtain ⟨hsrc, hparse⟩ := ih hps'
    rw [Predicate.compile] at hp
    cases hc : parse t with
    | error e => rw [hc] at hp; cases hp
    | ok e =>
      rw [hc] at hp
      cases hp
      exact ⟨by simp [hsrc], by simpa [hc] using hparse⟩


/-- The text of a filter compiled from non-empty sources is `(s₁) AND … AND (sₖ)`; it compiles,
to the left-grouped conjunction of the predicates' expressions, and the predicate it compiles to
passes exactly the rows the filter passes, rows with missing, mistyped or infinite attributes
included. -/
theorem Filter.compile_text {texts : List String} {f : Filter} (hne : texts ≠ [])
    (hf : Filter.compile texts = .ok f) :
    f.text = " AND ".intercalate (texts.map fun s => "(" ++ s ++ ")") ∧
      ∃ p, Predicate.compile f.text = .ok p ∧ ∀ row, p.evaluate row = f.evaluate row := by
  unfold Filter.compile at hf
  split at hf
  · rename_i ps hps
    cases hf
    obtain ⟨hsrc, hparse⟩ := mapM_compile hps
    subst hsrc
    obtain ⟨p₀, ps, rfl⟩ := List.exists_cons_of_ne_nil (by simpa using hne)
    refine ⟨by rw [Filter.text, List.map_map]; rfl,
      ⟨Filter.text ⟨p₀ :: ps⟩, ps.foldl (fun acc p => .and acc p.expr) p₀.expr⟩, ?_,
      fun row => evaluate_conjunction row _ p₀ ps⟩
    simp [Predicate.compile, parse_text hparse, Except.map]
  · cases hf


/-- Two predicates compile to a filter whose text compiles to a predicate that passes the same
rows. -/
theorem Filter.compile_text_sample :
    Filter.compile ["x == 1", "y = \"a\""] =
        .ok ⟨[⟨"x == 1", .cmp "x" .eq (.int 1)⟩, ⟨"y = \"a\"", .cmp "y" .eq (.str "a")⟩]⟩ ∧
      (Filter.mk [⟨"x == 1", .cmp "x" .eq (.int 1)⟩, ⟨"y = \"a\"", .cmp "y" .eq (.str "a")⟩]).text =
          " AND ".intercalate (["x == 1", "y = \"a\""].map fun s => "(" ++ s ++ ")") ∧
        ∃ p, Predicate.compile
            (Filter.mk [⟨"x == 1", .cmp "x" .eq (.int 1)⟩, ⟨"y = \"a\"", .cmp "y" .eq (.str "a")⟩]).text =
              .ok p ∧ ∀ row, p.evaluate row =
            (Filter.mk [⟨"x == 1", .cmp "x" .eq (.int 1)⟩, ⟨"y = \"a\"", .cmp "y" .eq (.str "a")⟩]).evaluate row := by
  have h : Filter.compile ["x == 1", "y = \"a\""] =
      .ok ⟨[⟨"x == 1", .cmp "x" .eq (.int 1)⟩, ⟨"y = \"a\"", .cmp "y" .eq (.str "a")⟩]⟩ := by
    decide +kernel
  exact ⟨h, Filter.compile_text (by simp) h⟩

/-! ## Selecting rows

Applying a filter, present or absent, keeps the rows it passes, in their order; a filter without
predicates, and no filter, keep every row by a shortcut, which `visibleRows_eq_filter` shows to
agree with the selection. The laws below follow from that one equation. -/

theorem visibleRows_idem (f : Option Filter) (rows : List Row) :
    visibleRows f (visibleRows f rows) = visibleRows f rows := by
  simp only [visibleRows_eq_filter, List.filter_filter, Bool.and_self]

theorem visibleRows_append (f : Option Filter) (xs ys : List Row) :
    visibleRows f (xs ++ ys) = visibleRows f xs ++ visibleRows f ys := by
  simp only [visibleRows_eq_filter, List.filter_append]

/-- A filter made of the predicates of two filters passes a row when both do. -/
theorem Filter.evaluate_append (f g : Filter) (row : Row) :
    (Filter.mk (f.predicates ++ g.predicates)).evaluate row = (f.evaluate row && g.evaluate row) := by
  simp [Filter.evaluate, List.all_append]

/-- Applying a filter, absent, without predicates or with some, to any rows keeps exactly the
rows the filter passes, in their order and as they are. So applying it twice keeps what applying
it once does, it distributes over concatenation, and no filter or an empty one keeps every row;
and the filter made of two filters' predicates passes what both pass. -/
theorem visibleRows_selects (f : Option Filter) (xs ys : List Row) :
    visibleRows f xs = xs.filter (passes f) ∧
      visibleRows f (visibleRows f xs) = visibleRows f xs ∧
      visibleRows f (xs ++ ys) = visibleRows f xs ++ visibleRows f ys ∧
      visibleRows none xs = xs ∧ visibleRows (some ⟨[]⟩) xs = xs ∧
      ∀ (g h : Filter) (row : Row),
        (Filter.mk (g.predicates ++ h.predicates)).evaluate row = (g.evaluate row && h.evaluate row) :=
  ⟨visibleRows_eq_filter f xs, visibleRows_idem f xs, visibleRows_append f xs ys, rfl, rfl,
    Filter.evaluate_append⟩

end RowFilter
end AccessPolicy
