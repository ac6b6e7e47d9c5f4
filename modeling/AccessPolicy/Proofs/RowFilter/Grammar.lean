import AccessPolicy.Proofs.RowFilter.Conjunction
/-!
# The grammar of row filters

The parser is a recursive descent over the tokens of `scan`. This module states the grammar it
reads as an inductive relation, `Derives`, and shows that parsing accepts exactly the texts
whose tokens before the end token form an `or` phrase, that it returns the tree of that
phrase, and that it never runs out of fuel (`parse_accepts_grammar`).

Each parsing function reads one phrase, so one induction on the fuel gives soundness for all
of them (`parser_sound`), and one induction on derivations gives completeness
(`Derives.parser`), given that the next token cannot continue the phrase (`Phrase.Follows`). A
phrase of `n` tokens needs fuel `4 * n` and a little more (`Phrase.fuel`); every call either
reads a token or descends one level, so that much fuel never runs out on any tokens
(`parser_ne_exhausted`). The parser is deterministic, so a phrase has one tree at most
(`Derives.unique`).
-/

namespace AccessPolicy.RowFilter

/-- The phrases of the grammar. `orRest l` is the part `(OR and)*` after a first operand `l`,
onto which it joins each further operand from the left; `andRest l` is `(AND not)*`. -/
inductive Phrase where
  | or
  | orRest (l : Expr)
  | and
  | andRest (l : Expr)
  | not
  | primary

/-- The literal a token stands for after an operator: an integer whose text reads as a 64-bit
integer, a string, or a boolean after an operator that does not order. -/
inductive LiteralToken (op : CmpOp) : Token → Literal → Prop where
  | int {t : Token} {n : Int} : t.kind = .integer → readInt64? t.text = some n →
      LiteralToken op t (.int n)
  | str {t : Token} : t.kind = .string → LiteralToken op t (.str t.text)
  | trueWord {t : Token} : t.kind = .trueWord → op.ordering = false →
      LiteralToken op t (.bool true)
  | falseWord {t : Token} : t.kind = .falseWord → op.ordering = false →
      LiteralToken op t (.bool false)

/-- `Derives p ts e`: the tokens `ts` form the phrase `p`, with tree `e`.

```
or      := and (OR and)*
and     := not (AND not)*
not     := NOT not | primary
primary := "(" or ")" | attribute operator literal
```
-/
inductive Derives : Phrase → List Token → Expr → Prop where
  | or {ts us : List Token} {l e : Expr} :
      Derives .and ts l → Derives (.orRest l) us e → Derives .or (ts ++ us) e
  | orEnd {l : Expr} : Derives (.orRest l) [] l
  | orMore {t : Token} {ts us : List Token} {l r e : Expr} : t.kind = .orWord →
      Derives .and ts r → Derives (.orRest (.or l r)) us e → Derives (.orRest l) (t :: (ts ++ us)) e
  | and {ts us : List Token} {l e : Expr} :
      Derives .not ts l → Derives (.andRest l) us e → Derives .and (ts ++ us) e
  | andEnd {l : Expr} : Derives (.andRest l) [] l
  | andMore {t : Token} {ts us : List Token} {l r e : Expr} : t.kind = .andWord →
      Derives .not ts r → Derives (.andRest (.and l r)) us e →
      Derives (.andRest l) (t :: (ts ++ us)) e
  | not {t : Token} {ts : List Token} {e : Expr} : t.kind = .notWord → Derives .not ts e →
      Derives .not (t :: ts) (.not e)
  | primary {ts : List Token} {e : Expr} : Derives .primary ts e → Derives .not ts e
  | group {o c : Token} {ts : List Token} {e : Expr} : o.kind = .lparen → Derives .or ts e →
      c.kind = .rparen → Derives .primary (o :: (ts ++ [c])) e
  | cmp {a o t : Token} {op : CmpOp} {lit : Literal} : a.kind = .attribute → o.kind = .op →
      CmpOp.ofSymbol? o.text = some op → LiteralToken op t lit →
      Derives .primary [a, o, t] (.cmp a.text op lit)

namespace Phrase

/-- The function that parses a phrase. -/
def parser : Phrase → Nat → List Token → Except ParseError (Expr × List Token)
  | .or => parseOr
  | .orRest l => fun f ts => orTail f l ts
  | .and => parseAnd
  | .andRest l => fun f ts => andTail f l ts
  | .not => parseNot
  | .primary => parsePrimary

/-- The fuel that parsing a phrase from `n` tokens needs: each level of the descent takes one
step, and a token read takes four. -/
def fuel : Phrase → Nat → Nat
  | .primary, n => 4 * n + 1
  | .not, n | .andRest _, n => 4 * n + 2
  | .and, n | .orRest _, n => 4 * n + 3
  | .or, n => 4 * n + 4

/-- The kinds of token that may follow a phrase: an `AND` would continue an `and` phrase, and
an `OR` or an `AND` an `or` phrase. -/
def Follows : Phrase → TokenKind → Prop
  | .or, k | .orRest _, k => k ≠ .orWord ∧ k ≠ .andWord
  | .and, k | .andRest _, k => k ≠ .andWord
  | .not, _ | .primary, _ => True

theorem follows_eof (p : Phrase) : p.Follows .eof := by
  cases p <;> simp [Follows]

theorem one_le_fuel (p : Phrase) (n : Nat) : 1 ≤ p.fuel n := by
  cases p <;> simp [fuel]

/-- Fuel that covers a phrase allows at least one call. -/
theorem exists_eq_succ_of_fuel_le {p : Phrase} {n f : Nat} (hf : p.fuel n ≤ f) :
    ∃ g, f = g + 1 :=
  Nat.exists_eq_add_one_of_ne_zero (by have := p.one_le_fuel n; omega)

end Phrase

/-! ## Tokens -/

@[simp] theorem peek_cons (t : Token) (ts : List Token) : peek (t :: ts) = t := rfl

theorem advance_cons {t : Token} (ts : List Token) (h : t.kind ≠ .eof) :
    advance (t :: ts) = ts := by
  simp [advance, h]

/-- Tokens whose next one is not the end start with it. -/
theorem eq_cons_of_peek {ts : List Token} (h : (peek ts).kind ≠ .eof) :
    ∃ us, ts = peek ts :: us ∧ advance ts = us := by
  cases ts with
  | nil => exact absurd rfl h
  | cons t us => exact ⟨us, rfl, advance_cons us h⟩

theorem literalOf_eq_ok_iff {a o t : Token} {op : CmpOp} {lit : Literal} :
    literalOf a o op t = .ok lit ↔ LiteralToken op t lit := by
  constructor
  · intro h
    cases hk : t.kind <;> cases hr : readInt64? t.text <;> cases ho : op.ordering <;>
      simp [literalOf, hk, hr, ho] at h <;> subst h
    all_goals first
      | exact .int hk hr | exact .str hk | exact .trueWord hk ho | exact .falseWord hk ho
  · rintro (⟨hk, hr⟩ | hk | ⟨hk, ho⟩ | ⟨hk, ho⟩) <;> simp [literalOf, *]

theorem LiteralToken.kind_ne_eof {op : CmpOp} {t : Token} {lit : Literal}
    (h : LiteralToken op t lit) : t.kind ≠ .eof := by
  cases h <;> simp [*]

/-- A phrase holds no end token. -/
theorem Derives.kind_ne_eof {p : Phrase} {ts : List Token} {e : Expr} (h : Derives p ts e) :
    ∀ t ∈ ts, t.kind ≠ .eof := by
  induction h with
  | cmp ha ho _ hl => simp_all [hl.kind_ne_eof]
  | _ => grind

/-- Tokens that agree with others end in their one end token. -/
theorem Agree.ends {T ts ts' : List Token} (h : Agree T ts ts') :
    ∃ us t, ts = us ++ [t] ∧ t.kind = .eof ∧ ∀ u ∈ us, u.kind ≠ .eof := by
  induction h with
  | eof hk => exact ⟨[], _, rfl, hk, by simp⟩
  | cons _ _ hne _ ih =>
    obtain ⟨us, t, rfl, ht, hus⟩ := ih
    exact ⟨_ :: us, t, rfl, ht, by simp_all⟩

/-- The tokens of a scan end in the end token, which occurs nowhere else: they agree with the
tokens of the text read before a `)`. -/
theorem scan_ends {text : String} {toks : List Token} (h : scan text = .ok toks) :
    ∃ ts t, toks = ts ++ [t] ∧ t.kind = .eof ∧ ∀ u ∈ ts, u.kind ≠ .eof := by
  have hclose : scanFrom [')'] (0 + text.toList.length) =
      .ok [⟨.rparen, ")", 0 + text.toList.length⟩, ⟨.eof, "", 0 + text.toList.length + 1⟩] := by
    rw [scanFrom_close]
    simp [scanFrom, Except.map]
  obtain ⟨_, -, hag⟩ := scanFrom_append_close h hclose
  exact hag.ends

/-! ## Soundness -/

/-- What a parsing function reads is a phrase: the tokens it takes derive the tree it gives. -/
theorem parser_sound (f : Nat) : ∀ {p : Phrase} {ts rest : List Token} {e : Expr},
    p.parser f ts = .ok (e, rest) → ∃ pre, ts = pre ++ rest ∧ Derives p pre e := by
  induction f with
  | zero =>
    intro p ts rest e h
    cases p <;>
      simp [Phrase.parser, parseOr, orTail, parseAnd, andTail, parseNot, parsePrimary] at h
  | succ f ih =>
    intro p ts rest e h
    cases p with
    | or =>
      simp only [Phrase.parser, parseOr] at h
      split at h
      · rename_i l r0 h0
        obtain ⟨pre, rfl, hl⟩ := ih (p := .and) h0
        obtain ⟨pre', rfl, he⟩ := ih (p := .orRest l) h
        exact ⟨pre ++ pre', by simp, .or hl he⟩
      · cases h
    | orRest l =>
      simp only [Phrase.parser, orTail] at h
      split at h
      · rename_i hor
        split at h
        · rename_i r r0 h0
          obtain ⟨us, hts, hadv⟩ := @eq_cons_of_peek ts (by rw [hor]; decide)
          obtain ⟨pre, rfl, hr⟩ := ih (p := .and) (hadv ▸ h0)
          obtain ⟨pre', rfl, he⟩ := ih (p := .orRest (.or l r)) h
          exact ⟨peek ts :: (pre ++ pre'), by rw [hts]; simp, .orMore hor hr he⟩
        · cases h
      · cases h
        exact ⟨[], rfl, .orEnd⟩
    | and =>
      simp only [Phrase.parser, parseAnd] at h
      split at h
      · rename_i l r0 h0
        obtain ⟨pre, rfl, hl⟩ := ih (p := .not) h0
        obtain ⟨pre', rfl, he⟩ := ih (p := .andRest l) h
        exact ⟨pre ++ pre', by simp, .and hl he⟩
      · cases h
    | andRest l =>
      simp only [Phrase.parser, andTail] at h
      split at h
      · rename_i hand
        split at h
        · rename_i r r0 h0
          obtain ⟨us, hts, hadv⟩ := @eq_cons_of_peek ts (by rw [hand]; decide)
          obtain ⟨pre, rfl, hr⟩ := ih (p := .not) (hadv ▸ h0)
          obtain ⟨pre', rfl, he⟩ := ih (p := .andRest (.and l r)) h
          exact ⟨peek ts :: (pre ++ pre'), by rw [hts]; simp, .andMore hand hr he⟩
        · cases h
      · cases h
        exact ⟨[], rfl, .andEnd⟩
    | not =>
      simp only [Phrase.parser, parseNot] at h
      split at h
      · rename_i hnot
        obtain ⟨⟨e0, r0⟩, h0, hpair⟩ := Except.map_eq_ok h
        cases hpair
        obtain ⟨us, hts, hadv⟩ := @eq_cons_of_peek ts (by rw [hnot]; decide)
        obtain ⟨pre, rfl, he⟩ := ih (p := .not) (hadv ▸ h0)
        exact ⟨peek ts :: pre, by rw [hts]; simp, .not hnot he⟩
      · obtain ⟨pre, rfl, he⟩ := ih (p := .primary) h
        exact ⟨pre, rfl, .primary he⟩
    | primary =>
      simp only [Phrase.parser, parsePrimary] at h
      split at h
      · -- a group: the phrase inside, then its `)`
        rename_i hk
        obtain ⟨us, hts, hadv⟩ := @eq_cons_of_peek ts (by rw [hk]; decide)
        rw [hadv] at h
        split at h
        · rename_i e0 r0 h0
          split at h
          · rename_i hc
            cases h
            obtain ⟨vs, hr0, -⟩ := @eq_cons_of_peek r0 (by rw [hc]; decide)
            obtain ⟨pre, rfl, he⟩ := ih (p := .or) h0
            refine ⟨peek ts :: (pre ++ [peek r0]), ?_, .group hk he hc⟩
            rw [hts, hr0]
            simp [advance_cons vs (show (peek r0).kind ≠ .eof by rw [hc]; decide)]
          · cases h
        · cases h
      · -- a comparison: attribute, operator and literal
        rename_i hk
        obtain ⟨us, hts, hadv⟩ := @eq_cons_of_peek ts (by rw [hk]; decide)
        rw [hadv] at h
        split at h
        · rename_i op hop hkop
          obtain ⟨lit, hlit, hpair⟩ := Except.map_eq_ok h
          cases hpair
          obtain ⟨vs, hus, hadv'⟩ := @eq_cons_of_peek us (by rw [hkop]; decide)
          rw [hadv'] at hlit ⊢
          have hl := literalOf_eq_ok_iff.mp hlit
          obtain ⟨ws, hvs, hadv''⟩ := @eq_cons_of_peek vs hl.kind_ne_eof
          refine ⟨[peek ts, peek us, peek vs], ?_, .cmp hk hkop hop hl⟩
          rw [hadv'', hts, hus, hvs]
          simp
        · cases h
      · cases h

/-! ## Completeness -/

/-- An `and` phrase stops before the repeated part of an `or` phrase: at the `OR` that starts
it, or, where that part is empty, at a token that continues neither phrase. -/
theorem Derives.and_follows_orRest {l e : Expr} {us rest : List Token}
    (h : Derives (.orRest l) us e) (hr : (peek rest).kind ≠ .andWord) :
    Phrase.and.Follows (peek (us ++ rest)).kind := by
  cases h with
  | orEnd => exact hr
  | orMore hor _ _ => simp [Phrase.Follows, hor]

/-- Each parsing function reads a phrase followed by a token that cannot continue it, given the
fuel the phrase needs. -/
theorem Derives.parser {p : Phrase} {ts : List Token} {e : Expr} (h : Derives p ts e)
    {rest : List Token} (hr : p.Follows (peek rest).kind) {f : Nat} (hf : p.fuel ts.length ≤ f) :
    p.parser f (ts ++ rest) = .ok (e, rest) := by
  induction h generalizing rest f with
  | @or ts us l e _ hus ihl ihus =>
    obtain ⟨g, rfl⟩ := Phrase.exists_eq_succ_of_fuel_le hf
    simp only [Phrase.fuel, List.length_append] at hf
    have hl : parseAnd g (ts ++ (us ++ rest)) = .ok (l, us ++ rest) :=
      ihl (hus.and_follows_orRest hr.2) (by simp [Phrase.fuel]; omega)
    simp only [Phrase.parser, parseOr, List.append_assoc, hl]
    exact ihus hr (by simp [Phrase.fuel]; omega)
  | orEnd =>
    obtain ⟨g, rfl⟩ := Phrase.exists_eq_succ_of_fuel_le hf
    simp [Phrase.parser, orTail, hr.1]
  | @orMore t ts us l r e hor _ hus ihr ihus =>
    obtain ⟨g, rfl⟩ := Phrase.exists_eq_succ_of_fuel_le hf
    simp only [Phrase.fuel, List.length_cons, List.length_append] at hf
    have hr' : parseAnd g (ts ++ (us ++ rest)) = .ok (r, us ++ rest) :=
      ihr (hus.and_follows_orRest hr.2) (by simp [Phrase.fuel]; omega)
    simp only [Phrase.parser, orTail, List.cons_append, peek_cons, hor, if_true,
      advance_cons _ (show t.kind ≠ .eof by rw [hor]; decide), List.append_assoc, hr']
    exact ihus hr (by simp [Phrase.fuel]; omega)
  | @and ts us l e _ hus ihl ihus =>
    obtain ⟨g, rfl⟩ := Phrase.exists_eq_succ_of_fuel_le hf
    simp only [Phrase.fuel, List.length_append] at hf
    have hl : parseNot g (ts ++ (us ++ rest)) = .ok (l, us ++ rest) :=
      ihl trivial (by simp [Phrase.fuel]; omega)
    simp only [Phrase.parser, parseAnd, List.append_assoc, hl]
    exact ihus hr (by simp [Phrase.fuel]; omega)
  | andEnd =>
    obtain ⟨g, rfl⟩ := Phrase.exists_eq_succ_of_fuel_le hf
    simp [Phrase.parser, andTail, show (peek rest).kind ≠ .andWord from hr]
  | @andMore t ts us l r e hand _ hus ihr ihus =>
    obtain ⟨g, rfl⟩ := Phrase.exists_eq_succ_of_fuel_le hf
    simp only [Phrase.fuel, List.length_cons, List.length_append] at hf
    have hr' : parseNot g (ts ++ (us ++ rest)) = .ok (r, us ++ rest) :=
      ihr trivial (by simp [Phrase.fuel]; omega)
    simp only [Phrase.parser, andTail, List.cons_append, peek_cons, hand, if_true,
      advance_cons _ (show t.kind ≠ .eof by rw [hand]; decide), List.append_assoc, hr']
    exact ihus hr (by simp [Phrase.fuel]; omega)
  | @not t ts e hnot _ ih =>
    obtain ⟨g, rfl⟩ := Phrase.exists_eq_succ_of_fuel_le hf
    simp only [Phrase.fuel, List.length_cons] at hf
    have he : parseNot g (ts ++ rest) = .ok (e, rest) := ih trivial (by simp [Phrase.fuel]; omega)
    simp [Phrase.parser, parseNot, hnot, advance_cons _ (show t.kind ≠ .eof by rw [hnot]; decide),
      he, Except.map]
  | @primary ts e hp ih =>
    obtain ⟨g, rfl⟩ := Phrase.exists_eq_succ_of_fuel_le hf
    simp only [Phrase.fuel] at hf
    have he : parsePrimary g (ts ++ rest) = .ok (e, rest) := ih trivial (by simp [Phrase.fuel]; omega)
    -- a primary phrase starts with `(` or an attribute, never with `NOT`
    have hfirst : (peek (ts ++ rest)).kind ≠ .notWord := by
      cases hp with
      | group ho _ _ => simp [ho]
      | cmp ha _ _ _ => simp [ha]
    simp [Phrase.parser, parseNot, hfirst, he]
  | @group o c ts e ho _ hc ih =>
    obtain ⟨g, rfl⟩ := Phrase.exists_eq_succ_of_fuel_le hf
    simp only [Phrase.fuel, List.length_cons, List.length_append] at hf
    have he : parseOr g (ts ++ (c :: rest)) = .ok (e, c :: rest) :=
      ih (by simp [Phrase.Follows, hc]) (by simp [Phrase.fuel]; omega)
    simp [Phrase.parser, parsePrimary, ho, advance_cons _ (show o.kind ≠ .eof by rw [ho]; decide),
      he, hc, advance_cons _ (show c.kind ≠ .eof by rw [hc]; decide)]
  | @cmp a o t op lit ha ho hop hl =>
    obtain ⟨g, rfl⟩ := Phrase.exists_eq_succ_of_fuel_le hf
    simp [Phrase.parser, parsePrimary, ha, ho, hop, advance_cons _ (show a.kind ≠ .eof by rw [ha]; decide),
      advance_cons _ (show o.kind ≠ .eof by rw [ho]; decide), advance_cons _ hl.kind_ne_eof,
      literalOf_eq_ok_iff.mpr hl, Except.map]

/-- The grammar is unambiguous: the parser reads any phrase to its one tree. -/
theorem Derives.unique {p : Phrase} {ts : List Token} {e₁ e₂ : Expr} (h₁ : Derives p ts e₁)
    (h₂ : Derives p ts e₂) : e₁ = e₂ := by
  have hend : p.Follows (peek [⟨.eof, "", 0⟩]).kind := p.follows_eof
  have hr₁ := h₁.parser hend (Nat.le_refl _)
  rw [h₂.parser hend (Nat.le_refl _)] at hr₁
  cases hr₁
  rfl

/-! ## Fuel -/

theorem literalOf_ne_exhausted (a o t : Token) (op : CmpOp) :
    literalOf a o op t ≠ .error .exhausted := by
  cases hk : t.kind <;> cases hr : readInt64? t.text <;> cases ho : op.ordering <;>
    simp [literalOf, hk, hr, ho]

/-- With the fuel its phrase would need for all the tokens left, no parsing function runs out:
each call reads a token or goes down one level, and what is left after a phrase is a part of
what was there before it. -/
theorem parser_ne_exhausted (f : Nat) : ∀ {p : Phrase} {ts : List Token},
    p.fuel ts.length ≤ f → p.parser f ts ≠ .error .exhausted := by
  induction f with
  | zero =>
    intro p ts hf
    have := p.one_le_fuel ts.length
    omega
  | succ f ih =>
    intro p ts hf
    cases p with
    | or =>
      simp only [Phrase.fuel] at hf
      simp only [Phrase.parser, parseOr]
      split
      · rename_i l r0 h0
        obtain ⟨pre, rfl, -⟩ := parser_sound f (p := .and) h0
        exact ih (p := .orRest l) (by simp [Phrase.fuel] at hf ⊢; omega)
      · rename_i h0
        rintro ⟨⟩
        exact ih (p := .and) (by simp [Phrase.fuel]; omega) h0
    | orRest l =>
      simp only [Phrase.fuel] at hf
      simp only [Phrase.parser, orTail]
      split
      · rename_i hor
        obtain ⟨us, hts, hadv⟩ := @eq_cons_of_peek ts (by rw [hor]; decide)
        have hlen : ts.length = us.length + 1 := by rw [hts]; rfl
        rw [hadv]
        split
        · rename_i r r0 h0
          obtain ⟨pre, rfl, -⟩ := parser_sound f (p := .and) h0
          exact ih (p := .orRest (.or l r)) (by simp [Phrase.fuel] at hlen ⊢; omega)
        · rename_i h0
          rintro ⟨⟩
          exact ih (p := .and) (by simp [Phrase.fuel]; omega) h0
      · simp
    | and =>
      simp only [Phrase.fuel] at hf
      simp only [Phrase.parser, parseAnd]
      split
      · rename_i l r0 h0
        obtain ⟨pre, rfl, -⟩ := parser_sound f (p := .not) h0
        exact ih (p := .andRest l) (by simp [Phrase.fuel] at hf ⊢; omega)
      · rename_i h0
        rintro ⟨⟩
        exact ih (p := .not) (by simp [Phrase.fuel]; omega) h0
    | andRest l =>
      simp only [Phrase.fuel] at hf
      simp only [Phrase.parser, andTail]
      split
      · rename_i hand
        obtain ⟨us, hts, hadv⟩ := @eq_cons_of_peek ts (by rw [hand]; decide)
        have hlen : ts.length = us.length + 1 := by rw [hts]; rfl
        rw [hadv]
        split
        · rename_i r r0 h0
          obtain ⟨pre, rfl, -⟩ := parser_sound f (p := .not) h0
          exact ih (p := .andRest (.and l r)) (by simp [Phrase.fuel] at hlen ⊢; omega)
        · rename_i h0
          rintro ⟨⟩
          exact ih (p := .not) (by simp [Phrase.fuel]; omega) h0
      · simp
    | not =>
      simp only [Phrase.fuel] at hf
      simp only [Phrase.parser, parseNot]
      split
      · rename_i hnot
        obtain ⟨us, hts, hadv⟩ := @eq_cons_of_peek ts (by rw [hnot]; decide)
        have hlen : ts.length = us.length + 1 := by rw [hts]; rfl
        rw [hadv]
        cases h0 : parseNot f us with
        | ok r => simp [Except.map]
        | error e =>
          rintro ⟨⟩
          exact ih (p := .not) (by simp [Phrase.fuel]; omega) h0
      · exact ih (p := .primary) (by simp [Phrase.fuel]; omega)
    | primary =>
      simp only [Phrase.fuel] at hf
      simp only [Phrase.parser, parsePrimary]
      split
      · rename_i hk
        obtain ⟨us, hts, hadv⟩ := @eq_cons_of_peek ts (by rw [hk]; decide)
        have hlen : ts.length = us.length + 1 := by rw [hts]; rfl
        rw [hadv]
        split
        · split <;> simp
        · rename_i h0
          rintro ⟨⟩
          exact ih (p := .or) (by simp [Phrase.fuel]; omega) h0
      · split
        · cases hl : literalOf (peek ts) (peek (advance ts)) _ (peek (advance (advance ts))) with
          | ok lit => simp [Except.map]
          | error e =>
            rintro ⟨⟩
            exact literalOf_ne_exhausted _ _ _ _ hl
        · simp
      · simp

/-! ## Parsing a text -/

/-- The tokens before the first end token. -/
theorem takeWhile_ne_eof {xs ys : List Token} (hx : ∀ u ∈ xs, u.kind ≠ .eof)
    (hy : (peek ys).kind = .eof) : (xs ++ ys).takeWhile (·.kind != .eof) = xs := by
  induction xs with
  | nil => cases ys <;> simp_all
  | cons x xs ih => simp_all

/-- A parsed text scans to tokens whose part before the end token derives the tree. -/
theorem parse_derives {text : String} {e : Expr} (h : parse text = .ok e) :
    ∃ ts t, scan text = .ok (ts ++ [t]) ∧ t.kind = .eof ∧ Derives .or ts e := by
  obtain ⟨toks, rest, hscan, hpo, hrest⟩ := parse_eq_ok h
  obtain ⟨ts, t, rfl, ht, hts⟩ := scan_ends hscan
  have hpo : Phrase.or.parser (4 * (ts ++ [t]).length + 4) (ts ++ [t]) = .ok (e, rest) := hpo
  obtain ⟨pre, hsplit, hd⟩ := parser_sound _ hpo
  -- both splits are the tokens before the first end token
  have hpre : pre = ts := by
    rw [← takeWhile_ne_eof hd.kind_ne_eof hrest, ← hsplit,
      takeWhile_ne_eof hts (show (peek [t]).kind = .eof from ht)]
  exact ⟨ts, t, hscan, ht, hpre ▸ hd⟩

/-- A text whose tokens before the end token derive a tree parses to it. -/
theorem parse_of_derives {text : String} {ts : List Token} {t : Token} {e : Expr}
    (hscan : scan text = .ok (ts ++ [t])) (ht : t.kind = .eof) (hd : Derives .or ts e) :
    parse text = .ok e := by
  have hf : Phrase.or.Follows (peek [t]).kind := by simpa [ht] using Phrase.follows_eof .or
  have hpo := hd.parser hf (f := 4 * (ts ++ [t]).length + 4)
    (by simp only [Phrase.fuel, List.length_append, List.length_singleton]; omega)
  simp only [Phrase.parser, List.length_append, List.length_singleton] at hpo
  simp [parse, hscan, hpo, ht]

/-- Parsing accepts exactly the texts that scan to an `or` phrase followed by the end token,
returns the phrase's tree, which is its only one, and never runs out of fuel. -/
theorem parse_accepts_grammar (text : String) :
    (∀ e, parse text = .ok e ↔
      ∃ ts t, scan text = .ok (ts ++ [t]) ∧ t.kind = .eof ∧ Derives .or ts e) ∧
    (∀ ts e₁ e₂, Derives .or ts e₁ → Derives .or ts e₂ → e₁ = e₂) ∧
    parse text ≠ .error .exhausted := by
  refine ⟨fun e => ⟨parse_derives, fun ⟨ts, t, hscan, ht, hd⟩ => parse_of_derives hscan ht hd⟩,
    fun _ _ _ h₁ h₂ => h₁.unique h₂, ?_⟩
  cases hscan : scan text with
  | error e => simp [parse, hscan]
  | ok toks =>
    have hne := parser_ne_exhausted _
      (show Phrase.or.fuel toks.length ≤ 4 * toks.length + 4 from Nat.le_refl _)
    simp only [Phrase.parser] at hne
    simp only [parse, hscan]
    split
    · rename_i h0
      rintro ⟨⟩
      exact hne h0
    · split <;> simp

end AccessPolicy.RowFilter
