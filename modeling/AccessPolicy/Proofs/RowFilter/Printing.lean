import AccessPolicy.Proofs.RowFilter.Grammar
import Mathlib.Algebra.Group.Nat.Defs
/-!
# Printing a parsed expression

An expression prints with every `AND` and `OR` in parentheses, `NOT x` for a negation, `==` for
equality, integers in decimal and strings quoted by `Quote.string`. Printing a tree that parsing
returned and parsing the text again gives the same tree when every string literal holds
printable characters only, none of them the marker of a raw byte (`parse_render`): quoting writes such a character as itself, or after
a backslash when it is the quote or a backslash, and the scanner reads a backslash as "the next
character as it is". Quoting writes any other character as an escape whose letter the scanner
keeps in its place, so a newline prints as `\n` and comes back as `n`
(`parse_render_newline`).

The printed text is read piece by piece. A word, an operator, a literal, a blank or a
parenthesis scans to its token whatever follows, as long as the next character is a blank, a
`)` or the end (`EndsToken`); so the printed text scans to tokens that derive the tree as a
`not` phrase (`scansTo_render`), and completeness of the parser gives the tree back. The
attributes of a parsed tree are words the scanner made (`scanFrom_words`, `Derives.parsable`),
and such a word scans back to itself (`scanFrom_word`).
-/

namespace AccessPolicy.RowFilter

/-- The characters after a token that end it: a blank, a `)`, or none. -/
def EndsToken (rest : List Char) : Prop :=
  ∀ c r, rest = c :: r → c = ' ' ∨ c = ')'

theorem endsToken_nil : EndsToken [] := by
  intro c r h
  cases h

theorem endsToken_blank (r : List Char) : EndsToken (' ' :: r) := by
  intro c r' h
  cases h
  exact .inl rfl

theorem endsToken_close (r : List Char) : EndsToken (')' :: r) := by
  intro c r' h
  cases h
  exact .inr rfl

/-- A character the scanner starts a word with. -/
structure WordHead (c : Char) : Prop where
  not_blank : CharClass.blank c = false
  not_digit : CharClass.decimalDigit c = false
  start : wordStart c = true

/-- A text the scanner reads as one word. -/
def IsWord (w : String) : Prop :=
  ∃ c cs, w.toList = c :: cs ∧ WordHead c ∧ ∀ x ∈ cs, wordPart x = true

/-! ## Reading the pieces back -/

theorem scanFrom_blank (xs : List Char) (q : Nat) : scanFrom (' ' :: xs) q = scanFrom xs (q + 1) := by
  rw [scanFrom.eq_def]
  simp +decide

theorem takeWhile_endsToken {p : Char → Bool} (hb : p ' ' = false) (hc : p ')' = false)
    {cs rest : List Char} (hcs : ∀ x ∈ cs, p x = true) (hr : EndsToken rest) :
    (cs ++ rest).takeWhile p = cs := by
  rw [List.takeWhile_append_of_pos hcs]
  cases rest with
  | nil => simp
  | cons c r => rcases hr c r rfl with rfl | rfl <;> simp [hb, hc]

/-- A word followed by a blank, a `)` or nothing scans to its own token. -/
theorem scanFrom_word {w : String} (hw : IsWord w) {rest : List Char} (hr : EndsToken rest)
    (q : Nat) : ∃ q', scanFrom (w.toList ++ rest) q = (scanFrom rest q').map (⟨wordKind w, w, q⟩ :: ·) := by
  obtain ⟨c, cs, hcs, hc, hpart⟩ := hw
  -- the first character passes every test before the word's
  have hne : ∀ d : Char, wordStart d = false → c ≠ d := by
    rintro d hd rfl
    rw [hc.start] at hd
    cases hd
  have h₁ := hne '(' (by decide)
  have h₂ := hne ')' (by decide)
  have h₃ := hne '&' (by decide)
  have h₄ := hne '|' (by decide)
  have h₅ := hne '!' (by decide)
  have h₆ := hne '=' (by decide)
  have h₇ := hne '<' (by decide)
  have h₈ := hne '>' (by decide)
  have h₉ := hne '\'' (by decide)
  have h₁₀ := hne '"' (by decide)
  have h₁₁ := hne '-' (by decide)
  have hw : String.ofList (c :: cs) = w := by rw [← hcs, String.ofList_toList]
  refine ⟨q + 1 + cs.length, ?_⟩
  rw [hcs, List.cons_append, scanFrom.eq_def]
  simp only [hc.not_blank, hc.not_digit, hc.start, h₁, h₂, h₃, h₄, h₅, h₆, h₇, h₈, h₉, h₁₀, h₁₁,
    Bool.false_eq_true, if_false, if_true, or_false, false_and,
    takeWhile_endsToken (by decide) (by decide) hpart hr, List.drop_left, hw]

theorem toNat_of_isDigit {c : Char} (h : c.isDigit = true) : 48 ≤ c.toNat ∧ c.toNat ≤ 57 := by
  simp only [Char.isDigit, Bool.and_eq_true, decide_eq_true_eq, UInt32.le_iff_toNat_le] at h
  exact h

theorem decimalDigit_of_isDigit {c : Char} (h : c.isDigit = true) :
    CharClass.decimalDigit c = true := by
  have hn := toNat_of_isDigit h
  simp [CharClass.decimalDigit, Char.le_def, UInt32.le_iff_toNat_le, show c.toNat < 128 by omega, hn]

/-- A numeral, an optional `-` and decimal digits, scans to one integer token. -/
theorem scanFrom_numeral {c : Char} {ds rest : List Char} (hds : ∀ x ∈ ds, x.isDigit = true)
    (hc : c.isDigit = true ∨ c = '-' ∧ ds ≠ []) (hr : EndsToken rest) (q : Nat) :
    ∃ q', scanFrom (c :: (ds ++ rest)) q =
      (scanFrom rest q').map (⟨.integer, String.ofList (c :: ds), q⟩ :: ·) := by
  have hdig : ∀ x ∈ ds, CharClass.decimalDigit x = true := fun x hx =>
    decimalDigit_of_isDigit (hds x hx)
  have hdigits := takeWhile_endsToken (by decide) (by decide) hdig hr
  refine ⟨q + 1 + ds.length, ?_⟩
  rw [scanFrom.eq_def]
  rcases hc with hc | ⟨rfl, hne⟩
  · -- an ASCII digit is none of the characters tested before numbers
    have hn := toNat_of_isDigit hc
    have hne : ∀ d : Char, (d.toNat < 48 ∨ 57 < d.toNat) → c ≠ d := by
      rintro d hd rfl
      omega
    have hb : CharClass.blank c = false := by simp [CharClass.blank]; omega
    simp only [hb, hne '(' (by decide), hne ')' (by decide), hne '&' (by decide),
      hne '|' (by decide), hne '!' (by decide), hne '=' (by decide), hne '<' (by decide),
      hne '>' (by decide), hne '\'' (by decide), hne '"' (by decide), decimalDigit_of_isDigit hc,
      Bool.false_eq_true, if_false, if_true, true_or, or_false, hdigits, List.drop_left]
  · obtain ⟨d, ds', rfl⟩ := List.exists_cons_of_ne_nil hne
    simp +decide only [List.cons_append, List.head?_cons, Option.map_some, Option.getD_some,
      decimalDigit_of_isDigit (hds d (by simp))]
    simp only [← List.cons_append, hdigits, List.drop_left]
    rfl

/-! ## Integers -/

theorem digitValue_digitChar : ∀ d < 10, digitValue? (Nat.digitChar d) = some d := by
  decide

/-- Reading the decimal digits of `m` after a value `acc` shifts `acc` past them and adds `m`. -/
theorem foldlM_toDigits (m acc : Nat) :
    (Nat.toDigits 10 m).foldlM (fun n c => (digitValue? c).map (n * 10 + ·)) acc =
      some (acc * 10 ^ (Nat.toDigits 10 m).length + m) := by
  induction m using Nat.strongRecOn generalizing acc with
  | _ m ih =>
    by_cases hm : m < 10
    · simp [Nat.toDigits_of_lt_base hm, digitValue_digitChar m hm]
    · -- the digits of `m` are those of `m / 10`, then its last one
      have hsplit : Nat.toDigits 10 m = Nat.toDigits 10 (m / 10) ++ Nat.toDigits 10 (m % 10) := by
        rw [Nat.toDigits_append_toDigits (by omega) (by omega) (Nat.mod_lt _ (by omega)),
          Nat.div_add_mod]
      have hlast : Nat.toDigits 10 (m % 10) = [Nat.digitChar (m % 10)] :=
        Nat.toDigits_of_lt_base (Nat.mod_lt _ (by omega))
      rw [hsplit, List.foldlM_append, ih (m / 10) (by omega), hlast]
      simp only [Option.bind_eq_bind, Option.bind_some, List.foldlM_cons, List.foldlM_nil,
        digitValue_digitChar _ (Nat.mod_lt _ (by omega : 10 > 0)), Option.map_some,
        List.length_append, List.length_singleton, Nat.pow_succ]
      congr 1
      have := Nat.div_add_mod m 10
      rw [← Nat.mul_assoc]
      omega

theorem readDigits_toDigits (m : Nat) : readDigits? (Nat.toDigits 10 m) = some m := by
  simp [readDigits?, Nat.toDigits_ne_nil, foldlM_toDigits]

theorem isDigit_of_mem_toDigits {m : Nat} {c : Char} (h : c ∈ Nat.toDigits 10 m) :
    c.isDigit = true :=
  Nat.isDigit_of_mem_toDigits (by omega) (by omega) h

theorem readInt_bounds {lo hi n : Int} {s : String} (h : readInt? lo hi s = some n) :
    lo ≤ n ∧ n ≤ hi := by
  unfold readInt? at h
  split at h
  split at h
  · simp only at h
    split_ifs at h <;> cases h <;> assumption
  · cases h

/-- A text that starts with neither sign reads as its digits. -/
theorem readInt_unsigned {lo hi : Int} {s : String} {d : Char} {ds : List Char}
    (hs : s.toList = d :: ds) (h₁ : d ≠ '-') (h₂ : d ≠ '+') :
    readInt? lo hi s = (readDigits? (d :: ds)).bind
      (fun n => if lo ≤ (n : Int) ∧ (n : Int) ≤ hi then some (n : Int) else none) := by
  unfold readInt?
  split
  rename_i neg body heq
  obtain ⟨rfl, rfl⟩ : neg = false ∧ body = d :: ds := by
    split at heq <;> grind
  cases readDigits? (d :: ds) <;> simp

/-- A text that starts with a minus sign reads as its digits negated. -/
theorem readInt_negative {lo hi : Int} {s : String} {ds : List Char}
    (hs : s.toList = '-' :: ds) :
    readInt? lo hi s = (readDigits? ds).bind
      (fun n => if lo ≤ -(n : Int) ∧ -(n : Int) ≤ hi then some (-(n : Int)) else none) := by
  unfold readInt?
  split
  rename_i neg body heq
  obtain ⟨rfl, rfl⟩ : neg = true ∧ body = ds := by
    split at heq <;> grind
  cases readDigits? body <;> simp

theorem toString_ofNat_toList (m : Nat) :
    (toString (Int.ofNat m)).toList = Nat.toDigits 10 m := by
  show (Nat.repr m).toList = _
  rw [Nat.repr_eq_ofList_toDigits, String.toList_ofList]

theorem toString_negSucc_toList (m : Nat) :
    (toString (Int.negSucc m)).toList = '-' :: Nat.toDigits 10 (m + 1) := by
  show ("-" ++ Nat.repr (m + 1)).toList = _
  simp [Nat.repr_eq_ofList_toDigits]

/-- An integer within the bounds reads back from its decimal text. -/
theorem readInt_toString {lo hi n : Int} (h : lo ≤ n ∧ n ≤ hi) :
    readInt? lo hi (toString n) = some n := by
  cases n with
  | ofNat m =>
    obtain ⟨d, ds, hd⟩ := List.exists_cons_of_ne_nil (Nat.toDigits_ne_nil (n := m) (b := 10))
    -- a digit is no sign
    have hdig := isDigit_of_mem_toDigits (m := m) (c := d) (by simp [hd])
    have hne : ∀ x : Char, x.isDigit = false → d ≠ x := by
      rintro x hx rfl
      rw [hdig] at hx
      cases hx
    rw [readInt_unsigned ((toString_ofNat_toList m).trans hd) (hne _ (by decide))
      (hne _ (by decide)), ← hd, readDigits_toDigits]
    simpa using h
  | negSucc m =>
    rw [readInt_negative (toString_negSucc_toList m), readDigits_toDigits]
    rw [Int.negSucc_eq] at h ⊢
    simp only [Option.bind]
    push_cast
    rw [if_pos h]

/-- The decimal text of an integer scans to one integer token. -/
theorem scanFrom_int (n : Int) {rest : List Char} (hr : EndsToken rest) (q : Nat) :
    ∃ q', scanFrom ((toString n).toList ++ rest) q =
      (scanFrom rest q').map (⟨.integer, toString n, q⟩ :: ·) := by
  -- the text is a digit and digits, or a minus and digits
  obtain ⟨c, ds, hs, hds, hc⟩ : ∃ c ds, (toString n).toList = c :: ds ∧
      (∀ x ∈ ds, x.isDigit = true) ∧ (c.isDigit = true ∨ c = '-' ∧ ds ≠ []) := by
    cases n with
    | ofNat m =>
      obtain ⟨d, ds, hd⟩ := List.exists_cons_of_ne_nil (Nat.toDigits_ne_nil (n := m) (b := 10))
      refine ⟨d, ds, (toString_ofNat_toList m).trans hd, fun x hx => ?_, .inl ?_⟩
      · exact isDigit_of_mem_toDigits (m := m) (by simp [hd, hx])
      · exact isDigit_of_mem_toDigits (m := m) (by simp [hd])
    | negSucc m =>
      exact ⟨'-', _, toString_negSucc_toList m, fun x hx => isDigit_of_mem_toDigits hx,
        .inr ⟨rfl, Nat.toDigits_ne_nil⟩⟩
  have htext : String.ofList (c :: ds) = toString n := by rw [← hs, String.ofList_toList]
  rw [hs, List.cons_append]
  simpa only [htext] using scanFrom_numeral hds hc hr q

/-! ## Strings -/

/-- Without the marker of a raw byte, every character of a text is a piece of its own. -/
theorem piecesOfChars_eq_map {cs : List Char} (h : ∀ c ∈ cs, c ≠ Utf8.marker) :
    Utf8.piecesOfChars cs = cs.map .char := by
  fun_induction Utf8.piecesOfChars cs with
  | case1 => rfl
  | case2 c => rfl
  | case3 c r more hraw => simp_all
  | case4 c r more hraw ih => simp_all

theorem stringBody_plain {q c : Char} (hc : c ≠ '\\') (rest : List Char) :
    stringBody q (c :: rest) =
      if c = q then some ([], 1) else (stringBody q rest).map fun (body, n) => (c :: body, n + 1) := by
  cases rest <;> simp [stringBody, hc]

/-- The body quoting writes for printable characters reads back to them, up to the closing
quote. -/
theorem stringBody_escaped {cs : List Char} (h : ∀ c ∈ cs, CharClass.printable c = true)
    (rest : List Char) :
    stringBody '"' (cs.flatMap (fun c => (Quote.escapeWith false '"' c).toList) ++ '"' :: rest) =
      some (cs, (cs.flatMap (fun c => (Quote.escapeWith false '"' c).toList)).length + 1) := by
  induction cs with
  | nil => simp [stringBody]
  | cons c cs ih =>
    have ih := ih (fun x hx => h x (by simp [hx]))
    by_cases hq : c = '"' ∨ c = '\\'
    · -- the quote and the backslash follow a backslash
      have he : (Quote.escapeWith false '"' c).toList = ['\\', c] := by
        simp [Quote.escapeWith, hq]
      simp only [List.flatMap_cons, he, List.cons_append, List.nil_append, stringBody, ih,
        Option.map_some, List.length_cons]
    · have he : (Quote.escapeWith false '"' c).toList = [c] := by
        simp [Quote.escapeWith, hq, h c (by simp)]
      obtain ⟨h₁, h₂⟩ := not_or.mp hq
      simp only [List.flatMap_cons, he, List.cons_append, List.nil_append, stringBody_plain h₂,
        h₁, if_false, ih, Option.map_some, List.length_cons]

/-- A text of printable characters, quoted, scans to one string token. -/
theorem scanFrom_quoted {s : String}
    (h : ∀ c ∈ s.toList, CharClass.printable c = true ∧ c ≠ Utf8.marker) (rest : List Char)
    (q : Nat) :
    ∃ q', scanFrom ((Quote.string s).toList ++ rest) q =
      (scanFrom rest q').map (⟨.string, s, q⟩ :: ·) := by
  have hp : Utf8.pieces s = s.toList.map .char := piecesOfChars_eq_map fun c hc => (h c hc).2
  have hbody := stringBody_escaped (fun c hc => (h c hc).1) rest
  have hq : (Quote.string s).toList =
      '"' :: (s.toList.flatMap (fun c => (Quote.escapeWith false '"' c).toList) ++ ['"']) := by
    simp [Quote.string, hp, Quote.escapePiece, List.flatMap_map]
  refine ⟨q + 1 + ((s.toList.flatMap (fun c => (Quote.escapeWith false '"' c).toList)).length + 1), ?_⟩
  rw [hq, List.cons_append, List.append_assoc, List.singleton_append, scanFrom.eq_def]
  have hdrop : ∀ l : List Char, (l ++ '"' :: rest).drop (l.length + 1) = rest := fun l => by
    rw [← List.singleton_append, ← List.append_assoc]
    exact List.drop_left' (by simp)
  simp +decide only [hbody, hdrop, String.ofList_toList, if_false, if_true]

/-! ## Operators and literals -/

theorem CmpOp.ofSymbol_symbol (op : CmpOp) : CmpOp.ofSymbol? op.symbol = some op := by
  cases op <;> decide

/-- An operator followed by a blank scans to its own token. -/
theorem scanFrom_symbol (op : CmpOp) (rest : List Char) (q : Nat) :
    ∃ q', scanFrom (op.symbol.toList ++ ' ' :: rest) q =
      (scanFrom rest q').map (⟨.op, op.symbol, q⟩ :: ·) := by
  cases op
  case eq | ne | le | ge =>
    exact ⟨q + 2 + 1, by rw [scanFrom.eq_def]; simp +decide [CmpOp.symbol, scanFrom_blank]⟩
  case lt | gt =>
    exact ⟨q + 1 + 1, by rw [scanFrom.eq_def]; simp +decide [CmpOp.symbol, scanFrom_blank]⟩

/-- What parsing checks of a literal after the operator `op`: an integer has 64 bits, and a
boolean follows an operator that does not order. -/
def LiteralFits (op : CmpOp) : Literal → Prop
  | .int n => -Int.pow 2 63 ≤ n ∧ n ≤ Int.pow 2 63 - 1
  | .str _ => True
  | .bool _ => op.ordering = false

/-- A literal that quoting writes character by character: a string of printable characters,
none of them the marker of a raw byte. -/
def Literal.Printable : Literal → Prop
  | .str s => ∀ c ∈ s.toList, CharClass.printable c = true ∧ c ≠ Utf8.marker
  | .int _ | .bool _ => True

theorem LiteralToken.fits {op : CmpOp} {t : Token} {lit : Literal} (h : LiteralToken op t lit) :
    LiteralFits op lit := by
  cases h with
  | int _ hr => exact readInt_bounds hr
  | str _ => trivial
  | trueWord _ ho | falseWord _ ho => exact ho

theorem isWord_of_toList {w : String} {c : Char} {cs : List Char} (h : w.toList = c :: cs)
    (hc : WordHead c) (hcs : cs.all wordPart = true) : IsWord w :=
  ⟨c, cs, h, hc, List.all_eq_true.mp hcs⟩

/-- A literal that fits its operator and prints character by character scans back to a token
for it. -/
theorem scanFrom_literal {op : CmpOp} {lit : Literal} (hf : LiteralFits op lit)
    (hp : lit.Printable) {rest : List Char} (hr : EndsToken rest) (q : Nat) :
    ∃ t q', scanFrom (lit.render.toList ++ rest) q = (scanFrom rest q').map (t :: ·) ∧
      LiteralToken op t lit := by
  cases lit with
  | int n =>
    obtain ⟨q', hq⟩ := scanFrom_int n hr q
    exact ⟨_, q', hq, .int rfl (readInt_toString hf)⟩
  | str s =>
    obtain ⟨q', hq⟩ := scanFrom_quoted hp rest q
    exact ⟨_, q', hq, .str rfl⟩
  | bool b =>
    cases b
    · obtain ⟨q', hq⟩ := scanFrom_word (w := "false") (isWord_of_toList
        (show "false".toList = 'f' :: "alse".toList by decide) ⟨by decide, by decide, by decide⟩
        (by decide)) hr q
      have hk : wordKind "false" = .falseWord := by decide
      exact ⟨_, q', hq, .falseWord hk hf⟩
    · obtain ⟨q', hq⟩ := scanFrom_word (w := "true") (isWord_of_toList
        (show "true".toList = 't' :: "rue".toList by decide) ⟨by decide, by decide, by decide⟩
        (by decide)) hr q
      have hk : wordKind "true" = .trueWord := by decide
      exact ⟨_, q', hq, .trueWord hk hf⟩

/-! ## Printed expressions -/

/-- A comparison as parsing builds one: its attribute is a word the scanner reads as an
attribute, and its literal fits its operator. -/
def Parsable (c : String × CmpOp × Literal) : Prop :=
  IsWord c.1 ∧ wordKind c.1 = .attribute ∧ LiteralFits c.2.1 c.2.2

/-- A comparison that prints as text which scans back to it. -/
def Readable (c : String × CmpOp × Literal) : Prop :=
  Parsable c ∧ c.2.2.Printable

/-- The characters `cs` scan to tokens with property `P`, whatever text that ends a token
follows them. -/
def ScansTo (cs : List Char) (P : List Token → Prop) : Prop :=
  ∀ rest, EndsToken rest → ∀ q, ∃ toks q',
    scanFrom (cs ++ rest) q = (scanFrom rest q').map (toks ++ ·) ∧ P toks

theorem scansTo_cmp {a : String} {op : CmpOp} {lit : Literal} (h : Readable (a, op, lit)) :
    ScansTo (Expr.cmp a op lit).render.toList (Derives .not · (.cmp a op lit)) := by
  intro rest hr q
  obtain ⟨⟨hw, hk, hf⟩, hp⟩ := h
  have hs : (Expr.cmp a op lit).render.toList ++ rest =
      a.toList ++ ' ' :: (op.symbol.toList ++ ' ' :: (lit.render.toList ++ rest)) := by
    simp [Expr.render]
  obtain ⟨q₁, h₁⟩ := scanFrom_word hw (endsToken_blank (op.symbol.toList ++ ' ' :: (lit.render.toList ++ rest))) q
  obtain ⟨q₂, h₂⟩ := scanFrom_symbol op (lit.render.toList ++ rest) (q₁ + 1)
  obtain ⟨t, q₃, h₃, ht⟩ := scanFrom_literal hf hp hr q₂
  refine ⟨[⟨.attribute, a, q⟩, ⟨.op, op.symbol, q₁ + 1⟩, t], q₃, ?_, ?_⟩
  · rw [hs, h₁, scanFrom_blank, h₂, h₃, hk]
    cases scanFrom rest q₃ <;> rfl
  · exact .primary (.cmp rfl rfl (CmpOp.ofSymbol_symbol op) ht)

theorem ScansTo.mono {cs : List Char} {P Q : List Token → Prop} (h : ScansTo cs P)
    (hPQ : ∀ toks, P toks → Q toks) : ScansTo cs Q := by
  intro rest hr q
  obtain ⟨toks, q', hs, hp⟩ := h rest hr q
  exact ⟨toks, q', hs, hPQ toks hp⟩

/-- Two operands joined by a word in parentheses scan to the parenthesis, the tokens of the left
operand, the word, the tokens of the right operand and the closing parenthesis. -/
theorem scansTo_group {w : String} (hw : IsWord w) {ls rs : List Char}
    {P Q : List Token → Prop} (hl : ScansTo ls P) (hr : ScansTo rs Q) :
    ScansTo ('(' :: (ls ++ ' ' :: (w.toList ++ ' ' :: (rs ++ [')']))))
      (fun toks => ∃ o t c lt rt, toks = o :: ((lt ++ t :: rt) ++ [c]) ∧ o.kind = .lparen ∧
        t.kind = wordKind w ∧ c.kind = .rparen ∧ P lt ∧ Q rt) := by
  intro rest hrest q
  obtain ⟨lt, q₁, h₁, hlt⟩ :=
    hl (' ' :: (w.toList ++ ' ' :: (rs ++ ')' :: rest))) (endsToken_blank _) (q + 1)
  obtain ⟨q₂, h₂⟩ := scanFrom_word hw (endsToken_blank (rs ++ ')' :: rest)) (q₁ + 1)
  obtain ⟨rt, q₃, h₃, hrt⟩ := hr (')' :: rest) (endsToken_close rest) (q₂ + 1)
  refine ⟨⟨.lparen, "(", q⟩ :: ((lt ++ ⟨wordKind w, w, q₁ + 1⟩ :: rt) ++ [⟨.rparen, ")", q₃⟩]),
    q₃ + 1, ?_, _, _, _, lt, rt, rfl, rfl, rfl, rfl, hlt, hrt⟩
  have hs : '(' :: (ls ++ ' ' :: (w.toList ++ ' ' :: (rs ++ [')']))) ++ rest =
      '(' :: (ls ++ ' ' :: (w.toList ++ ' ' :: (rs ++ ')' :: rest))) := by
    simp
  rw [hs, scanFrom_open, h₁, scanFrom_blank, h₂, scanFrom_blank, h₃, scanFrom_close]
  cases scanFrom rest (q₃ + 1) <;> simp [Except.map]

/-! ## Derivations of printed trees -/

theorem Derives.and_of_not {ts : List Token} {e : Expr} (h : Derives .not ts e) :
    Derives .and ts e := by
  simpa using Derives.and h .andEnd

theorem Derives.or_of_and {ts : List Token} {e : Expr} (h : Derives .and ts e) :
    Derives .or ts e := by
  simpa using Derives.or h .orEnd

theorem Derives.and_pair {lt rt : List Token} {t : Token} {l r : Expr} (hl : Derives .not lt l)
    (ht : t.kind = .andWord) (hr : Derives .not rt r) :
    Derives .and (lt ++ t :: rt) (.and l r) := by
  simpa using Derives.and hl (.andMore ht hr .andEnd)

theorem Derives.or_pair {lt rt : List Token} {t : Token} {l r : Expr} (hl : Derives .and lt l)
    (ht : t.kind = .orWord) (hr : Derives .and rt r) :
    Derives .or (lt ++ t :: rt) (.or l r) := by
  simpa using Derives.or hl (.orMore ht hr .orEnd)

/-- The printed text of a tree of readable comparisons scans to a `not` phrase of that tree:
by induction on the tree, each `AND` and `OR` in its parentheses being a group. -/
theorem scansTo_render (e : Expr) (h : ∀ c ∈ e.comparisons, Readable c) :
    ScansTo e.render.toList (Derives .not · e) := by
  induction e with
  | cmp a op lit => exact scansTo_cmp (h _ (by simp [Expr.comparisons]))
  | and l r ihl ihr =>
    have hs : (Expr.and l r).render.toList =
        '(' :: (l.render.toList ++ ' ' :: ("AND".toList ++ ' ' :: (r.render.toList ++ [')']))) := by
      simp [Expr.render]
    have hw : IsWord "AND" := isWord_of_toList
      (show "AND".toList = 'A' :: "ND".toList by decide) ⟨by decide, by decide, by decide⟩
      (by decide)
    rw [hs]
    refine (scansTo_group hw (ihl fun c hc => h c (by simp [Expr.comparisons, hc]))
      (ihr fun c hc => h c (by simp [Expr.comparisons, hc]))).mono ?_
    rintro _ ⟨o, t, c, lt, rt, rfl, ho, ht, hc, hlt, hrt⟩
    exact .primary (.group ho (Derives.and_pair hlt (ht.trans (by decide)) hrt).or_of_and hc)
  | or l r ihl ihr =>
    have hs : (Expr.or l r).render.toList =
        '(' :: (l.render.toList ++ ' ' :: ("OR".toList ++ ' ' :: (r.render.toList ++ [')']))) := by
      simp [Expr.render]
    have hw : IsWord "OR" := isWord_of_toList
      (show "OR".toList = 'O' :: "R".toList by decide) ⟨by decide, by decide, by decide⟩
      (by decide)
    rw [hs]
    refine (scansTo_group hw (ihl fun c hc => h c (by simp [Expr.comparisons, hc]))
      (ihr fun c hc => h c (by simp [Expr.comparisons, hc]))).mono ?_
    rintro _ ⟨o, t, c, lt, rt, rfl, ho, ht, hc, hlt, hrt⟩
    exact .primary (.group ho (Derives.or_pair hlt.and_of_not (ht.trans (by decide))
      hrt.and_of_not) hc)
  | not e ih =>
    have hs : (Expr.not e).render.toList = "NOT".toList ++ ' ' :: e.render.toList := by
      simp [Expr.render]
    have hw : IsWord "NOT" := isWord_of_toList
      (show "NOT".toList = 'N' :: "OT".toList by decide) ⟨by decide, by decide, by decide⟩
      (by decide)
    intro rest hr q
    obtain ⟨q₁, h₁⟩ := scanFrom_word hw (endsToken_blank (e.render.toList ++ rest)) q
    obtain ⟨toks, q₂, h₂, hd⟩ := ih (fun c hc => h c (by simpa [Expr.comparisons] using hc))
      rest hr (q₁ + 1)
    have hk : wordKind "NOT" = .notWord := by decide
    refine ⟨⟨wordKind "NOT", "NOT", q⟩ :: toks, q₂, ?_, .not hk hd⟩
    rw [hs, List.append_assoc, List.cons_append, h₁, scanFrom_blank, h₂]
    cases scanFrom rest q₂ <;> rfl

/-! ## What parsing builds -/

/-- Every attribute token the scanner makes is a word that it reads as an attribute. -/
theorem scanFrom_words {cs : List Char} {q : Nat} {ts : List Token} (h : scanFrom cs q = .ok ts) :
    ∀ t ∈ ts, t.kind = .attribute → IsWord t.text ∧ wordKind t.text = .attribute := by
  fun_induction scanFrom cs q generalizing ts with
  | case1 =>
    cases h
    simp
  | case2 pos c rest hb ih => exact ih h
  | case6 | case7 | case13 | case16 => cases h
  | case15 pos c rest hb hl hr ha hn hc hq hd hw word =>
    rename_i ih
    obtain ⟨ts0, h0, rfl⟩ := Except.map_eq_ok h
    intro t ht
    rcases List.mem_cons.mp ht with rfl | ht
    · -- the word's first character passed the tests of blanks and numbers before it; the
      -- token's fields are read off first, or unifying them unfolds the text
      dsimp only
      refine fun hk => ⟨⟨c, word, String.toList_ofList, ⟨?_, ?_, hw⟩,
        List.all_eq_true.mp List.all_takeWhile⟩, hk⟩
      · simpa using hb
      · simpa using (not_or.mp hd).1
    · exact ih h0 t ht
  | _ =>
    rename_i ih
    obtain ⟨ts0, h0, rfl⟩ := Except.map_eq_ok h
    -- every other token has a kind of its own
    intro t ht
    rcases List.mem_cons.mp ht with rfl | ht
    · grind
    · exact ih h0 t ht

/-- The comparisons a phrase starts from: those of the operand read before the rest of an
`or` or an `and`. -/
def Phrase.comparisons : Phrase → List (String × CmpOp × Literal)
  | .orRest l | .andRest l => l.comparisons
  | .or | .and | .not | .primary => []

/-- The comparisons of a derived tree are parsable when the attribute tokens of the phrase are
words the scanner reads as attributes: by induction on the derivation, the operand a rest
phrase starts from carrying its comparisons along. -/
theorem Derives.parsable {p : Phrase} {ts : List Token} {e : Expr} (hd : Derives p ts e) :
    (∀ t ∈ ts, t.kind = .attribute → IsWord t.text ∧ wordKind t.text = .attribute) →
    (∀ c ∈ p.comparisons, Parsable c) → ∀ c ∈ e.comparisons, Parsable c := by
  induction hd with
  | or _ _ ihl ihr =>
    intro hts _
    exact ihr (fun t ht => hts t (by simp [ht]))
      (ihl (fun t ht => hts t (by simp [ht])) (by simp [Phrase.comparisons]))
  | orEnd | andEnd => exact fun _ hp => hp
  | orMore _ _ _ ihr ihu | andMore _ _ _ ihr ihu =>
    intro hts hp
    refine ihu (fun t ht => hts t (by simp [ht])) ?_
    simp only [Phrase.comparisons, Expr.comparisons, List.mem_append]
    rintro c (hc | hc)
    · exact hp c hc
    · exact ihr (fun t ht => hts t (by simp [ht])) (by simp [Phrase.comparisons]) c hc
  | and _ _ ihl ihr =>
    intro hts _
    exact ihr (fun t ht => hts t (by simp [ht]))
      (ihl (fun t ht => hts t (by simp [ht])) (by simp [Phrase.comparisons]))
  | not _ _ ih =>
    intro hts _
    simpa [Expr.comparisons] using
      ih (fun t ht => hts t (by simp [ht])) (by simp [Phrase.comparisons])
  | primary _ ih => exact fun hts _ => ih hts (by simp [Phrase.comparisons])
  | group _ _ _ ih =>
    intro hts _
    exact ih (fun t ht => hts t (by simp [ht])) (by simp [Phrase.comparisons])
  | cmp ha _ _ hl =>
    intro hts _
    simp only [Expr.comparisons, List.mem_singleton]
    rintro c rfl
    have hw := hts _ (by simp) ha
    exact ⟨hw.1, hw.2, hl.fits⟩

/-- Printing a parsed tree whose string literals hold printable characters only, none of them
the marker of a raw byte, and parsing the text again gives the tree back. -/
theorem parse_render {text : String} {e : Expr} (h : parse text = .ok e)
    (hp : ∀ c ∈ e.comparisons, c.2.2.Printable) : parse e.render = .ok e := by
  obtain ⟨ts, t, hscan, _, hd⟩ := parse_derives h
  have hwords := scanFrom_words hscan
  have hparsed := hd.parsable (fun u hu => hwords u (by simp [hu])) (by simp [Phrase.comparisons])
  obtain ⟨toks, q, hs, hdn⟩ :=
    scansTo_render e (fun c hc => ⟨hparsed c hc, hp c hc⟩) [] endsToken_nil 0
  have hend : scan e.render = .ok (toks ++ [⟨.eof, "", q⟩]) := by
    rw [scan, ← List.append_nil e.render.toList, hs, scanFrom.eq_def]
    rfl
  exact parse_of_derives hend rfl hdn.and_of_not.or_of_and

/-- A literal with quotes of both kinds prints with escapes that read back. -/
theorem parse_render_quotes :
    parse "note != 'say \"hi\"'" = .ok (.cmp "note" .ne (.str "say \"hi\"")) ∧
      parse (Expr.cmp "note" .ne (.str "say \"hi\"")).render =
        .ok (.cmp "note" .ne (.str "say \"hi\"")) := by
  have h : parse "note != 'say \"hi\"'" = .ok (.cmp "note" .ne (.str "say \"hi\"")) := by
    decide +kernel
  refine ⟨h, parse_render h ?_⟩
  simp only [Expr.comparisons, List.mem_singleton, forall_eq]
  have hchars : "say \"hi\"".toList = ['s', 'a', 'y', ' ', '"', 'h', 'i', '"'] := by decide
  simp [Literal.Printable, hchars, CharClass.printable, Utf8.marker]

/-- A newline in a string literal prints as the escape `\n`, which reads back as the letter
`n`. -/
theorem parse_render_newline :
    parse "note == 'a\nb'" = .ok (.cmp "note" .eq (.str "a\nb")) ∧
      parse (Expr.cmp "note" .eq (.str "a\nb")).render = .ok (.cmp "note" .eq (.str "anb")) := by
  constructor <;> decide +kernel

end AccessPolicy.RowFilter
