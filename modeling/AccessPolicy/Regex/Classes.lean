import AccessPolicy.Text.CharClass
import AccessPolicy.Text.Script
/-!
# Character groups and classes of regular expressions

A bracketed class such as `[a-z\d[:punct:]]`, a Perl escape such as `\w` and a Unicode escape
such as `\p{Greek}` all describe a set of characters. A class is kept as the items it was
written with, not as a table of ranges, and membership is decided item by item.
-/

namespace AccessPolicy.Regex

open CharClass (GeneralCategory generalCategory scripts scriptCode?)

inductive UnicodeSet where
  | any
  | ascii
  | assigned
  | categories (gs : List GeneralCategory)
  | script (code : String)
  deriving Repr, DecidableEq, Inhabited

inductive CharGroup where
  | alnum
  | alpha
  | ascii
  | blank
  | cntrl
  | digit
  | graph
  | lower
  | print
  | punct
  | space
  | upper
  | word
  | xdigit
  | perlSpace
  | unicode (set : UnicodeSet)
  deriving Repr, DecidableEq, Inhabited

inductive ClassItem where
  | range (lo hi : Nat)
  | group (g : CharGroup) (negated : Bool)
  deriving Repr, DecidableEq, Inhabited

/-- A class: its items, whether they are read with case folded, and whether the class is
negated as a whole (`[^…]`). -/
structure CharSet where
  items : List ClassItem
  fold : Bool
  negated : Bool
  deriving Repr, DecidableEq, Inhabited

/-! ## Unicode categories and scripts -/

/-- A name of `\p{name}` with case, blanks, underscores and hyphens set aside: `Old_Italic`,
`old italic` and `OLDITALIC` read alike. -/
def canonicalName (name : String) : String :=
  String.ofList ((name.toList.filter fun c => c ≠ '_' ∧ c ≠ '-' ∧ c ≠ ' ').map Char.toLower)

def majorClass (m : Char) : List GeneralCategory :=
  GeneralCategory.all.filter (·.major == m)

/-- The names of general categories and their unions: the two-letter codes, the major classes,
`LC` for the cased letters, and the long names and other aliases of each. -/
def categoryNames : List (String × List GeneralCategory) :=
  GeneralCategory.all.map (fun g => (g.code, [g])) ++
  ["L", "M", "N", "P", "S", "Z", "C"].map (fun m => (m, majorClass m.front)) ++
  [("LC", [.lu, .ll, .lt]), ("Letter", majorClass 'L'), ("Cased_Letter", [.lu, .ll, .lt]),
   ("Uppercase_Letter", [.lu]), ("Lowercase_Letter", [.ll]), ("Titlecase_Letter", [.lt]),
   ("Modifier_Letter", [.lm]), ("Other_Letter", [.lo]), ("Mark", majorClass 'M'),
   ("Combining_Mark", majorClass 'M'), ("Nonspacing_Mark", [.mn]), ("Spacing_Mark", [.mc]),
   ("Enclosing_Mark", [.me]), ("Number", majorClass 'N'), ("Decimal_Number", [.nd]),
   ("digit", [.nd]), ("Letter_Number", [.nl]), ("Other_Number", [.no]),
   ("Punctuation", majorClass 'P'), ("punct", majorClass 'P'), ("Connector_Punctuation", [.pc]),
   ("Dash_Punctuation", [.pd]), ("Open_Punctuation", [.ps]), ("Close_Punctuation", [.pe]),
   ("Initial_Punctuation", [.pi]), ("Final_Punctuation", [.pf]), ("Other_Punctuation", [.po]),
   ("Symbol", majorClass 'S'), ("Math_Symbol", [.sm]), ("Currency_Symbol", [.sc]),
   ("Modifier_Symbol", [.sk]), ("Other_Symbol", [.so]), ("Separator", majorClass 'Z'),
   ("Space_Separator", [.zs]), ("Line_Separator", [.zl]), ("Paragraph_Separator", [.zp]),
   ("Other", majorClass 'C'), ("Control", [.cc]), ("cntrl", [.cc]), ("Format", [.cf]),
   ("Surrogate", [.cs]), ("Private_Use", [.co]), ("Unassigned", [.cn])]

/-- The set a name of `\p{name}` stands for, if it names one: `Any`, `ASCII`, `Assigned`, a
general category or a union of them, or a script by its long name. -/
def UnicodeSet.ofName? (name : String) : Option UnicodeSet :=
  let key := canonicalName name
  if key = "any" then some .any
  else if key = "ascii" then some .ascii
  else if key = "assigned" then some .assigned
  else
    match categoryNames.find? (canonicalName ·.1 == key) with
    | some (_, gs) => some (.categories gs)
    | none => (scripts.find? (canonicalName ·.2 == key)).map (.script ·.1)

def UnicodeSet.holds : UnicodeSet → Char → Bool
  | .any, _ => true
  | .ascii, c => c.toNat < 0x80
  | .assigned, c => generalCategory c != .cn
  | .categories gs, c => gs.contains (generalCategory c)
  | .script code, c => scriptCode? c == some code

/-! ## Groups and classes -/

def CharGroup.holds : CharGroup → Char → Bool
  | .alnum, c => ('0' ≤ c ∧ c ≤ '9') ∨ ('A' ≤ c ∧ c ≤ 'Z') ∨ ('a' ≤ c ∧ c ≤ 'z')
  | .alpha, c => ('A' ≤ c ∧ c ≤ 'Z') ∨ ('a' ≤ c ∧ c ≤ 'z')
  | .ascii, c => c.toNat < 0x80
  | .blank, c => c = '\t' ∨ c = ' '
  | .cntrl, c => c.toNat < 0x20 ∨ c.toNat = 0x7F
  | .digit, c => '0' ≤ c ∧ c ≤ '9'
  | .graph, c => 0x21 ≤ c.toNat ∧ c.toNat ≤ 0x7E
  | .lower, c => 'a' ≤ c ∧ c ≤ 'z'
  | .print, c => 0x20 ≤ c.toNat ∧ c.toNat ≤ 0x7E
  | .punct, c => (0x21 ≤ c.toNat ∧ c.toNat ≤ 0x2F) ∨ (0x3A ≤ c.toNat ∧ c.toNat ≤ 0x40) ∨
      (0x5B ≤ c.toNat ∧ c.toNat ≤ 0x60) ∨ (0x7B ≤ c.toNat ∧ c.toNat ≤ 0x7E)
  | .space, c => c = '\t' ∨ c = '\n' ∨ c.toNat = 0x0B ∨ c.toNat = 0x0C ∨ c = '\r' ∨ c = ' '
  | .upper, c => 'A' ≤ c ∧ c ≤ 'Z'
  | .word, c => ('0' ≤ c ∧ c ≤ '9') ∨ ('A' ≤ c ∧ c ≤ 'Z') ∨ ('a' ≤ c ∧ c ≤ 'z') ∨ c = '_'
  | .xdigit, c => ('0' ≤ c ∧ c ≤ '9') ∨ ('A' ≤ c ∧ c ≤ 'F') ∨ ('a' ≤ c ∧ c ≤ 'f')
  | .perlSpace, c => c = '\t' ∨ c = '\n' ∨ c.toNat = 0x0C ∨ c = '\r' ∨ c = ' '
  | .unicode set, c => set.holds c

def CharGroup.posix? : String → Option CharGroup
  | "alnum" => some .alnum
  | "alpha" => some .alpha
  | "ascii" => some .ascii
  | "blank" => some .blank
  | "cntrl" => some .cntrl
  | "digit" => some .digit
  | "graph" => some .graph
  | "lower" => some .lower
  | "print" => some .print
  | "punct" => some .punct
  | "space" => some .space
  | "upper" => some .upper
  | "word" => some .word
  | "xdigit" => some .xdigit
  | _ => none

def foldOrbit (c : Char) : List Char :=
  CharClass.caseClass c
def ClassItem.holdsExactly : ClassItem → Char → Bool
  | .range lo hi, c => lo ≤ c.toNat ∧ c.toNat ≤ hi
  | .group g negated, c => g.holds c != negated

/-- Whether a character is in an item. -/
def ClassItem.holds (fold : Bool) (item : ClassItem) (c : Char) : Bool :=
  if !fold then item.holdsExactly c
  else
    match item with
    | .range lo hi => (foldOrbit c).any fun d => lo ≤ d.toNat ∧ d.toNat ≤ hi
    | .group g negated => ((foldOrbit c).any g.holds) != negated

def CharSet.holds (s : CharSet) (c : Char) : Bool :=
  (s.items.any fun item => item.holds s.fold c) != s.negated

end AccessPolicy.Regex
