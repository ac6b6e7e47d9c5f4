import AccessPolicy.Regex.Syntax
/-!
# Regular expressions: programs

A pattern is matched by running a small program over the text. Each instruction either tests
the character at the position and moves past it, tests the position, records the position in a
capture slot, or splits the path in two, the first path being preferred.
-/

namespace AccessPolicy.Regex

inductive RuneTest where
  | literal (c : Nat) (fold : Bool)
  | chars (s : CharSet)
  | any
  | anyButNewline
  deriving Repr, Inhabited

def RuneTest.holds : RuneTest → Char → Bool
  | .literal c fold, r =>
    r.toNat = c || (fold && c < 0x110000 && (foldOrbit (Char.ofNat c)).contains r)
  | .chars s, r => s.holds r
  | .any, _ => true
  | .anyButNewline, r => r ≠ '\n'

inductive Inst where
  | fail
  | split (first second : Nat)
  | step (test : RuneTest) (next : Nat)
  | check (a : Assertion) (next : Nat)
  | save (slot : Nat) (next : Nat)
  | pass (next : Nat)
  | accept
  deriving Repr, Inhabited

structure Program where
  insts : Array Inst
  start : Nat
  groups : Nat
  names : Array String
  deriving Repr, Inhabited

/-! ## Spelling out counts -/

inductive RepeatKind where
  | star
  | plus
  | quest
  deriving Repr, DecidableEq, Inhabited

def RepeatKind.make : RepeatKind → Regex → Bool → Regex
  | .star, sub, g => .star sub g
  | .plus, sub, g => .plus sub g
  | .quest, sub, g => .quest sub g

/-- A repetition of `sub`, unless `sub` is empty or already the same repetition with the same
preference. -/
def repeatOnce (kind : RepeatKind) (sub : Regex) (greedy : Bool) : Regex :=
  match kind, sub with
  | _, .empty => .empty
  | .star, .star _ g | .plus, .plus _ g | .quest, .quest _ g =>
    if g = greedy then sub else kind.make sub greedy
  | _, _ => kind.make sub greedy

def spellCount (sub : Regex) (lo : Nat) (hi : Option Nat) (greedy : Bool) : Regex :=
  match hi with
  | none =>
    if lo = 0 then repeatOnce .star sub greedy
    else if lo = 1 then repeatOnce .plus sub greedy
    else .concat (List.replicate (lo - 1) sub ++ [repeatOnce .plus sub greedy])
  | some hi =>
    if lo = 0 ∧ hi = 0 then .empty
    else if lo = 1 ∧ hi = 1 then sub
    else
      let suffix := (List.range (hi - lo - 1)).foldl
        (fun acc _ => repeatOnce .quest (.concat [sub, acc]) greedy) (repeatOnce .quest sub greedy)
      let head := List.replicate lo sub
      if hi > lo then
        if lo = 0 then suffix else .concat (head ++ [suffix])
      else .concat head

mutual

def simplify : Regex → Regex
  | .capture n sub => .capture n (simplify sub)
  | .star sub g => repeatOnce .star (simplify sub) g
  | .plus sub g => repeatOnce .plus (simplify sub) g
  | .quest sub g => repeatOnce .quest (simplify sub) g
  | .bounded sub lo hi g => spellCount (simplify sub) lo hi g
  | .concat subs => .concat (simplifyAll subs)
  | .alternate subs => .alternate (simplifyAll subs)
  | r => r

def simplifyAll : List Regex → List Regex
  | [] => []
  | r :: rs => simplify r :: simplifyAll rs

end

mutual

def nullable : Regex → Bool
  | .empty | .assert _ | .star .. | .quest .. => true
  | .literal .. | .chars _ | .anyChar | .anyButNewline => false
  | .capture _ sub => nullable sub
  | .plus sub _ => nullable sub
  | .bounded sub lo _ _ => lo = 0 || nullable sub
  | .concat subs => allNullable subs
  | .alternate subs => anyNullable subs

def allNullable : List Regex → Bool
  | [] => true
  | r :: rs => nullable r && allNullable rs

def anyNullable : List Regex → Bool
  | [] => false
  | r :: rs => nullable r || anyNullable rs

end

/-! ## Compiling -/

abbrev Build := StateM (Array Inst)

def emit (i : Inst) : Build Nat :=
  modifyGet fun insts => (insts.size, insts.push i)

def place (pc : Nat) (i : Inst) : Build Unit :=
  modify fun insts => insts.setIfInBounds pc i

def choice (greedy : Bool) (body next : Nat) : Inst :=
  if greedy then .split body next else .split next body

mutual

/-- Compiles an expression whose counts are spelled out, to go on at `next`; gives the place of
its first instruction. -/
def compile : Regex → Nat → Build Nat
  | .empty, next => emit (.pass next)
  | .literal c fold, next => emit (.step (.literal c fold) next)
  | .chars s, next => emit (.step (.chars s) next)
  | .anyChar, next => emit (.step .any next)
  | .anyButNewline, next => emit (.step .anyButNewline next)
  | .assert a, next => emit (.check a next)
  | .capture n sub, next => do
    let close ← emit (.save (2 * n + 1) next)
    let body ← compile sub close
    emit (.save (2 * n) body)
  | .star sub greedy, next => do
    let loop ← emit .fail
    let body ← compile sub loop
    place loop (choice greedy body next)
    if nullable sub then emit (choice greedy body next) else pure loop
  | .plus sub greedy, next => do
    let loop ← emit .fail
    let body ← compile sub loop
    place loop (choice greedy body next)
    pure body
  | .quest sub greedy, next => do
    let body ← compile sub next
    emit (choice greedy body next)
  | .bounded .., _ => emit .fail
  | .concat subs, next => compileSeq subs next
  | .alternate subs, next => compileAlts subs next

def compileSeq : List Regex → Nat → Build Nat
  | [], next => emit (.pass next)
  | [r], next => compile r next
  | r :: rs, next => do
    let rest ← compileSeq rs next
    compile r rest

def compileAlts : List Regex → Nat → Build Nat
  | [], _ => emit .fail
  | [r], next => compile r next
  | r :: rs, next => do
    let first ← compile r next
    let others ← compileAlts rs next
    emit (.split first others)

end

def Pattern.compile (p : Pattern) : Program :=
  let build : Build Nat := do
    let _ ← emit .fail
    let accept ← emit .accept
    Regex.compile (simplify p.root) accept
  let (start, insts) := build.run #[]
  { insts, start, groups := p.groups, names := p.names }

def Program.read (pattern : String) : Except SyntaxError Program :=
  (Pattern.read pattern).map Pattern.compile

end AccessPolicy.Regex
