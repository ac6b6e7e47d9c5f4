/-!
# Whether two simple patterns overlap
-/

namespace AccessPolicy.Regex.Overlap

inductive Atom where
  | char (c : Char)
  | any
  | set (ranges : List (Nat × Nat))
  deriving DecidableEq, Repr

inductive Repeat where
  | once
  | plus
  | star
  deriving DecidableEq, Repr

structure Token where
  atom : Atom
  rep : Repeat
  deriving DecidableEq, Repr

def rangesMeet (a b : Nat × Nat) : Bool := a.1 ≤ b.2 && b.1 ≤ a.2

def Atom.meets : Atom → Atom → Bool
  | .char c, .char d => c == d
  | .char c, .set rs | .set rs, .char c => rs.any fun r => r.1 ≤ c.toNat && c.toNat ≤ r.2
  | .any, _ | _, .any => true
  | .set rs, .set ss => rs.any fun r => ss.any (rangesMeet r)
def Token.meets (a b : Token) : Bool := a.atom.meets b.atom

def setPoints (rs : List (Nat × Nat)) : List Nat :=
  ((rs.flatMap fun r => List.range' r.1 (r.2 + 1 - r.1)).mergeSort (· ≤ ·)).eraseDups

/-- Whether two atoms are the same: the same character, both `.`, or sets of the same
characters. -/
def Atom.same : Atom → Atom → Bool
  | .char c, .char d => c == d
  | .any, .any => true
  | .set rs, .set ss => setPoints rs == setPoints ss
  | _, _ => false

/-! ## Reading a pattern -/

inductive Halt where
  | invalid
  | stop
  deriving DecidableEq, Repr

/-- One character, a backslash making the next one plain: the character, whether it was
escaped, and the rest; a lone backslash at the end does not read. -/
def readChar : List Char → Except Halt (Char × Bool × List Char)
  | [] => .error .stop
  | ['\\'] => .error .invalid
  | '\\' :: c :: rest => .ok (c, true, rest)
  | c :: rest => .ok (c, false, rest)

/-- Reads the inside of a set after `[`, up to its `]`: the ranges so far, and the character
before, which a `-` makes the start of a range. -/
def readSet : Nat → List Char → List (Nat × Nat) → Option Char →
    Except Halt (List (Nat × Nat) × List Char)
  | 0, _, _, _ => .error .invalid
  | _ + 1, [], _, _ => .error .invalid
  | fuel + 1, cs, acc, prev => do
    let (c, escaped, rest) ← readChar cs
    if !escaped && c = '-' then
      let (stop, _, rest) ← readChar rest
      match prev with
      | none => .error .invalid
      | some p =>
        if stop < p then .error .invalid
        else if stop = p then readSet fuel rest acc none
        else readSet fuel rest (acc ++ [(p.toNat + 1, stop.toNat)]) none
    else if !escaped && c = ']' then .ok (acc, rest)
    else readSet fuel rest (acc ++ [(c.toNat, c.toNat)]) (some c)
def readRepeat : List Char → Repeat × List Char
  | '+' :: rest => (.plus, rest)
  | '*' :: rest => (.star, rest)
  | cs => (.once, cs)
def readTokens : Nat → List Char → List Token → Except Halt (List Token)
  | 0, _, acc => .ok acc
  | _ + 1, [], acc => .ok acc
  | fuel + 1, cs, acc =>
    let step : Except Halt (Atom × List Char) := do
      let (c, escaped, rest) ← readChar cs
      if !escaped && c = '.' then pure (.any, rest)
      else if !escaped && c = '[' then
        let (ranges, rest) ← readSet (rest.length + 1) rest [] none
        pure (.set ranges, rest)
      else pure (.char c, rest)
    match step with
    | .error .stop => .ok acc
    | .error .invalid => .error .invalid
    | .ok (atom, rest) =>
      let (rep, rest) := readRepeat rest
      readTokens fuel rest (acc ++ [⟨atom, rep⟩])

/-- Merges adjacent repeated tokens of one atom: `x*x*` to `x*`, `x*x+` and `x+x*` to `x+`. -/
def simplify : List Token → List Token → List Token
  | done, [] => done.reverse
  | [], t :: ts => simplify [t] ts
  | latest :: before, t :: ts =>
    if latest.atom.same t.atom then
      match latest.rep, t.rep with
      | .star, .star => simplify (latest :: before) ts
      | .star, .plus => simplify (t :: before) ts
      | .plus, .star => simplify (latest :: before) ts
      | _, _ => simplify (t :: latest :: before) ts
    else simplify (t :: latest :: before) ts
def tokensOf (pattern : String) : Option (List Token) :=
  match readTokens (pattern.length + 1) pattern.toList [] with
  | .ok ts => some (simplify [] ts)
  | .error _ => none

/-! ## The walk -/

/-- Drops the checked leading and trailing runs of tokens without repetition, all but one token
of each; none when a checked pair does not meet. -/
def trim (a b : List Token) : Option (List Token × List Token) :=
  let x := a.toArray
  let y := b.toArray
  let plainAt (arr : Array Token) (i : Nat) : Bool := (arr[i]?.map (·.rep == .once)).getD false
  let lead := ((List.range (min x.size y.size)).find? fun i => !(plainAt x i && plainAt y i)).getD
    (min x.size y.size)
  if (List.range lead).any fun i => !(x.getD i ⟨.any, .once⟩).meets (y.getD i ⟨.any, .once⟩) then
    none
  else
    let l := if lead > 0 then lead - 1 else 0
    let room := min (x.size - l) (y.size - l)
    let back := ((List.range room).find? fun k =>
      !(plainAt x (x.size - 1 - k) && plainAt y (y.size - 1 - k))).getD room
    if (List.range back).any fun k =>
        !(x.getD (x.size - 1 - k) ⟨.any, .once⟩).meets (y.getD (y.size - 1 - k) ⟨.any, .once⟩) then
      none
    else
      let cut := if back > 0 then back - 1 else 0
      some ((a.drop l).take (x.size - l - cut), (b.drop l).take (y.size - l - cut))

mutual

def walkPlain : Nat → List Token → List Token → Bool
  | 0, _, _ => false
  | _ + 1, [], [] => true
  | _ + 1, [], _ :: _ | _ + 1, _ :: _, [] => false
  | fuel + 1, a :: as, b :: bs =>
    if a.rep == .once && b.rep == .once then a.meets b && walkPlain fuel as bs
    else walkRepeat fuel (a :: as) (b :: bs)

def walkRepeat : Nat → List Token → List Token → Bool
  | 0, _, _ => false
  | fuel + 1, a :: as, other =>
    match a.rep with
    | .plus => walkPlus fuel (a :: as) other
    | .star => walkStar fuel (a :: as) other
    | .once =>
      match other with
      | b :: bs =>
        match b.rep with
        | .plus => walkPlus fuel (b :: bs) (a :: as)
        | .star => walkStar fuel (b :: bs) (a :: as)
        | .once => false
      | [] => false
  | _ + 1, [], _ => false

/-- A walk from `x+`: the other sequence's next token must meet `x`, then the walk goes on as
from `x*` after it. -/
def walkPlus : Nat → List Token → List Token → Bool
  | 0, _, _ => false
  | fuel + 1, x :: rest, b :: bs => x.meets b && walkStar fuel (x :: rest) bs
  | _ + 1, _, _ => false

/-- A walk from `x*`: `x` takes the other sequence's tokens, trying at each one that meets the
token after `x*` to go on from there. -/
def walkStar : Nat → List Token → List Token → Bool
  | 0, _, _ => false
  | fuel + 1, x :: rest, other => gobble fuel x rest other
  | _ + 1, [], _ => false

def gobble : Nat → Token → List Token → List Token → Bool
  | 0, _, _, _ => false
  | _ + 1, _, rest, [] => rest.isEmpty
  | fuel + 1, x, rest, t :: ts =>
    match rest with
    | next :: _ =>
      if t.meets next then
        walkPlain fuel rest (t :: ts) || (t.meets x && gobble fuel x rest ts)
      else t.meets x && gobble fuel x rest ts
    | [] => t.meets x && gobble fuel x rest ts

end

def overlap? (a b : String) : Option Bool := do
  let x ← tokensOf a
  let y ← tokensOf b
  match trim x y with
  | none => some false
  | some (x, y) => some (walkPlain (8 * (x.length + y.length) + 8) x y)

end AccessPolicy.Regex.Overlap
