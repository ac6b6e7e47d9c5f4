import AccessPolicy.Regex.Program
/-!
# Regular expressions: searching

A program is run by backtracking: from a start position the preferred path of every split is
followed first, and the other path is tried when the first one fails. Each pair of an
instruction and a position is taken at most once; a pair met again cannot succeed where it
failed before, since what follows it does not depend on how it was reached. A search tries
each start position from the left and keeps the pairs already taken, so that it stays linear in
the length of the text for a given program. The first path to reach `accept` is the match: the
leftmost one, and among those starting there the one the preferences choose.
-/

namespace AccessPolicy.Regex

def isWordChar (c : Option Char) : Bool :=
  match c with
  | some c => CharGroup.holds .word c
  | none => false
def assertionHolds (text : Array Char) (pos : Nat) : Assertion → Bool
  | .textStart => pos = 0
  | .textEnd => pos = text.size
  | .lineStart => pos = 0 || (pos ≤ text.size && text[pos - 1]? = some '\n')
  | .lineEnd => pos = text.size || text[pos]? = some '\n'
  | .wordBoundary => isWordChar (if pos = 0 then none else text[pos - 1]?) != isWordChar text[pos]?
  | .notWordBoundary =>
    isWordChar (if pos = 0 then none else text[pos - 1]?) == isWordChar text[pos]?

inductive Job where
  | second (pc pos : Nat)
  | restore (slot : Nat) (old : Option Nat)
  deriving Repr, Inhabited

/-- A match: for each capture slot, the position recorded, if any. -/
abbrev Captures := Array (Option Nat)

structure Machine where
  jobs : List Job
  taken : Array Bool
  caps : Captures
  deriving Inhabited

def Machine.take (m : Machine) (width pc pos : Nat) : Option (Nat × Nat) × Machine :=
  let i := pc * width + pos
  if m.taken[i]?.getD true then (none, m)
  else (some (pc, pos), { m with taken := m.taken.setIfInBounds i true })

/-- Follows paths from `at`, or from the next job when there is none, until a path matches or
no work is left. -/
def Program.run (p : Program) (text : Array Char) :
    Nat → Option (Nat × Nat) → Machine → Option Captures × Machine
  | 0, _, m => (none, m)
  | fuel + 1, none, m =>
    match m.jobs with
    | [] => (none, m)
    | .second pc pos :: jobs =>
      let m := { m with jobs }
      match p.insts[pc]? with
      | some (.split _ b) =>
        let (go, m) := m.take (text.size + 1) b pos
        p.run text fuel go m
      | _ => p.run text fuel none m
    | .restore slot old :: jobs =>
      p.run text fuel none { m with jobs, caps := m.caps.setIfInBounds slot old }
  | fuel + 1, some (pc, pos), m =>
    let width := text.size + 1
    match p.insts[pc]? with
    | some (.split a _) =>
      let (go, m) := { m with jobs := .second pc pos :: m.jobs }.take width a pos
      p.run text fuel go m
    | some (.step test next) =>
      match text[pos]? with
      | some c =>
        if test.holds c then
          let (go, m) := m.take width next (pos + 1)
          p.run text fuel go m
        else p.run text fuel none m
      | none => p.run text fuel none m
    | some (.check a next) =>
      if assertionHolds text pos a then
        let (go, m) := m.take width next pos
        p.run text fuel go m
      else p.run text fuel none m
    | some (.save slot next) =>
      let old := m.caps[slot]?.getD none
      let m := { m with jobs := .restore slot old :: m.jobs,
                        caps := m.caps.setIfInBounds slot (some pos) }
      let (go, m) := m.take width next pos
      p.run text fuel go m
    | some (.pass next) =>
      let (go, m) := m.take width next pos
      p.run text fuel go m
    | some .accept => (some (m.caps.setIfInBounds 1 (some pos)), m)
    | some .fail | none => p.run text fuel none m

def Program.searchFrom (p : Program) (text : Array Char) (fuel : Nat) :
    Nat → Nat → Machine → Option Captures
  | 0, _, _ => none
  | tries + 1, pos, m =>
    if pos > text.size then none
    else
      let m := { m with jobs := [], caps := m.caps.setIfInBounds 0 (some pos) }
      let (go, m) := m.take (text.size + 1) p.start pos
      match go with
      | none => p.searchFrom text fuel tries (pos + 1) m
      | some _ =>
        match p.run text fuel go m with
        | (some caps, _) => some caps
        | (none, m) => p.searchFrom text fuel tries (pos + 1) m

def Program.search (p : Program) (text : Array Char) (pos : Nat) : Option Captures :=
  let width := text.size + 1
  let slots := 2 * (p.groups + 1)
  let m : Machine :=
    { jobs := [], taken := Array.replicate (p.insts.size * width) false,
      caps := Array.replicate slots none }
  p.searchFrom text (4 * p.insts.size * width + 8) (width + 1) pos m

def Program.matches (p : Program) (s : String) : Bool :=
  (p.search s.toList.toArray 0).isSome

def Captures.span (caps : Captures) : Nat × Nat :=
  ((caps[0]?.getD none).getD 0, (caps[1]?.getD none).getD 0)

/-- Successive matches from `pos`, at most `limit` of them; `prevEnd` is where the last match
ended. -/
def Program.findFrom (p : Program) (text : Array Char) :
    Nat → Nat → Option Nat → Nat → List Captures
  | 0, _, _, _ => []
  | fuel + 1, pos, prevEnd, limit =>
    if limit = 0 ∨ pos > text.size then []
    else
      match p.search text pos with
      | none => []
      | some caps =>
        let (start, stop) := caps.span
        let empty := stop = pos
        let accept := !(empty && prevEnd = some start)
        let next := if empty then pos + 1 else stop
        let rest := p.findFrom text fuel next (some stop) (if accept then limit - 1 else limit)
        if accept then caps :: rest else rest

def Program.findAll (p : Program) (text : Array Char) (limit : Option Nat) : List Captures :=
  p.findFrom text (text.size + 2) 0 none (limit.getD (text.size + 1))

def slice (text : Array Char) (a b : Nat) : String :=
  String.ofList ((text.toList.drop a).take (b - a))

def Captures.group? (caps : Captures) (text : Array Char) (k : Nat) : Option String :=
  match caps[2 * k]?, caps[2 * k + 1]? with
  | some (some a), some (some b) => some (slice text a b)
  | _, _ => none

def Program.split (p : Program) (pattern s : String) : List String :=
  let text := s.toList.toArray
  if pattern ≠ "" ∧ s = "" then [""]
  else
    let spans := (p.findAll text none).map Captures.span
    let (pieces, beg, stop) := spans.foldl (fun (acc : List String × Nat × Nat) (a, b) =>
      let (pieces, beg, _) := acc
      ((if b ≠ 0 then pieces ++ [slice text beg a] else pieces), b, a)) ([], 0, 0)
    if stop ≠ text.size then pieces ++ [slice text beg text.size] else pieces

def templateNameChar (c : Char) : Bool :=
  CharClass.letter c || CharClass.decimalDigit c || c = '_'

/-- The group a template names after a `$`: its name or number (none for a name that is not a
number), and what follows. -/
def templateGroup (t : List Char) : Option (String × Option Nat × List Char) :=
  let (braced, t) := match t with
    | '{' :: u => (true, u)
    | u => (false, u)
  let name := t.takeWhile templateNameChar
  let after := t.drop name.length
  if name.isEmpty then none
  else
    let rest? : Option (List Char) :=
      if braced then (match after with
        | '}' :: u => some u
        | _ => none)
      else some after
    rest?.map fun rest =>
      let number :=
        if name.all (fun c => '0' ≤ c ∧ c ≤ '9') ∧ name.length ≤ 8 ∧
            !(name.length > 1 ∧ name.head? = some '0') then
          some (name.foldl (fun n c => n * 10 + (c.toNat - '0'.toNat)) 0)
        else none
      (String.ofList name, number, rest)
def Program.expand (p : Program) (text : Array Char) (caps : Captures) :
    Nat → List Char → String
  | 0, _ => ""
  | fuel + 1, t =>
    match t with
    | [] => ""
    | '$' :: '$' :: rest => "$" ++ p.expand text caps fuel rest
    | '$' :: rest =>
      match templateGroup rest with
      | none => "$" ++ p.expand text caps fuel rest
      | some (name, number, rest) =>
        let value := match number with
          | some k => (caps.group? text k).getD ""
          | none =>
            match (p.names.toList.zipIdx).find? fun (n, _) => n = name with
            | some (_, k) => (caps.group? text k).getD ""
            | none => ""
        value ++ p.expand text caps fuel rest
    | c :: rest => String.singleton c ++ p.expand text caps fuel rest

/-- Replaces, from `searchPos` on, each match by `piece`; `lastEnd` is where the last match
ended and `out` the text built so far. -/
def Program.replaceFrom (p : Program) (text : Array Char) (piece : Captures → String) :
    Nat → Nat → Nat → String → String
  | 0, _, lastEnd, out => out ++ slice text lastEnd text.size
  | fuel + 1, searchPos, lastEnd, out =>
    if searchPos > text.size then out ++ slice text lastEnd text.size
    else
      match p.search text searchPos with
      | none => out ++ slice text lastEnd text.size
      | some caps =>
        let (a, b) := caps.span
        let out := out ++ slice text lastEnd a
        let out := if b > lastEnd ∨ a = 0 then out ++ piece caps else out
        let next := if searchPos + 1 > b then searchPos + 1 else b
        p.replaceFrom text piece fuel next b out
def Program.replaceAll (p : Program) (s template : String) : String :=
  let text := s.toList.toArray
  let chars := template.toList
  p.replaceFrom text (fun caps => p.expand text caps (chars.length + 1) chars)
    (text.size + 2) 0 0 ""

def Program.submatches (p : Program) (s : String) (limit : Option Nat) : List (List String) :=
  let text := s.toList.toArray
  (p.findAll text limit).map fun caps =>
    (List.range (p.groups + 1)).map fun k => (caps.group? text k).getD ""

def Program.findTexts (p : Program) (s : String) (limit : Option Nat) : List String :=
  let text := s.toList.toArray
  (p.findAll text limit).map fun caps => (caps.group? text 0).getD ""

end AccessPolicy.Regex
