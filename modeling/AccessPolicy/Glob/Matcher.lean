import AccessPolicy.Glob.Syntax
/-!
# Glob matchers
-/

namespace AccessPolicy.Glob

abbrev Bytes := List UInt8

/-- The first character of bytes and the bytes it takes: a malformed byte reads as U+FFFD and
takes one byte, and the empty text reads as U+FFFD and takes none. -/
def firstRune (s : Bytes) : Nat × Nat :=
  match s with
  | [] => (0xFFFD, 0)
  | _ =>
    let n := Utf8.sequenceLength s
    if n = 0 then (0xFFFD, 1) else (Utf8.codePoint s n, n)

def runeWidth (r : Nat) : Nat :=
  if r < 0x80 then 1 else if r < 0x800 then 2 else if r < 0x10000 then 3 else 4

def runeStarts (s : Bytes) : List (Nat × Nat) :=
  go s 0
where
  go (s : Bytes) (pos : Nat) : List (Nat × Nat) :=
    match s with
    | [] => []
    | b :: rest =>
      let (r, w) := firstRune (b :: rest)
      (pos, r) :: go (rest.drop (max w 1 - 1)) (pos + max w 1)
  termination_by s.length
  decreasing_by all_goals simp_wf <;> omega

def runeCount (s : Bytes) : Nat := (runeStarts s).length

def startsWith (s p : Bytes) : Bool := s.take p.length == p

def endsWith (s p : Bytes) : Bool := p.length ≤ s.length ∧ s.drop (s.length - p.length) == p

def indexOf? (s p : Bytes) : Option Nat :=
  (List.range (s.length + 1)).find? fun i => startsWith (s.drop i) p

def lastIndexOf? (s p : Bytes) : Option Nat :=
  (List.range (s.length + 1)).reverse.find? fun i => startsWith (s.drop i) p

def indexAny? (s : Bytes) (seps : List Nat) : Option Nat :=
  ((runeStarts s).find? fun (_, r) => seps.contains r).map (·.1)

def lastIndexAny? (s : Bytes) (seps : List Nat) : Option Nat :=
  ((runeStarts s).reverse.find? fun (_, r) => seps.contains r).map (·.1)

def codePoints (s : String) : List Nat := s.toList.map Char.toNat

inductive Matcher where
  | text (s : Bytes)
  | super
  | anyExcept (seps : List Nat)
  | single
  | list (chars : List Nat) (neg : Bool)
  | range (lo hi : Nat) (neg : Bool)
  | nothing
  | row (len : Nat) (parts : List Matcher)
  | min (n : Nat)
  | max (n : Nat)
  | everyOf (parts : List Matcher)
  | contains (needle : Bytes) (neg : Bool)
  | prefixOf (p : Bytes)
  | suffixOf (p : Bytes)
  | prefixSuffix (p q : Bytes)
  | prefixAny (p : Bytes) (seps : List Nat)
  | suffixAny (q : Bytes) (seps : List Nat)
  | anyOf (parts : List Matcher)
  /-- A middle part with optional sides, and the lengths of middle, sides and whole (`-1` when
  not fixed). -/
  | btree (value : Matcher) (left right : Option Matcher) (valueLen leftLen rightLen total : Int)
  deriving Repr, Inhabited, BEq

namespace Matcher

mutual

def len : Matcher → Int
  | .text s => runeCount s
  | .single | .list .. | .range .. => 1
  | .nothing => 0
  | .row n _ => n
  | .anyOf ms => anyOfLen ms (-1)
  | _ => -1

def anyOfLen : List Matcher → Int → Int
  | [], acc => acc
  | m :: ms, acc =>
    let l := m.len
    if acc = -1 then anyOfLen ms l
    else if l = -1 ∨ l ≠ acc then -1
    else anyOfLen ms acc

end

def mkTree (value : Matcher) (left right : Option Matcher) : Matcher :=
  let vl := value.len
  let ll := (left.map len).getD 0
  let rl := (right.map len).getD 0
  let total := if vl = -1 ∨ ll = -1 ∨ rl = -1 then -1 else ll + vl + rl
  .btree value left right vl ll rl total
def mergeLengths : List Nat → List Nat → List Nat
  | [], ys => ys
  | xs, [] => xs
  | x :: xs, y :: ys =>
    if x < y then x :: mergeLengths xs (y :: ys)
    else if y < x then y :: mergeLengths (x :: xs) ys
    else x :: mergeLengths xs ys

/-- The ends of the occurrences of `q` in `sub`, each found as the last one before the previous,
in ascending order. -/
def suffixEnds (q sub : Bytes) : Nat → List Nat
  | 0 => []
  | fuel + 1 =>
    match lastIndexOf? sub q with
    | some i => suffixEnds q (sub.take i) fuel ++ [i + q.length]
    | none => []
def depth : Matcher → Nat
  | .row _ ms | .everyOf ms | .anyOf ms => 1 + listDepth ms
  | .btree v l r .. => 1 + Nat.max v.depth (Nat.max (optDepth l) (optDepth r))
  | _ => 1
where
  listDepth : List Matcher → Nat
    | [] => 0
    | m :: ms => Nat.max m.depth (listDepth ms)
  optDepth : Option Matcher → Nat
    | some m => m.depth
    | none => 0

def earlier : Option (Nat × List Nat) → Option (Nat × List Nat) → Option (Nat × List Nat)
  | acc, none => acc
  | none, some found => some found
  | some (j, segs), some (i, seg) =>
    if i < j then some (i, seg)
    else if i > j then some (j, segs)
    else some (j, mergeLengths segs seg)

mutual

def acceptsWith : Nat → Matcher → Bytes → Bool
  | 0, _, _ => false
  | fuel + 1, m, s =>
    match m with
    | .text t => s == t
    | .super => true
    | .anyExcept seps => (indexAny? s seps).isNone
    | .single => s.length ≤ (firstRune s).2
    | .list cs neg =>
      let (r, w) := firstRune s
      s.length ≤ w && (cs.contains r == !neg)
    | .range lo hi neg =>
      let (r, w) := firstRune s
      s.length ≤ w && ((lo ≤ r && r ≤ hi) == !neg)
    | .nothing => s.isEmpty
    | .row n ms => runeCount s == n && rowMatches fuel ms s
    | .min n => runeCount s ≥ n && n > 0
    | .max n => runeCount s ≤ n
    | .everyOf ms => ms.all fun m => acceptsWith fuel m s
    | .contains needle neg => (indexOf? s needle).isSome != neg
    | .prefixOf p => startsWith s p
    | .suffixOf p => endsWith s p
    | .prefixSuffix p q => startsWith s p && endsWith s q
    | .prefixAny p seps => startsWith s p && (indexAny? (s.drop p.length) seps).isNone
    | .suffixAny q seps => endsWith s q && (indexAny? (s.take (s.length - q.length)) seps).isNone
    | .anyOf ms => ms.any fun m => acceptsWith fuel m s
    | .btree v l r _ ll rl total =>
      if total ≠ -1 ∧ total > s.length then false
      else
        let offset := if ll ≥ 0 then ll.toNat else 0
        let limit : Int := if rl ≥ 0 then s.length - rl else s.length
        treeLoop fuel v l r s offset limit

/-- The parts of a row match one after the other, each over as many characters as its length,
the last character of each part cut to its first byte. -/
def rowMatches : Nat → List Matcher → Bytes → Bool
  | 0, _, _ => false
  | _, [], _ => true
  | fuel + 1, m :: ms, s =>
    let length := m.len.toNat
    let starts := runeStarts s
    if starts.length < length ∨ length = 0 then false
    else
      let next := ((starts.drop (length - 1)).head?.map (·.1)).getD 0
      acceptsWith fuel m (s.take (next + 1)) && rowMatches fuel ms (s.drop (next + 1))

def treeLoop : Nat → Matcher → Option Matcher → Option Matcher → Bytes → Nat → Int → Bool
  | 0, _, _, _, _, _, _ => false
  | fuel + 1, v, l, r, s, offset, limit =>
    if (offset : Int) < limit then
      let window := (s.drop offset).take (limit.toNat - offset)
      match indexWith fuel v window with
      | none => false
      | some (index, segments) =>
        let before := s.take (offset + index)
        let leftOk := match l with
          | some m => acceptsWith fuel m before
          | none => before.isEmpty
        let rightOk := leftOk && segments.reverse.any fun seg =>
          let after := s.drop (offset + index + seg)
          match r with
          | some m => acceptsWith fuel m after
          | none => after.isEmpty
        if rightOk then true
        else
          let step := Nat.max (firstRune (s.drop (offset + index))).2 1
          treeLoop fuel v l r s (offset + index + step) limit
    else false

/-- The first place where the matcher matches a piece of the text, with the byte lengths of the
pieces it matches there. -/
def indexWith : Nat → Matcher → Bytes → Option (Nat × List Nat)
  | 0, _, _ => none
  | fuel + 1, m, s =>
    match m with
    | .text t => (indexOf? s t).map (·, [t.length])
    | .super => some (0, (runeStarts s).map (·.1) ++ [s.length])
    | .anyExcept seps =>
      match indexAny? s seps with
      | some 0 => some (0, [0])
      | found =>
        let head := match found with
          | some i => s.take i
          | none => s
        some (0, (runeStarts head).map (·.1) ++ [head.length])
    | .single => (runeStarts s).head?.map fun (i, r) => (i, [runeWidth r])
    | .list cs neg =>
      ((runeStarts s).find? fun (_, r) => neg == !cs.contains r).map fun (i, r) => (i, [runeWidth r])
    | .range lo hi neg =>
      ((runeStarts s).find? fun (_, r) => neg != (lo ≤ r && r ≤ hi)).map
        fun (i, r) => (i, [runeWidth r])
    | .nothing => some (0, [0])
    | .row n ms =>
      ((runeStarts s).map (·.1) |>.takeWhile (fun i => s.length - i ≥ n) |>.find? fun i =>
        rowMatches fuel ms (s.drop i)).map (·, [n])
    | .min n =>
      if s.length + 1 ≤ n then none
      else
        let segs := ((runeStarts s).zipIdx.filter (fun (_, k) => k + 1 ≥ n)).map
          fun ((i, r), _) => i + runeWidth r
        if segs.isEmpty then none else some (0, segs)
    | .max n => some (0, 0 :: ((runeStarts s).take n).map fun (i, r) => i + runeWidth r)
    | .everyOf ms => everyIndex fuel ms s 0 0 none
    | .contains needle neg =>
      match indexOf? s needle, neg with
      | none, false => none
      | some idx, false =>
        let offset := idx + needle.length
        if s.length ≤ offset then some (0, [offset])
        else
          let rest := s.drop offset
          some (0, (runeStarts rest).map (offset + ·.1) ++ [offset + rest.length])
      | found, true =>
        let rest := match found with
          | some idx => s.take idx
          | none => s
        some (0, (runeStarts rest).map (·.1) ++ [rest.length])
    | .prefixOf p =>
      (indexOf? s p).map fun idx =>
        let sub := s.drop (idx + p.length)
        (idx, p.length :: (runeStarts sub).map fun (i, r) => p.length + i + runeWidth r)
    | .suffixOf p => (indexOf? s p).map fun idx => (0, [idx + p.length])
    | .prefixSuffix p q =>
      match indexOf? s p with
      | none => none
      | some pi =>
        if q.isEmpty then some (pi, [s.length - pi])
        else
          let segs := suffixEnds q (s.drop pi) (s.length + 1)
          if segs.isEmpty then none else some (pi, segs)
    | .prefixAny p seps =>
      (indexOf? s p).map fun idx =>
        let sub := s.drop (idx + p.length)
        let sub := match indexAny? sub seps with
          | some i => sub.take i
          | none => sub
        (idx, p.length :: (runeStarts sub).map fun (i, r) => p.length + i + runeWidth r)
    | .suffixAny q seps =>
      (indexOf? s q).map fun idx =>
        let start := match lastIndexAny? (s.take idx) seps with
          | some i => i + 1
          | none => 0
        (start, [idx + q.length - start])
    | .anyOf ms => ms.foldl (fun acc m => earlier acc (indexWith fuel m s)) none
    | .btree .. => none

def everyIndex : Nat → List Matcher → Bytes → Nat → Nat → Option (List Nat) →
    Option (Nat × List Nat)
  | 0, _, _, _, _, _ => none
  | _, [], _, index, _, current => some (index, current.getD [])
  | fuel + 1, m :: ms, s, index, offset, current =>
    match indexWith fuel m (s.drop index) with
    | none => none
    | some (idx, seg) =>
      let next : List Nat := match current with
        | none => seg
        | some cur =>
          let delta : Int := (index : Int) - (idx + offset)
          cur.flatMap fun (ex : Nat) => seg.filter fun (n : Nat) => (ex : Int) + delta = (n : Int)
      if current.isSome ∧ next.isEmpty then none
      else everyIndex fuel ms s (idx + offset) (offset + idx) (some next)

end

def accepts (m : Matcher) (s : Bytes) : Bool :=
  acceptsWith ((m.depth + 1) * (s.length + 2) * 4) m s

end Matcher

end AccessPolicy.Glob
