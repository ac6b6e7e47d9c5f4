/-!
# Tables of code points

The Unicode tables of this library are kept as text and read once into arrays. A range is
written `lo-hi`, or `lo` for a single code point, in hexadecimal; a case-map entry is written
`lo-hi/stride±delta`, and moves every code point from `lo` to `hi` in steps of `stride` by
`delta`. Words are separated by blanks.

A run table lists labelled spans that follow each other in order, each word a run: `gap>` when
`gap` code points lie between the run and the one before it, then `n` when the run holds `n + 1`
code points, then the label, which starts with a capital. These numbers are in base 36.

Every table is sorted by first code point, and its spans are disjoint, so a lookup bisects it.
A case-map entry with a stride of two spans the code points between its own, but the table
holds no other entry there, so bisection finds the one entry that can hold a code point.
-/

namespace AccessPolicy.CharClass
def hexValue? (c : Char) : Option Nat :=
  if '0' ≤ c ∧ c ≤ '9' then some (c.toNat - '0'.toNat)
  else if 'a' ≤ c ∧ c ≤ 'f' then some (c.toNat - 'a'.toNat + 10)
  else if 'A' ≤ c ∧ c ≤ 'F' then some (c.toNat - 'A'.toNat + 10)
  else none

def hexNumber (cs : List Char) : Nat :=
  cs.foldl (fun n c => n * 16 + (hexValue? c).getD 0) 0

def readRange (word : String) : Nat × Nat :=
  match word.splitOn "-" with
  | [lo, hi] => (hexNumber lo.toList, hexNumber hi.toList)
  | _ => (hexNumber word.toList, hexNumber word.toList)

def tableWords (text : String) : Array String :=
  ((text.splitOn " ").filter (· ≠ "")).toArray

def readRanges (text : String) : Array (Nat × Nat) :=
  (tableWords text).map readRange

def base36Value? (c : Char) : Option Nat :=
  if '0' ≤ c ∧ c ≤ '9' then some (c.toNat - '0'.toNat)
  else if 'a' ≤ c ∧ c ≤ 'z' then some (c.toNat - 'a'.toNat + 10)
  else none

def base36Number (cs : List Char) : Nat :=
  cs.foldl (fun n c => n * 36 + (base36Value? c).getD 0) 0

/-- One run of a run table: the code points skipped before it, how many more than one it holds,
and its label. -/
def readRun (word : String) : Nat × Nat × String :=
  let (gap, rest) := match word.toList.splitOn '>' with
    | [g, r] => (base36Number g, r)
    | cs => (0, cs.flatten)
  let count := rest.takeWhile fun c => (base36Value? c).isSome
  (gap, base36Number count, String.ofList (rest.drop count.length))

def readRuns (text : String) : Array (Nat × Nat × String) :=
  ((tableWords text).foldl (fun (acc : Array (Nat × Nat × String) × Nat) word =>
    let (gap, more, label) := readRun word
    let lo := acc.2 + gap
    (acc.1.push (lo, lo + more, label), lo + more + 1)) (#[], 0)).1

/-- The entry of a table whose span holds `c`, by bisection over the entries from `lo` to
`hi - 1`. -/
def findSpan {α : Type} (span : α → Nat × Nat) (table : Array α) (c : Nat) : Option α :=
  go 0 table.size
where
  go (lo hi : Nat) : Option α :=
    if lo < hi then
      let mid := (lo + hi) / 2
      match table[mid]? with
      | some e =>
        if c < (span e).1 then go lo mid
        else if (span e).2 < c then go (mid + 1) hi
        else some e
      | none => none
    else none
  termination_by hi - lo

def rangesHold (table : Array (Nat × Nat)) (c : Nat) : Bool :=
  (findSpan id table c).isSome

def labelAt? {α : Type} (table : Array (Nat × Nat × α)) (c : Nat) : Option α :=
  (findSpan (fun (e : Nat × Nat × α) => (e.1, e.2.1)) table c).map (·.2.2)

structure CaseEntry where
  lo : Nat
  hi : Nat
  stride : Nat
  delta : Int

def readCaseEntry (word : String) : CaseEntry :=
  match word.splitOn "/" with
  | [span, rest] =>
    let (lo, hi) := readRange span
    let sign : Int := if rest.contains '-' then -1 else 1
    match (rest.splitOn "+").flatMap (·.splitOn "-") with
    | [stride, delta] =>
      { lo, hi, stride := stride.toNat?.getD 1, delta := sign * hexNumber delta.toList }
    | _ => { lo, hi, stride := 1, delta := 0 }
  | _ => { lo := 0, hi := 0, stride := 1, delta := 0 }

def readCaseMap (text : String) : Array CaseEntry :=
  (tableWords text).map readCaseEntry

/-- Where a case map sends `c`: the entry whose span holds it moves it when `c` is one of its
steps, and nothing else does. -/
def applyCaseMap (table : Array CaseEntry) (c : Char) : Char :=
  match findSpan (fun e => (e.lo, e.hi)) table c.toNat with
  | some e =>
    if (c.toNat - e.lo) % e.stride = 0 then Char.ofNat ((c.toNat : Int) + e.delta).toNat else c
  | none => c

end AccessPolicy.CharClass
