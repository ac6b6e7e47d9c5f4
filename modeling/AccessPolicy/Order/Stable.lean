/-!
# Stable sorting by a strict comparison

Policies and hits are ordered by a comparison of ids that is not transitive on every set of
ids (numbers compare as numbers, other texts as texts), and on such sets the order a stable
sort produces depends on how it proceeds. This module fixes the procedure:

* the list is cut into blocks of twenty, each sorted by insertion, where an element moves left
  past each neighbour it is strictly less than;
* neighbouring runs are then merged pairwise, doubling the run length each pass, by symmetric
  merging: the midpoint of the two runs is found by binary search, the middle part is rotated
  into place, and the two halves are merged in turn.

On a transitive comparison every stable sort gives the same result, so this one is then simply
the stable sort.
-/

namespace AccessPolicy.Order

/-- Inserts an element into a list held in reverse order, moving it past each element it is
strictly less than. -/
def insertReversed {α : Type} (lt : α → α → Bool) (x : α) : List α → List α
  | [] => [x]
  | y :: ys => if lt x y then y :: insertReversed lt x ys else x :: y :: ys

def insertionSort {α : Type} (lt : α → α → Bool) (xs : List α) : List α :=
  (xs.foldl (fun acc x => insertReversed lt x acc) []).reverse
def sortBlocks {α : Type} (lt : α → α → Bool) (size : Nat) (xs : List α) : List α :=
  if size = 0 ∨ xs.length ≤ size then insertionSort lt xs
  else insertionSort lt (xs.take size) ++ sortBlocks lt size (xs.drop size)
termination_by xs.length
decreasing_by simp only [List.length_drop]; omega

def searchFirst (goRight : Nat → Bool) (lo hi : Nat) : Nat :=
  if lo < hi then
    if goRight ((lo + hi) / 2) then searchFirst goRight ((lo + hi) / 2 + 1) hi
    else searchFirst goRight lo ((lo + hi) / 2)
  else lo
termination_by hi - lo
decreasing_by all_goals omega

def rotate {α : Type} (xs : Array α) (start mid stop : Nat) : Array α :=
  xs.extract 0 start ++ xs.extract mid stop ++ xs.extract start mid ++ xs.extract stop xs.size

def symMerge {α : Type} [Inhabited α] (lt : α → α → Bool) (xs : Array α) (a m b : Nat) :
    Array α :=
  if m = a + 1 then
    let i := searchFirst (fun h => lt xs[h]! xs[a]!) m b
    rotate xs a (a + 1) i
  else if b = m + 1 then
    let i := searchFirst (fun h => !lt xs[m]! xs[h]!) a m
    rotate xs i m (m + 1)
  else
    let start := searchFirst (fun c => !lt xs[(a + b) / 2 + m - 1 - c]! xs[c]!)
      (if m > (a + b) / 2 then (a + b) / 2 + m - b else a) (if m > (a + b) / 2 then (a + b) / 2 else m)
    let stop := (a + b) / 2 + m - start
    let ys := if start < m ∧ m < stop then rotate xs start m stop else xs
    let zs := if h : a < start ∧ start < (a + b) / 2 then symMerge lt ys a start ((a + b) / 2) else ys
    if h : (a + b) / 2 < stop ∧ stop < b then symMerge lt zs ((a + b) / 2) stop b else zs
termination_by b - a
decreasing_by all_goals omega

/-- One pass of merges of neighbouring runs of length `size` over the first `n` positions, from
position `a`. -/
def mergePass {α : Type} [Inhabited α] (lt : α → α → Bool) (size n : Nat) (xs : Array α)
    (a : Nat) : Array α :=
  if size = 0 then xs
  else if a + 2 * size ≤ n then
    mergePass lt size n (symMerge lt xs a (a + size) (a + 2 * size)) (a + 2 * size)
  else if a + size < n then symMerge lt xs a (a + size) n
  else xs
termination_by n + 1 - a
decreasing_by omega

def mergeRuns {α : Type} [Inhabited α] (lt : α → α → Bool) (size n : Nat) (xs : Array α) :
    Array α :=
  if size = 0 ∨ n ≤ size then xs
  else mergeRuns lt (2 * size) n (mergePass lt size n xs 0)
termination_by n - size
decreasing_by omega

def blockSize : Nat := 20

/-- Sorts a list stably by a strict comparison: insertion sort in blocks, then symmetric
merges of neighbouring runs. -/
def stableSort {α : Type} [Inhabited α] (lt : α → α → Bool) (xs : List α) : List α :=
  (mergeRuns lt blockSize xs.length (sortBlocks lt blockSize xs).toArray).toList

end AccessPolicy.Order
