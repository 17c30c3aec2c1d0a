/-!
# Pattern-defeating quicksort

A range of an array, from `low` to before `high`, is divided by a pivot and its parts are sorted,
short ones by insertion; ranges that are sorted already are recognized, and too many bad pivots lead
to a heap.  The sort is not stable: of elements that are equal any may come first, but which one
does depends on nothing but the list.
-/

namespace Unclosed.Sorting

variable {α : Type} (less : α → α → Bool)

/-! ## Insertion -/

/-- Whether the element at `i` is less than the one at `j`; nothing is outside of the array. -/
def lessAt (xs : Array α) (i j : Nat) : Bool :=
  match xs[i]?, xs[j]? with
  | some x, some y => less x y
  | _, _ => false

/-- Shifts an element down past greater ones, not below `low`. -/
def shiftDown (low : Nat) : (i : Nat) → Array α → Array α
  | 0, xs => xs
  | i + 1, xs =>
    if low ≤ i && lessAt less xs (i + 1) i then shiftDown low i (xs.swapIfInBounds (i + 1) i)
    else xs

/-- Shifts the element before `i` up past lesser ones, at most `count` places. -/
def shiftUp : (count i : Nat) → Array α → Array α
  | 0, _, xs => xs
  | count + 1, i, xs =>
    if lessAt less xs i (i - 1) then shiftUp count (i + 1) (xs.swapIfInBounds i (i - 1)) else xs

def insertionSort (low high : Nat) (xs : Array α) : Array α :=
  (List.range' (low + 1) (high - (low + 1))).foldl (fun xs i => shiftDown less low i xs) xs

/-- The first place from `i` on whose element is less than the one before it, among `count` places;
the place after them if there is none. -/
def firstDescent (xs : Array α) : (count i : Nat) → Nat
  | 0, i => i
  | count + 1, i => if lessAt less xs i (i - 1) then i else firstDescent xs count (i + 1)

def shortestRepair : Nat := 50

/-- Removes descents from `i` on by shifting both of their elements, and tells whether the range is
sorted once there are none.  It is given up when there are `steps` of them or the range is short. -/
def repair (low high : Nat) : (steps i : Nat) → Array α → Array α × Bool
  | 0, _, xs => (xs, false)
  | steps + 1, i, xs =>
    let i := firstDescent less xs (high - i) i
    if i = high then (xs, true)
    else if high - low < shortestRepair then (xs, false)
    else
      let xs := xs.swapIfInBounds i (i - 1)
      let xs := if 2 ≤ i - low then shiftDown less 0 (i - 1) xs else xs
      let xs := if 2 ≤ high - i then shiftUp less (high - (i + 1)) (i + 1) xs else xs
      repair low high steps i xs

/-! ## Heaps -/

/-- Lets the element at `root` sink below greater children, in a heap of `size` elements that starts
at `low`.  It sinks at most `fuel` times. -/
def sink (low size : Nat) : (fuel root : Nat) → Array α → Array α
  | 0, _, xs => xs
  | fuel + 1, root, xs =>
    let left := 2 * root + 1
    if size ≤ left then xs
    else
      let child :=
        if left + 1 < size && lessAt less xs (low + left) (low + left + 1) then left + 1 else left
      if lessAt less xs (low + root) (low + child) then
        sink low size fuel child (xs.swapIfInBounds (low + root) (low + child))
      else xs

def heapSort (low high : Nat) (xs : Array α) : Array α :=
  let size := high - low
  let heap :=
    (List.range ((size - 1) / 2 + 1)).foldr (fun i xs => sink less low size size i xs) xs
  (List.range size).foldr
    (fun i xs => sink less low i size 0 (xs.swapIfInBounds low (low + i))) heap

/-!
## Pivots

The element by which a range is divided is the median of a few samples.  The samples also show
whether the range is likely to be sorted already, or the other way round.
-/

inductive Trend where
  | rising
  | falling
  | unknown
  deriving DecidableEq, Repr

/-- Two places in the order of their elements, and how often places were exchanged so far. -/
def inOrder (xs : Array α) (i j swaps : Nat) : Nat × Nat × Nat :=
  if lessAt less xs j i then (j, i, swaps + 1) else (i, j, swaps)

def median (xs : Array α) (i j k swaps : Nat) : Nat × Nat :=
  let (i, j, swaps) := inOrder less xs i j swaps
  let (j, _, swaps) := inOrder less xs j k swaps
  let (_, j, swaps) := inOrder less xs i j swaps
  (j, swaps)

/-- From this length on each sample is the median of three neighbours. -/
def shortestNinther : Nat := 50

/-- The place of the pivot.  The samples rise if no places had to be exchanged, and fall if all
had. -/
def choosePivot (low high : Nat) (xs : Array α) : Nat × Trend :=
  let quarter := (high - low) / 4
  let sample (i swaps : Nat) : Nat × Nat :=
    if shortestNinther ≤ high - low then median less xs (i - 1) i (i + 1) swaps else (i, swaps)
  let (i, swaps) := sample (low + quarter) 0
  let (j, swaps) := sample (low + quarter * 2) swaps
  let (k, swaps) := sample (low + quarter * 3) swaps
  let (pivot, swaps) := median less xs i j k swaps
  (pivot, if swaps = 0 then .rising else if swaps = 12 then .falling else .unknown)

def nextNumber (r : UInt64) : UInt64 :=
  let r := r ^^^ (r <<< 13)
  let r := r ^^^ (r >>> 7)
  r ^^^ (r <<< 17)

/-- Exchanges three elements around the middle of the range with others, so that a pattern that
leads to bad pivots is broken. -/
def scatter (low high : Nat) (xs : Array α) : Array α :=
  let length := high - low
  let exchange (state : UInt64 × Array α) (i : Nat) : UInt64 × Array α :=
    let r := nextNumber state.1
    let other := r.toNat % (1 <<< (Nat.log2 length + 1))
    let other := if length ≤ other then other - length else other
    (r, state.2.swapIfInBounds (low + length / 4 * 2 - 1 + i) (low + other))
  ([0, 1, 2].foldl exchange (UInt64.ofNat length, xs)).2

def reverseRange (low high : Nat) (xs : Array α) : Array α :=
  (List.range ((high - low) / 2)).foldl
    (fun xs i => xs.swapIfInBounds (low + i) (high - 1 - i)) xs

/-! ## Dividing ranges -/

/-- The first place from `i` on, not after `last`, that the test does not hold for, or the place
after `last`.  At most `fuel` places are passed. -/
def skipUp (test : Nat → Bool) (last : Nat) : (fuel i : Nat) → Nat
  | 0, i => i
  | fuel + 1, i => if i ≤ last && test i then skipUp test last fuel (i + 1) else i

/-- The first place from `j` down, not before `first`, that the test does not hold for, or the place
before `first`. -/
def skipDown (test : Nat → Bool) (first : Nat) : (j : Nat) → Nat
  | 0 => 0
  | j + 1 => if first ≤ j + 1 && test (j + 1) then skipDown test first j else j + 1

/-- The first place from `i` to `j` that is not low, and the last one that is. -/
def misplaced (isLow : α → Bool) (i j : Nat) (xs : Array α) : Nat × Nat :=
  let i := skipUp (fun k => xs[k]?.any isLow) j (j + 1 - i) i
  (i, skipDown (fun k => !xs[k]?.any isLow) i j)

/-- Exchanges elements from both ends, `i` and `j`, until the low ones stand first, and returns
where the ends have met. -/
def exchange (isLow : α → Bool) : (fuel i j : Nat) → Array α → Array α × Nat × Nat
  | 0, i, j, xs => (xs, i, j)
  | fuel + 1, i, j, xs =>
    let (i, j) := misplaced isLow i j xs
    if j < i then (xs, i, j) else exchange isLow fuel (i + 1) (j - 1) (xs.swapIfInBounds i j)

/-- Divides the range into elements less than the pivot, the pivot, and the others.  Returns the
new place of the pivot and whether all elements but the pivot stood right. -/
def divide (low high pivot : Nat) (xs : Array α) : Array α × Nat × Bool :=
  let xs := xs.swapIfInBounds low pivot
  let isLow (x : α) := xs[low]?.any (less x)
  let (i, j) := misplaced isLow (low + 1) (high - 1) xs
  let (ys, _, place) := exchange isLow (high - low) (low + 1) (high - 1) xs
  (ys.swapIfInBounds place low, place, j < i)

/-- Divides a range without elements less than the pivot into those equal to it and the others.
Returns the place of the first of the others. -/
def divideEqual (low high pivot : Nat) (xs : Array α) : Array α × Nat :=
  let xs := xs.swapIfInBounds low pivot
  let isLow (x : α) := xs[low]?.any fun p => !less p x
  let (ys, place, _) := exchange isLow (high - low) (low + 1) (high - 1) xs
  (ys, place)

def longestInsertion : Nat := 12

def maxRepairs : Nat := 5

/-- Sorts the range.  The flags tell whether the last division was balanced, and whether it found
all elements in place.  After `limit` unbalanced divisions a heap is used.  The ranges that it is
divided into are shorter, so its length is enough as fuel. -/
def sortRange : (fuel limit : Nat) → (balanced divided : Bool) → (low high : Nat) →
    Array α → Array α
  | 0, _, _, _, _, _, xs => xs
  | fuel + 1, limit, balanced, divided, low, high, xs =>
    if high - low ≤ longestInsertion then insertionSort less low high xs
    else if limit = 0 then heapSort less low high xs
    else
      let limit := if balanced then limit else limit - 1
      let xs := if balanced then xs else scatter low high xs
      let (pivot, trend) := choosePivot less low high xs
      let xs := if trend = .falling then reverseRange low high xs else xs
      let pivot := if trend = .falling then high - 1 - (pivot - low) else pivot
      let (xs, sorted) :=
        if balanced && divided && trend ≠ .unknown then
          repair less low high maxRepairs (low + 1) xs
        else (xs, false)
      if sorted then xs
      else if 0 < low && !lessAt less xs (low - 1) pivot then
        let (xs, place) := divideEqual less low high pivot xs
        sortRange fuel limit balanced divided place high xs
      else
        let (xs, place, divided) := divide less low high pivot xs
        let least := (high - low) / 8
        if place - low < high - place then
          sortRange fuel limit (least ≤ place - low) divided (place + 1) high
            (sortRange fuel limit true true low place xs)
        else
          sortRange fuel limit (least ≤ high - place) divided low place
            (sortRange fuel limit true true (place + 1) high xs)

def sort (xs : List α) : List α :=
  (sortRange less (xs.length + 1) (Nat.log2 xs.length + 1) true true 0 xs.length xs.toArray).toList

end Unclosed.Sorting
