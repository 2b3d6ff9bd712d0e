/-!
# Pattern-defeating quicksort

An in-place sort of an array by a test `lt a b` ("`a` goes before `b`"), step for step the
pattern-defeating quicksort without block partitioning:

* a range of at most 12 elements is sorted by insertion;
* otherwise a pivot is chosen (the middle of three quarter points, or of three medians of
  neighbours from 50 elements on), counting the swaps that finding it took: none hints that the
  range is ascending, all twelve that it is descending, and a descending range is reversed;
* a range that looks ascending after a balanced, already partitioned step is first tried by an
  insertion sort that gives up after five misplaced pairs;
* when the element before the range does not go before the pivot, the elements equal to it are
  split off; otherwise the range is partitioned around the pivot, the shorter side sorted first;
* after an unbalanced step three elements are scattered by a xorshift sequence, and after as
  many of those as the length has bits the range is heap sorted.

When `lt` is a strict weak order this sorts; when it is not, the result depends on every
comparison made, which is why each step is spelled out here rather than only its outcome.

* `pdqsort lt v` is the sorted array.
-/

namespace LogStore.Order

variable {α : Type} [Inhabited α]

/-- Whether the element at `i` goes before the one at `j`. -/
def before (lt : α → α → Bool) (v : Array α) (i j : Nat) : Bool :=
  lt (v.getD i default) (v.getD j default)

/-- The range sorts by insertion below this length. -/
def insertionLength : Nat := 12

/-- The number of bits of `n`: zero for zero. -/
def bitLength (n : Nat) : Nat :=
  if n = 0 then 0 else Nat.log2 n + 1

/-- Moves the element at `j` down toward `lo` while it goes before its left neighbour. -/
def sinkLeft (lt : α → α → Bool) (v : Array α) (lo j : Nat) : Array α :=
  if h : lo < j then
    if before lt v j (j - 1) then sinkLeft lt (v.swapIfInBounds j (j - 1)) lo (j - 1) else v
  else v
termination_by j
decreasing_by omega

/-- Moves the element at `j` up toward `hi` while its left neighbour goes after it. -/
def floatRight (lt : α → α → Bool) (v : Array α) (hi j : Nat) : Array α :=
  if h : j < hi then
    if before lt v j (j - 1) then floatRight lt (v.swapIfInBounds j (j - 1)) hi (j + 1) else v
  else v
termination_by hi - j
decreasing_by omega

/-- Sorts the range from `a` up to `b` by insertion. -/
def insertionSort (lt : α → α → Bool) (v : Array α) (a b : Nat) : Array α :=
  (List.range' (a + 1) (b - (a + 1))).foldl (fun v i => sinkLeft lt v a i) v

/-- The child of `root` to compare with it in the heap of `hi` elements stored from `first` on:
the right one when it exists and the left one goes before it. -/
def largerChild (lt : α → α → Bool) (v : Array α) (root hi first : Nat) : Nat :=
  let left := 2 * root + 1
  if left + 1 < hi && before lt v (first + left) (first + left + 1) then left + 1 else left

/-- Restores the heap below `root` in the heap of `hi` elements stored from `first` on. -/
def siftDown (lt : α → α → Bool) (v : Array α) (root hi first : Nat) : Array α :=
  if 2 * root + 1 < hi then
    let child := largerChild lt v root hi first
    if _h : root < child ∧ child < hi then
      if before lt v (first + root) (first + child) then
        siftDown lt (v.swapIfInBounds (first + root) (first + child)) child hi first
      else v
    else v
  else v
termination_by hi - root
decreasing_by omega

/-- Sorts the range from `a` up to `b` as a heap, the greatest element rising to the top. -/
def heapSort (lt : α → α → Bool) (v : Array α) (a b : Nat) : Array α :=
  let n := b - a
  let heap := (List.range ((n - 1) / 2 + 1)).reverse.foldl (fun v i => siftDown lt v i n a) v
  (List.range n).reverse.foldl
    (fun v i => siftDown lt (v.swapIfInBounds a (a + i)) 0 i a) heap

/-- Reverses the range from `i` to `j`, both included. -/
def reverseRange (v : Array α) (i j : Nat) : Array α :=
  if h : i < j then reverseRange (v.swapIfInBounds i j) (i + 1) (j - 1) else v
termination_by j - i
decreasing_by omega

/-- What the pivot search says about the order of a range. -/
inductive Hint where
  | increasing
  | decreasing
  | unknown
  deriving DecidableEq

/-- Two indices ordered so that the second's element does not go before the first's, with one
more swap counted when they were turned. -/
def order2 (lt : α → α → Bool) (v : Array α) (a b swaps : Nat) : Nat × Nat × Nat :=
  if before lt v b a then (b, a, swaps + 1) else (a, b, swaps)

/-- The index of the median of the elements at three indices, and the swaps counted. -/
def median (lt : α → α → Bool) (v : Array α) (a b c swaps : Nat) : Nat × Nat :=
  let (a, b, swaps) := order2 lt v a b swaps
  let (b, _, swaps) := order2 lt v b c swaps
  let (_, b, swaps) := order2 lt v a b swaps
  (b, swaps)

/-- The median of an element and its two neighbours. -/
def medianAdjacent (lt : α → α → Bool) (v : Array α) (i swaps : Nat) : Nat × Nat :=
  median lt v (i - 1) i (i + 1) swaps

/-- The pivot of the range from `a` up to `b` and what its search says of the range's order. -/
def choosePivot (lt : α → α → Bool) (v : Array α) (a b : Nat) : Nat × Hint :=
  let l := b - a
  let i := a + l / 4
  let j := a + l / 4 * 2
  let k := a + l / 4 * 3
  let (j, swaps) :=
    if l ≥ 8 then
      if l ≥ 50 then
        let (i, s) := medianAdjacent lt v i 0
        let (j, s) := medianAdjacent lt v j s
        let (k, s) := medianAdjacent lt v k s
        median lt v i j k s
      else median lt v i j k 0
    else (j, 0)
  (j, if swaps = 0 then .increasing else if swaps = 12 then .decreasing else .unknown)

/-- The first index from `i` on, and at most `j + 1`, whose element fails `p`. -/
def scanUp (p : Nat → Bool) (i j : Nat) : Nat :=
  if h : i ≤ j then if p i then scanUp p (i + 1) j else i else i
termination_by j + 1 - i
decreasing_by omega

/-- The last index from `j` down, and at least `i - 1`, whose element fails `p`. -/
def scanDown (p : Nat → Bool) (i j : Nat) : Nat :=
  if h : i ≤ j ∧ 0 < j then if p j then scanDown p i (j - 1) else j else j
termination_by j
decreasing_by omega

/-- Swaps the misplaced pairs left between `i` and `j` around the pivot stored at `a`, the
elements before it going left. -/
def partitionLoop (lt : α → α → Bool) (v : Array α) (a i j : Nat) : Nat → Array α × Nat
  | 0 => (v, j)
  | fuel + 1 =>
    let i := scanUp (fun k => before lt v k a) i j
    let j := scanDown (fun k => !before lt v k a) i j
    if i > j then (v, j)
    else partitionLoop lt (v.swapIfInBounds i j) a (i + 1) (j - 1) fuel

/-- Partitions the range from `a` up to `b` around the element at `pivot`: the elements that go
before it first, then it, then the rest. Gives the pivot's new index and whether nothing had to
move. -/
def partition (lt : α → α → Bool) (v : Array α) (a b pivot : Nat) : Array α × Nat × Bool :=
  let v := v.swapIfInBounds a pivot
  let i := scanUp (fun k => before lt v k a) (a + 1) (b - 1)
  let j := scanDown (fun k => !before lt v k a) i (b - 1)
  if i > j then (v.swapIfInBounds j a, j, true)
  else
    let (v, j) := partitionLoop lt (v.swapIfInBounds i j) a (i + 1) (j - 1) (b - a)
    (v.swapIfInBounds j a, j, false)

/-- Swaps the misplaced pairs left between `i` and `j` around the pivot stored at `a`, the
elements it does not go before going left. -/
def partitionEqualLoop (lt : α → α → Bool) (v : Array α) (a i j : Nat) : Nat → Array α × Nat
  | 0 => (v, i)
  | fuel + 1 =>
    let i := scanUp (fun k => !before lt v a k) i j
    let j := scanDown (fun k => before lt v a k) i j
    if i > j then (v, i)
    else partitionEqualLoop lt (v.swapIfInBounds i j) a (i + 1) (j - 1) fuel

/-- Splits the range from `a` up to `b`, none of whose elements goes before the one at `pivot`,
into the elements equal to it and those after it. Gives where the second part starts. -/
def partitionEqual (lt : α → α → Bool) (v : Array α) (a b pivot : Nat) : Array α × Nat :=
  partitionEqualLoop lt (v.swapIfInBounds a pivot) a (a + 1) (b - 1) (b - a)

/-- Ranges shorter than this are not repaired by the partial insertion sort. -/
def shortestShifting : Nat := 50

/-- Repairs at most `steps` misplaced neighbours of the range from `a` up to `b`, scanning from
`i`; says whether the range ended sorted. -/
def partialInsertionSteps (lt : α → α → Bool) (v : Array α) (a b i : Nat) :
    Nat → Array α × Bool
  | 0 => (v, false)
  | steps + 1 =>
    let i := scanUp (fun k => !before lt v k (k - 1)) i (b - 1)
    if i = b then (v, true)
    else if b - a < shortestShifting then (v, false)
    else
      let v := v.swapIfInBounds i (i - 1)
      let v := if i - a ≥ 2 then sinkLeft lt v 0 (i - 1) else v
      let v := if b - i ≥ 2 then floatRight lt v b (i + 1) else v
      partialInsertionSteps lt v a b i steps

/-- Sorts a nearly sorted range from `a` up to `b` by insertion, giving up after five misplaced
neighbours; says whether the range ended sorted. -/
def partialInsertionSort (lt : α → α → Bool) (v : Array α) (a b : Nat) : Array α × Bool :=
  partialInsertionSteps lt v a b (a + 1) 5

/-- The next state of the xorshift sequence: the shifts 13, 17 and 5, on a 64-bit word. -/
def xorshiftNext (r : UInt64) : UInt64 :=
  let r := r ^^^ (r <<< 13)
  let r := r ^^^ (r >>> 17)
  r ^^^ (r <<< 5)

/-- Scatters three elements around the middle of the range from `a` up to `b`, to break up
patterns that make partitions unbalanced. -/
def breakPatterns (v : Array α) (a b : Nat) : Array α :=
  let length := b - a
  if length < 8 then v
  else
    let mask := Nat.pow 2 (bitLength length) - 1
    let idx := a + length / 4 * 2 - 1
    let step (state : Array α × UInt64) (i : Nat) : Array α × UInt64 :=
      let r := xorshiftNext state.2
      let other := r.toNat &&& mask
      let other := if other ≥ length then other - length else other
      (state.1.swapIfInBounds (idx - 1 + i) (a + other), r)
    ((List.range 3).foldl step (v, length.toUInt64)).1

/-- Sorts the range from `a` up to `b`, after at most `limit` more unbalanced steps turning to
heap sort; `balanced` and `partitioned` say how the step before went. -/
def pdqLoop (lt : α → α → Bool) (v : Array α) (a b limit : Nat) (balanced partitioned : Bool) :
    Nat → Array α
  | 0 => v
  | fuel + 1 =>
    let length := b - a
    if length ≤ insertionLength then insertionSort lt v a b
    else if limit = 0 then heapSort lt v a b
    else
      let (v, limit) := if balanced then (v, limit) else (breakPatterns v a b, limit - 1)
      let (pivot, hint) := choosePivot lt v a b
      let (v, pivot, hint) :=
        if hint = .decreasing then (reverseRange v a (b - 1), (b - 1) - (pivot - a), Hint.increasing)
        else (v, pivot, hint)
      let (v, done) :=
        if balanced && partitioned && hint = .increasing then partialInsertionSort lt v a b
        else (v, false)
      if done then v
      else if a > 0 && !before lt v (a - 1) pivot then
        let (v, mid) := partitionEqual lt v a b pivot
        pdqLoop lt v mid b limit balanced partitioned fuel
      else
        let (v, mid, already) := partition lt v a b pivot
        let threshold := length / 8
        if mid - a < b - mid then
          let v := pdqLoop lt v a mid limit true true fuel
          pdqLoop lt v (mid + 1) b limit (mid - a ≥ threshold) already fuel
        else
          let v := pdqLoop lt v (mid + 1) b limit true true fuel
          pdqLoop lt v a mid limit (b - mid ≥ threshold) already fuel

/-- The array sorted by `lt` by pattern-defeating quicksort. Every step shrinks the range it
works on, so one more step than there are elements is enough. -/
def pdqsort (lt : α → α → Bool) (v : Array α) : Array α :=
  if v.size ≤ 1 then v else pdqLoop lt v 0 v.size (bitLength v.size) true true (v.size + 1)

end LogStore.Order
