import LogStore.Compress.Bits

/-!
# Length-limited prefix codes

A block of a compressed stream codes its symbols with prefix codes built from the symbols'
frequencies, no code longer than a limit (15 bits for literals and distances, 7 for the code
lengths themselves). The lengths come from a level-by-level construction that tracks, for each
depth up to the limit, the next symbol and the next pair of nodes from the depth below that
could join it; it settles ties the same way every time, so equal frequencies give the same
lengths. The codes are then assigned in canonical order: shorter codes first and, within one
length, by symbol.

* `bitCounts` is the construction: for a list of at least three symbols sorted by frequency,
  how many symbols get each length.
* `huffmanCodes freq limit` is the code of every symbol; a symbol of frequency zero gets no
  code, and one or two symbols get one bit each.
* `fixedLiteralCodes`, `fixedDistanceCodes` are the codes of a block that carries no code of
  its own.
-/

namespace LogStore.Compress

/-- The frequency that stands for no symbol or pair left. -/
def unbounded : Nat := Nat.pow 2 31 - 1

/-- One depth of the construction: the frequency of its last node, of the next symbol and of
the next pair of nodes one depth down that could be added, and how many nodes are still to be
made there. -/
structure Depth where
  lastFreq : Nat := 0
  nextCharFreq : Nat := 0
  nextPairFreq : Nat := 0
  needed : Int := 0
  deriving Inhabited

/-- The state of the construction: the depths, for each depth the number of symbols left of
the ancestors (one per depth) of its last node, and the depth being worked on. -/
structure Construction where
  depths : Array Depth
  leaves : Array (Array Nat)
  level : Nat

/-- A depth of the construction. -/
def Construction.depth (c : Construction) (k : Nat) : Depth :=
  c.depths.getD k {}

/-- A leaf count of the construction. -/
def Construction.leaf (c : Construction) (k j : Nat) : Nat :=
  (c.leaves.getD k #[]).getD j 0

/-- Replaces a depth. -/
def Construction.setDepth (c : Construction) (k : Nat) (d : Depth) : Construction :=
  { c with depths := c.depths.set! k d }

/-- Replaces a leaf count. -/
def Construction.setLeaf (c : Construction) (k j v : Nat) : Construction :=
  { c with leaves := c.leaves.modify k (·.set! j v) }

/-- Steps down from `level` while the depth below still needs nodes. -/
def descend (c : Construction) : Nat → Nat → Nat
  | level, 0 => level
  | level, fuel + 1 =>
    if level > 0 && (c.depth (level - 1)).needed > 0 then descend c (level - 1) fuel else level

/-- Makes nodes until the deepest allowed depth `maxBits` has all it needs. Each round adds one
node at the current depth: the next symbol when it is lighter than the next pair from below,
else that pair, which sends the work down to make two more nodes there. A depth that runs out
of both is done. `freqAt i` is the frequency of the `i`-th lightest symbol. -/
def construct (freqAt : Nat → Nat) (maxBits : Nat) : Construction → Nat → Construction
  | c, 0 => c
  | c, fuel + 1 =>
    let level := c.level
    let l := c.depth level
    if l.nextPairFreq = unbounded && l.nextCharFreq = unbounded then
      let c := c.setDepth level { l with needed := 0 }
      let up := c.depth (level + 1)
      let c := c.setDepth (level + 1) { up with nextPairFreq := unbounded }
      construct freqAt maxBits { c with level := level + 1 } fuel
    else
      let prevFreq := l.lastFreq
      let (c, l) : Construction × Depth :=
        if l.nextCharFreq < l.nextPairFreq then
          let m := c.leaf level level + 1
          (c.setLeaf level level m, { l with lastFreq := l.nextCharFreq, nextCharFreq := freqAt m })
        else
          let c := (List.range level).foldl (fun c j => c.setLeaf level j (c.leaf (level - 1) j)) c
          let below := c.depth (level - 1)
          (c.setDepth (level - 1) { below with needed := 2 }, { l with lastFreq := l.nextPairFreq })
      let l := { l with needed := l.needed - 1 }
      let c := c.setDepth level l
      if l.needed = 0 then
        if level = maxBits then c
        else
          let up := c.depth (level + 1)
          let c := c.setDepth (level + 1) { up with nextPairFreq := prevFreq + l.lastFreq }
          construct freqAt maxBits { c with level := level + 1 } fuel
      else construct freqAt maxBits { c with level := descend c level level } fuel

/-- For symbols sorted by increasing frequency (at least three of them), how many get each
code length, index `b` holding the count of length `b`: at most `limit` and never more than
one less than the number of symbols. -/
def bitCounts (sorted : List (Nat × Nat)) (limit : Nat) : Array Nat :=
  let n := sorted.length
  let freqAt (i : Nat) : Nat := if i < n then (sorted.getD i (0, 0)).2 else unbounded
  let maxBits := min limit (n - 1)
  let depth (k : Nat) : Depth :=
    if 1 ≤ k ∧ k ≤ maxBits then
      { lastFreq := freqAt 1, nextCharFreq := freqAt 2,
        nextPairFreq := if k = 1 then unbounded else freqAt 0 + freqAt 1,
        needed := if k = maxBits then 2 * (n : Int) - 4 else 0 }
    else {}
  let leaves := (Array.range 17).map fun k =>
    (Array.range 17).map fun j => if j = k ∧ 1 ≤ k ∧ k ≤ maxBits then 2 else 0
  let start : Construction := { depths := (Array.range 17).map depth, leaves, level := maxBits }
  let c := construct freqAt maxBits start ((maxBits + 1) * (2 * n + 2) + 16)
  (Array.range (maxBits + 1)).map fun b =>
    if b = 0 then 0 else c.leaf maxBits (maxBits + 1 - b) - c.leaf maxBits (maxBits - b)

/-- Gives codes length by length: `counts` from length `n` on, `code` the next code value and
`rest` the symbols without a code yet, lightest first. Each length takes the heaviest symbols
left, which are coded in symbol order. -/
def assignCodes (n code : Nat) (rest : List (Nat × Nat)) (codes : Array Code) :
    List Nat → Array Code
  | [] => codes
  | bits :: more =>
    let code := code * 2
    if n = 0 || bits = 0 then assignCodes (n + 1) code rest codes more
    else
      let keep := rest.length - bits
      let chunk := (rest.drop keep).mergeSort fun a b => a.1 ≤ b.1
      let (codes, code) := chunk.foldl (fun (acc : Array Code × Nat) p =>
        (acc.1.set! p.1 ⟨reverseBits acc.2 n, n⟩, acc.2 + 1)) (codes, code)
      assignCodes (n + 1) code (rest.take keep) codes more

/-- The codes for symbol frequencies `freq`, no code longer than `limit`. -/
def huffmanCodes (freq : Array Nat) (limit : Nat) : Array Code :=
  let present := (List.range freq.size).filterMap fun i =>
    let f := freq.getD i 0
    if f = 0 then none else some (i, f)
  let blank : Array Code := Array.replicate freq.size ⟨0, 0⟩
  if present.length ≤ 2 then
    present.zipIdx.foldl (fun codes p => codes.set! p.1.1 ⟨p.2, 1⟩) blank
  else
    let sorted := present.mergeSort fun a b => a.2 < b.2 || (a.2 = b.2 && a.1 ≤ b.1)
    assignCodes 0 0 sorted blank (bitCounts sorted limit).toList

/-- The number of bits symbols of the given frequencies take in a code. -/
def codedBits (freq : Array Nat) (codes : Array Code) : Nat :=
  (List.range freq.size).foldl (fun acc i => acc + freq.getD i 0 * (codes.getD i ⟨0, 0⟩).len) 0

/-- The literal and length codes of a block without codes of its own. -/
def fixedLiteralCodes : Array Code :=
  (Array.range 286).map fun ch =>
    if ch < 144 then ⟨reverseBits (ch + 48) 8, 8⟩
    else if ch < 256 then ⟨reverseBits (ch + 256) 9, 9⟩
    else if ch < 280 then ⟨reverseBits (ch - 256) 7, 7⟩
    else ⟨reverseBits (ch - 88) 8, 8⟩

/-- The distance codes of a block without codes of its own. -/
def fixedDistanceCodes : Array Code :=
  (Array.range 30).map fun ch => ⟨reverseBits ch 5, 5⟩

end LogStore.Compress
