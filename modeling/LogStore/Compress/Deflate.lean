import LogStore.Compress.Huffman
import LogStore.Compress.Lz77

/-!
# Compressed blocks

A compressed stream is a sequence of blocks, the last one marked final. A text is written as
one block and then an empty final block with the fixed codes. How the one block is written
depends on the text:

* an empty text has none; up to 32 bytes are stored as they are; below 128 bytes, and whenever
  the matches would leave more than fifteen sixteenths of the bytes as tokens, the bytes are
  coded one by one with a code of their own (or stored, when that is estimated to be no
  larger);
* a text in which no match is found is stored;
* otherwise its tokens are written the cheapest of three ways: stored, with the fixed codes
  (considered only below 250 tokens), or with codes of their own, whose code lengths are sent
  first as runs coded with a third code. The fixed codes win a tie with codes of their own, and
  storing wins a tie with either.

Texts longer than one stored block (65535 bytes) are outside what this models: they would be
cut into several blocks.

* `lengthSymbol`, `distanceSymbol` name the code of a match length or distance; the rest of the
  value follows the code as extra bits.
* `lengthRuns` writes a list of code lengths as runs: a length and `16` for up to six repeats of
  it, `17` and `18` for up to 10 and 138 zeros.
* `writeBlock w tokens final input` appends one block of tokens, `input` being the bytes it
  covers when they may be stored; `writeLiteralBlock` appends the bytes coded one by one.
* `deflate text` is the whole stream.
-/

namespace LogStore.Compress

/-- The smallest match length of each length code, less three. -/
def lengthBase : List Nat :=
  [0, 1, 2, 3, 4, 5, 6, 7, 8, 10, 12, 14, 16, 20, 24, 28, 32, 40, 48, 56, 64, 80, 96, 112, 128,
   160, 192, 224, 255]

/-- The extra bits of each length code. -/
def lengthExtra : List Nat :=
  [0, 0, 0, 0, 0, 0, 0, 0, 1, 1, 1, 1, 2, 2, 2, 2, 3, 3, 3, 3, 4, 4, 4, 4, 5, 5, 5, 5, 0]

/-- The smallest distance of each distance code, less one. -/
def distanceBase : List Nat :=
  [0, 1, 2, 3, 4, 6, 8, 12, 16, 24, 32, 48, 64, 96, 128, 192, 256, 384, 512, 768, 1024, 1536,
   2048, 3072, 4096, 6144, 8192, 12288, 16384, 24576]

/-- The extra bits of each distance code. -/
def distanceExtra : List Nat :=
  [0, 0, 0, 0, 1, 1, 2, 2, 3, 3, 4, 4, 5, 5, 6, 6, 7, 7, 8, 8, 9, 9, 10, 10, 11, 11, 12, 12, 13,
   13]

/-- The index of the last of increasing bases that is not above `v`. -/
def codeOf (bases : List Nat) (v : Nat) : Nat :=
  (bases.filter (· ≤ v)).length - 1

/-- The code of a match length, counted from the first length code. -/
def lengthSymbol (length : Nat) : Nat :=
  codeOf lengthBase (length - 3)

/-- The code of a match distance. -/
def distanceSymbol (distance : Nat) : Nat :=
  codeOf distanceBase (distance - 1)

/-- How often each literal or length code and each distance code occurs in a block's tokens
and its end-of-block code. -/
def frequencies (tokens : List Token) : Array Nat × Array Nat :=
  let (lit, dist) := tokens.foldl (fun (acc : Array Nat × Array Nat) t =>
    match t with
    | .literal b => (acc.1.modify b (· + 1), acc.2)
    | .copy l d => (acc.1.modify (257 + lengthSymbol l) (· + 1), acc.2.modify (distanceSymbol d) (· + 1)))
    (Array.replicate 286 0, Array.replicate 30 0)
  (lit.modify 256 (· + 1), dist)

/-- The number of entries up to the last that is not zero. -/
def usedPrefix (freq : Array Nat) : Nat :=
  ((List.range freq.size).filter (freq.getD · 0 ≠ 0)).foldl (fun _ i => i + 1) 0

/-- A list as runs of equal values, each value with its run length. -/
def runs : List Nat → List (Nat × Nat)
  | [] => []
  | x :: rest =>
    match runs rest with
    | (y, k) :: more => if x = y then (y, k + 1) :: more else (x, 1) :: (y, k) :: more
    | [] => [(x, 1)]

/-- Covers `c` repeats with symbols `sym` of `base` to `limit` repeats each (the extra bits
holding the count less `base`), longest first; the repeats left over, fewer than `base`, are
given back. -/
def repeatRuns (sym limit base : Nat) : Nat → Nat → List (Nat × Nat) × Nat
  | c, 0 => ([], c)
  | c, fuel + 1 =>
    if c ≥ base then
      let n := min limit c
      let (xs, left) := repeatRuns sym limit base (c - n) fuel
      ((sym, n - base) :: xs, left)
    else ([], c)

/-- The code-length symbols of a run of `count` lengths `size`, each with the value of its
extra bits: a length is sent once and then repeated with `16`; zeros are covered with `18`,
then `17`. What no repeat covers is sent length by length. -/
def runSymbols (size count : Nat) : List (Nat × Nat) :=
  if size ≠ 0 then
    let (xs, left) := repeatRuns 16 6 3 (count - 1) count
    [(size, 0)] ++ xs ++ List.replicate left (size, 0)
  else
    let (xs, left) := repeatRuns 18 138 11 count count
    let (mid, left) := if left ≥ 3 then ([(17, left - 3)], 0) else ([], left)
    xs ++ mid ++ List.replicate left (0, 0)

/-- The code lengths written as runs. -/
def lengthRuns (lens : List Nat) : List (Nat × Nat) :=
  (runs lens).flatMap fun (size, count) => runSymbols size count

/-- The order in which the lengths of the code-length code are sent. -/
def lengthOrder : List Nat :=
  [16, 17, 18, 0, 8, 7, 9, 6, 10, 5, 11, 4, 12, 3, 13, 2, 14, 1, 15]

/-- The extra bits that follow a code-length symbol. -/
def runExtraBits (sym : Nat) : Nat :=
  if sym = 16 then 2 else if sym = 17 then 3 else if sym = 18 then 7 else 0

/-- Appends tokens and the end-of-block code with the given codes. -/
def writeTokens (w : BitSink) (tokens : List Token) (lit dist : Array Code) : BitSink :=
  let w := tokens.foldl (fun w t =>
    match t with
    | .literal b => w.code (lit.getD b default)
    | .copy l d =>
      let lc := lengthSymbol l
      let dc := distanceSymbol d
      let w := (w.code (lit.getD (257 + lc) default)).push (l - 3 - lengthBase.getD lc 0)
        (lengthExtra.getD lc 0)
      (w.code (dist.getD dc default)).push (d - 1 - distanceBase.getD dc 0) (distanceExtra.getD dc 0))
    w
  w.code (lit.getD 256 default)

/-- Appends a stored block holding `input`. -/
def writeStored (w : BitSink) (input : ByteArray) (final : Bool) : BitSink :=
  let w := (w.push (if final then 1 else 0) 3).align
  let w := (w.push input.size 16).push (65535 - input.size) 16
  { w with bytes := w.bytes ++ input }

/-- The number of tokens, with the end of the block, below which the fixed codes are tried. -/
def fixedTokens : Nat := 250

/-- The code-length symbols of literal and distance code lengths, their counts, their code, and
how many code-length code lengths the header sends. -/
def lengthHeader (lens : List Nat) : List (Nat × Nat) × Array Nat × Array Code × Nat :=
  let symbols := lengthRuns lens
  let runFreq := symbols.foldl (fun (acc : Array Nat) p => acc.modify p.1 (· + 1)) (Array.replicate 19 0)
  let runCodes := huffmanCodes runFreq 7
  let numRun := max 4 (usedPrefix (Array.mk (lengthOrder.map (runFreq.getD · 0))))
  (symbols, runFreq, runCodes, numRun)

/-- The size in bits of a block header with codes of its own, given its code-length symbols. -/
def headerBits (runFreq : Array Nat) (runCodes : Array Code) (numRun : Nat) : Nat :=
  17 + 3 * numRun + codedBits runFreq runCodes + runFreq.getD 16 0 * 2 +
    runFreq.getD 17 0 * 3 + runFreq.getD 18 0 * 7

/-- Appends the header of a block with codes of its own. -/
def writeHeader (w : BitSink) (final : Bool) (numLit numDist : Nat)
    (header : List (Nat × Nat) × Array Nat × Array Code × Nat) : BitSink :=
  let (symbols, _, runCodes, numRun) := header
  let w := (w.push (if final then 5 else 4) 3).push (numLit - 257) 5
  let w := (w.push (numDist - 1) 5).push (numRun - 4) 4
  let w := (lengthOrder.take numRun).foldl (fun (w : BitSink) s => w.push (runCodes.getD s default).len 3) w
  symbols.foldl (fun (w : BitSink) p => (w.code (runCodes.getD p.1 default)).push p.2 (runExtraBits p.1)) w

/-- Appends one block of tokens, final or not, in its cheapest form; `input` is the bytes the
block covers, which may be stored instead when there are at most 65535 of them. -/
def writeBlock (w : BitSink) (tokens : List Token) (final : Bool) (input : Option ByteArray) :
    BitSink :=
  let (lit, dist) := frequencies tokens
  let numLit := usedPrefix lit
  let (dist, numDist) := if usedPrefix dist = 0 then (dist.set! 0 1, 1) else (dist, usedPrefix dist)
  let litCodes := huffmanCodes lit 15
  let distCodes := huffmanCodes dist 15
  let storable : Bool := match input with
    | some b => decide (b.size ≤ 65535)
    | none => false
  let extra := if storable then
      (List.range numLit).foldl (fun acc i =>
        if i ≥ 265 then acc + lit.getD i 0 * lengthExtra.getD (i - 257) 0 else acc) 0 +
      (List.range numDist).foldl (fun acc i =>
        if i ≥ 4 then acc + dist.getD i 0 * distanceExtra.getD i 0 else acc) 0
    else 0
  let fixedSize := 3 + codedBits lit fixedLiteralCodes + codedBits dist fixedDistanceCodes + extra
  let lens := (List.range numLit).map (fun i => (litCodes.getD i default).len) ++
    (List.range numDist).map (fun i => (distCodes.getD i default).len)
  let header := lengthHeader lens
  let dynamicSize := headerBits header.2.1 header.2.2.1 header.2.2.2 + codedBits lit litCodes +
    codedBits dist distCodes + extra
  let dynamic := tokens.length + 1 ≥ fixedTokens || dynamicSize < fixedSize
  let size := if dynamic then dynamicSize else fixedSize
  let stored := match input with
    | some b => if storable && (b.size + 5) * 8 ≤ size then some b else none
    | none => none
  match stored with
  | some b => writeStored w b final
  | none =>
    if dynamic then
      writeTokens (writeHeader w final numLit numDist header) tokens litCodes distCodes
    else writeTokens (w.push (if final then 3 else 2) 3) tokens fixedLiteralCodes fixedDistanceCodes

/-- The bits a block of bytes coded one by one is estimated to take: the coded bytes and end of
block, a header guessed at 70 bytes, and a 1/128 margin for making a new code. -/
def literalEstimate (coded : Nat) : Nat :=
  let est := coded + 70 * 8
  est + est / 128

/-- Whether bytes are spread so evenly over the 256 values that coding them cannot pay: the sum
of the squared distances of the byte counts from their mean is below twice the byte count. -/
def evenlySpread (freq : Array Nat) (n : Nat) : Bool :=
  (List.range 256).foldl
      (fun acc v => acc + Nat.pow ((256 * freq.getD v 0 : Int) - n).natAbs 2) 0 <
    2 * n * 65536

/-- Appends a block of the bytes of `input` coded one by one with a code made for them, not
final; it is stored instead when that is estimated to be no larger, or when the bytes are
spread too evenly to pay coding (checked above 1024 bytes). -/
def writeLiteralBlock (w : BitSink) (input : ByteArray) : BitSink :=
  let freq := input.foldl (fun (acc : Array Nat) b => acc.modify b.toNat (· + 1)) (Array.replicate 257 0)
  let freq := freq.set! 256 1
  let storable := input.size ≤ 65535
  if storable && input.size > 1024 && evenlySpread freq input.size then writeStored w input false
  else
    let codes := huffmanCodes freq 15
    if storable && (input.size + 5) * 8 ≤ literalEstimate (codedBits freq codes) then
      writeStored w input false
    else
      let lens := (List.range 257).map (fun i => (codes.getD i default).len) ++ [1]
      let w := writeHeader w false 257 1 (lengthHeader lens)
      let w := input.foldl (fun (w : BitSink) b => w.code (codes.getD b.toNat default)) w
      w.code (codes.getD 256 default)

/-- The compressed stream of a text. -/
def deflate (text : ByteArray) : ByteArray :=
  let n := text.size
  let w : BitSink := {}
  let w :=
    if n = 0 then w
    else if n ≤ 32 then writeStored w text false
    else if n < 128 then writeLiteralBlock w text
    else
      let tokens := matchTokens text
      if tokens.isEmpty then writeStored w text false
      else if tokens.length > n - n / 16 then writeLiteralBlock w text
      else writeBlock w tokens false (some text)
  (writeBlock w [] true none).finish

end LogStore.Compress
