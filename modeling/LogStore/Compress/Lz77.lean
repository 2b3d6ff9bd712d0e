/-!
# Finding repeated text

Before coding, a text becomes a sequence of tokens: literal bytes, and matches that repeat
`length` bytes (3 to 258) from `distance` bytes back (1 to 32768).

Matches are found through two tables of earlier positions, without chains: one keyed by a hash
of the next four bytes, one keyed by a hash of the next seven bytes that keeps the last two
positions of each key. The search walks forward from the end of the last match; at each
position it tries the seven-byte candidates, then the four-byte one, and for a four-byte hit
also the same distance as the last match one byte on, and the seven-byte candidates of the next
position. Once more than 128 bytes have gone by without a match the walk starts skipping.

A match found is grown forward as far as the bytes agree, tried against the seven-byte
candidates that would end where it ends (two bytes in, the skipped bytes being won back below),
and grown backward over the bytes still waiting to go out. The bytes it covers then enter the
tables sparsely: every position into the seven-byte table, every second one into the four-byte
table.

* `matchTokens text` is the tokens of a text taken as one block, or none when no match was
  found at all. The last eleven bytes never start a match.
-/

namespace LogStore.Compress

/-- A unit of compressed text: a byte as itself, or a repeat of earlier bytes. -/
inductive Token where
  | literal (byte : Nat)
  | copy (length distance : Nat)
  deriving Inhabited, BEq

/-- The span a match may reach back. -/
def windowSize : Nat := 32768

/-- The longest match one token can hold. -/
def maxMatch : Nat := 258

/-- The number of slots in each table. -/
def tableSize : Nat := 32768

/-- The `n` bytes at `i`, the first one lowest; bytes past the end count as zero. -/
def loadLE (b : ByteArray) (i n : Nat) : Nat :=
  (List.range n).foldl (fun acc k => acc + (b.get! (i + k)).toNat * Nat.pow 256 k) 0

/-- The four-byte key of the eight bytes `u`. -/
def shortKey (u : Nat) : Nat :=
  (u % Nat.pow 2 32 * 2654435761 % Nat.pow 2 32) / Nat.pow 2 17

/-- The seven-byte key of the eight bytes `u`. -/
def longKey (u : Nat) : Nat :=
  (u * 256 % Nat.pow 2 64 * 58295818150454627 % Nat.pow 2 64) / Nat.pow 2 49

/-- `acc` plus the number of equal bytes at `a` and at `b`, counting at most `most` more and
stopping at the end of the text. -/
def agreeing (text : ByteArray) (a b acc : Nat) : Nat → Nat
  | 0 => acc
  | most + 1 =>
    if a < text.size && b < text.size && text.get! a = text.get! b then
      agreeing text (a + 1) (b + 1) (acc + 1) most
    else acc

/-- How far the bytes at `s` and `t` agree, at most up to the longest match counted from four
bytes before `s`. -/
def agreeShort (text : ByteArray) (s t : Nat) : Nat :=
  agreeing text s t 0 (min (s + maxMatch - 4) text.size - s)

/-- How far the bytes at `s` and `t` agree, up to the end of the text. -/
def agreeLong (text : ByteArray) (s t : Nat) : Nat :=
  agreeing text s t 0 (text.size - s)

/-- The two tables of earlier positions, each slot holding a position plus one (zero for none);
a seven-byte slot holds its last position and the one before. -/
structure Tables where
  short : Array Nat := Array.replicate tableSize 0
  long : Array (Nat × Nat) := Array.replicate tableSize (0, 0)

/-- Enters a position into the four-byte table. -/
def Tables.noteShort (tb : Tables) (key pos : Nat) : Tables :=
  { tb with short := tb.short.set! key (pos + 1) }

/-- Enters a position into the seven-byte table, the position there before kept second. -/
def Tables.noteLong (tb : Tables) (key pos : Nat) : Tables :=
  { tb with long := tb.long.set! key (pos + 1, (tb.long.getD key (0, 0)).1) }

/-- Enters a position into both tables. -/
def Tables.note (tb : Tables) (shortK longK pos : Nat) : Tables :=
  (tb.noteShort shortK pos).noteLong longK pos

/-- The position a slot holds, if it holds one within reach of `here`. -/
def inReach (here slot : Nat) : Option Nat :=
  if slot ≠ 0 && here - (slot - 1) < windowSize then some (slot - 1) else none

/-- Whether the four bytes at `t` are the low four bytes of `u`. -/
def startsLike (text : ByteArray) (t u : Nat) : Bool :=
  loadLE text t 4 = u % Nat.pow 2 32

/-- A match found by the walk: where it starts, where it copies from, its length so far (zero
when only four bytes are known to agree), and where the walk would have gone next. -/
structure Hit where
  start : Nat
  source : Nat
  length : Nat
  next : Nat

/-- The better of a match and a candidate at the next position `nextS`, whose eight bytes are
`nextU`. -/
def Hit.orNext (text : ByteArray) (h : Hit) (nextU cand : Nat) : Hit :=
  if startsLike text cand nextU then
    let ml := agreeShort text (h.next + 4) (cand + 4) + 4
    if ml > h.length then { h with start := h.next, source := cand, length := ml } else h
  else h

/-- Walks forward from `s` for a match, `nextEmit` being the first byte not yet out and
`repeatDist` the distance of the last match; gives the tables and the match, if one is found
before `limit`. -/
def search (text : ByteArray) (limit nextEmit repeatDist : Nat) :
    Tables → Nat → Nat → Tables × Option Hit
  | tb, _, 0 => (tb, none)
  | tb, s, fuel + 1 =>
    let u := loadLE text s 8
    let nextS := s + 1 + (s - nextEmit) / 128
    if nextS > limit then (tb, none)
    else
      let shortCand := tb.short.getD (shortKey u) 0
      let longCand := tb.long.getD (longKey u) (0, 0)
      let nextU := loadLE text nextS 8
      let tb := tb.note (shortKey u) (longKey u) s
      let noteNext (tb : Tables) : Tables := tb.note (shortKey nextU) (longKey nextU) nextS
      let viaShort (_ : Unit) : Tables × Option Hit :=
        match inReach s shortCand with
        | some t =>
          if startsLike text t u then
            let l := agreeShort text (s + 4) (t + 4) + 4
            let nextLong := tb.long.getD (longKey nextU) (0, 0)
            let tb := noteNext tb
            let t2 := s - repeatDist + 1
            let rep := if startsLike text t2 (u / 256) then agreeShort text (s + 5) (t2 + 4) + 4
              else 0
            if rep > l then (tb, some ⟨s + 1, t2, rep, nextS⟩)
            else
              let h : Hit := ⟨s, t, l, nextS⟩
              match inReach nextS nextLong.1 with
              | some c =>
                let h := h.orNext text nextU c
                match inReach nextS nextLong.2 with
                | some p => (tb, some (h.orNext text nextU p))
                | none => (tb, some h)
              | none => (tb, some h)
          else search text limit nextEmit repeatDist tb nextS fuel
        | none => search text limit nextEmit repeatDist tb nextS fuel
      match inReach s longCand.1 with
      | some t =>
        if startsLike text t u then
          let tb := noteNext tb
          match inReach s longCand.2 with
          | some t2 =>
            if startsLike text t2 u then
              let l := agreeShort text (s + 4) (t + 4) + 4
              let ml := agreeShort text (s + 4) (t2 + 4) + 4
              (tb, some (if ml > l then ⟨s, t2, ml, nextS⟩ else ⟨s, t, l, nextS⟩))
            else (tb, some ⟨s, t, 0, nextS⟩)
          | none => (tb, some ⟨s, t, 0, nextS⟩)
        else
          match inReach s longCand.2 with
          | some t2 =>
            if startsLike text t2 u then (noteNext tb, some ⟨s, t2, 0, nextS⟩) else viaShort ()
          | none => viaShort ()
      | none => viaShort ()

/-- A match grown forward: from four known bytes as far as the bytes agree, and past the
longest match when it reached it. -/
def Hit.grown (text : ByteArray) (h : Hit) : Hit :=
  if h.length = 0 then { h with length := agreeLong text (h.start + 4) (h.source + 4) + 4 }
  else if h.length = maxMatch then
    { h with length := h.length + agreeLong text (h.start + maxMatch) (h.source + maxMatch) }
  else h

/-- A match replaced by a longer one that ends where it ends, through the seven-byte slot
`slot` of its end: the candidate starts two bytes in. -/
def Hit.orEnding (text : ByteArray) (s2 : Nat) (h : Hit) (slot : Nat) : Hit :=
  let t2 : Int := (slot : Int) - 1 - h.length + 2
  let off : Int := (s2 : Int) - t2
  if slot ≠ 0 && off > 0 && off < windowSize && t2 ≥ 0 then
    let l2 := agreeLong text s2 t2.toNat
    if l2 > h.length then { h with start := s2, source := t2.toNat, length := l2 } else h
  else h

/-- A match tried against the seven-byte candidates that would end where it ends. -/
def Hit.atEnd (text : ByteArray) (limit : Nat) (tb : Tables) (h : Hit) : Hit :=
  let sAt := h.start + h.length
  if sAt < limit then
    let slots := tb.long.getD (longKey (loadLE text sAt 8)) (0, 0)
    let s2 := h.start + 2
    -- An empty or distant newest slot ends the test before the older one is looked at.
    let reachable : Bool :=
      slots.1 ≠ 0 && (s2 : Int) - ((slots.1 : Int) - 1 - h.length + 2) < windowSize
    if reachable then (h.orEnding text s2 slots.1).orEnding text s2 slots.2 else h
  else h

/-- A match grown backward over the bytes from `nextEmit` that agree with the bytes before its
source. -/
def Hit.back (text : ByteArray) (nextEmit : Nat) (h : Hit) : Nat → Hit
  | 0 => h
  | fuel + 1 =>
    if h.source > 0 && h.start > nextEmit &&
        text.get! (h.source - 1) = text.get! (h.start - 1) then
      let h' : Hit := ⟨h.start - 1, h.source - 1, h.length + 1, h.next⟩
      Hit.back text nextEmit h' fuel
    else h

/-- The tokens of a match of any length: pieces of 258 bytes, the last two leaving at least
three bytes for the final piece. -/
def copies (length distance : Nat) : Nat → List Token
  | 0 => []
  | fuel + 1 =>
    if length = 0 then []
    else
      let piece := if length ≤ maxMatch then length
        else if length > maxMatch + 3 then maxMatch else maxMatch - 3
      .copy piece distance :: copies (length - piece) distance fuel

/-- Enters the positions a match covered, from `i` on in steps of two up to `stop`: both into
the seven-byte table, the first of each pair into the four-byte table. -/
def noteCovered (text : ByteArray) (stop : Nat) : Tables → Nat → Nat → Tables
  | tb, _, 0 => tb
  | tb, i, fuel + 1 =>
    if i + 1 < stop then
      let u := loadLE text i 8
      let tb := (tb.note (shortKey u) (longKey u) i).noteLong (longKey (u / 256)) (i + 1)
      noteCovered text stop tb (i + 2) fuel
    else tb

/-- The bytes from `a` up to `b` as literals. -/
def literals (text : ByteArray) (a b : Nat) : List Token :=
  (List.range (b - a)).map fun k => .literal (text.get! (a + k)).toNat

/-- Finds the matches from `s` on, after the tokens `acc` (last first), with `nextEmit` the first
byte not yet out and `repeatDist` the distance of the last match. -/
def scan (text : ByteArray) (limit : Nat) (tb : Tables) (s nextEmit repeatDist : Nat)
    (acc : List Token) : Nat → List Token
  | 0 => acc
  | fuel + 1 =>
    let rest (acc : List Token) : List Token :=
      if nextEmit < text.size && !acc.isEmpty then
        (literals text nextEmit text.size).reverse ++ acc
      else acc
    match search text limit nextEmit repeatDist tb s (text.size + 1) with
    | (_, none) => rest acc
    | (tb, some h) =>
      let h := ((h.grown text).atEnd text limit tb).back text nextEmit (text.size + 1)
      let acc := (copies h.length (h.start - h.source) (h.length + 1)).reverse ++
        (literals text nextEmit h.start).reverse ++ acc
      let stop := h.start + h.length
      let s := if h.next ≥ stop then h.next + 1 else stop
      if s ≥ limit then
        if stop < text.size then (literals text stop text.size).reverse ++ acc else acc
      else
        let tb := noteCovered text s tb (h.next + 1) s
        scan text limit tb s stop (h.start - h.source) acc fuel

/-- The tokens of a text as one block; empty when the text holds no match. -/
def matchTokens (text : ByteArray) : List Token :=
  if text.size < 13 then []
  else (scan text (text.size - 11) {} 0 0 1 [] (text.size + 1)).reverse

end LogStore.Compress
