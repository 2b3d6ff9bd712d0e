import Mathlib
import LogStore.Proofs.Record
import LogStore.Entry.Pieces

/-!
# Reading records does not depend on how the reader splits its bytes

A reader hands over its bytes in pieces of sizes it chooses, and reports how it ends either on
the read after its last bytes or already with them. Whatever it chooses, a full read of `n`
bytes hands over exactly the next `n` bytes when they are there, and otherwise all that is left
with how the source ends. So reading a record from a reader answers what `ByteSource.decodeAt`
answers on the reader's bytes and ending, and a run of reads what `ByteSource.decodeAll` answers.

A reader that fails instead of ending cleanly changes a run only where the bytes run out: its
failure stands, unchanged, where the data would have ended or a record would have been cut.

* `PieceReader.readFull_of_le`, `readFull_of_lt`: a full read, by the bytes left.
* `PieceReader.decode_eq`, `decodeAll_eq`: reading from a reader is reading its bytes.
* `ByteSource.decodeAll_broken`: a failing reader's run is the clean run with the failure
  where the bytes run out.
* `decode_independent_of_pieces`: all readers of the same bytes read the same records and stop
  alike; a failing one stops with its own failure where the bytes ran out.
-/

namespace LogStore

/-- What a full read that is short of bytes reports after handing over `got` of them. -/
def SourceEnd.shortRead : SourceEnd → Nat → ReadEnd
  | .clean, 0 => .eof
  | .clean, _ + 1 => .unexpectedEof
  | .broken f, _ => .failure f

/-- The bytes a read took from its source. -/
def Decoded.used : Decoded → Nat
  | .entry _ used => used
  | .finished => 0
  | .failed _ used => used

namespace PieceReader

variable (r : PieceReader)

theorem read_at_end {want : Nat} (h : r.data.size ≤ r.pos) :
    r.read want = (.empty, some r.ending.report, r) := by
  simp [read, show r.data.size - r.pos = 0 by omega]

/-- A read before the end hands over at least one byte and at most those asked and left, and
reports an end only together with the last byte. -/
theorem read_before_end (want : Nat) (hw : 0 < want) (h : r.pos < r.data.size) :
    ∃ k e, 0 < k ∧ k ≤ want ∧ r.pos + k ≤ r.data.size ∧
      (e = none ∨ r.pos + k = r.data.size ∧ e = some r.ending.report) ∧
      r.read want = (r.data.extract r.pos (r.pos + k), e, { r with pos := r.pos + k }) := by
  set k := min (max 1 (r.piece r.pos want)) (min want (r.data.size - r.pos)) with hk
  refine ⟨k, if r.early && r.pos + k == r.data.size then some r.ending.report else none,
    by omega, by omega, by omega, ?_, ?_⟩
  · split
    · rename_i hEnd
      simp only [Bool.and_eq_true, beq_iff_eq] at hEnd
      exact .inr ⟨hEnd.2, rfl⟩
    · exact .inl rfl
  · simp only [read, if_neg (show ¬ r.data.size - r.pos = 0 by omega), hk]

/-- Reading until `want` bytes are there hands over the bytes left up to that many, and reports
how the source ends when they fall short. -/
theorem readFullFrom_spec (want : Nat) (r : PieceReader) (got : ByteArray) (fuel : Nat)
    (hFuel : want - got.size < fuel) :
    (readFullFrom want r got fuel).1 =
        got ++ r.data.extract r.pos (r.pos + min (want - got.size) (r.data.size - r.pos)) ∧
      (readFullFrom want r got fuel).2.2 =
        { r with pos := r.pos + min (want - got.size) (r.data.size - r.pos) } ∧
      (got.size + min (want - got.size) (r.data.size - r.pos) < want →
        (readFullFrom want r got fuel).2.1 = some r.ending.report) := by
  -- each read that reports no end hands over a byte, so the fuel outlasts the bytes missing
  induction fuel generalizing r got with
  | zero => omega
  | succ fuel ih =>
    simp only [readFullFrom]
    by_cases hDone : want ≤ got.size
    · rw [if_pos hDone]
      simp [show want - got.size = 0 by omega, hDone]
    rw [if_neg hDone]
    by_cases hEnd : r.data.size ≤ r.pos
    · rw [read_at_end r hEnd]
      simp [show r.data.size - r.pos = 0 by omega]
    obtain ⟨k, e, hk, hkWant, hkLeft, he, hRead⟩ :=
      read_before_end r (want - got.size) (by omega) (by omega)
    rw [hRead]
    rcases he with rfl | ⟨hLast, rfl⟩
    · -- no end reported: the rest comes from the reads after this one
      have hTaken : (r.data.extract r.pos (r.pos + k)).size = k := by simp; omega
      obtain ⟨hGot, hAfter, hShort⟩ := ih { r with pos := r.pos + k }
        (got ++ r.data.extract r.pos (r.pos + k)) (by simp only [ByteArray.size_append]; omega)
      simp only [ByteArray.size_append, hTaken] at hGot hAfter hShort
      have hMin : k + min (want - (got.size + k)) (r.data.size - (r.pos + k)) =
          min (want - got.size) (r.data.size - r.pos) := by omega
      refine ⟨?_, ?_, fun h => hShort (by omega)⟩
      · rw [hGot, ByteArray.append_assoc, ByteArray.extract_append_extract, ← hMin]
        congr 2 <;> omega
      · rw [hAfter, ← hMin, Nat.add_assoc]
    · -- the end came with the last byte
      have hMin : min (want - got.size) (r.data.size - r.pos) = k := by omega
      simp [hMin]

/-- A full read with the bytes there hands over exactly the bytes asked, and reports no end. -/
theorem readFull_of_le {want : Nat} (h : want ≤ r.data.size - r.pos) :
    r.readFull want = (r.data.extract r.pos (r.pos + want), none, { r with pos := r.pos + want }) := by
  obtain ⟨hGot, hAfter, -⟩ := readFullFrom_spec want r .empty (want + 1) (by simp)
  simp only [ByteArray.size_empty, Nat.sub_zero, Nat.min_eq_left h, ByteArray.empty_append]
    at hGot hAfter
  unfold readFull
  rcases hRead : readFullFrom want r .empty (want + 1) with ⟨got, e, r'⟩
  rw [hRead] at hGot hAfter
  dsimp only at hGot hAfter ⊢
  subst hGot hAfter
  rw [if_pos (by simp; omega)]

/-- A full read short of bytes hands over all that is left, and reports how the source ends:
the end of the data before any byte, an unexpected end after some, or the reader's failure. -/
theorem readFull_of_lt {want : Nat} (h : r.data.size - r.pos < want) :
    r.readFull want = (r.data.extract r.pos r.data.size,
      some (r.ending.shortRead (r.data.size - r.pos)),
      { r with pos := r.pos + (r.data.size - r.pos) }) := by
  obtain ⟨hGot, hAfter, hShort⟩ := readFullFrom_spec want r .empty (want + 1) (by simp)
  simp only [ByteArray.size_empty, Nat.sub_zero, Nat.min_eq_right h.le, ByteArray.empty_append,
    Nat.zero_add] at hGot hAfter hShort
  unfold readFull
  rcases hRead : readFullFrom want r .empty (want + 1) with ⟨got, e, r'⟩
  rw [hRead] at hGot hAfter hShort
  dsimp only at hGot hAfter hShort ⊢
  subst hGot hAfter
  rw [hShort h, if_neg (by simp; omega)]
  have hTail : r.data.extract r.pos (r.pos + (r.data.size - r.pos)) =
      r.data.extract r.pos r.data.size := by
    by_cases hp : r.pos ≤ r.data.size
    · rw [Nat.add_sub_cancel' hp]
    · rw [show r.data.size - r.pos = 0 by omega, Nat.add_zero,
        ByteArray.extract_eq_empty_iff.mpr (by omega), ByteArray.extract_eq_empty_iff.mpr (by omega)]
  rw [hTail]
  cases hEnd : r.ending with
  | clean =>
    rcases Nat.eq_zero_or_pos (r.data.size - r.pos) with h0 | hPos
    · simp [SourceEnd.report, SourceEnd.shortRead, h0]
    · obtain ⟨n, hn⟩ := Nat.exists_eq_add_of_lt hPos
      simp [SourceEnd.report, SourceEnd.shortRead, hn]
  | broken f => rfl

/-- With fewer bytes left than a header, a record read answers how the bytes end. -/
theorem decode_of_short_header (h : r.data.size - r.pos < headerSize) :
    r.decode = (ByteSource.decodeAt ⟨r.data, r.ending⟩ r.pos,
      { r with pos := r.pos + (ByteSource.decodeAt ⟨r.data, r.ending⟩ r.pos).used }) := by
  rw [decode, readFull_of_lt r h]
  have hTaken : (r.data.extract r.pos r.data.size).size = r.data.size - r.pos := by simp
  rcases Nat.eq_zero_or_pos (r.data.size - r.pos) with h0 | hPos
  · -- no byte at all: the end of the records, or the reader's failure
    cases hEnd : r.ending <;> simp [ByteSource.decodeAt, SourceEnd.shortRead, Decoded.used, h0]
  · -- some bytes: a cut header, or the reader's failure
    have hDecode : ByteSource.decodeAt ⟨r.data, r.ending⟩ r.pos =
        .failed (ByteSource.shortage ⟨r.data, r.ending⟩ .truncatedHeader) (r.data.size - r.pos) := by
      dsimp only [ByteSource.decodeAt]
      rw [if_neg (by omega), if_pos h]
    obtain ⟨n, hn⟩ := Nat.exists_eq_add_of_lt hPos
    rw [hDecode]
    cases hEnd : r.ending <;>
      simp [ByteSource.shortage, SourceEnd.shortRead, Decoded.used, hn, hTaken]

/-- With a whole header there, a record read makes the checks `decodeAt` makes, on the same
header and payload bytes. -/
theorem decode_of_header (h : headerSize ≤ r.data.size - r.pos) :
    r.decode = (ByteSource.decodeAt ⟨r.data, r.ending⟩ r.pos,
      { r with pos := r.pos + (ByteSource.decodeAt ⟨r.data, r.ending⟩ r.pos).used }) := by
  have hHeaderSize : headerSize = 13 := rfl
  rw [decode, readFull_of_le r h]
  dsimp only [ByteSource.decodeAt]
  rw [if_neg (show ¬ r.data.size - r.pos = 0 by omega),
    if_neg (show ¬ r.data.size - r.pos < headerSize by omega)]
  set H := r.data.extract r.pos (r.pos + headerSize)
  -- the length checks come first, on the same header
  by_cases hKey : Bytes.readLE H 4 4 > maxKeySize
  · rw [if_pos hKey, if_pos hKey]
    rfl
  rw [if_neg hKey, if_neg hKey]
  by_cases hVal : Bytes.readLE H 8 4 > maxValueSize
  · rw [if_pos hVal, if_pos hVal]
    rfl
  rw [if_neg hVal, if_neg hVal]
  set payloadLen := Bytes.readLE H 4 4 +
    (if (Bytes.byteAt H 12 != 0) = true then 0 else Bytes.readLE H 8 4) with hLen
  by_cases hCut : payloadLen > 0 ∧ r.data.size - r.pos - headerSize < payloadLen
  · -- a cut payload: the reader hands over the rest and reports how the bytes end
    have hShort : (decide (payloadLen > 0) &&
        decide (r.data.size - r.pos - headerSize < payloadLen)) = true := by simp [hCut.1, hCut.2]
    rw [if_pos hCut.1, readFull_of_lt { r with pos := r.pos + headerSize } (by dsimp only; omega),
      if_pos hShort]
    dsimp only
    have hTaken : headerSize + (r.data.extract (r.pos + headerSize) r.data.size).size =
        r.data.size - r.pos := by simp; omega
    have hMoved : r.pos + headerSize + (r.data.size - (r.pos + headerSize)) =
        r.pos + (r.data.size - r.pos) := by omega
    rw [hMoved]
    cases hEnd : r.ending with
    | clean =>
      cases r.data.size - (r.pos + headerSize) <;>
        simp only [SourceEnd.shortRead, ByteSource.shortage, Decoded.used, hTaken]
    | broken f => simp only [SourceEnd.shortRead, ByteSource.shortage, Decoded.used, hTaken]
  · -- the whole payload is there, or there is none
    have hWhole : (if payloadLen > 0 then ({ r with pos := r.pos + headerSize }).readFull payloadLen
          else (.empty, none, { r with pos := r.pos + headerSize })) =
        (r.data.extract (r.pos + headerSize) (r.pos + headerSize + payloadLen), none,
          { r with pos := r.pos + (headerSize + payloadLen) }) := by
      split_ifs with hP
      · rw [readFull_of_le _ (by dsimp only; omega), Nat.add_assoc]
      · have hNone : payloadLen = 0 := by omega
        simp [hNone]
    have hShort : ¬ (decide (payloadLen > 0) &&
        decide (r.data.size - r.pos - headerSize < payloadLen)) = true := by simpa using hCut
    rw [hWhole, if_neg hShort]
    dsimp only
    split_ifs <;> rfl

/-- **Reading a record from a reader is reading its bytes**: whatever pieces the reader hands
over, and whether its ending comes with its last bytes or after them, the answer is `decodeAt`
on its bytes and ending, and the reader moves on past the bytes the answer took. -/
theorem decode_eq : r.decode = (ByteSource.decodeAt ⟨r.data, r.ending⟩ r.pos,
    { r with pos := r.pos + (ByteSource.decodeAt ⟨r.data, r.ending⟩ r.pos).used }) := by
  by_cases h : r.data.size - r.pos < headerSize
  · exact decode_of_short_header r h
  · exact decode_of_header r (by omega)

theorem decodeAll_go_eq (limit : Option Nat) (acc : List Entry) (fuel : Nat) :
    decodeAll.go r limit acc fuel =
      ByteSource.decodeAll.go ⟨r.data, r.ending⟩ r.pos limit acc fuel := by
  -- the reader's bytes and ending never change, only its position, which follows the source's
  induction fuel generalizing r limit acc with
  | zero => rfl
  | succ fuel ih =>
    simp only [decodeAll.go, ByteSource.decodeAll.go]
    split_ifs
    · rfl
    rw [decode_eq]
    cases ByteSource.decodeAt ⟨r.data, r.ending⟩ r.pos with
    | entry e used => exact ih { r with pos := r.pos + used } _ _
    | finished => rfl
    | failed f used => rfl

/-- A run of reads from a reader is a run of reads of its bytes from its position. -/
theorem decodeAll_eq (limit : Option Nat) :
    r.decodeAll limit = ByteSource.decodeAll ⟨r.data, r.ending⟩ r.pos limit :=
  decodeAll_go_eq r limit [] _

end PieceReader

/-- A record failure had the reader failed with `f` where the bytes ran out: `f` in place of a
cut header or payload, and the failure itself otherwise. -/
def Failure.endedBy (g f : Failure) : Failure :=
  match g with
  | .truncatedHeader | .truncatedPayload => f
  | g => g

/-- A read's answer had the reader failed with `f` where the bytes ran out. -/
def Decoded.endedBy (d : Decoded) (f : Failure) : Decoded :=
  match d with
  | .finished => .failed f 0
  | .failed g used => .failed (g.endedBy f) used
  | d => d

/-- How a run stops had the reader failed with `f` where the bytes ran out. -/
def ByteSource.Stop.endedBy (s : ByteSource.Stop) (f : Failure) : ByteSource.Stop :=
  match s with
  | .finished => .failed f
  | .failed g => .failed (g.endedBy f)
  | .limit => .limit

namespace ByteSource

/-- A reader that fails where its bytes run out answers a record read as one that ends cleanly
there, with its failure in place of the end of the data and of a cut record. -/
theorem decodeAt_broken (b : ByteArray) (f : Failure) (pos : Nat) :
    decodeAt ⟨b, .broken f⟩ pos = (decodeAt ⟨b, .clean⟩ pos).endedBy f := by
  dsimp only [decodeAt, shortage]
  split_ifs <;> rfl

theorem decodeAll_go_broken (b : ByteArray) (f : Failure) (pos : Nat) (limit : Option Nat)
    (acc : List Entry) (fuel : Nat) (hFuel : b.size - pos < fuel) :
    decodeAll.go ⟨b, .broken f⟩ pos limit acc fuel =
      ((decodeAll.go ⟨b, .clean⟩ pos limit acc fuel).1,
        (decodeAll.go ⟨b, .clean⟩ pos limit acc fuel).2.endedBy f) := by
  -- every record takes bytes, so the fuel never runs out first
  induction fuel generalizing pos limit acc with
  | zero => omega
  | succ fuel ih =>
    simp only [decodeAll.go]
    split_ifs
    · rfl
    rw [decodeAt_broken]
    cases hRead : decodeAt ⟨b, .clean⟩ pos with
    | entry e used =>
      have hUsed := decodeAt_entry_bounds hRead
      have hHeaderSize : headerSize = 13 := rfl
      exact ih (pos + used) _ _ (by dsimp only at hUsed; omega)
    | finished => rfl
    | failed g used => rfl

/-- **A failing reader's run is the clean run with its failure where the bytes run out**: the
same records, and the reader's failure where the clean run finds the end of the data or a cut
record. -/
theorem decodeAll_broken (b : ByteArray) (f : Failure) (pos : Nat) (limit : Option Nat) :
    decodeAll ⟨b, .broken f⟩ pos limit =
      ((decodeAll ⟨b, .clean⟩ pos limit).1, (decodeAll ⟨b, .clean⟩ pos limit).2.endedBy f) :=
  decodeAll_go_broken b f pos limit [] _ (by dsimp only; omega)

/-- A run without a limit stops at the end of the data or at a failed record read. -/
theorem decodeAll_go_stop (src : ByteSource) (pos : Nat) (acc : List Entry) (fuel : Nat) :
    (decodeAll.go src pos none acc fuel).2 = .finished ∨
      ∃ g q used, (decodeAll.go src pos none acc fuel).2 = .failed g ∧
        src.decodeAt q = .failed g used := by
  induction fuel generalizing pos acc with
  | zero => exact .inl rfl
  | succ fuel ih =>
    simp only [decodeAll.go]
    cases hRead : src.decodeAt pos with
    | entry e used => exact ih (pos + used) (e :: acc)
    | finished => exact .inl rfl
    | failed g used => exact .inr ⟨g, pos, used, rfl, hRead⟩

/-- Where a clean run without a limit stops, a run whose reader fails with `f` instead stops at a
failure, and that failure is recoverable only where the clean run met a checksum mismatch. -/
theorem endedBy_isRecoverable {b : ByteArray} {s : Stop}
    (hs : s = .finished ∨ ∃ g q used, s = .failed g ∧ decodeAt ⟨b, .clean⟩ q = .failed g used)
    {f : Failure} (hf : f.isRecoverable = false) :
    ∃ g, s.endedBy f = .failed g ∧
      (g.isRecoverable = true ↔ ∃ stored computed, s = .failed (.badChecksum stored computed)) := by
  rcases hs with rfl | ⟨g, q, used, rfl, hRead⟩
  · exact ⟨f, rfl, by simp [hf]⟩
  -- a clean run fails only with one of the five record failures
  obtain ⟨-, -, hCut | hCut | ⟨d, rfl⟩ | ⟨d, rfl⟩ | ⟨st, c, rfl⟩⟩ := decodeAt_failed_clean hRead
  · obtain ⟨rfl, -⟩ := hCut
    exact ⟨f, rfl, by simp [hf]⟩
  · obtain ⟨rfl, -⟩ := hCut
    exact ⟨f, rfl, by simp [hf]⟩
  · exact ⟨.keyTooLarge d, rfl, by simp [Failure.isRecoverable, Failure.kinds]⟩
  · exact ⟨.valueTooLarge d, rfl, by simp [Failure.isRecoverable, Failure.kinds]⟩
  · exact ⟨.badChecksum st c, rfl, by simp [Failure.isRecoverable, Failure.kinds]⟩

end ByteSource

open PieceReader in
/-- **Reading records does not depend on how the reader splits its bytes.** Every reader of
`s`, whatever pieces it hands over and whether its end comes with its last bytes or after them,
reads the same records and stops the same way as a reader of `s` in memory. A reader that fails
with `f` where its bytes run out reads the same records too, and stops with `f` itself where the
bytes run out, never with a cut header or payload; without a limit it always stops at a failure,
recoverable only for a checksum mismatch of a record whose bytes all came. -/
theorem decode_independent_of_pieces (s : ByteArray) (piece : Nat → Nat → Nat) (early : Bool)
    (limit : Option Nat) :
    (PieceReader.mk s .clean piece early 0).decodeAll limit = (ofBytes s).decodeAll limit ∧
    (∀ f : Failure, (PieceReader.mk s (.broken f) piece early 0).decodeAll limit =
      (((ofBytes s).decodeAll limit).1, ((ofBytes s).decodeAll limit).2.endedBy f)) ∧
    ∀ f : Failure, f.isRecoverable = false →
      ∃ es g, (PieceReader.mk s (.broken f) piece early 0).decodeAll none = (es, .failed g) ∧
        (g.isRecoverable = true ↔
          ∃ stored computed, ((ofBytes s).decodeAll none).2 = .failed (.badChecksum stored computed)) := by
  have hBytes : ∀ lim, (ofBytes s).decodeAll lim = ByteSource.decodeAll ⟨s, .clean⟩ 0 lim :=
    decodeAll_eq (ofBytes s)
  have hBroken : ∀ f lim, (PieceReader.mk s (.broken f) piece early 0).decodeAll lim =
      ((ByteSource.decodeAll ⟨s, .clean⟩ 0 lim).1,
        (ByteSource.decodeAll ⟨s, .clean⟩ 0 lim).2.endedBy f) := fun f lim => by
    rw [decodeAll_eq, ByteSource.decodeAll_broken]
  refine ⟨by rw [decodeAll_eq, hBytes], fun f => by rw [hBroken, hBytes], fun f hf => ?_⟩
  obtain ⟨g, hStop, hRecoverable⟩ :=
    ByteSource.endedBy_isRecoverable (ByteSource.decodeAll_go_stop _ 0 [] _) hf
  exact ⟨_, g, by rw [hBroken, ← hStop]; rfl, by rw [hBytes]; exact hRecoverable⟩

end LogStore
