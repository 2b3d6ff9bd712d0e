import Mathlib
import LogStore.Snapshot.Basic
import LogStore.Proofs.Bytes
import LogStore.Proofs.Disk
import LogStore.Proofs.KeyDir

/-!
# A new snapshot database, written and read back

A record that fits in what is left of its block is written as one whole chunk, and a reader
positioned at that chunk reads the record back and moves past it. Both facts are proved from the
layout of a chunk alone: the checksum a reader computes is over the very bytes the writer
checksummed, so it agrees without ever being computed.

* `writePieces_whole`, `numberedRecord_whole`: a small record is one whole chunk.
* `chunkBytes_size`, `readLE_chunk_checksum`, `readLE_chunk_length`, `byteAt_chunk_kind`,
  `readLE_chunk_logNum`, `extract_chunk_covered`: where a chunk keeps its fields.
* `nextChunk_enter`, `nextChunk_whole`, `nextChunk_end`, `nextChunk_trailer`: the reader's steps
  on a file of whole chunks within its first block; `next_of_whole` reads the record.
-/

namespace LogStore.Snapshot

open Bytes

/-! ## Writing a record as one chunk -/

/-- The header size of a chunk of a plain file (`none`) or of the numbered log `n`. -/
def chunkHeader : Option Nat → Nat
  | some _ => numberedHeader
  | none => plainHeader

/-- The bytes a chunk's checksum covers: its kind, the log number of a numbered log, its piece. -/
def chunkCovered (logNum : Option Nat) (kind : Nat) (piece : ByteArray) : ByteArray :=
  match logNum with
  | some n => ByteArray.mk #[(kind + 4).toUInt8] ++ leBytes n 4 ++ piece
  | none => ByteArray.mk #[kind.toUInt8] ++ ByteArray.empty ++ piece

theorem chunkBytes_eq (logNum : Option Nat) (kind : Nat) (piece : ByteArray) :
    chunkBytes logNum kind piece =
      leBytes (Checksum.maskedCastagnoli (chunkCovered logNum kind piece)).toNat 4 ++
        leBytes piece.size 2 ++ chunkCovered logNum kind piece := by
  cases logNum <;> rfl

theorem chunkCovered_size (logNum : Option Nat) (kind : Nat) (piece : ByteArray) :
    (chunkCovered logNum kind piece).size = chunkHeader logNum - 6 + piece.size := by
  have hOne (x : UInt8) : (ByteArray.mk #[x]).size = 1 := rfl
  cases logNum <;>
    simp only [chunkCovered, chunkHeader, numberedHeader, plainHeader, ByteArray.size_append,
      hOne, size_leBytes, ByteArray.size_empty]

theorem chunkBytes_size (logNum : Option Nat) (kind : Nat) (piece : ByteArray) :
    (chunkBytes logNum kind piece).size = chunkHeader logNum + piece.size := by
  have hHeader : 6 ≤ chunkHeader logNum := by
    cases logNum <;> simp [chunkHeader, numberedHeader, plainHeader]
  rw [chunkBytes_eq, ByteArray.size_append, ByteArray.size_append, chunkCovered_size,
    size_leBytes, size_leBytes]
  omega

theorem padBlock_of_room {out : ByteArray} {h : Nat} (hRoom : h ≤ blockSize - out.size % blockSize) :
    padBlock out h = out := by
  simp [padBlock, Nat.not_lt.mpr hRoom]

/-- A record that fits, with its header, in what is left of the block is written as one whole
chunk. -/
theorem writePieces_whole (logNum : Option Nat) {h : Nat} (out rest : ByteArray) (fuel : Nat)
    (hFits : h + rest.size ≤ blockSize - out.size % blockSize) :
    writePieces logNum h out rest true (fuel + 1) = out ++ chunkBytes logNum 1 rest := by
  have hPad : padBlock out h = out := padBlock_of_room (by omega)
  have hTake : min (blockSize - out.size % blockSize - h) rest.size = rest.size := by omega
  simp [writePieces, hPad, hTake, pieceKind, ByteArray.extract_zero_size]

theorem numberedRecord_whole (n : Nat) (record : ByteArray)
    (hFits : 2 * numberedHeader + record.size ≤ blockSize) :
    numberedRecord n ByteArray.empty record = chunkBytes (some n) 1 record := by
  have hSize : (chunkBytes (some n) 1 record).size = numberedHeader + record.size :=
    chunkBytes_size (some n) 1 record
  have hBlock : blockSize = 32768 := rfl
  have hHeader : numberedHeader = 11 := rfl
  rw [numberedRecord, writePieces_whole (some n) _ _ _ (by simp; omega), ByteArray.empty_append]
  exact padBlock_of_room (by rw [hSize, Nat.mod_eq_of_lt (by omega)]; omega)

/-! ## Where a chunk keeps its fields -/

section Layout

variable (pre c post : ByteArray)

/-- Reading a word inside a piece of a file reads the piece. -/
theorem readLE_within {i w : Nat} (h : i + w ≤ c.size) :
    readLE (pre ++ c ++ post) (pre.size + i) w = readLE c i w := by
  rw [readLE_append_left (by simp [ByteArray.size_append]; omega),
    readLE_append_right (by omega), Nat.add_sub_cancel_left]

theorem byteAt_within {i : Nat} (h : i < c.size) :
    byteAt (pre ++ c ++ post) (pre.size + i) = byteAt c i := by
  rw [byteAt_append_left (by simp [ByteArray.size_append]; omega),
    byteAt_append_right (by omega), Nat.add_sub_cancel_left]

theorem extract_within {i j : Nat} (h : j ≤ c.size) :
    (pre ++ c ++ post).extract (pre.size + i) (pre.size + j) = c.extract i j := by
  rw [ByteArray.append_assoc, ByteArray.extract_append_size_add, ByteArray.extract_append,
    ByteArray.extract_eq_empty_iff.mpr (by omega : min (j - c.size) post.size ≤ i - c.size),
    ByteArray.append_empty]

variable (logNum : Option Nat) (kind : Nat) (piece : ByteArray)

theorem chunkBytes_eq_assoc :
    chunkBytes logNum kind piece =
      leBytes (Checksum.maskedCastagnoli (chunkCovered logNum kind piece)).toNat 4 ++
        (leBytes piece.size 2 ++ chunkCovered logNum kind piece) := by
  rw [chunkBytes_eq, ByteArray.append_assoc]

theorem readLE_chunk_checksum :
    readLE (chunkBytes logNum kind piece) 0 4 =
      (Checksum.maskedCastagnoli (chunkCovered logNum kind piece)).toNat := by
  rw [chunkBytes_eq_assoc, readLE_append_left (by simp), readLE_leBytes]
  exact Nat.mod_eq_of_lt (UInt32.toNat_lt _)

theorem readLE_chunk_length : readLE (chunkBytes logNum kind piece) 4 2 = piece.size % 65536 :=
  readLE_middle _ _ _ _ _ (by simp)

/-- The kind byte of a chunk is the first byte its checksum covers. -/
theorem byteAt_chunk_kind :
    byteAt (chunkBytes logNum kind piece) 6 = byteAt (chunkCovered logNum kind piece) 0 := by
  rw [chunkBytes_eq, byteAt_append_right (by simp [ByteArray.size_append])]
  simp [ByteArray.size_append]

/-- The bytes before a chunk's piece, its header less the six of checksum and length, lead the
bytes the checksum covers. -/
theorem chunkCovered_split :
    ∃ lead : ByteArray, chunkCovered logNum kind piece = lead ++ piece ∧
      lead.size + 6 = chunkHeader logNum := by
  cases logNum
  · exact ⟨_, rfl, rfl⟩
  · exact ⟨_, rfl, by simp [chunkHeader, numberedHeader, ByteArray.size_append]; rfl⟩

theorem byteAt_chunkCovered_kind :
    byteAt (chunkCovered logNum kind piece) 0 =
      (match logNum with
       | some _ => kind + 4
       | none => kind) % 256 := by
  have hFirst (x : UInt8) : byteAt (ByteArray.mk #[x]) 0 = x.toNat := rfl
  cases logNum <;>
    rw [chunkCovered, ByteArray.append_assoc, byteAt_append_left Nat.zero_lt_one, hFirst] <;>
    simp

theorem extract_chunk_covered :
    (chunkBytes logNum kind piece).extract 6 (chunkHeader logNum + piece.size) =
      chunkCovered logNum kind piece := by
  have hHeader : 6 ≤ chunkHeader logNum := by
    cases logNum <;> simp [chunkHeader, numberedHeader, plainHeader]
  rw [chunkBytes_eq]
  apply ByteArray.extract_append_eq_right
  · simp [ByteArray.size_append]
  · simp [ByteArray.size_append, chunkCovered_size]
    omega

theorem extract_chunk_piece :
    (chunkBytes logNum kind piece).extract (chunkHeader logNum) (chunkHeader logNum + piece.size) =
      piece := by
  obtain ⟨lead, hLead, hSize⟩ := chunkCovered_split logNum kind piece
  rw [chunkBytes_eq, hLead, ← ByteArray.append_assoc]
  apply ByteArray.extract_append_eq_right
  · simp [ByteArray.size_append]
    omega
  · simp [ByteArray.size_append]
    omega

theorem readLE_chunk_logNum (n : Nat) :
    readLE (chunkBytes (some n) kind piece) 7 4 = n % 2 ^ 32 := by
  rw [chunkBytes_eq, readLE_append_right (by simp [ByteArray.size_append])]
  simp only [chunkCovered, ByteArray.size_append, size_leBytes]
  rw [show 7 - (4 + 2) = ByteArray.size (ByteArray.mk #[(kind + 4).toUInt8]) from rfl,
    readLE_middle _ _ _ _ _ rfl]
  norm_num

/-! The closing header of a log: a chunk of no piece whose number field names the next log. -/

@[simp] theorem size_mk_singleton (x : UInt8) : (ByteArray.mk #[x]).size = 1 := rfl

theorem readLE_endTrailer_checksum (m : Nat) : readLE (endTrailer m) 0 4 = 0 := by
  rw [endTrailer, readLE_append_left (by simp [ByteArray.size_append]), readLE_append_left (by simp)]
  rfl

theorem readLE_endTrailer_length (m : Nat) : readLE (endTrailer m) 4 2 = 0 := by
  rw [endTrailer, readLE_append_left (by simp [ByteArray.size_append]), readLE_append_left (by simp)]
  rfl

theorem byteAt_endTrailer_kind (m : Nat) : byteAt (endTrailer m) 6 = 5 := by
  rw [endTrailer, byteAt_append_left (by simp [ByteArray.size_append])]
  rfl

theorem readLE_endTrailer_logNum (m : Nat) : readLE (endTrailer m) 7 4 = (m + 1) % 2 ^ 32 := by
  rw [endTrailer, readLE_append_right (by simp [ByteArray.size_append])]
  simpa [ByteArray.size_append] using readLE_leBytes (m + 1) 4

theorem size_endTrailer (m : Nat) : (endTrailer m).size = numberedHeader := by
  simp [endTrailer, ByteArray.size_append]
  rfl

end Layout

/-! ## Reading whole chunks back -/

namespace ChunkReader

variable {r : ChunkReader} {wantFirst : Bool} {fuel : Nat}

variable (wantFirst fuel) in
/-- A reader that has read no block yet moves to the first one. -/
theorem nextChunk_enter (hBlock : r.block = none) (hSize : r.size < r.stop + plainHeader)
    (hFile : 0 < r.file.size) (hFits : r.file.size ≤ blockSize) :
    r.nextChunk wantFirst (fuel + 1) =
      { r with block := some 0, size := r.file.size, start := 0, stop := 0 }.nextChunk wantFirst
        fuel := by
  have hMin : min blockSize (r.file.size - 0 * blockSize) = r.file.size := by omega
  have hN : r.file.size ≠ 0 := by omega
  rw [nextChunk, if_neg (Nat.not_le.mpr hSize)]
  simp only [hBlock, Option.isSome_none, Bool.and_false, Bool.false_eq_true, if_false, hMin, hN]

variable {pre post piece : ByteArray} {ln : Option Nat}

variable (wantFirst fuel) in
/-- A reader positioned, within its block, at a whole chunk of its log reads it: the checksum it
computes is over the very bytes the writer checksummed. -/
theorem nextChunk_whole (hFile : r.file = pre ++ chunkBytes ln 1 piece ++ post)
    (hPos : r.base + r.stop = pre.size) (hFits : r.stop + chunkHeader ln + piece.size ≤ r.size)
    (hLog : ∀ n, ln = some n → n = r.logNum) (hPiece : piece.size < 65536)
    (hNum : r.logNum < 2 ^ 32) :
    r.nextChunk wantFirst (fuel + 1) =
      .ok { r with start := r.stop + chunkHeader ln, stop := r.stop + chunkHeader ln + piece.size,
                   last := true } := by
  have hSize := chunkBytes_size ln 1 piece
  have hHeader : plainHeader ≤ chunkHeader ln ∧ 6 < chunkHeader ln := by
    cases ln <;> simp [chunkHeader, plainHeader, numberedHeader]
  -- the header's fields, read where the chunk lies in the file
  have hChecksum : readLE r.file (r.base + r.stop) 4 =
      (Checksum.maskedCastagnoli (chunkCovered ln 1 piece)).toNat := by
    rw [hFile, hPos, ← readLE_chunk_checksum]
    simpa only [Nat.add_zero] using
      readLE_within pre (chunkBytes ln 1 piece) post (i := 0) (w := 4) (by omega)
  have hLength : readLE r.file (r.base + r.stop + 4) 2 = piece.size := by
    rw [hFile, hPos, readLE_within pre (chunkBytes ln 1 piece) post (i := 4) (w := 2) (by omega),
      readLE_chunk_length,
      Nat.mod_eq_of_lt hPiece]
  have hKind : byteAt r.file (r.base + r.stop + 6) = if ln.isSome then 5 else 1 := by
    rw [hFile, hPos, byteAt_within pre (chunkBytes ln 1 piece) post (i := 6) (by omega),
      byteAt_chunk_kind,
      byteAt_chunkCovered_kind]
    cases ln <;> rfl
  have hCovered : r.file.extract (r.base + (r.stop + chunkHeader ln) - chunkHeader ln + 6)
      (r.base + (r.stop + chunkHeader ln + piece.size)) = chunkCovered ln 1 piece := by
    have hFrom : r.base + (r.stop + chunkHeader ln) - chunkHeader ln + 6 = pre.size + 6 := by omega
    have hTo : r.base + (r.stop + chunkHeader ln + piece.size) =
        pre.size + (chunkHeader ln + piece.size) := by omega
    rw [hFrom, hTo, hFile, extract_within pre (chunkBytes ln 1 piece) post (by omega),
      extract_chunk_covered]
  have hIn : r.stop + plainHeader ≤ r.size := by omega
  cases ln with
  | none =>
    simp only [chunkHeader] at hCovered hFits ⊢
    simp [nextChunk, hChecksum, hLength, hKind, hCovered, hIn, Nat.not_lt.mpr hFits]
  | some n =>
    have hNumbered : chunkHeader (some n) = 11 := rfl
    have hNumRead : readLE r.file (r.base + r.stop + 7) 4 = r.logNum := by
      rw [hFile, hPos, readLE_within pre (chunkBytes (some n) 1 piece) post (i := 7) (w := 4)
        (by omega), readLE_chunk_logNum, hLog n rfl, Nat.mod_eq_of_lt hNum]
    simp only [chunkHeader] at hCovered hFits ⊢
    have hRoom : r.stop + numberedHeader ≤ r.size := by omega
    simp [nextChunk, hChecksum, hLength, hKind, hNumRead, hCovered, hIn, Nat.not_lt.mpr hRoom,
      Nat.not_lt.mpr hFits]

/-- A reader at the end of a file that ends within its block has read every record. -/
theorem nextChunk_end (hBlock : r.block.isSome) (hSize : r.size < blockSize)
    (hStop : r.stop = r.size) : r.nextChunk true (fuel + 1) = .error .eof := by
  have hOut : ¬ r.stop + plainHeader ≤ r.size := by
    simp only [plainHeader]
    omega
  rw [nextChunk, if_neg hOut]
  simp [hSize, hBlock, hStop]

/-- A reader that meets the closing header of a log whose next number is not its own has reached
the end of its log. -/
theorem nextChunk_trailer {m : Nat} (hFile : r.file = pre ++ endTrailer m ++ post)
    (hPos : r.base + r.stop = pre.size) (hFits : r.stop + numberedHeader ≤ r.size)
    (hOther : (m + 1) % 2 ^ 32 ≠ r.logNum) : r.nextChunk true (fuel + 1) = .error .eof := by
  norm_num at hOther
  have hSize := size_endTrailer m
  have hRead (i w : Nat) (h : i + w ≤ numberedHeader) :
      readLE r.file (r.base + r.stop + i) w = readLE (endTrailer m) i w := by
    rw [hFile, hPos]
    exact readLE_within pre (endTrailer m) post (by omega)
  have hChecksum : readLE r.file (r.base + r.stop) 4 = 0 := by
    simpa only [Nat.add_zero, readLE_endTrailer_checksum] using hRead 0 4 (by decide)
  have hKind : byteAt r.file (r.base + r.stop + 6) = 5 := by
    rw [hFile, hPos, byteAt_within pre (endTrailer m) post (by simp only [hSize]; decide),
      byteAt_endTrailer_kind]
  have hIn : r.stop + plainHeader ≤ r.size := by
    simp only [plainHeader, numberedHeader] at hFits ⊢
    omega
  simp [nextChunk, hChecksum, hKind, hRead 4 2 (by decide), hRead 7 4 (by decide),
    readLE_endTrailer_length, readLE_endTrailer_logNum, hIn, Nat.not_lt.mpr hFits, hOther]

/-- Reading a record: the first chunk, and the rest when it is not the last. -/
theorem next_of_last {r' : ChunkReader} (h : nextChunk true { r with start := r.stop } r.fuel = .ok r')
    (hLast : r'.last = true) :
    r.next = .ok (r'.file.extract (r'.base + r'.start) (r'.base + r'.stop), r') := by
  have hFuel : r'.fuel = (2 * r'.file.size + 3) + 1 := rfl
  simp [next, h, hFuel, rest, hLast]

theorem next_of_error {e : ChunkError}
    (h : nextChunk true { r with start := r.stop } r.fuel = .error e) :
    r.next = .error e := by
  simp [next, h]

theorem extract_piece {file : ByteArray} (hFile : file = pre ++ chunkBytes ln 1 piece ++ post) :
    file.extract (pre.size + chunkHeader ln) (pre.size + (chunkHeader ln + piece.size)) = piece := by
  rw [hFile, extract_within pre (chunkBytes ln 1 piece) post (by rw [chunkBytes_size]),
    extract_chunk_piece]

/-- A reader within a block, at a whole chunk of its log, reads its piece as a record. -/
theorem next_whole (hFile : r.file = pre ++ chunkBytes ln 1 piece ++ post)
    (hPos : r.base + r.stop = pre.size) (hFits : r.stop + chunkHeader ln + piece.size ≤ r.size)
    (hLog : ∀ n, ln = some n → n = r.logNum) (hPiece : piece.size < 65536)
    (hNum : r.logNum < 2 ^ 32) :
    r.next = .ok (piece, { r with start := r.stop + chunkHeader ln,
                                  stop := r.stop + chunkHeader ln + piece.size, last := true }) := by
  have hSize := chunkBytes_size ln 1 piece
  have hFuel : r.fuel = (2 * r.file.size + 3) + 1 := rfl
  rw [next_of_last (by rw [hFuel]; exact nextChunk_whole _ _ hFile hPos hFits hLog hPiece hNum) rfl]
  have hFrom : r.base + (r.stop + chunkHeader ln) = pre.size + chunkHeader ln := by omega
  have hTo : r.base + (r.stop + chunkHeader ln + piece.size) =
      pre.size + (chunkHeader ln + piece.size) := by omega
  simp only [base] at hFrom hTo ⊢
  rw [hFrom, hTo, extract_piece hFile]

/-- A reader that has read nothing yet reads the whole chunk its file begins with, when the file
is one block at most. -/
theorem next_first (hFile : r.file = chunkBytes ln 1 piece ++ post) (hFresh : r.block = none)
    (hEmpty : r.size = 0) (hStop : r.stop = 0) (hBlock : r.file.size ≤ blockSize)
    (hLog : ∀ n, ln = some n → n = r.logNum) (hPiece : piece.size < 65536)
    (hNum : r.logNum < 2 ^ 32) :
    r.next = .ok (piece, { r with block := some 0, size := r.file.size,
                                  start := chunkHeader ln, stop := chunkHeader ln + piece.size,
                                  last := true }) := by
  have hSize := chunkBytes_size ln 1 piece
  have hFile' : r.file = ByteArray.empty ++ chunkBytes ln 1 piece ++ post := by
    rw [hFile, ByteArray.empty_append]
  have hFileSize : r.file.size = chunkHeader ln + piece.size + post.size := by
    rw [hFile, ByteArray.size_append, hSize]
  have hFuel : r.fuel = (2 * r.file.size + 2) + 1 + 1 := rfl
  have hEnter := nextChunk_enter (r := { r with start := r.stop }) true
    (2 * r.file.size + 2 + 1) hFresh (by simp [hEmpty, hStop, plainHeader])
    (by simp only [hFileSize, chunkHeader]; cases ln <;> simp [plainHeader, numberedHeader]) hBlock
  have hWhole := nextChunk_whole true (2 * r.file.size + 2)
    (r := { r with block := some 0, size := r.file.size, start := 0, stop := 0 }) hFile'
    (by simp [base]) (by simp only [hFileSize]; omega) hLog hPiece hNum
  rw [next_of_last (by rw [hFuel, hEnter]; exact hWhole) rfl]
  simpa [base] using extract_piece hFile'

end ChunkReader

/-! ## Plain files of records within one block -/

theorem plainRecords_foldl_whole (records : List ByteArray) (out : ByteArray)
    (hFits : out.size + (records.map fun r => plainHeader + r.size).sum ≤ blockSize) :
    records.foldl (fun out r => writePieces none plainHeader out r true (r.size + 2)) out =
      (records.map (chunkBytes none 1)).foldl (· ++ ·) out := by
  -- the accumulator grows by one whole chunk per record, and stays within the block
  induction records generalizing out with
  | nil => rfl
  | cons r rest ih =>
    simp only [List.map_cons, List.sum_cons] at hFits
    have hRoom : plainHeader + r.size ≤ blockSize - out.size % blockSize := by
      rw [Nat.mod_eq_of_lt (by simp only [plainHeader] at hFits ⊢; omega)]
      omega
    have hWhole : writePieces none plainHeader out r true (r.size + 2) =
        out ++ chunkBytes none 1 r := writePieces_whole none out r (r.size + 1) hRoom
    have hSize : (out ++ chunkBytes none 1 r).size = out.size + (plainHeader + r.size) := by
      rw [ByteArray.size_append, chunkBytes_size]
      rfl
    simp only [List.foldl_cons, List.map_cons, hWhole]
    exact ih _ (by omega)

/-- Records that fit in one block together, each with its header, are written to a plain file as
whole chunks one after the other. -/
theorem plainRecords_whole (records : List ByteArray)
    (hFits : (records.map fun r => plainHeader + r.size).sum ≤ blockSize) :
    plainRecords records = (records.map (chunkBytes none 1)).foldl (· ++ ·) ByteArray.empty :=
  plainRecords_foldl_whole records ByteArray.empty (by simpa using hFits)

/-! ## Folding a manifest and replaying a log, record by record -/

namespace Manifest

variable {comparer : ByteArray} {m : Manifest} {r r' : ChunkReader} {fuel : Nat}

theorem loadFrom_of_end {e : ChunkError} (h : r.next = .error e) :
    loadFrom comparer m r (fuel + 1) = .ok m := by
  simp [loadFrom, h]

/-- An edit of the comparer the manifest is read with, or of none, is applied. -/
theorem loadFrom_of_edit {record : ByteArray} {e : VersionEdit} {m' : Manifest}
    (h : r.next = .ok (record, r')) (hDecode : VersionEdit.decode? record = .ok e)
    (hComparer : e.comparer.isEmpty = true ∨ (e.comparer == comparer) = true)
    (hApply : m.apply e = .ok m') :
    loadFrom comparer m r (fuel + 1) = loadFrom comparer m' r' fuel := by
  have hSame : (!e.comparer.isEmpty && e.comparer != comparer) = false := by
    rcases hComparer with hEmpty | hEq
    · simp [hEmpty]
    · simp [bne, hEq]
  simp [loadFrom, h, hDecode, hSame, hApply]

end Manifest

section Replay

variable {path : String} {logNum : Nat} {strict : Bool} {r r' : ChunkReader} {rp : Replay}
  {keys batches fuel : Nat}

/-- Replaying stops at the end of the log where it began reading the record it did not find. -/
theorem replayRecords_of_eof (h : r.next = .error .eof) :
    replayRecords path logNum strict r rp keys batches (fuel + 1) =
      .ok (rp, keys, batches, r.offset) := by
  simp [replayRecords, h]

/-- A batch read in order adds its changes and counts its keys. -/
theorem replayRecords_of_batch {record : ByteArray} {b : Batch} {cs : List (Nat × Change)}
    (h : r.next = .ok (record, r')) (hHeader : Batch.header? record = some b)
    (hOrder : rp.firstSeq.getD b.seqNum ≤ b.seqNum) (hChanges : b.changes? = .ok cs) :
    replayRecords path logNum strict r rp keys batches (fuel + 1) =
      replayRecords path logNum strict r'
        { rp with logged := rp.logged ++ cs, firstSeq := some (rp.firstSeq.getD b.seqNum) }
        (keys + b.count) (batches + 1) fuel := by
  simp [replayRecords, h, hHeader, Nat.not_lt.mpr hOrder, hChanges]

end Replay

/-! ## Trimming the line of `CURRENT`

The white space a name is trimmed of is read from the table of encodings one member at a time:
each is a character below U+3001 that `Text.isSpace` accepts, and none begins or ends with a
printable ASCII byte; the only one ending in a newline is the newline itself. -/

theorem toNat_ofNat_of_lt {n : Nat} (hn : n < 0xD800) : (Char.ofNat n).toNat = n := by
  simp [Char.toNat_ofNat, Nat.isValidChar, hn]

/-- The code points below U+3001 that are white space. -/
theorem isSpace_ofNat_cases {n : Nat} (hs : Text.isSpace (Char.ofNat n) = true) (hn : n < 0x3001) :
    (9 ≤ n ∧ n ≤ 13) ∨ (0x2000 ≤ n ∧ n ≤ 0x200A) ∨ n = 32 ∨ n = 0x85 ∨ n = 0xA0 ∨ n = 0x1680 ∨
      n = 0x2028 ∨ n = 0x2029 ∨ n = 0x202F ∨ n = 0x205F ∨ n = 0x3000 := by
  simp only [Text.isSpace, toNat_ofNat_of_lt (by omega : n < 0xD800)] at hs
  simp only [Bool.or_eq_true, Bool.and_eq_true, decide_eq_true_eq] at hs
  omega

theorem spaceEncodings_shape {e : List UInt8} (h : e ∈ spaceEncodings) :
    e ≠ [] ∧ (e.head?.all fun x => x.toNat ≤ 32 || 128 ≤ x.toNat) = true ∧
      (e.getLast?.all fun x => x.toNat ≤ 32 || 128 ≤ x.toNat) = true ∧
      (e.getLast? = some 10 → e = [10]) := by
  delta spaceEncodings at h
  simp only [List.mem_map, List.mem_filter, List.mem_range] at h
  obtain ⟨k, ⟨hk, hs⟩, rfl⟩ := h
  -- twenty-five characters, each encoded and checked
  have hCases := isSpace_ofNat_cases hs hk
  clear hs
  rcases hCases with ⟨h1, h2⟩ | ⟨h1, h2⟩ | rfl | rfl | rfl | rfl | rfl | rfl | rfl | rfl | rfl
  · interval_cases k <;> decide +kernel
  · interval_cases k <;> decide +kernel
  all_goals decide +kernel

theorem find?_spaceStart_none {x : UInt8} {rest : List UInt8} (hx : 32 < x.toNat ∧ x.toNat < 128) :
    spaceEncodings.find? (·.isPrefixOf (x :: rest)) = none := by
  rw [List.find?_eq_none]
  intro e he hPre
  obtain ⟨hne, hHead, -, -⟩ := spaceEncodings_shape he
  obtain ⟨y, t, rfl⟩ := List.exists_cons_of_ne_nil hne
  simp only [List.isPrefixOf, Bool.and_eq_true, beq_iff_eq] at hPre
  simp only [List.head?_cons, Option.all_some, Bool.or_eq_true, decide_eq_true_eq, hPre.1] at hHead
  omega

theorem find?_spaceEnd_none {x : UInt8} {rest : List UInt8} (hx : 32 < x.toNat ∧ x.toNat < 128) :
    spaceEncodings.find? (fun e => e.reverse.isPrefixOf (x :: rest)) = none := by
  rw [List.find?_eq_none]
  intro e he hPre
  obtain ⟨hne, -, hLast, -⟩ := spaceEncodings_shape he
  obtain ⟨y, t, hRev⟩ := List.exists_cons_of_ne_nil (List.reverse_ne_nil_iff.mpr hne)
  rw [hRev] at hPre
  simp only [List.isPrefixOf, Bool.and_eq_true, beq_iff_eq] at hPre
  rw [← List.head?_reverse, hRev] at hLast
  simp only [List.head?_cons, Option.all_some, Bool.or_eq_true, decide_eq_true_eq, hPre.1] at hLast
  omega

theorem find?_spaceEnd_newline (rest : List UInt8) :
    spaceEncodings.find? (fun e => e.reverse.isPrefixOf (10 :: rest)) = some [10] := by
  have hMem : [10] ∈ spaceEncodings := by
    delta spaceEncodings
    exact List.mem_map.mpr ⟨10, List.mem_filter.mpr ⟨List.mem_range.mpr (by norm_num),
      by decide +kernel⟩, by decide +kernel⟩
  cases hFind : spaceEncodings.find? (fun e => e.reverse.isPrefixOf (10 :: rest)) with
  | none =>
    exact absurd (List.find?_eq_none.mp hFind [10] hMem) (by simp [List.isPrefixOf])
  | some e =>
    have hPre := List.find?_some hFind
    obtain ⟨hne, -, -, hTen⟩ := spaceEncodings_shape (List.mem_of_find?_eq_some hFind)
    obtain ⟨y, t, hRev⟩ := List.exists_cons_of_ne_nil (List.reverse_ne_nil_iff.mpr hne)
    rw [hRev] at hPre
    simp only [List.isPrefixOf, Bool.and_eq_true, beq_iff_eq] at hPre
    rw [hTen (by rw [← List.head?_reverse, hRev, hPre.1]; rfl)]

/-- A line that begins and ends with printable ASCII loses only its newline. -/
theorem trimSpaceBytes_line {b : ByteArray} {x y : UInt8} {mid : List UInt8}
    (hb : b.toList = x :: (mid ++ [y, 10])) (hx : 32 < x.toNat ∧ x.toNat < 128)
    (hy : 32 < y.toNat ∧ y.toNat < 128) :
    trimSpaceBytes b = ⟨(x :: (mid ++ [y])).toArray⟩ := by
  have hSize : b.size = mid.length + 2 + 1 := by
    rw [← ByteArray.size_data, ← Array.length_toList, ← Bytes.toList_eq_data, hb]
    simp
  have hStart : dropSpaceStart (x :: (mid ++ [y, 10])) (mid.length + 2 + 1) =
      x :: (mid ++ [y, 10]) := by
    rw [dropSpaceStart, find?_spaceStart_none hx]
  have hRev : (x :: (mid ++ [y, 10])).reverse = 10 :: y :: (mid.reverse ++ [x]) := by
    simp
  -- the newline goes first, then the last printable byte stops the trimming
  have hEnd : dropSpaceEnd (10 :: y :: (mid.reverse ++ [x])) (mid.length + 2 + 1) =
      y :: (mid.reverse ++ [x]) := by
    rw [dropSpaceEnd, find?_spaceEnd_newline]
    simp only [List.length_singleton, List.drop_one, List.tail_cons]
    rw [dropSpaceEnd, find?_spaceEnd_none hy]
  simp only [trimSpaceBytes, hSize, hb, hStart, hRev, List.length_cons, List.length_append,
    List.length_nil, Nat.zero_add, hEnd]
  simp

end LogStore.Snapshot

/-! ## Whole-file operations on a path that names a file or nothing -/

namespace LogStore

/-- A result whose value is known is that value; how facts about a result are evaluated. -/
theorem Except.eq_ok_of_toOption {ε α : Type} {x : Except ε α} {a : α}
    (h : x.toOption = some a) : x = .ok a := by
  cases x with
  | error e => cases h
  | ok b => cases h; rfl

/-- A fold whose every step keeps the state keeps it. -/
theorem foldlM_eq_ok_self {ε σ : Type} {f : σ → Nat → Except ε σ} {s : σ} (l : List Nat)
    (h : ∀ i ∈ l, f s i = .ok s) : l.foldlM f s = .ok s := by
  induction l with
  | nil => rfl
  | cons i l ih =>
    simp only [List.mem_cons, forall_eq_or_imp] at h
    simp only [List.foldlM_cons, h.1]
    exact ih h.2

/-- Making a directory whose every location on the way is a directory changes nothing. -/
theorem Tree.mkdirAll_of_dirs {t : Tree} {cwd path : String}
    (h : ∀ i < (Path.resolve cwd path).length,
      t.node? ((Path.resolve cwd path).take (i + 1)) = some .dir) :
    t.mkdirAll cwd path = .ok t := by
  unfold Tree.mkdirAll
  exact foldlM_eq_ok_self _ fun i hi => by simp only [h i (List.mem_range.mp hi)]

namespace Disk

variable {d : Disk} {p : String}

theorem fileAt_of_file {ino : Nat} (h : d.locate "open" p = .ok (some (.file ino))) (create : Bool) :
    d.fileAt p create = .ok (ino, d) := by
  simp [fileAt, h, bind, Except.bind, pure, Except.pure]

/-- The disk with an empty file added at `p`, at the next inode: what creating a missing file
leaves. -/
def addFile (d : Disk) (p : String) : Disk :=
  { d with tree := (d.tree.createFile (d.place p)).2 }

/-- The disk with the bytes of inode `ino` replaced. -/
def setContents (d : Disk) (ino : Nat) (b : ByteArray) : Disk :=
  { d with tree := d.tree.setContents ino b }

@[simp] theorem nextIno_addFile : (d.addFile p).tree.nextIno = d.tree.nextIno + 1 := rfl

@[simp] theorem nextIno_setContents {ino : Nat} {b : ByteArray} :
    (d.setContents ino b).tree.nextIno = d.tree.nextIno := rfl

@[simp] theorem contents_setContents_self {ino : Nat} {b : ByteArray} :
    (d.setContents ino b).tree.contents ino = b :=
  Tree.contents_setContents_self _ _ _

theorem contents_setContents_ne {ino j : Nat} {b : ByteArray} (h : j ≠ ino) :
    (d.setContents ino b).tree.contents j = d.tree.contents j :=
  Tree.contents_setContents_ne _ _ h

theorem contents_addFile {j : Nat} (h : j ≠ d.tree.nextIno) :
    (d.addFile p).tree.contents j = d.tree.contents j :=
  Tree.contents_createFile_ne _ h

theorem fileAt_of_absent (h : d.locate "open" p = .ok none) :
    d.fileAt p true = .ok (d.tree.nextIno, d.addFile p) := by
  simp [fileAt, h, bind, Except.bind, pure, Except.pure, Tree.createFile, addFile]

/-- Writing a file where nothing stood creates it, with the bytes given, at the next inode. -/
theorem writeFile_of_absent {b : ByteArray} {ino : Nat} (h : d.locate "open" p = .ok none)
    (hIno : d.tree.nextIno = ino) : d.writeFile p b = .ok ((d.addFile p).setContents ino b) := by
  simp [writeFile, fileAt_of_absent h, hIno, bind, Except.bind, pure, Except.pure, addFile,
    setContents]

theorem contentsAt_of_file {ino : Nat} (h : d.locate "open" p = .ok (some (.file ino))) :
    d.contentsAt p = .ok (d.tree.contents ino) := by
  simp [contentsAt, h, bind, Except.bind, pure, Except.pure]

end Disk

end LogStore

namespace LogStore.Snapshot

/-! ## Making and opening a database, step by step -/

section Steps

variable {d d' : Disk} {dir : String}

theorem takeLock_of_file {ino : Nat}
    (h : d.locate "open" (Path.join dir lockFile) = .ok (some (.file ino))) :
    takeLock d dir = .ok d := by
  simp [takeLock, Disk.fileAt_of_file h, bind, Except.bind, pure, Except.pure]

theorem takeLock_of_absent (h : d.locate "open" (Path.join dir lockFile) = .ok none) :
    takeLock d dir = .ok (d.addFile (Path.join dir lockFile)) := by
  simp [takeLock, Disk.fileAt_of_absent h, bind, Except.bind, pure, Except.pure]

theorem readCurrent_of_absent (h : d.locate "open" (Path.join dir markerFile) = .ok none) :
    readCurrent d dir = .ok none := by
  simp [readCurrent, h, pure, Except.pure]

/-- A `CURRENT` file of one line naming a manifest gives that manifest's number. -/
theorem readCurrent_of_file {ino : Nat} {b : ByteArray} {f : FileName}
    (h : d.locate "open" (Path.join dir markerFile) = .ok (some (.file ino)))
    (hContents : d.tree.contents ino = b) (hSize : 0 < b.size ∧ b.size ≤ 4096)
    (hLine : b.get! (b.size - 1) = 10)
    (hName : FileName.parse? (Text.Utf8.lossy (trimSpaceBytes b)) = some f) :
    readCurrent d dir = .ok (some f.number) := by
  have hNonzero : b.size ≠ 0 := by omega
  have hSmall : ¬ b.size > 4096 := by omega
  simp [readCurrent, h, hContents, hNonzero, hSmall, hLine, hName, pure, Except.pure]

/-- Opening a database whose steps up to its logs succeed: its lock taken (`d'`), the manifest
`CURRENT` names loaded with every table file in place, and the newest options file `name` read.
What remains is replaying the logs. -/
theorem load_of_steps {node : Node} {k : Nat} {m : Manifest} {logs : List (Nat × String)}
    {name : String} {b : ByteArray} {strict : Bool}
    (hDir : d.locate "open" dir = .ok (some node)) (hLock : takeLock d dir = .ok d')
    (hCurrent : readCurrent d' dir = .ok (some k)) (hManifest : loadManifest d' dir k = .ok m)
    (hTables : tableProblems d' dir m.files = "")
    (hScan : scanNames m.logNum (d'.list dir) = (logs, some name))
    (hOptions : d'.contentsAt (Path.join dir name) = .ok b) (hCheck : checkOptions b = .ok strict) :
    load d dir = (d', (replayLogs d' dir strict logs {}).2.notes,
      (replayLogs d' dir strict logs {}).1.map fun rp => { tables := m.files, logged := rp.logged }) := by
  simp [load, hDir, hLock, hCurrent, hManifest, hTables, hScan, hOptions, hCheck, bind,
    Except.bind, pure, Except.pure]

/-! ## The files of a new database read back

The edits of a new manifest and the batch of a new log are small enough to be decoded by
evaluation; the chunks around them are read by the lemmas above, so that no checksum is
computed. -/

deriving instance DecidableEq for TableFile, VersionEdit, Manifest, Batch, Change

/-- A new database's manifest loads as its comparer, its first log and the next numbers. -/
theorem Manifest.load_newManifest :
    Manifest.load comparerName.toUTF8 newManifest =
      .ok { comparer := comparerName.toUTF8, logNum := firstLog, nextFile := firstOptions,
            nextSeq := firstSeqNum } := by
  set e₁ : VersionEdit := { comparer := comparerName.toUTF8, nextFile := firstLog }
  set e₂ : VersionEdit := { logNum := firstLog, nextFile := firstOptions, lastSeq := firstSeqNum - 1 }
  have hSizes : e₁.encode.size = 32 ∧ e₂.encode.size = 6 := by decide +kernel
  have hFile : newManifest =
      ByteArray.empty ++ chunkBytes none 1 e₁.encode ++ chunkBytes none 1 e₂.encode := by
    rw [newManifest, plainRecords_whole _ (by decide +kernel)]
    rfl
  have hSize : newManifest.size = 52 := by
    rw [hFile, ByteArray.size_append, ByteArray.size_append, chunkBytes_size, chunkBytes_size,
      hSizes.1, hSizes.2]
    rfl
  -- the reader takes the first block, reads the two edits, and meets the end of the file
  have hRead₁ := ChunkReader.next_first (r := { file := newManifest, logNum := 0 })
    (show newManifest = chunkBytes none 1 e₁.encode ++ chunkBytes none 1 e₂.encode by
      rw [hFile, ByteArray.empty_append])
    rfl rfl rfl (by rw [hSize]; decide) (fun _ h => by cases h) (by rw [hSizes.1]; decide)
    (by decide)
  set r₁ : ChunkReader := { file := newManifest, logNum := 0, block := some 0, size := newManifest.size, start := chunkHeader none, stop := chunkHeader none + e₁.encode.size, last := true }
  have hRead₂ := ChunkReader.next_whole (r := r₁)
    (show newManifest = ByteArray.empty ++ chunkBytes none 1 e₁.encode ++
        chunkBytes none 1 e₂.encode ++ ByteArray.empty by
      rw [hFile, ByteArray.append_empty])
    (by simp [r₁, ChunkReader.base, chunkBytes_size])
    (by simp [r₁, hSize, hSizes, chunkHeader, plainHeader])
    (fun _ h => by cases h) (by rw [hSizes.2]; decide) (by decide)
  set r₂ : ChunkReader := { r₁ with start := r₁.stop + chunkHeader none, stop := r₁.stop + chunkHeader none + e₂.encode.size, last := true }
  have hRead₃ : r₂.next = .error .eof := ChunkReader.next_of_error
    (by
      rw [show r₂.fuel = (2 * newManifest.size + 3) + 1 from rfl]
      exact ChunkReader.nextChunk_end rfl (by simp [r₂, r₁, hSize, blockSize])
        (by simp [r₂, r₁, hSize, hSizes, chunkHeader, plainHeader]))
  -- each edit decodes as written and applies
  have hDecode₁ : VersionEdit.decode? e₁.encode = .ok e₁ :=
    Except.eq_ok_of_toOption (by decide +kernel)
  have hDecode₂ : VersionEdit.decode? e₂.encode = .ok e₂ :=
    Except.eq_ok_of_toOption (by decide +kernel)
  have hApply₁ : ({} : Manifest).apply e₁ =
      .ok { comparer := comparerName.toUTF8, nextFile := firstLog } :=
    Except.eq_ok_of_toOption (by decide +kernel)
  have hApply₂ : ({ comparer := comparerName.toUTF8, nextFile := firstLog } : Manifest).apply e₂ =
      .ok { comparer := comparerName.toUTF8, logNum := firstLog, nextFile := firstOptions,
            nextSeq := firstSeqNum } :=
    Except.eq_ok_of_toOption (by decide +kernel)
  show Manifest.loadFrom _ {} { file := newManifest, logNum := 0 } (newManifest.size + 1) = _
  rw [hSize, Manifest.loadFrom_of_edit hRead₁ hDecode₁ (Or.inr (by decide +kernel)) hApply₁,
    Manifest.loadFrom_of_edit hRead₂ hDecode₂ (Or.inl rfl) hApply₂, Manifest.loadFrom_of_end hRead₃]

/-- A directory whose manifest `n` is a new database's loads as that database's state. -/
theorem loadManifest_of_newManifest {n : Nat}
    (hFile : d.contentsAt (Path.join dir (manifestName n)) = .ok newManifest) :
    loadManifest d dir n =
      .ok { comparer := comparerName.toUTF8, logNum := firstLog, nextFile := firstOptions,
            nextSeq := firstSeqNum } := by
  simp only [loadManifest, hFile, bind, Except.bind, pure, Except.pure, Manifest.load_newManifest]
  simp [firstLog]

/-- A new database's log, read from its directory, replays the changes of its one batch. -/
theorem replayLogs_newLog {d : Disk} {dir : String} (strict : Bool)
    {bs : List (ByteArray × ByteArray)} {b : Batch} {cs : List (Nat × Change)}
    (hFile : d.contentsAt (Path.join dir tableFile) = .ok (newLog bs))
    (hNonempty : bs.isEmpty = false)
    (hFits : (Batch.encodeSets firstSeqNum bs).size + 2 * numberedHeader ≤ blockSize)
    (hHeader : Batch.header? (Batch.encodeSets firstSeqNum bs) = some b)
    (hChanges : b.changes? = .ok cs) :
    ∃ rp, replayLogs d dir strict [(firstLog, tableFile)] {} = (.ok rp, rp) ∧ rp.logged = cs := by
  obtain ⟨B, hB⟩ : ∃ B, Batch.encodeSets firstSeqNum bs = B := ⟨_, rfl⟩
  rw [hB] at hFits hHeader
  have hBlock : blockSize = 32768 := rfl
  have hHeaderSize : numberedHeader = 11 := rfl
  have hLogBytes : newLog bs = chunkBytes (some firstLog) 1 B ++ endTrailer firstLog := by
    unfold newLog
    rw [if_neg (by simp [hNonempty]), hB, numberedRecord_whole _ _ (by omega)]
  have hLogSize : (newLog bs).size = numberedHeader + B.size + numberedHeader := by
    rw [hLogBytes, ByteArray.size_append, chunkBytes_size, size_endTrailer]
    rfl
  -- the batch is the first record, and the closing header names the next log
  have hRecord := ChunkReader.next_first (r := { file := newLog bs, logNum := firstLog }) hLogBytes
    rfl rfl rfl (by simp only [hLogSize]; omega) (fun _ h => by cases h; rfl) (by omega)
    (by simp [firstLog])
  set r₁ : ChunkReader := { file := newLog bs, logNum := firstLog, block := some 0, size := (newLog bs).size, start := chunkHeader (some firstLog), stop := chunkHeader (some firstLog) + B.size, last := true }
  have hEnd : r₁.next = .error .eof := ChunkReader.next_of_error
    (by
      rw [show r₁.fuel = (2 * (newLog bs).size + 3) + 1 from rfl]
      exact ChunkReader.nextChunk_trailer
        (show newLog bs = chunkBytes (some firstLog) 1 B ++ endTrailer firstLog ++ ByteArray.empty by
          rw [hLogBytes, ByteArray.append_empty])
        (by simp [r₁, ChunkReader.base, chunkBytes_size])
        (by simp [r₁, hLogSize, chunkHeader])
        (by simp [r₁, firstLog]))
  have hRecords : replayRecords (Path.join dir tableFile) firstLog false
      { file := newLog bs, logNum := firstLog } {} 0 0 ((newLog bs).size + 1) =
        .ok ({ logged := [] ++ cs, firstSeq := some b.seqNum }, 0 + b.count, 0 + 1, r₁.offset) := by
    rw [show (newLog bs).size + 1 = (newLog bs).size - 1 + 1 + 1 by omega,
      replayRecords_of_batch hRecord hHeader
        (show ({} : Replay).firstSeq.getD b.seqNum ≤ b.seqNum from le_rfl) hChanges,
      replayRecords_of_eof hEnd]
    rfl
  simp [replayLogs, replayLog, hFile, hRecords, bind, Except.bind, pure, Except.pure]

end Steps

end LogStore.Snapshot
