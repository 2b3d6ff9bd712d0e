import LogStore.Checksum.Castagnoli
import LogStore.Bytes.Word

/-!
# Chunked record files

The logs and manifests of a snapshot database are sequences of records cut into chunks that
never cross a 32 KiB block. A chunk is a header and a piece of a record: the masked CRC-32C
(four bytes), the piece's length (two bytes), its kind and, in a numbered log, the log's
number (four bytes); all little endian. The kind says whether the piece is the whole record,
its first, a middle or its last piece; a numbered log uses kinds 5 to 8, a plain one 1 to 4.
The checksum covers the kind, the number and the piece. Where a block has no room left for a
header it is filled with zeros.

A writer of a numbered log pads a block as soon as the room left is under a header; a plain
writer pads only when the next record begins. Closing a numbered log ends it with a header of
no piece that names the next log number, which a reader takes for the end.

Reading goes block by block and stops:

* at the end of the file, or at a numbered chunk of another log where a record should begin:
  `ChunkError.eof`;
* at a header of zeros: `zeroed` (skipped instead when under a numbered header is left in the
  block);
* at a chunk that overruns its block, fails its checksum, or belongs to another log in the
  middle of a record: `invalid`;
* at a file that ends inside a block in the middle of a record, or with bytes of no chunk:
  `unexpectedEof`.

A chunk that should begin a record but continues one is skipped.

* `numberedRecord`, `plainRecords`, `endTrailer` write; `ChunkReader.next` reads one record;
  `ChunkReader.offset` is the position after the last chunk read.
-/

namespace LogStore.Snapshot

/-- The size of a block. -/
def blockSize : Nat := 32768

/-- The header size of a plain chunk. -/
def plainHeader : Nat := 7

/-- The header size of a numbered chunk. -/
def numberedHeader : Nat := 11

/-- The kind of a piece: the whole record, its first, a middle or its last piece, counted from
one; a numbered log adds four. -/
def pieceKind (first last : Bool) : Nat :=
  if last then (if first then 1 else 4) else (if first then 2 else 3)

/-- A chunk: header and piece. `logNum` is the number of a numbered log, none for a plain one. -/
def chunkBytes (logNum : Option Nat) (kind : Nat) (piece : ByteArray) : ByteArray :=
  let kind := match logNum with
    | some _ => kind + 4
    | none => kind
  let covered := ByteArray.mk #[kind.toUInt8] ++
    (match logNum with
     | some n => Bytes.leBytes n 4
     | none => ByteArray.empty) ++ piece
  Bytes.leBytes (Checksum.maskedCastagnoli covered).toNat 4 ++ Bytes.leBytes piece.size 2 ++ covered

/-- The bytes with the block in progress filled with zeros, when it has under `h` bytes left. -/
def padBlock (out : ByteArray) (h : Nat) : ByteArray :=
  let room := blockSize - out.size % blockSize
  if room < h then out ++ ByteArray.mk (Array.replicate room 0) else out

/-- Appends the chunks of the rest of a record; `first` says no piece was written yet. Each
chunk takes what its block still holds. -/
def writePieces (logNum : Option Nat) (h : Nat) (out rest : ByteArray) (first : Bool) :
    Nat → ByteArray
  | 0 => out
  | fuel + 1 =>
    let out := padBlock out h
    let room := blockSize - out.size % blockSize - h
    let take := min room rest.size
    let last := take = rest.size
    let out := out ++ chunkBytes logNum (pieceKind first last) (rest.extract 0 take)
    if last then out else writePieces logNum h out (rest.extract take rest.size) false fuel

/-- Appends a record to a numbered log, padding the block when it is left too small. -/
def numberedRecord (logNum : Nat) (out record : ByteArray) : ByteArray :=
  padBlock (writePieces (some logNum) numberedHeader out record true (record.size + 2)) numberedHeader

/-- The closing header of a numbered log: no piece, whole-record kind, the next number. -/
def endTrailer (logNum : Nat) : ByteArray :=
  Bytes.leBytes 0 6 ++ ByteArray.mk #[5] ++ Bytes.leBytes (logNum + 1) 4

/-- Records in a plain file. -/
def plainRecords (records : List ByteArray) : ByteArray :=
  records.foldl (fun out r => writePieces none plainHeader out r true (r.size + 2)) ByteArray.empty

/-- Why reading stopped. -/
inductive ChunkError where
  | eof
  | zeroed
  | invalid
  | unexpectedEof
  deriving DecidableEq, Inhabited

/-- The text of a reading error. -/
def ChunkError.message : ChunkError → String
  | .eof => "EOF"
  | .zeroed => "pebble/record: zeroed chunk"
  | .invalid => "pebble/record: invalid chunk"
  | .unexpectedEof => "unexpected EOF"

/-- Whether a reading error marks a damaged or cut tail rather than a clean end. -/
def ChunkError.isDamage (e : ChunkError) : Bool :=
  e ≠ .eof

/-- A reader of chunks: the file, the log number expected, the block read last (none before
the first), its length, and the piece of the chunk read last (`start` to `stop` within the
block), with whether that chunk ends its record. -/
structure ChunkReader where
  file : ByteArray
  logNum : Nat
  block : Option Nat := none
  size : Nat := 0
  start : Nat := 0
  stop : Nat := 0
  last : Bool := false

/-- The position in the file after the last chunk read. -/
def ChunkReader.offset (r : ChunkReader) : Nat :=
  match r.block with
  | some k => k * blockSize + r.stop
  | none => 0

/-- Where the block read last begins in the file. -/
def ChunkReader.base (r : ChunkReader) : Nat :=
  (r.block.getD 0) * blockSize

/-- Reads the next chunk; `wantFirst` asks for one that begins a record. -/
def ChunkReader.nextChunk (wantFirst : Bool) : ChunkReader → Nat → Except ChunkError ChunkReader
  | _, 0 => .error .invalid
  | r, fuel + 1 =>
    if r.stop + plainHeader ≤ r.size then
      let pos := r.base + r.stop
      let checksum := Bytes.readLE r.file pos 4
      let length := Bytes.readLE r.file (pos + 4) 2
      let kind := Bytes.byteAt r.file (pos + 6)
      if checksum = 0 && length = 0 && kind = 0 then
        if r.stop + numberedHeader > r.size then
          ChunkReader.nextChunk wantFirst { r with stop := r.size } fuel
        else .error .zeroed
      else
        let numbered := 5 ≤ kind && kind ≤ 8
        let h := if numbered then numberedHeader else plainHeader
        if numbered && r.stop + h > r.size then .error .invalid
        else if numbered && Bytes.readLE r.file (pos + 7) 4 ≠ r.logNum then
          .error (if wantFirst then .eof else .invalid)
        else
          let kind := if numbered then kind - 4 else kind
          let start := r.stop + h
          let stop := start + length
          if stop > r.size then .error .invalid
          else if checksum ≠ (Checksum.maskedCastagnoli
              (r.file.extract (r.base + start - h + 6) (r.base + stop))).toNat then .error .invalid
          else if wantFirst && kind ≠ 1 && kind ≠ 2 then
            ChunkReader.nextChunk wantFirst { r with start, stop } fuel
          else .ok { r with start, stop, last := kind = 1 || kind = 4 }
    else if r.size < blockSize && r.block.isSome then
      .error (if !wantFirst || r.stop ≠ r.size then .unexpectedEof else .eof)
    else
      let k := match r.block with
        | some k => k + 1
        | none => 0
      let n := min blockSize (r.file.size - k * blockSize)
      if n = 0 then .error (if wantFirst then .eof else .unexpectedEof)
      else ChunkReader.nextChunk wantFirst { r with block := some k, size := n, start := 0, stop := 0 } fuel

/-- A bound on the chunks a file can hold, and so on the steps of a reader. -/
def ChunkReader.fuel (r : ChunkReader) : Nat :=
  2 * r.file.size + 4

/-- Reads the pieces of a record after its first, until its last. -/
def ChunkReader.rest (acc : ByteArray) : ChunkReader → Nat → Except ChunkError (ByteArray × ChunkReader)
  | r, 0 => .ok (acc, r)
  | r, fuel + 1 =>
    if r.last then .ok (acc, r)
    else
      match r.nextChunk false r.fuel with
      | .error e => .error e
      | .ok r => ChunkReader.rest (acc ++ r.file.extract (r.base + r.start) (r.base + r.stop)) r fuel

/-- Reads the next whole record. -/
def ChunkReader.next (r : ChunkReader) : Except ChunkError (ByteArray × ChunkReader) :=
  match { r with start := r.stop }.nextChunk true r.fuel with
  | .error e => .error e
  | .ok r => ChunkReader.rest (r.file.extract (r.base + r.start) (r.base + r.stop)) r r.fuel

end LogStore.Snapshot
