import LogStore.Entry.Decode

/-!
# Reading records from a reader that hands its bytes over in pieces

A reader hands over the bytes of a stream in pieces whose sizes it chooses: one byte a read,
half of what is asked, all of it. Once the bytes are used up, every read reports how the stream
ends, with the end of the data or with a failure of the reader; some readers report it already
together with the last bytes.

Records are read as the codec reads them from such a reader: the 13 header bytes by one full
read, the two length checks, then the payload by another full read. A full read asks for the
bytes still missing until it has them all or a read reports an end, and turns an end of the data
after some but not all of them into an unexpected end. At the header an end of the data is the
end of the records and an unexpected end a cut header; at the payload both are a cut payload; a
failure of the reader is answered as it is.

* `PieceReader.read` is one read, `readFull` a full read, `decode` one record, and `decodeAll`
  the records until the end, a failure, or a limit.
-/

namespace LogStore

/-- What a read reports besides its bytes. -/
inductive ReadEnd where
  /-- The end of the data. -/
  | eof
  /-- The end of the data after some but not all of the bytes a full read asked for. -/
  | unexpectedEof
  /-- A failure of the reader. -/
  | failure (f : Failure)

/-- How a read reports the end of a source. -/
def SourceEnd.report : SourceEnd → ReadEnd
  | .clean => .eof
  | .broken f => .failure f

/-- A reader of `data` that has handed over `pos` of its bytes, and ends as `ending` says. -/
structure PieceReader where
  data : ByteArray
  ending : SourceEnd
  /-- How many bytes a read hands over, from the bytes handed over so far and the bytes asked
  for; a read hands over at least one byte, and never more than asked or left. -/
  piece : Nat → Nat → Nat
  /-- Whether the ending comes with the last bytes, rather than on the read after them. -/
  early : Bool
  pos : Nat

namespace PieceReader

/-- A reader over bytes in memory: all that is asked, and the end of the data on the read after
the last bytes. -/
def ofBytes (data : ByteArray) : PieceReader := ⟨data, .clean, fun _ want => want, false, 0⟩

/-- One read asking for `want` bytes: the bytes handed over, the end reported with them, and the
reader after it. -/
def read (r : PieceReader) (want : Nat) : ByteArray × Option ReadEnd × PieceReader :=
  let left := r.data.size - r.pos
  if left = 0 then (.empty, some r.ending.report, r)
  else
    let pos := r.pos + min (max 1 (r.piece r.pos want)) (min want left)
    (r.data.extract r.pos pos,
      if r.early && pos == r.data.size then some r.ending.report else none, { r with pos })

/-- Reads until there are `want` bytes, `got` being those read so far, or until a read reports
an end; `fuel` bounds the reads, and each one that reports no end hands over a byte at least. -/
def readFullFrom (want : Nat) : PieceReader → ByteArray → Nat → ByteArray × Option ReadEnd × PieceReader
  | r, got, 0 => (got, none, r)
  | r, got, fuel + 1 =>
    if want ≤ got.size then (got, none, r)
    else match r.read (want - got.size) with
      | (b, some e, r) => (got ++ b, some e, r)
      | (b, none, r) => readFullFrom want r (got ++ b) fuel

/-- A full read of `want` bytes: all of them and no end, or those read before a read reported an
end, with that end; an end of the data after some of them is an unexpected end. -/
def readFull (r : PieceReader) (want : Nat) : ByteArray × Option ReadEnd × PieceReader :=
  match readFullFrom want r .empty (want + 1) with
  | (got, e, r) =>
    if want ≤ got.size then (got, none, r)
    else match e with
      | some .eof => (got, some (if got.size = 0 then .eof else .unexpectedEof), r)
      | e => (got, e, r)

/-- Reads one record: what `ByteSource.decodeAt` answers, `used` counting the bytes the reader
handed over, and the reader after it. -/
def decode (r : PieceReader) : Decoded × PieceReader :=
  match r.readFull headerSize with
  | (_, some .eof, r) => (.finished, r)
  | (header, some .unexpectedEof, r) => (.failed .truncatedHeader header.size, r)
  | (header, some (.failure f), r) => (.failed f header.size, r)
  | (header, none, r) =>
    let stored := Bytes.readLE header 0 4
    let keyLen := Bytes.readLE header 4 4
    let valLen := Bytes.readLE header 8 4
    let deleted := Bytes.byteAt header 12 != 0
    if keyLen > maxKeySize then
      (.failed (.keyTooLarge ("key_len " ++ toString keyLen ++ " > " ++ toString maxKeySize))
        headerSize, r)
    else if valLen > maxValueSize then
      (.failed (.valueTooLarge ("val_len " ++ toString valLen ++ " > " ++ toString maxValueSize))
        headerSize, r)
    else
      let payloadLen := keyLen + (if deleted then 0 else valLen)
      match if payloadLen > 0 then r.readFull payloadLen else (.empty, none, r) with
      | (payload, some (.failure f), r) => (.failed f (headerSize + payload.size), r)
      | (payload, some _, r) => (.failed .truncatedPayload (headerSize + payload.size), r)
      | (payload, none, r) =>
        let crc := Checksum.update (Checksum.update 0 (header.extract 4 headerSize)) payload
        if crc.toNat != stored then
          (.failed (.badChecksum stored.toUInt32 crc) (headerSize + payloadLen), r)
        else
          let key := payload.extract 0 keyLen
          let value := if deleted then ByteArray.empty else payload.extract keyLen payloadLen
          (.entry ⟨key, value, deleted⟩ (headerSize + payloadLen), r)

/-- Reads records until the end, a failure, or `limit` records; gives the records in order and
how the run stopped. -/
def decodeAll (r : PieceReader) (limit : Option Nat) : List Entry × ByteSource.Stop :=
  go r limit [] (r.data.size + 1)
where
  /-- The run with `acc` read so far (newest first) and `fuel` bounding the reads: every record
  takes at least 13 bytes, so the bytes plus one bound them. -/
  go (r : PieceReader) (limit : Option Nat) (acc : List Entry) :
      Nat → List Entry × ByteSource.Stop
    | 0 => (acc.reverse, .finished)
    | fuel + 1 =>
      if limit == some 0 then (acc.reverse, .limit)
      else match r.decode with
        | (.finished, _) => (acc.reverse, .finished)
        | (.failed f _, _) => (acc.reverse, .failed f)
        | (.entry e _, r) => go r (limit.map (· - 1)) (e :: acc) fuel

end PieceReader

end LogStore
