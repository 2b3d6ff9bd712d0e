import LogStore.Entry.Encode

/-!
# Reading records

Records are read from a byte source: its bytes, and how it ends once they are used up, either
cleanly or with a failure of the reader. Reading one record needs its 13 header bytes, then its
payload (the key, and the value of a live entry), and takes them in that order:

* no byte at all before a clean end is the end of the data;
* fewer than 13 header bytes before a clean end is a cut header;
* a key length over 1 KiB, then a value length over 1 MiB, is refused at once, before any
  payload byte is read (for tombstones too);
* fewer payload bytes than the lengths promise, before a clean end, is a cut payload;
* a checksum that differs from the CRC-32 of the header's last 9 bytes and the payload is a
  mismatch;
* a reader failure met before the bytes needed are there is returned as it is.

`Decoded.used` counts the bytes the reader handed over, also for a failure: a located record
failure ends there. How the reader splits the bytes into pieces never matters, only the bytes
and the ending.

* `decodeAt src pos` reads the record at `pos`; `decodeAll src pos limit` reads on until the end,
  a failure, or `limit` records.
-/

namespace LogStore

/-- How a byte source ends once its bytes are used up. -/
inductive SourceEnd where
  /-- The data ends there. -/
  | clean
  /-- The reader fails there. -/
  | broken (f : Failure)

/-- Bytes to read records from, and how they end. -/
structure ByteSource where
  bytes : ByteArray
  ending : SourceEnd

/-- What one read produced. -/
inductive Decoded where
  /-- A record, and the bytes it took. -/
  | entry (e : Entry) (used : Nat)
  /-- A clean end before the first header byte. -/
  | finished
  /-- A failure after the reader handed over `used` bytes. -/
  | failed (f : Failure) (used : Nat)

namespace ByteSource

/-- The failure for running out of bytes: `short` before a clean end, the reader's own
failure otherwise. -/
def shortage (src : ByteSource) (short : Failure) : Failure :=
  match src.ending with
  | .clean => short
  | .broken f => f

/-- Reads the record at byte offset `pos`. -/
def decodeAt (src : ByteSource) (pos : Nat) : Decoded :=
  let avail := src.bytes.size - pos
  if avail = 0 then
    match src.ending with
    | .clean => .finished
    | .broken f => .failed f 0
  else if avail < headerSize then
    .failed (src.shortage .truncatedHeader) avail
  else
    let header := src.bytes.extract pos (pos + headerSize)
    let stored := Bytes.readLE header 0 4
    let keyLen := Bytes.readLE header 4 4
    let valLen := Bytes.readLE header 8 4
    let deleted := Bytes.byteAt header 12 != 0
    if keyLen > maxKeySize then
      .failed (.keyTooLarge ("key_len " ++ toString keyLen ++ " > " ++ toString maxKeySize))
        headerSize
    else if valLen > maxValueSize then
      .failed (.valueTooLarge ("val_len " ++ toString valLen ++ " > " ++ toString maxValueSize))
        headerSize
    else
      let payloadLen := keyLen + (if deleted then 0 else valLen)
      if payloadLen > 0 && avail - headerSize < payloadLen then
        .failed (src.shortage .truncatedPayload) avail
      else
        let start := pos + headerSize
        let payload := src.bytes.extract start (start + payloadLen)
        let crc := Checksum.update (Checksum.update 0 (header.extract 4 headerSize)) payload
        if crc.toNat != stored then
          .failed (.badChecksum stored.toUInt32 crc) (headerSize + payloadLen)
        else
          let key := payload.extract 0 keyLen
          let value := if deleted then ByteArray.empty else payload.extract keyLen payloadLen
          .entry ⟨key, value, deleted⟩ (headerSize + payloadLen)

/-- How a run of reads ended. -/
inductive Stop where
  /-- A clean end. -/
  | finished
  /-- The record limit was reached. -/
  | limit
  /-- A failure. -/
  | failed (f : Failure)

/-- Reads records from `pos` on until a clean end, a failure, or `limit` records; gives the
records in order and how the run stopped. -/
def decodeAll (src : ByteSource) (pos : Nat) (limit : Option Nat) : List Entry × Stop :=
  go pos limit [] (src.bytes.size + 1)
where
  /-- The run with `acc` read so far (newest first) and `fuel` bounding the reads: every record
  takes at least 13 bytes, so the bytes plus one bound them. -/
  go (pos : Nat) (limit : Option Nat) (acc : List Entry) : Nat → List Entry × Stop
    | 0 => (acc.reverse, .finished)
    | fuel + 1 =>
      if limit == some 0 then (acc.reverse, .limit)
      else match src.decodeAt pos with
        | .finished => (acc.reverse, .finished)
        | .failed f _ => (acc.reverse, .failed f)
        | .entry e used => go (pos + used) (limit.map (· - 1)) (e :: acc) fuel

end ByteSource

end LogStore
