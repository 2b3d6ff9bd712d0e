import LogStore.Compress.Deflate
import LogStore.Checksum.Crc32
import LogStore.Bytes.Word

/-!
# Gzip members

A gzip member wraps a compressed stream between a ten-byte header and an eight-byte trailer.
The header names the compression method (8, the only one) and carries no file name, time or
flags; its last byte says the system that wrote it is unknown. The trailer is the CRC-32 of the
text and its size modulo `2 ^ 32`, both low byte first, so a reader can check what it inflated.

* `gzip text` is the member holding `text`.
-/

namespace LogStore.Compress

/-- The fixed header: magic bytes, method 8, no flags, no time, no extra flags, unknown system. -/
def gzipHeader : ByteArray :=
  ⟨#[0x1f, 0x8b, 8, 0, 0, 0, 0, 0, 0, 0xff]⟩

/-- The gzip member of a text: header, compressed stream, checksum and size. -/
def gzip (text : ByteArray) : ByteArray :=
  gzipHeader ++ deflate text ++ Bytes.leBytes (Checksum.checksum text).toNat 4 ++
    Bytes.leBytes (text.size % Nat.pow 2 32) 4

end LogStore.Compress
