import LogStore.Bytes.Hex
import LogStore.Bytes.Word
import LogStore.Bytes.Base64
import LogStore.Digest.Sha256
import LogStore.Checksum.Crc32
import LogStore.Text.Utf8
import LogStore.Text.Printable
import LogStore.Text.Quoted
import LogStore.Text.Integer
import LogStore.Text.Case
import LogStore.Text.Space
import LogStore.Failure
import LogStore.Entry.Basic
import LogStore.Entry.Encode
import LogStore.Entry.Decode
import LogStore.Entry.Pieces
import LogStore.Cell.Basic
import LogStore.Cell.Codec
import LogStore.Cell.Text
import LogStore.SetMode
import LogStore.Logging.Level
import LogStore.KeyDir
import LogStore.Text.Json
import LogStore.Logging.Logger
import LogStore.Order.Stable
import LogStore.Disk.Path
import LogStore.Disk.Basic
import LogStore.Disk.File
import LogStore.World
import LogStore.Log.Header
import LogStore.Log.ReadAhead
import LogStore.Log.Basic
import LogStore.Store.Basic
import LogStore.Store.Verify
import LogStore.Disk.Whole
import LogStore.Net.Address
import LogStore.Http.Url
import LogStore.Http.Metrics
import LogStore.Number.Binary
import LogStore.Number.Literal
import LogStore.Order.Pdqsort
import LogStore.Http.Accept
import LogStore.Bytes.Varint
import LogStore.Protobuf.Message
import LogStore.Http.Exposition
import LogStore.Compress.Snappy
import LogStore.Compress.Bits
import LogStore.Compress.Huffman
import LogStore.Compress.Lz77
import LogStore.Compress.Deflate
import LogStore.Compress.Gzip
import LogStore.Http.Message
import LogStore.Http.Cors
import LogStore.Http.Docs
import LogStore.Http.Server
import LogStore.Yaml.Scanner
import LogStore.Yaml.Parser
import LogStore.Yaml.Resolve
import LogStore.Yaml.Reader
import LogStore.Yaml.Decode
import LogStore.Yaml.Emit
import LogStore.Config.Basic
import LogStore.Config.File
import LogStore.Checksum.Castagnoli
import LogStore.Snapshot.Chunk
import LogStore.Snapshot.Batch
import LogStore.Snapshot.Manifest
import LogStore.Snapshot.Options
import LogStore.Snapshot.Table
import LogStore.Snapshot.Basic
import LogStore.Snapshot.Transfer
import LogStore.Cli.Flag
import LogStore.Cli.Command
import LogStore.Cli.Complete
import LogStore.Cli.Program
import LogStore.Cli.Files
import LogStore.Main
import LogStore.Proofs.Bytes
import LogStore.Proofs.Record
import LogStore.Proofs.Scan
import LogStore.Proofs.Disk
import LogStore.Proofs.Reader
import LogStore.Proofs.Replay
import LogStore.Proofs.LogFile
import LogStore.Proofs.Open
import LogStore.Proofs.Damage
import LogStore.Proofs.Agreement
import LogStore.Proofs.RoundTrip
import LogStore.Proofs.Cursor
import LogStore.Proofs.Locks
import LogStore.Proofs.SingleOpener
import LogStore.Proofs.Mirror
import LogStore.Proofs.Crash
import LogStore.Proofs.KeyDir
import LogStore.Proofs.Writes
import LogStore.Proofs.Lifecycle
import LogStore.Proofs.Corruption
import LogStore.Proofs.Api
import LogStore.Proofs.Cells
import LogStore.Proofs.Decimal
import LogStore.Proofs.TypedValues
import LogStore.Proofs.Pieces
import LogStore.Proofs.Transfer
import LogStore.Proofs.RecordRead
import LogStore.Proofs.KeyPath
import LogStore.Proofs.LengthFields
