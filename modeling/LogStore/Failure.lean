import LogStore.Text.Quoted
import LogStore.Text.Integer

/-!
# Failures

Every operation of the library reports a failure as a value of `Failure`: a cause, possibly
inside layers of context. `Failure.message` is its one-line text, the causes joined by `": "`
from the outside in. `Failure.kinds` lists the causes a caller can test for, and
`Failure.kind` picks the first of them in the fixed order of `Kind.all`, so that a failure that
is both, say, a mid-stream corruption and a checksum mismatch is reported as the former.

* `Errno` is the small set of operating-system error numbers the disk model produces.
* `Failure.record?` finds the innermost located record failure, with its offset and end.
-/

namespace LogStore

/-- Operating-system error numbers produced by the disk model. -/
inductive Errno where
  | noEntry
  | notDirectory
  | isDirectory
  | badDescriptor
  | invalidArgument
  | exists
  | notEmpty
  | noDevice
  deriving DecidableEq, Repr

/-- The system's wording of an error number. -/
def Errno.text : Errno → String
  | .noEntry => "no such file or directory"
  | .notDirectory => "not a directory"
  | .isDirectory => "is a directory"
  | .badDescriptor => "bad file descriptor"
  | .invalidArgument => "invalid argument"
  | .exists => "file exists"
  | .notEmpty => "directory not empty"
  | .noDevice => "no such device or address"

/-- The causes a caller can test a failure for. -/
inductive Kind where
  | corruptMidStream
  | truncatedHeader
  | truncatedPayload
  | keyTooLarge
  | valueTooLarge
  | badChecksum
  | typeMismatch
  | expectMoreData
  | illegalByte
  | badMagic
  | unsupportedVersion
  | isDirectory
  | logClosed
  | storeClosed
  | invalidMode
  | locked
  | closed
  | injected
  | shortWrite
  | malformed
  | outOfRange
  | notExist
  | endOfData
  | other
  deriving DecidableEq, Repr

/-- The order in which causes are reported: the first one a failure has wins. -/
def Kind.all : List Kind :=
  [.corruptMidStream, .truncatedHeader, .truncatedPayload, .keyTooLarge, .valueTooLarge,
   .badChecksum, .typeMismatch, .expectMoreData, .illegalByte, .badMagic, .unsupportedVersion,
   .isDirectory, .logClosed, .storeClosed, .invalidMode, .locked, .closed, .injected,
   .shortWrite, .malformed, .outOfRange, .notExist, .endOfData]

/-- A failure: a cause, or a cause inside context. -/
inductive Failure where
  /-- A record header cut short. -/
  | truncatedHeader
  /-- A record payload cut short. -/
  | truncatedPayload
  /-- A key over the size limit; the detail says by how much. -/
  | keyTooLarge (detail : String)
  /-- A value over the size limit; the detail says by how much. -/
  | valueTooLarge (detail : String)
  /-- A record whose stored checksum differs from the computed one. -/
  | badChecksum (stored computed : UInt32)
  /-- A cell of another type than expected. -/
  | typeMismatch (detail : String)
  /-- A cell buffer that ends too early. -/
  | expectMoreData
  /-- A byte that starts no valid empty cell. -/
  | illegalByte (byte : UInt8)
  /-- A log header that is not this format's; the detail says how. -/
  | badMagic (detail : String)
  /-- A log header of a newer format version. -/
  | unsupportedVersion (version : Nat)
  /-- A log path naming a directory. -/
  | isDirectory (path : String)
  /-- A log used while closed. -/
  | logClosed
  /-- A store used while closed. -/
  | storeClosed
  /-- A set mode that is none of upsert, insert, update. -/
  | invalidMode (detail : String)
  /-- A record the log could not read, at `offset`, ending at `stop`. -/
  | record (offset stop : Nat) (inner : Failure)
  /-- Damage before the last record of a log. -/
  | corruptMidStream (inner : Failure)
  /-- A file held by another opener. -/
  | locked (path : String)
  /-- A file handle used after it was closed. -/
  | fileClosed
  /-- A failure injected into the file layer. -/
  | injected
  /-- A write that stored fewer bytes than asked. -/
  | shortWrite
  /-- A refused number; `function` is the reader, `input` the bytes it was given. -/
  | number (function : String) (input : ByteArray) (error : Text.IntError)
  /-- An operating-system failure of `op` on `path`. -/
  | system (op path : String) (errno : Errno)
  /-- The end of the data. -/
  | endOfData
  /-- A failure inside context: `context: inner`. -/
  | within (context : String) (inner : Failure)
  /-- A failure with a text of its own and no cause to test for. -/
  | plain (text : String)
  deriving Inhabited

namespace Failure

/-- The one-line text of a failure. -/
def message : Failure → String
  | .truncatedHeader => "codec: entry header is incomplete"
  | .truncatedPayload => "codec: entry payload is missing expected bytes"
  | .keyTooLarge d => "codec: key size exceeds limit: " ++ d
  | .valueTooLarge d => "codec: value size exceeds limit: " ++ d
  | .badChecksum s c =>
    "codec: entry checksum mismatch: stored " ++ Text.hexPadded s.toNat 8 ++ ", computed " ++
      Text.hexPadded c.toNat 8
  | .typeMismatch d => "codec: cell type does not match expected type: " ++ d
  | .expectMoreData => "codec: buffer too short, expected more data"
  | .illegalByte b => "codec: illegal byte sequence: 0x" ++ Text.hexPadded b.toNat 2
  | .badMagic d => "log file has an unrecognized header: " ++ d
  | .unsupportedVersion v =>
    "log file version is newer than supported: version " ++ toString v ++ " > 2"
  | .isDirectory p => "log path is a directory: " ++ p
  | .logClosed => "log is not open"
  | .storeClosed => "store is not open"
  | .invalidMode d => "invalid set mode: " ++ d
  | .record o _ inner => "record at offset " ++ toString o ++ ": " ++ inner.message
  | .corruptMidStream inner => "log is corrupt before its last record: " ++ inner.message
  | .locked p => "fileio: file is locked by another opener: " ++ p
  | .fileClosed => "fileio: file is closed"
  | .injected => "injected failure"
  | .shortWrite => "short write"
  | .number f i e => "strconv." ++ f ++ ": parsing " ++ Text.quoteBytes i ++ ": " ++ e.text
  | .system op p e => op ++ " " ++ p ++ ": " ++ e.text
  | .endOfData => "EOF"
  | .within c inner => c ++ ": " ++ inner.message
  | .plain t => t

/-- Every cause a failure carries, from the outside in. -/
def kinds : Failure → List Kind
  | .truncatedHeader => [.truncatedHeader]
  | .truncatedPayload => [.truncatedPayload]
  | .keyTooLarge _ => [.keyTooLarge]
  | .valueTooLarge _ => [.valueTooLarge]
  | .badChecksum _ _ => [.badChecksum]
  | .typeMismatch _ => [.typeMismatch]
  | .expectMoreData => [.expectMoreData]
  | .illegalByte _ => [.illegalByte]
  | .badMagic _ => [.badMagic]
  | .unsupportedVersion _ => [.unsupportedVersion]
  | .isDirectory _ => [.isDirectory]
  | .logClosed => [.logClosed]
  | .storeClosed => [.storeClosed]
  | .invalidMode _ => [.invalidMode]
  | .record _ _ inner => inner.kinds
  | .corruptMidStream inner => .corruptMidStream :: inner.kinds
  | .locked _ => [.locked]
  | .fileClosed => [.closed]
  | .injected => [.injected]
  | .shortWrite => [.shortWrite]
  | .number _ _ .malformed => [.malformed]
  | .number _ _ .outOfRange => [.outOfRange]
  | .system _ _ .noEntry => [.notExist]
  | .system _ _ _ => []
  | .endOfData => [.endOfData]
  | .within _ inner => inner.kinds
  | .plain _ => []

/-- The reported cause: the first of `Kind.all` that the failure carries. -/
def kind (f : Failure) : Kind :=
  let ks := f.kinds
  (Kind.all.find? (fun k => ks.contains k)).getD .other

/-- The outermost located record failure inside `f`: its offset and end. -/
def record? : Failure → Option (Nat × Nat)
  | .record o s _ => some (o, s)
  | .corruptMidStream inner => inner.record?
  | .within _ inner => inner.record?
  | _ => none

/-- Whether a record failure leaves the records before it intact: a cut header or payload, or a
checksum mismatch. -/
def isRecoverable (f : Failure) : Bool :=
  let ks := f.kinds
  ks.contains .truncatedHeader || ks.contains .truncatedPayload || ks.contains .badChecksum

end Failure

end LogStore
