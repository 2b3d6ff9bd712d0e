import LogStore.Failure
import LogStore.Bytes.Word
import LogStore.Text.Quoted
import LogStore.Text.Space

/-!
# Options files

A database writes its settings to an options file in an INI-like text: `[Section]` lines and
`key=value` lines, indented. Opening a database checks the newest options file against the
settings it opens with: the comparer must be the same, and so must the merger unless the file
leaves it unset (`nullptr`); `strict_wal_tail` says whether a log before the last must end
cleanly. The section `CFOptions "default"` of the other common writer counts as `Options`, its
`comparator` as `comparer` and `merge_operator` as `merger`.

The file is bytes, split at line feeds; each line is trimmed of the white space it starts and
ends with, read as UTF-8. Empty lines and lines starting with `;` or `#` are skipped. A line
that is neither a section nor holds `=` is refused, quoted, cut to 47 bytes and `...` when it
is longer than 50. Refused lines and values are quoted byte for byte, so a file that is not
UTF-8 shows its malformed bytes escaped.

* `optionsText` is the file written at creation.
* `checkOptions text` is the strict-tail setting, or why the file is refused.
-/

namespace LogStore.Snapshot

/-- The name of the key order. -/
def comparerName : String := "leveldb.BytewiseComparator"

/-- The name of the merge operation. -/
def mergerName : String := "pebble.concatenate"

/-- The settings of one level of the table tree. -/
def levelOptions (level targetFileSize : Nat) : List String :=
  ["", "[Level \"" ++ toString level ++ "\"]", "  block_restart_interval=16", "  block_size=4096",
   "  block_size_threshold=90", "  compression=Snappy", "  filter_policy=none",
   "  filter_type=table", "  index_block_size=4096",
   "  target_file_size=" ++ toString targetFileSize]

/-- The options file a new database writes. -/
def optionsText : String :=
  let lines := ["[Version]", "  pebble_version=0.1", "", "[Options]",
    "  bytes_per_sync=524288", "  cache_size=8388608", "  cleaner=delete",
    "  compaction_debt_concurrency=1073741824", "  comparer=" ++ comparerName,
    "  disable_wal=false", "  flush_delay_delete_range=0s", "  flush_delay_range_key=0s",
    "  flush_split_bytes=4194304", "  format_major_version=1", "  l0_compaction_concurrency=10",
    "  l0_compaction_file_threshold=500", "  l0_compaction_threshold=4",
    "  l0_stop_writes_threshold=12", "  lbase_max_bytes=67108864",
    "  max_concurrent_compactions=1", "  max_manifest_file_size=134217728",
    "  max_open_files=1000", "  mem_table_size=4194304", "  mem_table_stop_writes_threshold=2",
    "  min_deletion_rate=0", "  merger=" ++ mergerName, "  read_compaction_rate=16000",
    "  read_sampling_multiplier=16", "  strict_wal_tail=true", "  table_cache_shards=16",
    "  table_property_collectors=[]", "  validate_on_ingest=false", "  wal_dir=",
    "  wal_bytes_per_sync=0", "  max_writer_concurrency=0", "  force_writer_parallelism=false",
    "  secondary_cache_size_bytes=0", "  create_on_shared=0"] ++
    (List.range 7).flatMap fun l => levelOptions l (2097152 * Nat.pow 2 l)
  String.join (lines.map (· ++ "\n"))

/-- Reads a boolean the way option values are read. -/
def parseBool? (s : String) : Option Bool :=
  if ["1", "t", "T", "TRUE", "true", "True"].contains s then some true
  else if ["0", "f", "F", "FALSE", "false", "False"].contains s then some false
  else none

/-- A refused line, cut to 47 bytes and `...` when it is longer than 50. -/
def shownLine (line : ByteArray) : String :=
  Text.quoteBytes (if line.size > 50 then line.extract 0 47 ++ "...".toUTF8 else line)

/-- The lines of a file: its bytes split at each line feed. -/
def fileLines (b : ByteArray) : List ByteArray :=
  (b.data.toList.splitOn 10).map fun l => ⟨l.toArray⟩

/-- Checks the settings of an options file line by line, from the section `part` and with
the strict-tail setting so far. -/
def checkLines (part : String) (strict : Bool) : List ByteArray → Except Failure Bool
  | [] => .ok strict
  | raw :: rest =>
    let line := Text.trimBytes raw
    let first := Bytes.byteAt line 0
    if line.isEmpty || first = 0x3B || first = 0x23 then checkLines part strict rest
    else if first = 0x5B && Bytes.byteAt line (line.size - 1) = 0x5D then
      checkLines (Text.Utf8.lossy (line.extract 1 (line.size - 1))) strict rest
    else
      match line.data.toList.findIdx? (· = 0x3D) with
      | none => .error (.plain ("invalid key=value syntax: " ++ shownLine line))
      | some i =>
        let key := Text.Utf8.lossy (Text.trimBytes (line.extract 0 i))
        let raw := Text.trimBytes (line.extract (i + 1) line.size)
        let value := Text.Utf8.lossy raw
        let (sec, key) := if part = "CFOptions \"default\"" then
            ("Options", if key = "comparator" then "comparer"
              else if key = "merge_operator" then "merger" else key)
          else (part, key)
        let path := sec ++ "." ++ key
        if path = "Options.comparer" && value ≠ comparerName then
          .error (.plain ("pebble: comparer name from file " ++ Text.quoteBytes raw ++
            " != comparer name from options " ++ Text.quote comparerName))
        else if path = "Options.merger" && value ≠ "nullptr" && value ≠ mergerName then
          .error (.plain ("pebble: merger name from file " ++ Text.quoteBytes raw ++
            " != merger name from options " ++ Text.quote mergerName))
        else if path = "Options.strict_wal_tail" then
          match parseBool? value with
          | some b => checkLines part b rest
          | none => .error (.within ("pebble: error parsing strict_wal_tail value " ++
              Text.quoteBytes raw) (.number "ParseBool" raw .malformed))
        else checkLines part strict rest

/-- The strict-tail setting of an options file, or why it is refused. -/
def checkOptions (file : ByteArray) : Except Failure Bool :=
  checkLines "" false (fileLines file)

end LogStore.Snapshot
