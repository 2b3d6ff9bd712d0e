import LogStore.Proofs.Damage
import LogStore.Proofs.Mirror

/-!
# Opening after a crash

Bytes written to the log become durable only when it syncs, so a crash leaves the durable bytes
followed by some prefix of what was written since the last sync.
-/

namespace LogStore

namespace ByteSource

/-- **A record cut short.** A proper, non-empty prefix of a record read whole, ending cleanly,
reads as a cut header or a cut payload that runs to its end. -/
theorem decodeAt_prefix_of_entry {b : ByteArray} {d : Entry} {m k : Nat}
    (h : decodeAt ⟨b, .clean⟩ 0 = .entry d m) (hk0 : 0 < k) (hk : k < m) :
    ∃ f, (f = .truncatedHeader ∨ f = .truncatedPayload) ∧
      decodeAt ⟨b.extract 0 k, .clean⟩ 0 = .failed f k := by
  obtain ⟨h13, hm⟩ := decodeAt_entry_bounds h
  dsimp only at hm
  have hSize : (b.extract 0 k).size = k := by
    simp only [ByteArray.size_extract]
    omega
  by_cases hShort : k < headerSize
  · refine ⟨.truncatedHeader, .inl rfl, ?_⟩
    simp only [decodeAt, hSize, Nat.sub_zero, shortage]
    rw [if_neg (by omega), if_pos hShort]
  · -- the header is whole and the same as in `b`, so only the payload runs short
    refine ⟨.truncatedPayload, .inr rfl, ?_⟩
    have hHeader : (b.extract 0 k).extract 0 (0 + headerSize) = b.extract 0 (0 + headerSize) := by
      rw [ByteArray.extract_extract]
      congr 1
      omega
    obtain ⟨-, hKey, hVal, -, rfl, -⟩ := decodeAt_eq_entry_iff.mp h
    dsimp only at hKey hVal hk
    simp only [decodeAt, hSize, hHeader, shortage, Nat.sub_zero]
    generalize b.extract 0 (0 + headerSize) = H at hKey hVal hk ⊢
    -- the lengths pass as they did on `b`, and the payload they announce runs past `k`
    rw [if_neg (by omega), if_neg hShort, if_neg (by omega), if_neg (by omega),
      if_pos (by simp only [Bool.and_eq_true, decide_eq_true_eq]; omega)]

end ByteSource

/-- **A record torn at the end.** After bytes that read to their end, a proper, non-empty prefix
of a valid entry's record reads as a cut header or a cut payload that runs to the end of the
file, after the records already there. -/
theorem scanRecords_torn {B : ByteArray} {e : Entry} {k : Nat} (hB : Header.size ≤ B.size)
    (hEnd : (scanRecords B Header.size).stop = B.size) (he : e.Valid) (hk0 : 0 < k)
    (hk : k < e.encodedSize) :
    ∃ f, (f = .truncatedHeader ∨ f = .truncatedPayload) ∧
      scanRecords (B ++ e.encode.extract 0 k) Header.size =
        ⟨(scanRecords B Header.size).records, B.size, some (f, k)⟩ := by
  have hNone := (scanRecords_failure_eq_none_iff _ _ hB).mpr hEnd
  have hRecord := ByteSource.decodeAt_encode he ByteArray.empty
  rw [ByteArray.append_empty] at hRecord
  obtain ⟨f, hf, hTorn⟩ := ByteSource.decodeAt_prefix_of_entry hRecord hk0 hk
  have hShift := ByteSource.decodeAt_shift B (e.encode.extract 0 k) .clean 0
  rw [Nat.add_zero, hTorn] at hShift
  refine ⟨f, hf, ?_⟩
  rw [scanRecords_append B _ _ hB hNone, scanRecords_of_failed hShift, List.append_nil]

/-- A log of records written one after another after a header reads back to its end. -/
theorem scanRecords_log {es : List Entry} (hes : ∀ e ∈ es, e.Valid) :
    scanRecords (Header.encode ++ Entry.encodeAll es) Header.size =
      ⟨es.map Entry.stored, (Header.encode ++ Entry.encodeAll es).size, none⟩ := by
  have hHeader : scanRecords Header.encode Header.size = ⟨[], Header.size, none⟩ :=
    scanRecords_of_le (le_of_eq Log.size_encode_header)
  rw [scanRecords_append_encodeAll (le_of_eq Log.size_encode_header.symm)
    (by rw [hHeader]; exact Log.size_encode_header.symm) hes, hHeader, List.nil_append]

/-! ## What a crash leaves -/

/-- What a crash can leave in the log file of a store on a fresh path, when bytes become durable
only at a sync: the durable bytes, then a prefix of those written since the last sync. The list
holds the records that the file holds whole: those of the acknowledged writes, each synced before
it was acknowledged, and that of the write in flight if all of it reached the file. -/
inductive CrashImage : ByteArray → List Entry → Prop where
  /-- The crash came while the first open wrote the new file's header, and `k` of its bytes made
  it. -/
  | header {k : Nat} (hk : k ≤ Header.size) : CrashImage (Header.encode.extract 0 k) []
  /-- The crash came while the record of `e` was appended after the acknowledged records of
  `es`, and `k` of its bytes made it. A crash between calls, or while a torn record was being
  cut off, leaves such a file too, with `k = 0` or with the torn bytes still there. -/
  | append {es : List Entry} {e : Entry} {k : Nat} (hes : ∀ e ∈ es, e.Valid) (he : e.Valid)
      (hk : k ≤ e.encodedSize) :
      CrashImage (Header.encode ++ Entry.encodeAll es ++ e.encode.extract 0 k)
        (if k = e.encodedSize then es ++ [e] else es)

/-- Some bytes of a header, but not all of them. -/
def TornHeader (F : ByteArray) : Prop :=
  0 < F.size ∧ F.size < Header.size

namespace CrashImage

variable {F : ByteArray} {done : List Entry}

theorem valid (h : CrashImage F done) : ∀ e ∈ done, e.Valid := by
  cases h with
  | header => simp
  | append hes he hk =>
    split
    · intro e' he'
      rcases List.mem_append.mp he' with he' | he'
      · exact hes e' he'
      · rw [List.mem_singleton.mp he']
        exact he
    · exact hes

/-- **Every crash image but a torn header opens onto its whole records.** Once the log opens it,
either the file holds the header and the whole records, or it holds them and then a proper,
non-empty prefix of one more valid record. -/
theorem opens (h : CrashImage F done) (hNot : ¬ TornHeader F) :
    openedBytes F = Header.encode ++ Entry.encodeAll done ∨
      ∃ (e : Entry) (k : Nat), e.Valid ∧ 0 < k ∧ k < e.encodedSize ∧
        F = Header.encode ++ Entry.encodeAll done ++ e.encode.extract 0 k := by
  cases h with
  | @header k hk =>
    have hSize : (Header.encode.extract 0 k).size = k := by
      simp only [ByteArray.size_extract, Log.size_encode_header]
      omega
    unfold TornHeader at hNot
    rw [hSize] at hNot
    left
    rw [Entry.encodeAll_nil, ByteArray.append_empty]
    by_cases hk0 : k = 0
    · -- nothing of the header made it, so the log writes it again
      rw [openedBytes, if_pos (by rw [hSize]; exact hk0)]
    · -- all of the header made it
      have hWhole : k = Header.encode.size := by
        rw [Log.size_encode_header]
        omega
      rw [openedBytes, if_neg (by rw [hSize]; exact hk0), hWhole, ByteArray.extract_zero_size]
  | @append es e k hes he hk =>
    have hPos : 0 < e.encodedSize := by
      have := Entry.headerSize_le_encodedSize e
      simp only [headerSize] at this
      omega
    -- the file holds a whole header, so the log opens it as it is
    have hOpened : openedBytes (Header.encode ++ Entry.encodeAll es ++ e.encode.extract 0 k) =
        Header.encode ++ Entry.encodeAll es ++ e.encode.extract 0 k := by
      rw [openedBytes, if_neg]
      simp [ByteArray.size_append, Log.size_encode_header, Header.size]
    by_cases hk0 : k = 0
    · left
      rw [hOpened, if_neg (by omega), hk0, ByteArray.extract_eq_empty_iff.mpr (by simp),
        ByteArray.append_empty]
    by_cases hFull : k = e.encodedSize
    · left
      rw [hOpened, if_pos hFull, hFull, ← Entry.size_encode, ByteArray.extract_zero_size,
        Entry.encodeAll_concat, ByteArray.append_assoc]
    · right
      rw [if_neg hFull]
      exact ⟨e, k, he, Nat.pos_of_ne_zero hk0, Nat.lt_of_le_of_ne hk hFull, rfl⟩

end CrashImage

namespace Store

variable {s : Store} {w : World} {ino : Nat} {F : ByteArray}

/-- **Opening after damage at the tail starts the mirror.** A store opening on a usable file
whose first unreadable record is one recovery takes and runs to the end mirrors the file cut back
to the records before it, with nothing appended yet, through a writer on that file. -/
theorem openStore_mirrors_of_tail (hClosed : s.isOpen = false) (hO : s.log.CanOpen w ino)
    (hF : w.disk.tree.contents ino = F) (hUsable : F.size = 0 ∨ Header.Accepts F) {f : Failure}
    {used : Nat} (hSome : (scanRecords (openedBytes F) Header.size).failure = some (f, used))
    (hRec : f.isRecoverable = true)
    (hTail : (openedBytes F).size ≤ (scanRecords (openedBytes F) Header.size).stop + used) :
    ∃ t : Disk.Writer, t.frame = w.disk ∧ t.ino = ino ∧
      (openStore s w).1.2.keys = KeyDir.applyAll {} (scanRecords (openedBytes F) Header.size).records ∧
      (openStore s w).1.2.log.path = s.log.path ∧
      Mirrors t (openStore s w).1.2
        ((openedBytes F).extract 0 (scanRecords (openedBytes F) Header.size).stop) []
        (openStore s w).1.2 (openStore s w).2 := by
  subst hF
  obtain ⟨h₁, x₁, l₁, w₁, hOpen, hO₁, hPath, -, hCwd, hNodes, -, hBytes⟩ :=
    Log.openFile_of_usable hO hUsable
  obtain ⟨q, hReplay⟩ := replay_of_tail { s with log := l₁ } w₁ hO₁ hBytes hSome hRec hTail
  obtain ⟨hResult, hDisk, -⟩ := openStore_of_replay_ok hClosed hOpen hReplay
  refine ⟨⟨w.disk, h₁, ino, x₁, hO₁.reads.live, hO₁.reads.node, hO₁.writable⟩, rfl, rfl, ?_, ?_,
    Mirrors.of_disk ?_ hDisk⟩
  · rw [hResult]
    rfl
  · rw [hResult]
    exact hPath
  rw [hResult]
  refine ⟨rfl, ⟨hO₁.file, hO₁.header, rfl⟩, rfl, ⟨q, ?_⟩, by simp, ?_⟩
  · refine ⟨hCwd, ?_, ?_, Disk.handle?_setHandle_self hO₁.reads.handle⟩
    · rw [Disk.tree_setHandle, Tree.nodes_setContents, hNodes]
    · rw [Disk.tree_setHandle, Tree.contents_setContents_self, Entry.encodeAll_nil,
        ByteArray.append_empty]
  · exact hO₁.quiet.truncate

/-! ## Opening what a crash left -/

/-- A store opening on the file `F` recovers the log of the header and the records of `done`: it
opens and replays those records, cutting anything after them with no sidecar, and any session
after that open mirrors the file. -/
def RecoversTo (s : Store) (w : World) (ino : Nat) (F : ByteArray) (done : List Entry) : Prop :=
  ∃ r s' w', openStore s w = ((.ok r, s'), w') ∧
    r.records = done.length ∧ r.keys = (KeyDir.applyAll {} done).size ∧
    r.truncatedBytes = F.size - (Header.encode ++ Entry.encodeAll done).size ∧
    r.discarded = none ∧ s'.isOpen = true ∧ s'.keys = KeyDir.applyAll {} done ∧
    w'.disk.tree.contents ino = Header.encode ++ Entry.encodeAll done ∧
    w'.disk.tree.nodes = w.disk.tree.nodes ∧
    ∀ calls, (∀ fs, Call.fault fs ∈ calls → fs.truncate = false) →
      SessionMirrors s w ino (Header.encode ++ Entry.encodeAll done) calls

/-- A file that opens as the header and whole records recovers them, cutting nothing. -/
theorem recoversTo_of_whole (hClosed : s.isOpen = false) (hO : s.log.CanOpen w ino)
    (hF : w.disk.tree.contents ino = F) (hUsable : F.size = 0 ∨ Header.Accepts F)
    {done : List Entry} (hValid : ∀ e ∈ done, e.Valid)
    (hWhole : openedBytes F = Header.encode ++ Entry.encodeAll done) :
    RecoversTo s w ino F done := by
  have hScan := scanRecords_log hValid
  have hEnd : (scanRecords (openedBytes F) Header.size).stop = (openedBytes F).size := by
    rw [hWhole, hScan]
  obtain ⟨s', w', hRun, hOpen, hKeys, hContents, hNodes⟩ :=
    openStore_of_clean hClosed hO hF hUsable hEnd
  obtain ⟨t, hFrame, rfl, hKeys₁, hPath₁, hM₁⟩ := openStore_mirrors hClosed hO hF hUsable hEnd
  -- an empty file opens as the bare header, and any other is opened as it is
  have hNoCut : F.size - (Header.encode ++ Entry.encodeAll done).size = 0 := by
    rw [← hWhole, openedBytes]
    split <;> omega
  rw [hWhole] at hRun hKeys hContents hKeys₁ hM₁
  rw [hScan] at hRun hKeys hKeys₁
  refine ⟨_, s', w', hRun, List.length_map _, ?_, hNoCut.symm, rfl, hOpen, ?_, hContents, hNodes,
    fun calls hCalls => ?_⟩
  · simp only [KeyDir.applyAll_map_stored]
  · rw [hKeys, KeyDir.applyAll_map_stored]
  · refine session_mirrors hClosed hO hFrame ?_ (by rw [hScan]) (by rw [hKeys₁, hScan]) hPath₁ hM₁
      calls hCalls
    exact (show Header.Accepts Header.encode by decide).append _

/-- A file that holds the header and whole records and then a torn record recovers the whole
records, cutting the torn one off with no sidecar. -/
theorem recoversTo_of_torn (hClosed : s.isOpen = false) (hO : s.log.CanOpen w ino)
    (hF : w.disk.tree.contents ino = F) {done : List Entry} (hValid : ∀ e ∈ done, e.Valid)
    {e : Entry} {k : Nat} (he : e.Valid) (hk0 : 0 < k) (hk : k < e.encodedSize)
    (hTorn : F = Header.encode ++ Entry.encodeAll done ++ e.encode.extract 0 k) :
    RecoversTo s w ino F done := by
  have hScanB := scanRecords_log hValid
  have hLog : Header.Accepts (Header.encode ++ Entry.encodeAll done) :=
    (show Header.Accepts Header.encode by decide).append _
  obtain ⟨f, hf, hScan⟩ := scanRecords_torn hLog.1 (by rw [hScanB]) he hk0 hk
  have hAccepts : Header.Accepts F := by
    rw [hTorn]
    exact hLog.append _
  have hOpened : openedBytes F = F := openedBytes_of_accepts hAccepts
  have hSome : (scanRecords (openedBytes F) Header.size).failure = some (f, k) := by
    rw [hOpened, hTorn, hScan]
  have hRec : f.isRecoverable = true :=
    Failure.isRecoverable_of_damage (hf.imp id Or.inl)
  have hTail : (openedBytes F).size ≤ (scanRecords (openedBytes F) Header.size).stop + k := by
    rw [hOpened, hTorn, hScan]
    simp only [ByteArray.size_append, ByteArray.size_extract, Entry.size_encode]
    omega
  obtain ⟨s', w', hRun, hOpen, hKeys, hContents, hNodes⟩ :=
    openStore_of_tail_damage hClosed hO hF (.inr hAccepts) hSome hRec hTail
  obtain ⟨t, hFrame, rfl, hKeys₁, hPath₁, hM₁⟩ :=
    openStore_mirrors_of_tail hClosed hO hF (.inr hAccepts) hSome hRec hTail
  -- the file is cut back to the whole records
  have hCut : (openedBytes F).extract 0 (scanRecords (openedBytes F) Header.size).stop =
      Header.encode ++ Entry.encodeAll done := by
    rw [hOpened, hTorn, hScan]
    exact ByteArray.extract_append_eq_left rfl
  rw [hCut] at hContents hM₁
  rw [hOpened, hTorn, hScan, hScanB] at hRun hKeys hKeys₁
  refine ⟨_, s', w', hRun, List.length_map _, ?_, ?_, rfl, hOpen, ?_, hContents, hNodes,
    fun calls hCalls => ?_⟩
  · simp only [KeyDir.applyAll_map_stored]
  · rw [hTorn]
  · rw [hKeys, KeyDir.applyAll_map_stored]
  · exact session_mirrors hClosed hO hFrame hLog (by rw [hScanB]) (by rw [hKeys₁, hScanB]) hPath₁
      hM₁ calls hCalls

end Store

end LogStore
