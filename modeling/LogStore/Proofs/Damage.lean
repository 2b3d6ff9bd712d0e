import LogStore.Proofs.Open

/-!
# Damage that a store cuts without a trace

Damage in a log is meant to be kept or reported. Verification fails on corruption in the middle
of a log and only warns of a torn last record; opening copies the bytes it cuts into a sidecar
unless they are a torn last record. Both tell the two apart by where the damaged record ends by
its own length fields. A damaged length field can make a record in the middle of the log claim
to run past the end of the file: opening then cuts the good records after it with no sidecar,
and verification only warns.

* `VerifyReport.ofScan`, `verify_spec_of_accepted`: verifying a log file whose header is accepted
  reports what the scan of its records finds, and changes no file; `verify_spec_of_refused`:
  verifying one whose header is refused fails with the header's failure.
* `DamageCaught`: the scan meets a record over the size limits, or one that ends before the file
  does.
* `CutsSilently`: the scan meets damage that recovery takes in a record that runs to the end of
  the file or past it.
* `Store.KeepsCutBytes`: a failed open leaves the file as it was, and an open that cuts the file
  first copies what it cuts into a sidecar.
* `Store.damage_kept_and_reported_iff`: opening keeps what it cuts exactly when the damage is
  not cut silently, and verification fails exactly when the damage is caught.
* `flipByte`, `Store.flipped_key_length_cut_silently`: a flipped length byte in the first of two
  records makes opening cut the second record with no sidecar, and verification only warn.
-/

namespace LogStore

/-! ## Verification follows the scan -/

/-- What verification reports of a log whose bytes are `B`, by the scan of its records from the
end of the header: the records, tombstones and live keys read, and where the good records end. The
first record that fails to read fails verification when it is over the size limits, or when it
ends before the file does; otherwise it is reported as damage of the tail. -/
def VerifyReport.ofScan (B : ByteArray) : Option VerifyReport × Option Failure :=
  let sc := scanRecords B Header.size
  let rep : VerifyReport :=
    { records := sc.records.length, tombstones := sc.records.countP (·.deleted),
      liveKeys := (KeyDir.applyAll {} sc.records).size, fileSize := B.size, validSize := sc.stop }
  match sc.failure with
  | none => (some rep, none)
  | some (f, used) =>
    if !f.isRecoverable then (some rep, some (.record sc.stop (sc.stop + used) f))
    else if sc.stop + used < B.size then
      (some rep, some (.corruptMidStream (.record sc.stop (sc.stop + used) f)))
    else (some { rep with tailCorruption := some (.record sc.stop (sc.stop + used) f) }, none)

/-- **Verifying a log file.** Verification opens the file at `path` for reading only, and on a
file whose header the log accepts reports what the scan of its records finds, leaving every file
as it was. -/
theorem verify_spec_of_accepted {path : String} {lg : Logger} {w : World} {ino : Nat}
    (hPath : path ≠ "") (hLoc : w.disk.tree.locate (w.disk.place path) = .ok (some (.file ino)))
    (hAccepts : Header.Accepts (w.disk.tree.contents ino)) :
    (verify path lg { locking := false } w).1 = VerifyReport.ofScan (w.disk.tree.contents ino) ∧
      (verify path lg { locking := false } w).2.disk.tree = w.disk.tree := by
  have hNonempty : (w.disk.tree.contents ino).size ≠ 0 := by
    have := hAccepts.1
    simp only [Header.size] at this
    omega
  have hO : (Log.create path lg { locking := false }).CanRead w ino :=
    ⟨hPath, hLoc, rfl, rfl, .inl rfl⟩
  obtain ⟨p, w₁, hOpen, -, hDisk⟩ := Log.openFile_reading hO hNonempty
  rw [(headerFailure_eq_none_iff _).mpr hAccepts] at hOpen
  have hStat := Disk.stat_of_file hPath hLoc
  simp only [verify, bind, StateT.bind, Sys.disk, get, getThe, MonadStateOf.get, StateT.get, pure,
    StateT.pure, hStat, hNonempty, ↓reduceIte, hOpen]
  have hx : w₁.disk.handle? w.disk.handles.size =
      some { (Log.create path lg { locking := false }).readingHandle ino with pos := p } := by
    rw [hDisk]
    exact Disk.handle?_push_size _ _
  have hB : w₁.disk.tree.contents ino = w.disk.tree.contents ino := by rw [hDisk]
  have hSize := Log.size_of_open
    (l := { Log.create path lg { locking := false } with
      file := some w.disk.handles.size, headerError := none, readOffset := Header.size,
      buffer := none }) rfl hx rfl rfl
  have hR : ({ Log.create path lg { locking := false } with
      file := some w.disk.handles.size, headerError := none, readOffset := Header.size,
      buffer := none } : Log).ReadsAt w₁.disk w.disk.handles.size ino
        { (Log.create path lg { locking := false }).readingHandle ino with pos := p } :=
    ⟨rfl, rfl, hDisk ▸ hO.reads p, by rintro _ ⟨⟩⟩
  -- the scan runs with fuel for every byte, so it reads every record
  obtain ⟨q, hScan⟩ := scanFrom_spec Header.size ((w.disk.tree.contents ino).size + 1) {}
    { fileSize := (w.disk.tree.contents ino).size } _ _ _ hR hB rfl
    (Nat.lt_succ_of_le (scanRecords_length_le_size _ _))
  have hNode : w₁.disk.nodeSize (Node.file ino) = (w.disk.tree.contents ino).size := by
    rw [Disk.nodeSize, hB]
  have hClose := Log.close_of_open
    (l := { Log.create path lg { locking := false } with
      file := some w.disk.handles.size, headerError := none,
      readOffset := (scanRecords (w.disk.tree.contents ino) Header.size).stop, buffer := none })
    (w := { w₁ with
      disk := w₁.disk.setHandle w.disk.handles.size
        ({ (Log.create path lg { locking := false }).readingHandle ino with pos := q }) })
    rfl (Disk.handle?_setHandle_self hx)
  simp only [Log.readingHandle] at hClose
  simp only [hSize, Log.readingHandle, hNode, bind, StateT.bind, hScan, hClose]
  unfold VerifyReport.ofScan
  rcases hF : (scanRecords (w.disk.tree.contents ino) Header.size).failure with _ | ⟨f, used⟩ <;>
    simp [StateT.pure, pure, hF, hDisk]

theorem verify_of_accepted {path : String} {lg : Logger} {w : World} {ino : Nat}
    (hPath : path ≠ "") (hLoc : w.disk.tree.locate (w.disk.place path) = .ok (some (.file ino)))
    (hAccepts : Header.Accepts (w.disk.tree.contents ino)) :
    (verify path lg { locking := false } w).1 = VerifyReport.ofScan (w.disk.tree.contents ino) :=
  (verify_spec_of_accepted hPath hLoc hAccepts).1

/-- **Verifying a file with a refused header.** Verification of a file that is not empty and
whose header the log refuses fails with the header's failure, gives no report, and leaves every
file as it was. -/
theorem verify_spec_of_refused {path : String} {lg : Logger} {w : World} {ino : Nat}
    (hPath : path ≠ "") (hLoc : w.disk.tree.locate (w.disk.place path) = .ok (some (.file ino)))
    (hNonempty : (w.disk.tree.contents ino).size ≠ 0) {f : Failure}
    (hRefused : headerFailure (w.disk.tree.contents ino) = some f) :
    (verify path lg { locking := false } w).1 = (none, some f) ∧
      (verify path lg { locking := false } w).2.disk.tree = w.disk.tree := by
  have hO : (Log.create path lg { locking := false }).CanRead w ino :=
    ⟨hPath, hLoc, rfl, rfl, .inl rfl⟩
  obtain ⟨p, w₁, hOpen, -, hDisk⟩ := Log.openFile_reading hO hNonempty
  rw [hRefused] at hOpen
  have hStat := Disk.stat_of_file hPath hLoc
  have hx : w₁.disk.handle? w.disk.handles.size =
      some { (Log.create path lg { locking := false }).readingHandle ino with pos := p } := by
    rw [hDisk]
    exact Disk.handle?_push_size _ _
  have hClose := Log.close_of_open
    (l := { Log.create path lg { locking := false } with
      file := some w.disk.handles.size, headerError := some f }) (w := w₁) rfl hx
  simp only [verify, bind, StateT.bind, Sys.disk, get, getThe, MonadStateOf.get, StateT.get, pure,
    StateT.pure, hStat, hNonempty, ↓reduceIte, hOpen, hClose]
  simp [hDisk]

/-- The scan of the records meets a record that verification fails on: one over the size
limits, or one that by its own length fields ends before the file does. -/
def DamageCaught (B : ByteArray) : Prop :=
  ∃ f used, (scanRecords B Header.size).failure = some (f, used) ∧
    (f.isRecoverable = false ∨ (scanRecords B Header.size).stop + used < B.size)

theorem VerifyReport.ofScan_fails_iff (B : ByteArray) :
    (VerifyReport.ofScan B).2.isSome ↔ DamageCaught B := by
  unfold VerifyReport.ofScan DamageCaught
  rcases hF : (scanRecords B Header.size).failure with _ | ⟨f, used⟩
  · simp [hF]
  · cases hRec : f.isRecoverable <;>
      by_cases hMid : (scanRecords B Header.size).stop + used < B.size <;> simp [hF, hRec, hMid]

/-! ## Cuts without a sidecar -/

/-- The scan of the records meets damage that recovery takes (a cut header or payload, a wrong
checksum) in a record that by its own length fields runs to the end of the file or past it. -/
def CutsSilently (B : ByteArray) : Prop :=
  ∃ f used, (scanRecords B Header.size).failure = some (f, used) ∧ f.isRecoverable = true ∧
    B.size ≤ (scanRecords B Header.size).stop + used

theorem not_cutsSilently_of_damageCaught {B : ByteArray} (h : DamageCaught B) :
    ¬ CutsSilently B := by
  obtain ⟨f, used, hFail, hCaught⟩ := h
  rintro ⟨f', used', hFail', hRec, hTail⟩
  obtain ⟨rfl, rfl⟩ : f = f' ∧ used = used' := by simpa [hFail] using hFail'
  rcases hCaught with hFatal | hMid
  · simp [hFatal] at hRec
  · omega

theorem openedBytes_of_accepts {F : ByteArray} (h : Header.Accepts F) : openedBytes F = F := by
  have hNonempty : F.size ≠ 0 := by
    have := h.1
    simp only [Header.size] at this
    omega
  rw [openedBytes, if_neg hNonempty]

namespace Store

/-- What opening does with the bytes of the file `ino` of `w` that it cuts: a failed open leaves
the file as it was, and an open that changes the file first copies every byte it cuts into a
sidecar file, which its report names. -/
def KeepsCutBytes (w : World) (ino : Nat) : (Except Failure Recovery × Store) × World → Prop
  | ((.error _, _), w') => w'.disk.tree.contents ino = w.disk.tree.contents ino
  | ((.ok r, _), w') =>
    w'.disk.tree.contents ino ≠ w.disk.tree.contents ino →
      ∃ side n, r.discarded = some side ∧
        w'.disk.tree.locate (w.disk.place side) = .ok (some (.file n)) ∧
        w'.disk.tree.contents n =
          (w.disk.tree.contents ino).extract (w'.disk.tree.contents ino).size
            (w.disk.tree.contents ino).size

section Opening

variable {s : Store} {w : World} {ino : Nat}

/-- Damage cut silently: opening cuts the file and names no sidecar. -/
theorem openStore_of_cutsSilently (hClosed : s.isOpen = false) (hO : s.log.CanOpen w ino)
    (hAccepts : Header.Accepts (w.disk.tree.contents ino))
    (hCut : CutsSilently (w.disk.tree.contents ino)) : ¬ KeepsCutBytes w ino (openStore s w) := by
  obtain ⟨f, used, hFail, hRec, hTail⟩ := hCut
  have hBytes := openedBytes_of_accepts hAccepts
  have hStop := (scanRecords_failure_bounds _ _ hFail).2.1
  obtain ⟨s', w', hRun, -, -, hContents, -⟩ := openStore_of_tail_damage hClosed hO rfl
    (.inr hAccepts) (by rw [hBytes]; exact hFail) hRec (by rw [hBytes]; exact hTail)
  rw [hBytes] at hContents
  have hShorter : w'.disk.tree.contents ino ≠ w.disk.tree.contents ino := by
    intro hSame
    have hSizes := congrArg ByteArray.size hSame
    rw [hContents, ByteArray.size_extract] at hSizes
    omega
  rw [hRun]
  intro hKeep
  obtain ⟨side, n, hNamed, -⟩ := hKeep hShorter
  cases hNamed

/-- Damage not cut silently: a clean log is not changed, a record that must not be cut fails the
open, and damage before the tail is copied to a sidecar before it is cut, or fails the open when
the sidecar cannot be created. -/
theorem openStore_keepsCutBytes (hClosed : s.isOpen = false) (hO : s.log.CanOpen w ino)
    (hAccepts : Header.Accepts (w.disk.tree.contents ino)) (hIno : ino < w.disk.tree.nextIno)
    (hNot : ¬ CutsSilently (w.disk.tree.contents ino)) : KeepsCutBytes w ino (openStore s w) := by
  have hBytes := openedBytes_of_accepts hAccepts
  have hUsable : (w.disk.tree.contents ino).size = 0 ∨ Header.Accepts (w.disk.tree.contents ino) :=
    .inr hAccepts
  rcases hFail : (scanRecords (w.disk.tree.contents ino) Header.size).failure with _ | ⟨f, used⟩
  case none =>
    have hEnd := (scanRecords_failure_eq_none_iff _ _
      (hBytes ▸ header_le_openedBytes hUsable)).mp hFail
    obtain ⟨s', w', hRun, -, -, hContents, -⟩ :=
      openStore_of_clean hClosed hO rfl hUsable (by rw [hBytes]; exact hEnd)
    rw [hRun]
    intro hChanged
    exact absurd (hContents.trans hBytes) hChanged
  case some =>
    have hFail' : (scanRecords (openedBytes (w.disk.tree.contents ino)) Header.size).failure =
        some (f, used) := by
      rw [hBytes]
      exact hFail
    cases hRec : f.isRecoverable
    case false =>
      obtain ⟨s', w', hRun, -, -, hContents, -⟩ :=
        openStore_of_fatal_damage hClosed hO rfl hUsable hFail' hRec
      rw [hRun]
      exact hContents.trans hBytes
    case true =>
      by_cases hMid : (scanRecords (w.disk.tree.contents ino) Header.size).stop + used <
        (w.disk.tree.contents ino).size
      · have hMid' := hMid
        rw [← hBytes] at hMid'
        by_cases hFree : w.disk.tree.locate (w.disk.place (sidecarName s.path w.draws)) = .ok none
        · obtain ⟨s', w', hRun, -, -, hContents, -, n, hSideLoc, hSideBytes⟩ :=
            openStore_of_mid_damage hClosed hO rfl hUsable hFail' hRec hMid' hIno hFree
          rw [hBytes] at hContents hSideBytes
          have hStop := (scanRecords_failure_bounds _ _ hFail).2.1
          rw [hRun]
          intro _
          refine ⟨_, n, rfl, hSideLoc, ?_⟩
          rw [hSideBytes, hContents, ByteArray.size_extract, Nat.min_eq_left (Nat.le_of_lt hStop),
            Nat.sub_zero]
        · obtain ⟨f', s', w', hRun, -, -, hContents, -⟩ :=
            openStore_of_mid_damage_taken hClosed hO rfl hUsable hFail' hRec hMid' hFree
          rw [hRun]
          exact hContents.trans hBytes
      · exact absurd ⟨f, used, hFail, hRec, Nat.le_of_not_lt hMid⟩ hNot

end Opening

/-- **Damage kept and reported.** On a file whose header the log accepts, opening a fresh store
keeps every byte it cuts exactly when the damage is not cut silently, and verifying the file
fails exactly when the damage is caught. A record that by its own length fields runs past the
end of the file is neither caught nor kept, wherever it stands in the log. -/
theorem damage_kept_and_reported_iff {path : String} {lg lg' : Logger} {w : World} {ino : Nat}
    (hPath : path ≠ "") (hLoc : w.disk.tree.locate (w.disk.place path) = .ok (some (.file ino)))
    (hFree : w.disk.lockHeld (.file ino) = false) (hIno : ino < w.disk.tree.nextIno)
    (hAccepts : Header.Accepts (w.disk.tree.contents ino)) :
    (KeepsCutBytes w ino (openStore { path, log := Log.create path lg {}, logger := lg' } w) ↔
        ¬ CutsSilently (w.disk.tree.contents ino)) ∧
      ((verify path lg { locking := false } w).1.2.isSome ↔
        DamageCaught (w.disk.tree.contents ino)) := by
  have hO : (Log.create path lg {}).CanOpen w ino := ⟨hPath, hLoc, rfl, rfl, hFree, .inl rfl⟩
  refine ⟨⟨fun hKeep hCut => openStore_of_cutsSilently rfl hO hAccepts hCut hKeep,
    openStore_keepsCutBytes rfl hO hAccepts hIno⟩, ?_⟩
  rw [verify_of_accepted hPath hLoc hAccepts]
  exact VerifyReport.ofScan_fails_iff _

theorem damage_kept_and_reported_iff_at_root :
    let w : World := { disk := { cwd := "/", tree :=
      { nodes := [(["db"], .file 0)], inodes := [(0, Header.encode)], nextIno := 1 } } }
    ("/db" ≠ "" ∧ w.disk.tree.locate (w.disk.place "/db") = .ok (some (.file 0)) ∧
      w.disk.lockHeld (.file 0) = false ∧ 0 < w.disk.tree.nextIno ∧
      Header.Accepts (w.disk.tree.contents 0)) ∧
    (KeepsCutBytes w 0 (openStore { path := "/db", log := Log.create "/db" .nop {}, logger := .nop } w) ↔
        ¬ CutsSilently (w.disk.tree.contents 0)) ∧
      ((verify "/db" .nop { locking := false } w).1.2.isSome ↔ DamageCaught (w.disk.tree.contents 0)) := by
  intro w
  have hPath : ("/db" : String) ≠ "" := by decide
  have hLoc : w.disk.tree.locate (w.disk.place "/db") = .ok (some (.file 0)) := by cbv
  have hFree : w.disk.lockHeld (.file 0) = false := by cbv
  have hIno : 0 < w.disk.tree.nextIno := by decide
  have hAccepts : Header.Accepts (w.disk.tree.contents 0) := by decide
  exact ⟨⟨hPath, hLoc, hFree, hIno, hAccepts⟩,
    damage_kept_and_reported_iff hPath hLoc hFree hIno hAccepts⟩

end Store

/-! ## A flipped length byte -/

/-- The bytes `B` with the byte at `pos` xored with `mask`. -/
def flipByte (B : ByteArray) (pos : Nat) (mask : UInt8) : ByteArray :=
  B.set! pos (B.get! pos ^^^ mask)

namespace Store

/-- **A middle record cut silently.** In a log of two records, xoring the low byte of the first
record's key length with `0xFF` makes that record claim 254 key bytes, more than the file has:
opening takes it for a torn last record and cuts it, with the intact second record, leaving no
sidecar, and verification reports tail damage and no failure. -/
theorem flipped_key_length_cut_silently :
    let es : List Entry := [⟨"a".toUTF8, "b".toUTF8, false⟩, ⟨"c".toUTF8, "d".toUTF8, false⟩]
    let w : World := { disk := { cwd := "/", tree :=
      { nodes := [(["db"], .file 0)],
        inodes := [(0, flipByte (Header.encode ++ Entry.encodeAll es) 10 0xFF)], nextIno := 1 } } }
    (∀ e ∈ es, e.Valid) ∧ (0xFF : UInt8) ≠ 0 ∧
      Header.size ≤ 10 ∧ 10 < Header.size + (es.headD ⟨.empty, .empty, false⟩).encode.size ∧
      ¬ KeepsCutBytes w 0
        (openStore { path := "/db", log := Log.create "/db" .nop {}, logger := .nop } w) ∧
      (verify "/db" .nop { locking := false } w).1.2 = none := by
  intro es w
  -- the damaged log, byte by byte
  have hF : w.disk.tree.contents 0 =
      ⟨#[0x42, 0x44, 0x56, 0x4b, 0x02, 0x00, 0x0a, 0x3f, 0x24, 0xd3, 0xfe, 0x00, 0x00, 0x00, 0x01,
        0x00, 0x00, 0x00, 0x00, 0x61, 0x62, 0xbd, 0xf8, 0x71, 0x08, 0x01, 0x00, 0x00, 0x00, 0x01,
        0x00, 0x00, 0x00, 0x00, 0x63, 0x64]⟩ := by
    decide +kernel
  have hValid : ∀ e ∈ es, e.Valid := by
    intro e he
    simp only [es, List.mem_cons, List.not_mem_nil, or_false] at he
    rcases he with rfl | rfl <;> exact ⟨by decide, by decide⟩
  have hInside : 10 < Header.size + (es.headD ⟨.empty, .empty, false⟩).encode.size := by
    rw [Entry.size_encode]
    decide
  have hPath : ("/db" : String) ≠ "" := by decide
  -- where the log is depends only on the tree's locations, not on the bytes it holds
  have hLoc : w.disk.tree.locate (w.disk.place "/db") = .ok (some (.file 0)) := by
    rw [Tree.locate_of_nodes (t := { nodes := [(["db"], .file 0)] })
      (show w.disk.tree.nodes = _ from rfl)]
    show Tree.locate _ (Path.resolve "/" "/db") = _
    cbv
  have hFree : w.disk.lockHeld (.file 0) = false := by decide +kernel
  have hAccepts : Header.Accepts (w.disk.tree.contents 0) := by
    rw [hF]
    decide
  -- the first record reads as a payload cut short at the end of the file
  have hScan : scanRecords (w.disk.tree.contents 0) Header.size =
      ⟨[], Header.size, some (.truncatedPayload, 30)⟩ := by
    rw [hF]
    exact scanRecords_of_failed rfl
  have hCut : CutsSilently (w.disk.tree.contents 0) :=
    ⟨.truncatedPayload, 30, by rw [hScan], rfl, by rw [hScan, hF]; decide⟩
  have hO : (Log.create "/db" .nop {}).CanOpen w 0 := ⟨hPath, hLoc, rfl, rfl, hFree, .inl rfl⟩
  refine ⟨hValid, by decide, by decide, hInside, openStore_of_cutsSilently rfl hO hAccepts hCut, ?_⟩
  rw [verify_of_accepted hPath hLoc hAccepts]
  unfold VerifyReport.ofScan
  rw [hScan, hF]
  decide

end Store

end LogStore
