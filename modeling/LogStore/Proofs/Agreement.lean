import LogStore.Proofs.Damage

/-!
# Verification predicts opening

Verifying a log and opening a store on it are two separate loops over the same records, each
with its own way of telling a torn last record from damage before the end. This module shows
that they always agree: on every file that is not empty, what verification reports is what
opening the store then does.

Both loops follow `scanRecords` from the end of the header (`verify_spec_of_accepted` and
`openStore_on_any_file`), and both tell tail from mid-stream damage by comparing where the
damaged record ends with the size of the file. So the agreement is a case split on how that
scan ends, with one lemma per way verification can end:

* `VerifyPredicts`: what verification's answer says about opening, read off the two runs.
* `verifyPredicts_of_failed`, `verifyPredicts_of_midStream`, `verifyPredicts_of_tail`,
  `verifyPredicts_of_clean`: each way verification ends, with the matching way opening ends,
  makes the prediction hold.
* `DamageBeforeTail`: the damage that opening copies into a sidecar.
* `Store.verify_predicts_open`: on every file that is not empty, with the path unlocked and a
  free name for the sidecar when there is damage to copy, verification predicts opening.
-/

namespace LogStore

/-- A verification report and a recovery report count the same: the records read, the
tombstones among them, the keys they leave, where the good records end, and the file size. -/
def VerifyReport.Matches (rep : VerifyReport) (r : Recovery) : Prop :=
  rep.records = r.records ∧ rep.tombstones = r.tombstones ∧ rep.liveKeys = r.keys ∧
    rep.validSize = r.sizeAfter ∧ rep.fileSize = r.sizeBefore

/-- What a verification run `v` says of an opening run `o`, both started in `w`, where the log is
the file `ino`. Verification changes no file. It fails with anything but mid-stream corruption
exactly when opening fails; it reports mid-stream corruption exactly when opening writes a
sidecar; it warns of damage at the tail exactly when opening cuts the file and writes no sidecar;
it succeeds without a warning exactly when opening leaves the file as it was. When both read
the log, their counts agree. -/
def VerifyPredicts (w : World) (ino : Nat) (v : (Option VerifyReport × Option Failure) × World)
    (o : (Except Failure Recovery × Store) × World) : Prop :=
  v.2.disk.tree = w.disk.tree ∧
  ((∃ f, v.1.2 = some f ∧ ∀ g, f ≠ .corruptMidStream g) ↔ ∃ f, o.1.1 = .error f) ∧
  ((∃ g, v.1.2 = some (.corruptMidStream g)) ↔
    ∃ r side n, o.1.1 = .ok r ∧ r.discarded = some side ∧
      o.2.disk.tree.locate (w.disk.place side) = .ok (some (.file n))) ∧
  ((∃ rep, v.1 = (some rep, none) ∧ rep.tailCorruption.isSome) ↔
    ∃ r, o.1.1 = .ok r ∧ r.discarded = none ∧
      (o.2.disk.tree.contents ino).size < (w.disk.tree.contents ino).size) ∧
  ((∃ rep, v.1 = (some rep, none) ∧ rep.tailCorruption = none) ↔
    ∃ r, o.1.1 = .ok r ∧ o.2.disk.tree.contents ino = w.disk.tree.contents ino) ∧
  ∀ rep r, v.1.1 = some rep → o.1.1 = .ok r → rep.Matches r

section Cases

variable {w : World} {ino : Nat} {v : (Option VerifyReport × Option Failure) × World}
  {o : (Except Failure Recovery × Store) × World}

/-- Verification fails with something other than mid-stream corruption, and opening fails. -/
theorem verifyPredicts_of_failed (hTree : v.2.disk.tree = w.disk.tree) {f : Failure}
    (hv : v.1.2 = some f) (hNotMid : ∀ g, f ≠ .corruptMidStream g) {f' : Failure}
    (ho : o.1.1 = .error f') : VerifyPredicts w ino v o := by
  refine ⟨hTree, ⟨fun _ => ⟨f', ho⟩, fun _ => ⟨f, hv, hNotMid⟩⟩, ?_, ?_, ?_, ?_⟩
  · simp [hv, ho, hNotMid]
  · simp [Prod.ext_iff, hv, ho]
  · simp [Prod.ext_iff, hv, ho]
  · simp [ho]

/-- Verification reports mid-stream corruption, and opening writes a sidecar. -/
theorem verifyPredicts_of_midStream (hTree : v.2.disk.tree = w.disk.tree) {rep : VerifyReport}
    {g : Failure} (hv : v.1 = (some rep, some (.corruptMidStream g))) {r : Recovery} {side : String}
    {n : Nat} (ho : o.1.1 = .ok r) (hSide : r.discarded = some side)
    (hExists : o.2.disk.tree.locate (w.disk.place side) = .ok (some (.file n)))
    (hCut : o.2.disk.tree.contents ino ≠ w.disk.tree.contents ino) (hMatch : rep.Matches r) :
    VerifyPredicts w ino v o := by
  refine ⟨hTree, ?_, ⟨fun _ => ⟨r, side, n, ho, hSide, hExists⟩, fun _ => ⟨g, by rw [hv]⟩⟩,
    ?_, ?_, ?_⟩
  · simp [hv, ho]
  · simp [hv, ho, hSide]
  · simp [hv, ho, hCut]
  · intro rep' r' hRep hr
    simp only [hv, Option.some.injEq] at hRep
    simp only [ho, Except.ok.injEq] at hr
    exact hRep ▸ hr ▸ hMatch

/-- Verification warns of damage at the tail, and opening cuts the file with no sidecar. -/
theorem verifyPredicts_of_tail (hTree : v.2.disk.tree = w.disk.tree) {rep : VerifyReport}
    (hv : v.1 = (some rep, none)) (hWarn : rep.tailCorruption.isSome) {r : Recovery}
    (ho : o.1.1 = .ok r) (hNoSide : r.discarded = none)
    (hShorter : (o.2.disk.tree.contents ino).size < (w.disk.tree.contents ino).size)
    (hMatch : rep.Matches r) : VerifyPredicts w ino v o := by
  have hChanged : o.2.disk.tree.contents ino ≠ w.disk.tree.contents ino := by
    intro hSame
    rw [hSame] at hShorter
    exact Nat.lt_irrefl _ hShorter
  refine ⟨hTree, ?_, ?_, ⟨fun _ => ⟨r, ho, hNoSide, hShorter⟩, fun _ => ⟨rep, hv, hWarn⟩⟩, ?_, ?_⟩
  · simp [hv, ho]
  · simp [hv, ho, hNoSide]
  · have hWarn' : rep.tailCorruption ≠ none := Option.isSome_iff_ne_none.mp hWarn
    simp [hv, ho, hChanged, hWarn']
  · intro rep' r' hRep hr
    simp only [hv, Option.some.injEq] at hRep
    simp only [ho, Except.ok.injEq] at hr
    exact hRep ▸ hr ▸ hMatch

/-- Verification succeeds without a warning, and opening leaves the file as it was. -/
theorem verifyPredicts_of_clean (hTree : v.2.disk.tree = w.disk.tree) {rep : VerifyReport}
    (hv : v.1 = (some rep, none)) (hQuiet : rep.tailCorruption = none) {r : Recovery}
    (ho : o.1.1 = .ok r) (hSide : r.discarded = none)
    (hSame : o.2.disk.tree.contents ino = w.disk.tree.contents ino) (hMatch : rep.Matches r) :
    VerifyPredicts w ino v o := by
  refine ⟨hTree, ?_, ?_, ?_, ⟨fun _ => ⟨r, ho, hSame⟩, fun _ => ⟨rep, hv, hQuiet⟩⟩, ?_⟩
  · simp [hv, ho]
  · simp [hv, ho, hSide]
  · simp [hv, hQuiet, hSame]
  · intro rep' r' hRep hr
    simp only [hv, Option.some.injEq] at hRep
    simp only [ho, Except.ok.injEq] at hr
    exact hRep ▸ hr ▸ hMatch

end Cases

/-- A record that fails to read on bytes that end cleanly is damage that recovery takes, or a
record over the size limits. -/
theorem scanFailure_cases {B : ByteArray} {pos : Nat} {f : Failure} {used : Nat}
    (hSome : (scanRecords B pos).failure = some (f, used)) :
    (f = .truncatedHeader ∨ f = .truncatedPayload ∨ ∃ a c, f = .badChecksum a c) ∨
      ((∃ d, f = .keyTooLarge d) ∨ ∃ d, f = .valueTooLarge d) := by
  obtain ⟨-, -, hf⟩ := ByteSource.decodeAt_failed_clean (scanRecords_failed B pos hSome)
  rcases hf with ⟨rfl, -⟩ | ⟨rfl, -⟩ | hKey | hValue | ⟨a, c, rfl⟩
  · exact .inl (.inl rfl)
  · exact .inl (.inr (.inl rfl))
  · exact .inr (.inl hKey)
  · exact .inr (.inr hValue)
  · exact .inl (.inr (.inr ⟨a, c, rfl⟩))

/-- The scan of the records meets damage that recovery takes in a record that by its own length
fields ends before the file does: the damage that opening copies into a sidecar. -/
def DamageBeforeTail (B : ByteArray) : Prop :=
  ∃ f used, (scanRecords B Header.size).failure = some (f, used) ∧ f.isRecoverable = true ∧
    (scanRecords B Header.size).stop + used < B.size

namespace Store

/-- **Verification predicts opening.** On a file that is not empty, at a path no open handle
holds the lock of, and with a free name for the sidecar when there is damage to copy, verifying the log and opening a fresh
store on it agree as `VerifyPredicts` says, and verification changes no file. -/
theorem verify_predicts_open {path : String} {lg lg' : Logger} {w : World} {ino : Nat}
    (hPath : path ≠ "") (hLoc : w.disk.tree.locate (w.disk.place path) = .ok (some (.file ino)))
    (hFree : w.disk.lockHeld (.file ino) = false) (hIno : ino < w.disk.tree.nextIno)
    (hSide : DamageBeforeTail (w.disk.tree.contents ino) →
      w.disk.tree.locate (w.disk.place (sidecarName path w.draws)) = .ok none)
    (hNonempty : 0 < (w.disk.tree.contents ino).size) :
    VerifyPredicts w ino (verify path lg { locking := false } w)
      (openStore { path, log := Log.create path lg {}, logger := lg' } w) := by
  have hOpens : OpensOnFile path lg lg' w ino := openStore_on_any_file hPath hLoc hFree hIno
  obtain ⟨hRefused, hClean, hDamage, hFatal⟩ := hOpens
  by_cases hAccepts : Header.Accepts (w.disk.tree.contents ino)
  case neg =>
    obtain ⟨f, s', w', hRun, hHeader, -⟩ := hRefused hNonempty hAccepts
    obtain ⟨f₀, hf₀⟩ : ∃ f₀, headerFailure (w.disk.tree.contents ino) = some f₀ :=
      Option.ne_none_iff_exists'.mp (mt (headerFailure_eq_none_iff _).mp hAccepts)
    obtain ⟨hVerify, hTree⟩ := @verify_spec_of_refused path lg w ino hPath hLoc
      (Nat.pos_iff_ne_zero.mp hNonempty) f₀ hf₀
    have hNotMid : ∀ g, f₀ ≠ .corruptMidStream g := by
      rcases headerFailure_cases hf₀ with ⟨m, rfl⟩ | ⟨v, -, rfl⟩ <;> intro g hg <;> cases hg
    exact verifyPredicts_of_failed hTree (by rw [hVerify]) hNotMid (by rw [hRun])
  case pos =>
    have hBytes := openedBytes_of_accepts hAccepts
    obtain ⟨hVerify, hTree⟩ := @verify_spec_of_accepted path lg w ino hPath hLoc hAccepts
    rw [hBytes] at hClean hDamage hFatal
    have hUsable : (w.disk.tree.contents ino).size = 0 ∨ Header.Accepts (w.disk.tree.contents ino) :=
      .inr hAccepts
    rcases hFail : (scanRecords (w.disk.tree.contents ino) Header.size).failure with _ | ⟨f, used⟩
    case none =>
      simp only [VerifyReport.ofScan, hFail] at hVerify
      have hEnd := (scanRecords_failure_eq_none_iff _ _ (hBytes ▸ header_le_openedBytes hUsable)).mp
        hFail
      obtain ⟨s', w', hRun, -, -, hContents, -⟩ := hClean hUsable hEnd
      rw [hRun]
      exact verifyPredicts_of_clean hTree hVerify rfl rfl rfl hContents
        ⟨rfl, rfl, rfl, hEnd, rfl⟩
    case some =>
      simp only [VerifyReport.ofScan, hFail] at hVerify
      have hStop := (scanRecords_failure_bounds _ _ hFail).2.1
      rcases scanFailure_cases hFail with hDamaged | hOversize
      case inr =>
        obtain ⟨s', w', hRun, -⟩ := hFatal f used hUsable hFail hOversize
        rw [Failure.isRecoverable_of_oversize hOversize] at hVerify
        refine verifyPredicts_of_failed hTree (by rw [hVerify]; rfl) ?_ (by rw [hRun])
        intro g hg
        cases hg
      case inl =>
        have hRec := Failure.isRecoverable_of_damage hDamaged
        rw [hRec] at hVerify
        obtain ⟨s', w', hRun, -, -, hContents, -, hMidSide, -⟩ :=
          hDamage f used hUsable hFail hDamaged (fun hMid => hSide ⟨f, used, hFail, hRec, hMid⟩)
        have hShorter : (w'.disk.tree.contents ino).size < (w.disk.tree.contents ino).size := by
          rw [hContents, ByteArray.size_extract]
          omega
        have hChanged : w'.disk.tree.contents ino ≠ w.disk.tree.contents ino := by
          intro hSame
          rw [hSame] at hShorter
          exact Nat.lt_irrefl _ hShorter
        by_cases hMid : (scanRecords (w.disk.tree.contents ino) Header.size).stop + used <
            (w.disk.tree.contents ino).size
        · simp only [hMid, if_true, Bool.not_true, Bool.false_eq_true] at hVerify hRun
          obtain ⟨n, hSideLoc, -⟩ := hMidSide hMid
          rw [hRun]
          exact verifyPredicts_of_midStream hTree hVerify rfl rfl hSideLoc hChanged
            ⟨rfl, rfl, rfl, rfl, rfl⟩
        · simp only [hMid, if_false, Bool.not_true, Bool.false_eq_true] at hVerify hRun
          rw [hRun]
          exact verifyPredicts_of_tail hTree hVerify rfl rfl rfl hShorter
            ⟨rfl, rfl, rfl, rfl, rfl⟩

theorem verify_predicts_open_at_root :
    let w : World := { disk := { cwd := "/", tree :=
      { nodes := [(["db"], .file 0)], inodes := [(0, Header.encode)], nextIno := 1 } } }
    ("/db" ≠ "" ∧ w.disk.tree.locate (w.disk.place "/db") = .ok (some (.file 0)) ∧
      w.disk.lockHeld (.file 0) = false ∧ 0 < w.disk.tree.nextIno ∧
      (DamageBeforeTail (w.disk.tree.contents 0) →
        w.disk.tree.locate (w.disk.place (sidecarName "/db" w.draws)) = .ok none) ∧
      0 < (w.disk.tree.contents 0).size) ∧
    VerifyPredicts w 0 (verify "/db" .nop { locking := false } w)
      (openStore { path := "/db", log := Log.create "/db" .nop {}, logger := .nop } w) := by
  intro w
  have hPath : ("/db" : String) ≠ "" := by decide
  have hLoc : w.disk.tree.locate (w.disk.place "/db") = .ok (some (.file 0)) := by cbv
  have hFree : w.disk.lockHeld (.file 0) = false := by cbv
  have hIno : 0 < w.disk.tree.nextIno := by decide
  -- the bare header has no records, so there is no damage to copy
  have hSide : DamageBeforeTail (w.disk.tree.contents 0) →
      w.disk.tree.locate (w.disk.place (sidecarName "/db" w.draws)) = .ok none := by
    rintro ⟨f, used, hFail, -⟩
    rw [scanRecords_of_le (by decide)] at hFail
    cases hFail
  have hNonempty : 0 < (w.disk.tree.contents 0).size := by decide
  exact ⟨⟨hPath, hLoc, hFree, hIno, hSide, hNonempty⟩,
    verify_predicts_open hPath hLoc hFree hIno hSide hNonempty⟩

end Store

end LogStore
