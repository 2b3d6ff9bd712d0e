import LogStore.Proofs.Reader

/-!
# Replaying a log follows the scan of its bytes

Opening a store replays its log record by record into the key directory, and verification
scans it the same way into a report. Both loops read through the log's buffer and handle; by
`Log.read_spec` each read is a step of `scanRecords` over the file's bytes, so each loop does
what the scan says: it applies the records the scan found, in order, and ends at the scan's stop
offset with the scan's failure.

* `KeyDir.applyAll` applies a list of records to a key directory, one after another.
* `Store.replayFrom_spec`: the replay loop applies exactly the scanned records, counts them and
  their tombstones, leaves the cursor at the scan's stop offset, and hands the scan's failure,
  located at that offset, to recovery when it leaves the records before it intact.
-/

namespace LogStore

/-- Applies records to a key directory one after another. -/
def KeyDir.applyAll (d : KeyDir) (es : List Entry) : KeyDir :=
  es.foldl (fun d e => d.apply e.key e.value e.deleted) d

@[simp] theorem KeyDir.applyAll_nil (d : KeyDir) : d.applyAll [] = d := rfl

@[simp] theorem KeyDir.applyAll_cons (d : KeyDir) (e : Entry) (es : List Entry) :
    d.applyAll (e :: es) = (d.apply e.key e.value e.deleted).applyAll es := rfl

theorem KeyDir.applyAll_append (d : KeyDir) (es fs : List Entry) :
    d.applyAll (es ++ fs) = (d.applyAll es).applyAll fs := by
  simp [applyAll, List.foldl_append]

@[simp] theorem Failure.isRecoverable_record (o s : Nat) (f : Failure) :
    (Failure.record o s f).isRecoverable = f.isRecoverable := rfl

@[simp] theorem Failure.record?_record (o s : Nat) (f : Failure) :
    (Failure.record o s f).record? = some (o, s) := rfl

namespace Store

theorem onLog_of {α : Type} {m : LogM α} {s : Store} {w : World} {a : α} {l : Log}
    {w' : World} (hm : m s.log w = ((a, l), w')) :
    onLog m s w = ((a, { s with log := l }), w') := by
  simp [onLog, hm, bind, StateT.bind, pure, StateT.pure]

/-- **Replay follows the scan.** From a cursor at `pos`, with fuel for every record, the replay
loop applies the records that `scanRecords` finds from `pos`, counts them and their tombstones,
and stops with the cursor where the scan stopped. A clean end finishes it; a failure is located
from the stop offset to the last byte the failed read took, and either goes to recovery, when it
leaves the records before it intact, or fails the replay. The world changes only by the position
of the log's handle. -/
theorem replayFrom_spec {h ino : Nat} {B : ByteArray} (pos : Nat) :
    ∀ (fuel : Nat) (r : Recovery) (s : Store) (w : World) (x : Handle),
      s.log.ReadsAt w.disk h ino x → w.disk.tree.contents ino = B → s.log.readOffset = pos →
      (scanRecords B pos).records.length < fuel →
      ∃ q, replayFrom r fuel s w =
        match (scanRecords B pos).failure with
        | none =>
          ((.ok { r with records := r.records + (scanRecords B pos).records.length,
                         tombstones := r.tombstones +
                           (scanRecords B pos).records.countP (·.deleted) },
            { s with keys := s.keys.applyAll (scanRecords B pos).records,
                     log := { s.log with buffer := none,
                                         readOffset := (scanRecords B pos).stop } }),
            { w with disk := w.disk.setHandle h { x with pos := q } })
        | some (f, used) =>
          if f.isRecoverable then
            recover (.record (scanRecords B pos).stop ((scanRecords B pos).stop + used) f)
              { r with records := r.records + (scanRecords B pos).records.length,
                       tombstones := r.tombstones +
                         (scanRecords B pos).records.countP (·.deleted) }
              { s with keys := s.keys.applyAll (scanRecords B pos).records,
                       log := { s.log with buffer := none,
                                           readOffset := (scanRecords B pos).stop } }
              { w with disk := w.disk.setHandle h { x with pos := q } }
          else
            ((.error (.within ("replay " ++ s.path)
                (.record (scanRecords B pos).stop ((scanRecords B pos).stop + used) f)),
              { s with keys := s.keys.applyAll (scanRecords B pos).records,
                       log := { s.log with buffer := none,
                                           readOffset := (scanRecords B pos).stop } }),
              { w with disk := w.disk.setHandle h { x with pos := q } }) := by
  fun_induction scanRecords B pos with
  | case1 pos hd =>
    intro fuel r s w x hR hB hPos hFuel
    obtain ⟨fuel, rfl⟩ : ∃ k, fuel = k + 1 := ⟨fuel - 1, by simp at hFuel; omega⟩
    obtain ⟨q, buf, hRead, -, hBuf⟩ := Log.read_spec hR
    rw [hB, hPos, show readAt B pos = (.ok none, pos) by simp [readAt, hd]] at hRead hBuf
    have hNone : buf = none := by simpa using hBuf
    subst hNone
    refine ⟨q, ?_⟩
    simp only [replayFrom, bind, StateT.bind, onLog_of hRead]
    simp [pure, StateT.pure]
  | case2 pos f used hd =>
    intro fuel r s w x hR hB hPos hFuel
    obtain ⟨fuel, rfl⟩ : ∃ k, fuel = k + 1 := ⟨fuel - 1, by simp at hFuel; omega⟩
    obtain ⟨q, buf, hRead, -, hBuf⟩ := Log.read_spec hR
    rw [hB, hPos, show readAt B pos = (.error (.record pos (pos + used) f), pos) by
      simp [readAt, hd]] at hRead hBuf
    have hNone : buf = none := by simpa using hBuf
    subst hNone
    refine ⟨q, ?_⟩
    simp only [replayFrom, bind, StateT.bind, onLog_of hRead]
    cases hRec : f.isRecoverable
    · simp [bind, pure, StateT.pure, StateT.bind, get, getThe, MonadStateOf.get, StateT.get, hRec]
    · simp [hRec]
  | case3 pos e used hd rest ih =>
    dsimp only [rest] at *
    intro fuel r s w x hR hB hPos hFuel
    obtain ⟨fuel, rfl⟩ : ∃ k, fuel = k + 1 := ⟨fuel - 1, by simp at hFuel; omega⟩
    obtain ⟨q, buf, hRead, hR', -⟩ := Log.read_spec hR
    rw [hB, hPos, show readAt B pos = (.ok (some e), pos + used) by simp [readAt, hd]] at hRead hR'
    obtain ⟨q', hq'⟩ := ih fuel
      { r with records := r.records + 1, tombstones := r.tombstones + (if e.deleted then 1 else 0) }
      { s with log := { s.log with buffer := buf, readOffset := pos + used },
               keys := s.keys.apply e.key e.value e.deleted }
      { w with disk := w.disk.setHandle h { x with pos := q } } { x with pos := q } hR'
      (by simpa using hB) rfl (by simpa using hFuel)
    refine ⟨q', ?_⟩
    simp only [replayFrom, bind, StateT.bind, onLog_of hRead, modify, modifyGet,
      MonadStateOf.modifyGet, StateT.modifyGet, pure, StateT.pure]
    dsimp only at hq'
    rw [hq']
    rcases hFail : (scanRecords B (pos + used)).failure with _ | ⟨f, used'⟩
    · simp [Nat.add_assoc, Nat.add_comm 1, List.countP_cons,
        Nat.add_comm (if e.deleted = true then 1 else 0)]
    · cases hRec : f.isRecoverable
      · simp [hRec]
      · simp [hRec, Nat.add_assoc, Nat.add_comm 1, List.countP_cons,
          Nat.add_comm (if e.deleted = true then 1 else 0)]

end Store

/-- **Verification follows the scan.** From a cursor at `pos`, with fuel for every record, the
verification loop counts the records that `scanRecords` finds from `pos` and their tombstones,
applies them to the key directory it is given, and reports the scan's stop offset as the valid
size. A failure is located from the stop offset to the last byte the failed read took: one that
does not leave the records before it intact fails the verification; otherwise it is mid-stream
corruption when the damaged record ends before the file does, and tail damage when it does not. -/
theorem scanFrom_spec {h ino : Nat} {B : ByteArray} (pos : Nat) :
    ∀ (fuel : Nat) (keys : KeyDir) (rep : VerifyReport) (l : Log) (w : World) (x : Handle),
      l.ReadsAt w.disk h ino x → w.disk.tree.contents ino = B → l.readOffset = pos →
      (scanRecords B pos).records.length < fuel →
      ∃ q, scanFrom keys rep fuel l w =
        (((match (scanRecords B pos).failure with
          | none =>
            (some { rep with records := rep.records + (scanRecords B pos).records.length,
                             tombstones := rep.tombstones +
                               (scanRecords B pos).records.countP (·.deleted),
                             validSize := (scanRecords B pos).stop,
                             liveKeys := (keys.applyAll (scanRecords B pos).records).size }, none)
          | some (f, used) =>
            if !f.isRecoverable then
              (some { rep with records := rep.records + (scanRecords B pos).records.length,
                               tombstones := rep.tombstones +
                                 (scanRecords B pos).records.countP (·.deleted),
                               validSize := (scanRecords B pos).stop,
                               liveKeys := (keys.applyAll (scanRecords B pos).records).size },
                some (.record (scanRecords B pos).stop ((scanRecords B pos).stop + used) f))
            else if (scanRecords B pos).stop + used < rep.fileSize then
              (some { rep with records := rep.records + (scanRecords B pos).records.length,
                               tombstones := rep.tombstones +
                                 (scanRecords B pos).records.countP (·.deleted),
                               validSize := (scanRecords B pos).stop,
                               liveKeys := (keys.applyAll (scanRecords B pos).records).size },
                some (.corruptMidStream
                  (.record (scanRecords B pos).stop ((scanRecords B pos).stop + used) f)))
            else
              (some { rep with records := rep.records + (scanRecords B pos).records.length,
                               tombstones := rep.tombstones +
                                 (scanRecords B pos).records.countP (·.deleted),
                               validSize := (scanRecords B pos).stop,
                               liveKeys := (keys.applyAll (scanRecords B pos).records).size,
                               tailCorruption := some
                                 (.record (scanRecords B pos).stop ((scanRecords B pos).stop + used)
                                   f) }, none)),
          { l with buffer := none, readOffset := (scanRecords B pos).stop }),
          { w with disk := w.disk.setHandle h { x with pos := q } }) := by
  fun_induction scanRecords B pos with
  | case1 pos hd =>
    intro fuel keys rep l w x hR hB hPos hFuel
    obtain ⟨fuel, rfl⟩ : ∃ k, fuel = k + 1 := ⟨fuel - 1, by simp at hFuel; omega⟩
    obtain ⟨q, buf, hRead, -, hBuf⟩ := Log.read_spec hR
    rw [hB, hPos, show readAt B pos = (.ok none, pos) by simp [readAt, hd]] at hRead hBuf
    have hNone : buf = none := by simpa using hBuf
    subst hNone
    refine ⟨q, ?_⟩
    simp only [scanFrom, bind, StateT.bind, hRead]
    simp [pure, StateT.pure, get, getThe, MonadStateOf.get, StateT.get]
  | case2 pos f used hd =>
    intro fuel keys rep l w x hR hB hPos hFuel
    obtain ⟨fuel, rfl⟩ : ∃ k, fuel = k + 1 := ⟨fuel - 1, by simp at hFuel; omega⟩
    obtain ⟨q, buf, hRead, -, hBuf⟩ := Log.read_spec hR
    rw [hB, hPos, show readAt B pos = (.error (.record pos (pos + used) f), pos) by
      simp [readAt, hd]] at hRead hBuf
    have hNone : buf = none := by simpa using hBuf
    subst hNone
    refine ⟨q, ?_⟩
    simp only [scanFrom, bind, StateT.bind, hRead]
    cases hRec : f.isRecoverable
    · simp [pure, StateT.pure, get, getThe, MonadStateOf.get, StateT.get, hRec]
    · by_cases hMid : pos + used < rep.fileSize
      · simp [pure, StateT.pure, get, getThe, MonadStateOf.get, StateT.get, hRec, hMid]
      · simp [pure, StateT.pure, get, getThe, MonadStateOf.get, StateT.get, hRec, hMid]
  | case3 pos e used hd rest ih =>
    dsimp only [rest] at *
    intro fuel keys rep l w x hR hB hPos hFuel
    obtain ⟨fuel, rfl⟩ : ∃ k, fuel = k + 1 := ⟨fuel - 1, by simp at hFuel; omega⟩
    obtain ⟨q, buf, hRead, hR', -⟩ := Log.read_spec hR
    rw [hB, hPos, show readAt B pos = (.ok (some e), pos + used) by simp [readAt, hd]] at hRead hR'
    obtain ⟨q', hq'⟩ := ih fuel (keys.apply e.key e.value e.deleted)
      { rep with records := rep.records + 1,
                 tombstones := rep.tombstones + (if e.deleted then 1 else 0) }
      { l with buffer := buf, readOffset := pos + used }
      { w with disk := w.disk.setHandle h { x with pos := q } } { x with pos := q } hR'
      (by simpa using hB) rfl (by simpa using hFuel)
    refine ⟨q', ?_⟩
    simp only [scanFrom, bind, StateT.bind, hRead]
    dsimp only at hq'
    rw [hq']
    rcases hFail : (scanRecords B (pos + used)).failure with _ | ⟨f, used'⟩
    · simp [Nat.add_assoc, Nat.add_comm 1, List.countP_cons,
        Nat.add_comm (if e.deleted = true then 1 else 0)]
    · simp [Nat.add_assoc, Nat.add_comm 1, List.countP_cons,
        Nat.add_comm (if e.deleted = true then 1 else 0)]

end LogStore
