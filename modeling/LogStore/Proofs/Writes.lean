import LogStore.Proofs.Mirror
import LogStore.Proofs.RoundTrip
import LogStore.Proofs.KeyDir

/-!
# Sets and deletes

A set first refuses what it cannot do, in a fixed order: a closed store, an unknown mode, a key
over 1 KiB, a value over 1 MiB. In one of the three modes it then asks the mode whether the write
changes the map (`SetMode.admits_iff`), and only a write that does is appended; the key directory
follows once the log has the record. A delete refuses a closed store, answers `false` for an
absent key, and otherwise appends a tombstone.

Both end in the same `commit`: an append, then the change of the key directory. Under any
injected failure whose cut of the file works, a commit either adds the record to the file and
changes the map, or leaves both as they were (`commit_spec`); with no failure injected it
succeeds (`commit_of_quiet`).

* `set_of_closed`, `set_of_unknown`, `set_of_invalid`, `set_of_unadmitted`, `set_of_admitted`:
  what a set does at each stage; `delete_of_closed`, `delete_of_absent`, `delete_of_present` for a
  delete.
* `SetOutcomes`, `DeleteOutcomes`: what a set and a delete must do, by the map `M` of the store
  read through `get?`. `set_and_delete_outcomes`: on a store whose key directory is sorted and
  within the limits, they do it.
-/

namespace LogStore

namespace Log

variable {l : Log} {w : World} {t : Disk.Writer} {B : ByteArray} {p : Nat}

/-- **Appending with no failure injected.** A valid entry written through a writer reached by
no injected failure is appended whole: the log is unchanged and the record follows the file's
bytes. -/
theorem write_of_writer (hl : l.AppendsTo t) (hS : t.Shows w.disk B p)
    (hQuiet : w.disk.faults.Quiet t.x.faulty) {e : Entry} (he : e.Valid) :
    (write e l w).1 = (.ok (), l) ∧
      t.Shows (write e l w).2.disk (B ++ e.encode) (B.size + e.encode.size) := by
  have hSeek := hS.seek_end
  have hS₁ := hS.setPos B.size
  -- the handle stands at the end, so the whole record goes there
  have hWrite := Disk.write_of_file (b := e.encode) hS₁.handle t.live t.node t.writable
    (by simpa using hQuiet.write)
  have hS₂ : t.Shows ((w.disk.setHandle t.handle { t.x with pos := B.size }).write t.handle
      e.encode).2 (B ++ e.encode) (B.size + e.encode.size) := by
    rw [hWrite, Disk.store_eq, hS₁.contents]
    simp only [ite_self, Bytes.overwrite_end]
    exact (hS₁.setContents _).setPos _
  have hSync := Disk.sync_of_live hS₂.handle t.live (by simpa using hQuiet.sync)
  rw [hWrite] at hS₂ hSync
  have hRun : write e l w = ((.ok (), l), { w with disk := ((w.disk.setHandle t.handle
      { t.x with pos := B.size }).write t.handle e.encode).2 }) := by
    simp [write, usable_of_open hl.file hl.header, (Entry.validate_eq_ok_iff e).mpr he, bind,
      StateT.bind, lift, StateT.lift, Sys.onDisk, Sys.disk, modifyGet, MonadStateOf.modifyGet,
      StateT.modifyGet, modify, pure, StateT.pure, get, getThe, MonadStateOf.get, StateT.get,
      hSeek, hWrite, hSync, hl.drop_buffer]
  rw [hRun, hWrite]
  exact ⟨rfl, hS₂⟩

end Log

/-- In the three modes a write goes ahead unless it inserts a present key, updates an absent
one, or gives a key the value it has. -/
theorem SetMode.admits_iff {m : SetMode} (hm : m = .upsert ∨ m = .insert ∨ m = .update)
    (current : Option ByteArray) (value : ByteArray) :
    m.admits current value = true ↔ ¬ (m = .insert ∧ current.isSome) ∧
      ¬ (m = .update ∧ current.isNone) ∧ current ≠ some value := by
  rcases hm with rfl | rfl | rfl <;> cases current <;>
    simp [SetMode.admits, bne, ← Entry.beq_eq_true_iff]

/-- The key is checked first, then the value. -/
theorem Entry.validate_live (key value : ByteArray) :
    (Entry.live key value).validate =
      if maxKeySize < key.size then
        .error (.keyTooLarge (toString key.size ++ " > " ++ toString maxKeySize))
      else if maxValueSize < value.size then
        .error (.valueTooLarge (toString value.size ++ " > " ++ toString maxValueSize))
      else .ok () := by
  simp [Entry.validate, Entry.live]

/-- A key bound in a directory within the size limits is within the key limit. -/
theorem KeyDir.Bounded.key_le {d : KeyDir} (hd : d.Bounded) {k : ByteArray}
    (hk : (d.get? k).isSome) : k.size ≤ maxKeySize := by
  rw [KeyDir.get?_def, Option.isSome_map] at hk
  obtain ⟨p, hp⟩ := Option.isSome_iff_exists.mp hk
  obtain rfl : k = p.1 := by simpa using List.find?_some hp
  exact (hd p (List.mem_of_find?_eq_some hp)).1

namespace Store

/-! ## Committing a change -/

/-- The tail that writes share: append `e` to the log and, once the log has it, change the
store by `g`; the answer is whether it wrote. -/
def commit (e : Entry) (g : Store → Store) : StoreM (Except Failure Bool) :=
  onLog (Log.write e) >>= fun r => match r with
    | .error f => pure (.error f)
    | .ok () => modify g >>= fun _ => pure (.ok true)

/-- What an append of `e` through the writer `t`, on a file holding `B`, leaves: either it
succeeded, the map of the store is `M'` with nothing else of the store changed, and the file holds
`B` and then the record, `n` bytes more; or it failed, and the store and the file are as they
were. -/
def Appended (t : Disk.Writer) (B : ByteArray) (e : Entry) (n : Nat) (s : Store)
    (M' : ByteArray → Option ByteArray) (o : (Except Failure Bool × Store) × World) : Prop :=
  (o.1.1 = .ok true ∧ o.1.2.keys.get? = M' ∧ o.1.2 = { s with keys := o.1.2.keys } ∧
      o.2.disk.tree.contents t.ino = B ++ e.encode ∧ (B ++ e.encode).size = B.size + n) ∨
    (∃ f, o.1.1 = .error f ∧ o.1.2 = s ∧ o.2.disk.tree.contents t.ino = B)

variable {s : Store} {w : World} {t : Disk.Writer} {B : ByteArray} {p : Nat} {e : Entry}
  {g : Store → Store}

theorem commit_apply (e : Entry) (g : Store → Store) (s : Store) (w : World) :
    commit e g s w = match (Log.write e s.log w).1.1 with
      | .error f =>
        ((.error f, { s with log := (Log.write e s.log w).1.2 }), (Log.write e s.log w).2)
      | .ok () =>
        ((.ok true, g { s with log := (Log.write e s.log w).1.2 }), (Log.write e s.log w).2) := by
  simp only [commit, bind, StateT.bind, onLog_apply, modify, modifyGet, MonadStateOf.modifyGet]
  obtain ⟨⟨r, l⟩, w'⟩ := Log.write e s.log w
  rcases r with f | ⟨⟩ <;> rfl

/-- A failed commit leaves the key directory as it was, whatever failure it met. -/
theorem commit_keys_of_error {f : Failure} (hr : (commit e g s w).1.1 = .error f) :
    (commit e g s w).1.2.keys = s.keys := by
  rw [commit_apply] at hr ⊢
  split
  · rfl
  · rename_i h
    rw [h] at hr
    cases hr

/-- A commit leaves the key directory as it was, or changes it as `g` does. -/
theorem commit_keys {G : KeyDir → KeyDir} (hg : ∀ s', (g s').keys = G s'.keys) :
    (commit e g s w).1.2.keys = s.keys ∨ (commit e g s w).1.2.keys = G s.keys := by
  rw [commit_apply]
  split
  · exact .inl rfl
  · exact .inr (hg _)

/-- **A commit on an appending store.** When the cut that undoes a failed append works, a commit
either appends the record and changes the store by `g`, or fails and leaves the store and the
file as they were. -/
theorem commit_spec (hl : s.log.AppendsTo t) (hS : t.Shows w.disk B p)
    (hCut : (t.x.faulty && w.disk.faults.truncate) = false) :
    ((commit e g s w).1.1 = .ok true ∧ (commit e g s w).1.2 = g s ∧
        ∃ q, t.Shows (commit e g s w).2.disk (B ++ e.encode) q) ∨
      (∃ f, (commit e g s w).1.1 = .error f ∧ (commit e g s w).1.2 = s ∧
        ∃ q, t.Shows (commit e g s w).2.disk B q) := by
  obtain ⟨hLog, -, hOut⟩ := Log.write_spec hl B e s.log w ⟨rfl, hCut, p, hS⟩
  rw [commit_apply, hLog]
  revert hOut
  rcases (Log.write e s.log w).1.1 with f | ⟨⟩
  · intro hShows
    exact .inr ⟨f, rfl, rfl, hShows⟩
  · rintro ⟨-, hShows⟩
    exact .inl ⟨rfl, rfl, hShows⟩

/-- A commit that changes only the key directory, into one read as `M'`, appends as `Appended`
says. -/
theorem commit_appended (hl : s.log.AppendsTo t) (hS : t.Shows w.disk B p)
    (hCut : (t.x.faulty && w.disk.faults.truncate) = false) {n : Nat} (hn : e.encodedSize = n)
    {M' : ByteArray → Option ByteArray} (hM : (g s).keys.get? = M')
    (hg : g s = { s with keys := (g s).keys }) :
    Appended t B e n s M' (commit e g s w) := by
  rcases commit_spec (e := e) (g := g) hl hS hCut with
    ⟨hr, hs, q, hShows⟩ | ⟨f, hr, hs, q, hShows⟩
  · refine .inl ⟨hr, by rw [hs, hM], by rw [hs, ← hg], hShows.contents, ?_⟩
    rw [ByteArray.size_append, Entry.size_encode, hn]
  · exact .inr ⟨f, hr, hs, hShows.contents⟩

/-- With no failure injected, a commit of a valid entry succeeds. -/
theorem commit_of_quiet (hl : s.log.AppendsTo t) (hS : t.Shows w.disk B p)
    (hQuiet : w.disk.faults.Quiet t.x.faulty) (he : e.Valid) :
    (commit e g s w).1.1 = .ok true := by
  rw [commit_apply, (Log.write_of_writer hl hS hQuiet he).1]

/-! ## A set, stage by stage -/

section Set

variable {key value : ByteArray} {mode : SetMode}

/-- A set on a closed store is refused before anything else is looked at. -/
theorem set_of_closed (hClosed : s.isOpen = false) :
    set key value mode s w = ((.error .storeClosed, s), w) := by
  simp [set, hClosed, bind, StateT.bind, get, getThe, MonadStateOf.get, StateT.get, pure,
    StateT.pure]

/-- An unknown mode is refused on an open store before the entry is looked at. -/
theorem set_of_unknown (hOpen : s.isOpen = true) (n : Int) :
    set key value (.unknown n) s w = ((.error (.invalidMode (SetMode.unknown n).name), s), w) := by
  simp [set, hOpen, bind, StateT.bind, get, getThe, MonadStateOf.get, StateT.get, pure,
    StateT.pure]

/-- In one of the three modes, an entry over the size limits is refused. -/
theorem set_of_invalid (hOpen : s.isOpen = true)
    (hMode : mode = .upsert ∨ mode = .insert ∨ mode = .update) {f : Failure}
    (hInvalid : (Entry.live key value).validate = .error f) :
    set key value mode s w = ((.error f, s), w) := by
  rcases hMode with rfl | rfl | rfl <;>
    simp [set, hOpen, hInvalid, bind, StateT.bind, get, getThe, MonadStateOf.get, StateT.get,
      pure, StateT.pure]

/-- In one of the three modes, a valid entry that the mode does not admit is answered without
writing. -/
theorem set_of_unadmitted (hOpen : s.isOpen = true)
    (hMode : mode = .upsert ∨ mode = .insert ∨ mode = .update)
    (hValid : (Entry.live key value).validate = .ok ())
    (hAdmits : mode.admits (s.keys.get? key) value = false) :
    set key value mode s w = ((.ok false, s), w) := by
  rcases hMode with rfl | rfl | rfl <;>
    simp [set, hOpen, hValid, hAdmits, bind, StateT.bind, get, getThe, MonadStateOf.get,
      StateT.get, pure, StateT.pure]

/-- In one of the three modes, a valid entry that the mode admits is committed, binding the
key once the log has the record. -/
theorem set_of_admitted (hOpen : s.isOpen = true)
    (hMode : mode = .upsert ∨ mode = .insert ∨ mode = .update)
    (hValid : (Entry.live key value).validate = .ok ())
    (hAdmits : mode.admits (s.keys.get? key) value = true) :
    set key value mode s w =
      commit (.live key value) (fun s => { s with keys := s.keys.insert key value }) s w := by
  rcases hMode with rfl | rfl | rfl <;>
  · simp only [set, hOpen, hValid, hAdmits, bind, StateT.bind, get, getThe, MonadStateOf.get,
      StateT.get, pure, StateT.pure, Bool.not_true, Bool.false_eq_true, ↓reduceIte]
    rfl

/-- A set answers at once, changing nothing, or commits the binding. -/
theorem set_answers_or_commits (key value : ByteArray) (mode : SetMode) (s : Store)
    (w : World) :
    (∃ r, set key value mode s w = ((r, s), w)) ∨
      set key value mode s w =
        commit (.live key value) (fun s => { s with keys := s.keys.insert key value }) s w := by
  cases hOpen : s.isOpen
  · exact .inl ⟨_, set_of_closed hOpen⟩
  by_cases hm : mode = .upsert ∨ mode = .insert ∨ mode = .update
  · cases hv : (Entry.live key value).validate with
    | error f => exact .inl ⟨_, set_of_invalid hOpen hm hv⟩
    | ok u =>
      cases ha : mode.admits (s.keys.get? key) value
      · exact .inl ⟨_, set_of_unadmitted hOpen hm hv ha⟩
      · exact .inr (set_of_admitted hOpen hm hv ha)
  · obtain ⟨n, rfl⟩ : ∃ n, mode = .unknown n := by
      cases mode <;> simp_all
    exact .inl ⟨_, set_of_unknown hOpen n⟩

/-- Whatever failure a set meets, it leaves the key directory as it was. -/
theorem set_keys_of_error {f : Failure} (hr : (set key value mode s w).1.1 = .error f) :
    (set key value mode s w).1.2.keys = s.keys := by
  rcases set_answers_or_commits key value mode s w with ⟨r, h⟩ | h
  · rw [h]
  · rw [h] at hr ⊢
    exact commit_keys_of_error hr

/-- A set leaves the key directory as it was or binds its key. -/
theorem set_keys (key value : ByteArray) (mode : SetMode) (s : Store) (w : World) :
    (set key value mode s w).1.2.keys = s.keys ∨
      (set key value mode s w).1.2.keys = s.keys.insert key value := by
  rcases set_answers_or_commits key value mode s w with ⟨r, h⟩ | h
  · rw [h]
    exact .inl rfl
  · rw [h]
    exact commit_keys (G := fun d => d.insert key value) fun _ => rfl

end Set

/-! ## A delete, stage by stage -/

section Delete

variable {key : ByteArray}

theorem delete_of_closed (hClosed : s.isOpen = false) :
    delete key s w = ((.error .storeClosed, s), w) := by
  simp [delete, hClosed, bind, StateT.bind, get, getThe, MonadStateOf.get, StateT.get, pure,
    StateT.pure]

theorem delete_of_absent (hOpen : s.isOpen = true) (hAbsent : s.keys.get? key = none) :
    delete key s w = ((.ok false, s), w) := by
  simp [delete, hOpen, KeyDir.contains, hAbsent, bind, StateT.bind, get, getThe,
    MonadStateOf.get, StateT.get, pure, StateT.pure]

theorem delete_of_present (hOpen : s.isOpen = true) (hPresent : (s.keys.get? key).isSome) :
    delete key s w =
      commit (.tombstone key) (fun s => { s with keys := s.keys.erase key }) s w := by
  simp only [delete, hOpen, KeyDir.contains, hPresent, bind, StateT.bind, get, getThe,
    MonadStateOf.get, StateT.get, pure, StateT.pure, Bool.not_true, Bool.false_eq_true,
    ↓reduceIte]
  rfl

/-- A delete answers at once, changing nothing, or commits the unbinding. -/
theorem delete_answers_or_commits (key : ByteArray) (s : Store) (w : World) :
    (∃ r, delete key s w = ((r, s), w)) ∨
      delete key s w =
        commit (.tombstone key) (fun s => { s with keys := s.keys.erase key }) s w := by
  cases hOpen : s.isOpen
  · exact .inl ⟨_, delete_of_closed hOpen⟩
  cases hPresent : (s.keys.get? key).isSome
  · exact .inl ⟨_, delete_of_absent hOpen (by simpa using hPresent)⟩
  · exact .inr (delete_of_present hOpen hPresent)

/-- Whatever failure a delete meets, it leaves the key directory as it was. -/
theorem delete_keys_of_error {f : Failure} (hr : (delete key s w).1.1 = .error f) :
    (delete key s w).1.2.keys = s.keys := by
  rcases delete_answers_or_commits key s w with ⟨r, h⟩ | h
  · rw [h]
  · rw [h] at hr ⊢
    exact commit_keys_of_error hr

/-- A delete leaves the key directory as it was or erases its key. -/
theorem delete_keys (key : ByteArray) (s : Store) (w : World) :
    (delete key s w).1.2.keys = s.keys ∨ (delete key s w).1.2.keys = s.keys.erase key := by
  rcases delete_answers_or_commits key s w with ⟨r, h⟩ | h
  · rw [h]
    exact .inl rfl
  · rw [h]
    exact commit_keys (G := fun d => d.erase key) fun _ => rfl

end Delete

/-- Reading the statistics leaves the key directory as it was. -/
theorem stats_keys (s : Store) (w : World) : (stats s w).1.2.keys = s.keys := by
  unfold stats
  cases hOpen : s.isOpen
  · simp [hOpen, bind, StateT.bind, get, getThe, MonadStateOf.get, StateT.get, pure,
      StateT.pure]
  · simp [hOpen, onLog_apply, bind, StateT.bind, get, getThe, MonadStateOf.get, StateT.get,
      pure, StateT.pure]
    cases (s.log.size w).1.1 <;> rfl

/-! ## What sets and deletes do -/

/-- What a set of `key` to `value` in mode `mode` must do on the store `s` in the world `w`,
where `M` is the map of the store. It refuses, in this order, a closed store, an unknown mode, a
key over the limit and a value over the limit, each time changing nothing. It writes nothing
when the write would not change the map. Otherwise it appends the record through the store's
writer, `13 + |key| + |value|` bytes, and binds the key, or fails and changes nothing, when the
cut that undoes a failed append works; with no failure injected it succeeds. Whatever failure it
meets, the map stays as it was. -/
structure SetOutcomes (s : Store) (w : World) (key value : ByteArray) (mode : SetMode) :
    Prop where
  closed : s.isOpen = false → set key value mode s w = ((.error .storeClosed, s), w)
  unknownMode : s.isOpen = true → ∀ n, mode = .unknown n →
    set key value mode s w = ((.error (.invalidMode ("SetMode(" ++ toString n ++ ")")), s), w)
  keyTooLarge : s.isOpen = true → (mode = .upsert ∨ mode = .insert ∨ mode = .update) →
    maxKeySize < key.size →
    set key value mode s w =
      ((.error (.keyTooLarge (toString key.size ++ " > " ++ toString maxKeySize)), s), w)
  valueTooLarge : s.isOpen = true → (mode = .upsert ∨ mode = .insert ∨ mode = .update) →
    key.size ≤ maxKeySize → maxValueSize < value.size →
    set key value mode s w =
      ((.error (.valueTooLarge (toString value.size ++ " > " ++ toString maxValueSize)), s), w)
  unchanged : s.isOpen = true → (mode = .upsert ∨ mode = .insert ∨ mode = .update) →
    key.size ≤ maxKeySize → value.size ≤ maxValueSize →
    ¬ (¬ (mode = .insert ∧ (s.keys.get? key).isSome) ∧
      ¬ (mode = .update ∧ (s.keys.get? key).isNone) ∧ s.keys.get? key ≠ some value) →
    set key value mode s w = ((.ok false, s), w)
  appends : s.isOpen = true → (mode = .upsert ∨ mode = .insert ∨ mode = .update) →
    key.size ≤ maxKeySize → value.size ≤ maxValueSize →
    ¬ (mode = .insert ∧ (s.keys.get? key).isSome) →
    ¬ (mode = .update ∧ (s.keys.get? key).isNone) → s.keys.get? key ≠ some value →
    ∀ t B p, s.log.AppendsTo t → t.Shows w.disk B p →
      ((t.x.faulty && w.disk.faults.truncate) = false →
        Appended t B (.live key value) (headerSize + key.size + value.size) s
          (Function.update s.keys.get? key (some value)) (set key value mode s w)) ∧
      (w.disk.faults.Quiet t.x.faulty → (set key value mode s w).1.1 = .ok true)
  keepsMap : ∀ f, (set key value mode s w).1.1 = .error f →
    (set key value mode s w).1.2.keys = s.keys

/-- What a delete of `key` must do on the store `s` in the world `w`: refuse a closed store;
answer `false` for an absent key, changing nothing; and for a present key append a tombstone,
`13 + |key|` bytes, and unbind the key, or fail and change nothing, on the terms of a set.
Whatever failure it meets, the map stays as it was. -/
structure DeleteOutcomes (s : Store) (w : World) (key : ByteArray) : Prop where
  closed : s.isOpen = false → delete key s w = ((.error .storeClosed, s), w)
  absent : s.isOpen = true → s.keys.get? key = none → delete key s w = ((.ok false, s), w)
  appends : s.isOpen = true → (s.keys.get? key).isSome →
    ∀ t B p, s.log.AppendsTo t → t.Shows w.disk B p →
      ((t.x.faulty && w.disk.faults.truncate) = false →
        Appended t B (.tombstone key) (headerSize + key.size) s
          (Function.update s.keys.get? key none) (delete key s w)) ∧
      (w.disk.faults.Quiet t.x.faulty → (delete key s w).1.1 = .ok true)
  keepsMap : ∀ f, (delete key s w).1.1 = .error f → (delete key s w).1.2.keys = s.keys

/-- Every set, on every store, does what `SetOutcomes` says. -/
theorem set_outcomes (s : Store) (w : World) (key value : ByteArray) (mode : SetMode) :
    SetOutcomes s w key value mode := by
  have hValidate := Entry.validate_live key value
  have hValid (hk : key.size ≤ maxKeySize) (hv : value.size ≤ maxValueSize) :
      (Entry.live key value).validate = .ok () := by
    rw [hValidate, if_neg (by omega), if_neg (by omega)]
  refine ⟨set_of_closed, ?_, ?_, ?_, ?_, ?_, fun _ => set_keys_of_error⟩
  · rintro hOpen n rfl
    exact set_of_unknown hOpen n
  · intro hOpen hm hk
    exact set_of_invalid hOpen hm (by rw [hValidate, if_pos hk])
  · intro hOpen hm hk hv
    exact set_of_invalid hOpen hm (by rw [hValidate, if_neg (by omega), if_pos hv])
  · intro hOpen hm hk hv hNo
    exact set_of_unadmitted hOpen hm (hValid hk hv)
      (Bool.eq_false_iff.mpr fun h => hNo ((SetMode.admits_iff hm _ _).mp h))
  · intro hOpen hm hk hv hIns hUpd hSame t B p hl hS
    rw [set_of_admitted hOpen hm (hValid hk hv)
      ((SetMode.admits_iff hm _ _).mpr ⟨hIns, hUpd, hSame⟩)]
    refine ⟨fun hCut => commit_appended hl hS hCut ?_ ?_ rfl, fun hQuiet => ?_⟩
    · simp [Entry.encodedSize, Entry.payloadValue, Entry.live]
    · funext k'
      simp [Function.update_apply]
    · exact commit_of_quiet hl hS hQuiet
        ⟨hk, by simpa [Entry.payloadValue, Entry.live] using hv⟩

/-- Every delete, on a store whose key directory is sorted and within the size limits, does what
`DeleteOutcomes` says. Sortedness makes the key bound once, so one tombstone unbinds it; the
limits make the tombstone valid. -/
theorem delete_outcomes {s : Store} (hSorted : s.keys.Sorted) (hBounded : s.keys.Bounded)
    (w : World) (key : ByteArray) : DeleteOutcomes s w key := by
  refine ⟨delete_of_closed, delete_of_absent, ?_, fun _ => delete_keys_of_error⟩
  intro hOpen hPresent t B p hl hS
  rw [delete_of_present hOpen hPresent]
  refine ⟨fun hCut => commit_appended hl hS hCut ?_ ?_ rfl, fun hQuiet => ?_⟩
  · simp [Entry.encodedSize, Entry.payloadValue, Entry.tombstone]
  · funext k'
    simp [Function.update_apply, KeyDir.get?_erase hSorted]
  · exact commit_of_quiet hl hS hQuiet
      ⟨hBounded.key_le hPresent, by simp [Entry.payloadValue, Entry.tombstone]⟩

/-- **Sets and deletes check, then append.** On a store whose key directory is sorted and
within the size limits, every set and every delete does what `SetOutcomes` and
`DeleteOutcomes` say. -/
theorem set_and_delete_outcomes {s : Store} (hSorted : s.keys.Sorted)
    (hBounded : s.keys.Bounded) (w : World) (key value : ByteArray) (mode : SetMode) :
    SetOutcomes s w key value mode ∧ DeleteOutcomes s w key :=
  ⟨set_outcomes s w key value mode, delete_outcomes hSorted hBounded w key⟩

theorem set_and_delete_outcomes_on_empty :
    let s : Store := { path := "/db", log := Log.create "/db" .nop {}, logger := .nop }
    let w : World := { disk := { cwd := "/" } }
    (s.keys.Sorted ∧ s.keys.Bounded) ∧
      SetOutcomes s w ⟨#[97]⟩ ⟨#[49]⟩ .insert ∧ DeleteOutcomes s w ⟨#[97]⟩ := by
  intro s w
  have hSorted : s.keys.Sorted := List.Pairwise.nil
  have hBounded : s.keys.Bounded := KeyDir.empty_bounded
  exact ⟨⟨hSorted, hBounded⟩, set_and_delete_outcomes hSorted hBounded w _ _ _⟩

end Store

end LogStore
