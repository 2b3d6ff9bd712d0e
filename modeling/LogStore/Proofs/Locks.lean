import LogStore.Proofs.LogFile
import LogStore.Store.Verify

/-!
# Locks

Which file each handle holds the lock of, and how every computation on a log, a store and
a verification moves those locks.

* `Disk.lockOf d h` is the file whose lock the handle `h` holds, while it is open and locked.
  Reading, writing, seeking, cutting and opening without the lock keep every lock; closing a
  handle releases its own; opening with the lock adds one lock, on a file no handle held
  (`Disk.TakesLock`), or fails with `.locked` leaving the disk as it was.
* `KeepsLocks view m` says that `m` leaves every lock, and what `view` shows of its state, as
  they were; `Spec P m Q` is a pre- and postcondition. Both are closed under `bind`, so that a
  proof about a computation follows its `do` block.
* Every log computation but opening and closing keeps the locks, and so does every store
  computation but opening and closing (`Store.set_keepsLocks`, `Store.replay_keepsLocks`).
  Opening a closed log leaves it closed with the locks as they were, or open on a new handle
  that holds the lock (`Log.openFile_spec`); a failed `openStore` leaves the store closed and
  the locks as they were (`Store.openStore_spec`). Verifying a log keeps every lock
  (`verify_keepsLocks`).
-/

namespace LogStore

namespace Disk

variable {d : Disk} {h i : Nat} {x y : Handle}

/-- The file whose lock the handle `h` holds: its node, while it is open and locked. -/
def lockOf (d : Disk) (h : Nat) : Option Node :=
  (d.handle? h).bind fun x => if x.locked && !x.closed then some x.node else none

@[simp] theorem lockOf_tree (t : Tree) : ({ d with tree := t } : Disk).lockOf = d.lockOf := rfl

@[simp] theorem lockOf_faults (fs : Faults) : ({ d with faults := fs } : Disk).lockOf = d.lockOf :=
  rfl

theorem lockOf_of_handle (hx : d.handle? h = some x) :
    d.lockOf h = if x.locked && !x.closed then some x.node else none := by
  simp [lockOf, hx]

theorem lockOf_setHandle_ne (hi : i ≠ h) : (d.setHandle h y).lockOf i = d.lockOf i := by
  simp [lockOf, handle?_setHandle_ne hi]

/-- Replacing a handle by one with the same lock, state and node keeps every lock. -/
theorem lockOf_setHandle_of (hx : d.handle? h = some x) (hLocked : y.locked = x.locked)
    (hClosed : y.closed = x.closed) (hNode : y.node = x.node) :
    (d.setHandle h y).lockOf = d.lockOf := by
  funext i
  by_cases hi : i = h
  · subst hi
    rw [lockOf_of_handle (handle?_setHandle_self hx), lockOf_of_handle hx, hLocked, hClosed, hNode]
  · exact lockOf_setHandle_ne hi

/-- A handle number past the table holds no lock. -/
theorem lockOf_of_size_le (hh : d.handles.size ≤ h) : d.lockOf h = none := by
  simp [lockOf, handle?, hh]

theorem handle?_of_live (hx : d.live h = .ok x) : d.handle? h = some x := by
  unfold live at hx
  split at hx
  · split at hx
    · cases hx
    · cases hx
      assumption
  · cases hx

@[simp] theorem lockOf_seek (o : Int) (whence : Nat) : (d.seek h o whence).2.lockOf = d.lockOf := by
  unfold seek
  split
  · rfl
  · rename_i x hx
    split
    · exact lockOf_setHandle_of (handle?_of_live hx) rfl rfl rfl
    · rfl

@[simp] theorem lockOf_read (n : Nat) : (d.read h n).2.lockOf = d.lockOf := by
  unfold read
  split
  · rfl
  split
  · rfl
  · rename_i x hx
    -- every refusal leaves the disk as it was; a read inside the file moves the handle past
    -- what it took
    split
    · rfl
    split
    · rfl
    · split
      · rfl
      · dsimp only
        split
        · rfl
        · exact lockOf_setHandle_of (handle?_of_live hx) rfl rfl rfl

theorem lockOf_store {ino : Nat} (hx : d.handle? h = some x) (b : ByteArray) :
    (d.store h x ino b).lockOf = d.lockOf := by
  rw [store_eq]
  exact lockOf_setHandle_of hx rfl rfl rfl

@[simp] theorem lockOf_writeDirect (b : ByteArray) : (d.writeDirect h b).2.lockOf = d.lockOf := by
  unfold writeDirect
  split
  · rfl
  · rename_i x hx
    split
    · rfl
    · split
      · rfl
      · exact lockOf_store (handle?_of_live hx) b

@[simp] theorem lockOf_write (b : ByteArray) : (d.write h b).2.lockOf = d.lockOf := by
  unfold write
  split <;> simp

@[simp] theorem lockOf_truncate (n : Int) : (d.truncate h n).2.lockOf = d.lockOf := by
  unfold truncate
  repeat' split
  all_goals rfl

/-- Closing a handle releases its lock and no other. -/
theorem lockOf_close : (d.close h).lockOf i = if i = h then none else d.lockOf i := by
  unfold close
  split
  · rename_i x hx
    by_cases hi : i = h
    · subst hi
      simp [lockOf_of_handle (handle?_setHandle_self hx)]
    · simp [hi, lockOf_setHandle_ne hi]
  · rename_i hx
    by_cases hi : i = h
    · subst hi
      simp [lockOf, hx]
    · simp [hi]

/-- Closing a handle that holds no lock keeps every lock. -/
theorem lockOf_close_of_none (hFree : d.lockOf h = none) : (d.close h).lockOf = d.lockOf := by
  funext i
  rw [lockOf_close]
  split
  · subst i
    exact hFree.symm
  · rfl

/-- No open handle holds the lock of a node exactly when no handle's lock is on it. -/
theorem lockHeld_eq_false_iff (n : Node) : d.lockHeld n = false ↔ ∀ h, d.lockOf h ≠ some n := by
  unfold lockHeld
  rw [Array.any_eq_false]
  constructor
  · intro hNone h hLock
    obtain ⟨x, hx, hxn⟩ := Option.bind_eq_some_iff.mp hLock
    obtain ⟨hlt, rfl⟩ := Array.getElem?_eq_some_iff.mp hx
    apply hNone h hlt
    split at hxn <;> simp_all
  · intro hNone i hi hHeld
    apply hNone i
    simp only [Bool.and_eq_true, Bool.not_eq_eq_eq_not, Bool.not_true, beq_iff_eq] at hHeld
    simp [lockOf, handle?, hi, hHeld]

/-- A new handle that holds no lock leaves every lock as it was. -/
theorem lockOf_push (t : Tree) (hy : y.locked = false) :
    ({ d with tree := t, handles := d.handles.push y } : Disk).lockOf = d.lockOf := by
  funext i
  simp only [lockOf, handle?, Array.getElem?_push]
  split
  · rename_i hi
    subst hi
    simp [hy]
  · rfl

/-- Opening a path adds one handle, open and holding no lock, at the end of the table. -/
theorem openPath_ok {p : String} {flags : OpenFlags} {d' : Disk}
    (hOpen : d.openPath p flags = .ok (h, d')) :
    h = d.handles.size ∧ d'.lockOf = d.lockOf ∧
      ∃ y, d'.handle? h = some y ∧ y.locked = false ∧ y.closed = false := by
  unfold openPath at hOpen
  simp only [bind, Except.bind, pure, Except.pure] at hOpen
  repeat' split at hOpen
  all_goals first
    | (simp at hOpen; done)
    | skip
  all_goals
    simp only [Except.ok.injEq, Prod.mk.injEq] at hOpen
    obtain ⟨rfl, rfl⟩ := hOpen
    exact ⟨rfl, lockOf_push _ rfl, _, Disk.handle?_push_size _ _, rfl, rfl⟩

/-- Opening for reading only adds a handle, at the end of the table, holding no lock. -/
theorem openReading_ok {p : String} {faulty : Bool} {d' : Disk}
    (hOpen : d.openReading p faulty = .ok (h, d')) : h = d.handles.size ∧ d'.lockOf = d.lockOf := by
  unfold openReading at hOpen
  simp only [bind, Except.bind] at hOpen
  split at hOpen
  · cases hOpen
  · rename_i r hPath
    obtain ⟨h₀, d₀⟩ := r
    obtain ⟨rfl, hLock, y, hy, -, -⟩ := openPath_ok hPath
    simp only [hy, pure, Except.pure, Except.ok.injEq, Prod.mk.injEq] at hOpen
    obtain ⟨rfl, rfl⟩ := hOpen
    rw [lockOf_setHandle_of (y := { y with faulty }) hy rfl rfl rfl, hLock]
    exact ⟨rfl, rfl⟩

/-- The locks `L'` are the locks `L` and one more, at the handle `h`, on a file whose lock no
handle held in `L`. -/
structure TakesLock (L L' : Nat → Option Node) (h : Nat) : Prop where
  taken : ∃ n, L' h = some n ∧ ∀ i, L i ≠ some n
  others : ∀ i, i ≠ h → L' i = L i

/-- **Taking the lock.** Opening with the lock adds one handle, which holds the lock of a file
that no handle held; every other lock stays. -/
theorem openLocked_ok {p : String} {faulty : Bool} {d' : Disk}
    (hOpen : d.openLocked p faulty = .ok (h, d')) :
    h = d.handles.size ∧ TakesLock d.lockOf d'.lockOf h := by
  unfold openLocked at hOpen
  simp only [bind, Except.bind] at hOpen
  split at hOpen
  · cases hOpen
  · rename_i r hPath
    obtain ⟨h₀, d₀⟩ := r
    obtain ⟨rfl, hLock, y, hy, -, hClosed⟩ := openPath_ok hPath
    simp only [hy] at hOpen
    split at hOpen
    · cases hOpen
    · rename_i hFree
      simp only [pure, Except.pure, Except.ok.injEq, Prod.mk.injEq] at hOpen
      obtain ⟨rfl, rfl⟩ := hOpen
      have hFree' : d.lockHeld y.node = false := by simpa using hFree
      refine ⟨rfl, ⟨y.node, ?_, (lockHeld_eq_false_iff _).mp hFree'⟩, fun i hi => ?_⟩
      · simp [lockOf_of_handle (handle?_setHandle_self hy), hClosed]
      · rw [lockOf_setHandle_ne hi, hLock]

/-- Opening with the lock a file whose lock an open handle holds fails with `.locked`. -/
theorem openLocked_of_held {path : String} {ino : Nat} (faulty : Bool) (hPath : path ≠ "")
    (hLoc : d.tree.locate (d.place path) = .ok (some (.file ino)))
    (hHeld : d.lockHeld (.file ino) = true) :
    d.openLocked path faulty = .error (.locked path) := by
  rw [openLocked, openPath_of_file { write := true, create := true } hPath hLoc (by simp) rfl]
  simp [bind, Except.bind, handle?_push_size, hHeld]
  rfl

/-- The locks after the handle `N` opens: with `locking`, one more lock, at `N`, on a file no
handle held; without it, the locks as they were. -/
def Grants (locking : Bool) (L L' : Nat → Option Node) (N : Nat) : Prop :=
  if locking then TakesLock L L' N else L' = L

theorem grants_true {L L' : Nat → Option Node} {N : Nat} :
    Grants true L L' N ↔ TakesLock L L' N := Iff.rfl

/-- Closing the handle that opened gives the locks back as they were. -/
theorem Grants.close {locking : Bool} {L : Nat → Option Node} (hG : Grants locking L d.lockOf h)
    (hFresh : L h = none) : (d.close h).lockOf = L := by
  unfold Grants at hG
  split at hG
  · funext i
    rw [lockOf_close]
    split
    · subst i
      exact hFresh.symm
    · exact hG.others i ‹_›
  · subst hG
    exact lockOf_close_of_none hFresh

end Disk

/-- Reading through the read-ahead buffer keeps every lock. -/
theorem ReadAhead.lockOf_consumeWith (d : Disk) (h : Nat) (pending : ByteArray) (req fuel : Nat) :
    (ReadAhead.consumeWith d h pending req fuel).2.lockOf = d.lockOf := by
  induction fuel generalizing d pending req with
  | zero => cases req <;> rfl
  | succ fuel ih =>
    cases req with
    | zero => rfl
    | succ req =>
      rw [ReadAhead.consumeWith]
      dsimp only
      split
      · exact ih _ _ _
      · split
        · split
          · simp
          · rw [ih, Disk.lockOf_read]
        · split
          · simp
          · rw [ih, Disk.lockOf_read]

theorem Sys.bind_apply {α β : Type} (m : Sys α) (f : α → Sys β) (w : World) :
    (m >>= f) w = f (m w).1 (m w).2 := rfl

theorem Sys.disk_apply (w : World) : Sys.disk w = (w.disk, w) := rfl

theorem Sys.map_apply {α β : Type} (f : α → β) (m : Sys α) (w : World) :
    (f <$> m) w = (f (m w).1, (m w).2) := rfl

/-- Writing an event touches only the lines written. -/
theorem Sys.emit_eq (lg : Logger) (e : Event) (w : World) :
    Sys.emit lg e w = ((), { w with lines := (Sys.emit lg e w).2.lines }) := by
  simp only [Sys.emit, modify, modifyGet, MonadStateOf.modifyGet, StateT.modifyGet]
  split <;> rfl

@[simp] theorem Sys.emit_disk (lg : Logger) (e : Event) (w : World) :
    (Sys.emit lg e w).2.disk = w.disk := by
  rw [Sys.emit_eq]

/-! ## Computations that keep the locks -/

section Frame

variable {σ V α β : Type} {view : σ → V}

/-- `m` keeps every lock, and what `view` shows of its state, as they were. -/
def KeepsLocks (view : σ → V) (m : StateT σ Sys α) : Prop :=
  ∀ s w, view (m s w).1.2 = view s ∧ (m s w).2.disk.lockOf = w.disk.lockOf

namespace KeepsLocks

theorem bind {m : StateT σ Sys α} {f : α → StateT σ Sys β} (hm : KeepsLocks view m)
    (hf : ∀ a, KeepsLocks view (f a)) : KeepsLocks view (m >>= f) := by
  intro s w
  obtain ⟨hView, hLocks⟩ := hm s w
  obtain ⟨hView', hLocks'⟩ := hf (m s w).1.1 (m s w).1.2 (m s w).2
  exact ⟨hView'.trans hView, hLocks'.trans hLocks⟩

theorem pure (a : α) : KeepsLocks view (Pure.pure a : StateT σ Sys α) := fun _ _ => ⟨rfl, rfl⟩

theorem get : KeepsLocks view (MonadState.get : StateT σ Sys σ) := fun _ _ => ⟨rfl, rfl⟩

theorem modify {g : σ → σ} (hg : ∀ s, view (g s) = view s) :
    KeepsLocks view (modify g : StateT σ Sys PUnit) := fun s _ => ⟨hg s, rfl⟩

theorem lift {m : Sys α} (hm : ∀ w, (m w).2.disk.lockOf = w.disk.lockOf) :
    KeepsLocks view (StateT.lift m : StateT σ Sys α) := fun _ w => ⟨rfl, hm w⟩

theorem onDisk {f : Disk → α × Disk} (hf : ∀ d, (f d).2.lockOf = d.lockOf) :
    KeepsLocks view (StateT.lift (Sys.onDisk f) : StateT σ Sys α) := lift fun w => hf w.disk

theorem disk : KeepsLocks view (StateT.lift Sys.disk : StateT σ Sys Disk) := lift fun _ => rfl

theorem emit (lg : Logger) (e : Event) :
    KeepsLocks view (StateT.lift (Sys.emit lg e) : StateT σ Sys Unit) :=
  lift fun w => by rw [Sys.emit_disk]

theorem fresh : KeepsLocks view (StateT.lift Sys.fresh : StateT σ Sys Nat) := lift fun _ => rfl

end KeepsLocks

/-- A run of `m` from a state and world where `P` holds ends where `Q` holds of its result. -/
def Spec (P : σ → World → Prop) (m : StateT σ Sys α) (Q : α → σ → World → Prop) : Prop :=
  ∀ s w, P s w → Q (m s w).1.1 (m s w).1.2 (m s w).2

namespace Spec

variable {P P' : σ → World → Prop} {Q Q' : α → σ → World → Prop}

theorem bind {R : β → σ → World → Prop} {m : StateT σ Sys α} {f : α → StateT σ Sys β}
    (hm : Spec P m Q) (hf : ∀ a, Spec (Q a) (f a) R) : Spec P (m >>= f) R :=
  fun s w hP => hf _ _ _ (hm s w hP)

theorem pure {a : α} (h : ∀ s w, P s w → Q a s w) : Spec P (Pure.pure a : StateT σ Sys α) Q := h

theorem get : Spec P (MonadState.get : StateT σ Sys σ) (fun a s w => a = s ∧ P s w) :=
  fun _ _ hP => ⟨rfl, hP⟩

theorem modify {g : σ → σ} {Q : PUnit → σ → World → Prop} (h : ∀ s w, P s w → Q () (g s) w) :
    Spec P (modify g : StateT σ Sys PUnit) Q := h

theorem onDisk {f : Disk → α × Disk}
    (h : ∀ s w, P s w → Q (f w.disk).1 s { w with disk := (f w.disk).2 }) :
    Spec P (StateT.lift (Sys.onDisk f) : StateT σ Sys α) Q := h

theorem disk {Q : Disk → σ → World → Prop} (h : ∀ s w, P s w → Q w.disk s w) :
    Spec P (StateT.lift Sys.disk : StateT σ Sys Disk) Q := h

theorem setDisk {d : Disk} {Q : Unit → σ → World → Prop}
    (h : ∀ s w, P s w → Q () s { w with disk := d }) :
    Spec P (StateT.lift (Sys.setDisk d) : StateT σ Sys Unit) Q := h

theorem mono {m : StateT σ Sys α} (hm : Spec P' m Q') (hP : ∀ s w, P s w → P' s w)
    (hQ : ∀ a s w, Q' a s w → Q a s w) : Spec P m Q :=
  fun s w h => hQ _ _ _ (hm s w (hP s w h))

/-- A computation that keeps the locks keeps whatever holds of them. -/
theorem keeps {m : StateT σ Sys α} (hm : KeepsLocks view m) (R : V → (Nat → Option Node) → Prop)
    (hP : ∀ s w, P s w → R (view s) w.disk.lockOf) :
    Spec P m (fun _ s w => R (view s) w.disk.lockOf) := by
  intro s w hs
  obtain ⟨hView, hLocks⟩ := hm s w
  rw [hView, hLocks]
  exact hP s w hs

end Spec

/-- A computation keeps the locks when it keeps every value of them. -/
theorem KeepsLocks.of_spec {m : StateT σ Sys α}
    (h : ∀ v L, Spec (fun s w => view s = v ∧ w.disk.lockOf = L) m
      (fun _ s w => view s = v ∧ w.disk.lockOf = L)) : KeepsLocks view m :=
  fun s w => h (view s) w.disk.lockOf s w ⟨rfl, rfl⟩

end Frame

/-! ## The log -/

namespace Log

/-- What locking sees of a log: its handle and how it opens. -/
def lockView (l : Log) : Option Nat × Opener := (l.file, l.opener)

theorem usable_keepsLocks : KeepsLocks lockView usable := by
  unfold usable
  refine .bind .get fun l => ?_
  split <;> exact .pure _

theorem lockOf_readFully_go (h : Nat) (d : Disk) (acc : ByteArray) (n fuel : Nat) :
    (readFully.go h d acc n fuel).2.lockOf = d.lockOf := by
  induction fuel generalizing d acc with
  | zero => rfl
  | succ fuel ih =>
    rw [readFully.go]
    split
    · rfl
    · dsimp only
      split
      · simp
      · split
        · simp
        · rw [ih, Disk.lockOf_read]

theorem readFully_keepsLocks (h n : Nat) : KeepsLocks lockView (readFully h n) :=
  .onDisk fun d => lockOf_readFully_go h d _ n _

theorem emit_keepsLocks (e : Event) : KeepsLocks lockView (emit e) :=
  .bind .get fun l => .emit l.logger e

theorem seekToFirst_keepsLocks : KeepsLocks lockView seekToFirst := by
  unfold seekToFirst
  refine .bind usable_keepsLocks fun r => ?_
  split
  · exact .pure _
  · exact .bind (.modify fun _ => rfl) fun _ => .pure _

theorem size_keepsLocks : KeepsLocks lockView size := by
  unfold size
  refine .bind .get fun l => ?_
  split
  · exact .pure _
  · exact .bind .disk fun _ => .pure _

theorem read_keepsLocks : KeepsLocks lockView read := by
  unfold read
  refine .bind usable_keepsLocks fun r => ?_
  split
  · exact .pure _
  refine .bind .get fun l => ?_
  dsimp only
  -- the read-ahead buffer, or a seek to the cursor, gives the pending bytes; both then decode
  split
  case' h_1 => refine .bind (.pure _) fun pending => ?_
  case' h_2 =>
    refine .bind (.onDisk fun _ => Disk.lockOf_seek ..) fun _ => .bind (.pure _) fun pending => ?_
  all_goals
    refine .bind .disk fun d => ?_
    split
    · exact .bind (.modify fun _ => rfl) fun _ => .pure _
    · refine .bind (.modify fun _ => rfl) fun _ => ?_
      split <;> exact .pure _
    · exact .bind (.onDisk fun _ => ReadAhead.lockOf_consumeWith ..) fun _ =>
        .bind (.onDisk fun _ => ReadAhead.lockOf_consumeWith ..) fun _ =>
        .bind (.modify fun _ => rfl) fun _ => .pure _

theorem truncate_keepsLocks (n : Int) : KeepsLocks lockView (truncate n) := by
  unfold truncate
  refine .bind usable_keepsLocks fun r => ?_
  split
  · exact .pure _
  dsimp only
  split
  · exact .pure _
  refine .bind (.modify fun _ => rfl) fun _ =>
    .bind (.onDisk fun _ => Disk.lockOf_truncate ..) fun cut => ?_
  split
  · exact .pure _
  refine .bind .disk fun d => ?_
  split
  · exact .pure _
  · exact .bind (.modify fun _ => rfl) fun _ => .pure _

theorem copyRange_keepsLocks (offset n : Int) : KeepsLocks lockView (copyRange offset n) := by
  unfold copyRange
  refine .bind usable_keepsLocks fun r => ?_
  split
  · exact .pure _
  refine .bind (.modify fun _ => rfl) fun _ =>
    .bind (.onDisk fun _ => Disk.lockOf_seek ..) fun p => ?_
  split
  split
  · exact .pure _
  split
  · exact .pure _
  refine .bind (readFully_keepsLocks _ _) fun p => ?_
  split
  split <;> exact .pure _

theorem write_keepsLocks (e : Entry) : KeepsLocks lockView (write e) := by
  unfold write
  refine .bind usable_keepsLocks fun r => ?_
  split
  · exact .pure _
  split
  · exact .pure _
  refine .bind (.onDisk fun _ => Disk.lockOf_seek ..) fun p => ?_
  split
  refine .bind (.modify fun _ => rfl) fun _ =>
    .bind (.onDisk fun _ => Disk.lockOf_write ..) fun q => ?_
  split
  refine .bind .disk fun d => ?_
  dsimp only
  split
  · exact .pure _
  -- a failed append is cut back and reported; the handle stays where it is
  refine .bind (.onDisk fun _ => Disk.lockOf_truncate ..) fun cut => ?_
  split
  · exact .bind (emit_keepsLocks _) fun _ => .bind (emit_keepsLocks _) fun _ => .pure _
  · exact .bind (emit_keepsLocks _) fun _ => .pure _

theorem writeHeader_keepsLocks (h : Nat) : KeepsLocks lockView (writeHeader h) := by
  unfold writeHeader
  refine .bind (.onDisk fun _ => Disk.lockOf_seek ..) fun p => ?_
  split
  split
  · exact .pure _
  refine .bind (.onDisk fun _ => Disk.lockOf_write ..) fun q => ?_
  split
  split
  · exact .pure _
  split
  · exact .pure _
  · exact .bind .disk fun _ => .pure _

theorem readHeader_keepsLocks (h n : Nat) : KeepsLocks lockView (readHeader h n) := by
  unfold readHeader
  split
  · exact .pure _
  refine .bind (.onDisk fun _ => Disk.lockOf_seek ..) fun p => ?_
  split
  split
  · exact .pure _
  refine .bind (readFully_keepsLocks _ _) fun q => ?_
  split
  split <;> (try split) <;> exact .pure _

/-- Closing a closed log does nothing. -/
theorem close_of_closed {l : Log} {w : World} (hFile : l.file = none) : close l w = (((), l), w) := by
  simp [close, hFile, bind, StateT.bind, get, getThe, MonadStateOf.get, StateT.get, pure,
    StateT.pure]

/-- Closing an open log forgets its handle and closes it on the disk. -/
theorem close_of_some {l : Log} {w : World} {h : Nat} (hFile : l.file = some h) :
    (close l w).1.2.file = none ∧ (close l w).1.2.opener = l.opener ∧
      (close l w).2.disk = w.disk.close h := by
  simp [close, hFile, bind, StateT.bind, get, getThe, MonadStateOf.get, StateT.get, set,
    StateT.set, lift, StateT.lift, Sys.onDisk, modifyGet, MonadStateOf.modifyGet,
    StateT.modifyGet, pure, StateT.pure]

section Opening

variable (o : Opener) (L : Nat → Option Node) (N : Nat)

/-- The log holds the handle `N` that opened with `o`: it took a lock if `o` locks. -/
def Holds (v : Option Nat × Opener) (L' : Nat → Option Node) : Prop :=
  v.1 = some N ∧ v.2 = o ∧ Disk.Grants o.locking L L' N

/-- The log is closed and the locks are `L`. -/
def Shut (v : Option Nat × Opener) (L' : Nat → Option Node) : Prop :=
  v.1 = none ∧ v.2 = o ∧ L' = L

/-- How opening leaves a closed log with the opener `o`, given the locks `L` and `N` handles:
open on the handle `N`, or closed with the locks as they were and the open failed. -/
def Opens (r : Except Failure Unit) (v : Option Nat × Opener) (L' : Nat → Option Node) : Prop :=
  Holds o L N v L' ∨ Shut o L v L' ∧ ∃ f, r = .error f

/-- **Opening a closed log.** It ends open on the next handle, which takes the file's lock when
the opener locks, or closed with every lock as it was. -/
theorem openFile_spec (hFresh : L N = none) :
    Spec (fun l w => l.lockView = (none, o) ∧ w.disk.lockOf = L ∧ w.disk.handles.size = N)
      openFile (fun r l w => Opens o L N r l.lockView w.disk.lockOf) := by
  -- the disk holds the new handle, and the log does not yet know it
  let Taken : Option Nat × Opener → (Nat → Option Node) → Prop := fun v L' =>
    v.1 = none ∧ v.2 = o ∧ Disk.Grants o.locking L L' N
  have hFail : ∀ f : Failure, Spec (fun l w => Shut o L l.lockView w.disk.lockOf)
      (Pure.pure (.error f) : LogM (Except Failure Unit))
      (fun r l w => Opens o L N r l.lockView w.disk.lockOf) :=
    fun f => .pure fun _ _ hS => .inr ⟨hS, f, rfl⟩
  unfold openFile
  refine .bind .get fun l₀ => ?_
  split
  · rename_i hSome
    exact .pure fun l w ⟨rfl, hView, _⟩ => by simp [lockView] at hView; simp [hView.1] at hSome
  refine .bind (.disk (Q := fun _ l w => l₀ = l ∧ l.lockView = (none, o) ∧ w.disk.lockOf = L ∧
    w.disk.handles.size = N) fun _ _ h => h) fun d => ?_
  split
  · exact .bind (.pure (Q := fun _ (l : Log) (w : World) => Shut o L l.lockView w.disk.lockOf)
      fun l w ⟨_, hView, hL, _⟩ => by simp [lockView] at hView; exact ⟨hView.1, hView.2, hL⟩)
      fun _ => hFail _
  refine .bind (.onDisk (Q := fun r l w => l.lockView = (none, o) ∧
    (∀ f, r = .error f → w.disk.lockOf = L) ∧
    (∀ h, r = .ok h → h = N ∧ Disk.Grants o.locking L w.disk.lockOf h))
    fun l w ⟨hl, hView, hL, hN⟩ => ⟨hView, ?_⟩) fun opened => ?_
  · -- the opener decides whether the new handle takes the lock
    subst hl hL hN
    simp only [lockView, Prod.mk.injEq] at hView
    obtain ⟨-, rfl⟩ := hView
    cases hLock : l₀.opener.locking
    · simp only [Bool.false_eq_true, if_false, Disk.Grants]
      split
      · rename_i h d' hOpen
        obtain ⟨rfl, hSame⟩ := Disk.openReading_ok hOpen
        exact ⟨fun _ h => (nomatch h), fun _ h => by cases h; exact ⟨rfl, hSame⟩⟩
      · exact ⟨fun _ _ => rfl, fun _ h => (nomatch h)⟩
    · simp only [if_true, Disk.Grants]
      split
      · rename_i h d' hOpen
        obtain ⟨rfl, hT⟩ := Disk.openLocked_ok hOpen
        exact ⟨fun _ h => (nomatch h), fun _ h => by cases h; exact ⟨rfl, hT⟩⟩
      · exact ⟨fun _ _ => rfl, fun _ h => (nomatch h)⟩
  split
  · exact .bind (.pure (Q := fun _ (l : Log) (w : World) => Shut o L l.lockView w.disk.lockOf)
      fun l w ⟨hView, hL, _⟩ => by simp [lockView] at hView; exact ⟨hView.1, hView.2, hL _ rfl⟩)
      fun _ => hFail _
  rename_i h
  refine .bind (.disk (Q := fun _ l w => h = N ∧ Taken l.lockView w.disk.lockOf)
    fun l w ⟨hView, _, hG⟩ => ?_) fun d => ?_
  · simp only [lockView, Prod.mk.injEq] at hView
    obtain ⟨rfl, hGrants⟩ := hG h rfl
    exact ⟨rfl, hView.1, hView.2, hGrants⟩
  -- closing the new handle gives the locks back
  have hRelease : ∀ (d : Disk) (v : Option Nat × Opener), h = N → Taken v d.lockOf →
      Shut o L v (d.close h).lockOf := by
    rintro d v rfl ⟨hf, ho, hG⟩
    exact ⟨hf, ho, hG.close hFresh⟩
  split
  · exact .bind (.onDisk fun l w ⟨hN, hT⟩ => hRelease _ _ hN hT) fun _ => hFail _
  -- a new file gets its header and an old one has it read; the log then records the handle
  have hRecord : ∀ g : Log → Log, (∀ l, (g l).file = some h ∧ (g l).opener = l.opener) →
      Spec (fun l w => h = N ∧ Taken l.lockView w.disk.lockOf) (modify g)
        (fun _ l w => Holds o L N l.lockView w.disk.lockOf) := by
    intro g hg
    refine .modify fun l w ⟨hN, _, ho, hG⟩ => ⟨?_, ?_, hG⟩
    · exact hN ▸ (hg l).1
    · exact (hg l).2.trans ho
  have hDone : Spec (fun l w => Holds o L N l.lockView w.disk.lockOf)
      (Pure.pure (.ok ()) : LogM (Except Failure Unit))
      (fun r l w => Opens o L N r l.lockView w.disk.lockOf) :=
    .pure fun _ _ hH => .inl hH
  dsimp only
  split
  · refine .bind (.keeps (writeHeader_keepsLocks h) (fun v L' => h = N ∧ Taken v L')
      fun _ _ h => h) fun r => ?_
    split
    · refine .bind (.onDisk fun l w ⟨hN, hT⟩ => ?_) fun _ => hFail _
      exact hRelease _ _ hN (by rw [Disk.lockOf_truncate]; exact hT)
    · exact .bind (.keeps (emit_keepsLocks _) (fun v L' => h = N ∧ Taken v L') fun _ _ h => h)
        fun _ => .bind (hRecord _ fun _ => ⟨rfl, rfl⟩) fun _ => hDone
  · refine .bind (.keeps (readHeader_keepsLocks h _) (fun v L' => h = N ∧ Taken v L')
      fun _ _ h => h) fun r => ?_
    split
    · exact .bind (hRecord _ fun _ => ⟨rfl, rfl⟩) fun _ =>
        .bind (.keeps (emit_keepsLocks _) (Holds o L N) fun _ _ h => h) fun _ =>
        .pure fun _ _ hH => .inl hH
    · exact .bind (hRecord _ fun _ => ⟨rfl, rfl⟩) fun _ => hDone

/-- Closing a log that opened gives the locks back as they were. -/
theorem close_spec (hFresh : L N = none) :
    Spec (fun l w => Holds o L N l.lockView w.disk.lockOf ∨ Shut o L l.lockView w.disk.lockOf)
      close (fun _ l w => Shut o L l.lockView w.disk.lockOf) := by
  rintro l w (⟨hf, ho, hG⟩ | hS)
  · obtain ⟨hf', ho', hd⟩ := close_of_some (w := w) hf
    refine ⟨hf', ho'.trans ho, ?_⟩
    rw [hd]
    exact hG.close hFresh
  · rw [close_of_closed hS.1]
    exact hS

end Opening

/-- Opening an open log does nothing. -/
theorem openFile_of_open {l : Log} {w : World} (hOpen : l.file.isSome = true) :
    openFile l w = ((.ok (), l), w) := by
  simp [openFile, hOpen, bind, StateT.bind, get, getThe, MonadStateOf.get, StateT.get, pure,
    StateT.pure]

/-- **Locked out.** Opening a closed log, with the lock, on a file whose lock an open handle
holds fails with `.locked` and changes nothing. -/
theorem openFile_of_held {l : Log} {w : World} {ino : Nat} (hClosed : l.file = none)
    (hLocking : l.opener.locking = true) (hPath : l.path ≠ "")
    (hLoc : w.disk.tree.locate (w.disk.place l.path) = .ok (some (.file ino)))
    (hHeld : w.disk.lockHeld (.file ino) = true) :
    openFile l w = ((.error (.within ("open log " ++ l.path) (.locked l.path)), l), w) := by
  have hStat := Disk.stat_of_file hPath hLoc
  have hOpen := Disk.openLocked_of_held l.opener.faulty hPath hLoc hHeld
  simp only [openFile, get, getThe, MonadStateOf.get, StateT.get, bind, StateT.bind, hClosed,
    Option.isSome_none, Bool.false_eq_true, ↓reduceIte, lift, StateT.lift, Sys.disk, hStat,
    Sys.onDisk, modifyGet, MonadStateOf.modifyGet, StateT.modifyGet, hLocking, hOpen, pure,
    StateT.pure]

end Log

/-! ## The store -/

namespace Store

variable {α : Type}

/-- What locking sees of a store: its log's handle and opener, and whether it is open. -/
def lockView (s : Store) : (Option Nat × Opener) × Bool := (s.log.lockView, s.isOpen)

theorem onLog_apply (m : LogM α) (s : Store) (w : World) :
    onLog m s w = (((m s.log w).1.1, { s with log := (m s.log w).1.2 }), (m s.log w).2) := rfl

theorem onLog_keepsLocks {m : LogM α} (hm : KeepsLocks Log.lockView m) :
    KeepsLocks lockView (onLog m) := by
  intro s w
  obtain ⟨hView, hLocks⟩ := hm s.log w
  rw [onLog_apply]
  exact ⟨by simp only [lockView, hView], hLocks⟩

theorem onLog_spec {P : Log → World → Prop} {m : LogM α} {Q : α → Log → World → Prop}
    (hm : Spec P m Q) (b : Bool) :
    Spec (fun s w => P s.log w ∧ s.isOpen = b) (onLog m) (fun a s w => Q a s.log w ∧ s.isOpen = b) :=
  fun s w ⟨hP, hOpen⟩ => ⟨hm s.log w hP, hOpen⟩

/-- Copying bytes to a sidecar opens, writes and closes a handle of its own, which holds no
lock: every lock stays. -/
theorem preserve_keepsLocks (offset n : Nat) : KeepsLocks lockView (preserve offset n) := by
  refine .of_spec fun v L => ?_
  unfold preserve
  refine .bind .get fun s₀ => .bind (.keeps .fresh (fun v' L' => v' = v ∧ L' = L) fun _ _ h => h.2)
    fun _ => .bind (.disk (Q := fun d s w => d = w.disk ∧ lockView s = v ∧ w.disk.lockOf = L)
    fun _ _ h => ⟨rfl, h⟩) fun d => ?_
  split
  · exact .pure fun _ _ ⟨_, h⟩ => h
  rename_i h d' hOpen
  obtain ⟨hN, hSame, -⟩ := Disk.openPath_ok hOpen
  -- the sidecar's handle is new, so it holds no lock, now or after the copy
  let Free : (Option Nat × Opener) × Bool → (Nat → Option Node) → Prop := fun v' L' =>
    v' = v ∧ L' = L ∧ L h = none
  refine .bind (.setDisk (Q := fun _ s w => Free (lockView s) w.disk.lockOf)
    fun s w ⟨hd, hv, hL⟩ => ⟨hv, ?_, ?_⟩) fun _ => ?_
  · subst hd
    exact hSame.trans hL
  · subst hd hL hN
    exact Disk.lockOf_of_size_le le_rfl
  refine .bind (.keeps (onLog_keepsLocks (Log.copyRange_keepsLocks _ _)) Free fun _ _ h => h)
    fun p => ?_
  split
  refine .bind (.keeps (.onDisk fun _ => by simp) Free fun _ _ h => h)
    fun _ => ?_
  split
  · refine .bind (.onDisk fun s w ⟨hv, hL, hFree⟩ => ⟨hv, ?_⟩) fun _ => .pure fun _ _ h => h
    simp only [Disk.lockOf_tree]
    rw [Disk.lockOf_close_of_none (hL ▸ hFree), hL]
  · refine .bind (.onDisk fun s w ⟨hv, hL, hFree⟩ => ⟨hv, ?_⟩) fun _ => .pure fun _ _ h => h
    rw [Disk.lockOf_close_of_none (hL ▸ hFree), hL]

theorem recover_keepsLocks (cause : Failure) (r : Recovery) :
    KeepsLocks lockView (recover cause r) := by
  unfold recover
  refine .bind .get fun s => ?_
  dsimp only
  -- where the damage stops decides whether the cut bytes go to a sidecar first
  split
  all_goals
    split
    · refine .bind (preserve_keepsLocks _ _) fun p => ?_
      split
      · exact .pure _
      · refine .bind (onLog_keepsLocks (Log.truncate_keepsLocks _)) fun q => ?_
        split <;> exact .pure _
    · refine .bind (onLog_keepsLocks (Log.truncate_keepsLocks _)) fun q => ?_
      split <;> exact .pure _

theorem replayFrom_keepsLocks (r : Recovery) (fuel : Nat) :
    KeepsLocks lockView (replayFrom r fuel) := by
  induction fuel generalizing r with
  | zero => exact .pure _
  | succ fuel ih =>
    rw [replayFrom]
    refine .bind (onLog_keepsLocks Log.read_keepsLocks) fun res => ?_
    split
    · exact .pure _
    · exact .bind (.modify fun _ => rfl) fun _ => ih _
    · split
      · exact recover_keepsLocks _ _
      · exact .bind .get fun _ => .pure _

theorem replay_keepsLocks : KeepsLocks lockView replay := by
  unfold replay
  refine .bind (onLog_keepsLocks Log.size_keepsLocks) fun res => ?_
  split
  · exact .pure _
  refine .bind (.modify fun _ => rfl) fun _ => .bind (onLog_keepsLocks Log.seekToFirst_keepsLocks)
    fun res => ?_
  split
  · exact .pure _
  refine .bind (replayFrom_keepsLocks _ _) fun res => ?_
  split
  · exact .pure _
  · exact .bind .get fun _ => .pure _

theorem set_keepsLocks (key value : ByteArray) (mode : SetMode) :
    KeepsLocks lockView (set key value mode) := by
  unfold set
  refine .bind .get fun s => ?_
  split
  · exact .pure _
  split
  · exact .pure _
  dsimp only
  split
  · exact .pure _
  split
  · exact .pure _
  refine .bind (onLog_keepsLocks (Log.write_keepsLocks _)) fun res => ?_
  split
  · exact .pure _
  · exact .bind (.modify fun _ => rfl) fun _ => .pure _

theorem delete_keepsLocks (key : ByteArray) : KeepsLocks lockView (delete key) := by
  unfold delete
  refine .bind .get fun s => ?_
  split
  · exact .pure _
  split
  · exact .pure _
  refine .bind (onLog_keepsLocks (Log.write_keepsLocks _)) fun res => ?_
  split
  · exact .pure _
  · exact .bind (.modify fun _ => rfl) fun _ => .pure _

/-- Closing a closed store does nothing. -/
theorem close_of_closed {s : Store} {w : World} (hClosed : s.isOpen = false) :
    close s w = (((), s), w) := by
  simp [close, hClosed, bind, StateT.bind, get, getThe, MonadStateOf.get, StateT.get, pure,
    StateT.pure]

/-- Closing an open store closes its log, releasing the log's handle. -/
theorem close_of_open {s : Store} {w : World} {h : Nat} (hOpen : s.isOpen = true)
    (hFile : s.log.file = some h) :
    lockView (close s w).1.2 = ((none, s.log.opener), false) ∧
      (close s w).2.disk = w.disk.close h := by
  obtain ⟨hf, ho, hd⟩ := Log.close_of_some (w := w) hFile
  simp only [close, hOpen, bind, StateT.bind, get, getThe, MonadStateOf.get, StateT.get,
    Bool.not_true, Bool.false_eq_true, ↓reduceIte, modify, modifyGet, MonadStateOf.modifyGet,
    StateT.modifyGet, onLog_apply, lift, StateT.lift, pure, StateT.pure]
  rw [Sys.emit_eq]
  exact ⟨by simp [lockView, Log.lockView, hf, ho], by simp [hd]⟩


section Opening

variable (o : Opener) (L : Nat → Option Node) (N : Nat)

/-- How opening leaves a closed store: open, with its log on the handle `N`; or, when the open
failed, closed with the locks as they were. -/
def Opens : Except Failure α → (Option Nat × Opener) × Bool → (Nat → Option Node) → Prop
  | .ok _, v, L' => Log.Holds o L N v.1 L' ∧ v.2 = true
  | .error _, v, L' => Log.Shut o L v.1 L' ∧ v.2 = false

/-- **Opening a closed store.** It ends open on the next handle, which holds the file's lock
when the opener locks; or, whatever made it fail (the path, a held lock, the size, the
header, the replay, the recovery), closed with every lock as it was. -/
theorem openStore_spec (hFresh : L N = none) :
    Spec (fun s w => lockView s = ((none, o), false) ∧ w.disk.lockOf = L ∧ w.disk.handles.size = N)
      openStore (fun r s w => Opens o L N r (lockView s) w.disk.lockOf) := by
  unfold openStore
  refine .bind .get fun s₀ => ?_
  split
  · rename_i hOpen
    exact .pure fun s w ⟨hs, hView, _⟩ => by
      subst hs
      simp [lockView] at hView
      simp [hView.2] at hOpen
  refine .bind (.mono (onLog_spec (Log.openFile_spec o L N hFresh) false)
    (fun s w ⟨_, hView, hL, hN⟩ => ?_) fun _ _ _ h => h) fun r => ?_
  · simp only [lockView, Prod.mk.injEq] at hView
    exact ⟨⟨hView.1, hL, hN⟩, hView.2⟩
  split
  · -- the log did not open, or opened on a refused header: closing it gives back any lock
    refine .bind (.mono (onLog_spec (Log.close_spec o L N hFresh) false)
      (fun s w ⟨hOpens, hOpen⟩ => ⟨hOpens.imp_right And.left, hOpen⟩) fun _ _ _ h => h) fun _ => ?_
    exact .pure fun _ _ h => h
  -- the log opened on `N`, since a refused header fails the open
  refine .bind (.keeps replay_keepsLocks
    (fun (v : (Option Nat × Opener) × Bool) L' => Log.Holds o L N v.1 L' ∧ v.2 = false)
    fun s w ⟨hOpens, hOpen⟩ => ?_) fun r => ?_
  · rcases hOpens with hH | ⟨-, f, hf⟩
    · exact ⟨hH, hOpen⟩
    · cases hf
  split
  · refine .bind (.modify (Q := fun _ s w => Log.Holds o L N (lockView s).1 w.disk.lockOf ∧
      (lockView s).2 = false) fun _ _ h => h) fun _ => ?_
    refine .bind (.mono (onLog_spec (Log.close_spec o L N hFresh) false)
      (fun _ _ h => ⟨.inl h.1, h.2⟩) fun _ _ _ h => h) fun _ => ?_
    exact .pure fun _ _ h => h
  · refine .bind (.modify (Q := fun _ s w => Log.Holds o L N (lockView s).1 w.disk.lockOf ∧
      (lockView s).2 = true) fun _ _ h => ⟨h.1, rfl⟩) fun _ => ?_
    refine .bind (.keeps (.emit _ _)
      (fun (v : (Option Nat × Opener) × Bool) L' => Log.Holds o L N v.1 L' ∧ v.2 = true)
      fun _ _ h => h) fun _ => ?_
    exact .pure fun _ _ h => h

end Opening

/-- Opening an open store does nothing but count its keys. -/
theorem openStore_of_open {s : Store} {w : World} (hOpen : s.isOpen = true) :
    openStore s w = ((.ok { keys := s.keys.size }, s), w) := by
  simp [openStore, hOpen, bind, StateT.bind, get, getThe, MonadStateOf.get, StateT.get, pure,
    StateT.pure]

/-- **Locked out.** Opening a closed store, with the lock, on a file whose lock an open handle
holds fails with `.locked` and changes nothing. -/
theorem openStore_of_held {s : Store} {w : World} {ino : Nat} (hClosed : s.isOpen = false)
    (hFile : s.log.file = none) (hLocking : s.log.opener.locking = true) (hPath : s.log.path ≠ "")
    (hLoc : w.disk.tree.locate (w.disk.place s.log.path) = .ok (some (.file ino)))
    (hHeld : w.disk.lockHeld (.file ino) = true) :
    openStore s w =
      ((.error (.within ("open log " ++ s.log.path) (.locked s.log.path)), s), w) := by
  have hOpen := Log.openFile_of_held (w := w) hFile hLocking hPath hLoc hHeld
  simp only [openStore, get, getThe, MonadStateOf.get, StateT.get, bind, StateT.bind, hClosed,
    Bool.false_eq_true, ↓reduceIte, onLog_apply, hOpen, Log.close_of_closed hFile, pure,
    StateT.pure]
  obtain ⟨path, log, keys, logger, isOpen⟩ := s
  cases hClosed
  rfl

end Store

theorem scanFrom_keepsLocks (keys : KeyDir) (rep : VerifyReport) (fuel : Nat) :
    KeepsLocks Log.lockView (scanFrom keys rep fuel) := by
  induction fuel generalizing keys rep with
  | zero => exact .bind .get fun _ => .pure _
  | succ fuel ih =>
    rw [scanFrom]
    refine .bind Log.read_keepsLocks fun r => ?_
    split
    · exact .bind .get fun _ => .pure _
    · exact ih _ _
    · refine .bind .get fun _ => ?_
      dsimp only
      split
      · exact .pure _
      split
      · split <;> exact .pure _
      · exact .pure _

theorem verify_keepsLocks (path : String) (lg : Logger) (o : Opener) (w : World) :
    (verify path lg o w).2.disk.lockOf = w.disk.lockOf := by
  unfold verify
  rw [Sys.bind_apply, Sys.disk_apply]
  rcases hStat : w.disk.stat path with f | ⟨_ | ino, size⟩
  · rfl
  · rfl
  dsimp only
  split
  · rfl
  rw [Sys.bind_apply]
  -- the scan opens the log, reads it and closes it: whatever it took, it gives back
  have hFresh : w.disk.lockOf w.disk.handles.size = none := Disk.lockOf_of_size_le le_rfl
  refine (?_ : Spec (fun l w' => l.lockView = (none, o) ∧ w'.disk.lockOf = w.disk.lockOf ∧
    w'.disk.handles.size = w.disk.handles.size) _ (fun _ _ w' => w'.disk.lockOf = w.disk.lockOf))
    (Log.create path lg o) w ⟨rfl, rfl, rfl⟩
  refine .bind (Log.openFile_spec o _ _ hFresh) fun r => ?_
  split
  · exact .bind (.mono (Log.close_spec o _ _ hFresh) (fun _ _ h => h.imp_right And.left)
      fun _ _ _ h => h) fun _ => .pure fun _ _ h => h.2.2
  let Opened : Option Nat × Opener → (Nat → Option Node) → Prop := fun v L' =>
    Log.Holds o w.disk.lockOf w.disk.handles.size v L' ∨ Log.Shut o w.disk.lockOf v L'
  refine .bind (.keeps Log.size_keepsLocks Opened fun _ _ h => h.imp_right And.left) fun n => ?_
  split
  · exact .bind (.pure fun _ _ h => h) fun _ =>
      .bind (Log.close_spec o _ _ hFresh) fun _ => .pure fun _ _ h => h.2.2
  · exact .bind (.keeps (scanFrom_keepsLocks _ _ _) Opened fun _ _ h => h) fun _ =>
      .bind (Log.close_spec o _ _ hFresh) fun _ => .pure fun _ _ h => h.2.2

end LogStore
