import LogStore.Proofs.Cursor
import LogStore.Proofs.Locks
import LogStore.Proofs.Mirror

/-!
# The life of a log

A log is closed, open on a file whose header it refused, or open and usable. Every call but
opening, closing and the size first asks whether the log is usable, and a log that is not
answers at once with the reason, changing nothing: a closed log fails as closed, a log with a
refused header fails with the header's failure. Opening an open log does nothing and succeeds.

* `Log.phase` reads the three states off the log. `Log.Op` is a call at any point of a log's
  life, `Op.perform` makes it, `Op.performAll` makes several.
* `Op.performAll_of_refused`: on a log whose header was refused, any run of calls without a
  close answers every call with the header's failure (opening again succeeds, a size reads the
  file's size), and changes neither the log nor the world. `Op.performAll_of_closed`: on a
  closed log, any run of calls without an open answers every call as closed and changes nothing.
* `openFile_ok`: opening succeeds only on a log that is then usable, or on a log already open,
  which it leaves as it was. A log whose header was refused is such a log: opening it again
  succeeds and leaves it refusing every use.
* `log_life_cycle`: opening a log on an empty file writes exactly the header and leaves the log
  usable; opening it on a file whose header is refused fails with that refusal and keeps failing
  every use with it until the log is closed, changing no file; closing it changes no file, and a
  closed log fails every call as closed and changes nothing until it is opened.
* `reopen_after_refused_header`: a second open of a log whose header was refused succeeds, and
  the log still refuses to read.
-/

namespace LogStore

namespace Log

/-- Where a log stands in its life. -/
inductive Phase where
  | closed
  /-- Open on a file whose header was refused with `f`. -/
  | refused (f : Failure)
  | usable

/-- The phase of a log: closed without a file, refused while it keeps the header's failure,
usable otherwise. -/
def phase (l : Log) : Phase :=
  match l.file, l.headerError with
  | none, _ => .closed
  | some _, some f => .refused f
  | some _, none => .usable

/-- A call at any point of a log's life: opening, closing, or a call on the open log. -/
inductive Op where
  | openFile
  | close
  | call (c : Call)

/-- What an op answers. -/
inductive Reply where
  | opened (r : Except Failure Unit)
  | closed
  | answered (a : Answer)

namespace Op

/-- Makes the op. -/
def perform : Op → LogM Reply
  | .openFile => do return .opened (← Log.openFile)
  | .close => do Log.close; return .closed
  | .call c => do return .answered (← c.perform)

/-- Makes the ops one after another. -/
def performAll : List Op → LogM (List Reply)
  | [] => return []
  | op :: ops => do
    let r ← op.perform
    return r :: (← performAll ops)

end Op

/-- The answer to a call on a log whose every use fails with `f`, its cursor at `offset`; a size
reads `sz`. -/
def Call.refusal (f : Failure) (offset : Nat) (sz : Except Failure Nat) : Call → Answer
  | .write _ => .wrote (.error f)
  | .read => .read (.error f) offset
  | .seekToFirst => .sought (.error f)
  | .truncate _ => .cut (.error f) offset
  | .copyRange _ _ => .copied (ByteArray.empty, some f)
  | .size => .sized sz

/-- What a log whose header was refused with `f` answers, its cursor at `offset` and its file
of size `sz`: opening again succeeds, a size reads the file, every other call fails with `f`. -/
def Op.refusedReply (f : Failure) (offset : Nat) (sz : Except Failure Nat) : Op → Reply
  | .openFile => .opened (.ok ())
  | .close => .closed
  | .call c => .answered (c.refusal f offset sz)

/-- What a closed log answers, its cursor at `offset`: closing again does nothing, every call
fails as closed. Opening is not among them: it opens the log. -/
def Op.closedReply (offset : Nat) : Op → Reply
  | .openFile => .opened (.ok ())
  | .close => .closed
  | .call c => .answered (c.refusal .logClosed offset (.error .logClosed))

variable {l : Log} {w : World} {h : Nat} {f : Failure}

@[simp] theorem Op.performAll_nil : Op.performAll [] l w = (([], l), w) := rfl

@[simp] theorem Op.performAll_cons (op : Op) (ops : List Op) :
    Op.performAll (op :: ops) l w =
      (((op.perform l w).1.1 :: (Op.performAll ops (op.perform l w).1.2 (op.perform l w).2).1.1,
        (Op.performAll ops (op.perform l w).1.2 (op.perform l w).2).1.2),
        (Op.performAll ops (op.perform l w).1.2 (op.perform l w).2).2) :=
  rfl

theorem phase_eq_refused (hFile : l.file = some h) (hf : l.headerError = some f) :
    l.phase = .refused f := by
  simp [phase, hFile, hf]

theorem phase_eq_usable (hFile : l.file = some h) (hf : l.headerError = none) :
    l.phase = .usable := by
  simp [phase, hFile, hf]

theorem phase_eq_closed (hFile : l.file = none) : l.phase = .closed := by
  simp [phase, hFile]

theorem file_of_phase_refused (hp : l.phase = .refused f) :
    ∃ h, l.file = some h ∧ l.headerError = some f := by
  unfold phase at hp
  split at hp
  · cases hp
  · cases hp
    exact ⟨_, ‹_›, ‹_›⟩
  · cases hp

theorem file_of_phase_closed (hp : l.phase = .closed) : l.file = none := by
  unfold phase at hp
  split at hp
  · assumption
  · cases hp
  · cases hp

/-! ## A log that cannot be used -/

theorem usable_of_closed (hFile : l.file = none) : usable l w = ((.error .logClosed, l), w) := by
  simp [usable, hFile, bind, StateT.bind, get, getThe, MonadStateOf.get, StateT.get, pure,
    StateT.pure]

theorem usable_of_refused (hFile : l.file = some h) (hf : l.headerError = some f) :
    usable l w = ((.error f, l), w) := by
  simp [usable, hFile, hf, bind, StateT.bind, get, getThe, MonadStateOf.get, StateT.get, pure,
    StateT.pure]

theorem write_of_unusable (hu : usable l w = ((.error f, l), w)) (e : Entry) :
    write e l w = ((.error f, l), w) := by
  simp [write, hu, bind, StateT.bind, pure, StateT.pure]

theorem read_of_unusable (hu : usable l w = ((.error f, l), w)) :
    read l w = ((.error f, l), w) := by
  simp [read, hu, bind, StateT.bind, pure, StateT.pure]

theorem seekToFirst_of_unusable (hu : usable l w = ((.error f, l), w)) :
    seekToFirst l w = ((.error f, l), w) := by
  simp [seekToFirst, hu, bind, StateT.bind, pure, StateT.pure]

theorem truncate_of_unusable (hu : usable l w = ((.error f, l), w)) (n : Int) :
    truncate n l w = ((.error f, l), w) := by
  simp [truncate, hu, bind, StateT.bind, pure, StateT.pure]

theorem copyRange_of_unusable (hu : usable l w = ((.error f, l), w)) (o n : Int) :
    copyRange o n l w = (((ByteArray.empty, some f), l), w) := by
  simp [copyRange, hu, bind, StateT.bind, pure, StateT.pure]

/-- **Refused before anything is touched.** On a log that is not usable, every call but the
size answers why, and changes neither the log nor the world. -/
theorem Call.perform_of_unusable (hu : usable l w = ((.error f, l), w)) (sz : Except Failure Nat)
    (c : Call) (hc : c ≠ .size) : c.perform l w = ((c.refusal f l.readOffset sz, l), w) := by
  cases c with
  | write e => simp [write_of_unusable hu, Call.refusal]
  | read => simp [read_of_unusable hu, Call.refusal]
  | seekToFirst => simp [seekToFirst_of_unusable hu, Call.refusal]
  | truncate n => simp [truncate_of_unusable hu, Call.refusal]
  | copyRange o n => simp [copyRange_of_unusable hu, Call.refusal]
  | size => exact absurd rfl hc

theorem size_of_closed (hFile : l.file = none) : size l w = ((.error .logClosed, l), w) := by
  simp [size, hFile, bind, StateT.bind, get, getThe, MonadStateOf.get, StateT.get, pure,
    StateT.pure]

/-- The size reads the file through the handle, whatever the header was. -/
theorem size_of_file (hFile : l.file = some h) : size l w = ((w.disk.size h, l), w) := by
  simp [size, hFile, bind, StateT.bind, get, getThe, MonadStateOf.get, StateT.get, pure,
    StateT.pure, lift, StateT.lift, Sys.disk]

/-- One op on a log whose header was refused, other than closing it: the refusal, and nothing
changes. -/
theorem Op.perform_of_refused (hFile : l.file = some h) (hf : l.headerError = some f) (op : Op)
    (hop : op ≠ .close) :
    op.perform l w = ((op.refusedReply f l.readOffset (w.disk.size h), l), w) := by
  cases op with
  | openFile =>
    simp [Op.perform, openFile_of_open (by simp [hFile] : l.file.isSome = true), refusedReply,
      bind, StateT.bind, pure, StateT.pure]
  | close => exact absurd rfl hop
  | call c =>
    by_cases hc : c = .size
    · subst hc
      simp [Op.perform, Call.perform, size_of_file hFile, refusedReply, Call.refusal, bind,
        StateT.bind, pure, StateT.pure]
    · simp [Op.perform, Call.perform_of_unusable (usable_of_refused hFile hf) (w.disk.size h) c hc,
        refusedReply, bind, StateT.bind, pure, StateT.pure]

/-- One op on a closed log, other than opening it: closed, and nothing changes. -/
theorem Op.perform_of_closed (hFile : l.file = none) (op : Op) (hop : op ≠ .openFile) :
    op.perform l w = ((op.closedReply l.readOffset, l), w) := by
  cases op with
  | openFile => exact absurd rfl hop
  | close =>
    simp [Op.perform, close_of_closed hFile, closedReply, bind, StateT.bind, pure, StateT.pure]
  | call c =>
    by_cases hc : c = .size
    · subst hc
      simp [Op.perform, Call.perform, size_of_closed hFile, closedReply, Call.refusal, bind,
        StateT.bind, pure, StateT.pure]
    · simp [Op.perform, Call.perform_of_unusable (usable_of_closed hFile) (.error .logClosed) c hc,
        closedReply, bind, StateT.bind, pure, StateT.pure]

/-- **A refused header holds until the log is closed.** On a log whose header was refused, every
run of ops without a close answers each op with the refusal and changes neither the log nor the
world, so no file changes. -/
theorem Op.performAll_of_refused (hFile : l.file = some h) (hf : l.headerError = some f)
    (ops : List Op) (hops : Op.close ∉ ops) :
    Op.performAll ops l w =
      ((ops.map (Op.refusedReply f l.readOffset (w.disk.size h)), l), w) := by
  induction ops with
  | nil => rfl
  | cons op ops ih =>
    -- the op changes nothing, so the log is still refused for the rest of the run
    have hop : op ≠ .close := fun h' => hops (h' ▸ List.mem_cons_self)
    rw [Op.performAll_cons, Op.perform_of_refused hFile hf op hop,
      ih fun h' => hops (List.mem_cons_of_mem _ h')]
    rfl

/-- **A closed log stays closed until it is opened.** On a closed log, every run of ops without
an open answers each op as closed and changes neither the log nor the world. -/
theorem Op.performAll_of_closed (hFile : l.file = none) (ops : List Op)
    (hops : Op.openFile ∉ ops) :
    Op.performAll ops l w = ((ops.map (Op.closedReply l.readOffset), l), w) := by
  induction ops with
  | nil => rfl
  | cons op ops ih =>
    have hop : op ≠ .openFile := fun h' => hops (h' ▸ List.mem_cons_self)
    rw [Op.performAll_cons, Op.perform_of_closed hFile op hop,
      ih fun h' => hops (List.mem_cons_of_mem _ h')]
    rfl

/-- Closing an open log leaves it closed and changes no file. -/
theorem close_of_file (hFile : l.file = some h) :
    (close l w).1.2.phase = .closed ∧ (close l w).2.disk.tree = w.disk.tree := by
  obtain ⟨hClosed, -, hDisk⟩ := close_of_some (w := w) hFile
  exact ⟨phase_eq_closed hClosed, by rw [hDisk, Disk.tree_close]⟩

/-! ## Opening -/

theorem Spec.anything {σ α : Type} {P : σ → World → Prop} (m : StateT σ Sys α) :
    Spec P m (fun _ _ _ => True) :=
  fun _ _ _ => trivial

/-- Opening a closed log succeeds only when the log is then usable. -/
theorem openFile_ok_usable :
    Spec (fun l _ => l.file = none) openFile (fun r l _ => r = .ok () → l.phase = .usable) := by
  -- a failed open is no concern, and an open that succeeds last records the new handle with no
  -- header failure
  have hFail : ∀ f : Failure, Spec (fun (_ : Log) _ => True)
      (Pure.pure (.error f) : LogM (Except Failure Unit))
      (fun r l _ => r = .ok () → l.phase = .usable) :=
    fun f => .pure fun _ _ _ h => nomatch h
  have hRecord : ∀ (h : Nat) (g : Log → Log),
      (∀ l, (g l).file = some h ∧ (g l).headerError = none) →
      Spec (fun (_ : Log) _ => True) (modify g) (fun _ l _ => l.phase = .usable) :=
    fun h g hg => .modify fun l _ _ => phase_eq_usable (hg l).1 (hg l).2
  unfold openFile
  refine .bind .get fun l₀ => ?_
  split
  · rename_i hSome
    exact .pure fun l w ⟨hl, hNone⟩ => by simp [hl, hNone] at hSome
  refine .bind (Spec.anything _) fun d => ?_
  split
  · exact hFail _
  refine .bind (Spec.anything _) fun opened => ?_
  split
  · exact hFail _
  rename_i h
  refine .bind (Spec.anything _) fun d => ?_
  split
  · exact .bind (Spec.anything _) fun _ => hFail _
  dsimp only
  -- an empty file gets its header, any other has it read
  split
  · refine .bind (Spec.anything _) fun r => ?_
    split
    · exact .bind (Spec.anything _) fun _ => hFail _
    · exact .bind (Spec.anything _) fun _ =>
        .bind (hRecord h _ fun _ => ⟨rfl, rfl⟩) fun _ => .pure fun _ _ h _ => h
  · refine .bind (Spec.anything _) fun r => ?_
    split
    · exact .bind (Spec.anything _) fun _ => .bind (Spec.anything _) fun _ => hFail _
    · exact .bind (hRecord h _ fun _ => ⟨rfl, rfl⟩) fun _ => .pure fun _ _ h _ => h

/-- **Opening succeeds only on a log that is then usable, or on one already open**, which it
leaves as it was, refused header included. -/
theorem openFile_ok (hOk : (openFile l w).1.1 = .ok ()) :
    (openFile l w).1.2.phase = .usable ∨ l.file.isSome ∧ openFile l w = ((.ok (), l), w) := by
  cases hFile : l.file with
  | none => exact .inl (openFile_ok_usable l w hFile hOk)
  | some h => exact .inr ⟨rfl, openFile_of_open (by simp [hFile])⟩

theorem Header.encode_eq : Header.encode = ⟨#[0x42, 0x44, 0x56, 0x4B, 2, 0]⟩ := rfl

section Open

variable {ino : Nat}

/-- Opening a log on an empty file writes exactly the header, and the log is usable. -/
theorem openFile_of_empty_file (hO : l.CanOpen w ino)
    (hEmpty : w.disk.tree.contents ino = ByteArray.empty) :
    (openFile l w).1.1 = .ok () ∧ (openFile l w).1.2.phase = .usable ∧
      (openFile l w).2.disk.tree.contents ino = Header.encode := by
  obtain ⟨w', hOpen, -, hDisk⟩ := openFile_of_empty hO hEmpty
  rw [hOpen, hDisk]
  exact ⟨rfl, phase_eq_usable rfl rfl, Tree.contents_setContents_self ..⟩

/-- Opening a log on a file whose header `headerFailure` refuses fails with a wrong magic number
or a newer version, leaves the log refusing with it, and changes no file. -/
theorem openFile_of_refused_header (hO : l.CanOpen w ino)
    (hNonempty : (w.disk.tree.contents ino).size ≠ 0)
    (hRefused : headerFailure (w.disk.tree.contents ino) = some f) :
    ((∃ m, f = .badMagic m) ∨ (∃ v, Header.version < v ∧ f = .unsupportedVersion v)) ∧
      (openFile l w).1.1 = .error f ∧ (openFile l w).1.2.phase = .refused f ∧
      (openFile l w).1.2.readOffset = l.readOffset ∧
      (openFile l w).2.disk.tree = w.disk.tree := by
  obtain ⟨p, w', hOpen, -, hDisk⟩ := openFile_of_refused hO hNonempty hRefused
  rw [hOpen, hDisk]
  exact ⟨headerFailure_cases hRefused, rfl, phase_eq_refused rfl rfl, rfl, rfl⟩

end Open

/-! ## The life cycle -/

/-- What a log does through its life. -/
structure LifeCycle : Prop where
  /-- Opening on an empty file succeeds, writes exactly the six bytes of the header (the magic
  number `0x4B564442` and the version 2, little-endian) and leaves the log usable. -/
  createsHeader : ∀ (l : Log) (w : World) ino, l.CanOpen w ino →
    w.disk.tree.contents ino = ByteArray.empty →
    (openFile l w).1.1 = .ok () ∧ (openFile l w).1.2.phase = .usable ∧
      (openFile l w).2.disk.tree.contents ino = ⟨#[0x42, 0x44, 0x56, 0x4B, 2, 0]⟩
  /-- Opening on a file whose header is refused fails with a wrong magic number or a newer
  version, changes no file, and leaves the log refusing with that failure. -/
  refusesHeader : ∀ (l : Log) (w : World) ino f, l.CanOpen w ino →
    (w.disk.tree.contents ino).size ≠ 0 → headerFailure (w.disk.tree.contents ino) = some f →
    ((∃ m, f = .badMagic m) ∨ (∃ v, Header.version < v ∧ f = .unsupportedVersion v)) ∧
      (openFile l w).1.1 = .error f ∧ (openFile l w).1.2.phase = .refused f ∧
      (openFile l w).2.disk.tree = w.disk.tree
  /-- Opening succeeds only when the log is then usable, or was open already and is left as it
  was: a log refusing its header, opened again, succeeds and keeps refusing. -/
  openOk : ∀ (l : Log) (w : World), (openFile l w).1.1 = .ok () →
    (openFile l w).1.2.phase = .usable ∨ l.file.isSome ∧ openFile l w = ((.ok (), l), w)
  /-- Until it is closed, a log refusing its header answers every call but the size with the
  header's failure, and changes neither itself nor the world. -/
  refusedRuns : ∀ (l : Log) (w : World) f ops, l.phase = .refused f → Op.close ∉ ops →
    Op.performAll ops l w = ((ops.map (Op.refusedReply f l.readOffset (size l w).1.1), l), w)
  /-- Closing a log refusing its header closes it and changes no file. -/
  closesRefused : ∀ (l : Log) (w : World) f, l.phase = .refused f →
    (close l w).1.2.phase = .closed ∧ (close l w).2.disk.tree = w.disk.tree
  /-- Until it is opened, a closed log answers every call as closed, and changes neither itself
  nor the world. -/
  closedRuns : ∀ (l : Log) (w : World) ops, l.phase = .closed → Op.openFile ∉ ops →
    Op.performAll ops l w = ((ops.map (Op.closedReply l.readOffset), l), w)

/-- **The life of a log.** An empty file gets exactly the header and a usable log; a refused
header fails the open and every later use until the log is closed, a second open succeeding all
the same; neither a log refusing its header nor a closed one changes a file. -/
theorem log_life_cycle : LifeCycle where
  createsHeader l w ino hO hEmpty := by
    rw [← Header.encode_eq]
    exact openFile_of_empty_file hO hEmpty
  refusesHeader l w ino f hO hNonempty hRefused := by
    obtain ⟨hCases, hOpen, hPhase, -, hTree⟩ := openFile_of_refused_header hO hNonempty hRefused
    exact ⟨hCases, hOpen, hPhase, hTree⟩
  openOk l w hOk := openFile_ok hOk
  refusedRuns l w f ops hp hops := by
    obtain ⟨h, hFile, hf⟩ := file_of_phase_refused hp
    rw [size_of_file hFile]
    exact Op.performAll_of_refused hFile hf ops hops
  closesRefused l w f hp := by
    obtain ⟨h, hFile, -⟩ := file_of_phase_refused hp
    exact close_of_file hFile
  closedRuns l w ops hp hops := Op.performAll_of_closed (file_of_phase_closed hp) ops hops

@[simp] theorem Op.perform_openFile :
    Op.openFile.perform l w =
      ((.opened (Log.openFile l w).1.1, (Log.openFile l w).1.2), (Log.openFile l w).2) :=
  rfl

/-- **Opening twice past a refused header.** Open a log on a file that starts with a wrong magic
number: the open fails. Open it again: the open succeeds, yet the log still refuses to read,
with the same failure. -/
theorem reopen_after_refused_header :
    let w : World := { disk := { cwd := "/", tree :=
      { nodes := [(["db"], .file 0)], inodes := [(0, ⟨#[0xde, 0xad, 0xbe, 0xef, 2, 0]⟩)],
        nextIno := 1 } } }
    let l := Log.create "/db" .nop {}
    (Op.performAll [.openFile, .openFile, .call .read] l w).1.1 =
      [.opened (.error (.badMagic "magic 0xefbeadde")), .opened (.ok ()),
        .answered (.read (.error (.badMagic "magic 0xefbeadde")) 0)] := by
  intro w l
  have hO : l.CanOpen w 0 := ⟨by decide, by cbv, rfl, rfl, by cbv, .inl rfl⟩
  have hContents : w.disk.tree.contents 0 = ⟨#[0xde, 0xad, 0xbe, 0xef, 2, 0]⟩ := rfl
  -- the first four bytes read as 0xefbeadde, not the magic number
  have hRefused : headerFailure (w.disk.tree.contents 0) = some (.badMagic "magic 0xefbeadde") := by
    have hSize : (⟨#[0xde, 0xad, 0xbe, 0xef, 2, 0]⟩ : ByteArray).size = 6 := rfl
    have hMagic : Bytes.readLE (ByteArray.extract ⟨#[0xde, 0xad, 0xbe, 0xef, 2, 0]⟩ 0 6) 0 4 =
        0xefbeadde := by decide
    have hHex : Text.hexPadded 0xefbeadde 8 = "efbeadde" := by decide
    simp [hContents, headerFailure, Header.check, Header.size, hSize, hMagic, hHex, Header.magic]
  obtain ⟨-, hOpen, hPhase, hOffset, -⟩ :=
    openFile_of_refused_header hO (by rw [hContents]; decide) hRefused
  obtain ⟨h, hFile, hf⟩ := file_of_phase_refused hPhase
  rw [Op.performAll_cons, Op.perform_openFile, Op.performAll_of_refused hFile hf _ (by simp),
    hOpen, hOffset]
  rfl

end Log

end LogStore
