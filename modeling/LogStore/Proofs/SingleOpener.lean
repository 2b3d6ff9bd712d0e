import LogStore.Proofs.Locks
import LogStore.Proofs.Cursor

/-!
# One open client per file

Any number of logs and stores, each opening its file with the lock, make their calls in any
order, with verifications of logs and changes of the injected faults in between. Then the locks
on the disk are exactly the clients' own:

* a client holds a lock exactly while it says it is open, and every lock on the disk is an open
  client's (`OneOpener.open_iff_locked`, `OneOpener.locks_are_clients`);
* two open clients never hold the lock of one file (`OneOpener.one_per_file`), and a closed
  client opening a file whose lock another client holds fails with `.locked` and changes nothing
  (`OneOpener.locked_out`);
* a store whose open fails is left closed, holding no lock, with every lock as it was
  (`OneOpener.failed_open_unlocks`), whatever the failure: the path, a held lock, the size, the
  header, the replay or the recovery;
* a verification takes no lock and leaves every lock as it was (`OneOpener.verify_keeps`).

The invariant behind it is `LocksFollow`; each call moves the caller's handle and the locks in
one of three ways (`LockMove`): nothing, a new handle taking a free lock, or a handle releasing
its own.
-/

namespace LogStore

/-- A log or a store, each opening its own file. -/
inductive Client where
  | log (l : Log)
  | store (s : Store)

namespace Client

/-- The log through which the client opens its file. -/
def logOf : Client → Log
  | log l => l
  | store s => s.log

/-- The handle of the client's file, while it is open. -/
def file (c : Client) : Option Nat := c.logOf.file

/-- How the client opens its file. -/
def opener (c : Client) : Opener := c.logOf.opener

/-- The path of the client's file. -/
def path (c : Client) : String := c.logOf.path

/-- Whether the client says it is open. -/
def isOpen : Client → Bool
  | log l => l.isOpen
  | store s => s.isOpen

end Client

/-- A call a client makes. A call of the other kind of client does nothing. -/
inductive Action where
  | openLog
  | closeLog
  | logCall (c : Log.Call)
  | openStore
  | closeStore
  | set (key value : ByteArray) (mode : SetMode)
  | delete (key : ByteArray)

/-- The failure a call returned, if any. -/
def failureOf {α : Type} : Except Failure α → Option Failure
  | .error f => some f
  | .ok _ => none

namespace Action

/-- Makes the call: the failure it returned, and the client after it. -/
def perform : Action → Client → Sys (Option Failure × Client)
  | openLog, .log l => Prod.map failureOf .log <$> Log.openFile l
  | closeLog, .log l => Prod.map (fun _ => none) .log <$> Log.close l
  | logCall c, .log l => Prod.map (fun _ => none) .log <$> c.perform l
  | openStore, .store s => Prod.map failureOf .store <$> Store.openStore s
  | closeStore, .store s => Prod.map (fun _ => none) .store <$> Store.close s
  | set key value mode, .store s => Prod.map failureOf .store <$> Store.set key value mode s
  | delete key, .store s => Prod.map failureOf .store <$> Store.delete key s
  | _, c => pure (none, c)

end Action

/-- The call that opens a client. -/
def Client.opening : Client → Action
  | log _ => .openLog
  | store _ => .openStore

/-- One step of a run. -/
inductive Step where
  /-- The client numbered `i` makes a call. -/
  | call (i : Nat) (a : Action)
  /-- A log is verified, through an opener that takes no lock. -/
  | verify (path : String) (logger : Logger) (faulty : Bool)
  /-- The injected faults change. -/
  | inject (fs : Faults)

namespace Step

/-- Takes the step: the failure it returned, if any, and the clients after it. -/
def run : Step → (Nat → Client) → Sys (Option Failure × (Nat → Client))
  | call i a, cs => Prod.map id (Function.update cs i) <$> a.perform (cs i)
  | verify path logger faulty, cs =>
    (fun r => (r.2, cs)) <$> LogStore.verify path logger { locking := false, faulty }
  | inject fs, cs => fun w => ((none, cs), { w with disk := { w.disk with faults := fs } })

theorem run_call (i : Nat) (a : Action) (cs : Nat → Client) (w : World) :
    (call i a).run cs w =
      (((a.perform (cs i) w).1.1, Function.update cs i (a.perform (cs i) w).1.2),
        (a.perform (cs i) w).2) := rfl

/-- Takes the steps one after another. -/
def runAll : List Step → (Nat → Client) → Sys (Nat → Client)
  | [], cs => pure cs
  | st :: sts, cs => st.run cs >>= fun r => runAll sts r.2

end Step


/-! ## How one call moves the locks -/

/-- How one call moves the caller's handle and the locks, with `N` handles on the disk: not at
all; a closed caller opens on the handle `N`, which takes a lock no handle held; or the caller
closes its handle `h`, which releases its lock and no other. -/
inductive LockMove (N : Nat) :
    Option Nat → Option Nat → (Nat → Option Node) → (Nat → Option Node) → Prop
  | keep (file : Option Nat) (L : Nat → Option Node) : LockMove N file file L L
  | take {L L' : Nat → Option Node} (hT : Disk.TakesLock L L' N) : LockMove N none (some N) L L'
  | release (h : Nat) {L L' : Nat → Option Node} (hL : ∀ i, L' i = if i = h then none else L i) :
      LockMove N (some h) none L L'

namespace Client

/-- What one call does to its caller `c`, which it leaves as `c'`, and to the world: the
opener stays, the caller says it is open exactly while it has a handle, and the locks move as
`LockMove` allows. -/
structure Moves (c c' : Client) (w w' : World) : Prop where
  opener : c'.opener = c.opener
  isOpen : c'.isOpen = c'.file.isSome
  locks : LockMove w.disk.handles.size c.file c'.file w.disk.lockOf w'.disk.lockOf

variable {w : World}

theorem Moves.keep {c c' : Client} {w' : World} (hOpener : c'.opener = c.opener)
    (hFile : c'.file = c.file) (hIsOpen : c'.isOpen = c.isOpen) (hOpen : c.isOpen = c.file.isSome)
    (hLocks : w'.disk.lockOf = w.disk.lockOf) : c.Moves c' w w' where
  opener := hOpener
  isOpen := by rw [hIsOpen, hFile, hOpen]
  locks := by
    rw [hFile, hLocks]
    exact .keep _ _

/-- A log computation that keeps the locks moves nothing. -/
theorem Moves.of_log {α : Type} {m : LogM α} (hm : KeepsLocks Log.lockView m) (l : Log) :
    (log l).Moves (log (m l w).1.2) w (m l w).2 := by
  obtain ⟨hView, hLocks⟩ := hm l w
  have hFile : (m l w).1.2.file = l.file := congrArg Prod.fst hView
  have hOpener : (m l w).1.2.opener = l.opener := congrArg Prod.snd hView
  exact .keep hOpener hFile (congrArg Option.isSome hFile) rfl hLocks

/-- A store computation that keeps the locks moves nothing. -/
theorem Moves.of_store {α : Type} {m : StoreM α} (hm : KeepsLocks Store.lockView m) (s : Store)
    (hOpen : s.isOpen = s.log.file.isSome) :
    (store s).Moves (store (m s w).1.2) w (m s w).2 := by
  obtain ⟨hView, hLocks⟩ := hm s w
  have hFile : (m s w).1.2.log.file = s.log.file := congrArg (·.1.1) hView
  have hOpener : (m s w).1.2.log.opener = s.log.opener := congrArg (·.1.2) hView
  have hIsOpen : (m s w).1.2.isOpen = s.isOpen := congrArg Prod.snd hView
  exact .keep hOpener hFile hIsOpen hOpen hLocks

theorem openLog_moves (l : Log) (hLocking : l.opener.locking = true) :
    (log l).Moves (log (Log.openFile l w).1.2) w (Log.openFile l w).2 := by
  cases hFile : l.file with
  | some h =>
    rw [Log.openFile_of_open (by simp [hFile])]
    exact .keep rfl rfl rfl rfl rfl
  | none =>
    have hSpec := Log.openFile_spec l.opener w.disk.lockOf w.disk.handles.size
      (Disk.lockOf_of_size_le le_rfl) l w ⟨by simp [Log.lockView, hFile], rfl, rfl⟩
    rcases hSpec with ⟨hf, ho, hG⟩ | ⟨⟨hf, ho, hL⟩, -⟩
    · -- the log opened on the next handle, which took the lock
      have hf' : (Log.openFile l w).1.2.file = some w.disk.handles.size := hf
      rw [hLocking] at hG
      refine ⟨ho, by simp [isOpen, Log.isOpen, file, logOf, hf'], ?_⟩
      show LockMove _ l.file (Log.openFile l w).1.2.file _ _
      rw [hFile, hf']
      exact .take hG
    · have hf' : (Log.openFile l w).1.2.file = none := hf
      exact .keep ho (hf'.trans hFile.symm) (congrArg Option.isSome (hf'.trans hFile.symm)) rfl hL

theorem closeLog_moves (l : Log) :
    (log l).Moves (log (Log.close l w).1.2) w (Log.close l w).2 := by
  cases hFile : l.file with
  | none =>
    rw [Log.close_of_closed hFile]
    exact .keep rfl rfl rfl rfl rfl
  | some h =>
    obtain ⟨hf, ho, hd⟩ := Log.close_of_some (w := w) hFile
    refine ⟨ho, by simp [isOpen, Log.isOpen, file, logOf, hf], ?_⟩
    show LockMove _ l.file (Log.close l w).1.2.file _ _
    rw [hFile, hf]
    exact .release h fun i => by rw [hd, Disk.lockOf_close]

theorem openStore_moves (s : Store) (hLocking : s.log.opener.locking = true)
    (hOpen : s.isOpen = s.log.file.isSome) :
    (store s).Moves (store (Store.openStore s w).1.2) w (Store.openStore s w).2 := by
  cases hIsOpen : s.isOpen with
  | true =>
    rw [Store.openStore_of_open hIsOpen]
    exact .keep rfl rfl rfl (by simpa [isOpen, file, logOf] using hOpen) rfl
  | false =>
    have hFile : s.log.file = none := by simpa [hIsOpen] using hOpen
    have hSpec := Store.openStore_spec s.log.opener w.disk.lockOf w.disk.handles.size
      (Disk.lockOf_of_size_le le_rfl) s w
      ⟨by simp [Store.lockView, Log.lockView, hFile, hIsOpen], rfl, rfl⟩
    generalize Store.openStore s w = r at hSpec
    obtain ⟨⟨_ | _, s'⟩, w'⟩ := r
    · -- the open failed: the store is closed and the locks are as they were
      obtain ⟨⟨hf, ho, hL⟩, hClosed⟩ := hSpec
      have hf' : s'.log.file = none := hf
      exact .keep ho (hf'.trans hFile.symm) (hClosed.trans hIsOpen.symm)
        (by simp [isOpen, file, logOf, hIsOpen, hFile]) hL
    · -- the store opened on the next handle, which took the lock
      obtain ⟨⟨hf, ho, hG⟩, hOpened⟩ := hSpec
      have hf' : s'.log.file = some w.disk.handles.size := hf
      have hOpened' : s'.isOpen = true := hOpened
      rw [hLocking] at hG
      refine ⟨ho, by simp [isOpen, file, logOf, hf', hOpened'], ?_⟩
      show LockMove _ s.log.file s'.log.file _ _
      rw [hFile, hf']
      exact .take hG

theorem closeStore_moves (s : Store) (hOpen : s.isOpen = s.log.file.isSome) :
    (store s).Moves (store (Store.close s w).1.2) w (Store.close s w).2 := by
  cases hIsOpen : s.isOpen with
  | false =>
    rw [Store.close_of_closed hIsOpen]
    exact .keep rfl rfl rfl (by simpa [isOpen, file, logOf] using hOpen) rfl
  | true =>
    obtain ⟨h, hFile⟩ := Option.isSome_iff_exists.mp (hIsOpen ▸ hOpen).symm
    obtain ⟨hView, hd⟩ := Store.close_of_open (w := w) hIsOpen hFile
    have hf : (Store.close s w).1.2.log.file = none := congrArg (·.1.1) hView
    have ho : (Store.close s w).1.2.log.opener = s.log.opener := congrArg (·.1.2) hView
    have hClosed : (Store.close s w).1.2.isOpen = false := congrArg Prod.snd hView
    refine ⟨ho, by simp [isOpen, file, logOf, hf, hClosed], ?_⟩
    show LockMove _ s.log.file (Store.close s w).1.2.log.file _ _
    rw [hFile, hf]
    exact .release h fun i => by rw [hd, Disk.lockOf_close]

end Client

theorem Log.Call.perform_keepsLocks (c : Log.Call) : KeepsLocks Log.lockView c.perform := by
  cases c with
  | write e => exact .bind (Log.write_keepsLocks e) fun _ => .pure _
  | read => exact .bind Log.read_keepsLocks fun _ => .bind .get fun _ => .pure _
  | seekToFirst => exact .bind Log.seekToFirst_keepsLocks fun _ => .pure _
  | truncate n => exact .bind (Log.truncate_keepsLocks _) fun _ => .bind .get fun _ => .pure _
  | copyRange o n => exact .bind (Log.copyRange_keepsLocks o n) fun _ => .pure _
  | size => exact .bind Log.size_keepsLocks fun _ => .pure _

/-- **One call.** Whatever a client calls, it moves its own handle and the locks only as
`LockMove` allows. -/
theorem Action.perform_moves (a : Action) {c : Client} (hLocking : c.opener.locking = true)
    (hOpen : c.isOpen = c.file.isSome) (w : World) :
    c.Moves (a.perform c w).1.2 w (a.perform c w).2 := by
  cases a <;> cases c
  all_goals first
    | exact .keep rfl rfl rfl hOpen rfl
    | skip
  case openLog.log l => exact Client.openLog_moves l hLocking
  case closeLog.log l => exact Client.closeLog_moves l
  case logCall.log c l => exact .of_log (Log.Call.perform_keepsLocks c) l
  case openStore.store s => exact Client.openStore_moves s hLocking hOpen
  case closeStore.store s => exact Client.closeStore_moves s hOpen
  case set.store key value mode s => exact .of_store (Store.set_keepsLocks key value mode) s hOpen
  case delete.store key s => exact .of_store (Store.delete_keepsLocks key) s hOpen


/-! ## The invariant -/

/-- The locks `L` are the clients' own: every client opens with the lock and says it is open
exactly while it has a handle; an open client's handle holds a lock; every lock is a client's
handle's; no two clients share a handle; and no two handles hold one file's lock. -/
structure LocksFollow (cs : Nat → Client) (L : Nat → Option Node) : Prop where
  locking : ∀ i, (cs i).opener.locking = true
  isOpen : ∀ i, (cs i).isOpen = (cs i).file.isSome
  held : ∀ i h, (cs i).file = some h → (L h).isSome
  owned : ∀ h n, L h = some n → ∃ i, (cs i).file = some h
  distinct : ∀ i j h, (cs i).file = some h → (cs j).file = some h → i = j
  single : ∀ h h' n, L h = some n → L h' = some n → h = h'

theorem Client.file_update (cs : Nat → Client) (i : Nat) (c : Client) (j : Nat) :
    (Function.update cs i c j).file = if j = i then c.file else (cs j).file := by
  rw [Function.update_apply]
  split <;> rfl

namespace LocksFollow

variable {cs : Nat → Client} {L L' : Nat → Option Node} {N i : Nat} {c : Client}

/-- Closed clients that all lock, and no lock on the disk. -/
theorem init (hLocking : ∀ i, (cs i).opener.locking = true)
    (hClosed : ∀ i, (cs i).isOpen = false ∧ (cs i).file = none) (hFree : ∀ h, L h = none) :
    LocksFollow cs L where
  locking := hLocking
  isOpen i := by rw [(hClosed i).1, (hClosed i).2]; rfl
  held i h hh := by simp [(hClosed i).2] at hh
  owned h n hn := by simp [hFree h] at hn
  distinct i j h hi := by simp [(hClosed i).2] at hi
  single h h' n hn := by simp [hFree h] at hn

/-- The caller's opener and its word on being open stay right after any call. -/
theorem update_opener (hInv : LocksFollow cs L) (hOpener : c.opener = (cs i).opener)
    (hIsOpen : c.isOpen = c.file.isSome) (j : Nat) :
    (Function.update cs i c j).opener.locking = true ∧
      (Function.update cs i c j).isOpen = (Function.update cs i c j).file.isSome := by
  rw [Function.update_apply]
  split
  · subst j
    exact ⟨hOpener ▸ hInv.locking i, hIsOpen⟩
  · exact ⟨hInv.locking j, hInv.isOpen j⟩

/-- A call that moves nothing keeps the invariant. -/
theorem update_keep (hInv : LocksFollow cs L) (hOpener : c.opener = (cs i).opener)
    (hIsOpen : c.isOpen = c.file.isSome) (hFile : c.file = (cs i).file) :
    LocksFollow (Function.update cs i c) L := by
  have hFiles : ∀ j, (Function.update cs i c j).file = (cs j).file := by
    intro j
    rw [Client.file_update]
    split
    · subst j
      exact hFile
    · rfl
  refine ⟨fun j => (hInv.update_opener hOpener hIsOpen j).1,
    fun j => (hInv.update_opener hOpener hIsOpen j).2, ?_, ?_, ?_, hInv.single⟩
  · intro j h hh
    exact hInv.held j h ((hFiles j).symm.trans hh)
  · intro h n hn
    obtain ⟨j, hj⟩ := hInv.owned h n hn
    exact ⟨j, (hFiles j).trans hj⟩
  · intro j k h hj hk
    exact hInv.distinct j k h ((hFiles j).symm.trans hj) ((hFiles k).symm.trans hk)

/-- A closed client opening on the new handle `N`, which takes a free lock, keeps the
invariant. -/
theorem update_take (hInv : LocksFollow cs L) (hFresh : L N = none)
    (hOpener : c.opener = (cs i).opener) (hIsOpen : c.isOpen = c.file.isSome)
    (hClosed : (cs i).file = none) (hFile : c.file = some N) (hT : Disk.TakesLock L L' N) :
    LocksFollow (Function.update cs i c) L' := by
  obtain ⟨n₀, hTaken, hFree⟩ := hT.taken
  -- no other client has the handle `N`: its lock was free
  have hOther : ∀ j h, (cs j).file = some h → h ≠ N := by
    intro j h hj hEq
    rw [hEq] at hj
    simpa [hFresh] using hInv.held j N hj
  have hKeep : ∀ h, h ≠ N → L' h = L h := hT.others
  refine ⟨fun j => (hInv.update_opener hOpener hIsOpen j).1,
    fun j => (hInv.update_opener hOpener hIsOpen j).2, ?_, ?_, ?_, ?_⟩
  · intro j h hh
    rw [Client.file_update] at hh
    split at hh
    · rw [hFile] at hh
      cases hh
      simp [hTaken]
    · rw [hKeep h (hOther j h hh)]
      exact hInv.held j h hh
  · intro h n hn
    by_cases hN : h = N
    · exact ⟨i, by rw [Client.file_update, if_pos rfl, hFile, hN]⟩
    · obtain ⟨j, hj⟩ := hInv.owned h n (hKeep h hN ▸ hn)
      have hji : j ≠ i := by rintro rfl; simp [hClosed] at hj
      exact ⟨j, by rw [Client.file_update, if_neg hji, hj]⟩
  · intro j k h hj hk
    rw [Client.file_update] at hj hk
    split at hj <;> split at hk
    · subst j k
      rfl
    · rw [hFile] at hj
      cases hj
      exact absurd rfl (hOther k N hk)
    · rw [hFile] at hk
      cases hk
      exact absurd rfl (hOther j N hj)
    · exact hInv.distinct j k h hj hk
  · intro h h' n hn hn'
    by_cases hN : h = N <;> by_cases hN' : h' = N
    · rw [hN, hN']
    · rw [hN, hTaken] at hn
      cases hn
      exact absurd (hKeep h' hN' ▸ hn') (hFree h')
    · rw [hN', hTaken] at hn'
      cases hn'
      exact absurd (hKeep h hN ▸ hn) (hFree h)
    · exact hInv.single h h' n (hKeep h hN ▸ hn) (hKeep h' hN' ▸ hn')

/-- A client closing its handle `h`, which releases its lock and no other, keeps the
invariant. -/
theorem update_release {h : Nat} (hInv : LocksFollow cs L) (hOpener : c.opener = (cs i).opener)
    (hIsOpen : c.isOpen = c.file.isSome) (hOpen : (cs i).file = some h) (hFile : c.file = none)
    (hL : ∀ k, L' k = if k = h then none else L k) :
    LocksFollow (Function.update cs i c) L' := by
  -- the other clients keep their handles, none of which is `h`
  have hOther : ∀ j h', j ≠ i → (Function.update cs i c j).file = some h' →
      (cs j).file = some h' ∧ h' ≠ h := by
    intro j h' hji hj
    rw [Client.file_update, if_neg hji] at hj
    refine ⟨hj, ?_⟩
    rintro rfl
    exact hji (hInv.distinct j i h' hj hOpen)
  have hCaller : ∀ h', (Function.update cs i c i).file ≠ some h' := by
    intro h'
    rw [Client.file_update, if_pos rfl, hFile]
    simp
  have hSub : ∀ k n, L' k = some n → k ≠ h ∧ L k = some n := by
    intro k n hk
    rw [hL] at hk
    split at hk
    · cases hk
    · exact ⟨‹_›, hk⟩
  refine ⟨fun j => (hInv.update_opener hOpener hIsOpen j).1,
    fun j => (hInv.update_opener hOpener hIsOpen j).2, ?_, ?_, ?_, ?_⟩
  · intro j h' hj
    by_cases hji : j = i
    · subst j
      exact absurd hj (hCaller h')
    · obtain ⟨hj', hne⟩ := hOther j h' hji hj
      rw [hL, if_neg hne]
      exact hInv.held j h' hj'
  · intro k n hk
    obtain ⟨hne, hk'⟩ := hSub k n hk
    obtain ⟨j, hj⟩ := hInv.owned k n hk'
    have hji : j ≠ i := by
      rintro rfl
      rw [hOpen] at hj
      exact hne (Option.some.inj hj).symm
    exact ⟨j, by rw [Client.file_update, if_neg hji, hj]⟩
  · intro j k h' hj hk
    by_cases hji : j = i
    · subst j
      exact absurd hj (hCaller h')
    by_cases hki : k = i
    · subst k
      exact absurd hk (hCaller h')
    exact hInv.distinct j k h' (hOther j h' hji hj).1 (hOther k h' hki hk).1
  · intro k k' n hk hk'
    exact hInv.single k k' n (hSub k n hk).2 (hSub k' n hk').2

/-- **One step.** Every call, verification and change of faults keeps the invariant. -/
theorem step {w : World} (hInv : LocksFollow cs w.disk.lockOf) (st : Step) :
    LocksFollow (st.run cs w).1.2 (st.run cs w).2.disk.lockOf := by
  cases st with
  | call i a =>
    obtain ⟨hOpener, hIsOpen, hMove⟩ :=
      a.perform_moves (hInv.locking i) (hInv.isOpen i) w
    have hFresh : w.disk.lockOf w.disk.handles.size = none := Disk.lockOf_of_size_le le_rfl
    show LocksFollow (Function.update cs i (a.perform (cs i) w).1.2) (a.perform (cs i) w).2.disk.lockOf
    -- the caller's handle and the locks move in one of three ways
    generalize hf : (cs i).file = f at hMove
    generalize hf' : (a.perform (cs i) w).1.2.file = f' at hMove
    generalize w.disk.lockOf = L at hMove hInv hFresh
    generalize (a.perform (cs i) w).2.disk.lockOf = L' at hMove ⊢
    cases hMove with
    | keep => exact hInv.update_keep hOpener hIsOpen (hf'.trans hf.symm)
    | take hT => exact hInv.update_take hFresh hOpener hIsOpen hf hf' hT
    | release h hL => exact hInv.update_release hOpener hIsOpen hf hf' hL
  | verify path lg faulty =>
    show LocksFollow cs (LogStore.verify path lg _ w).2.disk.lockOf
    rw [verify_keepsLocks]
    exact hInv
  | inject fs => exact hInv

/-- **Every run.** The invariant holds after any steps. -/
theorem runAll {w : World} (hInv : LocksFollow cs w.disk.lockOf) (sts : List Step) :
    LocksFollow (Step.runAll sts cs w).1 (Step.runAll sts cs w).2.disk.lockOf := by
  induction sts generalizing cs w with
  | nil => exact hInv
  | cons st sts ih => exact ih (hInv.step st)

end LocksFollow


/-! ## One opener per file -/

/-- What the locks promise in a state of the clients and the world, and of the step taken
next. -/
structure OneOpener (cs : Nat → Client) (w : World) : Prop where
  /-- A client holds a lock exactly while it says it is open. -/
  open_iff_locked : ∀ i, (cs i).isOpen = true ↔
    ∃ h n, (cs i).file = some h ∧ w.disk.lockOf h = some n
  /-- Every lock on the disk is an open client's. -/
  locks_are_clients : ∀ h n, w.disk.lockOf h = some n →
    ∃ i, (cs i).isOpen = true ∧ (cs i).file = some h
  /-- Two clients never hold the lock of one file. -/
  one_per_file : ∀ i j hi hj n, (cs i).file = some hi → (cs j).file = some hj →
    w.disk.lockOf hi = some n → w.disk.lockOf hj = some n → i = j
  /-- A closed client opening a file whose lock a handle holds (an open client's, by
  `locks_are_clients`) fails with `.locked` and changes nothing. -/
  locked_out : ∀ i h ino, (cs i).isOpen = false → w.disk.lockOf h = some (.file ino) →
    (cs i).path ≠ "" →
    w.disk.tree.locate (w.disk.place (cs i).path) = .ok (some (.file ino)) →
    (Step.call i (cs i).opening).run cs w =
      ((some (.within ("open log " ++ (cs i).path) (.locked (cs i).path)), cs), w)
  /-- A store whose open fails is left closed, holding no lock, and every lock is as it
  was. -/
  failed_open_unlocks : ∀ i s f, cs i = .store s →
    ((Step.call i .openStore).run cs w).1.1 = some f →
    (((Step.call i .openStore).run cs w).1.2 i).isOpen = false ∧
      (((Step.call i .openStore).run cs w).1.2 i).file = none ∧
      ((Step.call i .openStore).run cs w).2.disk.lockOf = w.disk.lockOf
  /-- A verification changes no client and no lock. -/
  verify_keeps : ∀ path logger faulty,
    ((Step.verify path logger faulty).run cs w).1.2 = cs ∧
      ((Step.verify path logger faulty).run cs w).2.disk.lockOf = w.disk.lockOf

namespace LocksFollow

variable {cs : Nat → Client} {w : World}

theorem open_iff_locked (hInv : LocksFollow cs w.disk.lockOf) (i : Nat) :
    (cs i).isOpen = true ↔ ∃ h n, (cs i).file = some h ∧ w.disk.lockOf h = some n := by
  rw [hInv.isOpen i, Option.isSome_iff_exists]
  constructor
  · rintro ⟨h, hh⟩
    obtain ⟨n, hn⟩ := Option.isSome_iff_exists.mp (hInv.held i h hh)
    exact ⟨h, n, hh, hn⟩
  · rintro ⟨h, -, hh, -⟩
    exact ⟨h, hh⟩

theorem locked_out (hInv : LocksFollow cs w.disk.lockOf) {i h ino : Nat}
    (hClosed : (cs i).isOpen = false) (hLock : w.disk.lockOf h = some (.file ino)) (hPath : (cs i).path ≠ "")
    (hLoc : w.disk.tree.locate (w.disk.place (cs i).path) = .ok (some (.file ino))) :
    (Step.call i (cs i).opening).run cs w =
      ((some (.within ("open log " ++ (cs i).path) (.locked (cs i).path)), cs), w) := by
  have hFile : (cs i).file = none := by
    simpa [hClosed] using (hInv.isOpen i).symm
  have hHeld : w.disk.lockHeld (.file ino) = true := by
    cases hFree : w.disk.lockHeld (.file ino)
    · exact absurd hLock ((Disk.lockHeld_eq_false_iff _).mp hFree h)
    · rfl
  have hLocking := hInv.locking i
  rw [Step.run_call]
  -- the opening call fails at once, so the caller is put back as it was
  cases hc : cs i with
  | log l =>
    rw [hc] at hFile hLocking hPath hLoc
    have hOpen := Log.openFile_of_held (w := w) (l := l) hFile hLocking hPath hLoc hHeld
    have hSame : Function.update cs i (Client.log l) = cs := by
      rw [← hc]
      exact Function.update_eq_self i cs
    simp only [Client.opening, Action.perform, Sys.map_apply, hOpen, Prod.map, hSame]
    rfl
  | store s =>
    rw [hc] at hClosed hFile hLocking hPath hLoc
    have hOpen := Store.openStore_of_held (w := w) (s := s) hClosed hFile hLocking hPath hLoc hHeld
    have hSame : Function.update cs i (Client.store s) = cs := by
      rw [← hc]
      exact Function.update_eq_self i cs
    simp only [Client.opening, Action.perform, Sys.map_apply, hOpen, Prod.map, hSame]
    rfl

theorem failed_open_unlocks (hInv : LocksFollow cs w.disk.lockOf) {i : Nat} {s : Store}
    {f : Failure} (hs : cs i = .store s) (hFail : ((Step.call i .openStore).run cs w).1.1 = some f) :
    (((Step.call i .openStore).run cs w).1.2 i).isOpen = false ∧
      (((Step.call i .openStore).run cs w).1.2 i).file = none ∧
      ((Step.call i .openStore).run cs w).2.disk.lockOf = w.disk.lockOf := by
  have hOpen : s.isOpen = s.log.file.isSome := by
    have := hInv.isOpen i
    rw [hs] at this
    exact this
  rw [Step.run_call] at hFail ⊢
  simp only [Function.update_self]
  rw [hs] at hFail ⊢
  simp only [Action.perform, Sys.map_apply, Prod.map] at hFail ⊢
  cases hIsOpen : s.isOpen with
  | true =>
    rw [Store.openStore_of_open hIsOpen] at hFail
    cases hFail
  | false =>
    have hFile : s.log.file = none := by simpa [hIsOpen] using hOpen
    have hSpec := Store.openStore_spec s.log.opener w.disk.lockOf w.disk.handles.size
      (Disk.lockOf_of_size_le le_rfl) s w
      ⟨by simp [Store.lockView, Log.lockView, hFile, hIsOpen], rfl, rfl⟩
    generalize Store.openStore s w = r at hSpec hFail
    obtain ⟨⟨_ | _, s'⟩, w'⟩ := r
    · obtain ⟨⟨hf, -, hL⟩, hClosed⟩ := hSpec
      exact ⟨hClosed, hf, hL⟩
    · cases hFail

/-- The invariant gives everything the locks promise. -/
theorem oneOpener (hInv : LocksFollow cs w.disk.lockOf) : OneOpener cs w where
  open_iff_locked := hInv.open_iff_locked
  locks_are_clients h n hn := by
    obtain ⟨i, hi⟩ := hInv.owned h n hn
    exact ⟨i, by rw [hInv.isOpen i, hi]; rfl, hi⟩
  one_per_file i j hi hj n hFi hFj hni hnj := by
    have hh : hi = hj := hInv.single hi hj n hni hnj
    subst hh
    exact hInv.distinct i j hi hFi hFj
  locked_out _ _ _ := hInv.locked_out
  failed_open_unlocks _ _ _ := hInv.failed_open_unlocks
  verify_keeps path lg faulty := ⟨rfl, verify_keepsLocks path lg _ w⟩

end LocksFollow

/-- **One opener per file.** Logs and stores that all open their files with the lock, all closed
at first on a disk where no lock is held, make their calls in any order, with verifications and
changes of the injected faults in between. After any run, a client holds a lock exactly while it
says it is open, every lock is an open client's, no two clients hold one file's lock, opening
a file another client holds fails with `.locked` and changes nothing, a store whose open fails
holds no lock and leaves every lock as it was, and a verification changes no lock. -/
theorem one_opener_per_file {cs : Nat → Client} {w : World}
    (hLocking : ∀ i, (cs i).opener.locking = true)
    (hClosed : ∀ i, (cs i).isOpen = false ∧ (cs i).file = none)
    (hFree : ∀ h, w.disk.lockOf h = none) (steps : List Step) :
    OneOpener (Step.runAll steps cs w).1 (Step.runAll steps cs w).2 :=
  ((LocksFollow.init hLocking hClosed hFree).runAll steps).oneOpener


/-- Two logs on one path, both opening, with a verification after: the run satisfies what the
locks promise. -/
theorem one_opener_per_file_two_logs :
    OneOpener
      (Step.runAll [.call 0 .openLog, .call 1 .openLog, .verify "/db" .nop false]
        (fun _ => .log (Log.create "/db" .nop {})) { disk := { cwd := "/" } }).1
      (Step.runAll [.call 0 .openLog, .call 1 .openLog, .verify "/db" .nop false]
        (fun _ => .log (Log.create "/db" .nop {})) { disk := { cwd := "/" } }).2 :=
  one_opener_per_file (fun _ => rfl) (fun _ => ⟨rfl, rfl⟩)
    (fun _ => Disk.lockOf_of_size_le (by simp)) _

end LogStore
