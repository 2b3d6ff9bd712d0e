import Mathlib
import LogStore.Proofs.Writes
import LogStore.Snapshot.Transfer
import LogStore.Proofs.NewSnapshot

/-!
# Copying a store through a snapshot

An export writes the store's live map into a new snapshot database as one batch: each binding
with its key under `d/`, then the identifier `m/id` and the key count `m/keys`. An import reads
the identifier and the data range `[d/, d0)` back and sets each binding, its `d/` dropped, in a
mode. When the database keeps the batch as a byte-ordered map (`keepsBatch`), the range takes
exactly the store's bindings, the empty key too, and never the two keys of the snapshot
(`range_exportBindings`), so the destination receives the source's map in key order.

Setting the bindings of a map one after another (`SetMode.setEach`) changes each key at most
once, against the value the destination had: in each of the three modes the key ends as the
mode merges the two values (`SetMode.get?_setEach_merge`), and the sets that change the map are
those of the keys the mode changes (`SetMode.setEach_changed_eq`). A store that can write
(`Store.CanWrite`) answers each set by its mode and keeps writing, whatever the snapshot does to
the disk, since making or opening a database changes no handle.

* `exportTo_of_create`, `importFrom_of_load`: what an export and an import report and leave.
* `export_import_copies_live_map`: an export followed by an import reports the identifier, the
  keys and the bytes of the source's live map, counts as changed the keys the mode changes, and
  leaves every key of the destination as the mode merges the two maps.
-/

namespace LogStore

/-! ## Keys under a prefix -/

theorem lexCompare_append_left (p a b : List UInt8) :
    lexCompare (p ++ a) (p ++ b) = lexCompare a b := by
  induction p with
  | nil => rfl
  | cons x p ih => simp [lexCompare, ih]

/-- A common prefix does not change how two keys compare. -/
theorem compareBytes_append_left (p a b : ByteArray) :
    compareBytes (p ++ a) (p ++ b) = compareBytes a b := by
  simp only [compareBytes, Bytes.toList_eq_data, ByteArray.data_append, Array.toList_append,
    lexCompare_append_left]

namespace Snapshot

/-- Whether `k` lies in `[lo, hi)`, the range an iteration from `lo` up to `hi` visits. -/
def InRange (lo hi k : ByteArray) : Bool :=
  compareBytes lo k ≠ .gt && compareBytes k hi = .lt

theorem dataPrefix_data : dataPrefix.data.toList = [100, 47] := by decide +kernel

theorem size_dataPrefix : dataPrefix.size = 2 := by decide +kernel

/-- Every key under `d/`, the empty one too, lies in the data range `[d/, d0)`. -/
theorem inRange_data (k : ByteArray) : InRange dataPrefix dataEnd (dataPrefix ++ k) = true := by
  have hEnd : dataEnd.data.toList = [100, 48] := by decide +kernel
  simp only [InRange, compareBytes, Bytes.toList_eq_data, ByteArray.data_append,
    Array.toList_append, dataPrefix_data, hEnd]
  cases h : k.data.toList <;> simp [lexCompare]

/-- The identifier and the key count lie outside the data range. -/
theorem inRange_idKey : InRange dataPrefix dataEnd idKey = false := by decide +kernel

theorem inRange_countKey : InRange dataPrefix dataEnd countKey = false := by decide +kernel

/-- Dropping the two bytes of `d/` gives back the key. -/
theorem extract_data (k : ByteArray) :
    (dataPrefix ++ k).extract 2 (dataPrefix ++ k).size = k := by
  exact ByteArray.extract_append_eq_right size_dataPrefix.symm (ByteArray.size_append ..)

end Snapshot

/-! ## The map a batch makes -/

namespace KeyDir

/-- The map a batch of sets makes, applied in order to the empty map. -/
def ofBindings (bs : List (ByteArray × ByteArray)) : KeyDir :=
  bs.foldl (fun d p => d.insert p.1 p.2) {}

variable {bs : List (ByteArray × ByteArray)}

theorem Sorted.foldl_insert {d : KeyDir} (hd : d.Sorted) (bs : List (ByteArray × ByteArray)) :
    (bs.foldl (fun d p => d.insert p.1 p.2) d).Sorted := by
  induction bs generalizing d with
  | nil => exact hd
  | cons p bs ih => exact ih (hd.insert p.1 p.2)

theorem ofBindings_sorted (bs : List (ByteArray × ByteArray)) : (ofBindings bs).Sorted :=
  Sorted.foldl_insert List.Pairwise.nil bs

/-- In a list that binds each key once, a key's first binding is its only one. -/
theorem find?_eq_some_iff_mem (hKeys : (bs.map Prod.fst).Nodup) (x v : ByteArray) :
    (bs.find? fun p => x = p.1).map Prod.snd = some v ↔ (x, v) ∈ bs := by
  constructor
  · intro h
    obtain ⟨q, hq, rfl⟩ := Option.map_eq_some_iff.mp h
    have hx : x = q.1 := by simpa using List.find?_some hq
    rw [hx]
    exact List.mem_of_find?_eq_some hq
  · intro h
    obtain ⟨q, hq⟩ : ∃ q, bs.find? (fun p => x = p.1) = some q :=
      Option.isSome_iff_exists.mp (List.find?_isSome.mpr ⟨(x, v), h, by simp⟩)
    have hx : x = q.1 := by simpa using List.find?_some hq
    have hq' := List.mem_of_find?_eq_some hq
    -- the key is bound once, so the binding found is `(x, v)`
    have hSame := List.inj_on_of_nodup_map hKeys hq' h hx.symm
    rw [hq, hSame]
    rfl

/-- Setting keys each bound once reads each of them as its binding and the rest as before. -/
theorem get?_foldl_insert (hKeys : (bs.map Prod.fst).Nodup) (d : KeyDir) (x : ByteArray) :
    (bs.foldl (fun d p => d.insert p.1 p.2) d).get? x =
      ((bs.find? fun p => x = p.1).map Prod.snd).or (d.get? x) := by
  induction bs generalizing d with
  | nil => simp
  | cons p bs ih =>
    obtain ⟨hHead, hTail⟩ := List.nodup_cons.mp hKeys
    rw [List.foldl_cons, ih hTail, get?_insert, List.find?_cons]
    by_cases hx : x = p.1
    · -- the key is not set again later
      have hLater : bs.find? (fun q => x = q.1) = none := by
        rw [List.find?_eq_none]
        intro q hq hEq
        have hq1 : x = q.1 := of_decide_eq_true hEq
        exact hHead (List.mem_map.mpr ⟨q, hq, hq1 ▸ hx⟩)
      simp only [hLater]
      simp [hx]
    · simp [hx]

theorem get?_ofBindings (hKeys : (bs.map Prod.fst).Nodup) (x : ByteArray) :
    (ofBindings bs).get? x = (bs.find? fun p => x = p.1).map Prod.snd := by
  rw [ofBindings, get?_foldl_insert hKeys]
  simp [get?]

/-- A sorted directory binds each key once. -/
theorem Sorted.nodup_keys {d : KeyDir} (hd : d.Sorted) : (d.bindings.map Prod.fst).Nodup :=
  List.pairwise_map.mpr (hd.imp fun h hEq => by simp [hEq, compareBytes_eq_iff.mpr rfl] at h)

/-- A sorted directory holds a binding exactly when it reads its key as its value. -/
theorem mem_bindings_iff {d : KeyDir} (hd : d.Sorted) (p : ByteArray × ByteArray) :
    p ∈ d.bindings ↔ d.get? p.1 = some p.2 := by
  rw [get?_def, find?_eq_some_iff_mem hd.nodup_keys]

/-- The map of a batch binding each key once holds exactly the batch's bindings. -/
theorem bindings_ofBindings_perm (hKeys : (bs.map Prod.fst).Nodup) :
    (ofBindings bs).bindings.Perm bs := by
  have hd := ofBindings_sorted bs
  refine (List.perm_ext_iff_of_nodup (List.Nodup.of_map Prod.fst hd.nodup_keys)
    (List.Nodup.of_map Prod.fst hKeys)).mpr fun p => ?_
  rw [mem_bindings_iff hd, get?_ofBindings hKeys, find?_eq_some_iff_mem hKeys]

end KeyDir

/-! ## What a snapshot holds -/

namespace Snapshot

open KeyDir

variable {keys : KeyDir} (id : String)

theorem dataPrefix_append_inj {a b : ByteArray} (h : dataPrefix ++ a = dataPrefix ++ b) :
    a = b := by
  rw [← extract_data a, h, extract_data]

/-- The data keys are the store's keys under `d/`, so a sorted store's are increasing. -/
theorem data_sorted (hd : keys.Sorted) :
    (keys.bindings.map fun p => (dataPrefix ++ p.1, p.2)).Pairwise
      fun p q => compareBytes p.1 q.1 = .lt := by
  refine List.pairwise_map.mpr (hd.imp fun h => ?_)
  rwa [compareBytes_append_left]

/-- A snapshot binds each key once: the data keys differ from each other and from the two keys
of its own. -/
theorem exportBindings_nodup (hd : keys.Sorted) : ((exportBindings keys id).map Prod.fst).Nodup := by
  have hData : ((keys.bindings.map fun p => (dataPrefix ++ p.1, p.2)).map Prod.fst).Nodup := by
    have h := hd.nodup_keys.map (f := (dataPrefix ++ ·)) fun _ _ h => dataPrefix_append_inj h
    simpa [List.map_map, Function.comp_def] using h
  have hOwn : idKey ≠ countKey := by decide +kernel
  simp only [exportBindings, List.map_append, List.map_cons, List.map_nil]
  refine List.nodup_append.mpr ⟨hData, by simp [hOwn], ?_⟩
  -- a data key lies in the data range, the two keys of the snapshot do not
  intro a ha b hb hab
  obtain ⟨p, -, rfl⟩ : ∃ p ∈ keys.bindings, dataPrefix ++ p.1 = a := by simpa using ha
  have hIn := inRange_data p.1
  simp only [List.mem_cons, List.not_mem_nil, or_false] at hb
  rcases hb with rfl | rfl
  · rw [hab, inRange_idKey] at hIn
    cases hIn
  · rw [hab, inRange_countKey] at hIn
    cases hIn

/-- The snapshot's identifier key reads as the identifier. -/
theorem get?_idKey (hd : keys.Sorted) :
    (ofBindings (exportBindings keys id)).get? idKey = some id.toUTF8 := by
  rw [get?_ofBindings (exportBindings_nodup id hd)]
  have hNotData : (keys.bindings.map fun p => (dataPrefix ++ p.1, p.2)).find?
      (fun p => idKey = p.1) = none := by
    rw [List.find?_eq_none]
    intro q hq hEq
    obtain ⟨p, -, rfl⟩ := List.mem_map.mp hq
    have hIn := inRange_data p.1
    have hKey : idKey = dataPrefix ++ p.1 := of_decide_eq_true hEq
    rw [← hKey, inRange_idKey] at hIn
    cases hIn
  simp [exportBindings, List.find?_append, hNotData]

/-- **The data range holds exactly the store's bindings**, under `d/` and in key order: the
range `[d/, d0)` takes every key under `d/`, the empty one too, and neither the identifier nor
the key count. -/
theorem range_exportBindings (hd : keys.Sorted) :
    (ofBindings (exportBindings keys id)).bindings.filter (fun p => InRange dataPrefix dataEnd p.1) =
      keys.bindings.map fun p => (dataPrefix ++ p.1, p.2) := by
  have hPerm := (bindings_ofBindings_perm (exportBindings_nodup id hd)).filter
    (fun p => InRange dataPrefix dataEnd p.1)
  have hFilter : (exportBindings keys id).filter (fun p => InRange dataPrefix dataEnd p.1) =
      keys.bindings.map fun p => (dataPrefix ++ p.1, p.2) := by
    have hAll : ∀ p ∈ keys.bindings.map (fun p => (dataPrefix ++ p.1, p.2)),
        InRange dataPrefix dataEnd p.1 = true := by
      intro p hp
      obtain ⟨q, -, rfl⟩ := List.mem_map.mp hp
      exact inRange_data q.1
    simp [exportBindings, List.filter_append, inRange_idKey, inRange_countKey,
      List.filter_eq_self.mpr hAll]
  rw [hFilter] at hPerm
  -- two lists increasing by key with the same members are one list
  refine hPerm.eq_of_pairwise (fun a b _ _ hab hba => ?_)
    ((ofBindings_sorted _).filter _) (data_sorted hd)
  rw [compareBytes_swap, hab] at hba
  cases hba

end Snapshot

/-! ## The database keeps the handles -/

theorem Except.exists_of_bind_eq_ok {ε α β : Type} {x : Except ε α} {f : α → Except ε β} {b : β}
    (h : (x >>= f) = .ok b) : ∃ a, x = .ok a ∧ f a = .ok b := by
  cases x with
  | error e => cases h
  | ok a => exact ⟨a, rfl, h⟩

namespace Disk

variable {d d' : Disk} {p : String}

theorem handles_of_mkdirAll (h : d.mkdirAll p = .ok d') : d'.handles = d.handles := by
  unfold mkdirAll at h
  cases ht : d.tree.mkdirAll d.cwd p with
  | error f => simp [ht, bind, Except.bind] at h
  | ok t =>
    simp only [ht, bind, Except.bind, pure, Except.pure, Except.ok.injEq] at h
    rw [← h]

theorem handles_of_fileAt {create : Bool} {ino : Nat} (h : d.fileAt p create = .ok (ino, d')) :
    d'.handles = d.handles := by
  unfold fileAt at h
  cases hl : d.locate "open" p with
  | error f => simp [hl, bind, Except.bind] at h
  | ok n =>
    simp only [hl, bind, Except.bind] at h
    -- an existing file leaves the disk as it is, a new one changes only the tree
    repeat' split at h
    all_goals simp only [pure, Except.pure, Except.ok.injEq, Prod.mk.injEq, throw, throwThe,
      MonadExceptOf.throw, reduceCtorEq] at h
    · rw [← h.2]
    · rw [← h.2]

theorem handles_of_writeFile {b : ByteArray} (h : d.writeFile p b = .ok d') :
    d'.handles = d.handles := by
  obtain ⟨⟨ino, d₁⟩, h₁, h⟩ := Except.exists_of_bind_eq_ok h
  cases h
  exact (handles_of_fileAt h₁ : d₁.handles = d.handles)

end Disk

namespace Snapshot

variable {d d' : Disk} {dir : String}

theorem handles_of_takeLock (h : takeLock d dir = .ok d') : d'.handles = d.handles := by
  obtain ⟨⟨ino, d₁⟩, h₁, h⟩ := Except.exists_of_bind_eq_ok h
  cases h
  exact Disk.handles_of_fileAt h₁

theorem handles_of_create {bs : List (ByteArray × ByteArray)} (h : create d dir bs = .ok d') :
    d'.handles = d.handles := by
  simp only [create, bind, Except.bind, pure, Except.pure, throw, throwThe,
    MonadExceptOf.throw] at h
  -- each step that goes on changes only the tree
  split at h
  · rename_i d₁ h₁
    split at h
    · cases h
    rename_i d₂ h₂
    split at h
    · split at h
      · cases h
      split at h
      · cases h
      rename_i d₃ h₃
      split at h
      · cases h
      rename_i d₄ h₄
      split at h
      · cases h
      rename_i d₅ h₅
      rw [Disk.handles_of_writeFile h, Disk.handles_of_writeFile h₅, Disk.handles_of_writeFile h₄,
        Disk.handles_of_writeFile h₃, handles_of_takeLock h₂, Disk.handles_of_mkdirAll h₁]
    · cases h
  · cases h

/-- Opening a database read-only at most takes its lock, which changes only the tree. -/
theorem handles_of_load (d : Disk) (dir : String) : (load d dir).1.handles = d.handles := by
  unfold load
  split
  · rfl
  · rfl
  · rfl
  split
  · rfl
  rename_i d₁ h₁
  dsimp only
  split <;> exact handles_of_takeLock h₁

end Snapshot

/-! ## Setting bindings one after another -/

namespace SetMode

/-- Setting each binding in turn in `mode`: the map after, and how many of the sets changed it. -/
def setEach (mode : SetMode) : KeyDir → List (ByteArray × ByteArray) → KeyDir × Nat
  | d, [] => (d, 0)
  | d, p :: rest =>
    let changed := mode.admits (d.get? p.1) p.2
    let after := mode.setEach (if changed then d.insert p.1 p.2 else d) rest
    (after.1, (if changed then 1 else 0) + after.2)

variable (mode : SetMode) {ps : List (ByteArray × ByteArray)}

/-- Setting keys each bound once changes a key at most once, where its own set is admitted
against the map it started from. -/
theorem get?_setEach (hKeys : (ps.map Prod.fst).Nodup) (d : KeyDir) (x : ByteArray) :
    (mode.setEach d ps).1.get? x = (ps.find? fun p => x = p.1).elim (d.get? x)
      fun p => if mode.admits (d.get? x) p.2 then some p.2 else d.get? x := by
  induction ps generalizing d with
  | nil => rfl
  | cons p ps ih =>
    obtain ⟨hHead, hTail⟩ := List.nodup_cons.mp hKeys
    simp only [setEach, ih hTail, List.find?_cons]
    by_cases hx : x = p.1
    · -- the key is not set again later, and its own set saw the map it started from
      have hLater : ps.find? (fun q => x = q.1) = none := by
        rw [List.find?_eq_none]
        intro q hq hEq
        have hq1 : x = q.1 := of_decide_eq_true hEq
        exact hHead (List.mem_map.mpr ⟨q, hq, hq1 ▸ hx⟩)
      subst hx
      cases hA : mode.admits (d.get? p.1) p.2 <;> simp [hLater, hA]
    · -- another key's set leaves this key as it was
      have hKeep : (if mode.admits (d.get? p.1) p.2 then d.insert p.1 p.2 else d).get? x =
          d.get? x := by
        split <;> simp [hx]
      simp [hx, hKeep]

/-- With keys each bound once, the sets that change the map are those admitted against the map
they started from. -/
theorem setEach_changed (hKeys : (ps.map Prod.fst).Nodup) (d : KeyDir) :
    (mode.setEach d ps).2 = (ps.filter fun p => mode.admits (d.get? p.1) p.2).length := by
  induction ps generalizing d with
  | nil => rfl
  | cons p ps ih =>
    obtain ⟨hHead, hTail⟩ := List.nodup_cons.mp hKeys
    -- the sets after this one see this key's set only at this key, which they do not set
    have hLater : (ps.filter fun q =>
          mode.admits ((if mode.admits (d.get? p.1) p.2 then d.insert p.1 p.2 else d).get? q.1)
            q.2) = ps.filter fun q => mode.admits (d.get? q.1) q.2 := by
      refine List.filter_congr fun q hq => ?_
      have hne : q.1 ≠ p.1 := fun h => hHead (List.mem_map.mpr ⟨q, hq, h⟩)
      split <;> simp [hne]
    simp only [setEach, ih hTail, hLater, List.filter_cons]
    split <;> simp [Nat.add_comm]

/-- The value a copy in `mode` leaves at a key, from the destination's value `c` and the
source's `v`: an upsert takes the source's over the destination's, an insert the destination's
over the source's, an update the source's where both have one. -/
def merge : SetMode → Option ByteArray → Option ByteArray → Option ByteArray
  | .upsert, c, v => v.or c
  | .insert, c, v => c.or v
  | .update, c, v => c.map fun u => v.getD u
  | .unknown _, c, _ => c

/-- Whether a copy in `mode` of a key the source binds to `v` changes the destination, whose
value there is `c`: an upsert where `c` is not `v`, an insert where there is none, an update
where there is one and it is not `v`. -/
def changes : SetMode → Option ByteArray → ByteArray → Bool
  | .upsert, c, v => decide (c ≠ some v)
  | .insert, c, _ => c.isNone
  | .update, c, v => c.isSome && decide (c ≠ some v)
  | .unknown _, _, _ => false

variable {mode}

/-- Equality of byte arrays decided by `==`. -/
theorem beq_eq_decide (u v : ByteArray) : (u == v) = decide (u = v) :=
  Bool.eq_iff_iff.mpr (by rw [Entry.beq_eq_true_iff, decide_eq_true_iff])

/-- In each of the three modes, a set leaves at its key what merging the new value gives. -/
theorem set_value_eq_merge (hMode : mode = .upsert ∨ mode = .insert ∨ mode = .update)
    (c : Option ByteArray) (v : ByteArray) :
    (if mode.admits c v then some v else c) = mode.merge c (some v) := by
  rcases hMode with rfl | rfl | rfl <;> cases c with
  | none => rfl
  | some u => by_cases h : u = v <;> simp [admits, merge, h, bne, beq_eq_decide]

/-- A key the source does not bind keeps the destination's value. -/
theorem merge_none (hMode : mode = .upsert ∨ mode = .insert ∨ mode = .update)
    (c : Option ByteArray) : mode.merge c none = c := by
  rcases hMode with rfl | rfl | rfl <;> cases c <;> rfl

/-- In each of the three modes, a set is admitted exactly when it changes the key. -/
theorem admits_eq_changes (hMode : mode = .upsert ∨ mode = .insert ∨ mode = .update)
    (c : Option ByteArray) (v : ByteArray) : mode.admits c v = mode.changes c v := by
  rcases hMode with rfl | rfl | rfl <;> cases c with
  | none => rfl
  | some u => by_cases h : u = v <;> simp [admits, changes, h, bne, beq_eq_decide]

/-- **Setting the bindings of a sorted map one after another** leaves each key as merging the
map into the one it started from gives. -/
theorem get?_setEach_merge (hMode : mode = .upsert ∨ mode = .insert ∨ mode = .update)
    {S : KeyDir} (hS : S.Sorted) (D : KeyDir) (k : ByteArray) :
    (mode.setEach D S.bindings).1.get? k = mode.merge (D.get? k) (S.get? k) := by
  rw [get?_setEach mode hS.nodup_keys, KeyDir.get?_def S]
  cases S.bindings.find? (fun p => k = p.1) with
  | none => exact (merge_none hMode _).symm
  | some p => exact set_value_eq_merge hMode _ _

/-- The sets that change the map are those of the keys the mode changes. -/
theorem setEach_changed_eq (hMode : mode = .upsert ∨ mode = .insert ∨ mode = .update)
    {S : KeyDir} (hS : S.Sorted) (D : KeyDir) :
    (mode.setEach D S.bindings).2 =
      (S.bindings.filter fun p => mode.changes (D.get? p.1) p.2).length := by
  rw [setEach_changed mode hS.nodup_keys]
  congr 1
  exact List.filter_congr fun p _ => admits_eq_changes hMode _ _

end SetMode

/-! ## Writing to a store that can write -/

namespace Store

/-- A store that can write: it is open, and its log appends through a live, writable handle of
the disk that is not subject to injected failures. -/
def CanWrite (s : Store) (d : Disk) : Prop :=
  s.isOpen = true ∧ ∃ t : Disk.Writer, s.log.AppendsTo t ∧ t.x.faulty = false ∧
    ∃ p, d.handle? t.handle = some { t.x with pos := p }

/-- Whether a store can write depends on its log and on the disk's handles only. -/
theorem CanWrite.of_handles {s s' : Store} {d d' : Disk} (hW : s.CanWrite d)
    (hOpen : s'.isOpen = s.isOpen) (hLog : s'.log = s.log) (hHandles : d'.handles = d.handles) :
    s'.CanWrite d' := by
  obtain ⟨hOpen₀, t, hl, hFaulty, p, hHandle⟩ := hW
  refine ⟨hOpen ▸ hOpen₀, t, hLog ▸ hl, hFaulty, p, ?_⟩
  rw [← hHandle]
  simp only [Disk.handle?, hHandles]

variable {s : Store} {w : World} {key value : ByteArray} {mode : SetMode}

/-- **A set on a store that can write** answers whether the mode admits the value, binds the key
when it does, and leaves a store that can write. -/
theorem set_of_canWrite (hW : s.CanWrite w.disk)
    (hMode : mode = .upsert ∨ mode = .insert ∨ mode = .update)
    (hk : key.size ≤ maxKeySize) (hv : value.size ≤ maxValueSize) :
    (set key value mode s w).1 = (.ok (mode.admits (s.keys.get? key) value),
        { s with keys := if mode.admits (s.keys.get? key) value then s.keys.insert key value
          else s.keys }) ∧
      (set key value mode s w).1.2.CanWrite (set key value mode s w).2.disk := by
  have hValid : (Entry.live key value).validate = .ok () := by
    rw [Entry.validate_live, if_neg (by omega), if_neg (by omega)]
  cases hAdmits : mode.admits (s.keys.get? key) value
  · rw [set_of_unadmitted hW.1 hMode hValid hAdmits]
    exact ⟨rfl, hW⟩
  · obtain ⟨hOpen, t, hl, hFaulty, p, hHandle⟩ := hW
    -- the writer, framed on the disk as it is now
    let t' : Disk.Writer := { t with frame := w.disk }
    have hS : t'.Shows w.disk (w.disk.tree.contents t.ino) p := ⟨rfl, rfl, rfl, hHandle⟩
    have hl' : s.log.AppendsTo t' := ⟨hl.file, hl.header, hl.unbuffered⟩
    obtain ⟨hRun, hS'⟩ := Log.write_of_writer (e := .live key value) hl' hS (.inl hFaulty)
      ⟨hk, by simpa [Entry.payloadValue, Entry.live] using hv⟩
    rw [set_of_admitted hOpen hMode hValid hAdmits, commit_apply]
    simp only [hRun]
    exact ⟨rfl, hOpen, t, hl, hFaulty, _, hS'.handle⟩

end Store

namespace Snapshot

variable {mode : SetMode}

/-- **Importing the data bindings of a snapshot** into a store that can write sets each key, with
its `d/` dropped, in turn. It reports every binding read, their value bytes, and the sets that
changed the store; the store's map ends as setting each binding in turn makes it. -/
theorem importEach_data (hMode : mode = .upsert ∨ mode = .insert ∨ mode = .update)
    (ps : List (ByteArray × ByteArray))
    (hBounded : ∀ p ∈ ps, p.1.size ≤ maxKeySize ∧ p.2.size ≤ maxValueSize)
    (t : Transfer) (s : Store) (w : World) (hW : s.CanWrite w.disk) :
    (importEach mode (ps.map fun p => (dataPrefix ++ p.1, p.2)) t s w).1 =
      (.ok { t with keys := t.keys + ps.length,
                    bytes := t.bytes + (ps.map fun p => p.2.size).sum,
                    changed := t.changed + (mode.setEach s.keys ps).2 },
        { s with keys := (mode.setEach s.keys ps).1 }) := by
  induction ps generalizing t s w with
  | nil => simp [importEach, pure, StateT.pure, SetMode.setEach]
  | cons p ps ih =>
    obtain ⟨hk, hv⟩ := hBounded p (by simp)
    obtain ⟨hStep, hW'⟩ := Store.set_of_canWrite hW hMode hk hv
    simp only [List.map_cons, importEach, bind, StateT.bind, extract_data]
    rcases hSet : Store.set p.1 p.2 mode s w with ⟨⟨r, s₁⟩, w₁⟩
    rw [hSet] at hStep hW'
    obtain ⟨rfl, rfl⟩ := Prod.mk.inj hStep
    -- the rest of the bindings go to the store as this set left it
    rw [ih (fun q hq => hBounded q (List.mem_cons_of_mem p hq)) _ _ _ hW']
    simp only [SetMode.setEach, List.length_cons, List.sum_cons]
    rw [Nat.add_assoc t.keys, Nat.add_comm 1 ps.length, Nat.add_assoc t.bytes,
      Nat.add_assoc t.changed]

/-- **Exporting** draws an identifier, makes the snapshot database in one commit, and reports the
identifier, the number of keys and their value bytes; the store is unchanged. -/
theorem exportTo_of_create {src : Store} {w : World} {d₁ : Disk}
    (h : create w.disk dir (exportBindings src.keys (uniqueId w.draws)) = .ok d₁) :
    exportTo dir src w =
      ((.ok { id := uniqueId w.draws, keys := src.keys.bindings.length,
              bytes := src.keys.bindings.foldl (fun n p => n + p.2.size) 0 }, src),
        { w with draws := w.draws + 1, disk := d₁ }) := by
  simp [exportTo, h, bind, StateT.bind, get, getThe, MonadStateOf.get, StateT.get, Store.lift,
    StateT.lift, Sys.disk, Sys.fresh, Sys.setDisk, modifyGet, MonadStateOf.modifyGet,
    StateT.modifyGet, modify, pure, StateT.pure]

/-- Logging one line per note leaves the store as it is and changes only the lines of the
world. -/
theorem forIn_emit (lg : Logger) (ev : String → Event) (notes : List String) (s : Store)
    (w : World) :
    ∃ lines, (forIn notes PUnit.unit fun note _ =>
        (StateT.lift (Sys.emit lg (ev note)) : StoreM Unit).bind
          fun _ => pure (ForInStep.yield PUnit.unit)) s w =
      ((PUnit.unit, s), { w with lines }) := by
  induction notes generalizing w with
  | nil => exact ⟨w.lines, rfl⟩
  | cons n notes ih =>
    obtain ⟨lines, h⟩ := ih { w with lines := (Sys.emit lg (ev n) w).2.lines }
    refine ⟨lines, ?_⟩
    simp only [List.forIn_cons, bind, StateT.bind, StateT.lift, pure, StateT.pure]
    rw [Sys.emit_eq lg (ev n) w]
    exact h

/-- **Importing a snapshot** whose identifier is `id` and whose data range holds the bindings
`ps` under `d/`, into a store that can write, sets each binding of `ps` in turn and reports the
identifier read as text, the bindings read, their value bytes, and the sets that changed the
store. -/
theorem importFrom_of_load (logger : Logger) {s : Store} {w : World} {d : Disk}
    {notes : List String} {db : Opened} {id : ByteArray} {ps : List (ByteArray × ByteArray)}
    (hMode : mode = .upsert ∨ mode = .insert ∨ mode = .update)
    (hLoad : load w.disk dir = (d, notes, .ok db))
    (hId : db.get? d dir idKey = .ok (some id))
    (hRange : db.range d dir dataPrefix dataEnd = .ok (ps.map fun p => (dataPrefix ++ p.1, p.2)))
    (hBounded : ∀ p ∈ ps, p.1.size ≤ maxKeySize ∧ p.2.size ≤ maxValueSize)
    (hW : s.CanWrite w.disk) :
    (importFrom dir mode logger s w).1 =
      (.ok { id := Text.Utf8.lossy id, keys := ps.length, bytes := (ps.map fun p => p.2.size).sum,
             changed := (mode.setEach s.keys ps).2 },
        { s with keys := (mode.setEach s.keys ps).1 }) := by
  obtain ⟨lines, hLoop⟩ := forIn_emit logger (fun note => { level := .debug, message := note })
    notes s { w with disk := d }
  -- opening the snapshot only took its lock, so the store still writes through its handle
  have hHandles : d.handles = w.disk.handles := by
    simpa [hLoad] using handles_of_load w.disk dir
  have hW' : s.CanWrite { w with disk := d, lines }.disk := hW.of_handles rfl rfl hHandles
  simp only [importFrom, bind, StateT.bind, Store.lift, StateT.lift, Sys.disk, get, getThe,
    MonadStateOf.get, StateT.get, Sys.setDisk, modify, modifyGet, MonadStateOf.modifyGet,
    StateT.modifyGet, pure, StateT.pure, hLoad]
  simp only [pure] at hLoop
  rw [hLoop]
  simp only [hId, hRange]
  rw [importEach_data hMode ps hBounded _ s _ hW']
  simp

end Snapshot

/-- Text encoded as UTF-8 reads back as itself. -/
theorem Text.Utf8.lossy_toUTF8 (s : String) : Text.Utf8.lossy s.toUTF8 = s := by
  have h : String.fromUTF8? s.toUTF8 = some s := dif_pos s.isValidUTF8
  simp only [Text.Utf8.lossy, h]

/-! ## Copying a store through a snapshot -/

namespace Snapshot

open KeyDir

/-- Whether the database keeps the batch `bs` made at `dir` as a byte-ordered map: making it
succeeds, and opening it again reads the identifier and the data range `[d/, d0)` as the map
the batch makes, its bindings set in order in one commit. A copy takes this of the database;
for a given disk it can be computed. -/
def keepsBatch (d : Disk) (dir : String) (bs : List (ByteArray × ByteArray)) : Bool :=
  match create d dir bs with
  | .error _ => false
  | .ok d₁ =>
    match load d₁ dir with
    | (d₂, _, .ok db) =>
      decide ((db.get? d₂ dir idKey).toOption = some ((ofBindings bs).get? idKey)) &&
        decide ((db.range d₂ dir dataPrefix dataEnd).toOption =
          some ((ofBindings bs).bindings.filter fun p => InRange dataPrefix dataEnd p.1))
    | _ => false

/-- A database that keeps a batch is made, opened again, and read as its map. -/
theorem keepsBatch_spec {d : Disk} {bs : List (ByteArray × ByteArray)}
    (h : keepsBatch d dir bs = true) :
    ∃ d₁, create d dir bs = .ok d₁ ∧ ∃ d₂ notes db, load d₁ dir = (d₂, notes, .ok db) ∧
      db.get? d₂ dir idKey = .ok ((ofBindings bs).get? idKey) ∧
      db.range d₂ dir dataPrefix dataEnd =
        .ok ((ofBindings bs).bindings.filter fun p => InRange dataPrefix dataEnd p.1) := by
  unfold keepsBatch at h
  split at h
  · cases h
  rename_i d₁ hCreate
  split at h
  · rename_i d₂ notes db hLoad
    simp only [Bool.and_eq_true, decide_eq_true_eq] at h
    exact ⟨d₁, hCreate, d₂, notes, db, hLoad, Except.eq_ok_of_toOption h.1,
      Except.eq_ok_of_toOption h.2⟩
  · cases h

/-- A database made, opened again and read as the map of its batch keeps the batch. -/
theorem keepsBatch_of {d d₁ d₂ : Disk} {bs : List (ByteArray × ByteArray)} {notes : List String}
    {db : Opened} (hCreate : create d dir bs = .ok d₁) (hLoad : load d₁ dir = (d₂, notes, .ok db))
    (hGet : (db.get? d₂ dir idKey).toOption = some ((ofBindings bs).get? idKey))
    (hRange : (db.range d₂ dir dataPrefix dataEnd).toOption =
      some ((ofBindings bs).bindings.filter fun p => InRange dataPrefix dataEnd p.1)) :
    keepsBatch d dir bs = true := by
  simp [keepsBatch, hCreate, hLoad, hGet, hRange]

variable {logger : Logger} {src dst : Store} {w : World}

/-- **Exporting a store and importing the snapshot into another copies the live map.** The
export reports a fresh identifier, the number of keys and their value bytes, and leaves the
store as it was. Importing in one of the three modes reports the same identifier, keys and
bytes, and as changed the keys the mode changes; every key of the store imported into ends as
the mode merges the two maps. The database is taken to keep the batch as a byte-ordered map. -/
theorem export_import_copies_live_map (hSorted : src.keys.Sorted) (hBounded : src.keys.Bounded)
    (hW : dst.CanWrite w.disk) (hMode : mode = .upsert ∨ mode = .insert ∨ mode = .update)
    (hDb : keepsBatch w.disk dir (exportBindings src.keys (uniqueId w.draws)) = true) :
    let S := src.keys
    let D := dst.keys
    let sent : Transfer := { id := uniqueId w.draws, keys := S.bindings.length,
                             bytes := (S.bindings.map fun p => p.2.size).sum }
    let e := exportTo dir src w
    let i := importFrom dir mode logger dst e.2
    e.1 = (.ok sent, src) ∧
      i.1.1 = .ok { sent with changed :=
        (S.bindings.filter fun p => mode.changes (D.get? p.1) p.2).length } ∧
      ∀ k, i.1.2.keys.get? k = mode.merge (D.get? k) (S.get? k) := by
  intro S D sent e i
  obtain ⟨d₁, hCreate, d₂, notes, db, hLoad, hId, hRange⟩ := keepsBatch_spec hDb
  -- the export, with the bytes counted as a sum
  have hE : e = ((.ok sent, src), { w with draws := w.draws + 1, disk := d₁ }) := by
    show exportTo dir src w = _
    rw [exportTo_of_create hCreate]
    simp only [sent, S, List.sum_eq_foldl, List.foldl_map]
  -- the import reads back the identifier and the store's bindings under `d/`
  have hI := importFrom_of_load logger (w := { w with draws := w.draws + 1, disk := d₁ }) hMode hLoad
    (by rw [hId, get?_idKey _ hSorted]) (by rw [hRange, range_exportBindings _ hSorted]) hBounded
    (hW.of_handles rfl rfl (handles_of_create hCreate))
  rw [Text.Utf8.lossy_toUTF8, SetMode.setEach_changed_eq hMode hSorted] at hI
  refine ⟨by simp only [hE], ?_, fun k => ?_⟩
  · simp only [i, hE, hI, sent, S, D]
  · simp only [i, hE, hI]
    exact SetMode.get?_setEach_merge hMode hSorted D k

/-- The database made at `/snap` keeps the batch of a store binding `a` to `1`, on a disk that
holds the log `/db` with a writable handle open on it, and in `/snap` an empty options file
numbered after the one a new database writes: opening reads that one, with no settings, in
place of the full text. The whole database is made, opened and read here. -/
theorem keepsBatch_snap :
    keepsBatch
      { cwd := "/",
        tree := { nodes := [(["db"], .file 0), (["snap"], .dir), (["snap", "OPTIONS-000009"], .file 1)],
                  inodes := [(0, Header.encode), (1, ByteArray.empty)], nextIno := 2 },
        handles := #[{ node := .file 0, name := "/db", readable := true, writable := true }] }
      "/snap" (exportBindings ⟨[(⟨#[97]⟩, ⟨#[49]⟩)]⟩ (uniqueId 0)) = true := by
  set d : Disk := { cwd := "/", tree := { nodes := [(["db"], .file 0), (["snap"], .dir), (["snap", "OPTIONS-000009"], .file 1)], inodes := [(0, Header.encode), (1, ByteArray.empty)], nextIno := 2 }, handles := #[{ node := .file 0, name := "/db", readable := true, writable := true }] }
  set bs := exportBindings ⟨[(⟨#[97]⟩, ⟨#[49]⟩)]⟩ (uniqueId 0)
  -- making it: `/snap` is a directory, and none of the files a database writes is in it
  have hDirs : d.tree.mkdirAll d.cwd "/snap" = .ok d.tree := Tree.mkdirAll_of_dirs (by decide +kernel)
  have hMk : d.mkdirAll "/snap" = .ok d := by
    simp only [Disk.mkdirAll, hDirs]
    rfl
  have hLock := takeLock_of_absent
    (show d.locate "open" (Path.join "/snap" lockFile) = .ok none from
      Except.eq_ok_of_toOption (by decide +kernel))
  set d₁ := d.addFile (Path.join "/snap" lockFile)
  have hCur := readCurrent_of_absent
    (show d₁.locate "open" (Path.join "/snap" markerFile) = .ok none from
      Except.eq_ok_of_toOption (by decide +kernel))
  have hW₁ := Disk.writeFile_of_absent (b := newManifest)
    (show d₁.locate "open" (Path.join "/snap" (manifestName firstManifest)) = .ok none from
      Except.eq_ok_of_toOption (by decide +kernel)) (show d₁.tree.nextIno = 3 from rfl)
  set d₂ := (d₁.addFile (Path.join "/snap" (manifestName firstManifest))).setContents 3 newManifest
  have hW₂ := Disk.writeFile_of_absent (b := (manifestName firstManifest ++ "\n").toUTF8)
    (show d₂.locate "open" (Path.join "/snap" markerFile) = .ok none from
      Except.eq_ok_of_toOption (by decide +kernel)) (show d₂.tree.nextIno = 4 from rfl)
  set d₃ := (d₂.addFile (Path.join "/snap" markerFile)).setContents 4
    (manifestName firstManifest ++ "\n").toUTF8
  have hW₃ := Disk.writeFile_of_absent (b := newLog bs)
    (show d₃.locate "open" (Path.join "/snap" tableFile) = .ok none from
      Except.eq_ok_of_toOption (by decide +kernel)) (show d₃.tree.nextIno = 5 from rfl)
  set d₄ := (d₃.addFile (Path.join "/snap" tableFile)).setContents 5 (newLog bs)
  have hW₄ := Disk.writeFile_of_absent (b := optionsText.toUTF8)
    (show d₄.locate "open" (Path.join "/snap" (optionsName firstOptions)) = .ok none from
      Except.eq_ok_of_toOption (by decide +kernel)) (show d₄.tree.nextIno = 6 from rfl)
  set d₅ := (d₄.addFile (Path.join "/snap" (optionsName firstOptions))).setContents 6
    optionsText.toUTF8
  have hCreate : create d "/snap" bs = .ok d₅ := by
    simp only [create, hMk, hLock, hCur, hW₁, hW₂, hW₃, hW₄, bind, Except.bind, pure, Except.pure,
      Option.isSome_none, Bool.false_eq_true, if_false]
  -- opening it: `CURRENT` names the first manifest, and the newest options file is the empty one
  have hName : (manifestName firstManifest ++ "\n").toUTF8.toList =
      77 :: ([65, 78, 73, 70, 69, 83, 84, 45, 48, 48, 48, 48, 48] ++ [49, 10]) := by
    decide +kernel
  have hCurrent : readCurrent d₅ "/snap" = .ok (some 1) := readCurrent_of_file (f := .manifest 1)
    (b := (manifestName firstManifest ++ "\n").toUTF8)
    (show d₅.locate "open" (Path.join "/snap" markerFile) = .ok (some (.file 4)) from
      Except.eq_ok_of_toOption (by decide +kernel)) rfl (by decide +kernel) (by decide +kernel)
    (by rw [trimSpaceBytes_line hName (by decide) (by decide)]; decide +kernel)
  have hManifest : loadManifest d₅ "/snap" 1 =
      .ok { comparer := comparerName.toUTF8, logNum := firstLog, nextFile := firstOptions,
            nextSeq := firstSeqNum } := by
    simp only [loadManifest, Disk.contentsAt_of_file
      (show d₅.locate "open" (Path.join "/snap" (manifestName 1)) = .ok (some (.file 3)) from
        Except.eq_ok_of_toOption (by decide +kernel)),
      show d₅.tree.contents 3 = newManifest by
        rw [Disk.contents_setContents_ne (by decide), Disk.contents_addFile (by decide),
          Disk.contents_setContents_ne (by decide), Disk.contents_addFile (by decide),
          Disk.contents_setContents_ne (by decide), Disk.contents_addFile (by decide),
          Disk.contents_setContents_self],
      bind, Except.bind, pure, Except.pure,
      Manifest.load_newManifest]
    simp [firstLog]
  have hLoad := load_of_steps
    (show d₅.locate "open" "/snap" = .ok (some .dir) from
      Except.eq_ok_of_toOption (by decide +kernel))
    (takeLock_of_file
      (show d₅.locate "open" (Path.join "/snap" lockFile) = .ok (some (.file 2)) from
        Except.eq_ok_of_toOption (by decide +kernel)))
    hCurrent hManifest (by decide +kernel)
    (show scanNames firstLog (d₅.list "/snap") = ([(firstLog, tableFile)], some "OPTIONS-000009")
      by decide +kernel)
    (Disk.contentsAt_of_file
      (show d₅.locate "open" (Path.join "/snap" "OPTIONS-000009") = .ok (some (.file 1)) from
        Except.eq_ok_of_toOption (by decide +kernel)))
    (show checkOptions ByteArray.empty = .ok false from
      Except.eq_ok_of_toOption (by decide +kernel))
  -- its log replays the batch
  set b₀ : Batch := ⟨Bytes.readLE (Batch.encodeSets firstSeqNum bs) 0 8,
    Bytes.readLE (Batch.encodeSets firstSeqNum bs) 8 4,
    (Batch.encodeSets firstSeqNum bs).extract batchHeader (Batch.encodeSets firstSeqNum bs).size⟩
  have hLogFile : d₅.contentsAt (Path.join "/snap" tableFile) = .ok (newLog bs) := by
    rw [Disk.contentsAt_of_file
      (show d₅.locate "open" (Path.join "/snap" tableFile) = .ok (some (.file 5)) from
        Except.eq_ok_of_toOption (by decide +kernel)),
      Disk.contents_setContents_ne (by decide), Disk.contents_addFile (by decide),
      Disk.contents_setContents_self]
  obtain ⟨rp, hReplay, hLogged⟩ := replayLogs_newLog false hLogFile (by decide +kernel)
    (by decide +kernel) (b := b₀)
    (by rw [Batch.header?, if_neg (by decide +kernel)])
    (Except.eq_ok_of_toOption (by decide +kernel) : b₀.changes? = .ok ((b₀.changes?).toOption.getD []))
  rw [hReplay] at hLoad
  simp only [Except.map] at hLoad
  exact keepsBatch_of hCreate hLoad (by rw [hLogged]; decide +kernel) (by rw [hLogged]; decide +kernel)

/-- One copy: a store binding `a` to `1` is exported to `/snap`, and the snapshot upserted into an
empty store that writes through its open handle on `/db` (on the disk of `keepsBatch_snap`). -/
theorem export_import_copies_live_map_once :
    let d : Disk := { cwd := "/",
                      tree := { nodes := [(["db"], .file 0), (["snap"], .dir),
                                          (["snap", "OPTIONS-000009"], .file 1)],
                                inodes := [(0, Header.encode), (1, ByteArray.empty)],
                                nextIno := 2 },
                      handles := #[{ node := .file 0, name := "/db", readable := true,
                                     writable := true }] }
    let w : World := { disk := d }
    let src : Store := { path := "/src", log := { path := "/src" },
                         keys := ⟨[(⟨#[97]⟩, ⟨#[49]⟩)]⟩, logger := .nop }
    let dst : Store := { path := "/db", log := { path := "/db", file := some 0 }, logger := .nop,
                         isOpen := true }
    (src.keys.Sorted ∧ src.keys.Bounded ∧ dst.CanWrite w.disk ∧
      keepsBatch w.disk "/snap" (exportBindings src.keys (uniqueId w.draws)) = true) ∧
    let S := src.keys
    let D := dst.keys
    let sent : Transfer := { id := uniqueId w.draws, keys := S.bindings.length,
                             bytes := (S.bindings.map fun p => p.2.size).sum }
    let e := exportTo "/snap" src w
    let i := importFrom "/snap" .upsert .nop dst e.2
    e.1 = (.ok sent, src) ∧
      i.1.1 = .ok { sent with changed :=
        (S.bindings.filter fun p => SetMode.upsert.changes (D.get? p.1) p.2).length } ∧
      ∀ k, i.1.2.keys.get? k = SetMode.upsert.merge (D.get? k) (S.get? k) := by
  intro d w src dst
  have hSorted : src.keys.Sorted := List.pairwise_singleton _ _
  have hBounded : src.keys.Bounded := by
    simp only [KeyDir.Bounded, src, List.mem_singleton, forall_eq]
    decide
  have hW : dst.CanWrite w.disk :=
    ⟨rfl, { frame := w.disk, handle := 0, ino := 0, x := w.disk.handles[0],
            live := rfl, node := rfl, writable := rfl }, ⟨rfl, rfl, rfl⟩, rfl, 0, rfl⟩
  exact ⟨⟨hSorted, hBounded, hW, keepsBatch_snap⟩,
    export_import_copies_live_map hSorted hBounded hW (.inl rfl) keepsBatch_snap⟩

end Snapshot

end LogStore
