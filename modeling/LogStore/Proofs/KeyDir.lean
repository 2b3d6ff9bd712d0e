import LogStore.Proofs.Bytes
import LogStore.KeyDir

/-!
# The key directory as a map

A key directory is a list of bindings, read by `get?` as a map from keys to values. This module
says what its operations do to that map, and that the list stays strictly increasing by key.

Keys are compared bytewise by `compareBytes`, which is a strict total order: it says two keys are
equal exactly when they are (`compareBytes_eq_iff`), turns around when its arguments do
(`compareBytes_swap`), and chains (`compareBytes_lt_trans`).

* `KeyDir.get?_insert`: an insertion binds its key and keeps every other binding, whatever the
  list looks like.
* `KeyDir.Sorted`: the bindings are strictly increasing by key. Insertion, erasure and replaying
  a change keep it (`Sorted.insert`, `Sorted.erase`, `Sorted.apply`), so `keys` lists the keys in
  increasing order (`keys_sorted`).
* `KeyDir.get?_erase`: on a sorted directory, an erasure unbinds its key and keeps every other
  binding. A sorted list holds each key once, so removing the first binding removes them all.
-/

namespace LogStore

namespace Bytes

theorem toList_loop_eq (bs : ByteArray) (i : Nat) (r : List UInt8) :
    ByteArray.toList.loop bs i r = r.reverse ++ bs.data.toList.drop i := by
  fun_induction ByteArray.toList.loop bs i r with
  | case1 i r hlt ih =>
    rw [ih]
    have hDrop : bs.data.toList.drop i = bs.get! i :: bs.data.toList.drop (i + 1) := by
      rw [List.drop_eq_getElem_cons (by simpa using hlt)]
      simp [ByteArray.get!, hlt]
    simp [hDrop]
  | case2 i r hge =>
    rw [List.drop_of_length_le (by simp; omega)]
    simp

theorem toList_eq_data (bs : ByteArray) : bs.toList = bs.data.toList := by
  simp [ByteArray.toList, toList_loop_eq]

end Bytes

/-! ## Bytewise order -/

theorem lexCompare_eq_iff {a b : List UInt8} : lexCompare a b = .eq ↔ a = b := by
  induction a generalizing b with
  | nil => cases b <;> simp [lexCompare]
  | cons x xs ih =>
    cases b with
    | nil => simp [lexCompare]
    | cons y ys =>
      have hxy : ¬ x < y → ¬ y < x → x = y := by
        simp only [UInt8.lt_iff_toNat_lt, ← UInt8.toNat_inj]
        omega
      simp only [lexCompare, List.cons.injEq]
      split
      · rename_i h
        simp only [reduceCtorEq, false_iff, not_and]
        rintro rfl
        exact absurd h (by simp)
      split
      · rename_i h
        simp only [reduceCtorEq, false_iff, not_and]
        rintro rfl
        exact absurd h (by simp)
      rename_i h1 h2
      rw [ih, hxy h1 h2]
      simp

theorem lexCompare_swap (a b : List UInt8) : lexCompare b a = (lexCompare a b).swap := by
  induction a generalizing b with
  | nil => cases b <;> simp [lexCompare]
  | cons x xs ih =>
    cases b with
    | nil => simp [lexCompare]
    | cons y ys =>
      simp only [lexCompare]
      by_cases h1 : x < y
      · have : ¬ y < x := by simp only [UInt8.lt_iff_toNat_lt] at h1 ⊢; omega
        simp [h1, this]
      by_cases h2 : y < x
      · simp [h1, h2]
      · simp [h1, h2, ih]

/-- Of two nonempty lists, the first bytes decide unless they are equal, and then the rests
do. -/
theorem lexCompare_cons_eq_lt {x y : UInt8} {xs ys : List UInt8} :
    lexCompare (x :: xs) (y :: ys) = .lt ↔ x < y ∨ x = y ∧ lexCompare xs ys = .lt := by
  simp only [lexCompare]
  by_cases h1 : x < y
  · simp [h1]
  by_cases h2 : y < x
  · have hne : x ≠ y := by
      rintro rfl
      exact h1 h2
    simp [h1, h2, hne]
  · have heq : x = y := by
      simp only [UInt8.lt_iff_toNat_lt, ← UInt8.toNat_inj] at h1 h2 ⊢
      omega
    simp [heq]

theorem lexCompare_lt_trans {a b c : List UInt8} (hab : lexCompare a b = .lt)
    (hbc : lexCompare b c = .lt) : lexCompare a c = .lt := by
  induction a generalizing b c with
  | nil => cases c <;> cases b <;> simp_all [lexCompare]
  | cons x xs ih =>
    cases b with
    | nil => simp [lexCompare] at hab
    | cons y ys =>
      cases c with
      | nil => simp [lexCompare] at hbc
      | cons z zs =>
        rw [lexCompare_cons_eq_lt] at hab hbc ⊢
        rcases hab with hxy | ⟨rfl, hab⟩
        · rcases hbc with hyz | ⟨rfl, -⟩
          · exact .inl (UInt8.lt_trans hxy hyz)
          · exact .inl hxy
        · rcases hbc with hyz | ⟨rfl, hbc⟩
          · exact .inl hyz
          · exact .inr ⟨rfl, ih hab hbc⟩

theorem compareBytes_eq_iff {a b : ByteArray} : compareBytes a b = .eq ↔ a = b := by
  rw [compareBytes, lexCompare_eq_iff, Bytes.toList_eq_data, Bytes.toList_eq_data]
  constructor
  · intro h
    cases a
    cases b
    simp_all
  · rintro rfl
    rfl

theorem compareBytes_swap (a b : ByteArray) : compareBytes b a = (compareBytes a b).swap :=
  lexCompare_swap _ _

theorem compareBytes_lt_trans {a b c : ByteArray} (hab : compareBytes a b = .lt)
    (hbc : compareBytes b c = .lt) : compareBytes a c = .lt :=
  lexCompare_lt_trans hab hbc

namespace KeyDir

variable {k k' v : ByteArray} {p : ByteArray × ByteArray} {d : KeyDir}

/-- The bindings of a key directory are strictly increasing by key. -/
def Sorted (d : KeyDir) : Prop :=
  d.bindings.Pairwise fun p q => compareBytes p.1 q.1 = .lt

theorem get?_def (d : KeyDir) (k : ByteArray) :
    d.get? k = (d.bindings.find? fun p => k = p.1).map Prod.snd := by
  simp only [get?, compareBytes_eq_iff]

/-! ## Insertion -/

theorem find?_insertBinding (l : List (ByteArray × ByteArray)) :
    (insertBinding k v l).find? (fun p => k' = p.1) =
      if k' = k then some (k, v) else l.find? (fun p => k' = p.1) := by
  induction l with
  | nil => by_cases h : k' = k <;> simp [insertBinding, h]
  | cons q l ih =>
    obtain ⟨k₁, v₁⟩ := q
    unfold insertBinding
    split
    · by_cases h : k' = k <;> simp [h]
    · -- the binding of the same key is replaced
      rename_i hq
      obtain rfl := compareBytes_eq_iff.mp hq
      by_cases h : k' = k <;> simp [h]
    · -- the key goes further on, past a smaller key
      rename_i hq
      have hne : k₁ ≠ k := by
        rintro rfl
        rw [compareBytes_eq_iff.mpr rfl] at hq
        cases hq
      by_cases h : k' = k₁
      · subst h
        simp [hne]
      · simp [h, ih]

@[simp] theorem get?_insert (d : KeyDir) (k v k' : ByteArray) :
    (d.insert k v).get? k' = if k' = k then some v else d.get? k' := by
  rw [get?_def, get?_def, insert, find?_insertBinding]
  split <;> simp

theorem mem_insertBinding {l : List (ByteArray × ByteArray)} (hp : p ∈ insertBinding k v l) :
    p ∈ l ∨ p = (k, v) := by
  induction l with
  | nil => simpa [insertBinding] using hp
  | cons q l ih =>
    unfold insertBinding at hp
    split at hp
    · simp only [List.mem_cons] at hp ⊢
      tauto
    · simp only [List.mem_cons] at hp ⊢
      tauto
    · simp only [List.mem_cons] at hp ⊢
      rcases hp with rfl | hp
      · exact .inl (.inl rfl)
      · rcases ih hp with h | h
        · exact .inl (.inr h)
        · exact .inr h

theorem Sorted.insertBinding {l : List (ByteArray × ByteArray)}
    (hl : l.Pairwise fun p q => compareBytes p.1 q.1 = .lt) :
    (insertBinding k v l).Pairwise fun p q => compareBytes p.1 q.1 = .lt := by
  induction l with
  | nil => simp [KeyDir.insertBinding]
  | cons q l ih =>
    obtain ⟨k₁, v₁⟩ := q
    obtain ⟨hHead, hRest⟩ := List.pairwise_cons.mp hl
    unfold KeyDir.insertBinding
    split
    · -- the new key comes first, below every key after it
      rename_i hq
      refine List.Pairwise.cons (fun r hr => ?_) hl
      rcases List.mem_cons.mp hr with rfl | hr
      · exact hq
      · exact compareBytes_lt_trans hq (hHead r hr)
    · rename_i hq
      obtain rfl := compareBytes_eq_iff.mp hq
      exact List.Pairwise.cons hHead hRest
    · -- the smaller key stays first, below the new key and every key after it
      rename_i hq
      refine List.Pairwise.cons (fun r hr => ?_) (ih hRest)
      rcases mem_insertBinding hr with hr | rfl
      · exact hHead r hr
      · simp [compareBytes_swap k, hq]

theorem Sorted.insert (hd : d.Sorted) (k v : ByteArray) : (d.insert k v).Sorted :=
  Sorted.insertBinding hd

/-! ## Erasure -/

theorem find?_eraseBinding_of_ne (h : k' ≠ k) (l : List (ByteArray × ByteArray)) :
    (eraseBinding k l).find? (fun p => k' = p.1) = l.find? (fun p => k' = p.1) := by
  induction l with
  | nil => rfl
  | cons q l ih =>
    obtain ⟨k₁, v₁⟩ := q
    unfold eraseBinding
    split
    · rename_i hq
      obtain rfl := compareBytes_eq_iff.mp hq
      simp [h]
    · by_cases hk : k' = k₁ <;> simp [hk, ih]

/-- Bindings increasing by key hold each key once, so erasing the first binding of a key leaves
none. -/
theorem find?_eraseBinding_self {l : List (ByteArray × ByteArray)}
    (hl : l.Pairwise fun p q => compareBytes p.1 q.1 = .lt) :
    (eraseBinding k l).find? (fun p => k = p.1) = none := by
  induction l with
  | nil => rfl
  | cons q l ih =>
    obtain ⟨k₁, v₁⟩ := q
    obtain ⟨hHead, hRest⟩ := List.pairwise_cons.mp hl
    unfold eraseBinding
    split
    · -- every later key is greater, so none is the erased one
      rename_i hq
      obtain rfl := compareBytes_eq_iff.mp hq
      rw [List.find?_eq_none]
      intro q hq' hEq
      have hLt := hHead q hq'
      rw [of_decide_eq_true hEq, compareBytes_eq_iff.mpr rfl] at hLt
      cases hLt
    · rename_i hq
      have hne : k ≠ k₁ := fun h => hq (compareBytes_eq_iff.mpr h)
      simp [hne, ih hRest]

theorem eraseBinding_sublist (l : List (ByteArray × ByteArray)) :
    List.Sublist (eraseBinding k l) l := by
  induction l with
  | nil => exact List.Sublist.slnil
  | cons q l ih =>
    unfold eraseBinding
    split
    · exact List.sublist_cons_self q l
    · exact ih.cons_cons q

theorem Sorted.erase (hd : d.Sorted) (k : ByteArray) : (d.erase k).Sorted :=
  hd.sublist (eraseBinding_sublist _)

theorem get?_erase (hd : d.Sorted) (k k' : ByteArray) :
    (d.erase k).get? k' = if k' = k then none else d.get? k' := by
  rw [get?_def, get?_def, erase]
  split
  · rename_i h
    subst h
    rw [find?_eraseBinding_self hd]
    rfl
  · rename_i h
    rw [find?_eraseBinding_of_ne h]

/-! ## Replaying changes and listing keys -/

theorem Sorted.apply (hd : d.Sorted) (k v : ByteArray) (deleted : Bool) :
    (d.apply k v deleted).Sorted := by
  unfold KeyDir.apply
  split
  · exact hd.erase k
  · exact hd.insert k v

theorem keys_sorted (hd : d.Sorted) : d.keys.Pairwise fun a b => compareBytes a b = .lt := by
  unfold keys
  exact List.pairwise_map.mpr hd

end KeyDir

end LogStore
