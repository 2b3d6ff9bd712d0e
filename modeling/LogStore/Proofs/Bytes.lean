import Mathlib
import LogStore.Entry.Encode

/-!
# Little-endian words and checksums over concatenations

The record format is built from three byte-level helpers: fixed-width little-endian words
(`Bytes.leBytes`, read back by `Bytes.readLE`), single bytes (`Bytes.byteAt`) and the running
CRC-32 (`Checksum.update`). Every fact about records used later reduces to how these behave on
a concatenation `a ++ b`: a word written after `a` is read back at offset `a.size`, and a
checksum continued over `b` from the checksum of `a` is the checksum of `a ++ b`.

* `pushLE_eq_append`: appending a word is concatenation with the word's bytes.
* `readLE_middle`: a word read where it was written gives its value modulo `256 ^ w`;
  `leBytes_readLE`: conversely, the bytes a word is read from are the word written back.
* `byteAt_extract`, `readLE_extract`: reading inside a prefix reads the whole.
* `Checksum.update_append`: checksumming in pieces agrees with checksumming the whole.
-/

namespace LogStore.Bytes

theorem push_eq_append (b : ByteArray) (x : UInt8) :
    b.push x = b ++ ByteArray.empty.push x := by
  ext1
  simp [ByteArray.data_append, ByteArray.push]

theorem pushLE_eq_append (b : ByteArray) (n w : Nat) : pushLE b n w = b ++ leBytes n w := by
  induction w generalizing b n with
  | zero => simp [pushLE, leBytes]
  | succ w ih =>
    simp only [leBytes, pushLE]
    rw [ih, ih (ByteArray.empty.push _), push_eq_append, ByteArray.append_assoc]

theorem leBytes_succ (n w : Nat) :
    leBytes n (w + 1) = ByteArray.empty.push (n % 256).toUInt8 ++ leBytes (n / 256) w := by
  simp only [leBytes, pushLE]
  rw [pushLE_eq_append]
  rfl

@[simp] theorem size_leBytes (n w : Nat) : (leBytes n w).size = w := by
  induction w generalizing n with
  | zero => rfl
  | succ w ih =>
    simp [leBytes_succ, ByteArray.size_append, ih]
    omega

theorem byteAt_append_left {a b : ByteArray} {i : Nat} (h : i < a.size) :
    byteAt (a ++ b) i = byteAt a i := by
  have h' : i < (a ++ b).size := by simp [ByteArray.size_append]; omega
  unfold byteAt
  rw [dif_pos h', dif_pos h, ByteArray.getElem_append_left h]

theorem byteAt_append_right {a b : ByteArray} {i : Nat} (h : a.size ≤ i) :
    byteAt (a ++ b) i = byteAt b (i - a.size) := by
  unfold byteAt
  by_cases hb : i - a.size < b.size
  · have h' : i < (a ++ b).size := by simp [ByteArray.size_append]; omega
    rw [dif_pos h', dif_pos hb, ByteArray.getElem_append_right h]
  · have h' : ¬ i < (a ++ b).size := by simp [ByteArray.size_append]; omega
    rw [dif_neg h', dif_neg hb]

theorem byteAt_push_self (b : ByteArray) (x : UInt8) : byteAt (b.push x) b.size = x.toNat := by
  rw [push_eq_append, byteAt_append_right (Nat.le_refl _), Nat.sub_self]
  rfl

theorem readLE_append_left {a b : ByteArray} {i w : Nat} (h : i + w ≤ a.size) :
    readLE (a ++ b) i w = readLE a i w := by
  induction w generalizing i with
  | zero => rfl
  | succ w ih =>
    simp [readLE, byteAt_append_left (show i < a.size by omega),
      ih (by omega : i + 1 + w ≤ a.size)]

theorem readLE_append_right {a b : ByteArray} {i w : Nat} (h : a.size ≤ i) :
    readLE (a ++ b) i w = readLE b (i - a.size) w := by
  induction w generalizing i with
  | zero => rfl
  | succ w ih =>
    simp only [readLE, byteAt_append_right h, ih (by omega : a.size ≤ i + 1)]
    rw [show i + 1 - a.size = i - a.size + 1 by omega]

theorem readLE_leBytes (n w : Nat) : readLE (leBytes n w) 0 w = n % 256 ^ w := by
  induction w generalizing n with
  | zero => simp [readLE]; omega
  | succ w ih =>
    rw [leBytes_succ, readLE, byteAt_append_left (by simp), readLE_append_right (by simp)]
    simp only [ByteArray.size_push, ByteArray.size_empty, Nat.sub_self, ih]
    have h0 : byteAt (ByteArray.empty.push (n % 256).toUInt8) 0 = n % 256 := by
      change (n % 256).toUInt8.toNat = n % 256
      simp
    rw [h0, Nat.pow_succ', Nat.mod_mul]

theorem readLE_middle (a c : ByteArray) (n w i : Nat) (h : a.size = i) :
    readLE (a ++ leBytes n w ++ c) i w = n % 256 ^ w := by
  rw [readLE_append_left (by simp [ByteArray.size_append]; omega),
    readLE_append_right (by omega), h, Nat.sub_self, readLE_leBytes]

theorem readLE_lt (b : ByteArray) (i w : Nat) : readLE b i w < 256 ^ w := by
  induction w generalizing i with
  | zero => simp [readLE]
  | succ w ih =>
    have hb : byteAt b i < 256 := by
      unfold byteAt
      split
      · exact UInt8.toNat_lt _
      · omega
    have := ih (i + 1)
    rw [readLE, Nat.pow_succ']
    omega

theorem push_empty_eq_extract {b : ByteArray} {i : Nat} (hi : i < b.size) :
    ByteArray.empty.push (byteAt b i).toUInt8 = b.extract i (i + 1) := by
  rw [ByteArray.extract_add_one (by omega)]
  have hByte : (byteAt b i).toUInt8 = b[i] := by
    simp [byteAt, hi]
  rw [hByte]
  rfl

/-- The bytes a word is read from are the word written back. -/
theorem leBytes_readLE {b : ByteArray} {i w : Nat} (h : i + w ≤ b.size) :
    leBytes (readLE b i w) w = b.extract i (i + w) := by
  induction w generalizing i with
  | zero => simp [leBytes, pushLE]
  | succ w ih =>
    have hByte : byteAt b i < 256 := by
      unfold byteAt
      split
      · exact UInt8.toNat_lt _
      · omega
    have hLow : (byteAt b i + 256 * readLE b (i + 1) w) % 256 = byteAt b i := by omega
    have hHigh : (byteAt b i + 256 * readLE b (i + 1) w) / 256 = readLE b (i + 1) w := by omega
    rw [readLE, leBytes_succ, hLow, hHigh, ih (by omega), push_empty_eq_extract (by omega),
      ByteArray.extract_append_extract]
    congr 1 <;> omega

theorem byteAt_extract {b : ByteArray} {i j : Nat} (hj : i < j) :
    byteAt (b.extract 0 j) i = byteAt b i := by
  unfold byteAt
  by_cases hb : i < b.size
  · have hi : i < (b.extract 0 j).size := by simp; omega
    rw [dif_pos hi, dif_pos hb, ByteArray.getElem_extract]
    simp
  · have hi : ¬ i < (b.extract 0 j).size := by simp; omega
    rw [dif_neg hi, dif_neg hb]

theorem readLE_extract {b : ByteArray} {i w j : Nat} (h : i + w ≤ j) :
    readLE (b.extract 0 j) i w = readLE b i w := by
  induction w generalizing i with
  | zero => rfl
  | succ w ih => rw [readLE, readLE, byteAt_extract (by omega), ih (by omega)]

end LogStore.Bytes

namespace LogStore.Checksum

theorem foldlM_loop_eq {β : Type} (f : β → UInt8 → β) (as : ByteArray) :
    ∀ (i j : Nat) (b : β), as.size ≤ i + j →
      ByteArray.foldlM.loop (m := Id) (fun b a => pure (f b a)) as as.size (Nat.le_refl _) i j b =
        (as.data.toList.drop j).foldl f b := by
  intro i
  induction i with
  | zero =>
    intro j b hj
    unfold ByteArray.foldlM.loop
    rw [dif_neg (by omega), List.drop_of_length_le (by simp; omega)]
    rfl
  | succ i ih =>
    intro j b hj
    unfold ByteArray.foldlM.loop
    split
    · rename_i hlt
      show ByteArray.foldlM.loop (m := Id) _ as as.size _ i (j + 1) (f b as[j]) = _
      rw [ih (j + 1) _ (by omega)]
      have hDrop : as.data.toList.drop j = as[j] :: as.data.toList.drop (j + 1) := by
        rw [List.drop_eq_getElem_cons (by simpa using hlt)]
        simp [ByteArray.getElem_eq_getElem_data]
      rw [hDrop]
      rfl
    · rw [List.drop_of_length_le (by simp; omega)]
      rfl

theorem foldl_eq_toList {β : Type} (f : β → UInt8 → β) (init : β) (b : ByteArray) :
    b.foldl f init = b.data.toList.foldl f init := by
  unfold ByteArray.foldl ByteArray.foldlM
  rw [dif_pos (Nat.le_refl _)]
  exact foldlM_loop_eq f b _ 0 init (by omega)

/-- Checksumming in pieces gives the checksum of the whole. -/
theorem update_append (c : UInt32) (a b : ByteArray) :
    update (update c a) b = update c (a ++ b) := by
  simp only [update, foldl_eq_toList, ByteArray.toList_data_append, List.foldl_append,
    UInt32.not_not]

theorem checksum_append (a b : ByteArray) : update (checksum a) b = checksum (a ++ b) :=
  update_append 0 a b

end LogStore.Checksum
