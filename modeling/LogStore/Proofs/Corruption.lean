import LogStore.Proofs.Damage
import LogStore.Proofs.RoundTrip

/-!
# One changed byte in a record

A record is a checksum followed by the bytes it covers: the two lengths, the flag, the key and
the value. Change one byte of a valid record, xoring it with a nonzero mask, and read the record
back from the start of the bytes, with nothing after them.

CRC-32 catches every changed byte among bytes of a fixed length (`Checksum.update_flipByte_ne`).
A byte step is the table entry of the register's low byte xored with the rest of the register
moved down a byte (`feed_eq_spread`); the 256 table entries have different top bytes, so a step
is injective both in the byte and in the register, and two registers that part at the changed
byte never meet again.

So the whole record never reads back (`ByteSource.decodeAt_flipByte_entry`): a changed stored
checksum no longer matches the bytes it covers, and a changed covered byte changes their
checksum. A changed checksum or payload byte leaves the lengths and the flag as they were, so
the read would take the whole record: it fails. Only a changed length or flag byte can make the
read take fewer bytes, and the checksum then covers other bytes than were written; those can
match.

* `flipped_record_caught_or_short`: reading the changed record fails, or the byte is a length or
  the flag and the read takes a record shorter than the one written.
* `flipped_flag_read_as_tombstone`: the flag byte of a live record of the key `a` and a four-byte
  value, xored with `0xFF`, reads as a tombstone of `a`: the value `92 a7 61 d2` gives the
  record's body the checksum of its first ten bytes with the flag changed.
-/

namespace LogStore

open Bytes

section FlipByte

variable {b : ByteArray} {p i : Nat} {m : UInt8}

theorem data_flipByte : (flipByte b p m).data = b.data.setIfInBounds p (b.get! p ^^^ m) := by
  rfl

@[simp] theorem size_flipByte : (flipByte b p m).size = b.size :=
  ByteArray.size_set! ..

theorem toList_flipByte :
    (flipByte b p m).data.toList = b.data.toList.set p (b.get! p ^^^ m) := by
  rw [data_flipByte, Array.toList_setIfInBounds]

theorem byteAt_lt (b : ByteArray) (i : Nat) : byteAt b i < 256 := by
  unfold byteAt
  split
  · exact UInt8.toNat_lt _
  · omega

theorem byteAt_flipByte_of_ne (h : i ≠ p) : byteAt (flipByte b p m) i = byteAt b i := by
  unfold byteAt
  simp only [size_flipByte]
  split
  · rename_i hi
    simp only [ByteArray.getElem_eq_getElem_data, data_flipByte]
    rw [Array.getElem_setIfInBounds_ne (by simpa using hi) (Ne.symm h)]
  · rfl

theorem byteAt_flipByte_self (hp : p < b.size) :
    byteAt (flipByte b p m) p = (b.get! p ^^^ m).toNat := by
  unfold byteAt
  simp [hp, ByteArray.getElem_eq_getElem_data, data_flipByte]

theorem byteAt_eq_get! (hp : p < b.size) : byteAt b p = (b.get! p).toNat := by
  unfold byteAt
  rw [dif_pos hp]
  obtain ⟨data⟩ := b
  simp [ByteArray.get!, getElem!_pos data p hp, ByteArray.getElem_eq_getElem_data]

theorem byteAt_flipByte_ne (hp : p < b.size) (hm : m ≠ 0) :
    byteAt (flipByte b p m) p ≠ byteAt b p := by
  rw [byteAt_flipByte_self hp, byteAt_eq_get! hp]
  intro h
  have h' : b.get! p ^^^ m = b.get! p ^^^ 0 := by
    rw [UInt8.xor_zero]
    exact UInt8.toNat_inj.mp h
  exact hm ((UInt8.xor_right_inj _).mp h')

theorem readLE_flipByte_of_outside {w : Nat} (h : p < i ∨ i + w ≤ p) :
    readLE (flipByte b p m) i w = readLE b i w := by
  induction w generalizing i with
  | zero => rfl
  | succ w ih => rw [readLE, readLE, byteAt_flipByte_of_ne (by omega), ih (by omega)]

theorem readLE_flipByte_ne {w : Nat} (hi : i ≤ p) (hw : p < i + w) (hp : p < b.size)
    (hm : m ≠ 0) : readLE (flipByte b p m) i w ≠ readLE b i w := by
  induction w generalizing i with
  | zero => omega
  | succ w ih =>
    rw [readLE, readLE]
    by_cases hip : i = p
    · -- the low digit differs and the others are untouched
      subst hip
      rw [readLE_flipByte_of_outside (.inl (by omega))]
      have hNe := byteAt_flipByte_ne (m := m) hp hm
      have hLt := byteAt_lt (flipByte b i m) i
      have hLt' := byteAt_lt b i
      omega
    · rw [byteAt_flipByte_of_ne hip]
      have hNe := ih (i := i + 1) (by omega) (by omega)
      omega

theorem get!_extract {j : Nat} (hi : i ≤ p) (hj : p < j) (hp : p < b.size) :
    (b.extract i j).get! (p - i) = b.get! p := by
  have hp' : p < b.data.size := hp
  have hIn : p - i < min j b.data.size - i := by omega
  show (b.extract i j).data[p - i]! = b.data[p]!
  rw [ByteArray.data_extract, Array.getElem!_eq_getD, Array.getElem!_eq_getD,
    Array.getD_eq_getD_getElem?, Array.getD_eq_getD_getElem?, Array.getElem?_extract, if_pos hIn,
    Nat.add_sub_cancel' hi]

theorem extract_flipByte_of_lt {j : Nat} (h : p < i) :
    (flipByte b p m).extract i j = b.extract i j := by
  apply ByteArray.ext
  rw [← Array.toList_inj]
  simp only [ByteArray.data_extract, Array.toList_extract, toList_flipByte,
    List.extract_eq_take_drop, List.drop_set_of_lt h]

/-- A byte changed inside a slice is the same byte changed in the slice. -/
theorem extract_flipByte {j : Nat} (hi : i ≤ p) (hj : p < j) (hp : p < b.size) :
    (flipByte b p m).extract i j = flipByte (b.extract i j) (p - i) m := by
  apply ByteArray.ext
  rw [← Array.toList_inj]
  simp only [ByteArray.data_extract, Array.toList_extract, toList_flipByte,
    List.extract_eq_take_drop, List.drop_set, if_neg (Nat.not_lt.mpr hi), List.take_set,
    get!_extract hi hj hp]

end FlipByte

namespace Checksum

/-- One byte into the register, once the byte is xored in: the table entry of the low byte,
xored with the other three bytes moved down. -/
def spread (c : UInt32) : UInt32 :=
  tableEntry (c &&& 0xFF).toNat ^^^ (c >>> 8)

theorem odd_iff (c : UInt32) : c &&& 1 = 1 ↔ c.toNat.testBit 0 = true := by
  rw [← UInt32.toNat_inj, UInt32.toNat_and]
  simp [Nat.and_one_is_mod, Nat.testBit_zero]

theorem shiftRight_xor (a b s : UInt32) : (a ^^^ b) >>> s = (a >>> s) ^^^ (b >>> s) := by
  apply UInt32.toNat_inj.mp
  simp only [UInt32.toNat_shiftRight, UInt32.toNat_xor, Nat.shiftRight_xor_distrib]

theorem xor_xor_cancel (p a b : UInt32) : p ^^^ a ^^^ (p ^^^ b) = a ^^^ b := by
  rw [UInt32.xor_assoc, ← UInt32.xor_assoc a, UInt32.xor_comm a p, UInt32.xor_assoc p a b,
    ← UInt32.xor_assoc p p, UInt32.xor_self, UInt32.zero_xor]

/-- A bit step is linear over exclusive or. -/
theorem step_xor (a b : UInt32) : step (a ^^^ b) = step a ^^^ step b := by
  have hLow : (a ^^^ b).toNat.testBit 0 = (a.toNat.testBit 0 ^^ b.toNat.testBit 0) := by
    rw [UInt32.toNat_xor, Nat.testBit_xor]
  unfold step
  simp only [odd_iff, hLow, shiftRight_xor]
  -- the polynomial is xored in once for each odd register, and twice cancels; two even registers
  -- are closed by the simplification
  cases a.toNat.testBit 0 <;> cases b.toNat.testBit 0 <;>
    simp only [Bool.xor_false, Bool.xor_true, Bool.not_true, Bool.not_false, Bool.false_eq_true,
      ↓reduceIte]
  case false.true => ac_rfl
  case true.false => ac_rfl
  case true.true => exact (xor_xor_cancel ..).symm

theorem repeat_step_xor (n : Nat) (a b : UInt32) :
    Nat.repeat step n (a ^^^ b) = Nat.repeat step n a ^^^ Nat.repeat step n b := by
  induction n with
  | zero => rfl
  | succ n ih => simp only [Nat.repeat, ih, step_xor]

theorem tableEntry_xor (i j : Nat) : tableEntry (i ^^^ j) = tableEntry i ^^^ tableEntry j := by
  simp only [tableEntry, Nat.toUInt32_eq, UInt32.ofNat_xor, repeat_step_xor]

/-- Only the byte `0` has a table entry with a clear top byte. -/
theorem tableEntry_top_zero : ∀ k < 256, tableEntry k >>> 24 = 0 → k = 0 := by
  decide +kernel

/-- The 256 table entries have different top bytes: the table is linear, and only `0` has a
clear top byte. -/
theorem tableEntry_top_inj {i j : Nat} (hi : i < 256) (hj : j < 256)
    (h : tableEntry i >>> 24 = tableEntry j >>> 24) : i = j := by
  have hk : i ^^^ j < 256 := Nat.xor_lt_two_pow (n := 8) hi hj
  have hZero : tableEntry (i ^^^ j) >>> 24 = 0 := by
    rw [tableEntry_xor, shiftRight_xor, h, UInt32.xor_self]
  have := tableEntry_top_zero _ hk hZero
  exact Nat.eq_of_xor_eq_zero this

theorem lowByte_lt (c : UInt32) : (c &&& 0xFF).toNat < 256 := by
  rw [UInt32.toNat_and]
  exact Nat.lt_of_le_of_lt Nat.and_le_right (by decide)

/-- The register moved down a byte has nothing left in its top byte. -/
theorem spread_top (c : UInt32) : spread c >>> 24 = tableEntry (c &&& 0xFF).toNat >>> 24 := by
  apply UInt32.toNat_inj.mp
  simp only [spread, UInt32.toNat_shiftRight, UInt32.toNat_xor, Nat.shiftRight_xor_distrib,
    UInt32.reduceToNat, Nat.reduceMod]
  have hHigh : c.toNat >>> 8 >>> 24 = 0 := by
    rw [Nat.shiftRight_eq_div_pow, Nat.shiftRight_eq_div_pow, Nat.div_div_eq_div_mul]
    have := c.toNat_lt
    simp only [Nat.reducePow, Nat.reduceMul]
    omega
  rw [hHigh, Nat.xor_zero]

theorem spread_injective : Function.Injective spread := by
  intro c₁ c₂ h
  -- the top byte picks the table entry, hence the low byte; the entry then gives the rest
  have hLow : (c₁ &&& 0xFF).toNat = (c₂ &&& 0xFF).toNat :=
    tableEntry_top_inj (lowByte_lt c₁) (lowByte_lt c₂)
      (by rw [← spread_top, ← spread_top, h])
  have hHigh : c₁ >>> 8 = c₂ >>> 8 := by
    unfold spread at h
    rw [hLow] at h
    exact (UInt32.xor_right_inj _).mp h
  have hLow' := hLow
  have hHigh' := congrArg UInt32.toNat hHigh
  simp only [UInt32.toNat_and, UInt32.toNat_shiftRight, UInt32.reduceToNat, Nat.reduceMod,
    Nat.shiftRight_eq_div_pow] at hLow' hHigh'
  rw [show (255 : Nat) = 2 ^ 8 - 1 from rfl, Nat.and_two_pow_sub_one_eq_mod,
    Nat.and_two_pow_sub_one_eq_mod] at hLow'
  apply UInt32.toNat_inj.mp
  omega

theorem shiftRight_xor_byte (r : UInt32) (z : UInt8) : (r ^^^ z.toUInt32) >>> 8 = r >>> 8 := by
  apply UInt32.toNat_inj.mp
  simp only [UInt32.toNat_shiftRight, UInt32.toNat_xor, Nat.shiftRight_xor_distrib]
  have hz : z.toUInt32.toNat >>> ((8 : UInt32).toNat % 32) = 0 := by
    rw [UInt8.toNat_toUInt32, Nat.shiftRight_eq_div_pow]
    have := z.toNat_lt
    simp
    omega
  rw [hz, Nat.xor_zero]

theorem table_getD {n : Nat} (hn : n < 256) : table.getD n 0 = tableEntry n := by
  simp [table, Array.getD_eq_getD_getElem?, hn]

theorem feed_eq_spread (r : UInt32) (z : UInt8) : feed r z = spread (r ^^^ z.toUInt32) := by
  rw [feed, spread, table_getD (lowByte_lt _), shiftRight_xor_byte]

/-- The checksum without its table: each byte steps the register through `spread`. -/
theorem update_eq_foldl_spread (c : UInt32) (b : ByteArray) :
    update c b = ~~~ (b.data.toList.foldl (fun r z => spread (r ^^^ z.toUInt32)) (~~~ c)) := by
  have hFeed : feed = fun r z => spread (r ^^^ z.toUInt32) :=
    funext fun r => funext (feed_eq_spread r)
  rw [update, foldl_eq_toList, hFeed]

theorem feed_inj_byte {r : UInt32} {x y : UInt8} (h : feed r x = feed r y) : x = y := by
  rw [feed_eq_spread, feed_eq_spread] at h
  exact UInt8.toUInt32_inj.mp ((UInt32.xor_right_inj r).mp (spread_injective h))

theorem feed_inj_register {r₁ r₂ : UInt32} {z : UInt8} (h : feed r₁ z = feed r₂ z) :
    r₁ = r₂ := by
  rw [feed_eq_spread, feed_eq_spread] at h
  exact (UInt32.xor_left_inj _).mp (spread_injective h)

theorem foldl_feed_inj {r₁ r₂ : UInt32} (zs : List UInt8)
    (h : zs.foldl feed r₁ = zs.foldl feed r₂) : r₁ = r₂ := by
  induction zs generalizing r₁ r₂ with
  | nil => exact h
  | cons z zs ih => exact feed_inj_register (ih h)

/-- Changing one byte changes the register: the registers part at the changed byte, and no
bytes after it bring them together again. -/
theorem foldl_feed_set_ne {l : List UInt8} {q : Nat} (hq : q < l.length) {v : UInt8}
    (hv : v ≠ l[q]) (r : UInt32) : (l.set q v).foldl feed r ≠ l.foldl feed r := by
  have hSplit : l = l.take q ++ l[q] :: l.drop (q + 1) := by simp
  rw [List.set_eq_take_append_cons_drop, if_pos hq]
  conv => rhs; rw [hSplit]
  simp only [List.foldl_append, List.foldl_cons]
  intro h
  exact hv (feed_inj_byte (foldl_feed_inj _ h))

/-- **CRC-32 catches every changed byte.** -/
theorem update_flipByte_ne (c : UInt32) {b : ByteArray} {q : Nat} (hq : q < b.size) {m : UInt8}
    (hm : m ≠ 0) : update c (flipByte b q m) ≠ update c b := by
  have hq' : q < b.data.toList.length := by simpa using hq
  have hGet : b.get! q = b.data.toList[q] := by
    obtain ⟨data⟩ := b
    simp [ByteArray.get!, getElem!_pos data q hq]
  have hv : b.get! q ^^^ m ≠ b.data.toList[q] := by
    rw [← hGet]
    intro h
    exact hm ((UInt8.xor_right_inj _).mp (h.trans (UInt8.xor_zero).symm))
  simp only [update, foldl_eq_toList, toList_flipByte]
  intro h
  exact foldl_feed_set_ne hq' hv (~~~ c) (by simpa using congrArg (~~~ ·) h)

end Checksum

namespace Entry

theorem size_body (e : Entry) : e.body.size + 4 = e.encodedSize := by
  simp [body_eq, encodedSize, ByteArray.size_append, headerSize]
  omega

theorem extract_encode_body (e : Entry) : e.encode.extract 4 e.encodedSize = e.body := by
  have hSize :
      e.encodedSize = (leBytes (Checksum.checksum e.body).toNat 4).size + e.body.size := by
    rw [size_leBytes, ← size_body]
    omega
  rw [hSize]
  exact ByteArray.extract_append_eq_right (by simp) rfl

theorem readLE_encode_stored (e : Entry) :
    readLE e.encode 0 4 = (Checksum.checksum e.body).toNat := by
  rw [encode_eq, ByteArray.append_assoc, readLE_append_left (by simp [headerSize]),
    readLE_headerBytes_stored, Nat.mod_eq_of_lt (UInt32.toNat_lt _)]

theorem readLE_encode_key (e : Entry) : readLE e.encode 4 4 = e.key.size % 2 ^ 32 := by
  rw [encode_eq, ByteArray.append_assoc, readLE_append_left (by simp [headerSize]),
    readLE_headerBytes_key]

/-- A valid record announces the payload it holds. -/
theorem payloadLength_encode {e : Entry} (he : e.Valid) :
    ByteSource.payloadLength e.encode = e.key.size + e.payloadValue.size := by
  obtain ⟨hk, hv⟩ := he
  simp only [maxKeySize, maxValueSize] at hk hv
  unfold ByteSource.payloadLength
  rw [readLE_encode_key, readLE_encode_value, byteAt_encode_flag, flag_ne_zero,
    Nat.mod_eq_of_lt (by omega), Nat.mod_eq_of_lt (by omega)]
  cases hd : e.deleted <;> simp [payloadValue, hd]

end Entry

namespace ByteSource

/-- **A changed byte is caught unless it shortens the record.** Reading a valid record with one
byte changed gives an entry only when the byte is a length or the flag, and then the read stops
before the record's end: the whole record never reads back, since either its stored checksum or
the bytes it covers changed, and a changed checksum or payload byte leaves the lengths as they
were. -/
theorem decodeAt_flipByte_entry {e : Entry} (he : e.Valid) {p : Nat} (hp : p < e.encodedSize)
    {m : UInt8} (hm : m ≠ 0) {d : Entry} {used : Nat}
    (h : decodeAt ⟨flipByte e.encode p m, .clean⟩ 0 = .entry d used) :
    4 ≤ p ∧ p < headerSize ∧ used < e.encodedSize := by
  obtain ⟨-, hUsed, hLe, hCrc, -⟩ := decodeAt_zero_entry h
  have hp' : p < e.encode.size := by simpa using hp
  have hShort : used < e.encodedSize := by
    refine Nat.lt_of_le_of_ne (by simpa using hLe) fun hEq => ?_
    rw [hEq] at hCrc
    by_cases hp4 : p < 4
    · -- the stored checksum changed and the bytes it covers did not
      rw [extract_flipByte_of_lt hp4, Entry.extract_encode_body] at hCrc
      exact readLE_flipByte_ne (Nat.zero_le p) hp4 hp' hm
        (hCrc.symm.trans (Entry.readLE_encode_stored e).symm)
    · -- one byte the checksum covers changed and the stored checksum did not
      have hBody : p - 4 < e.body.size := by
        have := Entry.size_body e
        omega
      rw [extract_flipByte (by omega) hp hp', Entry.extract_encode_body,
        readLE_flipByte_of_outside (.inr (by omega)), Entry.readLE_encode_stored] at hCrc
      exact Checksum.update_flipByte_ne 0 hBody hm (UInt32.toNat_inj.mp hCrc)
  have hInside : 4 ≤ p ∧ p < headerSize := by
    -- outside the lengths and the flag the read takes the record's own length
    by_contra hOut
    simp only [headerSize] at hOut
    have hLen : payloadLength (flipByte e.encode p m) = payloadLength e.encode := by
      unfold payloadLength
      rw [readLE_flipByte_of_outside (by omega), readLE_flipByte_of_outside (by omega),
        byteAt_flipByte_of_ne (by omega)]
    rw [hLen, Entry.payloadLength_encode he] at hUsed
    simp only [Entry.encodedSize] at hShort
    omega
  exact ⟨hInside.1, hInside.2, hShort⟩

end ByteSource

/-- **One changed byte in a record.** Reading a valid record with one byte xored with a nonzero
mask fails, unless the byte is one of the lengths or the flag and the read stops short of the
record's end, taking a record other than the one written. -/
theorem flipped_record_caught_or_short {e : Entry} (he : e.Valid) {p : Nat}
    (hp : p < e.encodedSize) {m : UInt8} (hm : m ≠ 0) :
    (∃ f used, ByteSource.decodeAt ⟨flipByte e.encode p m, .clean⟩ 0 = .failed f used) ∨
      4 ≤ p ∧ p < headerSize ∧ ∃ d used,
        ByteSource.decodeAt ⟨flipByte e.encode p m, .clean⟩ 0 = .entry d used ∧
          used < e.encodedSize := by
  cases hd : ByteSource.decodeAt ⟨flipByte e.encode p m, .clean⟩ 0 with
  | failed f used => exact .inl ⟨f, used, rfl⟩
  | finished =>
    -- a record is never empty
    have hEmpty := ByteSource.decodeAt_finished_iff.mp hd
    simp only [size_flipByte, Entry.size_encode] at hEmpty
    omega
  | entry d used =>
    obtain ⟨h4, h13, hShort⟩ := ByteSource.decodeAt_flipByte_entry he hp hm hd
    exact .inr ⟨h4, h13, d, used, rfl, hShort⟩

theorem flipped_record_caught_or_short_at_checksum :
    let e : Entry := .live ⟨#[97]⟩ ⟨#[49]⟩
    e.Valid ∧ 0 < e.encodedSize ∧ (1 : UInt8) ≠ 0 ∧
      ((∃ f used, ByteSource.decodeAt ⟨flipByte e.encode 0 1, .clean⟩ 0 = .failed f used) ∨
        4 ≤ 0 ∧ 0 < headerSize ∧ ∃ d used,
          ByteSource.decodeAt ⟨flipByte e.encode 0 1, .clean⟩ 0 = .entry d used ∧
            used < e.encodedSize) := by
  intro e
  have he : e.Valid := ⟨by decide, by decide⟩
  exact ⟨he, by decide, by decide, flipped_record_caught_or_short he (by decide) (by decide)⟩

/-- **A flag byte that turns a live record into a tombstone.** The record of the key `a` and the
value `92 a7 61 d2`, its flag byte xored with `0xFF`, reads as a tombstone of `a` taking 14 of
its 18 bytes: the checksum of the key length, the value length, the changed flag and the key is
the checksum stored. -/
theorem flipped_flag_read_as_tombstone :
    let e : Entry := .live ⟨#[97]⟩ ⟨#[0x92, 0xa7, 0x61, 0xd2]⟩
    e.Valid ∧ 12 < e.encodedSize ∧ (0xFF : UInt8) ≠ 0 ∧
      ByteSource.decodeAt ⟨flipByte e.encode 12 0xFF, .clean⟩ 0 =
        .entry (.tombstone ⟨#[97]⟩) 14 := by
  intro e
  -- the changed record and its header, byte by byte
  have hBody : e.body = ⟨#[1, 0, 0, 0, 4, 0, 0, 0, 0, 0x61, 0x92, 0xa7, 0x61, 0xd2]⟩ := by
    decide +kernel
  have hSum : Checksum.checksum ⟨#[1, 0, 0, 0, 4, 0, 0, 0, 0, 0x61, 0x92, 0xa7, 0x61, 0xd2]⟩ =
      0x3e48ede2 := by
    rw [Checksum.checksum, Checksum.update_eq_foldl_spread]
    decide +kernel
  have hB : flipByte e.encode 12 0xFF =
      ⟨#[0xe2, 0xed, 0x48, 0x3e, 1, 0, 0, 0, 4, 0, 0, 0, 0xff, 0x61, 0x92, 0xa7, 0x61,
        0xd2]⟩ := by
    rw [show e.encode = leBytes (Checksum.checksum e.body).toNat 4 ++ e.body from rfl, hBody,
      hSum]
    decide +kernel
  generalize hH : (⟨#[0xe2, 0xed, 0x48, 0x3e, 1, 0, 0, 0, 4, 0, 0, 0, 0xff]⟩ : ByteArray) = H
  have hSize : (flipByte e.encode 12 0xFF).size = 18 := by rw [hB]; rfl
  have hHeader : (flipByte e.encode 12 0xFF).extract 0 13 = H := by rw [hB, ← hH]; decide
  have hPayload : (flipByte e.encode 12 0xFF).extract 13 14 = ⟨#[0x61]⟩ := by rw [hB]; decide
  have hStored : readLE H 0 4 = 0x3e48ede2 := by rw [← hH]; decide
  have hKey : readLE H 4 4 = 1 := by rw [← hH]; decide
  have hValue : readLE H 8 4 = 4 := by rw [← hH]; decide
  have hFlag : byteAt H 12 = 0xff := by rw [← hH]; decide
  have hCrc : Checksum.update (Checksum.update 0 (H.extract 4 13)) ⟨#[0x61]⟩ = 0x3e48ede2 := by
    rw [← hH, Checksum.update_append, Checksum.update_eq_foldl_spread]
    decide +kernel
  have hKeyPart : (⟨#[0x61]⟩ : ByteArray).extract 0 1 = ⟨#[97]⟩ := by decide
  refine ⟨⟨by decide, by decide⟩, by decide, by decide, ?_⟩
  simp only [ByteSource.decodeAt, hSize, Nat.sub_zero, Nat.zero_add, headerSize, hHeader,
    hStored, hKey, hValue, hFlag, maxKeySize, maxValueSize]
  simp [hPayload, hCrc, hKeyPart, Entry.tombstone]

end LogStore
