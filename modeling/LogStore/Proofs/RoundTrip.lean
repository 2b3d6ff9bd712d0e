import LogStore.Proofs.Scan

/-!
# The record codec both ways

Writing records and reading them back are inverse to each other as far as the format allows.

Reading what was written: valid entries written one after another read back, one record at a
time, as the entries they store (a tombstone with no value), each read taking exactly the bytes
of its record, whatever follows them and however the bytes end; read to the end, they end
cleanly (`decodeAt_encodeAll`, `decodeAll_encodeAll`, `decodeAll_encodeAll_limit`).

Writing what was read: a record read from some bytes is written back as exactly the bytes the
read took, unless the bytes said more than an entry can (`encode_decodeAt_iff`). Two spellings
are read but never written: a flag byte other than `0` and `1` (every nonzero flag marks a
tombstone), and a tombstone with a nonzero value length (the length is covered by the checksum
but no value is read). So among valid entries the record is a faithful name for what an entry
means (`Entry.encode_eq_encode_iff`).

* `ByteSource.decodeAt_zero_entry`: what a successful read took apart, field by field.
* `Entry.record_codec_round_trip`: the three facts together.
-/

namespace LogStore

open Bytes

namespace Entry

theorem byteAt_encode_flag (e : Entry) : byteAt e.encode 12 = e.flag.toNat := by
  rw [encode_eq, ByteArray.append_assoc, byteAt_append_left (by simp [headerSize]),
    byteAt_headerBytes_flag]

theorem readLE_encode_value (e : Entry) : readLE e.encode 8 4 = e.payloadValue.size % 2 ^ 32 := by
  rw [encode_eq, ByteArray.append_assoc, readLE_append_left (by simp [headerSize]),
    readLE_headerBytes_value]

/-- A record is its body behind the body's checksum: bytes that start with the checksum of a
body and go on with that body are its record. -/
theorem encode_eq_of_body {e : Entry} {b : ByteArray} {m : Nat} (hBody : e.body = b.extract 4 m)
    (hCrc : (Checksum.checksum (b.extract 4 m)).toNat = readLE b 0 4) (h4 : 4 ≤ m)
    (hm : m ≤ b.size) : e.encode = b.extract 0 m := by
  rw [encode, hBody, hCrc, leBytes_readLE (by omega), Nat.zero_add, ByteArray.extract_append_extract,
    Nat.min_eq_left (Nat.zero_le _), Nat.max_eq_right h4]

theorem length_le_size_encodeAll (es : List Entry) : es.length ≤ (encodeAll es).size := by
  induction es with
  | nil => simp
  | cons e es ih =>
    have := headerSize_le_encodedSize e
    simp only [encodeAll_cons, ByteArray.size_append, size_encode, List.length_cons, headerSize] at *
    omega

end Entry

namespace ByteSource

/-! ## Reading what was written -/

/-- A valid entry's record reads back as the entry it stores, whatever follows it and however
the bytes end. -/
theorem decodeAt_encode_append {e : Entry} (he : e.Valid) (post : ByteArray) (ending : SourceEnd) :
    decodeAt ⟨e.encode ++ post, ending⟩ 0 = .entry e.stored e.encodedSize :=
  decodeAt_entry_congr (decodeAt_encode he post) (by simp [ByteArray.size_append]) rfl

/-- In records written one after another, the `i`-th record starts where the first `i` end and
reads back as the entry it stores, taking exactly its own bytes. -/
theorem decodeAt_encodeAll {es : List Entry} (hValid : ∀ e ∈ es, e.Valid) (rest : ByteArray)
    (ending : SourceEnd) {i : Nat} (hi : i < es.length) :
    decodeAt ⟨Entry.encodeAll es ++ rest, ending⟩ (Entry.encodeAll (es.take i)).size =
      .entry es[i].stored es[i].encodedSize := by
  have hSplit : Entry.encodeAll es ++ rest =
      Entry.encodeAll (es.take i) ++ (es[i].encode ++ (Entry.encodeAll (es.drop (i + 1)) ++ rest)) := by
    calc Entry.encodeAll es ++ rest = Entry.encodeAll (es.take i ++ es.drop i) ++ rest := by
          rw [List.take_append_drop]
      _ = _ := by
          rw [List.drop_eq_getElem_cons hi, Entry.encodeAll_append, Entry.encodeAll_cons,
            ByteArray.append_assoc, ByteArray.append_assoc]
  have hShift := decodeAt_shift (Entry.encodeAll (es.take i))
    (es[i].encode ++ (Entry.encodeAll (es.drop (i + 1)) ++ rest)) ending 0
  rw [Nat.add_zero, ← hSplit, decodeAt_encode_append (hValid _ (List.getElem_mem hi))] at hShift
  exact hShift

/-- Reading records one after another through records written one after another collects the
entries they store, newest first, and goes on after them, with the limit and the fuel each used
up by one per record. -/
theorem decodeAll_go_encodeAll (pre post : ByteArray) (ending : SourceEnd) (es : List Entry)
    (hValid : ∀ e ∈ es, e.Valid) (limit : Option Nat) (acc : List Entry) (fuel : Nat)
    (hFuel : es.length < fuel) (hLimit : ∀ k, limit = some k → es.length ≤ k) :
    decodeAll.go ⟨pre ++ Entry.encodeAll es ++ post, ending⟩ pre.size limit acc fuel =
      decodeAll.go ⟨pre ++ Entry.encodeAll es ++ post, ending⟩
        (pre.size + (Entry.encodeAll es).size) (limit.map (· - es.length))
        ((es.map Entry.stored).reverse ++ acc) (fuel - es.length) := by
  induction es generalizing pre limit acc fuel with
  | nil => cases limit <;> simp
  | cons e es ih =>
    obtain ⟨fuel, rfl⟩ : ∃ f, fuel = f + 1 := ⟨fuel - 1, by simp at hFuel; omega⟩
    have he := hValid e List.mem_cons_self
    -- a limit that covers every record is not reached before the first
    have hNotZero : (limit == some 0) = false := by
      cases limit with
      | none => rfl
      | some k =>
        have := hLimit k rfl
        simp only [List.length_cons] at this
        simp only [beq_eq_false_iff_ne, ne_eq, Option.some.injEq]
        omega
    have hRead : decodeAt ⟨pre ++ Entry.encodeAll (e :: es) ++ post, ending⟩ pre.size =
        .entry e.stored e.encodedSize := by
      have hShift := decodeAt_shift pre (e.encode ++ (Entry.encodeAll es ++ post)) ending 0
      rw [Nat.add_zero, decodeAt_encode_append he] at hShift
      simpa [ByteArray.append_assoc] using hShift
    have hBytes : pre ++ Entry.encodeAll (e :: es) ++ post =
        pre ++ e.encode ++ Entry.encodeAll es ++ post := by
      simp [ByteArray.append_assoc]
    have hRest := ih (pre ++ e.encode) (fun e' he' => hValid e' (List.mem_cons_of_mem _ he'))
      (limit.map (· - 1)) (e.stored :: acc) fuel (by simpa using hFuel) (by
        intro k hk
        cases limit with
        | none => cases hk
        | some k' =>
          simp only [Option.map_some, Option.some.injEq] at hk
          have := hLimit k' rfl
          simp only [List.length_cons] at this
          omega)
    have hSize : (pre ++ e.encode).size = pre.size + e.encodedSize := by
      simp [ByteArray.size_append]
    rw [hSize] at hRest
    rw [decodeAll.go, hNotZero, hRead]
    simp only [Bool.false_eq_true, if_false]
    rw [hBytes, hRest]
    congr 1
    · simp [ByteArray.size_append, Nat.add_assoc]
    · cases limit <;> simp [Nat.sub_sub, Nat.add_comm]
    · simp
    · simp

/-- Records written one after another, read until the end, give back the entries they store and
then end cleanly. -/
theorem decodeAll_encodeAll {es : List Entry} (hValid : ∀ e ∈ es, e.Valid) :
    decodeAll ⟨Entry.encodeAll es, .clean⟩ 0 none = (es.map Entry.stored, .finished) := by
  have hGo := decodeAll_go_encodeAll ByteArray.empty ByteArray.empty .clean es hValid none []
    ((Entry.encodeAll es).size + 1) (Nat.lt_succ_of_le (Entry.length_le_size_encodeAll es))
    (by intro k hk; cases hk)
  simp only [ByteArray.empty_append, ByteArray.append_empty, ByteArray.size_empty,
    Nat.zero_add, Option.map_none, List.append_nil] at hGo
  obtain ⟨fuel, hFuel⟩ : ∃ f, (Entry.encodeAll es).size + 1 - es.length = f + 1 :=
    ⟨(Entry.encodeAll es).size - es.length, by have := Entry.length_le_size_encodeAll es; omega⟩
  have hEnd : decodeAt ⟨Entry.encodeAll es, .clean⟩ (Entry.encodeAll es).size = .finished :=
    decodeAt_finished_iff.mpr (Nat.le_refl _)
  rw [decodeAll, hGo, hFuel, decodeAll.go, hEnd]
  simp

/-- Any number of records followed by anything, read with a limit of that many records, give
back the entries they store and stop at the limit. -/
theorem decodeAll_encodeAll_limit {es : List Entry} (hValid : ∀ e ∈ es, e.Valid)
    (rest : ByteArray) (ending : SourceEnd) :
    decodeAll ⟨Entry.encodeAll es ++ rest, ending⟩ 0 (some es.length) =
      (es.map Entry.stored, .limit) := by
  have hLength : es.length ≤ (Entry.encodeAll es ++ rest).size := by
    have := Entry.length_le_size_encodeAll es
    simp only [ByteArray.size_append]
    omega
  have hGo := decodeAll_go_encodeAll ByteArray.empty rest ending es hValid (some es.length) []
    ((Entry.encodeAll es ++ rest).size + 1) (Nat.lt_succ_of_le (by simpa using hLength))
    (by intro k hk; cases hk; exact Nat.le_refl _)
  simp only [ByteArray.empty_append, ByteArray.size_empty, Nat.zero_add, Option.map_some,
    Nat.sub_self, List.append_nil] at hGo
  obtain ⟨fuel, hFuel⟩ : ∃ f, (Entry.encodeAll es ++ rest).size + 1 - es.length = f + 1 :=
    ⟨(Entry.encodeAll es ++ rest).size - es.length, by omega⟩
  rw [decodeAll, hGo, hFuel, decodeAll.go]
  simp

/-! ## Writing what was read -/

/-- The length of the payload that a record header announces: the key, and the value unless
the flag marks a tombstone. -/
def payloadLength (b : ByteArray) : Nat :=
  readLE b 4 4 + if byteAt b 12 != 0 then 0 else readLE b 8 4

/-- What a read at the start of some bytes took apart: a key length within the limit, a record
of a header and the announced payload inside the bytes, a checksum that matches everything after
it, and the entry made of the key, the value unless the flag marks a tombstone, and the flag. -/
theorem decodeAt_zero_entry {b : ByteArray} {ending : SourceEnd} {d : Entry} {m : Nat}
    (h : decodeAt ⟨b, ending⟩ 0 = .entry d m) :
    readLE b 4 4 ≤ maxKeySize ∧ m = headerSize + payloadLength b ∧ m ≤ b.size ∧
      (Checksum.checksum (b.extract 4 m)).toNat = readLE b 0 4 ∧
      d = ⟨b.extract headerSize (headerSize + readLE b 4 4),
        if byteAt b 12 != 0 then ByteArray.empty else b.extract (headerSize + readLE b 4 4) m,
        byteAt b 12 != 0⟩ := by
  have hStored : readLE (b.extract 0 headerSize) 0 4 = readLE b 0 4 := readLE_extract (by decide)
  have hKey : readLE (b.extract 0 headerSize) 4 4 = readLE b 4 4 := readLE_extract (by decide)
  have hVal : readLE (b.extract 0 headerSize) 8 4 = readLE b 8 4 := readLE_extract (by decide)
  have hFlag : byteAt (b.extract 0 headerSize) 12 = byteAt b 12 := byteAt_extract (by decide)
  have hLengths : (b.extract 0 headerSize).extract 4 headerSize = b.extract 4 headerSize := by
    rw [ByteArray.extract_extract]
    rfl
  -- the checksum runs over the header's last nine bytes and then the payload
  have hCrc : ∀ p, Checksum.update (Checksum.update 0 (b.extract 4 headerSize))
      (b.extract headerSize (headerSize + p)) = Checksum.checksum (b.extract 4 (headerSize + p)) := by
    intro p
    rw [Checksum.update_append, ByteArray.extract_append_extract, Nat.min_eq_left (by decide),
      Nat.max_eq_right (by omega)]
    rfl
  have hKeyPart : ∀ k p, k ≤ p → (b.extract headerSize (headerSize + p)).extract 0 k =
      b.extract headerSize (headerSize + k) := by
    intro k p hkp
    rw [ByteArray.extract_extract, Nat.add_zero, Nat.min_eq_left (by omega)]
  have hValuePart : ∀ k p, (b.extract headerSize (headerSize + p)).extract k p =
      b.extract (headerSize + k) (headerSize + p) := by
    intro k p
    rw [ByteArray.extract_extract, Nat.min_self]
  obtain ⟨-, hKeyFits, -, hPayload, rfl, hMatch, rfl⟩ := decodeAt_eq_entry_iff.mp h
  -- the read's header is the first bytes of `b`
  simp only [Nat.zero_add, Nat.sub_zero, hStored, hKey, hVal, hFlag, hLengths]
    at hKeyFits hPayload hMatch ⊢
  refine ⟨hKeyFits, rfl, by omega, by rw [← hCrc, hMatch], ?_⟩
  by_cases hDel : (byteAt b 12 != 0) = true <;> simp [hDel, hKeyPart, hValuePart]

/-- **Reading then writing.** Writing back a record read from the start of some bytes gives
exactly the bytes the read took when the flag byte is `0`, or `1` with a zero value length; any
other flag byte, or a tombstone with a value length, is read but written differently. -/
theorem encode_decodeAt_iff {b : ByteArray} {ending : SourceEnd} {d : Entry} {m : Nat}
    (h : decodeAt ⟨b, ending⟩ 0 = .entry d m) :
    d.encode = b.extract 0 m ↔ byteAt b 12 = 0 ∨ (byteAt b 12 = 1 ∧ readLE b 8 4 = 0) := by
  obtain ⟨hk, hm, hLe, hCrc, hd⟩ := decodeAt_zero_entry h
  have h13 : 13 ≤ m := by simp only [headerSize] at hm; omega
  have hDeleted : d.deleted = (byteAt b 12 != 0) := by rw [hd]
  have hPayload : d.payloadValue =
      if byteAt b 12 != 0 then ByteArray.empty else b.extract (headerSize + readLE b 4 4) m := by
    rw [hd, Entry.payloadValue]
    split <;> simp_all
  constructor
  · -- the record written has a flag of `0` or `1`, and a tombstone's has no value length
    intro hEnc
    have hFlag : byteAt b 12 = d.flag.toNat := by
      rw [← Entry.byteAt_encode_flag, hEnc, byteAt_extract (by omega)]
    by_cases hDel : (byteAt b 12 != 0) = true
    · have hOne : byteAt b 12 = 1 := by simpa [Entry.flag, hDeleted, hDel] using hFlag
      have hValue : readLE b 8 4 = 0 := by
        rw [← readLE_extract (j := m) (by omega), ← hEnc, Entry.readLE_encode_value, hPayload]
        simp [hDel]
      exact .inr ⟨hOne, hValue⟩
    · exact .inl (by simpa using hDel)
  · -- each field of the body written is the field read
    intro hCanon
    have hKeySize : d.key.size = readLE b 4 4 := by
      rw [hd]
      simp only [ByteArray.size_extract, payloadLength, headerSize] at hm ⊢
      omega
    have hValueSize : d.payloadValue.size = readLE b 8 4 := by
      rw [hPayload]
      by_cases hDel : (byteAt b 12 != 0) = true
      · have hZero : readLE b 8 4 = 0 := by
          rcases hCanon with hz | ⟨-, hv⟩
          · simp [hz] at hDel
          · exact hv
        simp [hDel, hZero]
      · simp only [hDel, if_false, Bool.false_eq_true, ByteArray.size_extract]
        simp only [payloadLength, hDel, if_false, Bool.false_eq_true, headerSize] at hm ⊢
        omega
    have hFlagByte : ByteArray.empty.push d.flag = b.extract 12 13 := by
      have hFlag : d.flag = (byteAt b 12).toUInt8 := by
        rcases hCanon with hz | ⟨ho, -⟩
        · simp [Entry.flag, hDeleted, hz]
        · simp [Entry.flag, hDeleted, ho]
      rw [hFlag, push_empty_eq_extract (by omega)]
    have hRest : d.key ++ d.payloadValue = b.extract headerSize m := by
      rw [hPayload, hd]
      by_cases hDel : (byteAt b 12 != 0) = true
      · simp only [payloadLength, hDel, if_true] at hm
        simp [hDel, hm]
      · simp only [hDel, if_false, Bool.false_eq_true, ByteArray.extract_append_extract]
        simp only [payloadLength, hDel, if_false, Bool.false_eq_true] at hm
        rw [Nat.min_eq_left (by omega), Nat.max_eq_right (by omega)]
    have hPieces : b.extract 4 m =
        b.extract 4 (4 + 4) ++ b.extract 8 (8 + 4) ++ b.extract 12 13 ++ b.extract headerSize m := by
      rw [ByteArray.extract_eq_extract_append_extract (a := b) (i := 4) (k := m) 13 (by omega) h13,
        ByteArray.extract_eq_extract_append_extract (a := b) (i := 4) (k := 13) 12 (by omega)
          (by omega),
        ByteArray.extract_eq_extract_append_extract (a := b) (i := 4) (k := 12) 8 (by omega)
          (by omega)]
      rfl
    have hBody : d.body = b.extract 4 m := by
      rw [Entry.body_eq, hKeySize, hValueSize, hFlagByte, leBytes_readLE (by omega),
        leBytes_readLE (by omega), ByteArray.append_assoc (c := d.payloadValue), hRest, hPieces]
    exact Entry.encode_eq_of_body hBody hCrc (by omega) hLe

end ByteSource

namespace Entry

/-! ## Records name what entries mean -/

theorem beq_eq_true_iff (x y : ByteArray) : (x == y) = true ↔ x = y := by
  show (x.data == y.data) = true ↔ x = y
  rw [beq_iff_eq, ByteArray.ext_iff]

/-- A record depends only on the entry it stores. -/
theorem encode_stored (e : Entry) : e.stored.encode = e.encode := by
  cases hd : e.deleted <;> simp [stored, encode, body, payloadValue, flag, hd]

/-- Two entries mean the same exactly when they store the same entry. -/
theorem same_iff_stored_eq (a b : Entry) : a.same b = true ↔ a.stored = b.stored := by
  obtain ⟨ka, va, da⟩ := a
  obtain ⟨kb, vb, db⟩ := b
  simp only [same, stored, payloadValue, mk.injEq, Bool.and_eq_true, Bool.or_eq_true,
    beq_eq_true_iff, beq_iff_eq]
  cases da <;> cases db <;> simp [and_comm]

/-- Two valid entries have the same record exactly when they mean the same. -/
theorem encode_eq_encode_iff {a b : Entry} (ha : a.Valid) (hb : b.Valid) :
    a.encode = b.encode ↔ a.same b = true := by
  rw [same_iff_stored_eq]
  constructor
  · intro hEq
    have hA := ByteSource.decodeAt_encode ha ByteArray.empty
    rw [hEq, ByteSource.decodeAt_encode hb] at hA
    simp only [Decoded.entry.injEq] at hA
    exact hA.1.symm
  · intro hStored
    rw [← encode_stored a, hStored, encode_stored]

/-- An entry reads back as one that means the same, a tombstone with no value. -/
theorem stored_same (e : Entry) : e.stored.same e = true ∧ (e.deleted = true → e.stored.value = .empty) := by
  refine ⟨(same_iff_stored_eq _ _).mpr ?_, fun hd => by simp [stored, payloadValue, hd]⟩
  cases hd : e.deleted <;> simp [stored, payloadValue, hd]

/-- **The record codec both ways.** (1) Valid entries written one after another, followed by
anything, read back record by record as entries that mean the same (tombstones with no value),
each read taking exactly its record's `encodedSize` bytes, its length; read to the end, they end
cleanly. (2) A record read from the start of some bytes is written back as exactly the bytes the
read took iff the flag byte is `0`, or `1` with a zero value length. (3) Valid entries have the
same record iff they mean the same. -/
theorem record_codec_round_trip :
    (∀ es : List Entry, (∀ e ∈ es, e.validate = .ok ()) →
      (∀ (rest : ByteArray) (ending : SourceEnd),
        ByteSource.decodeAll ⟨encodeAll es ++ rest, ending⟩ 0 (some es.length) =
            (es.map stored, .limit) ∧
          ∀ (i : Nat) (hi : i < es.length),
            ByteSource.decodeAt ⟨encodeAll es ++ rest, ending⟩ (encodeAll (es.take i)).size =
              .entry es[i].stored es[i].encodedSize) ∧
      ByteSource.decodeAll ⟨encodeAll es, .clean⟩ 0 none = (es.map stored, .finished) ∧
      ∀ e ∈ es, e.stored.same e = true ∧ (e.deleted = true → e.stored.value = .empty) ∧
        e.encodedSize = e.encode.size) ∧
    (∀ (b : ByteArray) (ending : SourceEnd) (d : Entry) (m : Nat),
      ByteSource.decodeAt ⟨b, ending⟩ 0 = .entry d m →
        (d.encode = b.extract 0 m ↔ byteAt b 12 = 0 ∨ (byteAt b 12 = 1 ∧ readLE b 8 4 = 0))) ∧
    ∀ a b : Entry, a.validate = .ok () → b.validate = .ok () →
      (a.encode = b.encode ↔ a.same b = true) := by
  refine ⟨?written, ?read, ?named⟩
  case written =>
    intro es hValidate
    have hValid : ∀ e ∈ es, e.Valid := fun e he => (validate_eq_ok_iff e).mp (hValidate e he)
    refine ⟨fun rest ending => ⟨ByteSource.decodeAll_encodeAll_limit hValid rest ending,
      fun i hi => ByteSource.decodeAt_encodeAll hValid rest ending hi⟩,
      ByteSource.decodeAll_encodeAll hValid, fun e _ => ⟨(stored_same e).1, (stored_same e).2, ?_⟩⟩
    rw [size_encode]
  case read =>
    intro b ending d m h
    exact ByteSource.encode_decodeAt_iff h
  case named =>
    intro a b ha hb
    exact encode_eq_encode_iff ((validate_eq_ok_iff a).mp ha) ((validate_eq_ok_iff b).mp hb)

end Entry

end LogStore
