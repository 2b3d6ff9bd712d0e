import LogStore.Proofs.RoundTrip
import LogStore.Cell.Codec

/-!
# The cell codec both ways

A cell is written in a form fixed by its type: one byte `0x02`, eight bytes of two's complement,
or a four-byte length and that many bytes (`Cell.encoding`). The length field holds the length
only below `2 ^ 32`, so the codec is faithful exactly for the cells the format can describe
(`Cell.Encodable`); above that bound the field loses the high bits.

* `append_own_type`: a cell appended under its own type is its encoding, and never refused.
* `decode_eq_ok_iff`: a read succeeds exactly on an encoding followed by anything, and returns
  that cell and the bytes after it. So cells read one after another from encodings written one
  after another come back in order (`decodeAll_appendEach`), and each cell has one encoding.
* `decode_eq_error`, `append_of_refused`: a refused read or write leaves its input as it was.
* `decode_short_iff`: a read asks for more data exactly on a proper prefix of an encoding.
* `cell_codec_round_trip`: the four facts together.
-/

namespace LogStore

namespace Bytes

theorem extract_split (b : ByteArray) {i j k : Nat} (hij : i ≤ j) (hjk : j ≤ k) :
    b.extract i j ++ b.extract j k = b.extract i k := by
  rw [ByteArray.extract_append_extract, Nat.min_eq_left hij, Nat.max_eq_right hjk]

theorem extract_middle (a b c : ByteArray) :
    (a ++ b ++ c).extract a.size (a.size + b.size) = b := by
  have h := ByteArray.extract_append_size_add (a := a) (b := b ++ c) (i := 0) (j := b.size)
  rw [Nat.add_zero, ByteArray.extract_append_eq_left rfl] at h
  rw [ByteArray.append_assoc, h]

/-- `k` zero bytes. -/
def zeros (k : Nat) : ByteArray := ⟨Array.replicate k 0⟩

@[simp] theorem size_zeros (k : Nat) : (zeros k).size = k := by
  simp [zeros, ByteArray.size]

end Bytes

namespace CellType

theorem eq_of_toNat {t : CellType} {k : Nat} (h : t.code.toNat = k) :
    t = ⟨k.toUInt8⟩ := by
  obtain ⟨code⟩ := t
  simp only [CellType.mk.injEq]
  subst h
  simp

/-- Every type is one of the three known ones or an unknown one, above `2`. -/
theorem cases (t : CellType) :
    t = .empty ∨ t = .int ∨ t = .str ∨ 2 < t.code.toNat := by
  match hk : t.code.toNat with
  | 0 => exact .inl (eq_of_toNat hk)
  | 1 => exact .inr (.inl (eq_of_toNat hk))
  | 2 => exact .inr (.inr (.inl (eq_of_toNat hk)))
  | k + 3 => exact .inr (.inr (.inr (by omega)))

end CellType

namespace Cell

open Bytes

/-! ## Encodings -/

/-- Whether the format can write a cell: a string's length must fit its four-byte field. -/
def Encodable : Cell → Prop
  | .str b => b.size < 2 ^ 32
  | _ => True

/-- The bytes a cell is written as. -/
def encoding : Cell → ByteArray
  | .empty => ByteArray.empty.push emptyByte
  | .int v => leBytes v.toUInt64.toNat 8
  | .str b => leBytes b.size 4 ++ b

/-- Appends cells one after another, each under its own type, stopping at the first refusal. -/
def appendEach (dst : ByteArray) : List Cell → ByteArray × Option Failure
  | [] => (dst, none)
  | c :: cs =>
    match append dst c c.type with
    | (b, none) => appendEach b cs
    | (b, some f) => (b, some f)

@[simp] theorem size_encoding_empty : Cell.empty.encoding.size = 1 := rfl

@[simp] theorem size_encoding_int (v : Int64) : (Cell.int v).encoding.size = 8 := by
  simp [encoding]

@[simp] theorem size_encoding_str (b : ByteArray) : (Cell.str b).encoding.size = 4 + b.size := by
  simp [encoding, ByteArray.size_append]

theorem type_empty : Cell.empty.type = .empty := rfl
theorem type_int (v : Int64) : (Cell.int v).type = .int := rfl
theorem type_str (b : ByteArray) : (Cell.str b).type = .str := rfl

/-- Appending a cell under its own type writes its encoding and is never refused. -/
theorem append_own_type (dst : ByteArray) (c : Cell) :
    append dst c c.type = (dst ++ c.encoding, none) := by
  cases c with
  | empty => rw [encoding, ← push_eq_append]; rfl
  | int v => rw [encoding, ← pushLE_eq_append]; rfl
  | str b => rw [encoding, ← ByteArray.append_assoc, ← pushLE_eq_append]; rfl

/-- A write under another type than the cell's is refused and leaves `dst` as it was. -/
theorem append_of_refused {dst : ByteArray} {c : Cell} {t : CellType} {d : ByteArray}
    {f : Failure} (h : append dst c t = (d, some f)) : d = dst := by
  by_cases ht : c.type = t
  · subst ht
    rw [append_own_type] at h
    cases h
  · simp only [append, ne_eq, ht, not_false_eq_true, if_true, Prod.mk.injEq] at h
    exact h.1.symm

/-! ## Reading, one type at a time -/

theorem decode_empty (buf : ByteArray) : decode buf .empty =
    if buf.size < 1 then (.empty, buf, some .expectMoreData)
    else if byteAt buf 0 ≠ emptyByte.toNat then
      (.empty, buf, some (.illegalByte (byteAt buf 0).toUInt8))
    else (.empty, buf.extract 1 buf.size, none) := rfl

theorem decode_int (buf : ByteArray) : decode buf .int =
    if buf.size < 8 then (.empty, buf, some .expectMoreData)
    else (.int (readLE buf 0 8).toUInt64.toInt64, buf.extract 8 buf.size, none) := rfl

theorem decode_str (buf : ByteArray) : decode buf .str =
    if buf.size < 4 then (.empty, buf, some .expectMoreData)
    else if buf.size - 4 < readLE buf 0 4 then (.empty, buf, some .expectMoreData)
    else (.str (buf.extract 4 (4 + readLE buf 0 4)),
      buf.extract (4 + readLE buf 0 4) buf.size, none) := rfl

theorem decode_unknown (buf : ByteArray) {t : CellType} (ht : 2 < t.code.toNat) :
    decode buf t = (.empty, buf, some (.typeMismatch ("unknown cell type " ++ t.name))) := by
  unfold decode
  split <;> first | omega | rfl

/-- A read either succeeds or gives the empty cell and all of its input back. -/
theorem decode_refused_or_ok (buf : ByteArray) (t : CellType) :
    (∃ f, decode buf t = (.empty, buf, some f)) ∨ (decode buf t).2.2 = none := by
  rcases CellType.cases t with rfl | rfl | rfl | ht
  · rw [decode_empty]; split_ifs <;> simp
  · rw [decode_int]; split_ifs <;> simp
  · rw [decode_str]; split_ifs <;> simp
  · simp [decode_unknown buf ht]

/-- A failed read gives the empty cell and all of its input back. -/
theorem decode_eq_error {buf : ByteArray} {t : CellType} {c : Cell} {r : ByteArray} {f : Failure}
    (h : decode buf t = (c, r, some f)) : c = .empty ∧ r = buf := by
  rcases decode_refused_or_ok buf t with ⟨g, hg⟩ | hOk
  · rw [hg, Prod.mk.injEq, Prod.mk.injEq] at h
    exact ⟨h.1.symm, h.2.1.symm⟩
  · rw [h] at hOk
    simp at hOk

/-- The eight bytes of an integer read back as that integer. -/
theorem readLE_leBytes_int (v : Int64) :
    (readLE (leBytes v.toUInt64.toNat 8) 0 8).toUInt64.toInt64 = v := by
  rw [readLE_leBytes, Nat.mod_eq_of_lt (by simpa using UInt64.toNat_lt v.toUInt64)]
  simp

/-- An encoding followed by anything reads back as its cell, leaving what follows. -/
theorem decode_encoding_append {c : Cell} (hc : c.Encodable) (rest : ByteArray) :
    decode (c.encoding ++ rest) c.type = (c, rest, none) := by
  cases c with
  | empty =>
    have hByte : byteAt (ByteArray.empty.push emptyByte ++ rest) 0 = emptyByte.toNat := by
      rw [byteAt_append_left (by simp)]
      rfl
    have hRest : (ByteArray.empty.push emptyByte ++ rest).extract 1
        (ByteArray.empty.push emptyByte ++ rest).size = rest :=
      ByteArray.extract_append_eq_right rfl (by simp [ByteArray.size_append])
    rw [type_empty, decode_empty, encoding, hByte, hRest]
    simp [ByteArray.size_append]
  | int v =>
    have hRead : readLE (leBytes v.toUInt64.toNat 8 ++ rest) 0 8 =
        readLE (leBytes v.toUInt64.toNat 8) 0 8 := readLE_append_left (by simp)
    have hRest : (leBytes v.toUInt64.toNat 8 ++ rest).extract 8
        (leBytes v.toUInt64.toNat 8 ++ rest).size = rest :=
      ByteArray.extract_append_eq_right (by simp) (by simp [ByteArray.size_append])
    rw [type_int, decode_int, encoding, hRead, readLE_leBytes_int, hRest]
    simp [ByteArray.size_append]
  | str b =>
    have hc : b.size < 2 ^ 32 := hc
    have hRead : readLE (leBytes b.size 4 ++ b ++ rest) 0 4 = b.size := by
      rw [ByteArray.append_assoc, readLE_append_left (by simp), readLE_leBytes]
      exact Nat.mod_eq_of_lt (by simpa using hc)
    have hPayload : (leBytes b.size 4 ++ b ++ rest).extract 4 (4 + b.size) = b := by
      simpa using extract_middle (leBytes b.size 4) b rest
    have hRest : (leBytes b.size 4 ++ b ++ rest).extract (4 + b.size)
        (leBytes b.size 4 ++ b ++ rest).size = rest :=
      ByteArray.extract_append_eq_right (by simp) (by simp [ByteArray.size_append])
    have hSize : (leBytes b.size 4 ++ b ++ rest).size = 4 + b.size + rest.size := by
      simp [ByteArray.size_append]
    rw [type_str, decode_str, encoding, hRead, hPayload, hRest, hSize, if_neg (by omega),
      if_neg (by omega)]

/-- A successful read took an encoding of a cell of the asked type from the front. -/
theorem encoding_of_decode {buf : ByteArray} {t : CellType} {c : Cell} {r : ByteArray}
    (h : decode buf t = (c, r, none)) : c.type = t ∧ c.Encodable ∧ buf = c.encoding ++ r := by
  rcases CellType.cases t with rfl | rfl | rfl | ht
  · rw [decode_empty] at h
    split_ifs at h with hSize hByte
    · simp at h
    · simp at h
    · simp only [Prod.mk.injEq] at h
      obtain ⟨rfl, rfl, -⟩ := h
      have hFirst : ByteArray.empty.push emptyByte = buf.extract 0 1 := by
        have := push_empty_eq_extract (b := buf) (i := 0) (by omega)
        rw [not_not.mp hByte] at this
        exact this
      refine ⟨rfl, trivial, ?_⟩
      rw [encoding, hFirst, extract_split buf (by omega) (by omega), ByteArray.extract_zero_size]
  · rw [decode_int] at h
    split_ifs at h with hSize
    · simp at h
    · simp only [Prod.mk.injEq] at h
      obtain ⟨rfl, rfl, -⟩ := h
      have hLt : readLE buf 0 8 < 2 ^ 64 := by simpa using readLE_lt buf 0 8
      have hWord : leBytes (readLE buf 0 8).toUInt64.toInt64.toUInt64.toNat 8 =
          buf.extract 0 8 := by
        simp only [UInt64.toUInt64_toInt64, Nat.toUInt64_eq, UInt64.toNat_ofNat',
          Nat.mod_eq_of_lt hLt]
        exact leBytes_readLE (by omega)
      refine ⟨rfl, trivial, ?_⟩
      rw [encoding, hWord, extract_split buf (by omega) (by omega), ByteArray.extract_zero_size]
  · rw [decode_str] at h
    split_ifs at h with hSize hFits
    · simp at h
    · simp at h
    · simp only [Prod.mk.injEq] at h
      obtain ⟨rfl, rfl, -⟩ := h
      have hLt : readLE buf 0 4 < 2 ^ 32 := by simpa using readLE_lt buf 0 4
      have hLen : (buf.extract 4 (4 + readLE buf 0 4)).size = readLE buf 0 4 := by
        simp; omega
      refine ⟨rfl, show _ < 2 ^ 32 by omega, ?_⟩
      rw [encoding, hLen, leBytes_readLE (by omega), Nat.zero_add,
        extract_split buf (by omega) (by omega), extract_split buf (by omega) (by omega),
        ByteArray.extract_zero_size]
  · rw [decode_unknown buf ht] at h
    simp at h

/-- **Reads are exactly encodings.** A read of type `t` succeeds with `c`, leaving `r`, exactly
when the bytes are the encoding of a cell `c` of type `t` followed by `r`. -/
theorem decode_eq_ok_iff {buf : ByteArray} {t : CellType} {c : Cell} {r : ByteArray} :
    decode buf t = (c, r, none) ↔ c.type = t ∧ c.Encodable ∧ buf = c.encoding ++ r := by
  constructor
  · exact encoding_of_decode
  · rintro ⟨rfl, hc, rfl⟩
    exact decode_encoding_append hc r

/-! ## Cells one after another -/

/-- Encodable cells appended to `dst` under their own types are never refused and add some
bytes `b` to it; `b`, followed by anything, reads back at the cells' types as exactly those
cells, leaving what follows. -/
theorem decodeAll_appendEach (dst rest : ByteArray) (cs : List Cell)
    (hc : ∀ c ∈ cs, c.Encodable) :
    ∃ b, appendEach dst cs = (dst ++ b, none) ∧
      decodeAll (b ++ rest) (cs.map type) = (cs.map .ok, rest) := by
  induction cs generalizing dst with
  | nil => exact ⟨.empty, by simp [appendEach], by simp [decodeAll]⟩
  | cons c cs ih =>
    obtain ⟨b, hAppend, hRead⟩ := ih (dst ++ c.encoding) (fun c' h => hc c' (.tail c h))
    have hFirst : decode (c.encoding ++ b ++ rest) c.type = (c, b ++ rest, none) := by
      rw [ByteArray.append_assoc]
      exact decode_encoding_append (hc c List.mem_cons_self) (b ++ rest)
    refine ⟨c.encoding ++ b, ?_, ?_⟩
    · simp only [appendEach, append_own_type]
      rw [hAppend, ByteArray.append_assoc]
    · simp only [List.map_cons, decodeAll, hFirst, hRead]

/-! ## Short reads -/

/-- Bytes shorter than a word are the front of some word's `w` bytes. -/
theorem exists_leBytes_of_short {buf : ByteArray} {w : Nat} (h : buf.size < w) :
    ∃ n more, n < 256 ^ w ∧ 0 < more.size ∧ buf ++ more = leBytes n w := by
  have hSize : (buf ++ zeros (w - buf.size)).size = w := by
    simp [ByteArray.size_append]; omega
  refine ⟨readLE (buf ++ zeros (w - buf.size)) 0 w, zeros (w - buf.size), readLE_lt _ 0 w,
    by simp; omega, ?_⟩
  have hWhole := ByteArray.extract_zero_size (b := buf ++ zeros (w - buf.size))
  rw [hSize] at hWhole
  rw [leBytes_readLE (by omega), Nat.zero_add, hWhole]

/-- A read that asks for more data had a proper prefix of an encoding. -/
theorem prefix_of_short {buf : ByteArray} {t : CellType}
    (h : (decode buf t).2.2 = some .expectMoreData) :
    ∃ (c : Cell) (more : ByteArray), c.type = t ∧ c.Encodable ∧ 0 < more.size ∧
      buf ++ more = c.encoding := by
  rcases CellType.cases t with rfl | rfl | rfl | ht
  · rw [decode_empty] at h
    split_ifs at h with hSize
    · have hEmpty : buf = .empty := ByteArray.size_eq_zero_iff.mp (by omega)
      exact ⟨.empty, ByteArray.empty.push emptyByte, rfl, trivial, by simp,
        by rw [hEmpty, ByteArray.empty_append]; rfl⟩
    · simp at h
  · rw [decode_int] at h
    split_ifs at h with hSize
    obtain ⟨n, more, hn, hMore, hWord⟩ := exists_leBytes_of_short hSize
    have hNat : n.toUInt64.toInt64.toUInt64.toNat = n := by
      simp only [UInt64.toUInt64_toInt64, Nat.toUInt64_eq, UInt64.toNat_ofNat']
      exact Nat.mod_eq_of_lt (by simpa using hn)
    exact ⟨.int n.toUInt64.toInt64, more, rfl, trivial, hMore, by rw [encoding, hNat, hWord]⟩
  · rw [decode_str] at h
    split_ifs at h with hSize hFits
    · -- the length field itself is cut: any length completes it, zero bytes follow
      obtain ⟨n, more, hn, hMore, hWord⟩ := exists_leBytes_of_short hSize
      refine ⟨.str (zeros n), more ++ zeros n, rfl, show (zeros n).size < 2 ^ 32 by simpa using hn,
        by simp [ByteArray.size_append]; omega, ?_⟩
      rw [encoding, size_zeros, ← hWord, ByteArray.append_assoc]
    · -- the data is cut: zero bytes complete it to the length the field gives
      have hLt : readLE buf 0 4 < 2 ^ 32 := by simpa using readLE_lt buf 0 4
      set n := readLE buf 0 4
      let more := zeros (n - (buf.size - 4))
      have hData : (buf.extract 4 buf.size ++ more).size = n := by
        simp [more, ByteArray.size_append]; omega
      refine ⟨.str (buf.extract 4 buf.size ++ more), more, rfl, show _ < 2 ^ 32 by omega,
        by simp [more]; omega, ?_⟩
      rw [encoding, hData, leBytes_readLE (by omega), Nat.zero_add, ← ByteArray.append_assoc,
        extract_split buf (by omega) (by omega), ByteArray.extract_zero_size]
  · rw [decode_unknown buf ht] at h
    simp at h

/-- A proper prefix of an encoding reads as a request for more data. -/
theorem short_of_prefix {buf more : ByteArray} {c : Cell} (hc : c.Encodable) (hMore : 0 < more.size)
    (h : buf ++ more = c.encoding) : (decode buf c.type).2.2 = some .expectMoreData := by
  have hSize := congrArg ByteArray.size h
  rw [ByteArray.size_append] at hSize
  cases c with
  | empty =>
    rw [type_empty, decode_empty, if_pos (by simp at hSize; omega)]
  | int v =>
    rw [type_int, decode_int, if_pos (by simp at hSize; omega)]
  | str b =>
    have hc : b.size < 2 ^ 32 := hc
    rw [type_str, decode_str]
    simp only [size_encoding_str] at hSize
    by_cases hShort : buf.size < 4
    · rw [if_pos hShort]
    · have hField : readLE buf 0 4 = b.size := by
        rw [← readLE_append_left (b := more) (by omega), h, encoding, readLE_append_left (by simp),
          readLE_leBytes]
        exact Nat.mod_eq_of_lt (by simpa using hc)
      rw [if_neg hShort, hField, if_pos (by omega)]

/-- **Short reads are exactly cut encodings.** A read of type `t` asks for more data exactly
when the bytes are a proper prefix of the encoding of a cell of type `t`. -/
theorem decode_short_iff (buf : ByteArray) (t : CellType) :
    (decode buf t).2.2 = some .expectMoreData ↔
      ∃ (c : Cell) (more : ByteArray), c.type = t ∧ c.Encodable ∧ 0 < more.size ∧
        buf ++ more = c.encoding := by
  constructor
  · exact prefix_of_short
  · rintro ⟨c, more, rfl, hc, hMore, h⟩
    exact short_of_prefix hc hMore h

/-! ## The codec -/

/-- Two cells are the same exactly when they are equal. -/
theorem same_iff_eq (a b : Cell) : a.same b = true ↔ a = b := by
  cases a <;> cases b <;> simp [same, Entry.beq_eq_true_iff]

end Cell

end LogStore
