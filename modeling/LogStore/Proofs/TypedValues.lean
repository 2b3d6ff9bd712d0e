import LogStore.Proofs.Cells
import LogStore.Proofs.Decimal
import LogStore.Cell.Text

/-!
# Values typed on the command line, both ways

A value given on the command line under a type name is stored as the argument's bytes (the empty
name and `bytes`) or as one cell of the named type; reading it back under the same name prints
the bytes, or the cell, and refuses a stored value that is not exactly one cell.

* `encodeArg_str`, `encodeArg_int`, `encodeArg_int_error`: what storing an argument writes.
* `formatValue_cell`: printing under a cell type succeeds exactly on the encoding of one
  encodable cell of that type, and prints that cell.
* `typed_values_round_trip`: printing what was stored gives the argument back, for integers in
  the canonical spelling of the number read; and storing what was printed gives the stored
  value back.
-/

namespace LogStore.Cell

/-! ## Storing and printing, by type name -/

theorem encodeArg_raw {typ : String} (h : typ = "" ∨ typ = rawTypeName) (a : ByteArray) :
    encodeArg typ a = .ok a := by
  simp [encodeArg, h]

theorem formatValue_raw {typ : String} (h : typ = "" ∨ typ = rawTypeName) (v : ByteArray) :
    formatValue typ v = .ok v := by
  simp [formatValue, h]

/-- A string argument is stored as the encoding of its string cell. -/
theorem encodeArg_str {typ : String} (hRaw : ¬(typ = "" ∨ typ = rawTypeName))
    (h : CellType.parse? typ = .ok .str) (a : ByteArray) :
    encodeArg typ a = .ok (Cell.str a).encoding := by
  have hApp := append_own_type ByteArray.empty (Cell.str a)
  rw [type_str, ByteArray.empty_append] at hApp
  simp only [encodeArg, hRaw, if_false, h, bind, Except.bind, CellType.str, pure, Except.pure]
  rw [show ({ code := 2 } : CellType) = CellType.str from rfl, hApp]
  rfl

/-- An integer argument that reads as `n` is stored as the encoding of `n`'s integer cell. -/
theorem encodeArg_int {typ : String} (hRaw : ¬(typ = "" ∨ typ = rawTypeName))
    (h : CellType.parse? typ = .ok .int) {a : ByteArray} {n : Int}
    (hn : Text.parseInt64 a = .ok n) :
    encodeArg typ a = .ok (Cell.int (Int64.ofInt n)).encoding := by
  have hApp := append_own_type ByteArray.empty (Cell.int (Int64.ofInt n))
  rw [type_int, ByteArray.empty_append] at hApp
  simp only [encodeArg, hRaw, if_false, h, bind, Except.bind, CellType.int, pure, Except.pure, hn]
  rw [show ({ code := 1 } : CellType) = CellType.int from rfl, hApp]
  rfl

/-- An integer argument that does not read is refused. -/
theorem encodeArg_int_error {typ : String} (hRaw : ¬(typ = "" ∨ typ = rawTypeName))
    (h : CellType.parse? typ = .ok .int) {a : ByteArray} {e : Text.IntError}
    (he : Text.parseInt64 a = .error e) : ∃ f, encodeArg typ a = .error f := by
  simp only [encodeArg, hRaw, if_false, h, bind, Except.bind, CellType.int, pure, Except.pure, he]
  exact ⟨_, rfl⟩

/-- A read of an encoding, with nothing after it. -/
theorem decode_encoding {c : Cell} (hc : c.Encodable) :
    decode c.encoding c.type = (c, ByteArray.empty, none) := by
  simpa using decode_encoding_append hc ByteArray.empty

/-- Printing under a cell type succeeds exactly on the encoding of one encodable cell of that
type, and prints that cell. -/
theorem formatValue_cell {typ : String} {t : CellType} (hRaw : ¬(typ = "" ∨ typ = rawTypeName))
    (h : CellType.parse? typ = .ok t) (v s : ByteArray) :
    formatValue typ v = .ok s ↔
      ∃ c : Cell, c.type = t ∧ c.Encodable ∧ v = c.encoding ∧ s = c.text := by
  rcases hDec : decode v t with ⟨c, r, _ | f⟩
  · obtain ⟨rfl, hEnc, hv⟩ := decode_eq_ok_iff.mp hDec
    simp only [formatValue, hRaw, if_false, h, bind, Except.bind, hDec, pure, Except.pure]
    constructor
    · intro hOk
      split at hOk
      · cases hOk
      · rename_i hEmpty
        have hr : r = ByteArray.empty := ByteArray.size_eq_zero_iff.mp (not_not.mp hEmpty)
        rw [hr, ByteArray.append_empty] at hv
        exact ⟨c, rfl, hEnc, hv, (Except.ok.inj hOk).symm⟩
    · rintro ⟨c', hType, hEnc', hv', rfl⟩
      -- the bytes are a whole encoding, so the read took all of them
      have hWhole := decode_encoding hEnc'
      rw [hType, ← hv', hDec] at hWhole
      simp only [Prod.mk.injEq] at hWhole
      obtain ⟨rfl, rfl, -⟩ := hWhole
      simp
  · simp only [formatValue, hRaw, if_false, h, bind, Except.bind, hDec, reduceCtorEq, false_iff]
    rintro ⟨c', hType, hEnc', hv', -⟩
    have hWhole := decode_encoding hEnc'
    rw [hType, ← hv', hDec] at hWhole
    simp at hWhole

theorem type_eq_int_iff {c : Cell} : c.type = .int ↔ ∃ x, c = .int x := by
  cases c <;> simp [type] <;> decide

theorem type_eq_str_iff {c : Cell} : c.type = .str ↔ ∃ b, c = .str b := by
  cases c <;> simp [type] <;> decide

/-! ## The type names -/

theorem raw_of_mem {typ : String} (h : typ ∈ ["", "bytes"]) : typ = "" ∨ typ = rawTypeName := by
  simpa [rawTypeName] using h

theorem str_of_mem {typ : String} (h : typ ∈ ["str", "string"]) :
    ¬(typ = "" ∨ typ = rawTypeName) ∧ CellType.parse? typ = .ok .str := by
  simp only [List.mem_cons, List.not_mem_nil, or_false] at h
  rcases h with rfl | rfl <;> simp [rawTypeName, CellType.parse?]

theorem int_of_mem {typ : String} (h : typ ∈ ["i64", "int64"]) :
    ¬(typ = "" ∨ typ = rawTypeName) ∧ CellType.parse? typ = .ok .int := by
  simp only [List.mem_cons, List.not_mem_nil, or_false] at h
  rcases h with rfl | rfl <;> simp [rawTypeName, CellType.parse?]

/-! ## Round trips -/

/-- A string argument that fits the length field prints back as itself. -/
theorem str_round_trip {typ : String} (h : typ ∈ ["str", "string"]) {a : ByteArray}
    (ha : a.size < 2 ^ 32) : ∃ v, encodeArg typ a = .ok v ∧ formatValue typ v = .ok a := by
  obtain ⟨hRaw, hType⟩ := str_of_mem h
  exact ⟨_, encodeArg_str hRaw hType a,
    (formatValue_cell hRaw hType _ _).mpr ⟨.str a, rfl, ha, rfl, rfl⟩⟩

/-- An integer argument is stored exactly when it reads, and prints back as the text of the
number read, which is the argument itself exactly when it is written canonically. -/
theorem int_round_trip {typ : String} (h : typ ∈ ["i64", "int64"]) (a : ByteArray) :
    ((∃ v, encodeArg typ a = .ok v) ↔ ∃ n, Text.parseInt64 a = .ok n) ∧
      ∀ n, Text.parseInt64 a = .ok n → ∃ v, encodeArg typ a = .ok v ∧
        formatValue typ v = .ok (toString n).toUTF8 ∧
        ((toString n).toUTF8 = a ↔ Text.Canonical a) := by
  obtain ⟨hRaw, hType⟩ := int_of_mem h
  refine ⟨⟨fun ⟨v, hv⟩ => ?_, fun ⟨n, hn⟩ => ⟨_, encodeArg_int hRaw hType hn⟩⟩, fun n hn => ?_⟩
  · rcases hParse : Text.parseInt64 a with e | n
    · obtain ⟨f, hf⟩ := encodeArg_int_error hRaw hType hParse
      rw [hf] at hv
      cases hv
    · exact ⟨n, rfl⟩
  · obtain ⟨hLow, hHigh⟩ := Text.parseInt64_bounds hn
    have hText : (Cell.int (Int64.ofInt n)).text = (toString n).toUTF8 := by
      simp only [text, Int64.toInt_ofInt_of_le hLow hHigh]
    refine ⟨_, encodeArg_int hRaw hType hn,
      (formatValue_cell hRaw hType _ _).mpr ⟨.int (Int64.ofInt n), rfl, trivial, rfl, hText.symm⟩,
      Text.toString_parseInt64_eq_iff hn⟩

/-- A stored integer prints exactly when it is eight bytes, and the text printed stores back
as those bytes. -/
theorem stored_int_round_trip (v : ByteArray) :
    ((∃ s, formatValue "i64" v = .ok s) ↔ v.size = 8) ∧
      ∀ s, formatValue "i64" v = .ok s → encodeArg "i64" s = .ok v := by
  obtain ⟨hRaw, hType⟩ := int_of_mem (show "i64" ∈ ["i64", "int64"] by simp)
  refine ⟨⟨fun ⟨s, hs⟩ => ?_, fun hSize => ?_⟩, fun s hs => ?_⟩
  · obtain ⟨c, hc, -, rfl, -⟩ := (formatValue_cell hRaw hType v s).mp hs
    obtain ⟨x, rfl⟩ := type_eq_int_iff.mp hc
    exact size_encoding_int x
  · -- eight bytes read as one integer cell with nothing after it
    have hRead := decode_int v
    rw [if_neg (by omega)] at hRead
    obtain ⟨-, -, hv⟩ := decode_eq_ok_iff.mp hRead
    have hRest : v.extract 8 v.size = ByteArray.empty := by
      rw [ByteArray.extract_eq_empty_iff]
      omega
    rw [hRest, ByteArray.append_empty] at hv
    exact ⟨_, (formatValue_cell hRaw hType v _).mpr
      ⟨.int (Bytes.readLE v 0 8).toUInt64.toInt64, rfl, trivial, hv, rfl⟩⟩
  · obtain ⟨c, hc, -, rfl, rfl⟩ := (formatValue_cell hRaw hType v s).mp hs
    obtain ⟨x, rfl⟩ := type_eq_int_iff.mp hc
    have hParse : Text.parseInt64 (toString x.toInt).toUTF8 = .ok x.toInt :=
      Text.parseInt64_toString (Int64.le_toInt x) (Int64.toInt_lt x)
    rw [text, encodeArg_int hRaw hType hParse, Int64.ofInt_toInt]

/-- A stored string prints exactly when it is a four-byte length and that many bytes, and the
text printed stores back as those bytes. -/
theorem stored_str_round_trip (v : ByteArray) :
    ((∃ s, formatValue "str" v = .ok s) ↔
        ∃ s : ByteArray, s.size < 2 ^ 32 ∧ v = Bytes.leBytes s.size 4 ++ s) ∧
      ∀ s, formatValue "str" v = .ok s → encodeArg "str" s = .ok v := by
  obtain ⟨hRaw, hType⟩ := str_of_mem (show "str" ∈ ["str", "string"] by simp)
  refine ⟨⟨fun ⟨s, hs⟩ => ?_, fun ⟨s, hs, hv⟩ => ?_⟩, fun s hs => ?_⟩
  · obtain ⟨c, hc, hEnc, rfl, -⟩ := (formatValue_cell hRaw hType v s).mp hs
    obtain ⟨b, rfl⟩ := type_eq_str_iff.mp hc
    exact ⟨b, hEnc, rfl⟩
  · exact ⟨s, (formatValue_cell hRaw hType v s).mpr ⟨.str s, rfl, hs, hv, rfl⟩⟩
  · obtain ⟨c, hc, -, rfl, rfl⟩ := (formatValue_cell hRaw hType v s).mp hs
    obtain ⟨b, rfl⟩ := type_eq_str_iff.mp hc
    exact encodeArg_str hRaw hType b

/-- **Typed values round trip.** (1) Under `""` and `bytes` every argument prints back as
itself; under `str` and `string` every argument whose length fits the four-byte field does.
(2) Under `i64` and `int64` an argument is stored exactly when it reads as a signed 64-bit
decimal, and then prints back as the text of that number, which is the argument itself exactly
when the argument is written canonically. (3) A stored value prints under `i64` exactly when it
is eight bytes, and under `str` exactly when it is a four-byte length and that many bytes; in
both cases storing the printed text gives the stored value back. -/
theorem typed_values_round_trip :
    (∀ typ ∈ ["", "bytes"], ∀ a : ByteArray,
      ∃ v, encodeArg typ a = .ok v ∧ formatValue typ v = .ok a) ∧
    (∀ typ ∈ ["str", "string"], ∀ a : ByteArray, a.size < 2 ^ 32 →
      ∃ v, encodeArg typ a = .ok v ∧ formatValue typ v = .ok a) ∧
    (∀ typ ∈ ["i64", "int64"], ∀ a : ByteArray,
      ((∃ v, encodeArg typ a = .ok v) ↔ ∃ n, Text.parseInt64 a = .ok n) ∧
      ∀ n, Text.parseInt64 a = .ok n → ∃ v, encodeArg typ a = .ok v ∧
        formatValue typ v = .ok (toString n).toUTF8 ∧
        ((toString n).toUTF8 = a ↔ Text.Canonical a)) ∧
    (∀ v : ByteArray, ((∃ s, formatValue "i64" v = .ok s) ↔ v.size = 8) ∧
      ∀ s, formatValue "i64" v = .ok s → encodeArg "i64" s = .ok v) ∧
    (∀ v : ByteArray, ((∃ s, formatValue "str" v = .ok s) ↔
        ∃ s : ByteArray, s.size < 2 ^ 32 ∧ v = Bytes.leBytes s.size 4 ++ s) ∧
      ∀ s, formatValue "str" v = .ok s → encodeArg "str" s = .ok v) := by
  refine ⟨fun typ h a => ?_, fun typ h a ha => str_round_trip h ha,
    fun typ h a => int_round_trip h a, stored_int_round_trip, stored_str_round_trip⟩
  exact ⟨a, encodeArg_raw (raw_of_mem h) a, formatValue_raw (raw_of_mem h) a⟩

end LogStore.Cell
