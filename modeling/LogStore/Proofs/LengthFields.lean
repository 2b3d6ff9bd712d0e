import LogStore.Proofs.Cells
import LogStore.Proofs.Corruption

/-!
# Length fields

A string cell and a record carry their lengths in four-byte fields, and a field holds a length
modulo `2 ^ 32`. Below that bound it is the length. Nothing refuses a longer string cell: one of
`2 ^ 32` bytes is appended under a field that reads `0`. A record's key and value stay below
1 KiB and 1 MiB when the record validates, so a record that validates announces its true
lengths. Reading a string cell takes `4 + n` bytes for the length `n` its field holds. On a buffer
below `2 ^ 32` bytes that end is below `2 ^ 32` too, so a 32-bit sum computes it exactly.

* `Cell.readLE_append_str`: the field of an appended string is its length modulo `2 ^ 32`;
  `four_gib_string_written_with_length_zero` is a string it misstates.
* `Entry.encode_fields_exact`: a record below `2 ^ 32` bytes of key and value holds its lengths.
* `Cell.decode_str_ends`: where a string read back ends.
* `length_fields_exact_below_two_pow_32` gathers these below `2 ^ 32`.
-/

namespace LogStore

open Bytes

namespace Cell

theorem append_str (dst b : ByteArray) :
    append dst (.str b) .str = (dst ++ leBytes b.size 4 ++ b, none) := by
  rw [← type_str b, append_own_type, encoding, ByteArray.append_assoc]

/-- A string cell is written with its length modulo `2 ^ 32`. -/
theorem readLE_append_str (dst b : ByteArray) :
    readLE (append dst (.str b) .str).1 dst.size 4 = b.size % 2 ^ 32 := by
  rw [append_str, readLE_middle dst b b.size 4 dst.size rfl]
  norm_num

/-- A string read back ends `4 + n` bytes in, within the buffer, for the length `n` its field
holds. -/
theorem decode_str_ends {buf rest : ByteArray} {c : Cell}
    (h : decode buf .str = (c, rest, none)) :
    let n := readLE buf 0 4
    4 + n ≤ buf.size ∧ c = .str (buf.extract 4 (4 + n)) ∧ rest = buf.extract (4 + n) buf.size := by
  intro n
  rw [decode_str] at h
  by_cases hShort : buf.size < 4
  · simp [hShort] at h
  · by_cases hLong : buf.size - 4 < readLE buf 0 4
    · simp [hShort, hLong] at h
    · simp only [hShort, hLong, if_false, Prod.mk.injEq] at h
      exact ⟨by omega, h.1.symm, h.2.1.symm⟩

end Cell

namespace Entry

/-- A record whose key and stored value are below `2 ^ 32` bytes holds their exact lengths; so
does every record that validates. -/
theorem encode_fields_exact {e : Entry} (hKey : e.key.size < 2 ^ 32)
    (hValue : e.payloadValue.size < 2 ^ 32) :
    readLE e.encode 4 4 = e.key.size ∧ readLE e.encode 8 4 = e.payloadValue.size := by
  rw [readLE_encode_key, readLE_encode_value, Nat.mod_eq_of_lt hKey, Nat.mod_eq_of_lt hValue]
  exact ⟨rfl, rfl⟩

end Entry

open Cell

/-- **Length fields are exact below `2 ^ 32`.** A string cell below `2 ^ 32` bytes is appended
under its own type, never refused, as a length field holding its length and its bytes. A record
whose key and stored value are below `2 ^ 32` bytes, as every record that validates, holds their
lengths in its fields. A string read back from a buffer below `2 ^ 32` bytes ends `4 + n` bytes
in, within the buffer, for the length `n` its field holds, and `4 + n` taken modulo `2 ^ 32` is
`4 + n` itself. -/
theorem length_fields_exact_below_two_pow_32 (dst s : ByteArray) (e : Entry) (buf : ByteArray)
    (hs : s.size < 2 ^ 32) (hKey : e.key.size < 2 ^ 32) (hValue : e.payloadValue.size < 2 ^ 32)
    (hBuf : buf.size < 2 ^ 32) :
    append dst (.str s) .str = (dst ++ leBytes s.size 4 ++ s, none) ∧
    readLE (append dst (.str s) .str).1 dst.size 4 = s.size ∧
    readLE e.encode 4 4 = e.key.size ∧ readLE e.encode 8 4 = e.payloadValue.size ∧
    ∀ (c : Cell) (rest : ByteArray), decode buf .str = (c, rest, none) →
      let n := readLE buf 0 4
      (4 + n) % 2 ^ 32 = 4 + n ∧ 4 + n ≤ buf.size ∧ c = .str (buf.extract 4 (4 + n)) ∧
        rest = buf.extract (4 + n) buf.size := by
  have hField : readLE (append dst (.str s) .str).1 dst.size 4 = s.size := by
    rw [readLE_append_str, Nat.mod_eq_of_lt hs]
  obtain ⟨hKeyField, hValueField⟩ := Entry.encode_fields_exact hKey hValue
  refine ⟨append_str dst s, hField, hKeyField, hValueField, fun c rest h => ?_⟩
  obtain ⟨hEnd, hc, hRest⟩ := decode_str_ends h
  exact ⟨Nat.mod_eq_of_lt (by omega), hEnd, hc, hRest⟩

/-- The string `a` appended, a record of one-byte key and value, and `a` read back from its
encoding. -/
theorem length_fields_exact_below_two_pow_32_small :
    let s : ByteArray := ⟨#[97]⟩
    let e : Entry := ⟨⟨#[97]⟩, ⟨#[49]⟩, false⟩
    let buf := (Cell.str s).encoding
    s.size < 2 ^ 32 ∧ e.key.size < 2 ^ 32 ∧ e.payloadValue.size < 2 ^ 32 ∧ buf.size < 2 ^ 32 ∧
      readLE (append ByteArray.empty (.str s) .str).1 0 4 = 1 ∧
      readLE e.encode 4 4 = 1 ∧ readLE e.encode 8 4 = 1 ∧
      decode buf .str = (.str s, ByteArray.empty, none) ∧ (4 + readLE buf 0 4) % 2 ^ 32 = 5 := by
  intro s e buf
  have hs : s.size < 2 ^ 32 := by decide
  have hKey : e.key.size < 2 ^ 32 := by decide
  have hValue : e.payloadValue.size < 2 ^ 32 := by decide
  have hBuf : buf.size < 2 ^ 32 := by
    rw [size_encoding_str]
    decide
  obtain ⟨-, hField, hKeyField, hValueField, hDecode⟩ :=
    length_fields_exact_below_two_pow_32 ByteArray.empty s e buf hs hKey hValue hBuf
  have hRead : decode buf .str = (.str s, ByteArray.empty, none) := by
    have h := decode_encoding_append (c := .str s) hs ByteArray.empty
    rwa [ByteArray.append_empty] at h
  -- the length field of `a` reads `1`, so the string ends at `5`
  have hLength : readLE buf 0 4 = 1 := by
    have h := readLE_middle ByteArray.empty s s.size 4 0 rfl
    rw [ByteArray.empty_append] at h
    exact h
  obtain ⟨hSum, -⟩ := hDecode _ _ hRead
  rw [hLength] at hSum
  rw [show e.key.size = 1 from rfl] at hKeyField
  rw [show e.payloadValue.size = 1 from rfl] at hValueField
  exact ⟨hs, hKey, hValue, hBuf, hField, hKeyField, hValueField, hRead, by rw [hLength, hSum]⟩

/-- A string cell of `2 ^ 32` zero bytes is appended without refusal, under a length field that
reads `0`. -/
theorem four_gib_string_written_with_length_zero :
    let b := zeros (2 ^ 32)
    b.size = 2 ^ 32 ∧ (append ByteArray.empty (.str b) .str).2 = none ∧
      readLE (append ByteArray.empty (.str b) .str).1 0 4 = 0 := by
  intro b
  have hField := readLE_append_str ByteArray.empty b
  rw [ByteArray.size_empty, size_zeros, Nat.mod_self] at hField
  exact ⟨size_zeros _, by rw [append_str], hField⟩

end LogStore
