import Mathlib
import LogStore.Text.Integer

/-!
# Printing and reading 64-bit decimals

`toString` writes an integer as its decimal digits, most significant first, after a `-` when it
is negative: no `+`, no leading zero. `Text.parseInt64` reads more spellings than that (a `+`
sign, leading zeros, `-0`), so reading a printed integer gives it back, while printing what was
read gives back the text read exactly when it was written the printed way.

* `digitBytes n` is the digits of `n` as bytes, with the recursion `digitBytes_eq` that takes the
  last digit off, and `bytes_toString_ofNat`, `bytes_toString_neg` say what `toString` writes.
* `parseDigits_of_digits` reads digit bytes as their value `digitsValue`, failing exactly when a
  prefix of them leaves 64 bits; `digitsValue_digitBytes` and `digitBytes_digitsValue` make the
  digits of a number and the value of digits inverse, leading zeros apart.
* `parseInt64_toString`: every signed 64-bit integer reads back from its text.
* `toString_parseInt64_eq_iff`: the text of what was read is the text read exactly when the
  text is `Canonical`.
-/

namespace LogStore.Text

/-! ## Digits as bytes -/

/-- Whether a byte is an ASCII decimal digit. -/
def IsDigitByte (b : UInt8) : Prop := 48 ≤ b.toNat ∧ b.toNat ≤ 57

/-- The decimal digits of `n` as bytes, most significant first. -/
def digitBytes (n : Nat) : List UInt8 := (Nat.toDigits 10 n).map (fun c => c.toNat.toUInt8)

/-- The value of decimal digit bytes, read from the left onto `acc`. -/
def digitsValue (ds : List UInt8) (acc : Nat) : Nat :=
  ds.foldl (fun a b => a * 10 + (b.toNat - 48)) acc

theorem digitChar_byte {d : Nat} (h : d < 10) :
    (Nat.digitChar d).toNat.toUInt8 = (48 + d).toUInt8 := by
  interval_cases d <;> rfl

theorem toNat_digit_byte {d : Nat} (h : d < 10) : (48 + d).toUInt8.toNat = 48 + d := by
  simp only [Nat.toUInt8_eq, UInt8.toNat_ofNat']
  omega

/-- The last digit comes off the end. -/
theorem digitBytes_eq (n : Nat) :
    digitBytes n = (if n < 10 then [] else digitBytes (n / 10)) ++ [(48 + n % 10).toUInt8] := by
  unfold digitBytes
  rw [Nat.toDigits_eq_if (by omega)]
  split
  · simp [digitChar_byte (by omega : n < 10), Nat.mod_eq_of_lt (by omega : n < 10)]
  · simp [digitChar_byte (Nat.mod_lt n (by omega : 10 > 0))]

theorem digitBytes_ne_nil (n : Nat) : digitBytes n ≠ [] := by
  rw [digitBytes_eq]
  simp

theorem digitBytes_digits (n : Nat) : ∀ b ∈ digitBytes n, IsDigitByte b := by
  induction n using Nat.strong_induction_on with
  | _ n ih =>
    intro b hb
    rw [digitBytes_eq, List.mem_append, List.mem_singleton] at hb
    rcases hb with hb | rfl
    · split at hb
      · simp at hb
      · exact ih (n / 10) (by omega) b hb
    · unfold IsDigitByte
      rw [toNat_digit_byte (Nat.mod_lt n (by omega))]
      omega

/-- Only `0` has the leading digit `0`. -/
theorem eq_zero_of_head_digitBytes {n : Nat} (h : (digitBytes n).head? = some 48) : n = 0 := by
  induction n using Nat.strong_induction_on with
  | _ n ih =>
    rw [digitBytes_eq] at h
    split at h
    · rename_i hSmall
      have hByte : (48 + n % 10).toUInt8.toNat = 48 := by
        rw [List.nil_append, List.head?_cons, Option.some.injEq] at h
        rw [h]
        rfl
      rw [toNat_digit_byte (Nat.mod_lt n (by omega))] at hByte
      omega
    · rename_i hBig
      rw [List.head?_append_of_ne_nil _ (digitBytes_ne_nil _)] at h
      have := ih (n / 10) (by omega) h
      omega

/-! ## The value of digits -/

theorem digitsValue_nil (acc : Nat) : digitsValue [] acc = acc := rfl

theorem digitsValue_cons (b : UInt8) (ds : List UInt8) (acc : Nat) :
    digitsValue (b :: ds) acc = digitsValue ds (acc * 10 + (b.toNat - 48)) := by
  simp only [digitsValue, List.foldl_cons]

theorem digitsValue_append_singleton (ds : List UInt8) (b : UInt8) (acc : Nat) :
    digitsValue (ds ++ [b]) acc = digitsValue ds acc * 10 + (b.toNat - 48) := by
  simp [digitsValue, List.foldl_append]

theorem le_digitsValue (ds : List UInt8) (acc : Nat) : acc ≤ digitsValue ds acc := by
  induction ds generalizing acc with
  | nil => exact Nat.le_refl _
  | cons b ds ih =>
    rw [digitsValue_cons]
    exact Nat.le_trans (by omega) (ih _)

/-- Digits that do not start with `0` have a positive value. -/
theorem digitsValue_pos {b : UInt8} (ds : List UInt8) (hb : IsDigitByte b) (h0 : b ≠ 48) :
    0 < digitsValue (b :: ds) 0 := by
  have hb' : 48 < b.toNat := by
    have : b.toNat ≠ 48 := fun h => h0 (UInt8.toNat_inj.mp (by simpa using h))
    exact Nat.lt_of_le_of_ne hb.1 (Ne.symm this)
  rw [digitsValue_cons]
  exact Nat.lt_of_lt_of_le (by omega) (le_digitsValue ds _)

/-- The digits of a number read back as the number. -/
theorem digitsValue_digitBytes (n : Nat) : digitsValue (digitBytes n) 0 = n := by
  induction n using Nat.strong_induction_on with
  | _ n ih =>
    rw [digitBytes_eq, digitsValue_append_singleton, toNat_digit_byte (Nat.mod_lt n (by omega))]
    split
    · simp [digitsValue_nil]
      omega
    · rw [ih (n / 10) (by omega)]
      omega

/-- Digits whose value is `0` start with `0`. -/
theorem head_of_digitsValue_zero {ds : List UInt8} (hd : ∀ b ∈ ds, IsDigitByte b) (hne : ds ≠ [])
    (h0 : digitsValue ds 0 = 0) : ds.head? = some 48 := by
  obtain ⟨b, rest, rfl⟩ := List.exists_cons_of_ne_nil hne
  by_contra hHead
  have hb0 : b ≠ 48 := fun hb => hHead (by simp [hb])
  have := digitsValue_pos rest (hd b List.mem_cons_self) hb0
  omega

/-- Digits with no leading zero, or the single digit `0`, are the digits of their value. -/
theorem digitBytes_digitsValue {ds : List UInt8} (hd : ∀ b ∈ ds, IsDigitByte b) (hne : ds ≠ [])
    (hLead : ds.head? ≠ some 48 ∨ ds = [48]) : digitBytes (digitsValue ds 0) = ds := by
  induction ds using List.reverseRecOn with
  | nil => exact absurd rfl hne
  | append_singleton init b ih =>
    have hb := hd b (by simp)
    have hLast : (48 + (b.toNat - 48)).toUInt8 = b := by
      apply UInt8.toNat_inj.mp
      rw [toNat_digit_byte (by have := hb.2; omega)]
      have := hb.1
      omega
    rw [digitsValue_append_singleton]
    by_cases hInit : init = []
    · -- a single digit is its own value's digits
      subst hInit
      rw [digitsValue_nil, Nat.zero_mul, Nat.zero_add, digitBytes_eq,
        if_pos (by have := hb.2; omega), Nat.mod_eq_of_lt (by have := hb.2; omega), hLast]
    · -- the digits before the last are the digits of the value without its last digit
      obtain ⟨c, cs, rfl⟩ := List.exists_cons_of_ne_nil hInit
      have hc0 : c ≠ 48 := by
        rintro rfl
        rcases hLead with h | h
        · simp at h
        · simp at h
      have hPos := digitsValue_pos cs (hd c (by simp)) hc0
      have hInitDigits : ∀ x ∈ c :: cs, IsDigitByte x := fun x hx => hd x (List.mem_append_left _ hx)
      have hRec := ih hInitDigits (by simp) (.inl (by simpa using hc0))
      have hLt : b.toNat - 48 < 10 := by have := hb.2; omega
      rw [digitBytes_eq, if_neg (by omega),
        show (digitsValue (c :: cs) 0 * 10 + (b.toNat - 48)) / 10 = digitsValue (c :: cs) 0 by omega,
        show (digitsValue (c :: cs) 0 * 10 + (b.toNat - 48)) % 10 = b.toNat - 48 by omega,
        hRec, hLast]

/-! ## Reading digits -/

/-- Digit bytes read as their value, unless a prefix of them leaves 64 bits. -/
theorem parseDigits_of_digits {ds : List UInt8} (hd : ∀ b ∈ ds, IsDigitByte b) (acc : Nat)
    (hacc : acc < 2 ^ 64) :
    parseDigits ds acc =
      if digitsValue ds acc < 2 ^ 64 then .ok (digitsValue ds acc) else .error .outOfRange := by
  induction ds generalizing acc with
  | nil => rw [parseDigits, digitsValue_nil, if_pos hacc]
  | cons b ds ih =>
    have hb := hd b List.mem_cons_self
    have hNext := le_digitsValue ds (acc * 10 + (b.toNat - 48))
    rw [parseDigits, if_pos (show 48 ≤ b.toNat ∧ b.toNat ≤ 57 from hb), digitsValue_cons]
    simp only [Nat.pow_eq, ge_iff_le]
    by_cases hBig : 2 ^ 64 ≤ acc * 10 + (b.toNat - 48)
    · rw [if_pos hBig, if_neg (by omega)]
    · rw [if_neg hBig, ih (fun x hx => hd x (List.mem_cons_of_mem _ hx)) _ (by omega)]

/-- A successful read of digits read digit bytes, and gave their value. -/
theorem digits_of_parseDigits {ds : List UInt8} {acc n : Nat} (h : parseDigits ds acc = .ok n) :
    (∀ b ∈ ds, IsDigitByte b) ∧ n = digitsValue ds acc := by
  induction ds generalizing acc with
  | nil =>
    simp only [parseDigits, Except.ok.injEq] at h
    exact ⟨by simp, h.symm⟩
  | cons b ds ih =>
    rw [parseDigits] at h
    split at h
    · rename_i hb
      simp only [Nat.pow_eq, ge_iff_le] at h
      split at h
      · cases h
      · obtain ⟨hd, rfl⟩ := ih h
        refine ⟨?_, rfl⟩
        intro x hx
        rcases List.mem_cons.mp hx with rfl | hx
        · exact hb
        · exact hd x hx
    · cases h

/-! ## Signs -/

theorem splitSign_digits {ds : List UInt8} (hd : ∀ b ∈ ds, IsDigitByte b) :
    splitSign ds = (false, ds) := by
  cases ds with
  | nil => rfl
  | cons b ds =>
    have hb := hd b List.mem_cons_self
    have h43 : b ≠ 43 := fun h => by subst h; exact absurd hb.1 (by decide)
    have h45 : b ≠ 45 := fun h => by subst h; exact absurd hb.1 (by decide)
    simp [splitSign, h43, h45]

theorem splitSign_minus (ds : List UInt8) : splitSign (45 :: ds) = (true, ds) := rfl

/-- What a read of a signed decimal gave: no more than 64 bits with its sign. -/
theorem parseSigned_bounds {negative : Bool} {digits : List UInt8} {n : Int}
    (h : parseSigned negative digits = .ok n) : -2 ^ 63 ≤ n ∧ n < 2 ^ 63 := by
  unfold parseSigned at h
  split at h
  · cases h
  · split at h
    · cases h
    · simp only [Nat.pow_eq] at h
      split at h
      · split at h
        · cases h
        · simp only [Except.ok.injEq] at h
          subst h
          omega
      · split at h
        · cases h
        · simp only [Except.ok.injEq] at h
          subst h
          omega

theorem parseInt64_bounds {s : ByteArray} {n : Int} (h : parseInt64 s = .ok n) :
    -2 ^ 63 ≤ n ∧ n < 2 ^ 63 :=
  parseSigned_bounds h

/-! ## What `toString` writes -/

/-- A character below 0x80 takes one byte. -/
theorem utf8Size_eq_one_of_lt {c : Char} (h : c.toNat < 128) : c.utf8Size = 1 := by
  rw [Char.utf8Size_eq_one_iff, UInt32.le_iff_toNat_le]
  have : c.val.toNat = c.toNat := rfl
  simp only [this, UInt32.toNat_ofNat]
  omega

theorem utf8Encode_ascii {l : List Char} (h : ∀ c ∈ l, c.toNat < 128) :
    l.utf8Encode.data.toList = l.map (fun c => c.toNat.toUInt8) := by
  induction l with
  | nil => simp
  | cons c l ih =>
    have hSize := utf8Size_eq_one_of_lt (h c List.mem_cons_self)
    rw [List.utf8Encode_cons, List.utf8Encode_singleton, String.utf8EncodeChar_eq_singleton hSize,
      ByteArray.toList_data_append, ih (fun c' h' => h c' (List.mem_cons_of_mem _ h'))]
    simp only [List.data_toByteArray, List.toList_toArray, List.cons_append, List.nil_append,
      List.map_cons]
    rfl

theorem bytes_toString_ofNat (m : Nat) : (toString (m : Int)).toUTF8.data.toList = digitBytes m := by
  have hAscii : ∀ c ∈ Nat.toDigits 10 m, c.toNat < 128 := by
    intro c hc
    have := Nat.isDigit_of_mem_toDigits (by omega) (by omega) hc
    simp [Char.isDigit] at this
    have h2 : c.val.toNat ≤ 57 := by simpa using (UInt32.le_iff_toNat_le.mp this.2)
    exact Nat.lt_of_le_of_lt h2 (by omega)
  show (Nat.repr m).toUTF8.data.toList = _
  rw [Nat.repr_eq_ofList_toDigits, String.toUTF8_eq_toByteArray, String.toByteArray_ofList,
    utf8Encode_ascii hAscii]
  rfl

theorem bytes_toString_neg {m : Nat} (hm : 0 < m) :
    (toString (-(m : Int))).toUTF8.data.toList = 45 :: digitBytes m := by
  obtain ⟨k, rfl⟩ : ∃ k, m = k + 1 := ⟨m - 1, by omega⟩
  have hNeg : -((k + 1 : Nat) : Int) = Int.negSucc k := rfl
  have hNat := bytes_toString_ofNat (k + 1)
  show (Int.repr _).toUTF8.data.toList = _
  rw [hNeg, Int.repr, String.toUTF8_eq_toByteArray, String.toByteArray_append,
    ByteArray.toList_data_append, ← String.toUTF8_eq_toByteArray]
  exact congrArg (45 :: ·) hNat

/-- What `toString` writes: the digits, after a `-` for a negative number. -/
theorem bytes_toString_int (n : Int) : (toString n).toUTF8.data.toList =
    if 0 ≤ n then digitBytes n.toNat else 45 :: digitBytes (-n).toNat := by
  split
  · have hn : n = (n.toNat : Int) := by omega
    rw [hn, bytes_toString_ofNat, Int.toNat_natCast]
  · have hn : n = -((-n).toNat : Int) := by omega
    rw [hn, bytes_toString_neg (by omega), neg_neg, Int.toNat_natCast]

/-- The first byte `toString` writes is a `-` or a digit, never a `+`. -/
theorem head_bytes_toString_ne_plus (n : Int) : (toString n).toUTF8.data.toList.head? ≠ some 43 := by
  rw [bytes_toString_int]
  split
  · obtain ⟨b, rest, hbr⟩ := List.exists_cons_of_ne_nil (digitBytes_ne_nil n.toNat)
    have hb := digitBytes_digits n.toNat b (by rw [hbr]; exact List.mem_cons_self)
    rw [hbr, List.head?_cons]
    rintro ⟨⟩
    exact absurd hb.1 (by decide)
  · simp

/-! ## Reading what was written -/

theorem parseInt64_eq (s : ByteArray) :
    parseInt64 s = parseSigned (splitSign s.data.toList).1 (splitSign s.data.toList).2 := rfl

/-- The digits of a number below `2 ^ 64`, after a sign, read as the number with that sign,
within the range of the sign. -/
theorem parseSigned_digitBytes {m : Nat} (hm : m < 2 ^ 64) (negative : Bool) :
    parseSigned negative (digitBytes m) =
      if negative then (if 2 ^ 63 < m then .error .outOfRange else .ok (-(m : Int)))
      else (if 2 ^ 63 ≤ m then .error .outOfRange else .ok (m : Int)) := by
  have hDigits := parseDigits_of_digits (digitBytes_digits m) 0 (by omega)
  rw [digitsValue_digitBytes, if_pos hm] at hDigits
  unfold parseSigned
  rw [if_neg (by simp [digitBytes_ne_nil]), hDigits]
  rfl

/-- What a successful read of digits after a sign gave: the value of digit bytes, with the
sign. -/
theorem parseSigned_eq_ok {negative : Bool} {ds : List UInt8} {n : Int}
    (h : parseSigned negative ds = .ok n) :
    ds ≠ [] ∧ (∀ b ∈ ds, IsDigitByte b) ∧
      n = if negative then -(digitsValue ds 0 : Int) else (digitsValue ds 0 : Int) := by
  unfold parseSigned at h
  split at h
  · cases h
  · rename_i hne
    split at h
    · cases h
    · rename_i k hk
      obtain ⟨hd, rfl⟩ := digits_of_parseDigits hk
      refine ⟨by simpa using hne, hd, ?_⟩
      cases negative
      · simp only [Bool.false_eq_true, if_false] at h ⊢
        split at h
        · cases h
        · exact (Except.ok.inj h).symm
      · simp only [if_true] at h ⊢
        split at h
        · cases h
        · exact (Except.ok.inj h).symm

/-- Every signed 64-bit integer reads back from its text. -/
theorem parseInt64_toString {i : Int} (hLow : -2 ^ 63 ≤ i) (hHigh : i < 2 ^ 63) :
    parseInt64 (toString i).toUTF8 = .ok i := by
  rw [parseInt64_eq, bytes_toString_int]
  split
  · rename_i hNonNeg
    rw [splitSign_digits (digitBytes_digits _), parseSigned_digitBytes (by omega),
      if_neg Bool.false_ne_true, if_neg (by omega)]
    congr 1
    omega
  · rename_i hNeg
    rw [splitSign_minus, parseSigned_digitBytes (by omega), if_pos rfl, if_neg (by omega)]
    congr 1
    omega

/-- Whether a decimal is written the way `toString` writes its value: no `+` sign, and no
leading `0` digit except in `0` itself. -/
def Canonical (s : ByteArray) : Prop :=
  s.data.toList.head? ≠ some 43 ∧
    ((splitSign s.data.toList).2.head? = some 48 → s.data.toList = [48])

theorem bytes_eq_iff {a b : ByteArray} : a = b ↔ a.data.toList = b.data.toList := by
  rw [ByteArray.ext_iff, Array.toList_inj]

theorem digitBytes_zero : digitBytes 0 = [48] := by
  rw [digitBytes_eq]
  rfl

/-- **Printing what was read.** The text of a decimal read from `s` is `s` itself exactly when
`s` is written the canonical way. -/
theorem toString_parseInt64_eq_iff {s : ByteArray} {n : Int} (h : parseInt64 s = .ok n) :
    (toString n).toUTF8 = s ↔ Canonical s := by
  rw [parseInt64_eq] at h
  rw [bytes_eq_iff, Canonical]
  obtain ⟨hne, hd, hn⟩ := parseSigned_eq_ok h
  generalize s.data.toList = l at hne hd hn ⊢
  match l with
  | [] => exact absurd rfl hne
  | c :: rest =>
    by_cases h43 : c = 43
    · -- a `+` is read but never written
      subst h43
      have := head_bytes_toString_ne_plus n
      constructor
      · intro hEq
        rw [hEq] at this
        simp at this
      · rintro ⟨hPlus, -⟩
        simp at hPlus
    have hHead : (c :: rest).head? ≠ some 43 := by simpa using h43
    by_cases h45 : c = 45
    · -- a `-` is written only before digits with no leading zero
      subst h45
      simp only [splitSign_minus, if_true] at hd hn hne ⊢
      simp only [hHead, ne_eq, not_false_eq_true, true_and]
      subst hn
      rw [bytes_toString_int]
      by_cases hZero : digitsValue rest 0 = 0
      · have h48 := head_of_digitsValue_zero hd hne hZero
        rw [hZero, if_pos (by omega)]
        simp [digitBytes_zero, h48]
      · rw [if_neg (by omega), neg_neg, Int.toNat_natCast]
        simp only [List.cons.injEq, true_and]
        constructor
        · intro hEq h48
          rw [← hEq] at h48
          exact absurd (eq_zero_of_head_digitBytes h48) hZero
        · intro hLead
          refine digitBytes_digitsValue hd hne (.inl fun h48 => ?_)
          simpa using hLead h48
    · -- no sign: the digits have no leading zero, unless they are `0`
      have hSplit : splitSign (c :: rest) = (false, c :: rest) := by simp [splitSign, h43, h45]
      simp only [hSplit, Bool.false_eq_true, if_false] at hd hn hne ⊢
      simp only [hHead, ne_eq, not_false_eq_true, true_and]
      subst hn
      rw [bytes_toString_int, if_pos (by omega), Int.toNat_natCast]
      constructor
      · intro hEq h48
        have h0 : digitsValue (c :: rest) 0 = 0 :=
          eq_zero_of_head_digitBytes (by rw [hEq]; exact h48)
        rw [← hEq, h0, digitBytes_zero]
      · intro hLead
        by_cases h48 : c = 48
        · exact digitBytes_digitsValue hd hne (.inr (hLead (by simp [h48])))
        · exact digitBytes_digitsValue hd hne (.inl (by simpa using h48))

end LogStore.Text
