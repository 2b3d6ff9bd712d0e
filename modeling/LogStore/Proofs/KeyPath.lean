import Mathlib
import LogStore.Proofs.Api
import LogStore.Proofs.Decimal
import LogStore.Proofs.Transfer

/-!
# Keys in request paths

A key is any bytes, and a request names it by one segment of its path, `/api/v1/kv/<segment>`,
in percent-encoding. Routing reads the path as spelled when the spelling is not the standard
encoding of the decoded path, and the key is then decoded from the segment; otherwise it reads
the decoded path and takes the segment as the key. Either way the route names exactly the key's
bytes, provided the segment escapes `/`, `?`, `#` and `%` and writes no control character as
itself: a target holding one is refused before any routing (`Request.build?_refuses_control`).

* `Spells e k`: the bytes `e` percent-encode the bytes `k`. Decoding a spelling gives its bytes
  (`unescapeFrom_spells`) and finds no bad escape in it (`badEscape?_of_spells`).
* `Target.parse?_path`: an absolute path, with no query, fragment or control character, reads as
  the bytes it spells, its spelling kept when it is not the standard one.
* `SegmentSpelling seg k`: `seg` spells the key `k` as one segment. The standard escape of a
  segment, `escapeSegment`, is one (`escapeSegment_spelling`).
* `keyPath_routes`: a key's spelling routes to the key's store route, naming exactly the key.
* `spelled_key_put_then_get`: a `PUT` and then a `GET` of a key's spelling store the body under
  exactly the key and answer it back.
-/

namespace LogStore.Http

/-! ## Percent-encoding -/

/-- `e` spells the bytes `k` in percent-encoding: each byte as itself, `%` apart, or as `%` and
two hexadecimal digits of either case. -/
inductive Spells : List UInt8 → List UInt8 → Prop
  | nil : Spells [] []
  | escaped {e k : List UInt8} (c hi lo : UInt8) : isHexDigit hi = true → isHexDigit lo = true →
      hexDigitValue hi * 16 + hexDigitValue lo = c.toNat → Spells e k →
      Spells (37 :: hi :: lo :: e) (c :: k)
  | plain {e k : List UInt8} (c : UInt8) : c ≠ 37 → Spells e k → Spells (c :: e) (c :: k)

namespace Spells

/-- Bytes with no `%` spell themselves. -/
theorem self {l : List UInt8} (h : 37 ∉ l) : Spells l l := by
  induction l with
  | nil => exact .nil
  | cons c l ih =>
    rw [List.mem_cons, not_or] at h
    exact .plain c (Ne.symm h.1) (ih h.2)

theorem append {e k e' k' : List UInt8} (h : Spells e k) (h' : Spells e' k') :
    Spells (e ++ e') (k ++ k') := by
  induction h with
  | nil => exact h'
  | escaped c hi lo hHi hLo hVal _ ih => exact .escaped c hi lo hHi hLo hVal ih
  | plain c hc _ ih => exact .plain c hc ih

theorem nil_spells_nil {k : List UInt8} (h : Spells [] k) : k = [] := by
  cases h
  rfl

end Spells

theorem badEscape?_cons_of_ne {c : UInt8} (hc : c ≠ 37) (e : List UInt8) :
    badEscape? (c :: e) = badEscape? e := by
  simp [badEscape?, hc]

theorem badEscape?_of_spells {e k : List UInt8} (h : Spells e k) : badEscape? e = none := by
  induction h with
  | nil => rfl
  | escaped c hi lo hHi hLo _ _ ih => simp [badEscape?, hHi, hLo, ih]
  | plain c hc _ ih => rw [badEscape?_cons_of_ne hc, ih]

theorem getElem_of_toList {b : ByteArray} {pre rest : List UInt8} {x : UInt8}
    (hb : b.data.toList = pre ++ x :: rest) (h : pre.length < b.size) : b[pre.length] = x := by
  rw [ByteArray.getElem_eq_getElem_data, ← Array.getElem_toList]
  simp only [hb, List.getElem_append_right (Nat.le_refl _), Nat.sub_self, List.getElem_cons_zero]

theorem get!_of_toList {b : ByteArray} {pre rest : List UInt8} {x : UInt8}
    (hb : b.data.toList = pre ++ x :: rest) : b.get! pre.length = x := by
  have h : pre.length < b.size := by
    rw [← ByteArray.size_data, ← Array.length_toList, hb]
    simp
  rw [← getElem_of_toList hb h]
  cases b with
  | mk data =>
    have h' : pre.length < data.size := h
    simp only [ByteArray.get!, getElem!_pos data pre.length h']
    rfl

theorem push_append_mk (acc : ByteArray) (c : UInt8) (k : List UInt8) :
    acc.push c ++ ⟨k.toArray⟩ = acc ++ ⟨(c :: k).toArray⟩ := by
  ext1
  simp [ByteArray.data_append]

theorem size_of_toList {b : ByteArray} {l : List UInt8} (hb : b.data.toList = l) :
    b.size = l.length := by
  rw [← ByteArray.size_data, ← Array.length_toList, hb]

/-- Decoding a spelling, wherever it stands after the bytes `pre`, appends the bytes it spells. -/
theorem unescapeFrom_spells {e k : List UInt8} (h : Spells e k) :
    ∀ {b : ByteArray} {pre : List UInt8}, b.data.toList = pre ++ e → ∀ acc : ByteArray,
      unescapeFrom b false pre.length acc = some (acc ++ ⟨k.toArray⟩) := by
  induction h with
  | nil =>
    intro b pre hb acc
    have hSize := size_of_toList hb
    rw [unescapeFrom, dif_neg (by simp at hSize; omega)]
    congr 1
    ext1
    simp [ByteArray.data_append]
  | @escaped e k c hi lo hHi hLo hVal _ ih =>
    intro b pre hb acc
    have hSize := size_of_toList hb
    simp only [List.length_append, List.length_cons] at hSize
    have hLt : pre.length < b.size := by omega
    have h0 : b[pre.length] = 37 := getElem_of_toList hb hLt
    -- the two digits stand one and two bytes after the `%`
    have h1 : b.get! (pre.length + 1) = hi := by
      have hb1 : b.data.toList = (pre ++ [37]) ++ hi :: lo :: e := by rw [hb]; simp
      simpa using get!_of_toList hb1
    have h2 : b.get! (pre.length + 2) = lo := by
      have hb2 : b.data.toList = (pre ++ [37, hi]) ++ lo :: e := by rw [hb]; simp
      simpa using get!_of_toList hb2
    have hc : (hexDigitValue hi * 16 + hexDigitValue lo).toUInt8 = c := by
      rw [hVal]
      simp
    rw [unescapeFrom, dif_pos (by omega)]
    simp only [h0, h1, h2, hHi, hLo, hc, if_true, and_self, show pre.length + 2 < b.size by omega]
    rw [show pre.length + 3 = (pre ++ [37, hi, lo]).length by simp, ih (by rw [hb]; simp),
      push_append_mk]
  | plain c hc _ ih =>
    intro b pre hb acc
    have hSize := size_of_toList hb
    simp only [List.length_append, List.length_cons] at hSize
    have hLt : pre.length < b.size := by omega
    have h0 : b[pre.length] = c := getElem_of_toList hb hLt
    rw [unescapeFrom, dif_pos (by omega)]
    simp only [h0, hc, if_false, Bool.false_eq_true, false_and]
    rw [show pre.length + 1 = (pre ++ [c]).length by simp, ih (by rw [hb]; simp), push_append_mk]

theorem unescapeFrom_of_spells {b : ByteArray} {k : List UInt8} (h : Spells b.data.toList k) :
    unescapeFrom b false 0 ByteArray.empty = some ⟨k.toArray⟩ := by
  have := @unescapeFrom_spells _ _ h b [] rfl ByteArray.empty
  simpa using this

/-! ## Reading an absolute path -/

theorem bytes_toUTF8 (s : String) :
    s.toUTF8.data.toList = s.toList.flatMap String.utf8EncodeChar := by
  rw [String.toUTF8_eq_toByteArray, ← String.utf8Encode_toList]
  simp [List.utf8Encode]

/-- A character below 0x80 is written as its one byte. -/
theorem mem_toUTF8_of_mem {s : String} {c : Char} (hc : c ∈ s.toList) (hAscii : c.toNat < 128) :
    c.toNat.toUInt8 ∈ s.toUTF8.data.toList := by
  rw [bytes_toUTF8]
  exact List.mem_flatMap.2 ⟨c, hc, by
    simp [String.utf8EncodeChar_eq_singleton (Text.utf8Size_eq_one_of_lt hAscii)]; rfl⟩

theorem cutAt_of_not_mem {s : String} {c : Char} (h : c ∉ s.toList) : cutAt s c = (s, "") := by
  have hAll : ∀ x ∈ s.toList, (x != c) = true := by
    intro x hx
    have : x ≠ c := fun he => h (he ▸ hx)
    simpa using this
  simp [cutAt, List.takeWhile_eq_self_iff.2 hAll, List.dropWhile_eq_nil_iff.2 hAll]

theorem splitScheme_of_slash {s : String} {r : List Char} (h : s.toList = '/' :: r) :
    splitScheme s = .ok ("", s) := by
  simp [splitScheme, h, schemeChar]

/-- A target that is an absolute path, not `//`, with no `?` and no control character, whose
bytes spell `p`, reads as the path `p`; its spelling is kept when it is not the standard one. -/
theorem parseReference_path {u : String} {p : List UInt8} {c : Char} {r : List Char}
    (hu : u.toList = '/' :: c :: r) (hc : c ≠ '/') (hSpells : Spells u.toUTF8.data.toList p)
    (hQuery : '?' ∉ u.toList) (hCtl : ∀ x ∈ u.toList, 32 ≤ x.toNat ∧ x.toNat ≠ 127) :
    parseReference u = .ok
      { path := ⟨p.toArray⟩, rawPath := if escapePath ⟨p.toArray⟩ = u then none else some u,
        rawQuery := "" } := by
  have hAny : u.toList.any (fun x => x.toNat < 32 || x.toNat = 127) = false := by
    rw [List.any_eq_false]
    intro x hx
    have := hCtl x hx
    simp only [Bool.or_eq_true, decide_eq_true_eq, not_or]
    omega
  have hStar : u ≠ "*" := by
    intro h
    rw [h] at hu
    simp at hu
  have hBad : badEscape? u.toUTF8.toList = none := by
    rw [Bytes.toList_eq_data]
    exact badEscape?_of_spells hSpells
  have hPath : unescape u false = some ⟨p.toArray⟩ := unescapeFrom_of_spells hSpells
  -- the path is absolute and names no authority
  have hRoot : u.startsWith "/" = true := by simp [hu]
  have hNet : u.startsWith "//" = false := by simp [hu, Ne.symm hc]
  simp only [parseReference, hAny, Bool.false_eq_true, if_false, hStar, splitScheme_of_slash hu,
    cutAt_of_not_mem hQuery, hRoot, hNet, bind, Except.bind, pure, Except.pure, Bool.not_true,
    Bool.and_false]
  rw [hBad, hPath]
  rfl

theorem Target.parse?_path {u : String} {p : List UInt8} {c : Char} {r : List Char}
    (hu : u.toList = '/' :: c :: r) (hc : c ≠ '/') (hSpells : Spells u.toUTF8.data.toList p)
    (hQuery : '?' ∉ u.toList) (hFragment : '#' ∉ u.toList)
    (hCtl : ∀ x ∈ u.toList, 32 ≤ x.toNat ∧ x.toNat ≠ 127) :
    Target.parse? u = .ok
      { path := ⟨p.toArray⟩, rawPath := if escapePath ⟨p.toArray⟩ = u then none else some u,
        rawQuery := "" } := by
  have hEmpty : badEscape? "".toUTF8.toList = none := by simp [badEscape?]
  simp only [Target.parse?, cutAt_of_not_mem hFragment,
    parseReference_path hu hc hSpells hQuery hCtl, hEmpty]

/-- A target with a control character before its fragment is refused, whatever else it holds. -/
theorem Target.parse?_of_control {u : String} (hFragment : '#' ∉ u.toList)
    (h : ∃ x ∈ u.toList, x.toNat < 32 ∨ x.toNat = 127) :
    Target.parse? u =
      .error ("parse " ++ Text.quote u ++ ": " ++ "net/url: invalid control character in URL") := by
  have hAny : u.toList.any (fun x => x.toNat < 32 || x.toNat = 127) = true := by
    obtain ⟨x, hx, hCtl⟩ := h
    exact List.any_eq_true.2 ⟨x, hx, by simpa using hCtl⟩
  simp only [Target.parse?, cutAt_of_not_mem hFragment, parseReference, hAny, if_true, bind,
    Except.bind, throw, throwThe, MonadExceptOf.throw]

/-! ## Escaping bytes -/

/-- The escape of one byte: itself when `safe` takes it, else `%` and its two hexadecimal digits
in capitals. -/
def escapeByte (safe : UInt8 → Bool) (c : UInt8) : List Char :=
  if safe c then [Char.ofNat c.toNat]
  else ['%', (Bytes.hexDigit (c.toNat / 16)).toUpper, (Bytes.hexDigit (c.toNat % 16)).toUpper]

/-- The standard encoding of a path escapes byte by byte. -/
theorem escapePath_toList (b : ByteArray) :
    (escapePath b).toList = b.data.toList.flatMap (escapeByte pathSafe) := by
  have hStep : ∀ (l : List UInt8) (init : String),
      (l.foldl (fun acc c => if pathSafe c then acc.push (Char.ofNat c.toNat)
        else acc ++ "%" ++ String.ofList [(Bytes.hexDigit (c.toNat / 16)).toUpper,
          (Bytes.hexDigit (c.toNat % 16)).toUpper]) init).toList =
        init.toList ++ l.flatMap (escapeByte pathSafe) := by
    intro l
    induction l with
    | nil => simp
    | cons c l ih =>
      intro init
      rw [List.foldl_cons, ih, List.flatMap_cons, escapeByte]
      split <;> simp
  rw [escapePath, Checksum.foldl_eq_toList, hStep]
  rfl

/-- Whether a byte stands as itself in an escaped path segment: a letter, a digit or one of
`-_.~$&+:=@`. -/
def segmentSafe (c : UInt8) : Bool :=
  (97 ≤ c && c ≤ 122) || (65 ≤ c && c ≤ 90) || (48 ≤ c && c ≤ 57) ||
    [45, 95, 46, 126, 36, 38, 43, 58, 61, 64].contains c

/-- The standard escape of bytes as one path segment. -/
def escapeSegment (k : ByteArray) : String :=
  String.ofList (k.data.toList.flatMap (escapeByte segmentSafe))

/-- Whether a byte may stand unescaped in a path segment that names a key: not `/`, `?` or `#`,
which end the segment, nor a control byte, which no target holds. -/
def segmentByte (c : UInt8) : Bool :=
  c != 47 && c != 63 && c != 35 && 32 ≤ c && c != 127

/-- `seg` spells the key `k` as one path segment: its bytes percent-encode `k`, and a byte that
`segmentByte` refuses stands in it only escaped. -/
structure SegmentSpelling (seg : String) (k : ByteArray) : Prop where
  spells : Spells seg.toUTF8.data.toList k.data.toList
  plain : ∀ c ∈ seg.toUTF8.data.toList, segmentByte c = true

theorem segmentSafe_ascii : ∀ c : UInt8, segmentSafe c = true →
    (Char.ofNat c.toNat).toNat < 128 ∧ (Char.ofNat c.toNat).toNat.toUInt8 = c ∧ c ≠ 37 ∧
      segmentByte c = true := by
  decide +kernel

theorem hexDigit_upper : ∀ d : Nat, d < 16 →
    let h := ((Bytes.hexDigit d).toUpper).toNat
    h < 128 ∧ isHexDigit h.toUInt8 = true ∧ hexDigitValue h.toUInt8 = d ∧
      segmentByte h.toUInt8 = true
  | 0, _ | 1, _ | 2, _ | 3, _ | 4, _ | 5, _ | 6, _ | 7, _ | 8, _ | 9, _ | 10, _ | 11, _ | 12, _
  | 13, _ | 14, _ | 15, _ => by decide
  | _ + 16, h => absurd h (by omega)

/-- The escape of one byte in a segment is text below 0x80 whose bytes spell the byte and may
all stand in a key's segment. -/
theorem escapeByte_spells (c : UInt8) :
    let e := (escapeByte segmentSafe c).map fun ch => ch.toNat.toUInt8
    (∀ ch ∈ escapeByte segmentSafe c, ch.toNat < 128) ∧ Spells e [c] ∧
      ∀ b ∈ e, segmentByte b = true := by
  have hc : c.toNat < 256 := c.toNat_lt_size
  unfold escapeByte
  split
  · next hSafe =>
    obtain ⟨hAscii, hOwn, h37, hByte⟩ := segmentSafe_ascii c hSafe
    simp only [List.mem_singleton, forall_eq, List.map_cons, List.map_nil, hAscii, hOwn, hByte]
    exact ⟨trivial, .plain c h37 .nil, trivial⟩
  · obtain ⟨hHi, hHiHex, hHiVal, hHiByte⟩ := hexDigit_upper (c.toNat / 16) (by omega)
    obtain ⟨hLo, hLoHex, hLoVal, hLoByte⟩ := hexDigit_upper (c.toNat % 16) (by omega)
    simp only [List.map_cons, List.map_nil, List.forall_mem_cons, List.not_mem_nil,
      IsEmpty.forall_iff, implies_true, and_true]
    exact ⟨⟨by decide, hHi, hLo⟩,
      .escaped c _ _ hHiHex hLoHex (by rw [hHiVal, hLoVal]; omega) .nil,
      by decide, hHiByte, hLoByte⟩

theorem escapeSegment_bytes (k : ByteArray) :
    (escapeSegment k).toUTF8.data.toList =
      k.data.toList.flatMap fun c => (escapeByte segmentSafe c).map fun ch => ch.toNat.toUInt8 := by
  have hAscii : ∀ ch ∈ k.data.toList.flatMap (escapeByte segmentSafe), ch.toNat < 128 := by
    intro ch hch
    obtain ⟨c, -, hc⟩ := List.mem_flatMap.1 hch
    exact (escapeByte_spells c).1 ch hc
  rw [escapeSegment, String.toUTF8_eq_toByteArray, String.toByteArray_ofList,
    Text.utf8Encode_ascii hAscii, List.map_flatMap]

/-- The standard escape of a key spells it as one path segment. -/
theorem escapeSegment_spelling (k : ByteArray) : SegmentSpelling (escapeSegment k) k := by
  have hEach : ∀ l : List UInt8,
      let e := l.flatMap fun c => (escapeByte segmentSafe c).map fun ch => ch.toNat.toUInt8
      Spells e l ∧ ∀ b ∈ e, segmentByte b = true := by
    intro l
    induction l with
    | nil => exact ⟨.nil, by simp⟩
    | cons c l ih =>
      obtain ⟨-, hc, hcBytes⟩ := escapeByte_spells c
      refine ⟨hc.append ih.1, ?_⟩
      simp only [List.flatMap_cons, List.mem_append]
      rintro b (hb | hb)
      · exact hcBytes b hb
      · exact ih.2 b hb
  obtain ⟨hSpells, hBytes⟩ := hEach k.data.toList
  rw [← escapeSegment_bytes] at hSpells hBytes
  exact ⟨hSpells, hBytes⟩

theorem ascii_segmentByte : ∀ n < 128, segmentByte n.toUInt8 = true →
    n ≠ 47 ∧ n ≠ 63 ∧ n ≠ 35 ∧ 32 ≤ n ∧ n ≠ 127 := by
  decide +kernel

namespace SegmentSpelling

variable {seg : String} {k : ByteArray}

/-- No character of a key's spelling ends its segment or is a control character. -/
theorem char (h : SegmentSpelling seg k) {x : Char} (hx : x ∈ seg.toList) :
    x.toNat ≠ 47 ∧ x.toNat ≠ 63 ∧ x.toNat ≠ 35 ∧ 32 ≤ x.toNat ∧ x.toNat ≠ 127 := by
  by_cases hAscii : x.toNat < 128
  · exact ascii_segmentByte x.toNat hAscii (h.plain _ (mem_toUTF8_of_mem hx hAscii))
  · omega

end SegmentSpelling

/-! ## The path of a key -/

theorem keyPath_bytes (seg : String) :
    ("/api/v1/kv/" ++ seg).toUTF8.data.toList =
      byteList "/api/v1/kv/" ++ seg.toUTF8.data.toList := by
  rw [String.toUTF8_eq_toByteArray, String.toByteArray_append, ByteArray.toList_data_append,
    byteList, Bytes.toList_eq_data]
  rfl

theorem keyPath_chars :
    "/api/v1/kv/".toList = ['/', 'a', 'p', 'i', '/', 'v', '1', '/', 'k', 'v', '/'] := by
  simp

/-- The prefix of the key routes holds no `?`, `#` or control character. -/
theorem keyPrefix_chars :
    ∀ x ∈ "/api/v1/kv/".toList, x ≠ '?' ∧ x ≠ '#' ∧ 32 ≤ x.toNat ∧ x.toNat ≠ 127 := by
  rw [keyPath_chars]
  simp

/-- The prefix of the key routes is its own standard encoding. -/
theorem escape_keyPrefix :
    (byteList "/api/v1/kv/").flatMap (escapeByte pathSafe) = "/api/v1/kv/".toList := by
  obtain ⟨-, -, -, -, -, -, -, -, hkvs⟩ := byteList_routes
  rw [hkvs, keyPath_chars]
  decide +kernel

/-- A key's spelling under `/api/v1/kv/` reads as the path of the key's bytes; the spelling is
kept unless it is the standard one. -/
theorem parse?_keyPath {seg : String} {k : ByteArray} (h : SegmentSpelling seg k) :
    let p := byteList "/api/v1/kv/" ++ k.data.toList
    Target.parse? ("/api/v1/kv/" ++ seg) = .ok
      { path := ⟨p.toArray⟩,
        rawPath := if escapePath ⟨p.toArray⟩ = "/api/v1/kv/" ++ seg then none
          else some ("/api/v1/kv/" ++ seg),
        rawQuery := "" } := by
  intro p
  -- a character of the path is one of the prefix or one of the spelling
  have hChars : ∀ x ∈ ("/api/v1/kv/" ++ seg).toList,
      x ≠ '?' ∧ x ≠ '#' ∧ 32 ≤ x.toNat ∧ x.toNat ≠ 127 := by
    intro x hx
    rw [String.toList_append, List.mem_append] at hx
    rcases hx with hx | hx
    · exact keyPrefix_chars x hx
    · obtain ⟨-, h63, h35, h32, h127⟩ := h.char hx
      exact ⟨fun hq => h63 (by rw [hq]; rfl), fun hf => h35 (by rw [hf]; rfl), h32, h127⟩
  have hSpells : Spells ("/api/v1/kv/" ++ seg).toUTF8.data.toList p := by
    obtain ⟨-, -, -, -, -, -, -, -, hkvs⟩ := byteList_routes
    rw [keyPath_bytes]
    exact (Spells.self (by rw [hkvs]; decide)).append h.spells
  exact Target.parse?_path (by rw [String.toList_append, keyPath_chars]; rfl) (by decide) hSpells
    (fun hq => (hChars _ hq).1 rfl) (fun hf => (hChars _ hf).2.1 rfl) fun x hx => (hChars x hx).2.2

/-- A key's spelling routes to the key: the route path is `/api/v1/kv/` and one segment, which
names exactly the key's bytes, and there is no query. -/
theorem keyPath_routes {seg : String} {k : ByteArray} (h : SegmentSpelling seg k)
    (hk : k.size ≠ 0) {t : Target} (ht : Target.parse? ("/api/v1/kv/" ++ seg) = .ok t) :
    t.rawQuery = "" ∧ ∃ raw, t.routePath.toList = byteList "/api/v1/kv/" ++ raw.toList ∧
      raw.size ≠ 0 ∧ 47 ∉ raw.toList ∧ keyOf t raw = .ok k := by
  rw [parse?_keyPath h, Except.ok.injEq] at ht
  subst ht
  refine ⟨rfl, ?_⟩
  have hkEmpty : k.isEmpty = false := by simpa [ByteArray.isEmpty] using hk
  by_cases hStd :
      escapePath ⟨(byteList "/api/v1/kv/" ++ k.data.toList).toArray⟩ = "/api/v1/kv/" ++ seg
  · -- the standard spelling: routing sees the decoded path, which holds no `/` after the prefix,
    -- since the encoding writes a `/` as itself and the spelling has none
    have hEsc : k.data.toList.flatMap (escapeByte pathSafe) = seg.toList := by
      have := congrArg String.toList hStd
      rw [escapePath_toList, String.toList_append, ← escape_keyPrefix] at this
      simpa using this
    have hNoSlash : 47 ∉ k.data.toList := by
      intro h47
      have hIn : '/' ∈ seg.toList := by
        rw [← hEsc]
        exact List.mem_flatMap.2 ⟨47, h47, by decide +kernel⟩
      exact (h.char hIn).1 rfl
    refine ⟨k, ?_, hk, by rwa [Bytes.toList_eq_data], ?_⟩
    · simp [Target.routePath, hStd, Bytes.toList_eq_data]
    · simp [keyOf, hStd, hkEmpty]
  · -- any other spelling is kept, routed on as spelled and decoded by the handler
    have hSegEmpty : seg.toUTF8.size ≠ 0 := by
      intro h0
      have hNil : seg.toUTF8.data.toList = [] := by
        rw [← List.length_eq_zero_iff, Array.length_toList]
        exact h0
      exact hk (size_of_toList (Spells.nil_spells_nil (hNil ▸ h.spells)))
    refine ⟨seg.toUTF8, ?_, hSegEmpty, ?_, ?_⟩
    · simp only [Target.routePath, hStd, if_false]
      rw [Bytes.toList_eq_data, Bytes.toList_eq_data, keyPath_bytes]
    · rw [Bytes.toList_eq_data]
      intro h47
      have := h.plain 47 h47
      simp [segmentByte] at this
    · have hNonempty : seg.toUTF8.isEmpty = false := by
        simpa [ByteArray.isEmpty] using hSegEmpty
      simp only [keyOf, hStd, if_false, hNonempty, Bool.false_eq_true,
        unescapeFrom_of_spells h.spells]

/-! ## Requests to a key's path -/

/-- A request with a method name that is a nonempty token and a target that parses is built as
given, its header names made canonical. -/
theorem Request.build?_of_parse? {method target : String} {headers : List (String × String)}
    {body : ByteArray} {t : Target} (hEmpty : method.isEmpty = false)
    (hToken : method.toList.all headerNameByte = true) (ht : Target.parse? target = .ok t) :
    Request.build? method target headers body =
      .ok { method, target := t, headers := headers.map fun p => (canonicalName p.1, p.2),
            body } := by
  simp only [Request.build?, hEmpty, hToken, ht, Bool.false_eq_true, if_false, Bool.not_true]

/-- A spelling that writes a control character as itself names no key: no request to it is
built, whatever its method, headers and body. -/
theorem Request.build?_refuses_control {seg : String} (hFragment : '#' ∉ seg.toList)
    (h : ∃ x ∈ seg.toList, x.toNat < 32 ∨ x.toNat = 127) (method : String)
    (headers : List (String × String)) (body : ByteArray) :
    ∃ e, Request.build? method ("/api/v1/kv/" ++ seg) headers body = .error e := by
  have hPre : '#' ∉ "/api/v1/kv/".toList := fun h => (keyPrefix_chars _ h).2.1 rfl
  have hNone : '#' ∉ ("/api/v1/kv/" ++ seg).toList := by
    rw [String.toList_append, List.mem_append, not_or]
    exact ⟨hPre, hFragment⟩
  obtain ⟨x, hx, hCtl⟩ := h
  have hParse := Target.parse?_of_control hNone
    ⟨x, by rw [String.toList_append]; exact List.mem_append_right _ hx, hCtl⟩
  -- refused for its method, or else for its target, whether the method was given or defaulted
  simp only [Request.build?, hParse]
  split_ifs <;> exact ⟨_, rfl⟩

/-- A target without a query sets in the default mode. -/
theorem mode_of_empty_query :
    SetMode.parseBytes? ((queryValue "" "mode").getD ByteArray.empty) = .ok .upsert := by
  have hNone : queryValue "" "mode" = none := by
    rw [queryValue, String.splitOn, String.splitOnAux]
    simp [String.Pos.Raw.extract]
  rw [hNone]
  rfl

namespace Server

/-- A request to a key's spelling, with any method but `OPTIONS`, that the server admits, is a
request to the key's store route naming exactly the key. -/
theorem keyRequest_of_spelling {seg : String} {k : ByteArray} (h : SegmentSpelling seg k)
    (hk : k.size ≠ 0) {srv : Server} {req : Request} {method : String}
    (ht : Target.parse? ("/api/v1/kv/" ++ seg) = .ok req.target) (hMethod : req.method = method)
    (hOptions : method ≠ "OPTIONS") (hAdmit : srv.Admits req) :
    req.target.rawQuery = "" ∧ ∃ raw, KeyRequest srv req method raw k := by
  obtain ⟨hQuery, raw, hPath, hRaw, hSeg, hKey⟩ := keyPath_routes h hk ht
  have hPre : req.isPreflight = false := by
    simp [Request.isPreflight, hMethod, hOptions]
  exact ⟨hQuery, raw, hPre, hAdmit, hMethod, hPath, hRaw, hSeg, hKey⟩

/-- An upsert of `body` at `k` on a store that can write leaves `k` bound to `body` and every
other key as it was. -/
theorem get?_after_upsert {st : Store} {w : World} {k body : ByteArray}
    (hW : st.CanWrite w.disk) (hk : k.size ≤ maxKeySize) (hv : body.size ≤ maxValueSize)
    (k' : ByteArray) :
    (Store.set k body .upsert st w).1.2.get? k' = if k' = k then some body else st.get? k' := by
  obtain ⟨hSet, -⟩ := Store.set_of_canWrite hW (.inl rfl) hk hv
  rw [congrArg Prod.snd hSet]
  by_cases hAdmit : SetMode.upsert.admits (st.keys.get? k) body
  · simp only [Store.get?, hAdmit, if_true, KeyDir.get?_insert]
  · -- an upsert that is not admitted found the key bound to the body already
    have hMerge : (if SetMode.upsert.admits (st.keys.get? k) body then some body
        else st.keys.get? k) = SetMode.upsert.merge (st.keys.get? k) (some body) :=
      SetMode.set_value_eq_merge (.inl rfl) (st.keys.get? k) body
    simp only [hAdmit, Bool.false_eq_true, if_false, SetMode.merge, Option.some_or] at hMerge
    simp only [Store.get?, hAdmit, Bool.false_eq_true, if_false]
    by_cases hKey : k' = k
    · rw [if_pos hKey, hKey, hMerge]
    · rw [if_neg hKey]

end Server

/-- **A key travels in its path segment.** Every nonempty key `k` has a spelling as one path
segment, its standard escape `escapeSegment k`; and for every spelling of `k` as a segment, the
requests `PUT` and `GET` of `/api/v1/kv/` and that spelling are built whatever their headers.
When the server admits both and the store can write a key and body within the limits, the `PUT`
is answered 200 and leaves `k` bound to the body and every other key as it was, and the `GET`
that follows is answered 200 with the body. -/
theorem spelled_key_put_then_get {k : ByteArray} (hk : k.size ≠ 0) :
    SegmentSpelling (escapeSegment k) k ∧
    ∀ {seg : String}, SegmentSpelling seg k →
    ∀ (putHeaders getHeaders : List (String × String)) (body : ByteArray),
      ∃ put get : Request,
        Request.build? "PUT" ("/api/v1/kv/" ++ seg) putHeaders body = .ok put ∧
        Request.build? "GET" ("/api/v1/kv/" ++ seg) getHeaders ByteArray.empty = .ok get ∧
        ∀ (srv : Server) (st : Store) (w : World), srv.Admits put → srv.Admits get →
          st.CanWrite w.disk → k.size ≤ maxKeySize → body.size ≤ maxValueSize →
          let o := Server.serve put srv st w
          let o' := Server.serve get o.1.1.2 o.1.2 o.2
          o.1.1.1.status = 200 ∧ (∀ k', o.1.2.get? k' = if k' = k then some body else st.get? k') ∧
          o'.1.1.1.status = 200 ∧ o'.1.1.1.body = body := by
  refine ⟨escapeSegment_spelling k, fun {seg} h putHeaders getHeaders body => ?_⟩
  obtain ⟨t, ht⟩ : ∃ t, Target.parse? ("/api/v1/kv/" ++ seg) = .ok t := ⟨_, parse?_keyPath h⟩
  let put : Request := { method := "PUT", target := t,
                         headers := putHeaders.map fun p => (canonicalName p.1, p.2), body }
  let get : Request := { method := "GET", target := t,
                         headers := getHeaders.map fun p => (canonicalName p.1, p.2) }
  refine ⟨put, get, Request.build?_of_parse? rfl (by decide +kernel) ht,
    Request.build?_of_parse? rfl (by decide +kernel) ht, ?_⟩
  intro srv st w hPutAdmit hGetAdmit hW hkMax hvMax o o'
  -- the `PUT` names `k` and sets it in the default mode
  obtain ⟨hQuery, raw, hPut⟩ := Server.keyRequest_of_spelling h hk ht rfl
    (show "PUT" ≠ "OPTIONS" by decide) hPutAdmit
  have hMode := mode_of_empty_query
  rw [← hQuery] at hMode
  obtain ⟨hSt, -, hOk, -⟩ := Server.serve_put hPut st w hMode
  obtain ⟨hSet, -⟩ := Store.set_of_canWrite hW (.inl rfl) hkMax hvMax
  have hStatus := (hOk _ (congrArg Prod.fst hSet)).1
  have hBound : ∀ k', o.1.2.get? k' = if k' = k then some body else st.get? k' := by
    intro k'
    rw [show o.1.2 = _ from hSt]
    exact Server.get?_after_upsert hW hkMax hvMax k'
  -- the server keeps its key, so it admits the `GET` too, which names `k` again
  have hKeep : o.1.1.2.apiKey = srv.apiKey :=
    (Server.serve_keeps Server.keptByCalls_true put srv st w trivial).2
  have hGetAdmit' : o.1.1.2.Admits get := by
    rw [Server.Admits, hKeep]
    exact hGetAdmit
  obtain ⟨-, raw', hGet⟩ := Server.keyRequest_of_spelling h hk ht rfl
    (show "GET" ≠ "OPTIONS" by decide) hGetAdmit'
  obtain ⟨-, -, hFound, -⟩ := Server.serve_get hGet o.1.2 o.2
  obtain ⟨hGetStatus, hBody⟩ := hFound body (by rw [hBound k, if_pos rfl])
  exact ⟨hStatus, hBound, hGetStatus, hBody⟩

/-- The key `a/b`, escaped as `a%2Fb`, put and read back through a server with no key, over an
empty store that writes through its open handle on `/db`. -/
theorem spelled_key_put_then_get_slash :
    let k : ByteArray := ⟨#[97, 47, 98]⟩
    let body : ByteArray := ⟨#[49]⟩
    let d : Disk := { cwd := "/",
                      tree := { nodes := [(["db"], .file 0)], inodes := [(0, Header.encode)],
                                nextIno := 1 },
                      handles := #[{ node := .file 0, name := "/db", readable := true,
                                     writable := true }] }
    let w : World := { disk := d }
    let st : Store := { path := "/db", log := { path := "/db", file := some 0 }, logger := .nop,
                        isOpen := true }
    let srv : Server := { apiKey := "", logger := .nop }
    k.size ≠ 0 ∧ escapeSegment k = "a%2Fb" ∧ SegmentSpelling (escapeSegment k) k ∧
    ∃ put get : Request,
      Request.build? "PUT" ("/api/v1/kv/" ++ escapeSegment k) [] body = .ok put ∧
      Request.build? "GET" ("/api/v1/kv/" ++ escapeSegment k) [] ByteArray.empty = .ok get ∧
      srv.Admits put ∧ srv.Admits get ∧ st.CanWrite w.disk ∧ k.size ≤ maxKeySize ∧
      body.size ≤ maxValueSize ∧
      let o := Server.serve put srv st w
      let o' := Server.serve get o.1.1.2 o.1.2 o.2
      o.1.1.1.status = 200 ∧ (∀ k', o.1.2.get? k' = if k' = k then some body else st.get? k') ∧
      o'.1.1.1.status = 200 ∧ o'.1.1.1.body = body := by
  intro k body d w st srv
  have hk : k.size ≠ 0 := by decide
  have hW : st.CanWrite w.disk :=
    ⟨rfl, { frame := w.disk, handle := 0, ino := 0, x := w.disk.handles[0],
            live := rfl, node := rfl, writable := rfl }, ⟨rfl, rfl, rfl⟩, rfl, 0, rfl⟩
  obtain ⟨hEsc, hAll⟩ := spelled_key_put_then_get hk
  obtain ⟨put, get, hPut, hGet, hRun⟩ := hAll hEsc [] [] body
  exact ⟨hk, by decide +kernel, hEsc, put, get, hPut, hGet, .inl rfl, .inl rfl, hW, by decide,
    by decide, hRun srv st w (.inl rfl) (.inl rfl) hW (by decide) (by decide)⟩

end LogStore.Http
