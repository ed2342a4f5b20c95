/-
# Texts as bytes

The bytes of a text are read as that text, whatever comes after them.  In between, a character of
several bytes leaves the decoder with the bits read so far, and its next byte is always one that
the decoder takes.  A byte below 128 stands for its own character only, so a text without line
breaks has no line break among its bytes.
-/
import Mathlib
import ChatLink.Text.Utf8

namespace ChatLink.Utf8

variable {c : Char} {t : Text} {b : UInt8} {bs : Bytes} {s : Begun} {n k : Nat}

/-! ### One byte -/

lemma toNat_ofNat_of_lt (h : n < 256) : (UInt8.ofNat n).toNat = n := by
  rw [UInt8.toNat_ofNat']
  exact Nat.mod_eq_of_lt h

/-- A byte that continues a character adds six bits. -/
lemma decodeFrom_next (h : s.low ≤ b.toNat ∧ b.toNat ≤ s.high) (hlater : s.later = k + 1) :
    decodeFrom (some s) (b :: bs) =
      decodeFrom (some ⟨s.bits * 0x40 + b.toNat % 0x40, k, 0x80, 0xBF⟩) bs := by
  rw [decodeFrom, step, if_pos h, hlater]
  rfl

/-- The byte that completes a character. -/
lemma decodeFrom_last (h : s.low ≤ b.toNat ∧ b.toNat ≤ s.high) (hlater : s.later = 0) :
    decodeFrom (some s) (b :: bs) =
      Char.ofNat (s.bits * 0x40 + b.toNat % 0x40) :: decodeFrom none bs := by
  rw [decodeFrom, step, if_pos h, hlater]
  rfl

/-- A byte that begins a character of several bytes. -/
lemma decodeFrom_begin (h : start b = ([], some s)) :
    decodeFrom none (b :: bs) = decodeFrom (some s) bs := by
  rw [decodeFrom, step, h]
  rfl

/-! ### The first byte of a character -/

lemma start_two (h : 0x80 ≤ n) (h' : n < 0x800) :
    start (.ofNat (0xC0 + n / 0x40)) = ([], some ⟨n / 0x40, 0, 0x80, 0xBF⟩) := by
  rw [start, toNat_ofNat_of_lt (by omega)]
  rw [if_neg (by omega), if_neg (by omega), if_pos (by omega), Nat.add_sub_cancel_left]

/-- The second byte of three is bounded where fewer bytes would do and where no character is. -/
lemma start_three (h : 0x800 ≤ n) (h' : n < 0x10000) (hvalid : n < 0xD800 ∨ 0xDFFF < n) :
    ∃ low high, start (.ofNat (0xE0 + n / 0x1000)) = ([], some ⟨n / 0x1000, 1, low, high⟩) ∧
      low ≤ 0x80 + n / 0x40 % 0x40 ∧ 0x80 + n / 0x40 % 0x40 ≤ high := by
  rw [start, toNat_ofNat_of_lt (by omega)]
  rw [if_neg (by omega), if_neg (by omega), if_neg (by omega)]
  by_cases hzero : n / 0x1000 = 0
  · exact ⟨0xA0, 0xBF, by rw [if_pos (by omega), hzero], by omega, by omega⟩
  rw [if_neg (by omega)]
  by_cases hsurrogate : n / 0x1000 = 0xD
  · exact ⟨0x80, 0x9F, by rw [if_pos (by omega), hsurrogate], by omega, by omega⟩
  · refine ⟨0x80, 0xBF, ?_, by omega, by omega⟩
    rw [if_neg (by omega), if_pos (by omega), Nat.add_sub_cancel_left]

/-- The second byte of four is bounded where fewer bytes would do and where no character is. -/
lemma start_four (h : 0x10000 ≤ n) (h' : n < 0x110000) :
    ∃ low high, start (.ofNat (0xF0 + n / 0x40000)) = ([], some ⟨n / 0x40000, 2, low, high⟩) ∧
      low ≤ 0x80 + n / 0x1000 % 0x40 ∧ 0x80 + n / 0x1000 % 0x40 ≤ high := by
  rw [start, toNat_ofNat_of_lt (by omega)]
  rw [if_neg (by omega), if_neg (by omega), if_neg (by omega), if_neg (by omega),
    if_neg (by omega), if_neg (by omega)]
  by_cases hzero : n / 0x40000 = 0
  · exact ⟨0x90, 0xBF, by rw [if_pos (by omega), hzero], by omega, by omega⟩
  rw [if_neg (by omega)]
  by_cases hfour : n / 0x40000 = 4
  · exact ⟨0x80, 0x8F, by rw [if_neg (by omega), if_pos (by omega), hfour], by omega, by omega⟩
  · refine ⟨0x80, 0xBF, ?_, by omega, by omega⟩
    rw [if_pos (by omega), Nat.add_sub_cancel_left]

/-! ### One character -/

/-- A text is made of characters, so no surrogate is among its code points. -/
lemma toNat_valid (c : Char) : c.toNat < 0xD800 ∨ 0xDFFF < c.toNat ∧ c.toNat < 0x110000 := c.valid

lemma ofNat_eq (h : n = c.toNat) : Char.ofNat n = c := by
  rw [h, Char.ofNat_toNat]

/-- The bytes of a character are read as that character. -/
lemma decodeFrom_encodeChar (c : Char) (bs : Bytes) :
    decodeFrom none (encodeChar c ++ bs) = c :: decodeFrom none bs := by
  have hvalid := toNat_valid c
  rw [encodeChar]
  split
  · next hone =>
    -- one byte stands for itself
    have hstart : start (.ofNat c.toNat) = ([c], none) := by
      rw [start, toNat_ofNat_of_lt (by omega)]
      rw [if_pos hone, Char.ofNat_toNat]
    rw [List.singleton_append, decodeFrom, step, hstart]
    rfl
  split
  · next hone htwo =>
    have hlast : (UInt8.ofNat (0x80 + c.toNat % 0x40)).toNat = 0x80 + c.toNat % 0x40 :=
      toNat_ofNat_of_lt (by omega)
    simp only [List.cons_append, List.nil_append]
    rw [decodeFrom_begin (start_two (by omega) htwo),
      decodeFrom_last (by dsimp only; omega) rfl, ofNat_eq (c := c) (by dsimp only; omega)]
  split
  · next hone htwo hthree =>
    obtain ⟨low, high, hstart, hlow, hhigh⟩ :=
      start_three (n := c.toNat) (by omega) hthree (by omega)
    have hnext : (UInt8.ofNat (0x80 + c.toNat / 0x40 % 0x40)).toNat =
        0x80 + c.toNat / 0x40 % 0x40 := toNat_ofNat_of_lt (by omega)
    have hlast : (UInt8.ofNat (0x80 + c.toNat % 0x40)).toNat = 0x80 + c.toNat % 0x40 :=
      toNat_ofNat_of_lt (by omega)
    simp only [List.cons_append, List.nil_append]
    rw [decodeFrom_begin hstart, decodeFrom_next (by rw [hnext]; exact ⟨hlow, hhigh⟩) rfl,
      decodeFrom_last (by dsimp only; omega) rfl, ofNat_eq (c := c) (by dsimp only; omega)]
  · next hone htwo hthree =>
    obtain ⟨low, high, hstart, hlow, hhigh⟩ := start_four (n := c.toNat) (by omega) (by omega)
    have hsecond : (UInt8.ofNat (0x80 + c.toNat / 0x1000 % 0x40)).toNat =
        0x80 + c.toNat / 0x1000 % 0x40 := toNat_ofNat_of_lt (by omega)
    have hthird : (UInt8.ofNat (0x80 + c.toNat / 0x40 % 0x40)).toNat =
        0x80 + c.toNat / 0x40 % 0x40 := toNat_ofNat_of_lt (by omega)
    have hlast : (UInt8.ofNat (0x80 + c.toNat % 0x40)).toNat = 0x80 + c.toNat % 0x40 :=
      toNat_ofNat_of_lt (by omega)
    simp only [List.cons_append, List.nil_append]
    rw [decodeFrom_begin hstart, decodeFrom_next (by rw [hsecond]; exact ⟨hlow, hhigh⟩) rfl,
      decodeFrom_next (by dsimp only; omega) rfl, decodeFrom_last (by dsimp only; omega) rfl,
      ofNat_eq (c := c) (by dsimp only; omega)]

/-! ### Texts -/

@[simp] lemma encode_cons (c : Char) (t : Text) : encode (c :: t) = encodeChar c ++ encode t := rfl

lemma decodeFrom_encode_append (t : Text) (bs : Bytes) :
    decodeFrom none (encode t ++ bs) = t ++ decodeFrom none bs := by
  induction t with
  | nil => rfl
  | cons c t ih => rw [encode_cons, List.append_assoc, decodeFrom_encodeChar, ih, List.cons_append]

/-- Decoding inverts encoding. -/
@[simp] lemma decode_encode (t : Text) : decode (encode t) = t := by
  have h := decodeFrom_encode_append t []
  rwa [List.append_nil, decodeFrom, List.append_nil] at h

/-- A byte below 128 is the only one of its character. -/
lemma mem_encodeChar (hb : b.toNat < 0x80) (h : b ∈ encodeChar c) : c.toNat = b.toNat := by
  have hvalid := toNat_valid c
  have hbyte : ∀ m, 0x80 ≤ m → m < 256 → b ≠ .ofNat m := by
    rintro m hm hlt rfl
    rw [toNat_ofNat_of_lt hlt] at hb
    omega
  rw [encodeChar] at h
  split at h
  · rw [List.mem_singleton] at h
    rw [h, toNat_ofNat_of_lt (by omega)]
  split at h
  · simp only [List.mem_cons, List.not_mem_nil, or_false] at h
    rcases h with h | h
    · exact absurd h (hbyte _ (by omega) (by omega))
    · exact absurd h (hbyte _ (by omega) (by omega))
  split at h
  · simp only [List.mem_cons, List.not_mem_nil, or_false] at h
    rcases h with h | h | h
    · exact absurd h (hbyte _ (by omega) (by omega))
    · exact absurd h (hbyte _ (by omega) (by omega))
    · exact absurd h (hbyte _ (by omega) (by omega))
  · simp only [List.mem_cons, List.not_mem_nil, or_false] at h
    rcases h with h | h | h | h
    · exact absurd h (hbyte _ (by omega) (by omega))
    · exact absurd h (hbyte _ (by omega) (by omega))
    · exact absurd h (hbyte _ (by omega) (by omega))
    · exact absurd h (hbyte _ (by omega) (by omega))

/-- A byte below 128 is among the bytes of a text only if its character is in the text. -/
lemma ofNat_mem_of_mem_encode (hb : b.toNat < 0x80) (h : b ∈ encode t) :
    Char.ofNat b.toNat ∈ t := by
  obtain ⟨c, hc, hmem⟩ := List.mem_flatMap.1 h
  rwa [ofNat_eq (mem_encodeChar hb hmem).symm]

lemma length_encodeChar (c : Char) : (encodeChar c).length = c.utf8Size := by
  have hsize : c.utf8Size = if c.toNat < 0x80 then 1 else if c.toNat < 0x800 then 2
      else if c.toNat < 0x10000 then 3 else 4 := by
    rw [Char.utf8Size]
    have htoNat : c.val.toNat = c.toNat := rfl
    simp only [UInt32.le_iff_toNat_le, htoNat, UInt32.toNat_ofNatLT]
    split_ifs <;> first | rfl | omega
  rw [encodeChar, hsize]
  split
  · rfl
  split
  · rfl
  split
  · rfl
  · rfl

/-- The length of a text in bytes is the number of its bytes. -/
lemma length_encode (t : Text) : (encode t).length = t.byteLength := by
  induction t with
  | nil => rfl
  | cons c t ih =>
    rw [encode_cons, List.length_append, length_encodeChar, ih, Text.byteLength_cons]

end ChatLink.Utf8
