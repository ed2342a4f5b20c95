/-
# Numbered nicks

A numbered nick ends in its number, so a nick is named by at most one number of each length.
Hence few nicks cannot name many numbers: the search for a number whose nick was not tried
before always finds one, and never counts far.
-/
import Mathlib
import ChatLink.Nick.Search

namespace ChatLink

/-! ### The digits of a number -/

namespace Decimal

lemma isDigit_of_mem_digits {c : Char} {k : Nat} (h : c ∈ digits k) : c.isDigit = true :=
  Nat.isDigit_of_mem_toDigits (by decide) (by decide) h

lemma toLower_of_isDigit {c : Char} (h : c.isDigit = true) : c.toLower = c := by
  apply Char.toLower_eq_of_not_isUpper
  intro hupper
  have hd : c.toNat ≤ 57 := (Char.isDigit_iff_toNat.1 h).2
  simp only [Char.isUpper, decide_eq_true_eq] at hupper
  have hu : 65 ≤ c.toNat := hupper.1
  omega

lemma utf8Size_of_isDigit {c : Char} (h : c.isDigit = true) : c.utf8Size = 1 := by
  rw [Char.utf8Size_eq_one_iff]
  have hd : c.toNat ≤ 57 := (Char.isDigit_iff_toNat.1 h).2
  exact Nat.le_trans hd (by decide)

@[simp] lemma map_toLower_digits (k : Nat) : (digits k).map Char.toLower = digits k :=
  (List.map_congr_left fun _ hc => toLower_of_isDigit (isDigit_of_mem_digits hc)).trans
    (List.map_id _)

lemma digits_injective : Function.Injective digits := by
  intro j k h
  have hvalue := congrArg (fun ds => Nat.ofDigitChars 10 ds 0) h
  simpa [digits, Nat.ofDigitChars_toDigits] using hvalue

lemma length_digits_pos (k : Nat) : 0 < (digits k).length := Nat.length_toDigits_pos

lemma length_digits_le {k w : Nat} (hw : 0 < w) (h : k < 10 ^ w) : (digits k).length ≤ w :=
  (Nat.length_toDigits_le_iff (by decide) hw).2 h

lemma length_digits_mono {j k : Nat} (h : j ≤ k) : (digits j).length ≤ (digits k).length := by
  have hpos := length_digits_pos k
  have hk : k < 10 ^ (digits k).length := (Nat.length_toDigits_le_iff (by decide) hpos).1 le_rfl
  exact length_digits_le hpos (h.trans_lt hk)

end Decimal

/-! ### Texts of one-byte characters -/

namespace Text

lemma byteLength_eq_length {t : Text} (h : ∀ c ∈ t, c.utf8Size = 1) : t.byteLength = t.length := by
  induction t with
  | nil => rfl
  | cons c t ih =>
    rw [byteLength_cons, h c List.mem_cons_self, ih fun d hd => h d (List.mem_cons_of_mem c hd),
      List.length_cons, Nat.add_comm]

@[simp] lemma byteLength_digits (k : Nat) : byteLength (Decimal.digits k) = (Decimal.digits k).length :=
  byteLength_eq_length fun _ hc => Decimal.utf8Size_of_isDigit (Decimal.isDigit_of_mem_digits hc)

lemma byteLength_takeBytes_le (n : Nat) (t : Text) : byteLength (takeBytes n t) ≤ n :=
  byteLength_splitBytes_le n t

lemma takeBytes_prefix (n : Nat) (t : Text) : takeBytes n t <+: t := ⟨_, splitBytes_append n t⟩

lemma takeBytes_cons {n : Nat} {c : Char} {t : Text} (h : c.utf8Size ≤ n) :
    takeBytes n (c :: t) = c :: takeBytes (n - c.utf8Size) t := by
  rw [takeBytes, splitBytes, if_pos h]
  rfl

/-- A text that fits is taken whole. -/
lemma takeBytes_of_byteLength_le {n : Nat} {t : Text} (h : byteLength t ≤ n) :
    takeBytes n t = t := by
  induction t generalizing n with
  | nil => rfl
  | cons c t ih =>
    rw [byteLength_cons] at h
    rw [takeBytes_cons (by omega), ih (by omega)]

end Text

namespace NickSearch

variable {tried : List Text} {desired nick : Text} {maxLen fuel i j k w : Nat} {numbers : Finset Nat}

/-! ### The numbers that a nick can stand for -/

/-- The number's nick is, up to case, this one. -/
def Names (desired : Text) (maxLen : Nat) (nick : Text) (k : Nat) : Prop :=
  Text.sameName nick (numbered desired maxLen k) = true

lemma wasTried_iff : wasTried tried nick = true ↔ ∃ x ∈ tried, Text.sameName x nick = true := by
  rw [wasTried, List.any_eq_true]

/-- The nick ends in the digits of the number, in whatever case. -/
def EndsIn (nick : Text) (k : Nat) : Prop := Decimal.digits k <:+ nick.map Char.toLower

/-- A nick ends in every number that it can stand for. -/
lemma Names.endsIn (h : Names desired maxLen nick k) : EndsIn nick k := by
  rw [Names, Text.sameName, beq_iff_eq] at h
  rw [EndsIn, h, numbered, List.map_append, Decimal.map_toLower_digits]
  exact List.suffix_append _ _

lemma exists_endsIn_of_wasTried (h : wasTried tried (numbered desired maxLen k) = true) :
    ∃ x ∈ tried, EndsIn x k := by
  obtain ⟨x, hx, hsame⟩ := wasTried_iff.1 h
  exact ⟨x, hx, Names.endsIn hsame⟩

lemma EndsIn.length_digits_le (h : EndsIn nick k) : (Decimal.digits k).length ≤ nick.byteLength := by
  have hlength := h.length_le
  rw [List.length_map] at hlength
  exact hlength.trans (Text.length_le_byteLength nick)

/-- It ends in at most one number of each length. -/
lemma EndsIn.inj (hj : EndsIn nick j) (hk : EndsIn nick k)
    (hlength : (Decimal.digits j).length = (Decimal.digits k).length) : j = k := by
  apply Decimal.digits_injective
  exact (List.suffix_of_suffix_length_le hj hk hlength.le).eq_of_length hlength

/-- So it ends in at most as many numbers as these have digits. -/
lemma card_le_of_endsIn (hends : ∀ k ∈ numbers, EndsIn nick k)
    (hw : ∀ k ∈ numbers, (Decimal.digits k).length ≤ w) : numbers.card ≤ w := by
  have hmaps : Set.MapsTo (fun k => (Decimal.digits k).length) numbers (Finset.Icc 1 w) := by
    intro k hk
    exact Finset.mem_coe.2 (Finset.mem_Icc.2 ⟨Decimal.length_digits_pos k, hw k hk⟩)
  have hinj : Set.InjOn (fun k => (Decimal.digits k).length) (numbers : Set Nat) :=
    fun j hj k hk hlength => (hends j hj).inj (hends k hk) hlength
  have hcard := Finset.card_le_card_of_injOn _ hmaps hinj
  rwa [Nat.card_Icc, Nat.add_sub_cancel] at hcard

open Classical in
/-- Nicks together end in at most as many numbers as they have bytes. -/
lemma card_le_totalLength (h : ∀ k ∈ numbers, ∃ x ∈ tried, EndsIn x k) :
    numbers.card ≤ totalLength tried := by
  induction tried generalizing numbers with
  | nil =>
    have hempty : numbers = ∅ := by
      apply Finset.eq_empty_of_forall_notMem
      intro k hk
      obtain ⟨x, hx, -⟩ := h k hk
      cases hx
    rw [hempty, Finset.card_empty]
    exact Nat.zero_le _
  | cons x tried ih =>
    have hfirst : (numbers.filter (EndsIn x)).card ≤ x.byteLength :=
      card_le_of_endsIn (fun k hk => (Finset.mem_filter.1 hk).2)
        fun k hk => (Finset.mem_filter.1 hk).2.length_digits_le
    have hrest : (numbers.filter (fun k => ¬ EndsIn x k)).card ≤ totalLength tried := by
      apply ih
      intro k hk
      obtain ⟨hk, hnot⟩ := Finset.mem_filter.1 hk
      obtain ⟨y, hy, hends⟩ := h k hk
      rcases List.mem_cons.1 hy with rfl | hy
      · exact absurd hends hnot
      · exact ⟨y, hy, hends⟩
    rw [totalLength, List.flatten_cons, Text.byteLength_append, ← totalLength,
      ← Finset.card_filter_add_card_filter_not (EndsIn x)]
    exact Nat.add_le_add hfirst hrest

open Classical in
/-- Nicks together end in at most so many numbers of up to `w` digits each. -/
lemma card_le_card_mul {nicks : Finset Text} (h : ∀ k ∈ numbers, ∃ x ∈ nicks, EndsIn x k)
    (hw : ∀ k ∈ numbers, (Decimal.digits k).length ≤ w) : numbers.card ≤ nicks.card * w := by
  have hcover : numbers ⊆ nicks.biUnion fun x => numbers.filter (EndsIn x) := by
    intro k hk
    obtain ⟨x, hx, hends⟩ := h k hk
    exact Finset.mem_biUnion.2 ⟨x, hx, Finset.mem_filter.2 ⟨hk, hends⟩⟩
  refine (Finset.card_le_card hcover).trans (Finset.card_biUnion_le_card_mul _ _ _ fun x _ => ?_)
  exact card_le_of_endsIn (fun k hk => (Finset.mem_filter.1 hk).2)
    fun k hk => hw k (Finset.mem_filter.1 hk).1

/-- Numbers in a row that few nicks end in are few, as long as they have at most `w` digits each. -/
lemma le_of_forall_endsIn {nicks : Finset Text} (hw : 0 < w)
    (hfew : i + nicks.card * w + 1 < 10 ^ w)
    (h : ∀ k, i < k → k ≤ j → ∃ x ∈ nicks, EndsIn x k) : j ≤ i + nicks.card * w := by
  by_contra hlt
  -- one number more than the nicks can end in has at most so many digits itself
  have hends : ∀ k ∈ Finset.Ioc i (i + nicks.card * w + 1), ∃ x ∈ nicks, EndsIn x k := by
    intro k hk
    obtain ⟨hpos, hle⟩ := Finset.mem_Ioc.1 hk
    exact h k hpos (by omega)
  have hdigits : ∀ k ∈ Finset.Ioc i (i + nicks.card * w + 1), (Decimal.digits k).length ≤ w := by
    intro k hk
    exact Decimal.length_digits_le hw ((Finset.mem_Ioc.1 hk).2.trans_lt hfew)
  have hcount := card_le_card_mul hends hdigits
  rw [Nat.card_Ioc] at hcount
  omega

/-! ### The first number that was not tried -/

/-- All numbers that are passed over were tried, and a number that was tried is taken only where
no more may be passed over. -/
lemma firstFree_cases (tried : List Text) (desired : Text) (maxLen fuel k : Nat) :
    ∃ j, firstFree tried desired maxLen fuel k = (j, numbered desired maxLen j) ∧ k < j ∧
      (∀ i, k < i → i < j → wasTried tried (numbered desired maxLen i) = true) ∧
      (wasTried tried (numbered desired maxLen j) = true → j = k + fuel + 1) := by
  induction fuel generalizing k with
  | zero => exact ⟨k + 1, rfl, by omega, by omega, fun _ => rfl⟩
  | succ fuel ih =>
    rw [firstFree]
    split
    · next htried =>
      obtain ⟨j, hj, hlt, hpassed, hlast⟩ := ih (k + 1)
      refine ⟨j, hj, by omega, fun i hi hij => ?_, fun h => by rw [hlast h]; omega⟩
      by_cases hik : i = k + 1
      · rwa [hik]
      · exact hpassed i (by omega) hij
    · next htried => exact ⟨k + 1, rfl, by omega, by omega, fun h => absurd h htried⟩

/-- Few numbers in a row can be passed over: each names a nick that was tried. -/
lemma le_of_passed (h : ∀ i, k < i → i < j → wasTried tried (numbered desired maxLen i) = true) :
    j ≤ k + totalLength tried + 1 := by
  have hends : ∀ i ∈ Finset.Ioo k j, ∃ x ∈ tried, EndsIn x i := by
    intro i hi
    obtain ⟨hki, hij⟩ := Finset.mem_Ioo.1 hi
    exact exists_endsIn_of_wasTried (h i hki hij)
  have hcount := card_le_totalLength hends
  rw [Nat.card_Ioo] at hcount
  omega

/-- The search for a number passes over those that were tried and finds one that was not. -/
lemma firstFree_spec (tried : List Text) (desired : Text) (maxLen k : Nat) :
    ∃ j, firstFree tried desired maxLen (totalLength tried) k = (j, numbered desired maxLen j) ∧
      k < j ∧ (∀ i, k < i → i < j → wasTried tried (numbered desired maxLen i) = true) ∧
      wasTried tried (numbered desired maxLen j) = false := by
  obtain ⟨j, hj, hlt, hpassed, hlast⟩ :=
    firstFree_cases tried desired maxLen (totalLength tried) k
  refine ⟨j, hj, hlt, hpassed, ?_⟩
  -- otherwise more numbers were tried than the tried nicks can stand for
  by_contra htried
  rw [Bool.not_eq_false] at htried
  have hend := hlast htried
  have hall : ∀ i, k < i → i < j + 1 → wasTried tried (numbered desired maxLen i) = true := by
    intro i hki hij
    rcases (Nat.lt_succ_iff.1 hij).lt_or_eq with hij | rfl
    · exact hpassed i hki hij
    · exact htried
  have hle := le_of_passed hall
  omega

end NickSearch
end ChatLink
