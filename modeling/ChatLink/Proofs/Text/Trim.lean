/-
# Trimming

What trimming leaves of a text: everything but blanks at its two ends.
-/
import Mathlib
import ChatLink.Text.Blank

namespace ChatLink.Text

lemma dropEndWhile_eq_rdropWhile (p : Char → Bool) (t : Text) :
    dropEndWhile p t = t.rdropWhile p := rfl

/-- Trimming takes blanks from the two ends and nothing else. -/
lemma exists_trim (t : Text) : ∃ before after, t = before ++ (trim t ++ after) ∧
    (∀ c ∈ before, ChatLink.isBlank c = true) ∧ (∀ c ∈ after, ChatLink.isBlank c = true) := by
  refine ⟨t.takeWhile ChatLink.isBlank, (trimStart t).rtakeWhile ChatLink.isBlank, ?_, ?_, ?_⟩
  · rw [trim, trimEnd, dropEndWhile_eq_rdropWhile, List.rdropWhile_append_rtakeWhile, trimStart,
      List.takeWhile_append_dropWhile]
  · intro c hc
    exact List.mem_takeWhile_imp hc
  · intro c hc
    exact List.mem_rtakeWhile_imp hc

lemma mem_of_mem_trim {c : Char} {t : Text} (h : c ∈ trim t) : c ∈ t := by
  obtain ⟨before, after, ht, -, -⟩ := exists_trim t
  rw [ht]
  simp [h]

lemma length_trim_le (t : Text) : (trim t).length ≤ t.length := by
  obtain ⟨before, after, ht, -, -⟩ := exists_trim t
  have hlength := congrArg List.length ht
  rw [List.length_append, List.length_append] at hlength
  omega

/-- What is trimmed starts with no blank. -/
lemma isBlank_of_head?_trim {c : Char} {t : Text} (h : (trim t).head? = some c) :
    ChatLink.isBlank c = false := by
  obtain ⟨after, hafter⟩ : trim t <+: trimStart t := List.rdropWhile_prefix _ _
  have hstart : (trimStart t).head? = some c := by rw [← hafter, List.head?_append, h, Option.some_or]
  have hnot := List.head?_dropWhile_not ChatLink.isBlank t
  rwa [← trimStart, hstart] at hnot

/-- Nor does it end with one. -/
lemma isBlank_of_getLast?_trim {c : Char} {t : Text} (h : (trim t).getLast? = some c) :
    ChatLink.isBlank c = false := by
  have hne : trim t ≠ [] := by
    intro hnil
    rw [hnil] at h
    cases h
  have hlast := List.rdropWhile_last_not ChatLink.isBlank (trimStart t) hne
  rw [List.getLast?_eq_some_getLast hne, Option.some.injEq] at h
  rw [← h]
  exact Bool.eq_false_of_not_eq_true hlast

/-- A character that is not blank stays. -/
lemma mem_trim {c : Char} {t : Text} (h : c ∈ t) (hc : ChatLink.isBlank c = false) :
    c ∈ trim t := by
  obtain ⟨before, after, ht, hbefore, hafter⟩ := exists_trim t
  rw [ht] at h
  rcases List.mem_append.1 h with h | h
  · rw [hbefore c h] at hc
    cases hc
  rcases List.mem_append.1 h with h | h
  · exact h
  · rw [hafter c h] at hc
    cases hc

/-- Only a text of blanks is trimmed to nothing. -/
lemma trim_eq_nil_iff {t : Text} : trim t = [] ↔ t.isBlank = true := by
  rw [isBlank, List.all_eq_true]
  constructor
  · intro h c hc
    by_contra hblank
    have := mem_trim hc (by simpa using hblank)
    rw [h] at this
    cases this
  · intro h
    rw [List.eq_nil_iff_forall_not_mem]
    intro c hc
    have hstart : trimStart t = [] := by
      rw [trimStart, List.dropWhile_eq_nil_iff]
      exact h
    rw [trim, hstart] at hc
    cases hc

/-! ### Characters that are not blank -/

/-- The number of characters that are not blank. -/
def inked (t : Text) : Nat := t.countP fun c => !ChatLink.isBlank c

@[simp] lemma inked_append (s t : Text) : inked (s ++ t) = inked s + inked t :=
  List.countP_append

lemma inked_eq_zero {t : Text} (h : ∀ c ∈ t, ChatLink.isBlank c = true) : inked t = 0 := by
  rw [inked, List.countP_eq_zero]
  intro c hc
  rw [h c hc]
  decide

lemma inked_pos {t : Text} (ht : t ≠ []) (h : ∀ c ∈ t, ChatLink.isBlank c = false) :
    0 < inked t := by
  obtain ⟨c, u, rfl⟩ := List.exists_cons_of_ne_nil ht
  rw [inked, List.countP_pos_iff]
  exact ⟨c, List.mem_cons_self, by rw [h c List.mem_cons_self]; rfl⟩

/-- Trimming takes none of them. -/
lemma inked_trim (t : Text) : inked (trim t) = inked t := by
  obtain ⟨before, after, ht, hbefore, hafter⟩ := exists_trim t
  conv_rhs => rw [ht]
  rw [inked_append, inked_append, inked_eq_zero hbefore, inked_eq_zero hafter, Nat.zero_add,
    Nat.add_zero]

/-! ### Neighbours -/

variable {a b : Char} {part s t : Text}

lemma pair_infix_cons_iff {c : Char} :
    [a, b] <:+: c :: t ↔ (a = c ∧ t.head? = some b) ∨ [a, b] <:+: t := by
  rw [List.infix_cons_iff, List.cons_prefix_cons]
  cases t with
  | nil => simp
  | cons d t => simp [List.cons_prefix_cons, eq_comm]

/-! ### Parts of a text -/

/-- What shares no character with a text in front is no part of the two that was not one of the
second. -/
lemma infix_append_left (h : ∀ c ∈ part, c ∉ s) : part <:+: s ++ t ↔ part <:+: t := by
  induction s with
  | nil => rfl
  | cons c s ih =>
    have hs : ∀ d ∈ part, d ∉ s := fun d hd hmem => h d hd (List.mem_cons_of_mem c hmem)
    rw [List.cons_append, List.infix_cons_iff, ih hs, or_iff_right_of_imp]
    intro hprefix
    -- a part that starts here starts with `c`, so it is empty
    cases part with
    | nil => exact List.nil_infix
    | cons d part =>
      obtain ⟨rfl, -⟩ := List.cons_prefix_cons.1 hprefix
      exact absurd List.mem_cons_self (h d List.mem_cons_self)

lemma infix_append_right (h : ∀ c ∈ part, c ∉ s) : part <:+: t ++ s ↔ part <:+: t := by
  rw [← List.reverse_infix, List.reverse_append, ← @List.reverse_infix _ _ t]
  exact infix_append_left (by simpa using h)

/-- Trimming takes nothing from a part without blanks, and makes none. -/
lemma infix_trim_iff (h : ∀ c ∈ part, ChatLink.isBlank c = false) :
    part <:+: trim t ↔ part <:+: t := by
  obtain ⟨before, after, ht, hbefore, hafter⟩ := exists_trim t
  have hapart : ∀ {s : Text}, (∀ c ∈ s, ChatLink.isBlank c = true) → ∀ c ∈ part, c ∉ s := by
    intro s hs c hc hmem
    have hblank := h c hc
    rw [hs c hmem] at hblank
    cases hblank
  conv_rhs => rw [ht]
  rw [infix_append_left (hapart hbefore), infix_append_right (hapart hafter)]

/-- Trimming parts no neighbours that are not blank, and brings none together. -/
lemma pair_infix_trim_iff (ha : ChatLink.isBlank a = false) (hb : ChatLink.isBlank b = false) :
    [a, b] <:+: trim t ↔ [a, b] <:+: t :=
  infix_trim_iff (by simp [ha, hb])

/-! ### Blanks at the ends -/

/-- Blanks at the ends make no difference to what trimming leaves. -/
lemma trim_append_blanks {before after : Text}
    (hbefore : ∀ c ∈ before, ChatLink.isBlank c = true)
    (hafter : ∀ c ∈ after, ChatLink.isBlank c = true) :
    trim (before ++ (t ++ after)) = trim t := by
  have hreverse : ∀ c ∈ after.reverse, ChatLink.isBlank c = true := by
    simpa using hafter
  have hend : trimStart after = [] := List.dropWhile_eq_nil_iff.2 hafter
  have hstart : trimStart (before ++ (t ++ after)) = trimStart (t ++ after) :=
    List.dropWhile_append_of_pos hbefore
  rw [trim, trim, hstart, trimStart, List.dropWhile_append]
  split
  · next hnil =>
    rw [List.isEmpty_iff] at hnil
    rw [trimStart, hnil, ← trimStart, hend]
  · rw [trimEnd, trimEnd, dropEndWhile, dropEndWhile, List.reverse_append,
      List.dropWhile_append_of_pos hreverse, trimStart]

/-- What is trimmed stays as it is. -/
lemma trim_trim (t : Text) : trim (trim t) = trim t := by
  obtain ⟨before, after, ht, hbefore, hafter⟩ := exists_trim t
  conv_rhs => rw [ht, trim_append_blanks hbefore hafter]

/-- So does what is trimmed with a character in front that is not blank. -/
lemma trim_cons {c : Char} (hc : ChatLink.isBlank c = false) (ht : trim t = t) :
    trim (c :: t) = c :: t := by
  have hstart : trimStart (c :: t) = c :: t := List.dropWhile_cons_of_neg (by simp [hc])
  rw [trim, hstart, trimEnd, dropEndWhile_eq_rdropWhile, List.rdropWhile_eq_self_iff]
  intro hne
  cases t with
  | nil => simpa using hc
  | cons d t =>
    rw [List.getLast_cons (List.cons_ne_nil d t)]
    have hend : (trimStart (d :: t)).rdropWhile ChatLink.isBlank = d :: t := ht
    have hlast := List.rdropWhile_last_not ChatLink.isBlank (trimStart (d :: t))
      (by rw [hend]; exact List.cons_ne_nil d t)
    simpa only [hend] using hlast

end ChatLink.Text
