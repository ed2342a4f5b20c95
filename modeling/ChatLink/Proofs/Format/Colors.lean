/-
# How far a colour reaches

On the network a colour reaches as far as digits, a comma and digits follow its start.  So a text
that is put together from two parts may be read otherwise than the parts: a colour that starts in
the first may go on in the second.  Where it does not, the parts are read the same together and
apart (`ofText_append`); where it does, they show some digits and commas more apart
(`strip_append_of_cutsColor`).
-/
import Mathlib
import ChatLink.Proofs.Format.Scan
import ChatLink.Proofs.Text.Trim

namespace ChatLink

namespace Decimal

variable {c : Char} {d : Nat}

lemma digit?_of_isDigit (h : c.isDigit = true) : digit? c = some (c.toNat - '0'.toNat) := by
  rw [digit?, if_pos h]

lemma isDigit_of_digit? (h : digit? c = some d) : c.isDigit = true := by
  rw [digit?] at h
  split at h
  · assumption
  · cases h

end Decimal

namespace NetworkMark

variable {a b s t u : Text} {c : Char}

/-! ### What a colour takes -/

/-- A character that may belong to a colour behind its start. -/
def InColor (c : Char) : Prop := c.isDigit = true ∨ c = ','

instance (c : Char) : Decidable (InColor c) :=
  inferInstanceAs (Decidable (c.isDigit = true ∨ c = ','))

lemma networkColor_not_mem (h : ∀ c ∈ s, InColor c) : Format.networkColor ∉ s :=
  fun hmem => absurd (h _ hmem) (by decide)

/-- Such a character is shown wherever it belongs to no colour, and no trimming takes it. -/
lemma plain_of_inColor (h : InColor c) : Format.isPlain c = true ∧ isBlank c = false := by
  have hlt : c.toNat < 128 := by
    rcases h with hdigit | rfl
    · have hle : c.toNat ≤ 57 := by simpa using (Char.isDigit_iff_toNat.1 hdigit).2
      omega
    · decide
  revert h
  exact forall_ascii (p := fun c => InColor c → Format.isPlain c = true ∧ isBlank c = false)
    (by decide +kernel) hlt

lemma inColor_of_digit? {n : Nat} (h : Decimal.digit? c = some n) : InColor c :=
  .inl (Decimal.isDigit_of_digit? h)

lemma exists_takeNumber (t : Text) :
    ∃ taken, t = taken ++ (takeNumber t).2 ∧ ∀ c ∈ taken, InColor c := by
  fun_cases takeNumber t with
  | case1 => exact ⟨[], rfl, by simp⟩
  | case2 => exact ⟨[], rfl, by simp⟩
  | case3 c n hc => exact ⟨[c], rfl, by simpa using inColor_of_digit? hc⟩
  | case4 c n d u hc m hd =>
    exact ⟨[c, d], rfl, by simpa using ⟨inColor_of_digit? hc, inColor_of_digit? hd⟩⟩
  | case5 c n d u hc => exact ⟨[c], rfl, by simpa using inColor_of_digit? hc⟩

lemma length_takeNumber_lt (h : c.isDigit = true) :
    (takeNumber (c :: t)).2.length < (c :: t).length := by
  cases t with
  | nil => simp [takeNumber, Decimal.digit?_of_isDigit h]
  | cons d t => cases hd : Decimal.digit? d <;> simp [takeNumber, Decimal.digit?_of_isDigit h, hd]

lemma exists_dropBackground (t : Text) :
    ∃ taken, t = taken ++ dropBackground t ∧ ∀ c ∈ taken, InColor c := by
  fun_cases dropBackground t with
  | case1 c u h =>
    obtain ⟨taken, heq, htaken⟩ := exists_takeNumber (c :: u)
    refine ⟨',' :: taken, by rw [List.cons_append, ← heq], ?_⟩
    rw [List.forall_mem_cons]
    exact ⟨.inr rfl, htaken⟩
  | case2 => exact ⟨[], rfl, by simp⟩
  | case3 => exact ⟨[], rfl, by simp⟩

/-- A colour takes digits and commas only. -/
lemma exists_takeColor (t : Text) :
    ∃ taken, t = taken ++ (takeColor t).2 ∧ ∀ c ∈ taken, InColor c := by
  obtain ⟨number, hnumber, hdigits⟩ := exists_takeNumber t
  unfold takeColor
  split
  · next rest heq =>
    rw [heq] at hnumber
    exact ⟨number, hnumber, hdigits⟩
  · next n rest heq =>
    rw [heq] at hnumber
    obtain ⟨background, hbackground, hchars⟩ := exists_dropBackground rest
    refine ⟨number ++ background, ?_, List.forall_mem_append.2 ⟨hdigits, hchars⟩⟩
    rw [List.append_assoc, ← hbackground]
    exact hnumber

/-! ### A colour before the end of a part -/

/-- A number that takes nothing of a second part is that of the first. -/
lemma takeNumber_append (h : u.length ≤ (takeNumber (t ++ u)).2.length) :
    takeNumber (t ++ u) = ((takeNumber t).1, (takeNumber t).2 ++ u) := by
  match t with
  | [] =>
    cases u with
    | nil => rfl
    | cons c u =>
      cases hc : Decimal.digit? c with
      | none => simp [takeNumber, hc]
      | some n =>
        have hlt := length_takeNumber_lt (t := u) (Decimal.isDigit_of_digit? hc)
        exact absurd h (Nat.not_le.2 hlt)
  | [c] =>
    cases hc : Decimal.digit? c with
    | none => simp [takeNumber, hc]
    | some n =>
      cases u with
      | nil => simp [takeNumber, hc]
      | cons d u =>
        cases hd : Decimal.digit? d with
        | none => simp [takeNumber, hc, hd]
        | some m => simp [takeNumber, hc, hd] at h
  | c :: d :: t =>
    cases hc : Decimal.digit? c with
    | none => simp [takeNumber, hc]
    | some n => cases hd : Decimal.digit? d <;> simp [takeNumber, hc, hd]

lemma dropBackground_of_ne (h : ∀ c ∈ t.head?, c ≠ ',') : dropBackground t = t := by
  rw [dropBackground]
  rintro c u rfl
  exact h ',' rfl rfl

/-- A background that takes nothing of a second part is that of the first. -/
lemma dropBackground_append (h : u.length ≤ (dropBackground (t ++ u)).length) :
    dropBackground (t ++ u) = dropBackground t ++ u := by
  match t with
  | [] =>
    obtain ⟨taken, heq, -⟩ := exists_dropBackground u
    have hsuffix : dropBackground u <:+ u := ⟨taken, heq.symm⟩
    exact hsuffix.eq_of_length_le h
  | [c] =>
    by_cases hc : c = ','
    · -- a comma that no digit follows is no start of a background
      subst hc
      cases u with
      | nil => rfl
      | cons d u =>
        by_cases hd : d.isDigit = true
        · rw [List.cons_append, List.nil_append, dropBackground, if_pos hd] at h
          exact absurd h (Nat.not_le.2 (length_takeNumber_lt hd))
        · simp [dropBackground, hd]
    · rw [dropBackground_of_ne (by simpa using hc), dropBackground_of_ne (by simpa using hc)]
  | c :: d :: t =>
    by_cases hc : c = ','
    · subst hc
      rw [List.cons_append, List.cons_append, dropBackground] at h ⊢
      rw [dropBackground]
      split_ifs with hd
      · rw [if_pos hd, ← List.cons_append] at h
        rw [← List.cons_append, takeNumber_append h]
      · rfl
    · rw [dropBackground_of_ne (by simpa using hc), dropBackground_of_ne (by simpa using hc)]

/-- A colour that takes nothing of a second part is that of the first. -/
lemma takeColor_append (h : u.length ≤ (takeColor (t ++ u)).2.length) :
    takeColor (t ++ u) = ((takeColor t).1, (takeColor t).2 ++ u) := by
  have hnumber : u.length ≤ (takeNumber (t ++ u)).2.length := by
    unfold takeColor at h
    split at h
    · next rest heq =>
      rw [heq]
      exact h
    · next n rest heq =>
      rw [heq]
      exact h.trans (length_dropBackground_le rest)
  have heq := takeNumber_append hnumber
  rw [takeColor, heq] at h
  rw [takeColor, heq, takeColor]
  rcases htake : takeNumber t with ⟨_ | n, rest⟩
  · rfl
  · rw [htake] at h
    dsimp only at h ⊢
    rw [dropBackground_append h]

/-! ### Cutting colours -/

/-- A colour that starts in the first part takes characters of the second. -/
def CutsColor (a b : Text) : Prop :=
  ∃ before number, a = before ++ Format.networkColor :: number ∧
    (takeColor (number ++ b)).2.length < b.length

lemma CutsColor.append_left (h : CutsColor a b) (s : Text) : CutsColor (s ++ a) b := by
  obtain ⟨before, number, rfl, hlt⟩ := h
  exact ⟨s ++ before, number, by rw [List.append_assoc], hlt⟩

lemma CutsColor.networkColor_mem (h : CutsColor a b) : Format.networkColor ∈ a := by
  obtain ⟨before, number, rfl, -⟩ := h
  simp

/-- A colour that starts in a part and takes characters of the next one takes the rest of its part
as a whole. -/
lemma exists_of_takeColor_lt (h : (takeColor (t ++ u)).2.length < u.length) :
    ∃ v, v ≠ [] ∧ u = v ++ (takeColor (t ++ u)).2 ∧ (∀ c ∈ t, InColor c) ∧
      ∀ c ∈ v, InColor c := by
  obtain ⟨taken, heq, htaken⟩ := exists_takeColor (t ++ u)
  rcases List.append_eq_append_iff.1 heq with ⟨v, rfl, hv⟩ | ⟨v, -, hv⟩
  · rw [List.forall_mem_append] at htaken
    refine ⟨v, ?_, hv, htaken⟩
    rintro rfl
    rw [List.nil_append] at hv
    exact absurd h (by rw [← hv]; exact lt_irrefl _)
  · rw [hv, List.length_append] at h
    omega

/-- The text goes on with what is no part of a colour before it. -/
def EndsColor (u : Text) : Prop := ∀ c ∈ u.head?, c.isDigit = false ∧ c ≠ ','

lemma EndsColor.not_cutsColor (h : EndsColor u) (t : Text) : ¬ CutsColor t u := by
  rintro ⟨before, number, -, hlt⟩
  obtain ⟨v, hv, hu, -, hchars⟩ := exists_of_takeColor_lt hlt
  obtain ⟨c, v, rfl⟩ := List.exists_cons_of_ne_nil hv
  have hc := h c (by rw [hu]; rfl)
  rcases hchars c List.mem_cons_self with hdigit | hcomma
  · rw [hc.1] at hdigit
    cases hdigit
  · exact hc.2 hcomma

/-- A text is read in two parts, if no colour goes on from the first to the second. -/
lemma ofText_append (h : ¬ CutsColor t u) : ofText (t ++ u) = ofText t ++ ofText u := by
  induction t using ofText.induct with
  | case1 => rw [List.nil_append, ofText, List.nil_append]
  | case2 t ih =>
    have hreach : u.length ≤ (takeColor (t ++ u)).2.length :=
      not_lt.1 fun hlt => h ⟨[], t, rfl, hlt⟩
    have hrest : ¬ CutsColor (takeColor t).2 u := by
      obtain ⟨taken, ht, -⟩ := exists_takeColor t
      intro hcuts
      refine h (CutsColor.append_left (s := [Format.networkColor]) ?_)
      rw [ht]
      exact hcuts.append_left taken
    rw [List.cons_append, ofText_start, ofText_start, takeColor_append hreach, ih hrest,
      List.cons_append]
  | case3 c t hc ih =>
    have hrest : ¬ CutsColor t u := fun hcuts => h (hcuts.append_left [c])
    rw [List.cons_append, ofText_cons hc, ofText_cons hc, ih hrest, List.cons_append]

/-- A character that is read as itself is one of the text. -/
lemma mem_of_mem_ofText (h : .char c ∈ ofText t) : c ∈ t := by
  induction t using ofText.induct with
  | case1 =>
    rw [ofText] at h
    cases h
  | case2 t ih =>
    obtain ⟨taken, ht, -⟩ := exists_takeColor t
    rw [ofText_start, List.mem_cons] at h
    rw [ht]
    exact List.mem_cons_of_mem _ (List.mem_append_right _ (ih (h.resolve_left (by simp))))
  | case3 d t hd ih =>
    rw [ofText_cons hd, List.mem_cons] at h
    rcases h with h | h
    · rw [char.inj h]
      exact List.mem_cons_self
    · exact List.mem_cons_of_mem _ (ih h)

end NetworkMark

/-! ### What is shown -/

namespace Format

open NetworkMark

variable {a b s t : Text} {c : Char}

lemma strip_nil : strip [] = [] := by
  rw [strip]

lemma strip_color (t : Text) : strip (networkColor :: t) = strip (takeColor t).2 := by
  rw [strip, if_pos rfl, skipColor_eq]

lemma strip_cons (h : c ≠ networkColor) (t : Text) :
    strip (c :: t) = stripped (.char c) ++ strip t := by
  rw [strip_eq, ofText_cons h, List.flatMap_cons, ← strip_eq]

/-- Where no colour is cut, two parts show the same together and apart. -/
lemma strip_append (h : ¬ CutsColor a b) : strip (a ++ b) = strip a ++ strip b := by
  rw [strip_eq, ofText_append h, List.flatMap_append, ← strip_eq, ← strip_eq]

/-- A character that is shown where it belongs to no colour. -/
def IsShown (c : Char) : Prop := isPlain c = true ∨ (emoteOf? c).isSome = true

instance (c : Char) : Decidable (IsShown c) :=
  inferInstanceAs (Decidable (isPlain c = true ∨ (emoteOf? c).isSome = true))

lemma mem_stripped_iff {mark : NetworkMark} : c ∈ mark.stripped ↔ mark = .char c ∧ IsShown c := by
  cases mark with
  | color n => simp [stripped]
  | char d =>
    rw [stripped, char.injEq, IsShown]
    split_ifs with h
    · rw [Bool.or_eq_true] at h
      rw [List.mem_singleton]
      exact ⟨fun heq => ⟨heq.symm, heq ▸ h⟩, fun heq => heq.1.symm⟩
    · rw [Bool.or_eq_true] at h
      refine iff_of_false List.not_mem_nil ?_
      rintro ⟨rfl, hshown⟩
      exact h hshown

/-- What is shown is part of the text, and of characters that are shown. -/
lemma mem_of_mem_strip (h : c ∈ strip t) : c ∈ t ∧ IsShown c := by
  rw [strip_eq] at h
  obtain ⟨mark, hmark, hc⟩ := List.mem_flatMap.1 h
  obtain ⟨rfl, hshown⟩ := mem_stripped_iff.1 hc
  exact ⟨mem_of_mem_ofText hmark, hshown⟩

/-- Such characters are shown where no colour starts before them. -/
lemma strip_shown_append (h : ∀ c ∈ s, IsShown c) (t : Text) : strip (s ++ t) = s ++ strip t := by
  induction s with
  | nil => rfl
  | cons c s ih =>
    rw [List.forall_mem_cons] at h
    have hne : c ≠ networkColor := by
      rintro rfl
      exact absurd h.1 (by decide)
    have hshown : (isPlain c || (emoteOf? c).isSome) = true := by
      rw [Bool.or_eq_true]
      exact h.1
    rw [List.cons_append, strip_cons hne, stripped, if_pos hshown, ih h.2]
    rfl

lemma isShown_of_inColor (h : InColor c) : IsShown c := .inl (plain_of_inColor h).1

/-- Where a colour is cut, two parts show some digits and commas more apart than together. -/
lemma strip_append_of_cutsColor (h : CutsColor a b) : ∃ before more after,
    strip (a ++ b) = before ++ after ∧ strip a ++ strip b = before ++ (more ++ after) ∧
      more ≠ [] ∧ ∀ c ∈ more, InColor c := by
  obtain ⟨before, number, rfl, hlt⟩ := h
  obtain ⟨v, hv, hb, hnumber, hmore⟩ := exists_of_takeColor_lt hlt
  obtain ⟨taken, htaken, -⟩ := exists_takeColor number
  have hrest : ∀ c ∈ (takeColor number).2, InColor c := by
    intro c hc
    exact hnumber c (by rw [htaken]; exact List.mem_append_right _ hc)
  have hstart : ∀ s : Text, strip (before ++ networkColor :: s) =
      strip before ++ strip (takeColor s).2 := by
    intro s
    have hends : EndsColor (networkColor :: s) := by
      rintro c ⟨rfl⟩
      decide
    rw [Format.strip_append (hends.not_cutsColor before), strip_color]
  have hfirst : strip (takeColor number).2 = (takeColor number).2 := by
    conv_lhs => rw [← List.append_nil (takeColor number).2]
    rw [strip_shown_append fun c hc => isShown_of_inColor (hrest c hc)]
    rw [strip_nil, List.append_nil]
  have hsecond : strip b = v ++ strip (takeColor (number ++ b)).2 := by
    conv_lhs => rw [hb]
    exact strip_shown_append (fun c hc => isShown_of_inColor (hmore c hc)) _
  refine ⟨strip before, (takeColor number).2 ++ v, strip (takeColor (number ++ b)).2, ?_, ?_,
    by simp [hv], List.forall_mem_append.2 ⟨hrest, hmore⟩⟩
  · rw [List.append_assoc, List.cons_append, hstart]
  · rw [hstart, hfirst, hsecond, List.append_assoc, List.append_assoc]

/-- Two parts show everything that they show together. -/
lemma strip_append_sublist (a b : Text) : (strip (a ++ b)).Sublist (strip a ++ strip b) := by
  by_cases h : CutsColor a b
  · obtain ⟨before, more, after, htogether, hapart, -, -⟩ := strip_append_of_cutsColor h
    rw [htogether, hapart]
    exact (List.Sublist.refl before).append (List.sublist_append_right more after)
  · rw [strip_append h]

/-- Where a colour is cut, they show more apart. -/
lemma inked_strip_append_lt (h : CutsColor a b) :
    Text.inked (strip (a ++ b)) < Text.inked (strip a) + Text.inked (strip b) := by
  obtain ⟨before, more, after, htogether, hapart, hne, hmore⟩ := strip_append_of_cutsColor h
  have hpos : 0 < Text.inked more :=
    Text.inked_pos hne fun c hc => (plain_of_inColor (hmore c hc)).2
  rw [← Text.inked_append, htogether, hapart]
  simp only [Text.inked_append]
  omega

end Format
end ChatLink
