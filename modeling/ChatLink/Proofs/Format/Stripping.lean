/-
# Text without formatting

A log shows network text without its formatting, and so does the game where colours and emotes are
off, less the glyphs of emotes.  Both take the same characters for a colour: its start and the longest
colour code behind it.  What is left holds no formatting any more.  Main statement:
`fromNetwork_eq_strip`.
-/
import Mathlib
import ChatLink.Proofs.Format.Colors

namespace ChatLink

namespace NetworkMark

variable {t u number other rest : Text} {c : Char} {ms : List NetworkMark}

/-! ### The longest code -/

/-- One or two digits. -/
def IsNumber (t : Text) : Prop := t ≠ [] ∧ t.length ≤ 2 ∧ ∀ c ∈ t, c.isDigit = true

/-- What may belong to a colour behind its start: nothing, a number, or two of them with a comma in
between. -/
def IsColorCode (t : Text) : Prop :=
  t = [] ∨ IsNumber t ∨ ∃ front back, t = front ++ ',' :: back ∧ IsNumber front ∧ IsNumber back

/-- A number that does not go on in the text behind it. -/
structure IsWhole (number rest : Text) : Prop where
  isNumber : IsNumber number
  ends : number.length = 2 ∨ ∀ c ∈ rest.head?, c.isDigit = false

/-- It is the longest one with which the text starts. -/
lemma IsWhole.length_le (h : IsWhole number rest) (hother : IsNumber other)
    (hstarts : other <+: number ++ rest) : other.length ≤ number.length := by
  by_contra hlt
  have hpos : 0 < number.length := List.length_pos_iff.2 h.isNumber.1
  have hone : number.length = 1 := by have := hother.2.1; omega
  -- the second digit of the other number would follow the whole one
  obtain ⟨a, rfl⟩ := List.length_eq_one_iff.1 hone
  rcases other with _ | ⟨b, _ | ⟨d, other⟩⟩
  · exact hother.1 rfl
  · exact hlt le_rfl
  · obtain ⟨rest', hrest'⟩ := hstarts
    have hrest : d :: (other ++ rest') = rest := (List.cons.inj hrest').2
    have hhead : rest.head? = some d := by rw [← hrest]; rfl
    have hdigit := hother.2.2 d (by simp)
    rw [h.ends.resolve_left (by simp) d hhead] at hdigit
    cases hdigit

/-- So a text starts with one such number at most. -/
lemma IsWhole.eq (h : IsWhole number rest) (hother : IsWhole other u)
    (htext : number ++ rest = other ++ u) : number = other ∧ rest = u := by
  have hle : other.length ≤ number.length :=
    h.length_le hother.isNumber (htext ▸ List.prefix_append other u)
  have hge : number.length ≤ other.length :=
    hother.length_le h.isNumber (htext ▸ List.prefix_append number rest)
  exact List.append_inj htext (le_antisymm hge hle)

lemma digit?_eq_none (h : Decimal.digit? c = none) : c.isDigit = false := by
  by_contra hdigit
  rw [Decimal.digit?_of_isDigit (by simpa using hdigit)] at h
  cases h

/-- The number that is read is whole; there is none only where no digit is. -/
lemma takeNumber_cases (t : Text) :
    takeNumber t = (none, t) ∧ (∀ c ∈ t.head?, c.isDigit = false) ∨
      ∃ n number, (takeNumber t).1 = some n ∧ t = number ++ (takeNumber t).2 ∧
        IsWhole number (takeNumber t).2 := by
  fun_cases takeNumber t with
  | case1 => exact .inl ⟨rfl, by simp⟩
  | case2 c t hc => exact .inl ⟨rfl, by simpa using digit?_eq_none hc⟩
  | case3 c n hc =>
    have hdigit := Decimal.isDigit_of_digit? hc
    exact .inr ⟨n, [c], rfl, rfl, ⟨by simp, by simp, by simpa using hdigit⟩, .inr (by simp)⟩
  | case4 c n d u hc m hd =>
    have hc := Decimal.isDigit_of_digit? hc
    have hd := Decimal.isDigit_of_digit? hd
    exact .inr ⟨_, [c, d], rfl, rfl, ⟨by simp, by simp, by simp [hc, hd]⟩, .inl rfl⟩
  | case5 c n d u hc hd =>
    have hc := Decimal.isDigit_of_digit? hc
    exact .inr ⟨n, [c], rfl, rfl, ⟨by simp, by simp, by simpa using hc⟩,
      .inr (by simpa using digit?_eq_none hd)⟩

/-- A background is a comma and a whole number; there is none only where no digit follows a comma. -/
lemma dropBackground_cases (t : Text) :
    dropBackground t = t ∧ (∀ c u, t = ',' :: c :: u → c.isDigit = false) ∨
      ∃ back, t = ',' :: (back ++ dropBackground t) ∧ IsWhole back (dropBackground t) := by
  fun_cases dropBackground t with
  | case1 c u hc =>
    rcases takeNumber_cases (c :: u) with ⟨-, hnone⟩ | ⟨n, back, -, htext, hwhole⟩
    · rw [hnone c rfl] at hc
      cases hc
    · exact .inr ⟨back, congrArg (',' :: ·) htext, hwhole⟩
  | case2 c u hc =>
    refine .inl ⟨rfl, fun d v heq => ?_⟩
    cases heq
    simpa using hc
  | case3 t hother => exact .inl ⟨rfl, fun c u heq => (hother c u heq).elim⟩

/-- A number in front of a comma is whole. -/
lemma IsNumber.isWhole_comma (h : IsNumber number) (u : Text) : IsWhole number (',' :: u) :=
  ⟨h, .inr (by simp)⟩

/-- A code that is not empty starts with a digit. -/
lemma IsColorCode.eq_nil_or_digit (h : IsColorCode t) :
    t = [] ∨ ∃ c u, t = c :: u ∧ c.isDigit = true := by
  have hnumber : ∀ {v w : Text}, IsNumber v → ∃ c u, v ++ w = c :: u ∧ c.isDigit = true := by
    intro v w hv
    obtain ⟨c, u, rfl⟩ := List.exists_cons_of_ne_nil hv.1
    exact ⟨c, u ++ w, rfl, hv.2.2 c List.mem_cons_self⟩
  rcases h with rfl | h | ⟨front, back, rfl, hfront, -⟩
  · exact .inl rfl
  · have hdigit := hnumber (w := []) h
    rw [List.append_nil] at hdigit
    exact .inr hdigit
  · exact .inr (hnumber hfront)

/-- A colour takes the longest code with which the text behind its start begins. -/
lemma takeColor_longest (t : Text) : ∃ code, t = code ++ (takeColor t).2 ∧ IsColorCode code ∧
    ∀ other, other <+: t → IsColorCode other → other.length ≤ code.length := by
  rcases takeNumber_cases t with ⟨hnone, hhead⟩ | ⟨n, front, hsome, htext, hfront⟩
  · -- no digit follows, so no code but the empty one does
    refine ⟨[], by rw [takeColor, hnone, List.nil_append], .inl rfl, ?_⟩
    rintro other ⟨v, rfl⟩ hother
    rcases hother.eq_nil_or_digit with rfl | ⟨c, u, rfl, hc⟩
    · exact le_rfl
    · rw [hhead c rfl] at hc
      cases hc
  have hcolor : (takeColor t).2 = dropBackground (takeNumber t).2 := by
    rw [takeColor, ← Prod.eta (takeNumber t), hsome]
  rw [hcolor]
  generalize (takeNumber t).2 = rest at htext hfront ⊢
  subst htext
  rcases dropBackground_cases rest with ⟨hnone, hcomma⟩ | ⟨back, hrest, hback⟩
  · refine ⟨front, by rw [hnone], .inr (.inl hfront.isNumber), ?_⟩
    rintro other hstarts (rfl | hother | ⟨front', back', rfl, hfront', hback'⟩)
    · exact Nat.zero_le _
    · exact hfront.length_le hother hstarts
    · -- a second number would make a background
      obtain ⟨v, hv⟩ := hstarts
      rw [List.append_assoc, List.cons_append] at hv
      obtain ⟨-, hrest⟩ := hfront.eq (hfront'.isWhole_comma _) hv.symm
      obtain ⟨c, u, rfl⟩ := List.exists_cons_of_ne_nil hback'.1
      have hdigit := hback'.2.2 c List.mem_cons_self
      rw [hcomma c _ hrest] at hdigit
      cases hdigit
  · generalize dropBackground rest = later at hrest hback ⊢
    subst hrest
    refine ⟨front ++ ',' :: back, by rw [List.append_assoc, List.cons_append],
      .inr (.inr ⟨front, back, rfl, hfront.isNumber, hback.isNumber⟩), ?_⟩
    rintro other hstarts (rfl | hother | ⟨front', back', rfl, hfront', hback'⟩)
    · exact Nat.zero_le _
    · rw [List.length_append]
      exact (hfront.length_le hother hstarts).trans (Nat.le_add_right _ _)
    · obtain ⟨v, hv⟩ := hstarts
      rw [List.append_assoc, List.cons_append] at hv
      obtain ⟨rfl, hrest⟩ := hfront.eq (hfront'.isWhole_comma _) hv.symm
      have hle := hback.length_le hback' ⟨v, (List.cons.inj hrest).2.symm⟩
      simp only [List.length_append, List.length_cons]
      omega

/-! ### What the game is told -/

lemma filter_stripped (c : Char) :
    (stripped (.char c)).filter Format.isPlain = charToGame ⟨false, false⟩ c := by
  rw [stripped, charToGame]
  by_cases hplain : Format.isPlain c = true
  · simp [hplain]
  · split <;> simp [hplain]

/-- Where nothing is an ampersand and neither colours nor emotes pass, the game is told what is plain. -/
lemma toGame_plain (h : .char '&' ∉ ms) :
    toGame ⟨false, false⟩ ms = (ms.flatMap stripped).filter Format.isPlain := by
  induction ms using marks_induction ⟨false, false⟩ with
  | nil => simp [toGame]
  | color n ms ih =>
    rw [toGame_color, ih fun hmem => h (List.mem_cons_of_mem _ hmem)]
    rfl
  | typed d ms hd ih =>
    obtain ⟨-, hon, -⟩ := eq_percent_of_isTypedColor hd
    cases hon
  | code d ms hd ih => exact absurd List.mem_cons_self h
  | single c ms halone ih =>
    rw [toGame_alone halone, ih fun hmem => h (List.mem_cons_of_mem _ hmem), List.flatMap_cons,
      List.filter_append, filter_stripped]

end NetworkMark

namespace Format

open NetworkMark

/-- No formatting is left to remove. -/
lemma strip_strip (text : Text) : strip (strip text) = strip text := by
  have hshown := strip_shown_append (fun c hc => (mem_of_mem_strip (t := text) hc).2) []
  rwa [strip_nil, List.append_nil] at hshown

lemma fromNetwork_color (on : Toggles) (hon : on.colors = false) (t : Text) :
    fromNetwork on (networkColor :: t) = fromNetwork on (takeColor t).2 := by
  rw [fromNetwork_eq, ofText_start, toGame_color, hon, fromNetwork_eq]
  rfl

/-- **Both leave out the same.**  Where colours and emotes are off, a text without ampersands becomes
what is shown of it without formatting, less the glyphs of emotes and the blanks at its ends.  Removing
the formatting once more changes nothing.  And what both take for a colour is its start with the
longest colour code behind it. -/
theorem fromNetwork_eq_strip (text : Text) :
    ('&' ∉ text → fromNetwork ⟨false, false⟩ text = Text.trim ((strip text).filter isPlain)) ∧
    strip (strip text) = strip text ∧
    ∃ code rest, text = code ++ rest ∧ IsColorCode code ∧
      (∀ other, other <+: text → IsColorCode other → other.length ≤ code.length) ∧
      strip (networkColor :: text) = strip rest ∧
      ∀ emotes,
        fromNetwork ⟨false, emotes⟩ (networkColor :: text) = fromNetwork ⟨false, emotes⟩ rest := by
  refine ⟨fun h => ?_, strip_strip text, ?_⟩
  · rw [fromNetwork_eq, toGame_plain fun hmem => h (mem_of_mem_ofText hmem), ← strip_eq]
  · obtain ⟨code, htext, hcode, hlongest⟩ := takeColor_longest text
    exact ⟨code, (takeColor text).2, htext, hcode, hlongest, strip_color text,
      fun emotes => fromNetwork_color _ rfl text⟩

/-- A colour with a background, one without a number before a comma, one that ends in a comma where
the next one starts, and a glyph. -/
theorem fromNetwork_eq_strip_nested :
    let text : Text := "\x0312,5x☺\x03,7\x031,\x0304é%c "
    '&' ∉ text ∧ strip text = "x☺,7,%c " ∧ strip (strip text) = "x☺,7,%c " ∧
      fromNetwork ⟨false, false⟩ text = "x,7,%c" := by
  intro text
  have hplain : '&' ∉ text := by decide
  have hstrip : strip text = "x☺,7,%c " := by decide +kernel
  obtain ⟨hgame, htwice, -⟩ := fromNetwork_eq_strip text
  refine ⟨hplain, hstrip, htwice.trans hstrip, ?_⟩
  rw [hgame hplain, hstrip]
  decide

end Format
end ChatLink
