/-
# Blanks around network text

Blanks at the ends of network text make no difference to the game text that it becomes: they are
read as marks of their own, what is written for them is blank, and the result is trimmed anyhow.
Main statement: `fromNetwork_trim`.
-/
import Mathlib
import ChatLink.Proofs.Format.Colors

namespace ChatLink

/-! ### Blanks are nothing else -/

lemma Hexadecimal.isBlank_of_digit? {c : Char} (h : (digit? c).isSome = true) :
    isBlank c = false := by
  have hlt := toNat_lt_of_digit? h
  revert h
  exact forall_ascii (p := fun c => (digit? c).isSome = true → isBlank c = false)
    (by decide +kernel) hlt

lemma isBlank_of_isDigit {c : Char} (h : c.isDigit = true) : isBlank c = false := by
  refine Hexadecimal.isBlank_of_digit? ?_
  rw [Hexadecimal.digit?, if_pos h]
  rfl

lemma Format.emoteOf?_of_isBlank {c : Char} (h : isBlank c = true) : emoteOf? c = none := by
  have hglyphs : ∀ glyph ∈ glyphs, isBlank glyph = false := by simp [glyphs, isBlank]
  have hnone : glyphs.findIdx? (· == c) = none := by
    rw [List.findIdx?_eq_none_iff]
    intro glyph hglyph
    rw [beq_eq_false_iff_ne]
    rintro rfl
    rw [hglyphs glyph hglyph] at h
    cases h
  rw [emoteOf?, hnone]

namespace NetworkMark

variable {on : Toggles} {c : Char} {t u : Text} {ms : List NetworkMark}

/-! ### Reading -/

lemma endsColor_of_blanks (h : ∀ c ∈ u, isBlank c = true) : EndsColor u := by
  intro c hc
  have hblank := h c (List.mem_of_mem_head? hc)
  constructor
  · by_contra hdigit
    rw [isBlank_of_isDigit (by simpa using hdigit)] at hblank
    cases hblank
  · rintro rfl
    cases hblank

lemma ofText_blanks (h : ∀ c ∈ u, isBlank c = true) : ofText u = u.map .char := by
  induction u with
  | nil => rw [ofText, List.map_nil]
  | cons c u ih =>
    rw [List.forall_mem_cons] at h
    have hc : c ≠ Format.networkColor := by
      rintro rfl
      cases h.1
    rw [ofText_cons hc, ih h.2, List.map_cons]

lemma ofText_blanks_append (h : ∀ c ∈ u, isBlank c = true) (t : Text) :
    ofText (u ++ t) = u.map .char ++ ofText t := by
  induction u with
  | nil => rfl
  | cons c u ih =>
    rw [List.forall_mem_cons] at h
    have hc : c ≠ Format.networkColor := by
      rintro rfl
      cases h.1
    rw [List.cons_append, ofText_cons hc, ih h.2, List.map_cons, List.cons_append]

/-! ### Writing -/

/-- No code ends with a blank. -/
lemma alone_of_isBlank (h : ∀ d, ms.head? = some (.char d) → isBlank d = true) :
    Alone on c ms := by
  intro d hd
  have hblank := h d hd
  constructor
  · by_contra htyped
    have hdigit := (eq_percent_of_isTypedColor (by simpa using htyped)).2.2
    rw [Hexadecimal.isBlank_of_digit? hdigit] at hblank
    cases hblank
  · by_contra hcode
    have hletter := letter_of_isGameCode (eq_ampersand_of_isGameCode (by simpa using hcode)).2
    rw [hletter.2.2.2] at hblank
    cases hblank

lemma isBlank_of_mem_charToGame {d : Char} (hc : isBlank c = true) (hd : d ∈ charToGame on c) :
    isBlank d = true := by
  rw [charToGame, Format.emoteOf?_of_isBlank hc] at hd
  split at hd
  · rw [List.mem_singleton] at hd
    rwa [hd]
  · simp at hd

lemma toGame_blanks_append (h : ∀ c ∈ u, isBlank c = true) (ms : List NetworkMark) :
    toGame on (u.map .char ++ ms) = u.flatMap (charToGame on) ++ toGame on ms := by
  induction u with
  | nil => rfl
  | cons c u ih =>
    rw [List.forall_mem_cons] at h
    have hpercent : c ≠ '%' := by
      rintro rfl
      cases h.1
    have hamp : c ≠ '&' := by
      rintro rfl
      cases h.1
    rw [List.map_cons, List.cons_append, toGame_alone (alone_of_ne hpercent hamp), ih h.2,
      List.flatMap_cons, List.append_assoc]

lemma toGame_append_blanks (h : ∀ c ∈ u, isBlank c = true) (ms : List NetworkMark) :
    toGame on (ms ++ u.map .char) = toGame on ms ++ u.flatMap (charToGame on) := by
  induction ms using marks_induction on with
  | nil =>
    have hblanks : toGame on (u.map .char ++ []) = u.flatMap (charToGame on) ++ toGame on [] :=
      toGame_blanks_append h []
    rwa [List.append_nil, toGame, List.append_nil] at hblanks
  | color n ms ih => rw [List.cons_append, toGame_color, toGame_color, ih, List.append_assoc]
  | typed d ms hd ih =>
    rw [List.cons_append, List.cons_append, toGame_typed hd, toGame_typed hd, ih]
    rfl
  | code d ms hd ih =>
    rw [List.cons_append, List.cons_append, toGame_code hd, toGame_code hd, ih]
  | single c ms halone ih =>
    have halone' : Alone on c (ms ++ u.map .char) := by
      cases ms with
      | nil =>
        refine alone_of_isBlank fun d hd => ?_
        cases u with
        | nil => cases hd
        | cons e u =>
          cases hd
          exact h _ List.mem_cons_self
      | cons m ms => exact halone
    rw [List.cons_append, toGame_alone halone', toGame_alone halone, ih, List.append_assoc]

end NetworkMark

/-- Blanks at the ends of network text make no difference. -/
lemma Format.fromNetwork_trim (on : Toggles) (text : Text) :
    fromNetwork on (Text.trim text) = fromNetwork on text := by
  obtain ⟨before, after, htext, hbefore, hafter⟩ := Text.exists_trim text
  have hwritten : ∀ {s : Text}, (∀ c ∈ s, isBlank c = true) →
      ∀ c ∈ s.flatMap (NetworkMark.charToGame on), isBlank c = true := by
    intro s hs c hc
    obtain ⟨d, hd, hc⟩ := List.mem_flatMap.1 hc
    exact NetworkMark.isBlank_of_mem_charToGame (hs d hd) hc
  conv_rhs => rw [htext]
  rw [fromNetwork_eq, fromNetwork_eq, NetworkMark.ofText_blanks_append hbefore,
    NetworkMark.ofText_append ((NetworkMark.endsColor_of_blanks hafter).not_cutsColor _),
    NetworkMark.ofText_blanks hafter, NetworkMark.toGame_blanks_append hbefore,
    NetworkMark.toGame_append_blanks hafter,
    Text.trim_append_blanks (hwritten hbefore) (hwritten hafter)]

end ChatLink
