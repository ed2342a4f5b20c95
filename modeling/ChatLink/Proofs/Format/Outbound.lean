/-
# What game text becomes

No control character of a player's text reaches the network: those that the game draws become
glyphs or vanish.  Of the control characters, network text holds the line feed and the marks of
colour, bold and reset only, so nothing in it ends a line or opens a request.
-/
import Mathlib
import ChatLink.Format.Game
import ChatLink.Proofs.Text.Trim

namespace ChatLink

/-- A character that a server or a client gives no meaning to inside the text of a line: neither
a NUL nor the mark of a request nor a carriage return. -/
def Innocent (c : Char) : Prop := c ≠ '\x00' ∧ c ≠ '\x01' ∧ c ≠ '\r'

instance (c : Char) : Decidable (Innocent c) :=
  inferInstanceAs (Decidable (c ≠ '\x00' ∧ c ≠ '\x01' ∧ c ≠ '\r'))

lemma innocent_of_all {t : Text} (h : t.all (Innocent ·) = true) {c : Char} (hc : c ∈ t) :
    Innocent c := by
  simpa using List.all_eq_true.1 h c hc

namespace Format

lemma innocent_of_not_isEmote {c : Char} (h : isEmote c = false) (hc : c ≠ '\x00') :
    Innocent c := by
  refine ⟨hc, ?_, ?_⟩
  · rintro rfl
    cases h
  · rintro rfl
    cases h

lemma innocent_of_glyphOf? {c glyph : Char} (h : glyphOf? c = some glyph) : Innocent glyph := by
  have hall : glyphs.all (Innocent ·) = true := by decide
  rw [glyphOf?] at h
  split at h
  · split at h
    · exact innocent_of_all hall (List.mem_of_getElem? h)
    · exact innocent_of_all hall (List.mem_of_getElem? h)
  · cases h

end Format

namespace GameMark

variable {on : Toggles} {mark : GameMark} {c d : Char} {text : Text}

/-- The number of any colour, known or not, is one of the palette's. -/
lemma getD_palette_mem (i : Nat) : Format.palette.getD i 0 ∈ Format.palette := by
  rw [List.getD_eq_getElem?_getD]
  cases h : Format.palette[i]? with
  | none => decide
  | some n => exact List.mem_of_getElem? h

/-- A mark that stands for a character stands for an innocent one. -/
def Passable (mark : GameMark) : Prop := ∀ c, mark = .char c → Innocent c

lemma not_isEmote_of_ofChar? (h : ofChar? c = some (.char d)) :
    Format.isEmote d = false ∧ d ≠ '\x00' := by
  rw [ofChar?] at h
  split at h
  · cases h
  split at h
  · cases h
  split at h
  · cases h
  split at h
  · cases h
  next hemote =>
  split at h
  · cases h
  next hnul =>
  cases h
  exact ⟨by simpa using hemote, hnul⟩

lemma ne_char_of_ofCode? (h : ofCode? c = some mark) : mark ≠ .char d := by
  rintro rfl
  rw [ofCode?] at h
  split at h
  · cases h
  · rw [Option.map_eq_some_iff] at h
    obtain ⟨i, -, hi⟩ := h
    cases hi

/-- A character that passes as it is is none that the game draws. -/
lemma not_isEmote_of_mem_ofText (h : .char d ∈ ofText text) :
    Format.isEmote d = false ∧ d ≠ '\x00' := by
  have hamp : ∀ {d : Char}, GameMark.char d = .char '&' →
      Format.isEmote d = false ∧ d ≠ '\x00' := by
    rintro d ⟨rfl⟩
    decide
  -- induction along the reading of marks: a code, an ampersand by itself, or another character
  induction text using ofText.induct with
  | case1 => cases h
  | case2 =>
    rw [ofText, List.mem_singleton] at h
    exact hamp h
  | case3 c t code hcode ih =>
    rw [ofText, hcode] at h
    rcases List.mem_cons.1 h with h | h
    · exact absurd h.symm (ne_char_of_ofCode? hcode)
    · exact ih h
  | case4 c t hcode ih =>
    rw [ofText, hcode] at h
    rcases List.mem_cons.1 h with h | h
    · exact hamp h
    · exact ih h
  | case5 c t hend hnext ih =>
    rw [ofText] at h
    · rcases List.mem_append.1 h with h | h
      · exact not_isEmote_of_ofChar? (Option.mem_toList.1 h)
      · exact ih h
    all_goals assumption

lemma passable_ofText (h : mark ∈ ofText text) : mark.Passable := by
  rintro c rfl
  obtain ⟨hemote, hnul⟩ := not_isEmote_of_mem_ofText h
  exact Format.innocent_of_not_isEmote hemote hnul

/-- Each mark becomes innocent characters. -/
lemma innocent_of_mem_toNetwork (hmark : mark.Passable) (h : d ∈ mark.toNetwork on) :
    Innocent d := by
  cases mark with
  | newline =>
    rw [toNetwork, List.mem_singleton] at h
    subst h
    decide
  | color i =>
    have hdigits : ∀ n ∈ Format.palette,
        (Format.networkColor :: Decimal.padded 2 n).all (Innocent ·) = true := by
      decide
    rw [toNetwork] at h
    split at h
    · exact innocent_of_all (hdigits _ (getD_palette_mem i)) h
    · cases h
  | bold =>
    rw [toNetwork] at h
    split at h
    · rw [List.mem_singleton] at h
      subst h
      decide
    · cases h
  | reset =>
    have hreset : [Format.networkColor, Format.networkReset].all (Innocent ·) = true := by decide
    rw [toNetwork] at h
    split at h
    · exact innocent_of_all hreset h
    · cases h
  | emote c =>
    rw [toNetwork] at h
    split at h
    · exact Format.innocent_of_glyphOf? (Option.mem_toList.1 h)
    · cases h
  | char c =>
    rw [toNetwork, List.mem_singleton] at h
    subst h
    exact hmark d rfl

end GameMark

namespace Format

variable {on : Toggles} {text : Text} {c : Char}

/-- Whatever a player writes, what reaches the network is innocent. -/
lemma innocent_of_mem_toNetwork (h : c ∈ toNetwork on text) : Innocent c := by
  obtain ⟨mark, hmark, hc⟩ := List.mem_flatMap.1 (Text.mem_of_mem_trim h)
  exact GameMark.innocent_of_mem_toNetwork (GameMark.passable_ofText hmark) hc

/-- Converted text is empty or holds more than blanks. -/
lemma isBlank_toNetwork_iff : (toNetwork on text).isBlank = true ↔ toNetwork on text = [] := by
  constructor
  · intro h
    rw [toNetwork] at h ⊢
    rw [Text.trim_eq_nil_iff, Text.isBlank, List.all_eq_true]
    intro c hc
    by_contra hblank
    rw [Text.isBlank, List.all_eq_true] at h
    exact hblank (h c (Text.mem_trim hc (by simpa using hblank)))
  · intro h
    rw [h]
    rfl

end Format
end ChatLink
