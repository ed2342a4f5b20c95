/-
# The characters of game text

What the conversion from network text writes is printable ASCII and, where emotes pass, the
characters that the game draws as emotes.  Nothing else of what was said on the network is left
in it.
-/
import Mathlib
import ChatLink.Proofs.Format.Scan
import ChatLink.Proofs.Text.Trim

namespace ChatLink

namespace Format

variable {on : Toggles} {c : Char} {text : Text}

/-- A character that game text may hold: printable ASCII or, where emotes pass, an emote. -/
def IsGameChar (on : Toggles) (c : Char) : Prop :=
  isPlain c = true ∨ on.emotes = true ∧ isEmote c = true

/-- A text of nothing but such characters. -/
def InGameFormat (on : Toggles) (text : Text) : Prop := ∀ c ∈ text, IsGameChar on c

instance (on : Toggles) (c : Char) : Decidable (IsGameChar on c) :=
  inferInstanceAs (Decidable (isPlain c = true ∨ on.emotes = true ∧ isEmote c = true))

instance (on : Toggles) (text : Text) : Decidable (InGameFormat on text) :=
  inferInstanceAs (Decidable (∀ c ∈ text, IsGameChar on c))

lemma isPlain_of_digit? (h : (Hexadecimal.digit? c).isSome = true) : isPlain c = true := by
  have hlt := Hexadecimal.toNat_lt_of_digit? h
  revert h
  exact forall_ascii (p := fun c => (Hexadecimal.digit? c).isSome = true → isPlain c = true)
    (by decide +kernel) hlt

end Format

namespace NetworkMark

open Format (IsGameChar)

variable {on : Toggles} {c d : Char}

lemma isGameChar_ampersand : IsGameChar on '&' := Or.inl (by decide)

lemma isGameChar_of_digit? (h : (Hexadecimal.digit? c).isSome = true) : IsGameChar on c :=
  Or.inl (Format.isPlain_of_digit? h)

lemma isGameChar_of_mem_colorToGame {n : Option Nat} (hc : c ∈ colorToGame n) :
    IsGameChar on c := by
  rcases colorToGame_cases n with hnone | ⟨h, hcode, hdigit⟩
  · rw [hnone] at hc
    cases hc
  · rw [hcode, List.mem_cons, List.mem_singleton] at hc
    rcases hc with rfl | rfl
    · exact isGameChar_ampersand
    · exact isGameChar_of_digit? hdigit

lemma isGameChar_of_mem_charToGame (hc : c ∈ charToGame on d) : IsGameChar on c := by
  rcases charToGame_cases on d with ⟨hnone, -⟩ | ⟨hsame, hplain⟩ | ⟨e, hemote, he, hon, -⟩
  · rw [hnone] at hc
    cases hc
  · rw [hsame, List.mem_singleton] at hc
    exact Or.inl (hc ▸ hplain)
  · rw [hemote, List.mem_singleton] at hc
    exact Or.inr ⟨hon, hc ▸ he⟩

lemma isGameChar_of_mem_toGame (ms : List NetworkMark) :
    ∀ c ∈ toGame on ms, IsGameChar on c := by
  induction ms using marks_induction on with
  | nil => simp [toGame]
  | color n ms ih =>
    intro c hc
    rw [toGame_color, List.mem_append] at hc
    rcases hc with hc | hc
    · split at hc
      · exact isGameChar_of_mem_colorToGame hc
      · cases hc
    · exact ih c hc
  | typed d ms h ih =>
    intro c hc
    have hdigit := isSome_digit?_toLower (eq_percent_of_isTypedColor h).2.2
    rw [toGame_typed h, List.mem_cons, List.mem_cons] at hc
    rcases hc with rfl | rfl | hc
    · exact isGameChar_ampersand
    · exact isGameChar_of_digit? hdigit
    · exact ih c hc
  | code d ms h ih =>
    rw [toGame_code h]
    exact ih
  | single c ms h ih =>
    intro e he
    rw [toGame_alone h, List.mem_append] at he
    exact he.elim isGameChar_of_mem_charToGame (ih e)

end NetworkMark

/-- Converted text is in game format. -/
lemma Format.inGameFormat_fromNetwork (on : Toggles) (text : Text) :
    InGameFormat on (fromNetwork on text) := by
  rw [fromNetwork_eq]
  exact fun c hc => NetworkMark.isGameChar_of_mem_toGame _ c (Text.mem_of_mem_trim hc)

end ChatLink
