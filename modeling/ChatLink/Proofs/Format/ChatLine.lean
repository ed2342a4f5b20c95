/-
# One line of chat

Whatever was said on the network, the game is given one line of it: printable ASCII and, where emotes
pass, emotes, with no blank at either end, and no longer than what was said.  The last holds because a
mark is written with at most as many characters as it was read from.  Main statement:
`fromNetwork_isChatLine`.
-/
import Mathlib
import ChatLink.Proofs.Format.Colors
import ChatLink.Proofs.Format.GameText

namespace ChatLink

namespace NetworkMark

variable {on : Toggles} {c : Char} {n : Nat} {t : Text}

/-! ### How many characters a mark is read from -/

/-- The least number of characters that a mark is read from: a colour with a number has a digit. -/
def width : NetworkMark → Nat
  | color (some _) => 2
  | _ => 1

lemma length_takeNumber_lt_of_some (h : (takeNumber t).1 = some n) :
    (takeNumber t).2.length < t.length := by
  revert h
  fun_cases takeNumber t with
  | case1 => simp
  | case2 c t hc => simp
  | case3 c m hc => exact fun _ => Nat.lt_succ_self _
  | case4 c m d u hc k hd => exact fun _ => Nat.lt_succ_of_lt (Nat.lt_succ_self _)
  | case5 c m d u hc hd => exact fun _ => Nat.lt_succ_self _

lemma width_color_le (t : Text) :
    width (.color (takeColor t).1) + (takeColor t).2.length ≤ t.length + 1 := by
  have hle := length_takeColor_le t
  rcases hnumber : takeNumber t with ⟨_ | n, rest⟩
  · rw [takeColor, hnumber] at hle ⊢
    rw [width.eq_def]
    dsimp only at hle ⊢
    omega
  · have hlt := length_takeNumber_lt_of_some (congrArg Prod.fst hnumber)
    have hback := length_dropBackground_le rest
    rw [hnumber] at hlt
    rw [takeColor, hnumber, width]
    dsimp only at hlt ⊢
    omega

/-- Together the marks of a text are read from no more characters than it has. -/
lemma sum_width_ofText_le (t : Text) : ((ofText t).map width).sum ≤ t.length := by
  induction t using ofText.induct with
  | case1 => simp [ofText]
  | case2 t ih =>
    have hcolor := width_color_le t
    rw [ofText_start, List.map_cons, List.sum_cons, List.length_cons]
    omega
  | case3 c t hc ih =>
    have hwidth : width (.char c) = 1 := rfl
    rw [ofText_cons hc, List.map_cons, List.sum_cons, List.length_cons, hwidth, Nat.add_comm]
    exact Nat.add_le_add_right ih 1

/-! ### How many it is written with -/

lemma length_charToGame_le (on : Toggles) (c : Char) : (charToGame on c).length ≤ 1 := by
  rcases charToGame_cases on c with ⟨h, -⟩ | ⟨h, -⟩ | ⟨e, h, -⟩ <;> simp [h]

lemma length_colorToGame_le (n : Option Nat) : (colorToGame n).length ≤ width (.color n) := by
  cases n with
  | none => exact Nat.zero_le _
  | some n =>
    rcases colorToGame_cases (some n) with h | ⟨d, h, -⟩ <;> simp [h, width]

/-- A mark is written with at most as many characters as it was read from. -/
lemma length_toGame_le (ms : List NetworkMark) : (toGame on ms).length ≤ (ms.map width).sum := by
  induction ms using marks_induction on with
  | nil => simp [toGame]
  | color n ms ih =>
    have hcolor := length_colorToGame_le n
    rw [toGame_color, List.length_append, List.map_cons, List.sum_cons]
    refine Nat.add_le_add ?_ ih
    split
    · exact hcolor
    · exact Nat.zero_le _
  | typed d ms h ih =>
    rw [toGame_typed h]
    simp only [List.length_cons, List.map_cons, List.sum_cons, width]
    omega
  | code d ms h ih =>
    rw [toGame_code h, List.map_cons, List.map_cons, List.sum_cons, List.sum_cons]
    omega
  | single c ms h ih =>
    rw [toGame_alone h, List.length_append, List.map_cons, List.sum_cons]
    exact Nat.add_le_add (length_charToGame_le on c) ih

end NetworkMark

namespace Format

variable {on : Toggles} {c : Char}

/-! ### The line -/

lemma length_fromNetwork_le (on : Toggles) (text : Text) :
    (fromNetwork on text).length ≤ text.length := by
  rw [fromNetwork_eq]
  exact (Text.length_trim_le _).trans
    ((NetworkMark.length_toGame_le _).trans (NetworkMark.sum_width_ofText_le text))

lemma isPlain_iff : isPlain c = true ↔ ' ' ≤ c ∧ c ≤ '~' := by
  rw [isPlain, Bool.and_eq_true, decide_eq_true_eq, decide_eq_true_eq]

lemma isEmote_iff : isEmote c = true ↔ c ≠ '\n' ∧ ('\x01' ≤ c ∧ c ≤ '\x1f' ∨ c = '\x7f') := by
  simp [isEmote]

lemma newline_not_mem_of_inGameFormat {text : Text} (h : InGameFormat on text) : '\n' ∉ text := by
  intro hmem
  rcases h _ hmem with hplain | ⟨-, hemote⟩
  · exact absurd hplain (by decide)
  · exact absurd hemote (by decide)

/-- **The game is given one line.**  Each of its characters is printable ASCII or, if emotes pass, one
that the game draws as an emote; none is a line feed.  It has no blank at either end, and at most as
many characters as the network text. -/
theorem fromNetwork_isChatLine (on : Toggles) (text : Text) :
    let line := fromNetwork on text
    (∀ c ∈ line, (' ' ≤ c ∧ c ≤ '~') ∨
      on.emotes = true ∧ c ≠ '\n' ∧ ('\x01' ≤ c ∧ c ≤ '\x1f' ∨ c = '\x7f')) ∧
    '\n' ∉ line ∧
    (∀ c, line.head? = some c ∨ line.getLast? = some c → isBlank c = false) ∧
    line.length ≤ text.length := by
  intro line
  have hformat : InGameFormat on line := inGameFormat_fromNetwork on text
  refine ⟨fun c hc => ?_, newline_not_mem_of_inGameFormat hformat, fun c hc => ?_,
    length_fromNetwork_le on text⟩
  · rw [← isPlain_iff, ← isEmote_iff]
    exact hformat c hc
  · exact hc.elim Text.isBlank_of_head?_trim Text.isBlank_of_getLast?_trim

/-- A glyph that stands for no emote and one that does, a typed colour, a code of the game and a colour
with a background, between blanks. -/
theorem fromNetwork_isChatLine_mixed :
    let text : Text := " ◙♥%C&n\x034,1café "
    let line := fromNetwork ⟨true, true⟩ text
    line = ['\x03', '&', 'c', '&', 'c', 'c', 'a', 'f'] ∧
    ((' ' ≤ '\x03' ∧ '\x03' ≤ '~') ∨
      true = true ∧ '\x03' ≠ '\n' ∧ ('\x01' ≤ '\x03' ∧ '\x03' ≤ '\x1f' ∨ '\x03' = '\x7f')) ∧
    '\n' ∉ line ∧ isBlank '\x03' = false ∧ isBlank 'f' = false ∧ line.length ≤ 16 := by
  intro text line
  have hline : line = ['\x03', '&', 'c', '&', 'c', 'c', 'a', 'f'] := by decide +kernel
  have hmem : '\x03' ∈ line := by rw [hline]; exact List.mem_cons_self
  have hhead : line.head? = some '\x03' := by rw [hline]; rfl
  have hlast : line.getLast? = some 'f' := by rw [hline]; rfl
  obtain ⟨hchars, hfeed, hends, hlength⟩ := fromNetwork_isChatLine ⟨true, true⟩ text
  exact ⟨hline, hchars _ hmem, hfeed, hends _ (.inl hhead), hends _ (.inr hlast), hlength⟩

end Format
end ChatLink
