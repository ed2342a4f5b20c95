/-
# How network marks are read

The conversion to game text takes one mark at a time, but two where a percent sign and a digit
write a colour or an ampersand and a letter would make a code of the game.  `marks_induction` is
induction along these steps, and each step has its equation.  What a step writes is nothing, one
character that is plain or an emote, or an ampersand and a hexadecimal digit.  The conversion's loop
takes the same steps over the characters, and so it writes what the marks mean (`fromNetwork_eq`).
-/
import Mathlib
import ChatLink.Proofs.Format.Marks

namespace ChatLink

/-! ### Letters and digits -/

/-- What holds of every ASCII character can be checked one by one. -/
lemma forall_ascii {p : Char → Prop} (h : ∀ n < 128, p (Char.ofNat n)) {c : Char}
    (hc : c.toNat < 128) : p c := by
  have := h c.toNat hc
  rwa [Char.ofNat_toNat] at this

namespace Hexadecimal

lemma toNat_lt_of_digit? {c : Char} (h : (digit? c).isSome = true) : c.toNat < 128 := by
  rw [digit?] at h
  split at h
  · next hd =>
    have : c.toNat ≤ 57 := by simpa using (Char.isDigit_iff_toNat.1 hd).2
    omega
  split at h
  · next hd => exact lt_of_le_of_lt (show c.toNat ≤ 102 from hd.2) (by decide)
  split at h
  · next hd => exact lt_of_le_of_lt (show c.toNat ≤ 70 from hd.2) (by decide)
  · cases h

end Hexadecimal

namespace Format

lemma toNat_lt_of_colorIndex? {c : Char} (h : (colorIndex? c).isSome = true) :
    c.toNat < 128 := by
  by_contra hc
  have hupper : ¬ c.isUpper = true := by
    intro hu
    simp only [Char.isUpper, decide_eq_true_eq] at hu
    have : c.toNat ≤ 90 := hu.2
    omega
  have hlookup : colorAliases.lookup c = none := by
    rw [List.lookup_eq_none_iff]
    have hkeys : ∀ entry ∈ colorAliases, entry.1.toNat < 128 := by decide
    intro entry hentry
    rw [bne_iff_ne]
    rintro rfl
    exact hc (hkeys entry hentry)
  rw [colorIndex?, Char.toLower_eq_of_not_isUpper hupper] at h
  simp only [hlookup, Option.getD_none] at h
  exact hc (Hexadecimal.toNat_lt_of_digit? h)

/-- An emote that a glyph stands for is one. -/
lemma isEmote_of_emoteOf? {glyph c : Char} (h : emoteOf? glyph = some c) : isEmote c = true := by
  have hall : ∀ i < 32,
      (if (if i = 31 then '\x7f' else Char.ofNat (i + 1)) = '\n' then none
        else some (if i = 31 then '\x7f' else Char.ofNat (i + 1))).all isEmote = true := by
    decide
  rw [emoteOf?] at h
  split at h
  · cases h
  · next i hi =>
    have hlt : i < 32 := (List.findIdx?_eq_some_iff_getElem.1 hi).1
    have hemote := hall i hlt
    rw [show _ = some c from h] at hemote
    simpa using hemote

end Format

namespace NetworkMark

variable {on : Toggles} {c d : Char} {ms : List NetworkMark}

/-! ### Codes of two characters -/

lemma eq_percent_of_isTypedColor (h : isTypedColor on c d = true) :
    c = '%' ∧ on.colors = true ∧ (Hexadecimal.digit? d).isSome = true := by
  simpa [isTypedColor, and_assoc] using h

lemma eq_ampersand_of_isGameCode (h : isGameCode on c d = true) :
    c = '&' ∧ isGameCode on '&' d = true := by
  have hc : c = '&' := by
    simp only [isGameCode, Bool.and_eq_true, beq_iff_eq] at h
    exact h.1
  subst hc
  exact ⟨rfl, h⟩

lemma isGameCode_iff : isGameCode on '&' d = true ↔
    d = 'n' ∨ d = 'N' ∨ (on.colors = false ∧ (Format.colorIndex? d).isSome = true) := by
  simp [isGameCode, or_assoc]

/-- A letter that makes a code is a plain character and none of the two that start one. -/
lemma letter_of_isGameCode (h : isGameCode on '&' d = true) :
    Format.isPlain d = true ∧ d ≠ '&' ∧ d ≠ '%' ∧ isBlank d = false := by
  rcases isGameCode_iff.1 h with rfl | rfl | ⟨-, hd⟩
  · decide
  · decide
  · have hlt := Format.toNat_lt_of_colorIndex? hd
    revert hd
    exact forall_ascii (p := fun d => (Format.colorIndex? d).isSome = true →
      Format.isPlain d = true ∧ d ≠ '&' ∧ d ≠ '%' ∧ isBlank d = false) (by decide +kernel)
      hlt

/-! ### Steps -/

/-- The character makes no code with the mark that follows it. -/
def Alone (on : Toggles) (c : Char) (ms : List NetworkMark) : Prop :=
  ∀ d, ms.head? = some (.char d) → isTypedColor on c d = false ∧ isGameCode on c d = false

/-- Only a percent sign and an ampersand make codes. -/
lemma alone_of_ne (hpercent : c ≠ '%') (hamp : c ≠ '&') : Alone on c ms := by
  intro d _
  simp [isTypedColor, isGameCode, hpercent, hamp]

lemma toGame_color (n : Option Nat) :
    toGame on (.color n :: ms) = (if on.colors then colorToGame n else []) ++ toGame on ms := by
  rw [toGame]

lemma toGame_typed (h : isTypedColor on '%' d = true) :
    toGame on (.char '%' :: .char d :: ms) = '&' :: d.toLower :: toGame on ms := by
  rw [toGame, if_pos h]

lemma toGame_code (h : isGameCode on '&' d = true) :
    toGame on (.char '&' :: .char d :: ms) = toGame on ms := by
  rw [toGame, if_neg (by simp [isTypedColor]), if_pos h]

lemma toGame_alone (h : Alone on c ms) :
    toGame on (.char c :: ms) = charToGame on c ++ toGame on ms := by
  rcases ms with _ | ⟨_ | d, ms⟩
  · simp [toGame]
  · simp [toGame]
  · obtain ⟨htyped, hcode⟩ := h d rfl
    rw [toGame, if_neg (by simp [htyped]), if_neg (by simp [hcode])]

/-- Induction along the steps in which marks are read. -/
@[elab_as_elim]
lemma marks_induction (on : Toggles) {motive : List NetworkMark → Prop} (nil : motive [])
    (color : ∀ n ms, motive ms → motive (.color n :: ms))
    (typed : ∀ d ms, isTypedColor on '%' d = true → motive ms →
      motive (.char '%' :: .char d :: ms))
    (code : ∀ d ms, isGameCode on '&' d = true → motive ms →
      motive (.char '&' :: .char d :: ms))
    (single : ∀ c ms, Alone on c ms → motive ms → motive (.char c :: ms))
    (ms : List NetworkMark) : motive ms := by
  induction ms using toGame.induct on with
  | case1 => exact nil
  | case2 n ms ih => exact color n ms ih
  | case3 c => exact single c [] (by simp [Alone]) nil
  | case4 c d ms h ih =>
    obtain ⟨rfl, -⟩ := eq_percent_of_isTypedColor h
    exact typed d ms h ih
  | case5 c d ms _ h ih =>
    obtain ⟨rfl, h⟩ := eq_ampersand_of_isGameCode h
    exact code d ms h ih
  | case6 c d ms htyped hcode ih =>
    refine single c _ ?_ ih
    intro e he
    simp only [List.head?_cons, Option.some.injEq, char.injEq] at he
    subst he
    exact ⟨by simpa using htyped, by simpa using hcode⟩
  | case7 c n ms ih => exact single c _ (by simp [Alone]) ih

/-! ### What a step writes -/

/-- A character that stands by itself is written as it is, as an emote, or not at all. -/
lemma charToGame_cases (on : Toggles) (c : Char) :
    charToGame on c = [] ∧ Format.isPlain c = false ∨
      charToGame on c = [c] ∧ Format.isPlain c = true ∨
      ∃ e, charToGame on c = [e] ∧ Format.isEmote e = true ∧ on.emotes = true ∧
        Format.isPlain c = false := by
  rw [charToGame]
  by_cases hplain : Format.isPlain c = true
  · exact Or.inr (Or.inl ⟨if_pos hplain, hplain⟩)
  rw [if_neg hplain]
  have hplain : Format.isPlain c = false := by simpa using hplain
  by_cases hon : on.emotes = true
  · rw [if_pos hon]
    cases he : Format.emoteOf? c with
    | none => exact Or.inl ⟨rfl, hplain⟩
    | some e => exact Or.inr (Or.inr ⟨e, rfl, Format.isEmote_of_emoteOf? he, hon, hplain⟩)
  · exact Or.inl ⟨if_neg hon, hplain⟩

/-- A colour is written as an ampersand and a hexadecimal digit, or not at all. -/
lemma colorToGame_cases (n : Option Nat) : colorToGame n = [] ∨
    ∃ h, colorToGame n = ['&', h] ∧ (Hexadecimal.digit? h).isSome = true := by
  have hdigits : ∀ i < 16, ∃ h, Hexadecimal.digits i = [h] ∧
      (Hexadecimal.digit? h).isSome = true := by
    intro i hi
    refine ⟨Nat.digitChar i, ?_, ?_⟩
    · rw [Hexadecimal.digits, Nat.toDigits_of_lt_base hi]
    · revert i
      decide
  rw [colorToGame.eq_def]
  split
  · exact Or.inl rfl
  · split
    · next i hi =>
      have hlt : i < 16 := (List.findIdx?_eq_some_iff_getElem.1 hi).1
      obtain ⟨h, hdig, hsome⟩ := hdigits i hlt
      exact Or.inr ⟨h, by rw [hdig], hsome⟩
    · exact Or.inl rfl

/-- The other case of a hexadecimal digit is one too. -/
lemma isSome_digit?_toLower (h : (Hexadecimal.digit? d).isSome = true) :
    (Hexadecimal.digit? d.toLower).isSome = true := by
  have hlt := Hexadecimal.toNat_lt_of_digit? h
  revert h
  exact forall_ascii (p := fun d => (Hexadecimal.digit? d).isSome = true →
    (Hexadecimal.digit? d.toLower).isSome = true) (by decide +kernel) hlt

end NetworkMark

/-! ### The loop of the conversion -/

namespace Format

open NetworkMark

variable {on : Toggles} {c d : Char} {t : Text}

/-- A mark that is a character is the next one of the text. -/
lemma head?_of_head?_ofText (h : (ofText t).head? = some (.char d)) : t.head? = some d := by
  rcases t with _ | ⟨e, u⟩
  · rw [ofText] at h
    cases h
  · by_cases he : e = networkColor
    · rw [he, ofText_start] at h
      cases h
    · rw [ofText_cons he, List.head?_cons, Option.some_inj, char.injEq] at h
      rw [List.head?_cons, h]

/-- A character that looking ahead finds is read as itself, unless it starts a colour. -/
lemma exists_ofText_of_any {p : Char → Bool} (h : t.head?.any p = true)
    (hp : p networkColor = false) :
    ∃ d u, t = d :: u ∧ p d = true ∧ ofText t = .char d :: ofText u := by
  rcases t with _ | ⟨d, u⟩
  · cases h
  · have hd : p d = true := h
    refine ⟨d, u, rfl, hd, ofText_cons ?_ u⟩
    rintro rfl
    rw [hp] at hd
    cases hd

lemma colorToGame_eq (on : Toggles) (n : Option Nat) :
    (if on.colors then colorToGame n else []) =
      match (n.filter fun _ => on.colors).bind gameColor? with
      | some code => '&' :: code
      | none => [] := by
  rcases n with _ | n
  · simp [colorToGame]
  · cases hon : on.colors
    · simp
    · simp only [colorToGame, gameColor?, Option.filter_some, if_pos, Option.bind_some]
      cases palette.findIdx? (· == n) <;> rfl

/-- **The conversion by marks**, but for the blanks at the ends. -/
theorem translate_eq (on : Toggles) (text : Text) :
    translate on text = toGame on (ofText text) := by
  induction hlength : text.length using Nat.strong_induction_on generalizing text with
  | _ length ih =>
  subst hlength
  rcases text with _ | ⟨c, t⟩
  · rw [translate, ofText, toGame]
  have hnext : ∀ u : Text, u.length ≤ t.length → translate on u = toGame on (ofText u) :=
    fun u hle => ih u.length (Nat.lt_succ_of_le hle) u rfl
  rw [translate.eq_def]
  dsimp only
  split_ifs with hcolor htyped hcode hplain hemotes
  · rw [hcolor, ofText_start, toGame_color, colorToGame_eq, readColor_eq,
      hnext _ (length_takeColor_le t)]
    cases ((takeColor t).1.filter fun _ => on.colors).bind gameColor? <;> rfl
  · obtain ⟨rfl, hon, hdigit⟩ := htyped
    obtain ⟨d, u, rfl, hd, hread⟩ := exists_ofText_of_any hdigit (by decide)
    rw [ofText_cons hcolor, hread, toGame_typed (by simp [isTypedColor, hon, hd])]
    dsimp only
    rw [hnext u (Nat.le_succ _)]
  · obtain ⟨rfl, hletter⟩ := hcode
    obtain ⟨d, u, rfl, hd, hread⟩ := exists_ofText_of_any hletter (by cases on.colors <;> decide)
    rw [ofText_cons hcolor, hread, toGame_code (by simpa [isGameCode] using hd),
      List.tail_cons, hnext u (Nat.le_succ _)]
  all_goals
    have halone : Alone on c (ofText t) := by
      intro d hd
      have hhead := head?_of_head?_ofText hd
      rw [hhead] at htyped hcode
      constructor
      · rw [Bool.eq_false_iff]
        intro h
        exact htyped (eq_percent_of_isTypedColor h)
      · rw [Bool.eq_false_iff]
        intro h
        obtain ⟨rfl, h⟩ := eq_ampersand_of_isGameCode h
        exact hcode ⟨rfl, by simpa [isGameCode] using h⟩
    rw [ofText_cons hcolor, toGame_alone halone, charToGame, hnext t le_rfl]
  · rw [if_pos hplain]
    rfl
  · rw [if_neg hplain, if_pos hemotes]
  · rw [if_neg hplain, if_neg hemotes]
    rfl

theorem fromNetwork_eq (on : Toggles) (text : Text) :
    fromNetwork on text = Text.trim (toGame on (ofText text)) := by
  rw [fromNetwork, translate_eq]

end Format
end ChatLink
