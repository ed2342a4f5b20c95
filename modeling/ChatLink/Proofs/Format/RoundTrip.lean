/-
# There and back

What a player writes in the characters and codes that the game's formatting knows comes back from
the network as it was, with each colour by the hexadecimal digit of its number and without the
marks for bold text and for the end of all formatting.  What the network cannot carry is a colour
with a comma and a digit right behind it, which it takes for a background.  Main statement:
`fromNetwork_toNetwork`.
-/
import Mathlib
import ChatLink.Format.Game
import ChatLink.Proofs.Format.Margins

namespace ChatLink

/-- A part of game text that has a meaning on both sides. -/
inductive GamePart where
  /-- A character of printable ASCII that starts no code on either side. -/
  | plain (c : Char) (h : Format.isPlain c = true ∧ c ≠ '&' ∧ c ≠ '%')
  /-- An ampersand and a letter that stands for a colour. -/
  | color (letter : Char) (index : Nat) (h : Format.colorIndex? letter = some index)
  | emote (c : Char) (h : Format.isEmote c = true)
  | bold
  | reset

namespace GamePart

/-- The text of a part. -/
def written : GamePart → Text
  | plain c _ => [c]
  | color letter _ _ => ['&', letter]
  | emote c _ => [c]
  | bold => [Format.boldMark]
  | reset => [Format.resetMark]

/-- What is left of a part after the way to the network and back. -/
def shown (on : Toggles) : GamePart → Text
  | plain c _ => [c]
  | color _ index _ => if on.colors then '&' :: Hexadecimal.digits index else []
  | emote c _ => if on.emotes then [c] else []
  | bold => []
  | reset => []

/-- The mark that the game makes of a part. -/
def mark : GamePart → GameMark
  | plain c _ => .char c
  | color _ index _ => .color index
  | emote c _ => .emote c
  | bold => .bold
  | reset => .reset

end GamePart

/-! ### Tables -/

namespace Format

variable {c letter : Char} {i : Nat}

lemma lt_of_colorIndex? (h : colorIndex? letter = some i) : i < 16 := by
  have hlt := toNat_lt_of_colorIndex? (by rw [h]; rfl)
  exact forall_ascii (p := fun letter => ∀ i ∈ colorIndex? letter, i < 16) (by decide +kernel)
    hlt i h

lemma toNat_lt_of_isPlain (h : isPlain c = true) : c.toNat < 128 := by
  rw [isPlain, Bool.and_eq_true, decide_eq_true_eq, decide_eq_true_eq] at h
  exact lt_of_le_of_lt (show c.toNat ≤ 126 from h.2) (by decide)

lemma toNat_lt_of_isEmote (h : isEmote c = true) : c.toNat < 128 := by
  simp only [isEmote, Bool.and_eq_true, Bool.or_eq_true, beq_iff_eq, decide_eq_true_eq] at h
  rcases h.2 with ⟨-, hle⟩ | rfl
  · exact lt_of_le_of_lt (show c.toNat ≤ 31 from hle) (by decide)
  · decide

/-- The glyph of an emote is read as that emote, and as nothing else. -/
lemma exists_glyph (h : isEmote c = true) :
    ∃ glyph, glyphOf? c = some glyph ∧ emoteOf? glyph = some c ∧ isPlain glyph = false ∧
      glyph ≠ networkColor := by
  have hall := forall_ascii (p := fun c => isEmote c = true → (glyphOf? c).any (fun glyph =>
    emoteOf? glyph == some c && !isPlain glyph && glyph != networkColor) = true)
    (by decide +kernel) (toNat_lt_of_isEmote h) h
  simpa [Option.any_eq_true, and_assoc] using hall

/-- The number of each colour has at most two digits and is that of no other colour. -/
lemma getD_palette (h : i < 16) :
    palette.getD i 0 < 100 ∧ palette.findIdx? (· == palette.getD i 0) = some i := by
  revert i
  decide

end Format

/-- A number that is written with two digits is read back, whatever follows. -/
lemma NetworkMark.takeNumber_padded {n : Nat} (h : n < 100) :
    ∃ a b, Decimal.padded 2 n = [a, b] ∧ a.isDigit = true ∧ b.isDigit = true ∧
      ∀ t, takeNumber (a :: b :: t) = (some n, t) := by
  have hall : ∀ n < 100, (Decimal.padded 2 n).map Decimal.digit? =
      [some (n / 10), some (n % 10)] := by
    decide +kernel
  obtain ⟨a, t, hpadded, ha, ht⟩ := List.map_eq_cons_iff.1 (hall n h)
  obtain ⟨b, t, rfl, hb, ht⟩ := List.map_eq_cons_iff.1 ht
  rw [List.map_eq_nil_iff] at ht
  subst ht
  refine ⟨a, b, hpadded, Decimal.isDigit_of_digit? ha, Decimal.isDigit_of_digit? hb, fun t => ?_⟩
  simp only [takeNumber, ha, hb]
  rw [mul_comm, Nat.div_add_mod]

/-! ### To the network -/

namespace GameMark

variable {c : Char}

lemma ofText_cons (h : c ≠ '&') (t : Text) : ofText (c :: t) = (ofChar? c).toList ++ ofText t := by
  rw [ofText]
  all_goals
    intros
    exact h (by assumption)

lemma ofChar?_of_isPlain (h : Format.isPlain c = true) : ofChar? c = some (.char c) :=
  forall_ascii (p := fun c => Format.isPlain c = true → ofChar? c = some (.char c))
    (by decide +kernel) (Format.toNat_lt_of_isPlain h) h

lemma ofChar?_of_isEmote (h : Format.isEmote c = true) :
    c ≠ '&' ∧ ofChar? c = some (.emote c) :=
  forall_ascii (p := fun c => Format.isEmote c = true → c ≠ '&' ∧ ofChar? c = some (.emote c))
    (by decide +kernel) (Format.toNat_lt_of_isEmote h) h

/-- The letter of a colour is not the one that breaks a line. -/
lemma ofCode?_of_colorIndex? {i : Nat} (h : Format.colorIndex? c = some i) :
    ofCode? c = some (.color i) := by
  have hne : ¬ (c = 'n' ∨ c = 'N') := by
    rintro (rfl | rfl)
    · cases h
    · cases h
  rw [ofCode?, if_neg hne, h, Option.map_some]

end GameMark

namespace GamePart

variable {on : Toggles}

lemma ofText_written_append (part : GamePart) (t : Text) :
    GameMark.ofText (part.written ++ t) = part.mark :: GameMark.ofText t := by
  cases part with
  | plain c h =>
    rw [written, List.singleton_append, GameMark.ofText_cons h.2.1,
      GameMark.ofChar?_of_isPlain h.1]
    rfl
  | color letter index h =>
    rw [written, List.cons_append, List.singleton_append, GameMark.ofText,
      GameMark.ofCode?_of_colorIndex? h, mark]
  | emote c h =>
    obtain ⟨hne, hmark⟩ := GameMark.ofChar?_of_isEmote h
    rw [written, List.singleton_append, GameMark.ofText_cons hne, hmark]
    rfl
  | bold => rfl
  | reset => rfl

/-- The text of parts is read as these parts. -/
lemma ofText_written (parts : List GamePart) :
    GameMark.ofText (parts.flatMap written) = parts.map mark := by
  induction parts with
  | nil => rfl
  | cons part parts ih => rw [List.flatMap_cons, ofText_written_append, ih, List.map_cons]

/-- The network text of a part. -/
def sent (on : Toggles) (part : GamePart) : Text := part.mark.toNetwork on

lemma toNetwork_written (parts : List GamePart) :
    Format.toNetwork on (parts.flatMap written) = Text.trim (parts.flatMap (sent on)) := by
  rw [Format.toNetwork, ofText_written, List.flatMap_map]
  rfl

end GamePart

/-! ### Backgrounds -/

namespace Format

variable {s t : Text}

/-- Somewhere in network text, a comma and a digit follow a colour of two digits. -/
def HasBackground (t : Text) : Prop :=
  ∃ a b d : Char, (a.isDigit = true ∧ b.isDigit = true ∧ d.isDigit = true) ∧
    [networkColor, a, b, ',', d] <:+: t

/-- A colour of two digits with a comma and a digit starts the text. -/
def startsBackground : Text → Bool
  | c :: a :: b :: comma :: d :: _ =>
    c == networkColor && a.isDigit && b.isDigit && comma == ',' && d.isDigit
  | _ => false

lemma hasBackground_iff : HasBackground t ↔ t.tails.any startsBackground = true := by
  rw [List.any_eq_true]
  constructor
  · rintro ⟨a, b, d, ⟨ha, hb, hd⟩, before, after, rfl⟩
    refine ⟨[networkColor, a, b, ',', d] ++ after, ?_, by simp [startsBackground, ha, hb, hd]⟩
    rw [List.mem_tails]
    exact ⟨before, by rw [List.append_assoc]⟩
  · rintro ⟨s, hs, hstarts⟩
    rw [List.mem_tails] at hs
    match s, hstarts with
    | c :: a :: b :: comma :: d :: after, hstarts =>
      simp only [startsBackground, Bool.and_eq_true, beq_iff_eq] at hstarts
      obtain ⟨⟨⟨⟨rfl, ha⟩, hb⟩, rfl⟩, hd⟩ := hstarts
      exact ⟨a, b, d, ⟨ha, hb, hd⟩, List.IsInfix.trans ⟨[], after, rfl⟩ hs.isInfix⟩

instance (t : Text) : Decidable (HasBackground t) :=
  decidable_of_iff (t.tails.any startsBackground = true) hasBackground_iff.symm

lemma HasBackground.append_left (h : HasBackground t) (s : Text) : HasBackground (s ++ t) := by
  obtain ⟨a, b, d, hdigits, hinfix⟩ := h
  exact ⟨a, b, d, hdigits, hinfix.trans (List.suffix_append s t).isInfix⟩

/-- Trimming takes nothing from a background, and makes none. -/
lemma hasBackground_trim_iff : HasBackground (Text.trim t) ↔ HasBackground t := by
  refine exists₃_congr fun a b d => and_congr_right fun ⟨ha, hb, hd⟩ => Text.infix_trim_iff ?_
  simp only [List.forall_mem_cons]
  exact ⟨by decide, isBlank_of_isDigit ha, isBlank_of_isDigit hb, by decide,
    isBlank_of_isDigit hd, by simp⟩

lemma HasBackground.trim (h : HasBackground t) : HasBackground (Text.trim t) :=
  hasBackground_trim_iff.2 h

end Format

/-! ### Back from the network -/

namespace NetworkMark

variable {on : Toggles} {t : Text} {n : Nat}

/-- A colour of two digits is read as such, unless a background follows. -/
lemma ofText_color (hn : n < 100)
    (h : ¬ Format.HasBackground (Format.networkColor :: (Decimal.padded 2 n ++ t))) :
    ofText (Format.networkColor :: (Decimal.padded 2 n ++ t)) =
      .color (some n) :: ofText t := by
  obtain ⟨a, b, hpadded, ha, hb, hread⟩ := takeNumber_padded hn
  have hdrop : dropBackground t = t := by
    fun_cases dropBackground t with
    | case1 d u hd =>
      rw [hpadded] at h
      exact absurd ⟨a, b, d, ⟨ha, hb, hd⟩, [], u, rfl⟩ h
    | case2 => rfl
    | case3 => rfl
  rw [ofText, if_pos rfl, hpadded, List.cons_append, List.singleton_append, takeColor, hread]
  dsimp only
  rw [hdrop]

/-- A character beyond printable ASCII is written as the emote that it is the glyph of. -/
lemma toGame_of_not_isPlain {c : Char} (h : Format.isPlain c = false) (ms : List NetworkMark) :
    toGame on (.char c :: ms) =
      (if on.emotes then (Format.emoteOf? c).toList else []) ++ toGame on ms := by
  have hpercent : c ≠ '%' := by
    rintro rfl
    cases h
  have hamp : c ≠ '&' := by
    rintro rfl
    cases h
  rw [toGame_alone (alone_of_ne hpercent hamp), charToGame, if_neg (by simp [h])]

/-- The marks of bold text and of the end of all formatting are nobody's glyphs. -/
lemma toGame_formatting {c : Char} (h : c = Format.networkBold ∨ c = Format.networkReset)
    (ms : List NetworkMark) : toGame on (.char c :: ms) = toGame on ms := by
  have hnone : Format.isPlain c = false ∧ Format.emoteOf? c = none := by
    rcases h with rfl | rfl <;> decide +kernel
  rw [toGame_of_not_isPlain hnone.1, hnone.2, Option.toList_none, ite_self, List.nil_append]

end NetworkMark

namespace GamePart

variable {on : Toggles}

/-- The marks that the network text of a part is read as. -/
def marks (on : Toggles) : GamePart → List NetworkMark
  | plain c _ => [.char c]
  | color _ index _ => if on.colors then [.color (some (Format.palette.getD index 0))] else []
  | emote c _ => if on.emotes then (Format.glyphOf? c).toList.map .char else []
  | bold => if on.colors then [.char Format.networkBold] else []
  | reset => if on.colors then [.color none, .char Format.networkReset] else []

lemma ofText_sent_append (part : GamePart) {t : Text}
    (h : ¬ Format.HasBackground (part.sent on ++ t)) :
    NetworkMark.ofText (part.sent on ++ t) = part.marks on ++ NetworkMark.ofText t := by
  cases part with
  | plain c hc =>
    have hne : c ≠ Format.networkColor := by
      rintro rfl
      exact absurd hc.1 (by decide)
    exact NetworkMark.ofText_cons hne t
  | color letter index hindex =>
    have hn := (Format.getD_palette (Format.lt_of_colorIndex? hindex)).1
    rw [sent, mark, GameMark.toNetwork, marks] at *
    split_ifs at h ⊢
    · exact NetworkMark.ofText_color hn h
    · rfl
  | emote c hc =>
    obtain ⟨glyph, hglyph, -, -, hne⟩ := Format.exists_glyph hc
    rw [sent, mark, GameMark.toNetwork, marks, hglyph]
    split_ifs
    · exact NetworkMark.ofText_cons hne t
    · rfl
  | bold =>
    rw [sent, mark, GameMark.toNetwork, marks]
    split_ifs
    · exact NetworkMark.ofText_cons (by decide) t
    · rfl
  | reset =>
    rw [sent, mark, GameMark.toNetwork, marks]
    split_ifs
    · -- the mark of reset is no digit, so the colour before it has no number
      have hread : NetworkMark.takeColor (Format.networkReset :: t) =
          (none, Format.networkReset :: t) := rfl
      rw [List.cons_append, List.singleton_append, NetworkMark.ofText, if_pos rfl, hread,
        NetworkMark.ofText_cons (by decide)]
      rfl
    · rfl

/-- The network reads its text of the parts as these parts. -/
lemma ofText_sent {parts : List GamePart} (h : ¬ Format.HasBackground (parts.flatMap (sent on))) :
    NetworkMark.ofText (parts.flatMap (sent on)) = parts.flatMap (marks on) := by
  induction parts with
  | nil => rw [List.flatMap_nil, NetworkMark.ofText, List.flatMap_nil]
  | cons part parts ih =>
    rw [List.flatMap_cons] at h
    rw [List.flatMap_cons, ofText_sent_append part h, ih fun h' => h (h'.append_left _),
      List.flatMap_cons]

lemma toGame_marks_append (part : GamePart) (ms : List NetworkMark) :
    NetworkMark.toGame on (part.marks on ++ ms) =
      part.shown on ++ NetworkMark.toGame on ms := by
  cases part with
  | plain c hc =>
    rw [marks, List.singleton_append, NetworkMark.toGame_alone
      (NetworkMark.alone_of_ne hc.2.2 hc.2.1), NetworkMark.charToGame, if_pos hc.1, shown]
  | color letter index hindex =>
    have hback := (Format.getD_palette (Format.lt_of_colorIndex? hindex)).2
    rw [marks, shown]
    split_ifs with hon
    · rw [List.singleton_append, NetworkMark.toGame_color, if_pos hon, NetworkMark.colorToGame,
        hback]
    · rfl
  | emote c hc =>
    obtain ⟨glyph, hglyph, hback, hplain, -⟩ := Format.exists_glyph hc
    rw [marks, shown, hglyph]
    split_ifs with hon
    · rw [Option.toList_some, List.map_singleton, List.singleton_append,
        NetworkMark.toGame_of_not_isPlain hplain, hback, if_pos hon, Option.toList_some]
    · rfl
  | bold =>
    rw [marks, shown]
    split_ifs
    · exact NetworkMark.toGame_formatting (Or.inl rfl) ms
    · rfl
  | reset =>
    rw [marks, shown]
    split_ifs
    · rw [List.cons_append, List.singleton_append, NetworkMark.toGame_color,
        NetworkMark.colorToGame, ite_self, NetworkMark.toGame_formatting (Or.inr rfl)]
    · rfl

/-- The marks of the parts come back as the parts are shown. -/
lemma toGame_marks (parts : List GamePart) :
    NetworkMark.toGame on (parts.flatMap (marks on)) = parts.flatMap (shown on) := by
  induction parts with
  | nil => rfl
  | cons part parts ih =>
    rw [List.flatMap_cons, toGame_marks_append, ih, List.flatMap_cons]

end GamePart

section

open Format GamePart

/-- Text of the parts that both sides know comes back as these parts are shown, up to the blanks
around it, if no colour in it has a background on the network. -/
theorem fromNetwork_toNetwork (on : Toggles) (parts : List GamePart)
    (h : ¬ HasBackground (toNetwork on (parts.flatMap written))) :
    fromNetwork on (toNetwork on (parts.flatMap written)) =
      Text.trim (parts.flatMap (shown on)) := by
  rw [toNetwork_written] at h ⊢
  rw [fromNetwork_trim, fromNetwork_eq, ofText_sent fun h' => h h'.trim, toGame_marks]

/-- A text with a part of each kind: a yellow comma by the name of its use, and a heart. -/
def mixedParts : List GamePart :=
  [.bold, .plain 'h' (by decide), .color 'S' 14 (by decide), .plain ',' (by decide),
    .emote '\x03' (by decide), .reset, .plain ' ' (by decide)]

theorem fromNetwork_toNetwork_mixed :
    ¬ HasBackground (toNetwork ⟨true, true⟩ (mixedParts.flatMap written)) ∧
      fromNetwork ⟨true, true⟩ (toNetwork ⟨true, true⟩ (mixedParts.flatMap written)) =
        ['h', '&', 'e', ',', '\x03'] := by
  have h : ¬ HasBackground (toNetwork ⟨true, true⟩ (mixedParts.flatMap written)) := by decide
  exact ⟨h, (fromNetwork_toNetwork _ _ h).trans (by decide)⟩

/-- A comma and a digit behind a colour are lost. -/
example : fromNetwork ⟨true, true⟩ (toNetwork ⟨true, true⟩ ['&', 'c', ',', '5']) = ['&', 'c'] := by
  decide +kernel

end

end ChatLink
