/-
# Switching colours on

Colours are formatting: whether they pass to the network should make no difference to the text that
its users see.  Each mark of game text by itself shows the same in both cases.  But behind the number
of a colour the network reads a comma and a digit as the number of a background, whoever wrote them,
so there they are lost.  Main statement: `trim_strip_toNetwork_iff`.
-/
import Mathlib
import ChatLink.Proofs.Format.Outbound
import ChatLink.Proofs.Format.RoundTrip

namespace ChatLink

namespace Format

open NetworkMark

variable {s t : Text} {c : Char}

/-! ### Blanks around what is shown -/

/-- It makes no difference to what is shown whether the blanks at the ends go before or after. -/
lemma trim_strip_trim (t : Text) : Text.trim (strip (Text.trim t)) = Text.trim (strip t) := by
  obtain ⟨before, after, ht, hbefore, hafter⟩ := Text.exists_trim t
  have hstart : ∀ u, ¬ CutsColor before u := by
    intro u hcuts
    exact absurd (hbefore _ hcuts.networkColor_mem) (by decide)
  have hend : ¬ CutsColor (Text.trim t) after := (endsColor_of_blanks hafter).not_cutsColor _
  conv_rhs => rw [ht, strip_append (hstart _), strip_append hend]
  rw [Text.trim_append_blanks (fun c hc => hbefore c (mem_of_mem_strip hc).1)
    (fun c hc => hafter c (mem_of_mem_strip hc).1)]

/-! ### Backgrounds -/

lemma hasBackground_cons :
    HasBackground (c :: t) ↔ startsBackground (c :: t) = true ∨ HasBackground t := by
  rw [hasBackground_iff, hasBackground_iff, List.tails_cons, List.any_cons, Bool.or_eq_true]

lemma startsBackground_of_ne (h : c ≠ networkColor) (t : Text) :
    startsBackground (c :: t) = false := by
  rw [startsBackground.eq_def]
  split
  · next heq =>
    cases heq
    simp [h]
  · rfl

lemma startsBackground_of_not_isDigit (h : c.isDigit = false) (t : Text) :
    startsBackground (networkColor :: c :: t) = false := by
  rw [startsBackground.eq_def]
  split
  · next heq =>
    cases heq
    simp [h]
  · rfl

lemma hasBackground_append_of_not_mem (h : networkColor ∉ s) (t : Text) :
    HasBackground (s ++ t) ↔ HasBackground t := by
  induction s with
  | nil => rfl
  | cons c s ih =>
    rw [List.mem_cons, not_or] at h
    rw [List.cons_append, hasBackground_cons, ih h.2, startsBackground_of_ne (Ne.symm h.1)]
    simp

end Format

namespace NetworkMark

open Format

variable {number t : Text}

/-- A part in which a single colour starts, and only at its beginning. -/
lemma cutsColor_start_iff (h : networkColor ∉ number) (t : Text) :
    CutsColor (networkColor :: number) t ↔ (takeColor (number ++ t)).2.length < t.length := by
  constructor
  · rintro ⟨_ | ⟨c, before⟩, rest, heq, hlt⟩
    · rwa [(List.cons.inj heq).2]
    · rw [(List.cons.inj heq).2] at h
      simp at h
  · exact fun hlt => ⟨[], number, rfl, hlt⟩

lemma length_dropBackground_lt_iff :
    (dropBackground t).length < t.length ↔ ∃ d u, t = ',' :: d :: u ∧ d.isDigit = true := by
  fun_cases dropBackground t with
  | case1 d u hd =>
    refine iff_of_true ?_ ⟨d, u, rfl, hd⟩
    exact (length_takeNumber_lt hd).trans (Nat.lt_succ_self _)
  | case2 d u hd =>
    refine iff_of_false (lt_irrefl _) ?_
    rintro ⟨e, v, heq, he⟩
    cases heq
    exact hd he
  | case3 t hother =>
    refine iff_of_false (lt_irrefl _) ?_
    rintro ⟨d, u, rfl, -⟩
    exact hother d u rfl

/-- A colour of two digits goes on in what follows exactly if a background follows. -/
lemma cutsColor_padded_iff {n : Nat} (hn : n < 100) (t : Text) :
    CutsColor (networkColor :: Decimal.padded 2 n) t ↔
      startsBackground (networkColor :: (Decimal.padded 2 n ++ t)) = true := by
  obtain ⟨a, b, hpadded, ha, hb, hread⟩ := takeNumber_padded hn
  have hnumber : networkColor ∉ [a, b] := networkColor_not_mem (by simp [InColor, ha, hb])
  have htake : (takeColor ([a, b] ++ t)).2 = dropBackground t := by
    rw [takeColor, List.cons_append, List.singleton_append, hread]
  rw [hpadded, cutsColor_start_iff hnumber, htake, length_dropBackground_lt_iff]
  constructor
  · rintro ⟨d, u, rfl, hd⟩
    simp [startsBackground, ha, hb, hd]
  · intro h
    rcases t with _ | ⟨comma, _ | ⟨d, u⟩⟩
    · cases h
    · cases h
    · rw [List.cons_append, List.singleton_append, startsBackground] at h
      simp only [Bool.and_eq_true, beq_iff_eq] at h
      exact ⟨d, u, by rw [h.1.2], h.2⟩

end NetworkMark

namespace GameMark

open Format NetworkMark

variable {mark : GameMark} {ms : List GameMark} {emotes : Bool} {t : Text} {c : Char}

lemma getD_palette_lt (i : Nat) : palette.getD i 0 < 100 := by
  have hall : ∀ n ∈ palette, n < 100 := by decide
  exact hall _ (getD_palette_mem i)

/-! ### One mark -/

/-- The start of a colour in game text is the emote of that number, and no character to pass on. -/
lemma ne_networkColor_of_mem_ofText {text : Text} (h : mark ∈ ofText text) :
    mark ≠ .char networkColor := by
  rintro rfl
  exact absurd (not_isEmote_of_mem_ofText h).1 (by decide)

/-- A mark shows the same with colours and without. -/
lemma strip_toNetwork (mark : GameMark) (emotes : Bool) :
    strip (mark.toNetwork ⟨true, emotes⟩) = strip (mark.toNetwork ⟨false, emotes⟩) := by
  cases mark with
  | newline => rfl
  | color i =>
    obtain ⟨a, b, hpadded, -, -, hread⟩ := takeNumber_padded (getD_palette_lt i)
    rw [toNetwork, toNetwork, if_pos rfl, if_neg (by simp), hpadded, strip_color, takeColor, hread]
    rfl
  | bold =>
    have hbold : strip [networkBold] = [] := by decide +kernel
    rw [toNetwork, toNetwork, if_pos rfl, if_neg (by simp), hbold, strip_nil]
  | reset =>
    have hreset : strip [networkColor, networkReset] = [] := by decide +kernel
    rw [toNetwork, toNetwork, if_pos rfl, if_neg (by simp), hreset, strip_nil]
  | emote c => rfl
  | char c => rfl

lemma networkColor_not_mem_glyphOf? (c : Char) : networkColor ∉ (glyphOf? c).toList := by
  by_cases hc : isEmote c = true
  · obtain ⟨glyph, hglyph, -, -, hne⟩ := exists_glyph hc
    rw [hglyph, Option.toList_some, List.mem_singleton]
    exact hne.symm
  · rw [glyphOf?, if_neg hc, Option.toList_none]
    exact List.not_mem_nil

/-- Where colours do not pass, no mark starts one. -/
lemma networkColor_not_mem_toNetwork (emotes : Bool) (h : mark ≠ .char networkColor) :
    networkColor ∉ mark.toNetwork ⟨false, emotes⟩ := by
  cases mark with
  | newline =>
    rw [toNetwork, List.mem_singleton]
    decide
  | color i => exact List.not_mem_nil
  | bold => exact List.not_mem_nil
  | reset => exact List.not_mem_nil
  | emote c =>
    rw [toNetwork]
    split
    · exact networkColor_not_mem_glyphOf? c
    · exact List.not_mem_nil
  | char c =>
    rw [toNetwork, List.mem_singleton]
    rintro rfl
    exact h rfl

/-- Where colours pass, a mark makes a background with what follows exactly if it is a colour that
goes on there. -/
lemma hasBackground_toNetwork_append (h : mark ≠ .char networkColor) (t : Text) :
    HasBackground (mark.toNetwork ⟨true, emotes⟩ ++ t) ↔
      CutsColor (mark.toNetwork ⟨true, emotes⟩) t ∨ HasBackground t := by
  have hplain : ∀ {s : Text}, networkColor ∉ s →
      (HasBackground (s ++ t) ↔ CutsColor s t ∨ HasBackground t) := by
    intro s hs
    rw [hasBackground_append_of_not_mem hs, or_iff_right fun hcuts => hs hcuts.networkColor_mem]
  have hoff := networkColor_not_mem_toNetwork emotes h
  cases mark with
  | newline => exact hplain hoff
  | color i =>
    have hn := getD_palette_lt i
    obtain ⟨a, b, hpadded, ha, hb, -⟩ := takeNumber_padded hn
    have hnumber : networkColor ∉ Decimal.padded 2 (palette.getD i 0) := by
      rw [hpadded]
      exact networkColor_not_mem (by simp [InColor, ha, hb])
    rw [toNetwork, if_pos rfl, cutsColor_padded_iff hn, List.cons_append, hasBackground_cons,
      hasBackground_append_of_not_mem hnumber]
  | bold =>
    rw [toNetwork, if_pos rfl]
    exact hplain (by decide)
  | reset =>
    have hread : (takeColor ([networkReset] ++ t)).2 = networkReset :: t := rfl
    have hcuts : ¬ CutsColor [networkColor, networkReset] t := by
      rw [cutsColor_start_iff (by decide), hread, List.length_cons]
      omega
    rw [toNetwork, if_pos rfl, or_iff_right hcuts, List.cons_append, List.singleton_append,
      hasBackground_cons, hasBackground_cons, startsBackground_of_not_isDigit (by decide),
      startsBackground_of_ne (by decide)]
    simp
  | emote c => exact hplain hoff
  | char c => exact hplain hoff

/-! ### All marks -/

/-- Marks that have no background show the same with colours and without; others show less with
colours. -/
lemma strip_flatMap_toNetwork (emotes : Bool) (h : ∀ mark ∈ ms, mark ≠ .char networkColor) :
    (¬ HasBackground (ms.flatMap (toNetwork ⟨true, emotes⟩)) →
      strip (ms.flatMap (toNetwork ⟨true, emotes⟩)) =
        strip (ms.flatMap (toNetwork ⟨false, emotes⟩))) ∧
    (HasBackground (ms.flatMap (toNetwork ⟨true, emotes⟩)) →
      Text.inked (strip (ms.flatMap (toNetwork ⟨true, emotes⟩))) <
        Text.inked (strip (ms.flatMap (toNetwork ⟨false, emotes⟩)))) := by
  induction ms with
  | nil =>
    have hnil : ¬ HasBackground [] := by decide
    exact ⟨fun _ => rfl, fun hback => absurd hback hnil⟩
  | cons mark ms ih =>
    rw [List.forall_mem_cons] at h
    obtain ⟨hsame, hless⟩ := ih h.2
    have hplain : ∀ t, strip (mark.toNetwork ⟨false, emotes⟩ ++ t) =
        strip (mark.toNetwork ⟨true, emotes⟩) ++ strip t := by
      intro t
      have hcuts : ¬ CutsColor (mark.toNetwork ⟨false, emotes⟩) t :=
        fun hcuts => networkColor_not_mem_toNetwork emotes h.1 hcuts.networkColor_mem
      rw [strip_append hcuts, strip_toNetwork]
    rw [List.flatMap_cons, List.flatMap_cons, hplain, Text.inked_append,
      hasBackground_toNetwork_append h.1]
    constructor
    · intro hback
      rw [not_or] at hback
      rw [strip_append hback.1, hsame hback.2]
    · -- a colour that goes on behind this mark, or one further on
      intro hback
      by_cases hcuts : CutsColor (mark.toNetwork ⟨true, emotes⟩)
          (ms.flatMap (toNetwork ⟨true, emotes⟩))
      · have hlt := inked_strip_append_lt hcuts
        have hle : Text.inked (strip (ms.flatMap (toNetwork ⟨true, emotes⟩))) ≤
            Text.inked (strip (ms.flatMap (toNetwork ⟨false, emotes⟩))) := by
          by_cases hrest : HasBackground (ms.flatMap (toNetwork ⟨true, emotes⟩))
          · exact (hless hrest).le
          · rw [hsame hrest]
        omega
      · have hlt := hless (hback.resolve_left hcuts)
        rw [strip_append hcuts, Text.inked_append]
        omega

end GameMark

namespace Format

/-- **Switching colours on hides what looks like a background.**  With colours and without, users
of the network see the same text, up to the blanks around it, exactly if no colour that is written
there has a comma and a digit right behind it. -/
theorem trim_strip_toNetwork_iff (emotes : Bool) (text : Text) :
    Text.trim (strip (toNetwork ⟨true, emotes⟩ text)) =
        Text.trim (strip (toNetwork ⟨false, emotes⟩ text)) ↔
      ¬ HasBackground (toNetwork ⟨true, emotes⟩ text) := by
  have hmarks : ∀ mark ∈ GameMark.ofText text, mark ≠ .char networkColor :=
    fun _ => GameMark.ne_networkColor_of_mem_ofText
  obtain ⟨hsame, hless⟩ := GameMark.strip_flatMap_toNetwork emotes hmarks
  rw [toNetwork, toNetwork, trim_strip_trim, trim_strip_trim, hasBackground_trim_iff]
  constructor
  · intro heq h
    have hlt := hless h
    rw [← Text.inked_trim, heq, Text.inked_trim] at hlt
    exact lt_irrefl _ hlt
  · intro h
    rw [hsame h]

/-- A comma and a digit behind a colour are lost as soon as colours pass. -/
theorem strip_toNetwork_comma_digit :
    Text.trim (strip (toNetwork ⟨true, true⟩ "&c,5")) ≠
        Text.trim (strip (toNetwork ⟨false, true⟩ "&c,5")) ∧
      Text.trim (strip (toNetwork ⟨true, false⟩ "&c,5")) ≠
        Text.trim (strip (toNetwork ⟨false, false⟩ "&c,5")) := by
  decide +kernel

end Format
end ChatLink
