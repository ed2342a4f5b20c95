/-
# Codes typed on the network

Users of the network must not be able to make the game break a line, or change the colour where
colours are off.  The conversion removes an ampersand and the letter that makes a code with it,
but looks at neighbours in what it reads, while the game looks at neighbours in what is written.
So a code gets through exactly if its two halves are parted by something of which nothing is
left: `harmless_fromNetwork_iff`.  A code between the halves of a code is such a thing.
-/
import Mathlib
import ChatLink.Proofs.Format.Scan
import ChatLink.Proofs.Text.Trim

namespace ChatLink

/-- The game takes nothing in the text for a line break or, where colours are off, for a
colour. -/
def Harmless (on : Toggles) (t : Text) : Prop :=
  ∀ d, ['&', d] <:+: t → d ≠ 'n' ∧ d ≠ 'N' ∧ (on.colors = false → Format.colorIndex? d = none)

namespace NetworkMark

variable {on : Toggles} {c d h : Char} {m : NetworkMark} {ms : List NetworkMark} {t : Text}

/-- The two halves of a code, parted by marks of which nothing is left. -/
def HasPartedCode (on : Toggles) (ms : List NetworkMark) : Prop :=
  ∃ before gap d after, ms = before ++ .char '&' :: (gap ++ .char d :: after) ∧ gap ≠ [] ∧
    toGame on gap = [] ∧ isGameCode on '&' d = true

lemma not_harmless_iff : ¬ Harmless on t ↔
    ∃ d, isGameCode on '&' d = true ∧ ['&', d] <:+: t := by
  simp only [Harmless, not_forall, isGameCode_iff]
  constructor
  · rintro ⟨d, hpair, hd⟩
    refine ⟨d, ?_, hpair⟩
    by_contra hno
    simp only [not_or, not_and, Bool.not_eq_true, Option.isSome_eq_false_iff,
      Option.isNone_iff_eq_none] at hno
    exact hd hno
  · rintro ⟨d, hd, hpair⟩
    refine ⟨d, hpair, ?_⟩
    rintro ⟨hn, hN, hcolor⟩
    rcases hd with rfl | rfl | ⟨hoff, hsome⟩
    · exact hn rfl
    · exact hN rfl
    · rw [hcolor hoff] at hsome
      cases hsome

/-! ### Where the conversion starts with a letter -/

/-- What is written for a character differs from the plain characters from which that
differs. -/
lemma charToGame_plain (on : Toggles) (c : Char) :
    charToGame on c = [] ∧ Format.isPlain c = false ∨
      ∃ x, charToGame on c = [x] ∧ ∀ d, Format.isPlain d = true → (x = d ↔ c = d) := by
  rcases charToGame_cases on c with hnone | ⟨hw, -⟩ | ⟨e, hw, he, -, hplain⟩
  · exact Or.inl hnone
  · exact Or.inr ⟨c, hw, fun _ _ => Iff.rfl⟩
  · refine Or.inr ⟨e, hw, fun d hd => iff_of_false ?_ ?_⟩
    · rintro rfl
      revert hd he
      simp only [Format.isPlain, Format.isEmote, Bool.and_eq_true, Bool.or_eq_true, beq_iff_eq,
        decide_eq_true_eq, bne_iff_ne]
      rintro ⟨-, ⟨-, hle⟩ | rfl⟩ ⟨hge, hle'⟩
      · exact absurd (hge.trans hle) (by decide)
      · exact absurd hle' (by decide)
    · rintro rfl
      rw [hd] at hplain
      cases hplain

lemma Alone.of_append {gap after : List NetworkMark} (halone : Alone on c (gap ++ after)) :
    Alone on c gap := by
  intro e he
  refine halone e ?_
  rw [List.head?_append, he]
  rfl

/-- The character stands in the marks, and nothing is left of what stands before it. -/
def Surfaces (on : Toggles) (d : Char) (ms : List NetworkMark) : Prop :=
  ∃ gap after, ms = gap ++ .char d :: after ∧ toGame on gap = []

lemma surfaces_color (n : Option Nat) : Surfaces on d (.color n :: ms) ↔
    (if on.colors then colorToGame n else []) = [] ∧ Surfaces on d ms := by
  constructor
  · rintro ⟨_ | ⟨m, gap⟩, after, hms, hgap⟩
    · cases hms
    · obtain ⟨rfl, rfl⟩ := List.cons.inj hms
      rw [toGame_color, List.append_eq_nil_iff] at hgap
      exact ⟨hgap.1, gap, after, rfl, hgap.2⟩
  · rintro ⟨hw, gap, after, rfl, hgap⟩
    exact ⟨.color n :: gap, after, rfl, by rw [toGame_color, hw, hgap]; rfl⟩

/-- A plain character is not removed alone, so nothing surfaces right behind it. -/
lemma Surfaces.of_pair (hc : Format.isPlain c = true) (hne : c ≠ d)
    (hs : Surfaces on d (.char c :: .char h :: ms)) :
    ∃ gap after, ms = gap ++ .char d :: after ∧ toGame on (.char c :: .char h :: gap) = [] := by
  obtain ⟨_ | ⟨m, _ | ⟨m', gap⟩⟩, after, hms, hgap⟩ := hs
  · cases hms
    exact absurd rfl hne
  · cases hms
    rw [toGame, charToGame, if_pos hc] at hgap
    cases hgap
  · cases hms
    exact ⟨gap, after, rfl, hgap⟩

lemma not_surfaces_typed (ht : isTypedColor on '%' h = true) (hd : d ≠ '%') :
    ¬ Surfaces on d (.char '%' :: .char h :: ms) := by
  intro hs
  obtain ⟨gap, after, -, hgap⟩ := hs.of_pair (by decide) hd.symm
  rw [toGame_typed ht] at hgap
  cases hgap

lemma surfaces_code (hc : isGameCode on '&' h = true) (hd : d ≠ '&') :
    Surfaces on d (.char '&' :: .char h :: ms) ↔ Surfaces on d ms := by
  constructor
  · intro hs
    obtain ⟨gap, after, hms, hgap⟩ := hs.of_pair (by decide) hd.symm
    rw [toGame_code hc] at hgap
    exact ⟨gap, after, hms, hgap⟩
  · rintro ⟨gap, after, rfl, hgap⟩
    exact ⟨.char '&' :: .char h :: gap, after, rfl, by rw [toGame_code hc, hgap]⟩

lemma surfaces_alone (halone : Alone on c ms) : Surfaces on d (.char c :: ms) ↔
    c = d ∨ charToGame on c = [] ∧ Surfaces on d ms := by
  constructor
  · rintro ⟨_ | ⟨m, gap⟩, after, hms, hgap⟩
    · cases hms
      exact Or.inl rfl
    · obtain ⟨rfl, rfl⟩ := List.cons.inj hms
      rw [toGame_alone halone.of_append, List.append_eq_nil_iff] at hgap
      exact Or.inr ⟨hgap.1, gap, after, rfl, hgap.2⟩
  · rintro (rfl | ⟨hw, gap, after, rfl, hgap⟩)
    · exact ⟨[], ms, rfl, by rw [toGame]⟩
    · refine ⟨.char c :: gap, after, rfl, ?_⟩
      rw [toGame_alone halone.of_append, hw, hgap]
      rfl

/-- The conversion starts with the letter of a code exactly if that letter surfaces. -/
lemma head?_toGame_iff (hd : isGameCode on '&' d = true) :
    (toGame on ms).head? = some d ↔ Surfaces on d ms := by
  obtain ⟨hplain, hamp, hpercent, -⟩ := letter_of_isGameCode hd
  induction ms using marks_induction on with
  | nil => simp [toGame, Surfaces]
  | color n ms ih =>
    rw [toGame_color, surfaces_color, ← ih]
    -- what is written for a colour starts with an ampersand
    have hw : (if on.colors then colorToGame n else []) = [] ∨
        ∃ h, (if on.colors then colorToGame n else []) = ['&', h] := by
      split
      · rcases colorToGame_cases n with hw | ⟨h, hw, -⟩
        · exact Or.inl hw
        · exact Or.inr ⟨h, hw⟩
      · exact Or.inl rfl
    rcases hw with hw | ⟨h, hw⟩
    · simp [hw]
    · simp [hw, hamp.symm]
  | typed e ms he ih =>
    rw [toGame_typed he]
    exact iff_of_false (fun hhead => hamp (Option.some.inj hhead).symm)
      (not_surfaces_typed he hpercent)
  | code e ms he ih =>
    rw [toGame_code he, surfaces_code he hamp]
    exact ih
  | single c ms halone ih =>
    rw [toGame_alone halone, surfaces_alone halone, ← ih]
    rcases charToGame_plain on c with ⟨hw, hnot⟩ | ⟨x, hw, hx⟩
    · have hne : c ≠ d := by
        rintro rfl
        rw [hplain] at hnot
        cases hnot
      simp [hw, hne]
    · simp [hw, hx d hplain]

/-! ### Where a code gets through -/

lemma hasPartedCode_cons_of_ne (hm : m ≠ .char '&') :
    HasPartedCode on (m :: ms) ↔ HasPartedCode on ms := by
  constructor
  · rintro ⟨_ | ⟨m', before⟩, gap, d, after, hms, h⟩
    · cases hms
      exact absurd rfl hm
    · exact ⟨before, gap, d, after, (List.cons.inj hms).2, h⟩
  · rintro ⟨before, gap, d, after, rfl, h⟩
    exact ⟨m :: before, gap, d, after, rfl, h⟩

lemma hasPartedCode_cons_ampersand : HasPartedCode on (.char '&' :: ms) ↔
    (∃ gap d after, ms = gap ++ .char d :: after ∧ gap ≠ [] ∧ toGame on gap = [] ∧
      isGameCode on '&' d = true) ∨ HasPartedCode on ms := by
  constructor
  · rintro ⟨_ | ⟨m', before⟩, gap, d, after, hms, h⟩
    · exact Or.inl ⟨gap, d, after, (List.cons.inj hms).2, h⟩
    · exact Or.inr ⟨before, gap, d, after, (List.cons.inj hms).2, h⟩
  · rintro (⟨gap, d, after, rfl, h⟩ | ⟨before, gap, d, after, rfl, h⟩)
    · exact ⟨[], gap, d, after, rfl, h⟩
    · exact ⟨.char '&' :: before, gap, d, after, rfl, h⟩

/-- After a code, and so after its letter, no code is parted that was not before. -/
lemma hasPartedCode_code (hd : isGameCode on '&' d = true) :
    HasPartedCode on (.char '&' :: .char d :: ms) ↔ HasPartedCode on ms := by
  obtain ⟨hplain, hamp, hpercent, -⟩ := letter_of_isGameCode hd
  rw [hasPartedCode_cons_ampersand, hasPartedCode_cons_of_ne (by simpa using hamp)]
  constructor
  · rintro (⟨_ | ⟨m, gap⟩, e, after, hms, hne, hgap, -⟩ | h)
    · exact absurd rfl hne
    · exfalso
      obtain ⟨rfl, -⟩ := List.cons.inj hms
      rw [toGame_alone (alone_of_ne hpercent hamp), charToGame, if_pos hplain] at hgap
      cases hgap
    · exact h
  · exact Or.inr

/-- A colour is no half of a code. -/
lemma pair_infix_color (hd : isGameCode on '&' d = true) (hon : on.colors = true)
    (hh : (Hexadecimal.digit? h).isSome = true) :
    ['&', d] <:+: '&' :: h :: t ↔ ['&', d] <:+: t := by
  have hne : h ≠ d := by
    rintro rfl
    rcases isGameCode_iff.1 hd with rfl | rfl | ⟨hoff, -⟩
    · cases hh
    · cases hh
    · rw [hon] at hoff
      cases hoff
  have hamp : '&' ≠ h := by
    rintro rfl
    cases hh
  rw [Text.pair_infix_cons_iff, Text.pair_infix_cons_iff]
  simp [hne, hamp]

lemma exists_pair_toGame_iff (ms : List NetworkMark) :
    (∃ d, isGameCode on '&' d = true ∧ ['&', d] <:+: toGame on ms) ↔ HasPartedCode on ms := by
  -- what a step writes before the rest may only matter if it is an ampersand
  have hskip : ∀ {s t : Text}, (∀ d, isGameCode on '&' d = true →
      (['&', d] <:+: s ↔ ['&', d] <:+: t)) →
      ((∃ d, isGameCode on '&' d = true ∧ ['&', d] <:+: s) ↔
        ∃ d, isGameCode on '&' d = true ∧ ['&', d] <:+: t) := by
    intro s t hst
    exact exists_congr fun d => and_congr_right fun hd => hst d hd
  induction ms using marks_induction on with
  | nil =>
    rw [toGame]
    refine iff_of_false ?_ ?_
    · rintro ⟨d, -, hpair⟩
      simp at hpair
    · rintro ⟨before, gap, d, after, hms, -⟩
      simp at hms
  | color n ms ih =>
    rw [hasPartedCode_cons_of_ne (by simp), toGame_color]
    refine (hskip fun d hd => ?_).trans ih
    split
    · next hon =>
      rcases colorToGame_cases n with hw | ⟨h, hw, hh⟩
      · rw [hw, List.nil_append]
      · rw [hw]
        exact pair_infix_color hd hon hh
    · rfl
  | typed e ms he ih =>
    obtain ⟨-, hon, hdigit⟩ := eq_percent_of_isTypedColor he
    have hamp : e ≠ '&' := by
      rintro rfl
      cases hdigit
    rw [hasPartedCode_cons_of_ne (by simp), hasPartedCode_cons_of_ne (by simpa using hamp),
      toGame_typed he]
    refine (hskip fun d hd => ?_).trans ih
    exact pair_infix_color hd hon (isSome_digit?_toLower hdigit)
  | code e ms he ih =>
    rw [hasPartedCode_code he, toGame_code he]
    exact ih
  | single c ms halone ih =>
    rw [toGame_alone halone]
    by_cases hc : c = '&'
    · subst hc
      rw [hasPartedCode_cons_ampersand]
      have hw : charToGame on '&' = ['&'] := by simp [charToGame, Format.isPlain]
      rw [hw]
      simp only [List.cons_append, List.nil_append, Text.pair_infix_cons_iff, true_and, and_or_left,
        exists_or]
      refine or_congr ?_ ih
      constructor
      · rintro ⟨d, hd, hhead⟩
        obtain ⟨gap, after, hms, hgap⟩ := (head?_toGame_iff hd).1 hhead
        refine ⟨gap, d, after, hms, ?_, hgap, hd⟩
        rintro rfl
        rw [(halone d (by rw [hms]; rfl)).2] at hd
        cases hd
      · rintro ⟨gap, d, after, hms, -, hgap, hd⟩
        exact ⟨d, hd, (head?_toGame_iff hd).2 ⟨gap, after, hms, hgap⟩⟩
    · rw [hasPartedCode_cons_of_ne (by simpa using hc)]
      refine (hskip fun d hd => ?_).trans ih
      rcases charToGame_plain on c with ⟨hw, -⟩ | ⟨x, hw, hx⟩
      · rw [hw, List.nil_append]
      · have hxamp : '&' ≠ x := fun h => hc ((hx '&' (by decide)).1 h.symm)
        rw [hw, List.cons_append, List.nil_append, Text.pair_infix_cons_iff]
        simp [hxamp]

end NetworkMark

/-- **What users of the network cannot inject.**  The game finds no code of its own in what the
conversion makes of a text exactly if the text has none whose two halves are parted by marks of
which nothing is left. -/
theorem harmless_fromNetwork_iff (on : Toggles) (text : Text) :
    Harmless on (Format.fromNetwork on text) ↔
      ¬ NetworkMark.HasPartedCode on (NetworkMark.ofText text) := by
  have htrim : ¬ Harmless on (Format.fromNetwork on text) ↔
      ∃ d, NetworkMark.isGameCode on '&' d = true ∧
        ['&', d] <:+: NetworkMark.toGame on (NetworkMark.ofText text) := by
    rw [NetworkMark.not_harmless_iff, Format.fromNetwork_eq]
    refine exists_congr fun d => and_congr_right fun hd => ?_
    obtain ⟨-, -, -, hblank⟩ := NetworkMark.letter_of_isGameCode hd
    exact Text.pair_infix_trim_iff (by decide) hblank
  rw [← NetworkMark.exists_pair_toGame_iff, ← htrim, not_not]

/-- A code between the halves of a code: the inner one is removed and the outer one is left. -/
theorem not_harmless_fromNetwork_nested :
    ¬ Harmless ⟨true, true⟩ (Format.fromNetwork ⟨true, true⟩ "&&nn") ∧
      ¬ Harmless ⟨false, false⟩ (Format.fromNetwork ⟨false, false⟩ "&&cc") := by
  have hbreak : Format.fromNetwork ⟨true, true⟩ "&&nn" = ['&', 'n'] := by
    decide +kernel
  have hcolor : Format.fromNetwork ⟨false, false⟩ "&&cc" = ['&', 'c'] := by
    decide +kernel
  rw [hbreak, hcolor]
  constructor
  · intro h
    exact (h 'n' List.infix_rfl).1 rfl
  · intro h
    exact absurd ((h 'c' List.infix_rfl).2.2 rfl) (by decide)

end ChatLink
