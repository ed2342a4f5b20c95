/-
# Network text as marks

What network text means can be said in two steps.  It is read into marks first: characters and
colours, the latter with all the digits that belong to them (`NetworkMark.ofText`).  The game text
and the text without formatting are written from these marks.  The loops that convert a text and that
remove its formatting each look for colours themselves; here both are shown to take for a colour what
is read as one mark (`readColor_eq`, `skipColor_eq`), and the removal to leave what the marks leave
(`strip_eq`).  That the conversion writes what the marks mean is `fromNetwork_eq`, which needs more of
the marks' meaning.
-/
import Mathlib
import ChatLink.Format.Network

namespace ChatLink

/-- One mark of network text. -/
inductive NetworkMark where
  /-- A change of colour; one without a number ends all colours. -/
  | color (foreground : Option Nat)
  /-- Any other character. -/
  | char (c : Char)
deriving DecidableEq, Repr

namespace NetworkMark

variable {c : Char}

/-! ### Reading -/

/-- The number that the first two characters write, or the first alone, and what follows. -/
def takeNumber : Text → Option Nat × Text
  | [] => (none, [])
  | c :: t =>
    match Decimal.digit? c, t with
    | none, _ => (none, c :: t)
    | some n, [] => (some n, [])
    | some n, d :: u =>
      match Decimal.digit? d with
      | some m => (some (n * 10 + m), u)
      | none => (some n, d :: u)

/-- A background: a comma and a number. -/
def dropBackground : Text → Text
  | ',' :: c :: t => if c.isDigit then (takeNumber (c :: t)).2 else ',' :: c :: t
  | t => t

/-- The foreground that follows the start of a colour, and what follows the whole colour.  There
is a background only after a foreground. -/
def takeColor (t : Text) : Option Nat × Text :=
  match takeNumber t with
  | (none, rest) => (none, rest)
  | (some n, rest) => (some n, dropBackground rest)

lemma length_takeNumber_le (t : Text) : (takeNumber t).2.length ≤ t.length := by
  fun_cases takeNumber t <;> (simp; try omega)

lemma length_dropBackground_le (t : Text) : (dropBackground t).length ≤ t.length := by
  fun_cases dropBackground t with
  | case1 c u h =>
    have := length_takeNumber_le (c :: u)
    simp only [List.length_cons] at this ⊢
    omega
  | case2 => simp
  | case3 => simp

lemma length_takeColor_le (t : Text) : (takeColor t).2.length ≤ t.length := by
  have h := length_takeNumber_le t
  unfold takeColor
  split
  · next _ rest heq => rw [heq] at h; exact h
  · next n rest heq =>
    rw [heq] at h
    exact Nat.le_trans (length_dropBackground_le rest) h

/-- The marks of network text. -/
def ofText : Text → List NetworkMark
  | [] => []
  | c :: t =>
    if c = Format.networkColor then
      .color (takeColor t).1 :: ofText (takeColor t).2
    else
      .char c :: ofText t
termination_by t => t.length
decreasing_by
  · have := length_takeColor_le t
    simp only [List.length_cons]
    omega
  · simp

lemma ofText_cons (h : c ≠ Format.networkColor) (t : Text) :
    ofText (c :: t) = .char c :: ofText t := by
  rw [ofText, if_neg h]

lemma ofText_start (t : Text) : ofText (Format.networkColor :: t) =
    .color (takeColor t).1 :: ofText (takeColor t).2 := by
  rw [ofText, if_pos rfl]

/-! ### Writing -/

/-- The game text of a colour: the network's number has to be one of the palette's. -/
def colorToGame : Option Nat → Text
  | none => []
  | some n =>
    match Format.palette.findIdx? (· == n) with
    | some i => '&' :: Hexadecimal.digits i
    | none => []

/-- The game text of a character that stands by itself. -/
def charToGame (on : Toggles) (c : Char) : Text :=
  if Format.isPlain c then [c]
  else if on.emotes then (Format.emoteOf? c).toList
  else []

/-- A percent sign and a hexadecimal digit, which users write for a colour. -/
def isTypedColor (on : Toggles) (c d : Char) : Bool :=
  c == '%' && on.colors && (Hexadecimal.digit? d).isSome

/-- An ampersand and a character that the game would take for a line break or, where colours
are off, for a colour. -/
def isGameCode (on : Toggles) (c d : Char) : Bool :=
  c == '&' && (d == 'n' || d == 'N' || (!on.colors && (Format.colorIndex? d).isSome))

/-- The game text of marks. -/
def toGame (on : Toggles) : List NetworkMark → Text
  | [] => []
  | .color n :: ms => (if on.colors then colorToGame n else []) ++ toGame on ms
  | [.char c] => charToGame on c
  | .char c :: .char d :: ms =>
    if isTypedColor on c d then '&' :: d.toLower :: toGame on ms
    else if isGameCode on c d then toGame on ms
    else charToGame on c ++ toGame on (.char d :: ms)
  | .char c :: .color n :: ms => charToGame on c ++ toGame on (.color n :: ms)

/-- What a mark leaves when all formatting is removed. -/
def stripped : NetworkMark → Text
  | color _ => []
  | char c => if Format.isPlain c || (Format.emoteOf? c).isSome then [c] else []

end NetworkMark

/-! ### How the loops read colours -/

namespace Format

open NetworkMark

lemma takeDigits_eq (chars : Text) : takeDigits 2 none chars = takeNumber chars := by
  fun_cases takeNumber chars with
  | case1 => rfl
  | case2 c t hc => simp [takeDigits, hc]
  | case3 c n hc => simp [takeDigits, hc]
  | case4 c n d u hc m hd => simp [takeDigits, hc, hd]
  | case5 c n d u hc hd => simp [takeDigits, hc, hd]

/-- There is a background to drop only where a comma and a digit stand. -/
lemma dropBackground_eq_ite (chars : Text) : dropBackground chars =
    if chars.head? = some ',' then
      if chars.tail.head?.any Char.isDigit then (takeNumber chars.tail).2 else chars
    else chars := by
  fun_cases dropBackground chars with
  | case1 c u hc => simp [hc]
  | case2 c u hc => simp [hc]
  | case3 chars hother =>
    split
    · next hcomma =>
      obtain ⟨t, rfl⟩ := List.head?_eq_some_iff.1 hcomma
      rcases t with _ | ⟨c, u⟩
      · rfl
      · exact absurd rfl (hother c u)
    · rfl

/-- The conversion takes for a colour what is read as one mark. -/
theorem readColor_eq (chars : Text) : readColor chars = takeColor chars := by
  rw [readColor, takeColor, takeDigits_eq]
  rcases takeNumber chars with ⟨_ | n, rest⟩
  · rfl
  · dsimp only
    rw [dropBackground_eq_ite, takeDigits_eq]
    simp only [Option.isSome_some, true_and]
    split
    · split <;> rfl
    · rfl

/-- And so does the removal of formatting. -/
theorem skipColor_eq (chars : Text) : skipColor chars = (takeColor chars).2 := by
  rw [skipColor, takeColor, takeDigits_eq]
  rcases takeNumber chars with ⟨_ | n, rest⟩
  · rfl
  · dsimp only
    rw [dropBackground_eq_ite, takeDigits_eq]
    simp only [Option.isSome_some, true_and]

/-- **The removal of formatting by marks.** -/
theorem strip_eq (text : Text) : strip text = (ofText text).flatMap stripped := by
  induction text using ofText.induct with
  | case1 => rw [strip, ofText, List.flatMap_nil]
  | case2 t ih => rw [strip, if_pos rfl, skipColor_eq, ih, ofText_start, List.flatMap_cons]; rfl
  | case3 c t hc ih =>
    rw [strip, if_neg hc, ofText_cons hc, List.flatMap_cons, ← ih, stripped]
    by_cases hplain : isPlain c = true
    · simp [hplain]
    · by_cases hemote : (emoteOf? c).isSome = true
      · simp [hplain, hemote]
      · simp [hplain, hemote]

end Format
end ChatLink
