/-
# From network text to game text

Both the conversion to game text and the removal of all formatting go over the characters once,
looking ahead by one or two.  Each reads colours for itself: a colour is its start with a number of
up to two digits and, behind such a number, a comma and one more number.
-/
import ChatLink.Format.Toggles
import ChatLink.Text.Blank

namespace ChatLink.Format

/-- The number that up to so many digits in front write, going on from one that may have been begun,
and what follows them. -/
def takeDigits : Nat → Option Nat → Text → Option Nat × Text
  | 0, value, chars => (value, chars)
  | _ + 1, value, [] => (value, [])
  | rounds + 1, value, c :: chars =>
    match Decimal.digit? c with
    | some d => takeDigits rounds (some (value.getD 0 * 10 + d)) chars
    | none => (value, c :: chars)

theorem length_takeDigits_le (rounds : Nat) (value : Option Nat) (chars : Text) :
    (takeDigits rounds value chars).2.length ≤ chars.length := by
  fun_induction takeDigits rounds value chars with
  | case1 => exact Nat.le_refl _
  | case2 => exact Nat.le_refl _
  | case3 rounds value c chars d hd ih => exact Nat.le_succ_of_le ih
  | case4 => exact Nat.le_refl _

/-! ### To the game -/

/-- The game's code for a number of the palette. -/
def gameColor? (number : Nat) : Option Text :=
  (palette.findIdx? (· == number)).map Hexadecimal.digits

/-- How the conversion reads a colour: its number, and what follows it.  The number of a background
is read and not used. -/
def readColor (chars : Text) : Option Nat × Text :=
  let (foreground, chars) := takeDigits 2 none chars
  if foreground.isSome ∧ chars.head? = some ',' then
    let lookahead := chars.tail
    if lookahead.head?.any Char.isDigit then (foreground, (takeDigits 2 none lookahead).2)
    else (foreground, chars)
  else (foreground, chars)

theorem length_readColor_le (chars : Text) : (readColor chars).2.length ≤ chars.length := by
  have hnumber := length_takeDigits_le 2 none chars
  rw [readColor]
  split
  next foreground rest heq =>
  rw [heq] at hnumber
  have hbackground := length_takeDigits_le 2 none rest.tail
  rw [List.length_tail] at hbackground
  dsimp only at hnumber ⊢
  split
  · split <;> (dsimp only; omega)
  · exact hnumber

/-- Game text with whatever blanks are at its ends. -/
def translate (on : Toggles) : Text → Text
  | [] => []
  | c :: chars =>
    if c = networkColor then
      let shown := (readColor chars).1.filter fun _ => on.colors
      match shown.bind gameColor? with
      | some code => '&' :: code ++ translate on (readColor chars).2
      | none => translate on (readColor chars).2
    -- users write a colour as a percent sign and a digit
    else if c = '%' ∧ on.colors ∧ chars.head?.any fun d => (Hexadecimal.digit? d).isSome then
      match chars with
      | code :: chars => '&' :: code.toLower :: translate on chars
      | [] => []
    -- what the game would take for a line break or, where colours are off, for a colour
    else if c = '&' ∧ chars.head?.any fun d =>
        d == 'n' || d == 'N' || (!on.colors && (colorIndex? d).isSome) then
      translate on chars.tail
    else if isPlain c then c :: translate on chars
    else if on.emotes then (emoteOf? c).toList ++ translate on chars
    else translate on chars
termination_by chars => chars.length
decreasing_by
  all_goals
    have hcolor := length_readColor_le chars
    simp only [List.length_cons, List.length_tail]
    omega

/-- Network text as game text. -/
def fromNetwork (on : Toggles) (text : Text) : Text := Text.trim (translate on text)

/-! ### To a log -/

/-- How the removal of formatting passes over a colour: what follows it. -/
def skipColor (chars : Text) : Text :=
  let (number, chars) := takeDigits 2 none chars
  if number.isSome ∧ chars.head? = some ',' then
    let lookahead := chars.tail
    if lookahead.head?.any Char.isDigit then (takeDigits 2 none lookahead).2
    else chars
  else chars

theorem length_skipColor_le (chars : Text) : (skipColor chars).length ≤ chars.length := by
  have hnumber := length_takeDigits_le 2 none chars
  rw [skipColor]
  split
  next number rest heq =>
  rw [heq] at hnumber
  have hbackground := length_takeDigits_le 2 none rest.tail
  rw [List.length_tail] at hbackground
  dsimp only at hnumber ⊢
  split
  · split
    · omega
    · exact hnumber
  · exact hnumber

/-- Network text without formatting: printable ASCII and the glyphs of emotes. -/
def strip : Text → Text
  | [] => []
  | c :: chars =>
    if c = networkColor then strip (skipColor chars)
    else if isPlain c then c :: strip chars
    else if (emoteOf? c).isSome then c :: strip chars
    else strip chars
termination_by chars => chars.length
decreasing_by
  all_goals
    have hcolor := length_skipColor_le chars
    simp only [List.length_cons]
    omega

end ChatLink.Format
