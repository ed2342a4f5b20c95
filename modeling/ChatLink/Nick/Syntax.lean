/-
# The form of a nick

What the network takes for a nick: a letter or one of a few special characters, then letters,
digits and special characters.
-/
import ChatLink.Text.Basic

namespace ChatLink.Nick

/-- The characters besides letters and digits that a nick may hold. -/
def specials : List Char := ['_', '-', '[', ']', '\\', '^', '\x7b', '\x7d', '|', '\x60']

/-- A character that may start a nick. -/
def isStart (c : Char) : Bool := c.isAlpha || specials.contains c

/-- A character that may stand further on in a nick. -/
def isPart (c : Char) : Bool := isStart c || c.isDigit

/-- A text that the network takes for a nick. -/
def isValid : Text → Bool
  | [] => false
  | c :: t => isStart c && t.all isPart

end ChatLink.Nick
