/-
# Colours and emotes

The game writes a colour as an ampersand and a letter and an emote as a control character; the
chat network writes a colour as a number of two digits after a control character and has a
glyph for each emote.  Either kind of formatting can be switched off for either direction.
-/
import ChatLink.Text.Number

namespace ChatLink

/-- Which formatting passes in one direction; the rest is removed. -/
structure Toggles where
  colors : Bool
  emotes : Bool
deriving DecidableEq, Repr

namespace Format

/-- The game's mark for bold text. -/
def boldMark : Char := '\u212c'

/-- The game's mark for the end of all formatting. -/
def resetMark : Char := '\u211c'

/-- The network's mark for bold text. -/
def networkBold : Char := '\x02'

/-- What starts a colour on the network. -/
def networkColor : Char := '\x03'

/-- The network's mark for the end of all formatting. -/
def networkReset : Char := '\x0f'

/-- The network's number for each of the game's sixteen colours. -/
def palette : List Nat := [1, 2, 3, 10, 5, 6, 7, 15, 14, 12, 9, 11, 4, 13, 8, 0]

/-- The letters that stand for a colour of the game by its use, in lower case, with the
hexadecimal digit of that colour. -/
def colorAliases : List (Char × Char) := [
  ('s', 'e'), ('y', 'e'), ('p', 'f'), ('r', 'f'), ('h', 'a'), ('w', 'c'), ('m', 'd'), ('i', '5')]

/-- The number of the game's colour that a letter after an ampersand means. -/
def colorIndex? (c : Char) : Option Nat :=
  let lower := c.toLower
  Hexadecimal.digit? ((colorAliases.lookup lower).getD lower)

/-- The glyphs of the emotes `1` to `31` and, at the end, of the emote `127`. -/
def glyphs : List Char := [
  '☺', '☻', '♥', '♦', '♣', '♠', '•', '◘', '○', '◙', '♂', '♀', '♪', '♫', '☼', '►',
  '◄', '↕', '‼', '¶', '§', '▬', '↨', '↑', '↓', '→', '←', '∟', '↔', '▲', '▼', '⌂']

/-- A character that the game draws as an emote.  A line feed is none. -/
def isEmote (c : Char) : Bool :=
  c != '\n' && (('\x01' ≤ c && c ≤ '\x1f') || c == '\x7f')

/-- The glyph of an emote. -/
def glyphOf? (c : Char) : Option Char :=
  if isEmote c then
    if c = '\x7f' then glyphs[31]? else glyphs[c.toNat - 1]?
  else none

/-- The emote that a glyph stands for. -/
def emoteOf? (glyph : Char) : Option Char :=
  match glyphs.findIdx? (· == glyph) with
  | none => none
  | some i =>
    let emote := if i = 31 then '\x7f' else Char.ofNat (i + 1)
    if emote = '\n' then none else some emote

/-- A character of printable ASCII. -/
def isPlain (c : Char) : Bool := ' ' ≤ c && c ≤ '~'

end Format
end ChatLink
