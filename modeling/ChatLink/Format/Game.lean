/-
# From game text to network text

Game text is read into marks: characters, colours, emotes, line breaks and the two marks of
bold and reset.  Each mark has its own network text, which may be empty.  The result keeps line
breaks, since these separate messages.
-/
import ChatLink.Format.Toggles
import ChatLink.Text.Blank

namespace ChatLink

/-- One mark of game text. -/
inductive GameMark where
  /-- A line break: a line feed, or an ampersand and an n. -/
  | newline
  /-- One of the sixteen colours. -/
  | color (index : Nat)
  | bold
  | reset
  /-- A control character that the game draws. -/
  | emote (c : Char)
  /-- A character that passes as it is. -/
  | char (c : Char)
deriving DecidableEq, Repr

namespace GameMark

/-- The mark of a character that stands by itself; a NUL makes none. -/
def ofChar? (c : Char) : Option GameMark :=
  if c = Format.boldMark then some .bold
  else if c = Format.resetMark then some .reset
  else if c = '\n' then some .newline
  else if Format.isEmote c then some (.emote c)
  else if c = '\x00' then none
  else some (.char c)

/-- The mark that an ampersand and the character after it make together. -/
def ofCode? (c : Char) : Option GameMark :=
  if c = 'n' ∨ c = 'N' then some .newline
  else (Format.colorIndex? c).map .color

/-- The marks of game text. -/
def ofText : Text → List GameMark
  | [] => []
  | ['&'] => [.char '&']
  | '&' :: c :: t =>
    match ofCode? c with
    | some mark => mark :: ofText t
    | none => .char '&' :: ofText (c :: t)
  | c :: t => (ofChar? c).toList ++ ofText t

/-- The network text of a mark. -/
def toNetwork (on : Toggles) : GameMark → Text
  | newline => ['\n']
  | color i =>
    if on.colors then Format.networkColor :: Decimal.padded 2 (Format.palette.getD i 0) else []
  | bold => if on.colors then [Format.networkBold] else []
  | reset => if on.colors then [Format.networkColor, Format.networkReset] else []
  | emote c => if on.emotes then (Format.glyphOf? c).toList else []
  | char c => [c]

end GameMark

namespace Format

/-- Game text as network text. -/
def toNetwork (on : Toggles) (text : Text) : Text :=
  Text.trim ((GameMark.ofText text).flatMap (GameMark.toNetwork on))

end Format
end ChatLink
