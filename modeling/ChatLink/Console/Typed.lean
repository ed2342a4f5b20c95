/-
# Typed lines

What a line typed at the console asks for.
-/
import ChatLink.Text.Blank

namespace ChatLink

/-- What a typed line asks for. -/
inductive Typed where
  /-- To say something. -/
  | message (text : Text)
  /-- To do something. -/
  | action (text : Text)
  /-- To leave, for a reason that may be empty. -/
  | quit (reason : Text)
  /-- Nothing. -/
  | empty
deriving DecidableEq, Repr

namespace Typed

/-- Reads a typed line.  A command ends at the first space. -/
def ofLine (line : Text) : Typed :=
  let line := Text.trim line
  if line = [] then .empty
  else
    match Text.cut? ' ' line with
    | some (command, rest) =>
      if command = "/me" then .action (Text.trim rest)
      else if command = "/quit" then .quit (Text.trim rest)
      else .message line
    | none =>
      if line = "/me" then .empty
      else if line = "/quit" then .quit []
      else .message line

end Typed
end ChatLink
