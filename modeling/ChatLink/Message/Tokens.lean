/-
# The tokens of a line

A line of the chat network is an optional sender, a command, parameters and an optional
trailing text that may hold spaces.  `Tokens.ofText?` reads them; it knows nothing of commands.
-/
import ChatLink.Text.Basic

namespace ChatLink

/-- The tokens of one line. -/
structure Tokens where
  /-- Who sent the line, if it says so. -/
  sender : Option Text
  /-- The command, or a numeric reply code. -/
  command : Text
  /-- The parameters between the command and the trailing text. -/
  params : List Text
  /-- The text after the first colon that follows a space. -/
  trailing : Option Text
deriving DecidableEq, Repr

namespace Tokens

/-- A text cut at the first space that a colon follows; the second part starts after the
colon. -/
def cutTrailing : Text → Text × Option Text
  | [] => ([], none)
  | ' ' :: ':' :: t => ([], some t)
  | c :: t =>
    let (head, trailing) := cutTrailing t
    (c :: head, trailing)

/-- The words between spaces, leaving out the empty ones. -/
def words (t : Text) : List Text := (Text.splitOn ' ' t).filter (· ≠ [])

/-- The sender that starts a line with a colon, and what follows the space after it. -/
def cutSender? : Text → Option (Option Text × Text)
  | ':' :: t =>
    match Text.cut? ' ' t with
    | some (sender, rest) => some (some sender, rest)
    | none => none
  | t => some (none, t)

/-- The tokens of a line; a line without a command has none. -/
def ofText? (line : Text) : Option Tokens :=
  match cutSender? line with
  | none => none
  | some (sender, rest) =>
    let (head, trailing) := cutTrailing rest
    match words head with
    | [] => none
    | command :: params => some ⟨sender, command, params, trailing⟩

/-- The first parameter: a channel or a nick in most commands. -/
def target? (t : Tokens) : Option Text := t.params.head?

/-- How many arguments the command has; a trailing text is one. -/
def argCount (t : Tokens) : Nat := t.params.length + t.trailing.toList.length

/-- A line with a sender whose command is `name`, in any case. -/
def isCommand (t : Tokens) (name : Text) : Bool :=
  t.sender.isSome && Text.sameName t.command name

end Tokens
end ChatLink
