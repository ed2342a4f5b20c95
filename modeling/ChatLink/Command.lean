/-
# Commands

The few commands that the bridge sends, as lines without their ends.
-/
import ChatLink.Message.Rule
import ChatLink.Text.Number

namespace ChatLink.Command

/-- Asks for a nick. -/
def nick (name : Text) : Text := "NICK " ++ name

/-- Registers a user; the mode is a sum of flags, of which 8 makes the user invisible. -/
def user (name : Text) (mode : Nat) (realName : Text) : Text :=
  "USER " ++ name ++ ' ' :: Decimal.digits mode ++ " * :" ++ realName

/-- Enters a channel. -/
def join (channel : Text) : Text := "JOIN " ++ channel

/-- Sends a text to a channel or a user. -/
def message (target text : Text) : Text :=
  "PRIVMSG " ++ target ++ " :" ++ text

/-- Answers a server that asks whether the connection is alive. -/
def pong (token : Text) : Text := "PONG :" ++ token

/-- Asks for the user and host under which others see a nick. -/
def userHost (name : Text) : Text := "USERHOST " ++ name

/-- Leaves the network. -/
def quit (reason : Text) : Text := "QUIT :" ++ reason

/-- A line that leaves the network: the word, in any case, alone or before a space. -/
def isQuit (line : Text) : Bool :=
  Text.sameName (line.take 4) "QUIT" &&
    match line.drop 4 with
    | [] => true
    | c :: _ => c == ' '

end ChatLink.Command
