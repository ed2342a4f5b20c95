/-
# Events from the game

What the game tells the network: what players say, and what becomes of them.
-/
import ChatLink.Format.Toggles
import ChatLink.Text.Blank

namespace ChatLink

/-- How something is said in the game. -/
inductive ChatKind where
  /-- To everyone. -/
  | everyone
  /-- As something the player does. -/
  | me
  /-- In the name of the server. -/
  | say
deriving DecidableEq, Repr

/-- What became of a player. -/
inductive GameEvent where
  | connected (player : Text)
  | disconnected (player : Text)
  | kicked (player actor : Text) (reason : Option Text)
  | banned (player actor : Text) (reason : Option Text)
  | unbanned (player actor : Text)
  | rankChanged (player actor oldRank newRank : Text)
deriving DecidableEq, Repr

namespace GameEvent

/-- A player came or went. -/
def isJoin : GameEvent → Bool
  | connected _ => true
  | disconnected _ => true
  | _ => false

/-- What follows a name in an announcement: the colour of announcements again. -/
def color : Text := "&S"

/-- How a sentence with a reason ends; a blank reason is none. -/
def reasonEnd : Option Text → Text
  | none => ['.']
  | some reason => if Text.isBlank reason then ['.'] else ": " ++ reason

/-- The sentence that announces an event. -/
def sentence : GameEvent → Text
  | connected player => "Player " ++ player ++ color ++ " connected."
  | disconnected player => "Player " ++ player ++ color ++ " left the server."
  | kicked player actor reason =>
    "Player " ++ player ++ color ++ " was kicked by " ++ actor ++ color ++
      reasonEnd reason
  | banned player actor reason =>
    "Player " ++ player ++ color ++ " was banned by " ++ actor ++ color ++
      reasonEnd reason
  | unbanned player actor =>
    "Player " ++ player ++ color ++ " was unbanned by " ++ actor ++ color ++ ['.']
  | rankChanged player actor oldRank newRank =>
    actor ++ color ++ " changed the rank of " ++ player ++ color ++ " from " ++
      oldRank ++ color ++ " to " ++ newRank ++ color ++ ['.']

/-- The announcement of an event in the game's format, in bold. -/
def toGameText (e : GameEvent) : Text := Format.boldMark :: color ++ e.sentence

end GameEvent
end ChatLink
