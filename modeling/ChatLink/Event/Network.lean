/-
# Events from the network

What the responsible session tells the game, and the line of game chat for each event.
-/
import ChatLink.Text.Basic

namespace ChatLink

/-- Something that happened on the network.  Texts are in the game's format. -/
inductive NetworkEvent where
  | chat (channel nick text : Text)
  | action (channel nick text : Text)
  | joined (channel nick : Text)
  /-- Someone left a channel or, without one, the network. -/
  | left (channel : Option Text) (nick : Text) (reason : Option Text)
  | kicked (channel nick kicker : Text) (reason : Option Text)
  | nickChanged (old new : Text)
deriving DecidableEq, Repr

namespace NetworkEvent

/-- What starts every relayed line in the game. -/
def tag : Text := "&i(IRC) "

/-- A reason in parentheses; one that says nothing is left out. -/
def inParentheses : Option Text → Text
  | none => []
  | some [] => []
  | some reason => " (" ++ reason ++ ")"

/-- The line of game chat that tells of an event. -/
def toGameText : NetworkEvent → Text
  | chat _ nick text => tag ++ nick ++ "&f: " ++ text
  | action _ nick text => tag ++ "* " ++ nick ++ ' ' :: text
  | joined channel nick => tag ++ nick ++ " joined " ++ channel
  | left (some channel) nick _ => tag ++ nick ++ " left " ++ channel
  | left none nick reason => tag ++ nick ++ " left IRC" ++ inParentheses reason
  | kicked channel nick kicker reason =>
    tag ++ kicker ++ " kicked " ++ nick ++ " from " ++ channel ++
      inParentheses reason
  | nickChanged old new => tag ++ old ++ " is now known as " ++ new

end NetworkEvent

/-- Where events wait for the game.  Once the game has stopped listening they are dropped. -/
structure Inbox where
  events : List NetworkEvent
  /-- The game still listens. -/
  listening : Bool
deriving DecidableEq, Repr

namespace Inbox

/-- Nothing waits, and the game listens. -/
def fresh : Inbox := ⟨[], true⟩

/-- An event arrives. -/
def deliver (b : Inbox) (e : NetworkEvent) : Inbox :=
  if b.listening then { b with events := b.events ++ [e] } else b

/-- The game takes the oldest event. -/
def take (b : Inbox) : Option NetworkEvent × Inbox :=
  match b.events with
  | [] => (none, b)
  | e :: rest => (some e, { b with events := rest })

/-- The game stops listening; what waits is lost. -/
def close (_ : Inbox) : Inbox := ⟨[], false⟩

end Inbox
end ChatLink
