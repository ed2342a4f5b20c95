/-
# Kinds of inbound lines

What a line of the chat network is about.  The bridge acts on a few kinds only; the others are
told apart so that a reader of its records knows what went by.
-/
import ChatLink.Text.Basic

namespace ChatLink

/-- What an inbound line is about. -/
inductive Kind where
  /-- The server asks whether the connection is alive. -/
  | ping
  | info
  | login
  | motd
  | list
  | join
  | kick
  | part
  | invite
  | quit
  | kill
  | who
  | whoIs
  | whoWas
  | name
  | topic
  | banList
  | nickChange
  | topicChange
  | userMode
  | userModeChange
  | channelMode
  | channelModeChange
  | channelMessage
  | channelAction
  | channelNotice
  | queryMessage
  | queryAction
  | queryNotice
  | ctcpReply
  | ctcpRequest
  /-- The server reports an error of its own, mostly just before it closes the connection. -/
  | serverError
  /-- A numeric reply from 400 to 599. -/
  | errorReply
  /-- Nothing the bridge recognises. -/
  | unknown
deriving DecidableEq, Repr

namespace Kind

/-- Every kind with the name it has in a serialised message. -/
def names : List (Kind × String) := [
  (ping, "Ping"), (info, "Info"), (login, "Login"), (motd, "Motd"), (list, "List"),
  (join, "Join"), (kick, "Kick"), (part, "Part"), (invite, "Invite"), (quit, "Quit"),
  (kill, "Kill"), (who, "Who"), (whoIs, "WhoIs"), (whoWas, "WhoWas"), (name, "Name"),
  (topic, "Topic"), (banList, "BanList"), (nickChange, "NickChange"),
  (topicChange, "TopicChange"), (userMode, "UserMode"), (userModeChange, "UserModeChange"),
  (channelMode, "ChannelMode"), (channelModeChange, "ChannelModeChange"),
  (channelMessage, "ChannelMessage"), (channelAction, "ChannelAction"),
  (channelNotice, "ChannelNotice"), (queryMessage, "QueryMessage"),
  (queryAction, "QueryAction"), (queryNotice, "QueryNotice"), (ctcpReply, "CtcpReply"),
  (ctcpRequest, "CtcpRequest"), (serverError, "Error"), (errorReply, "ErrorMessage"),
  (unknown, "Unknown")]

/-- The name of a kind in a serialised message. -/
def toName (k : Kind) : String :=
  (names.lookup k).getD "Unknown"

/-- The kind that a name stands for. -/
def ofName? (s : String) : Option Kind :=
  (names.find? fun entry => entry.2 == s).map Prod.fst

theorem ofName?_toName (k : Kind) : ofName? k.toName = some k := by
  cases k <;> rfl

end Kind
end ChatLink
