/-
# Rules that recognise lines

Each rule recognises lines of one shape and says what kind of line that is.  The rules stand in
a table, and the first that applies decides.  Their order matters where a shape is a special
case of another: an action is a client-to-client request, which is a message to a target; a
client-to-client reply is a notice.
-/
import ChatLink.Message.Kind
import ChatLink.Message.ReplyCode
import ChatLink.Message.Tokens

namespace ChatLink

/-- The mark at both ends of a client-to-client request or reply. -/
def ctcpMark : Char := '\x01'

/-- What starts an action inside a message. -/
def actionOpen : Text := ctcpMark :: "ACTION "

/-- The characters that start the name of a channel. -/
def channelSigils : List Char := ['#', '!', '&', '+']

/-- A target that is a channel rather than a nick. -/
def isChannelTarget : Text → Bool
  | c :: _ => channelSigils.contains c
  | [] => false

/-- A text between two client-to-client marks. -/
def isCtcp : Text → Bool
  | c :: d :: t => c == ctcpMark && (d :: t).getLast? == some ctcpMark
  | _ => false

/-- The shapes of lines that the bridge recognises. -/
inductive Rule where
  | numericReply
  | ping
  | serverError
  | action
  | ctcpRequest
  | message
  | ctcpReply
  | notice
  | invite
  | join
  | topicChange
  | nickChange
  | kick
  | part
  | modeChange
  | quit
  | kill
deriving DecidableEq, Repr

namespace Rule

/-- A kind that is decided by whether the first parameter is a channel. -/
def byTarget (t : Tokens) (channel user : Kind) : Option Kind :=
  match t.target? with
  | some target => some (if isChannelTarget target then channel else user)
  | none => none

/-- The given kind, if a condition holds. -/
def whenTrue (b : Bool) (k : Kind) : Option Kind := if b then some k else none

/-- The kind that a rule gives to a line, if the rule applies.  The own nick tells a mode of ours
from a mode of a channel. -/
def kind? (own : Text) (t : Tokens) : Rule → Option Kind
  | numericReply =>
    match t.sender, ReplyCode.ofToken? t.command with
    | some _, some code => whenTrue (0 < t.argCount) code.kind
    | _, _ => none
  | ping => whenTrue (t.sender.isNone && t.command == "PING" && 0 < t.argCount) .ping
  | serverError => whenTrue (t.sender.isNone && t.command == "ERROR") .serverError
  | action =>
    if t.isCommand "PRIVMSG" &&
        t.trailing.any (fun text => isCtcp text && actionOpen.isPrefixOf text) then
      byTarget t .channelAction .queryAction
    else none
  | ctcpRequest =>
    whenTrue (t.isCommand "PRIVMSG" && t.target?.isSome && t.trailing.any isCtcp)
      .ctcpRequest
  | message =>
    if t.isCommand "PRIVMSG" && t.trailing.isSome then
      byTarget t .channelMessage .queryMessage
    else none
  | ctcpReply =>
    whenTrue (t.isCommand "NOTICE" && t.target?.isSome && t.trailing.any isCtcp)
      .ctcpReply
  | notice =>
    if t.isCommand "NOTICE" && t.trailing.isSome then
      byTarget t .channelNotice .queryNotice
    else none
  | invite => whenTrue (t.isCommand "INVITE" && 2 ≤ t.argCount) .invite
  | join => whenTrue (t.isCommand "JOIN" && 1 ≤ t.argCount) .join
  | topicChange =>
    whenTrue (t.isCommand "TOPIC" && t.target?.isSome && t.trailing.isSome) .topicChange
  | nickChange => whenTrue (t.isCommand "NICK" && 1 ≤ t.argCount) .nickChange
  | kick => whenTrue (t.isCommand "KICK" && 2 ≤ t.params.length) .kick
  | part => whenTrue (t.isCommand "PART" && 1 ≤ t.argCount) .part
  | modeChange =>
    if t.isCommand "MODE" && 2 ≤ t.argCount then
      match t.target? with
      | some target => some (if target = own then .userModeChange else .channelModeChange)
      | none => none
    else none
  | quit => whenTrue (t.isCommand "QUIT") .quit
  | kill => whenTrue (t.isCommand "KILL" && t.target?.isSome) .kill

/-- The rules in the order in which they are tried. -/
def table : List Rule := [
  numericReply, ping, serverError, action, ctcpRequest, message, ctcpReply, notice, invite,
  join, topicChange, nickChange, kick, part, modeChange, quit, kill]

/-- The kind that the first rule of a list to apply gives to a line. -/
def classifyBy (rules : List Rule) (own : Text) (t : Tokens) : Kind :=
  (rules.findSome? (kind? own t)).getD .unknown

end Rule

/-- The kind of a line; every line has one. -/
def Kind.ofLine (own line : Text) : Kind :=
  match Tokens.ofText? line with
  | some t => Rule.classifyBy Rule.table own t
  | none => .unknown

end ChatLink
