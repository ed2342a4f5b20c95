/-
# Inbound messages

An inbound line with everything the bridge reads from it: its kind, its numeric code, who sent
it, which channel it concerns and its trailing text.  The channel stands at a fixed word of the
line, which depends on the kind.
-/
import ChatLink.Message.Rule

namespace ChatLink

/-- One inbound line as the bridge understands it. -/
structure Message where
  /-- What the line is about. -/
  kind : Kind
  /-- The numeric code that stands in place of a command. -/
  replyCode : Option ReplyCode
  /-- The whole sender, without its colon; empty if the line has none. -/
  sender : Text
  /-- The sender's nick: what stands before the first exclamation mark. -/
  nick : Option Text
  /-- The sender's user name: what stands between that mark and the first at sign. -/
  ident : Option Text
  /-- The sender's host: what follows the first at sign. -/
  host : Option Text
  /-- The channel the line concerns. -/
  channel : Option Text
  /-- The trailing text. -/
  text : Option Text
  /-- The line itself. -/
  line : Text
deriving DecidableEq, Repr

/-- The user name of a sender.  There is none if the first at sign stands before the first
exclamation mark. -/
def identOf (sender : Text) : Option Text :=
  match Text.cut? '!' sender with
  | some (nick, rest) =>
    if nick.contains '@' then none else (Text.cut? '@' rest).map Prod.fst
  | none => none

/-- The number of the word that names the channel, counting the sender as word zero. -/
def Kind.channelPosition? : Kind → Option Nat
  | .join | .kick | .part | .topicChange | .channelModeChange | .channelMessage
  | .channelAction | .channelNotice => some 2
  | .who | .topic | .invite | .banList | .channelMode => some 3
  | .name => some 4
  | _ => none

/-- A word of a line; words are what stands between single spaces, so some may be empty. -/
def wordAt? (line : Text) (i : Nat) : Option Text := (Text.splitOn ' ' line)[i]?

/-- The channel that a line of the given kind concerns. -/
def channelOf (kind : Kind) (line : Text) : Option Text :=
  match kind.channelPosition? with
  | none => none
  | some i =>
    match wordAt? line i with
    | none => none
    | some word =>
      let name := Text.dropLead ':' word
      if name = [] then none else some name

namespace Message

/-- Reads a line.  Nothing is refused: a line of no known shape gives a message of unknown
kind. -/
def ofLine (own line : Text) : Message :=
  let tokens := Tokens.ofText? line
  let kind := Kind.ofLine own line
  let sender := (tokens.bind Tokens.sender).getD []
  { kind
    replyCode := tokens.bind fun t => ReplyCode.ofToken? t.command
    sender
    nick := (Text.cut? '!' sender).map Prod.fst
    ident := identOf sender
    host := (Text.cut? '@' sender).map Prod.snd
    channel := channelOf kind line
    text := tokens.bind Tokens.trailing
    line }

/-- A word of the message's line. -/
def word? (m : Message) (i : Nat) : Option Text := wordAt? m.line i

/-- The text of an action without what wraps it; a message that is no action has none. -/
def actionText? (m : Message) : Option Text :=
  match m.text with
  | none => none
  | some text =>
    match (ctcpMark :: "ACTION").isPrefixOf? text with
    | none => none
    | some rest =>
      let inner := if rest.getLast? = some ctcpMark then rest.dropLast else rest
      some (Text.dropLead ' ' inner)

end Message
end ChatLink
