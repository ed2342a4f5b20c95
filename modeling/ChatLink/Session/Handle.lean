/-
# Handling a line

A session reads one line at a time.  Handling a line writes nothing to the network: whatever is
to be sent goes through the session's own queue.
-/
import ChatLink.Session.Traffic

namespace ChatLink.Seat

/-- What a server is answered when it asks whether the connection is alive: its own token. -/
def pingToken (m : Message) : Text := (m.text <|> m.word? 1).getD []

/-- Someone with power over the network ends a connection.  It matters if it is ours. -/
def userKilled (s : Seat) (m : Message) : Seat × Option Exit :=
  match m.word? 2 with
  | some target =>
    if s.session.isOwn target then
      (s.logAs .warn ["killed by ", m.sender, ": ", m.text.getD []],
        some .reconnect)
    else (s, none)
  | none => (s, none)

/-- A line without a numeric code. -/
def hearMessage (s : Seat) (now : Time) (m : Message) : Seat × Option Exit :=
  match m.kind with
  | .ping => (s.push (Command.pong (pingToken m)), none)
  | .serverError => (s.logAs .warn ["server error: ", m.text.getD []], none)
  | .kill => s.userKilled m
  | .channelMessage => (s.passOn m false, none)
  | .channelAction => (s.passOn m true, none)
  | .join => (s.userJoined m, none)
  | .part => (s.userParted m, none)
  | .quit => (s.userQuit now m, none)
  | .kick => (s.userKicked now m, none)
  | .nickChange => (s.userRenamed m, none)
  | _ => (s, none)

/-- Acts on one line; the answer says whether the connection is to end, and why. -/
def hear (s : Seat) (now : Time) (line : Text) : Seat × Option Exit :=
  let s := s.log (.ofParts .debug ["[In] ", Format.strip line])
  let m := Message.ofLine s.actual line
  match m.replyCode with
  | some code => s.hearReply now code m
  | none => s.hearMessage now m

end ChatLink.Seat
