/-
# What users do on the network

Messages, actions, arrivals and departures.  The responsible session passes them to the game
unless they come from one of our own nicks; what concerns the session's own nick it acts on.
-/
import ChatLink.Format.Network
import ChatLink.Session.Replies

namespace ChatLink.Seat

/-- The part of what was said that is passed on: all of it, or only what follows a hash sign. -/
def forwarded? (s : Seat) (isAction : Bool) (said : Text) : Option Text :=
  if s.hub.config.forwardFromNetwork then some said
  else if isAction then none
  else
    match said with
    | '#' :: rest => some rest
    | _ => none

/-- Something was said or done in a channel. -/
def passOn (s : Seat) (m : Message) (isAction : Bool) : Seat :=
  match m.nick, m.channel with
  | some nick, some channel =>
    if s.announces nick then
      let said := if isAction then m.actionText? else m.text
      match said.bind (s.forwarded? isAction) with
      | some raw =>
        let text := Format.fromNetwork s.hub.config.formatting.fromNetwork raw
        if text = [] then s
        else s.deliver (if isAction then .action channel nick text else .chat channel nick text)
      | none => s
    else s
  | _, _ => s

/-- Someone entered a channel. -/
def userJoined (s : Seat) (m : Message) : Seat :=
  match m.nick, m.channel with
  | some nick, some channel =>
    if s.session.isOwn nick then s.log (.tagged .info nick ["joined ", channel])
    else if s.hub.config.announceNetworkJoins && s.announces nick then
      s.deliver (.joined channel nick)
    else s
  | _, _ => s

/-- Someone left a channel. -/
def userParted (s : Seat) (m : Message) : Seat :=
  match m.nick, m.channel with
  | some nick, some channel =>
    if !s.session.isOwn nick && s.hub.config.announceNetworkJoins && s.announces nick then
      s.deliver (.left (some channel) nick m.text)
    else s
  | _, _ => s

/-- The holder of the wanted nick is gone, so ask for it. -/
def reclaim (s : Seat) (now : Time) (nick : Text) : Seat :=
  if s.session.ready && !s.session.nick.hasDesired && Text.sameName nick s.desired then
    let s := s.logAs .info [nick, " quit, reclaiming it"]
    let s := s.update fun session => { session with lastNickRetry := now }
    s.push (Command.nick s.desired)
  else s

/-- Someone left the network. -/
def userQuit (s : Seat) (now : Time) (m : Message) : Seat :=
  match m.nick with
  | some nick =>
    let s := s.reclaim now nick
    if s.hub.config.announceNetworkJoins && s.announces nick then
      s.deliver (.left none nick m.text)
    else s
  | none => s

/-- Someone was made to leave a channel.  If it was us, enter it again after a while. -/
def userKicked (s : Seat) (now : Time) (m : Message) : Seat :=
  match m.channel, m.word? 3 with
  | some channel, some kicked =>
    let kicker := m.nick.getD m.sender
    if s.session.isOwn kicked then
      let delay := s.hub.config.reconnectDelay
      let s := s.logAs .warn ["kicked from ", channel, " by ", kicker,
        "; rejoining in ", Decimal.digits (delay / 1000), ['s']]
      s.update fun session =>
        { session with rejoins := session.rejoins ++ [(now + delay, channel)] }
    else if s.announces kicked then
      s.deliver (.kicked channel kicked kicker m.text)
    else s
  | _, _ => s

/-- The nick that someone changes to. -/
def newNick (m : Message) : Text :=
  (m.text <|> (m.word? 2).map (Text.dropLead ':')).getD []

/-- Someone changed nicks. -/
def userRenamed (s : Seat) (m : Message) : Seat :=
  match m.nick with
  | some old =>
    let new := newNick m
    if new = [] then s
    else if s.session.isOwn old then
      let s := s.log (.tagged .info old ["now known as ", new])
      (s.confirmNick new).identify
    else if s.announces old then s.deliver (.nickChanged old new)
    else s
  | none => s

end ChatLink.Seat
