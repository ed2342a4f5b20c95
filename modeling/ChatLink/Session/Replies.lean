/-
# Numeric replies

What a session does when a server answers by a number: it becomes ready, learns limits, looks
for another nick, or gives up.
-/
import ChatLink.Command
import ChatLink.Message.Basic
import ChatLink.Session.State
import ChatLink.Text.Blank

namespace ChatLink.Seat

/-- Tells the nick service who we are, if there is one. -/
def identify (s : Seat) : Seat :=
  match s.hub.config.nickService with
  | some service => s.push (Command.message service.service service.message)
  | none => s

/-- Puts a request to enter each channel into the session's queue. -/
def joinAll (s : Seat) : List Text → Seat
  | [] => s
  | channel :: channels => (s.push (Command.join channel)).joinAll channels

/-- Registration is complete: the session is ready, enters its channels and asks under which
host others see it. -/
def registered (s : Seat) (now : Time) (m : Message) : Seat :=
  let nick := (m.word? 2).getD s.actual
  let s := s.confirmNick nick
  let s := s.log (.tagged .info nick ["registered with ", s.hub.config.host])
  let s := s.identify.joinAll s.hub.config.channels
  let s := s.update fun session => { session with ready := true, lastNickRetry := now }
  (s.setState .ready).push (Command.userHost nick)

/-- What starts the token that names the longest nick. -/
def nickLenKey : Text := "NICKLEN="

/-- The number that the first such token of a line gives. -/
def advertisedNickLen? (line : Text) : Option Nat :=
  match (Text.splitOn ' ' line).findSome? fun token => nickLenKey.isPrefixOf? token with
  | some value => Decimal.read? maxWord value
  | none => none

/-- The network lists its features; the longest nick is learned from them. -/
def learnFeatures (s : Seat) (m : Message) : Seat :=
  match advertisedNickLen? m.line with
  | some len =>
    let s := { s with hub := { s.hub with limits := s.hub.limits.setMaxNick len } }
    s.log (.ofParts .debug ["network nick length is ", Decimal.digits len])
  | none => s

/-- The user and host in one answer, if it is about the nick in use.  A star after the nick and
plus or minus signs before the user are no part of them. -/
def ownUserHost? (actual reply : Text) : Option Text :=
  match Text.cut? '=' reply with
  | some (nick, userHost) =>
    if Text.sameName (Text.dropEndWhile (· == '*') nick) actual then
      some (userHost.dropWhile fun c => c == '+' || c == '-')
    else none
  | none => none

/-- Learns user and host from each answer that is about the nick in use. -/
def learnUserHosts (s : Seat) : List Text → Seat
  | [] => s
  | reply :: replies =>
    match ownUserHost? s.actual reply with
    | some userHost =>
      let limits := s.hub.limits.setUserHost userHost.byteLength
      let s := { s with hub := { s.hub with limits } }
      (s.logAs .debug ["host mask is ", userHost]).learnUserHosts replies
    | none => s.learnUserHosts replies

/-- The network tells users and hosts. -/
def hearUserHosts (s : Seat) (m : Message) : Seat :=
  match m.text with
  | some text => s.learnUserHosts (Text.words text)
  | none => s

/-- A nick is taken: keep the nick in use, or ask for another. -/
def nickTaken (s : Seat) (m : Message) : Seat :=
  let current := (m.word? 2).getD ['*']
  let rejected := (m.word? 3).getD []
  match s.session.nick.afterRefusal current rejected s.hub.limits.maxNick with
  | (_, .keep) => s.logAs .debug [rejected, " is still taken"]
  | (nick, .ask next) =>
    let s := s.update fun session => { session with nick }
    let s := s.log (.tagged .info s.desired
      ["nick ", rejected, " is taken, trying ", next])
    s.publishNick.push (Command.nick next)

/-- The network refused a nick of more than the least limit; perhaps it is too long. -/
def longNickRefused (s : Seat) (rejected : Text) : Seat :=
  let limits := s.hub.limits.setMaxNick (rejected.byteLength - 1)
  let s := { s with hub := { s.hub with limits } }
  if s.session.ready then
    let s := s.update fun session => { session with nick := session.nick.fit limits.maxNick }
    s.logAs .warn ["nick ", rejected, " refused; will reclaim ", s.desired,
      " instead"]
  else
    let s := s.update fun session => { session with nick := session.nick.reset limits.maxNick }
    let s := s.log (.ofParts .warn
      ["nick ", rejected, " refused; trying ", s.actual])
    s.publishNick.push (Command.nick s.actual)

/-- The network refused a nick as malformed.  One that cannot be too long ends a session that is
not ready. -/
def nickRefused (s : Seat) (m : Message) : Seat × Option Exit :=
  let rejected := (m.word? 3).getD []
  if minMaxNick < rejected.byteLength then
    (s.longNickRefused rejected, none)
  else if s.session.ready then
    (s.logAs .warn ["network refuses nick ", rejected], none)
  else
    (s.log (.tagged .error s.desired ["network refuses nick ", rejected, ": ",
      m.text.getD [], "; session stopped"]), some .fatal)

/-- A channel that cannot be used ends the session. -/
def channelRefused (s : Seat) (code : ReplyCode) (m : Message) : Seat :=
  s.logAs .error ["cannot use channel ", (m.word? 3).getD ['?'], ": ",
    m.text.getD [], " (", code.toText, "); session stopped"]

/-- A numeric reply. -/
def hearReply (s : Seat) (now : Time) (code : ReplyCode) (m : Message) : Seat × Option Exit :=
  if code = .welcome then (s.registered now m, none)
  else if code = .features then (s.learnFeatures m, none)
  else if code = .userHost then (s.hearUserHosts m, none)
  else if code.isNickConflict then (s.nickTaken m, none)
  else if code = .erroneousNick then s.nickRefused m
  else if code.isFatalForChannel then (s.channelRefused code m, some .fatal)
  else (s, none)

end ChatLink.Seat
