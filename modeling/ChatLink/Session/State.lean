/-
# Sessions and what they share

A session is one connection to the network with a nick, a queue of its own and a limiter.  All
sessions of a run share the hub: the configuration, the queue of chat to be sent, the limits
learned, the roster, and what the run has told the game, recorded and reported so far.  A seat is
one session together with the hub; everything a session does is a function from seats to seats.
-/
import ChatLink.Config.Basic
import ChatLink.Event.Network
import ChatLink.Nick.Search
import ChatLink.Outbox.Limiter
import ChatLink.Outbox.Limits
import ChatLink.Outbox.Queue
import ChatLink.Roster

namespace ChatLink

/-- What all sessions of a run share. -/
structure Hub where
  config : Config
  /-- Chat on its way to the network; any ready session may send it. -/
  queue : Queue
  limits : Limits
  roster : Roster
  /-- What the game was told, the oldest event first. -/
  delivered : List NetworkEvent
  /-- What was recorded, the oldest record first. -/
  journal : List Record
  /-- The states that sessions reported to the roster, the oldest report first. -/
  reports : List (Nat × SessionState)
deriving DecidableEq, Repr

/-- Why a connection ended. -/
inductive Exit where
  /-- Something failed; connect again after a while. -/
  | reconnect
  /-- The network will not have us. -/
  | fatal
  /-- We left, or the bridge is stopping. -/
  | shutdown
deriving DecidableEq, Repr

/-- One connection to the network. -/
structure Session where
  /-- The place in the roster. -/
  index : Nat
  nick : NickSearch
  /-- Lines that only this session sends. -/
  outbox : Queue
  limiter : Limiter
  /-- Registration is complete. -/
  ready : Bool
  /-- When the wanted nick was last asked for, or the session last became ready. -/
  lastNickRetry : Time
  /-- Channels to enter again, each with the moment from which to do so. -/
  rejoins : List (Time × Text)
deriving DecidableEq, Repr

namespace Session

/-- A session that is not connected yet. -/
def fresh (config : Config) (index : Nat) (now : Time) : Session where
  index
  nick := .ofNick (config.sessionNick index)
  outbox := .empty
  limiter := .fresh config.sendDelay
  ready := false
  lastNickRetry := now
  rejoins := []

/-- Puts a line into the session's own queue. -/
def push (s : Session) (line : Text) : Session := { s with outbox := s.outbox.push line }

/-- The session's connection is gone. -/
def disconnect (s : Session) : Session := { s with ready := false, rejoins := [] }

/-- A nick that is the one in use. -/
def isOwn (s : Session) (nick : Text) : Bool := Text.sameName nick s.nick.actual

end Session

namespace Hub

/-- A run that has not started. -/
def fresh (config : Config) : Hub where
  config
  queue := .empty
  limits := .initial
  roster := .ofNicks config.sessionNicks
  delivered := []
  journal := []
  reports := []

/-- Adds a record to the journal. -/
def log (h : Hub) (r : Record) : Hub := { h with journal := h.journal ++ [r] }

/-- Tells the game of an event. -/
def deliver (h : Hub) (e : NetworkEvent) : Hub := { h with delivered := h.delivered ++ [e] }

/-- A session reports its state. -/
def setState (h : Hub) (i : Nat) (state : SessionState) : Hub :=
  { h with
    roster := h.roster.setState i state
    journal := h.journal ++ (h.roster.electionRecord? i state).toList
    reports := h.reports ++ [(i, state)] }

/-- Notes the nick of a session. -/
def setNick (h : Hub) (i : Nat) (nick : Text) : Hub :=
  { h with roster := h.roster.setNick i nick }

end Hub

/-- A session with all it can see and change. -/
structure Seat where
  session : Session
  hub : Hub
deriving DecidableEq, Repr

namespace Seat

/-- The nick in use or asked for. -/
def actual (s : Seat) : Text := s.session.nick.actual

/-- The nick that is wanted. -/
def desired (s : Seat) : Text := s.session.nick.desired

/-- Changes the session only. -/
def update (s : Seat) (f : Session → Session) : Seat := { s with session := f s.session }

/-- Puts a line into the session's own queue. -/
def push (s : Seat) (line : Text) : Seat := s.update (·.push line)

/-- Adds a record to the journal. -/
def log (s : Seat) (r : Record) : Seat := { s with hub := s.hub.log r }

/-- Adds a record that starts with the nick in use. -/
def logAs (s : Seat) (level : Level) (parts : List Text) : Seat :=
  s.log (.tagged level s.actual parts)

/-- Tells the game of an event. -/
def deliver (s : Seat) (e : NetworkEvent) : Seat := { s with hub := s.hub.deliver e }

/-- Reports the session's state to the roster. -/
def setState (s : Seat) (state : SessionState) : Seat :=
  { s with hub := s.hub.setState s.session.index state }

/-- Notes the nick in use in the roster. -/
def publishNick (s : Seat) : Seat :=
  { s with hub := s.hub.setNick s.session.index s.actual }

/-- The network knows the session by this nick. -/
def confirmNick (s : Seat) (nick : Text) : Seat :=
  (s.update fun session => { session with nick := session.nick.confirm nick }).publishNick

/-- The session passes events to the game. -/
def isResponsible (s : Seat) : Bool := s.hub.roster.isResponsible s.session.index

/-- What someone with this nick does is to be passed to the game: the session is the one to do
so, and the nick is none of ours. -/
def announces (s : Seat) (nick : Text) : Bool :=
  s.isResponsible && !s.hub.roster.isOurs nick

/-- The session's connection is gone. -/
def disconnect (s : Seat) : Seat := s.update Session.disconnect

/-- Goes back to the wanted nick, cut to the longest one learned. -/
def resetNick (s : Seat) : Seat :=
  s.update fun session => { session with nick := session.nick.reset s.hub.limits.maxNick }

end Seat
end ChatLink
