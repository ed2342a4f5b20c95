/-
# Sending

A session sends at most one line per interval: first from its own queue and then, if it is
ready, from the queue all sessions share.  When it has nothing to send it may ask for its
wanted nick.  Registration goes past the queue and the interval, and at the end of a run the
session's own queue is sent at once.
-/
import ChatLink.Session.Handle
import ChatLink.Wire.Outlet

namespace ChatLink

/-- The queue that a line came from. -/
inductive Origin where
  | own
  | shared
deriving DecidableEq, Repr

/-- What starts the record of a line that is sent. -/
def Origin.tag : Origin → Text
  | own => "[Out.Local] "
  | shared => "[Out.Global] "

/-- The mode of a registration: the user is invisible. -/
def userMode : Nat := 8

namespace Seat

/-- Writes a line.  One that cannot be sent at all is dropped, which is no error; and so is one at
which the connection fails in the same way. -/
def write (s : Seat) (o : Outlet) (line : Text) (origin : Origin) :
    Seat × Outlet × Except SendError Unit :=
  let s := s.log (.ofParts .debug [origin.tag, Format.strip line])
  match o.send line with
  | (o, .error e) =>
    if e.kind = .invalidInput then
      (s.logAs .warn ["dropped unsendable line: ", e.message], o, .ok ())
    else (s, o, .error e)
  | (o, .ok ()) => (s, o, .ok ())

/-- Registers over a new connection.  The two lines go past the queue and the limiter. -/
def register (s : Seat) (o : Outlet) (now : Time) : Seat × Outlet × Except SendError Unit :=
  let s := s.setState .registering
  let s := s.resetNick.publishNick
  match s.write o (Command.nick s.actual) .own with
  | (s, o, .error e) => (s, o, .error e)
  | (s, o, .ok ()) =>
    match s.write o (Command.user s.desired userMode s.hub.config.realName) .own with
    | (s, o, .error e) => (s, o, .error e)
    | (s, o, .ok ()) =>
      (s.update fun session => { session with limiter := session.limiter.record now }, o, .ok ())

/-- Sends lines in order up to the first that leaves the network or cannot be written; the lines
that were not taken stay in the session's queue. -/
def flushLines (s : Seat) (o : Outlet) : List Text → Seat × Outlet
  | [] => (s.update fun session => { session with outbox := .empty }, o)
  | line :: rest =>
    match s.write o line .own with
    | (s, o, .error _) => (s.update fun session => { session with outbox := ⟨rest⟩ }, o)
    | (s, o, .ok ()) =>
      if Command.isQuit line then
        (s.update fun session => { session with outbox := ⟨rest⟩ }, o)
      else flushLines s o rest

/-- Sends the session's own queue at once, up to and including a line that leaves the network. -/
def flush (s : Seat) (o : Outlet) : Seat × Outlet := s.flushLines o s.session.outbox.lines

/-- Asks for the wanted nick, unless that was done a short time ago. -/
def askAgain (s : Seat) (now : Time) : Seat :=
  if s.session.ready && !s.session.nick.hasDesired &&
      s.hub.config.nickRetryDelay ≤ elapsed s.session.lastNickRetry now then
    (s.update fun session => { session with lastNickRetry := now }).push
      (Command.nick s.desired)
  else s

/-- The next line to send and the seat without it.  Shared lines are for a ready session whose
own queue is empty. -/
def takeLine? (s : Seat) : Option (Text × Origin × Seat) :=
  match s.session.outbox.pop? with
  | some (line, outbox) => some (line, .own, s.update fun session => { session with outbox })
  | none =>
    if s.session.ready then
      match s.hub.queue.pop? with
      | some (line, queue) => some (line, .shared, { s with hub := { s.hub with queue } })
      | none => none
    else none

/-- Sends at most one line.  The answer tells whether it was one that leaves the network. -/
def sendOne (s : Seat) (o : Outlet) (now : Time) : Seat × Outlet × Except SendError Bool :=
  if s.session.limiter.ready now then
    match s.takeLine? with
    | some (line, origin, s) =>
      let s := s.update fun session => { session with limiter := session.limiter.record now }
      match s.write o line origin with
      | (s, o, .ok ()) => (s, o, .ok (Command.isQuit line))
      | (s, o, .error e) => (s, o, .error e)
    | none => (s.askAgain now, o, .ok false)
  else (s, o, .ok false)

/-- Puts requests to enter channels into the session's queue. -/
def rejoinAll (s : Seat) : List (Time × Text) → Seat
  | [] => s
  | (_, channel) :: rest =>
    ((s.logAs .info ["rejoining ", channel]).push (Command.join channel)).rejoinAll rest

/-- Enters again the channels whose time has come. -/
def rejoinDue (s : Seat) (now : Time) : Seat :=
  let due := s.session.rejoins.filter fun r => r.1 ≤ now
  let later := s.session.rejoins.filter fun r => !(r.1 ≤ now : Bool)
  (s.update fun session => { session with rejoins := later }).rejoinAll due

end Seat
end ChatLink
