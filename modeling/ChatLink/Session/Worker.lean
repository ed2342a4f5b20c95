/-
# The life of a session

A worker keeps a session connected: it connects, registers, relays, and after a failure waits
and starts over, until the network refuses it for good or the bridge stops.  It moves in steps.
What a step does depends on what the worker is about to do and on what comes from outside: the
outcome of connecting, what a read gives, a failure of the game's side, or the end of a wait.
-/
import ChatLink.Session.Send
import ChatLink.Wire.Inlet

namespace ChatLink

/-- What a worker is about to do.  A connection that it has is given by how it answers from now on. -/
inductive Activity where
  /-- To begin a connection. -/
  | starting
  /-- To learn whether a connection was made. -/
  | connecting
  /-- To send a line, if there is one to be sent. -/
  | sending (wire : Wire)
  /-- To read a line, if one has arrived. -/
  | receiving (wire : Wire)
  /-- To wait before the next connection. -/
  | pausing
  /-- Nothing any more. -/
  | stopped
deriving DecidableEq, Repr

/-- What comes to a worker from outside. -/
inductive Stimulus where
  /-- Nothing: the worker goes on by itself. -/
  | proceed
  /-- A connection was made. -/
  | connected (wire : Wire)
  /-- No connection was made. -/
  | refused (why : Text)
  /-- A read gave a line, nothing yet, or an error. -/
  | heard (result : Except ReadError (Option Text))
  /-- A read gave a line, and the game fails at any event it is told of. -/
  | heardFailing (line why : Text)
  /-- The wait is over. -/
  | awake

/-- A session and what it is about to do. -/
structure Worker where
  session : Session
  activity : Activity
deriving DecidableEq, Repr

/-- What a step of a worker leaves. -/
structure Step where
  seat : Seat
  activity : Activity
  /-- What the step wrote to the network. -/
  written : Bytes
deriving DecidableEq, Repr

/-- A step that wrote something before what it did last. -/
def Step.after (s : Step) (written : Bytes) : Step := { s with written := written ++ s.written }

namespace Seat

/-- The session has ended for good. -/
def stop (s : Seat) : Step :=
  ⟨(s.setState .stopped).logAs .info ["session stopped"], .stopped, []⟩

/-- A connection is over. -/
def conclude (s : Seat) : Exit → Step
  | .reconnect => ⟨s.disconnect.setState .disconnected, .pausing, []⟩
  | .fatal => s.disconnect.stop
  | .shutdown => s.disconnect.stop

/-- A connection failed. -/
def lose (s : Seat) (why : Text) : Step :=
  (s.logAs .warn ["connection lost: ", why]).conclude .reconnect

/-- Begins a connection, unless the bridge is stopping. -/
def begin (s : Seat) (stopping : Bool) : Step :=
  if stopping then s.stop
  else
    let s := s.setState .connecting
    let c := s.hub.config
    ⟨s.log (.tagged .info s.desired
      ["connecting to ", c.host, [':'], Decimal.digits c.port]), .connecting, []⟩

/-- A connection was made: register, unless the bridge is stopping. -/
def connect (s : Seat) (stopping : Bool) (wire : Wire) (now : Time) : Step :=
  if stopping then s.conclude .shutdown
  else
    match s.register ⟨[], wire⟩ now with
    | (s, o, .ok ()) => ⟨s, .sending o.wire, o.sent⟩
    | (s, o, .error e) => (s.lose e.message).after o.sent

/-- Sends what is due.  When the bridge is stopping the session's own queue is all that is sent
any more. -/
def send (s : Seat) (stopping : Bool) (wire : Wire) (now : Time) : Step :=
  if stopping then
    match s.flush ⟨[], wire⟩ with
    | (s, o) => (s.conclude .shutdown).after o.sent
  else
    match (s.rejoinDue now).sendOne ⟨[], wire⟩ now with
    | (s, o, .error e) => (s.lose e.message).after o.sent
    | (s, o, .ok true) => (s.conclude .shutdown).after o.sent
    | (s, o, .ok false) => ⟨s, .receiving o.wire, o.sent⟩

/-- Acts on what a read gave. -/
def receive (s : Seat) (wire : Wire) (now : Time) :
    Except ReadError (Option Text) → Step
  | .error e => s.lose e.message
  | .ok none => ⟨s, .sending wire, []⟩
  | .ok (some line) =>
    match s.hear now line with
    | (s, some exit) => s.conclude exit
    | (s, none) => ⟨s, .sending wire, []⟩

/-- The game failed; that costs the connection and nothing more. -/
def crash (s : Seat) (why : Text) : Step :=
  (s.logAs .error ["session crashed: ", why]).conclude .reconnect

/-- Acts on a line while the game fails at any event it is told of.  An event is the last thing
that comes of a line, so all else stays done; the event itself is lost. -/
def receiveFailing (s : Seat) (wire : Wire) (now : Time) (line why : Text) : Step :=
  let heard := (s.hear now line).1
  if heard.hub.delivered = s.hub.delivered then s.receive wire now (.ok (some line))
  else
    crash { heard with hub := { heard.hub with delivered := s.hub.delivered } } why

/-- The wait between two connections is over. -/
def wake (s : Seat) (stopping : Bool) : Step :=
  if stopping then s.stop
  else ⟨s.log (.tagged .info s.desired ["reconnecting"]), .starting, []⟩

/-- One step of a worker.  What does not fit what the worker is about to do changes nothing. -/
def step (s : Seat) (stopping : Bool) (now : Time) : Activity → Stimulus → Step
  | .starting, .proceed => s.begin stopping
  | .connecting, .connected wire => s.connect stopping wire now
  | .connecting, .refused why => s.lose why
  | .sending wire, .proceed => s.send stopping wire now
  | .receiving wire, .heard result => s.receive wire now result
  | .receiving wire, .heardFailing line why => s.receiveFailing wire now line why
  | .pausing, .awake => s.wake stopping
  | activity, _ => ⟨s, activity, []⟩

/-- All that is left to do once the bridge is stopping.  A connection that is being made is given
up. -/
def windDown (s : Seat) : Activity → Step
  | .starting => s.stop
  | .connecting => s.conclude .shutdown
  | .sending wire => s.send true wire 0
  | .receiving wire => s.send true wire 0
  | .pausing => s.stop
  | .stopped => ⟨s, .stopped, []⟩

end Seat

namespace Worker

/-- A worker that has not begun. -/
def fresh (config : Config) (index : Nat) (now : Time) : Worker :=
  ⟨.fresh config index now, .starting⟩

/-- The worker at its place on the hub. -/
def seat (w : Worker) (hub : Hub) : Seat := ⟨w.session, hub⟩

/-- The worker after a step. -/
def ofStep (s : Step) : Worker := ⟨s.seat.session, s.activity⟩

end Worker
end ChatLink
