/-
# Several sessions on one hub

A run holds the hub and all its sessions.  One session at a time does something, and what it
does to the hub every other session sees; in between the game may put lines into the queue they
share.  A history lists all this in the order in which it happened; sessions that work side by
side give rise to every such order.
-/
import ChatLink.Session.Send

namespace ChatLink

/-- Something that one session does. -/
inductive Deed where
  /-- It registers over a new connection that answers like this. -/
  | register (wire : Wire)
  /-- It handles a line from the network. -/
  | hear (line : Text)
  /-- It sends a line, if one is due, over a connection that answers like this. -/
  | send (wire : Wire)
  /-- It sends its own queue over a connection that answers like this. -/
  | flush (wire : Wire)
  /-- It enters channels again whose time has come. -/
  | rejoin
  /-- It goes back to the nick it wants. -/
  | resetNick
  /-- It loses its connection. -/
  | disconnect
  /-- It reports its state. -/
  | report (state : SessionState)
deriving DecidableEq, Repr

/-- What comes of a deed outside the run. -/
structure Effect where
  /-- What was written to the network. -/
  written : Bytes
  /-- Why the connection is to end, if it is. -/
  exit : Option Exit
  /-- Whether a line that leaves the network was sent, or why sending failed; nothing for a deed
  that does not tell. -/
  sent : Option (Except SendError Bool)

/-- Nothing came of it. -/
def Effect.none : Effect := ⟨[], .none, .none⟩

/-- A session does something. -/
def Seat.perform (s : Seat) (now : Time) : Deed → Seat × Effect
  | .register wire =>
    match s.register ⟨[], wire⟩ now with
    | (s, o, result) => (s, ⟨o.sent, none, some (result.map fun () => false)⟩)
  | .hear line =>
    match s.hear now line with
    | (s, exit) => (s, { Effect.none with exit })
  | .send wire =>
    match s.sendOne ⟨[], wire⟩ now with
    | (s, o, result) => (s, ⟨o.sent, none, some result⟩)
  | .flush wire =>
    match s.flush ⟨[], wire⟩ with
    | (s, o) => (s, { Effect.none with written := o.sent })
  | .rejoin => (s.rejoinDue now, .none)
  | .resetNick => (s.resetNick, .none)
  | .disconnect => (s.disconnect, .none)
  | .report state => (s.setState state, .none)

/-- The sessions of a run and what they share. -/
structure Run where
  hub : Hub
  sessions : List Session
deriving DecidableEq, Repr

namespace Run

/-- Every session is new. -/
def fresh (config : Config) (now : Time) : Run :=
  ⟨.fresh config, (List.range config.sessionCount).map fun i => Session.fresh config i now⟩

/-- A session at its place on the hub. -/
def seat? (r : Run) (i : Nat) : Option Seat := r.sessions[i]?.map fun session => ⟨session, r.hub⟩

/-- Puts a session and the hub back. -/
def settle (r : Run) (i : Nat) (s : Seat) : Run := ⟨s.hub, r.sessions.set i s.session⟩

/-- One session does something. -/
def act (r : Run) (i : Nat) (now : Time) (d : Deed) : Run × Effect :=
  match r.seat? i with
  | some s =>
    match s.perform now d with
    | (s, effect) => (r.settle i s, effect)
  | none => (r, .none)

/-- Lines from the game are put into the shared queue, next to each other. -/
def enqueue (r : Run) (lines : List Text) : Run :=
  { r with hub := { r.hub with queue := r.hub.queue.pushAll lines } }

/-- One entry of a history. -/
inductive Entry where
  /-- A session does something at a time. -/
  | deed (i : Nat) (now : Time) (d : Deed)
  /-- Lines come from the game. -/
  | enqueue (lines : List Text)
deriving DecidableEq, Repr

/-- The run after one more entry. -/
def advance (r : Run) : Entry → Run
  | .deed i now d => (r.act i now d).1
  | .enqueue lines => r.enqueue lines

/-- The run after a history. -/
def after (r : Run) (history : List Entry) : Run := history.foldl advance r

@[simp] theorem after_nil (r : Run) : r.after [] = r := rfl

@[simp] theorem after_cons (r : Run) (e : Entry) (history : List Entry) :
    r.after (e :: history) = (r.advance e).after history := rfl

theorem after_append (r : Run) (early late : List Entry) :
    r.after (early ++ late) = (r.after early).after late :=
  List.foldl_append

end Run
end ChatLink
