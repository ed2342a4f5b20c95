/-
# The roster

The state and the nick of every session, and which session is responsible for passing events
to the game.  A session that becomes ready takes that on if nobody has it; when the responsible
session is no longer ready, the first one that is takes over.
-/
import ChatLink.Journal

namespace ChatLink

/-- The life of a session's connection. -/
inductive SessionState where
  | disconnected
  | connecting
  | registering
  | ready
  /-- The session has ended for good. -/
  | stopped
deriving DecidableEq, Repr

namespace SessionState

/-- Every state with its name. -/
def names : List (SessionState × String) := [
  (disconnected, "Disconnected"), (connecting, "Connecting"), (registering, "Registering"),
  (ready, "Ready"), (stopped, "Stopped")]

/-- The name of a state. -/
def toName (s : SessionState) : String := (names.lookup s).getD ""

/-- The state with a name. -/
def ofName? (s : String) : Option SessionState :=
  (names.find? fun entry => entry.2 == s).map Prod.fst

end SessionState

/-- What the roster knows of one session. -/
structure Slot where
  /-- The nick in use or asked for. -/
  nick : Text
  state : SessionState
  /-- The session passes events to the game. -/
  responsible : Bool
deriving DecidableEq, Repr

/-- The sessions of a run in order. -/
structure Roster where
  slots : List Slot
deriving DecidableEq, Repr

namespace Roster

/-- Nobody is connected yet. -/
def ofNicks (nicks : List Text) : Roster := ⟨nicks.map fun nick => ⟨nick, .disconnected, false⟩⟩

/-- The responsible session, if there is one. -/
def responsible? (r : Roster) : Option Nat := r.slots.findIdx? Slot.responsible

/-- The first session that is ready. -/
def firstReady? (r : Roster) : Option Nat := r.slots.findIdx? fun s => s.state == .ready

/-- Changes one slot; there may be none at that index. -/
def modify (r : Roster) (i : Nat) (f : Slot → Slot) : Roster := ⟨r.slots.modify i f⟩

/-- Gives responsibility to a session, or takes it away. -/
def setResponsible (r : Roster) (i : Nat) (b : Bool) : Roster :=
  r.modify i fun s => { s with responsible := b }

/-- The session at an index is responsible. -/
def isResponsible (r : Roster) (i : Nat) : Bool := r.slots[i]?.any Slot.responsible

/-- The state of the session at an index. -/
def state? (r : Roster) (i : Nat) : Option SessionState := r.slots[i]?.map Slot.state

/-- The nick of the session at an index. -/
def nick? (r : Roster) (i : Nat) : Option Text := r.slots[i]?.map Slot.nick

/-- Notes the nick of a session. -/
def setNick (r : Roster) (i : Nat) (nick : Text) : Roster :=
  r.modify i fun s => { s with nick }

/-- A nick that one of the sessions has. -/
def isOurs (r : Roster) (nick : Text) : Bool :=
  r.slots.any fun s => Text.sameName s.nick nick

/-- Notes the state of a session and settles who is responsible. -/
def setState (r : Roster) (i : Nat) (state : SessionState) : Roster :=
  let noted := r.modify i fun s => { s with state }
  if state = .ready then
    if r.responsible?.isNone then noted.setResponsible i true else noted
  else if r.isResponsible i then
    let dropped := noted.setResponsible i false
    match dropped.firstReady? with
    | some next => dropped.setResponsible next true
    | none => dropped
  else
    noted

/-- What the journal says of a change of state that moves responsibility. -/
def electionRecord? (r : Roster) (i : Nat) (state : SessionState) : Option Record :=
  let after := r.setState i state
  if after.responsible? = r.responsible? then none
  else
    match after.responsible?.bind after.nick? with
    | some nick =>
      let what := if state = .ready then " is now the responsible session"
        else " took over as the responsible session"
      some (.ofParts .info [nick, what.toList])
    | none => some (.ofParts .warn ["All sessions disconnected; no active relay"])

end Roster
end ChatLink
