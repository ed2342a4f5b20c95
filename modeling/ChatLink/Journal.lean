/-
# The journal

What the program records of its own doings, each record with a level.
-/
import ChatLink.Text.Basic

namespace ChatLink

/-- How much a record matters, or how much of the journal is kept. -/
inductive Level where
  | off
  | error
  | warn
  | info
  | debug
  | trace
deriving DecidableEq, Repr

namespace Level

/-- Every level with its name. -/
def names : List (Level × String) := [
  (off, "OFF"), (error, "ERROR"), (warn, "WARN"), (info, "INFO"), (debug, "DEBUG"),
  (trace, "TRACE")]

/-- The name of a level. -/
def toText (l : Level) : Text := ((names.lookup l).getD "").toList

/-- The level with a name, in any case. -/
def ofText? (t : Text) : Option Level :=
  (names.find? fun entry => Text.sameName entry.2.toList t).map Prod.fst

/-- How far down a level stands: what matters most comes first. -/
def rank : Level → Nat
  | off => 0
  | error => 1
  | warn => 2
  | info => 3
  | debug => 4
  | trace => 5

/-- A journal kept at this level shows a record of that level. -/
def shows (kept level : Level) : Bool := level.rank ≤ kept.rank

end Level

/-- One record of the journal. -/
structure Record where
  level : Level
  text : Text
deriving DecidableEq, Repr

namespace Record

/-- A record from its parts. -/
def ofParts (level : Level) (parts : List Text) : Record := ⟨level, parts.flatten⟩

/-- A record of a session, which its nick starts. -/
def tagged (level : Level) (nick : Text) (parts : List Text) : Record :=
  ⟨level, '[' :: nick ++ "] " ++ parts.flatten⟩

/-- The line that shows a record. -/
def toLine (r : Record) : Text := r.level.toText ++ ' ' :: r.text

end Record
end ChatLink
